import MeshMine.Share.CaptureDispositions

/-!
Whether an assignment that `validate_gateway_assignment` accepts leaves any work that `validate_capture_envelope`
accepts (`meshmine-handoff/src/lib.rs`).
-/

namespace MeshMine.Share

open MeshMine.Types Handoff

section

variable [P : Primitives]

/-- An envelope of the gateway under the assignment, with a genuine signature. -/
structure Linked (manifest : GatewayContextManifestV1) (assignment : GatewayAssignmentV1)
    (envelope : GatewayCaptureEnvelopeV1) : Prop where
  coreProtocolVersion : envelope.coreProtocolVersion = coreV2
  handoffVersion : envelope.handoffVersion = gatewayHandoffV1
  networkId : envelope.networkId = assignment.networkId
  contextManifestId : envelope.contextManifestId = objectId manifest
  assignmentId : envelope.assignmentId = objectId assignment
  sessionId : envelope.sessionId = assignment.sessionId
  gatewayPubkey : envelope.gatewayPubkey = assignment.gatewayPubkey
  coreHandoffPubkey : envelope.coreHandoffPubkey = assignment.coreHandoffPubkey
  ntime : envelope.ntime = assignment.ntime
  gatewaySequence : envelope.gatewaySequence ≠ 0
  signature : verifySignature envelope.gatewayPubkey envelope.gatewaySignature envelope.networkId envelope = .ok ()

/-- There is work that Core accepts in an envelope whatever else the envelope says. -/
def AdmitsWork (manifest : GatewayContextManifestV1) (assignment : GatewayAssignmentV1) : Prop :=
  ∃ extraNonce nonce, ∀ envelope, Linked manifest assignment envelope → envelope.extraNonce = extraNonce
    → envelope.nonce = nonce
    → validateCaptureEnvelope manifest assignment envelope envelope.gatewayReceivedMs = .ok envelope.gatewayReceivedMs

variable {manifest : GatewayContextManifestV1} {assignment : GatewayAssignmentV1}

theorem admitsWork_of_profile (h : validateGatewayAssignment manifest assignment = .ok ())
    (hprofile : assignment.extraNonceProfile = gatewayExtraNonceProfile)
    (hskew : assignment.observationPolicy = gatewayObservationDelegatedSignedTimeV1
      → 0 < assignment.maximumClockSkewMs)
    : AdmitsWork manifest assignment := by
  have hvalid := h
  unfold validateGatewayAssignment versionContext at h
  simp only [Except.bind_unit_eq_ok, Except.rejectIf_eq_ok, not_or, not_not, not_and] at h
  obtain ⟨hversion, ⟨_, hoperator, hgateway, hcore, hstride, hnonces, hrange, hpolicy, hmaximum, hzero⟩, -⟩ := h
  let extraNonce : ByteVec 24 :=
    (assignment.extraNoncePrefix.append assignment.extraNonce2StartBe).append (.zero 16)
  have hextra : assignment.acceptsExtraNonce extraNonce = true := by
    have hlength := assignment.extraNoncePrefix.2
    have hlength' := assignment.extraNonce2StartBe.2
    have hle := not_lt.mp hrange
    have hbytes : assignment.extraNonce2StartBe.toList ≤ assignment.extraNonce2EndBe.toList := hle
    have hbehind : assignment.extraNoncePrefix.toList.drop 8 = [] := List.drop_eq_nil_of_le (by omega)
    simp [extraNonce, GatewayAssignmentV1.acceptsExtraNonce, ByteVec.append, ByteVec.zero, hlength, hlength', hprofile,
      hle, hbytes, List.drop_append, hbehind]
  refine ⟨extraNonce, assignment.nonceStart, ?_⟩
  intro envelope hlinked hextraNonce hnonce
  have hsignature := hlinked.signature
  rw [hlinked.gatewayPubkey, hlinked.networkId] at hsignature
  unfold validateCaptureEnvelope versionContext
  rw [hvalid, Except.ok_bind, hlinked.coreProtocolVersion, hlinked.handoffVersion, hlinked.networkId,
    hlinked.gatewayPubkey, hlinked.coreHandoffPubkey, hlinked.contextManifestId, hlinked.assignmentId,
    hlinked.sessionId, hlinked.ntime, hextraNonce, hnonce, hextra, Except.rejectIf_of_not (by simp_all), Except.ok_bind,
    Except.rejectIf_of_not (by simp_all), Except.ok_bind, Except.rejectIf_of_not hlinked.gatewaySequence,
    Except.ok_bind, hsignature, Except.ok_bind]
  unfold observationTime
  split
  . rfl
  next hcore =>
    have hdelegated := hpolicy fun hreceipt => hcore ⟨hreceipt, hzero hreceipt⟩
    rw [if_pos ⟨hdelegated, hskew hdelegated, not_lt.mp hmaximum, by simp [UInt64.absDiff]⟩]

theorem profile_of_validateCaptureEnvelope {envelope : GatewayCaptureEnvelopeV1} {coreReceivedMs observedMs : UInt64}
    (h : validateCaptureEnvelope manifest assignment envelope coreReceivedMs = .ok observedMs)
    : assignment.extraNonceProfile = gatewayExtraNonceProfile
      ∧ (assignment.observationPolicy = gatewayObservationDelegatedSignedTimeV1
        → 0 < assignment.maximumClockSkewMs) := by
  unfold validateCaptureEnvelope at h
  simp only [Except.bind_unit_eq_ok, Except.rejectIf_eq_ok, not_or, not_not] at h
  obtain ⟨_, _, hlinked, _, _, htime⟩ := h
  obtain ⟨-, -, -, -, -, -, -, -, -, -, hextra, -⟩ := hlinked
  refine ⟨?_, ?_⟩
  . unfold GatewayAssignmentV1.acceptsExtraNonce at hextra
    simp only [Bool.and_eq_true, decide_eq_true_eq] at hextra
    exact hextra.1.1.1.1.1
  . intro hdelegated
    unfold observationTime at htime
    rw [if_neg (by simp [hdelegated, gatewayObservationCoreReceiptTime, gatewayObservationDelegatedSignedTimeV1])]
      at htime
    split at htime
    next hpositive => exact hpositive.2.1
    . contradiction

/-- An assignment that was accepted admits work exactly if its extra nonces follow the gateway's profile and a delegated
clock may differ from the one of Core at all. The gateway is taken to be able to sign whatever it finds. -/
theorem validateGatewayAssignment_admitsWork (h : validateGatewayAssignment manifest assignment = .ok ())
    (hsigned : ∀ extraNonce nonce, ∃ envelope, Linked manifest assignment envelope
      ∧ envelope.extraNonce = extraNonce ∧ envelope.nonce = nonce)
    : AdmitsWork manifest assignment
      ↔ assignment.extraNonceProfile = gatewayExtraNonceProfile
        ∧ (assignment.observationPolicy = gatewayObservationDelegatedSignedTimeV1
          → 0 < assignment.maximumClockSkewMs) := by
  constructor
  . rintro ⟨extraNonce, nonce, hadmitted⟩
    obtain ⟨envelope, hlinked, hextraNonce, hnonce⟩ := hsigned extraNonce nonce
    exact profile_of_validateCaptureEnvelope (hadmitted envelope hlinked hextraNonce hnonce)
  . rintro ⟨hprofile, hskew⟩
    exact admitsWork_of_profile h hprofile hskew

end

/-- The gateway's own clock counts, but may not differ from the one of Core. -/
def sampleDelegated : GatewayAssignmentV1 :=
  @signedAssignment Primitives.fold
    { unsignedAssignment with observationPolicy := gatewayObservationDelegatedSignedTimeV1 }

theorem sampleAssignments_valid
    : letI := Primitives.fold
      validateGatewayAssignment sampleManifest sampleDelegated = .ok ()
        ∧ validateGatewayAssignment sampleManifest sampleAssignment = .ok () := by
  decide +kernel

theorem sampleDelegated_admits_nothing
    : letI := Primitives.fold
      validateGatewayAssignment sampleManifest sampleDelegated = .ok ()
        ∧ ∀ envelope coreReceivedMs observedMs,
            validateCaptureEnvelope sampleManifest sampleDelegated envelope coreReceivedMs ≠ .ok observedMs := by
  refine ⟨sampleAssignments_valid.1, ?_⟩
  intro envelope coreReceivedMs observedMs h
  have hskew := (@profile_of_validateCaptureEnvelope .fold _ _ _ _ _ h).2 rfl
  exact absurd hskew (by decide)

theorem exists_linked_sample (assignment : GatewayAssignmentV1) (hnetwork : assignment.networkId = 2)
    (hgateway : assignment.gatewayPubkey = gatewayKey) (extraNonce : ByteVec 24) (nonce : UInt32)
    : letI := Primitives.fold
      ∃ envelope, Linked sampleManifest assignment envelope ∧ envelope.extraNonce = extraNonce
        ∧ envelope.nonce = nonce := by
  let _ := Primitives.fold
  let unsigned := { sampleEnvelope 1 10 with
    assignmentId := objectId assignment, sessionId := assignment.sessionId, ntime := assignment.ntime,
    coreHandoffPubkey := assignment.coreHandoffPubkey, extraNonce, nonce, gatewaySignature := [] }
  have hkey : Primitives.ed25519ValidKey gatewayKey = true := rfl
  have hlength : (Crypto.signObject gatewayKey 2 unsigned).length = 64 := ByteVec.length_toList _
  have hverify : Crypto.verifyMessage gatewayKey ed25519Suite (Crypto.signObject gatewayKey 2 unsigned)
      (Crypto.signatureMessage 2 unsigned).toList = .ok () := by
    unfold Crypto.verifyMessage
    rw [if_neg (by simp), if_neg (not_not.mpr hkey), dif_pos hlength]
    exact if_pos (decide_eq_true rfl)
  refine ⟨{ unsigned with gatewaySignature := Crypto.signObject gatewayKey 2 unsigned }, ?_, rfl, rfl⟩
  exact ⟨rfl, rfl, hnetwork.symm, rfl, rfl, rfl, hgateway.symm, rfl, rfl, show (1 : UInt64) ≠ 0 by decide,
    congrArg (Except.mapError fun _ => HandoffError.signature) hverify⟩

theorem validateGatewayAssignment_admitsWork_sample
    : letI := Primitives.fold
      AdmitsWork sampleManifest sampleAssignment ∧ ¬ AdmitsWork sampleManifest sampleDelegated := by
  let _ := Primitives.fold
  obtain ⟨hdelegated, hvalid⟩ := sampleAssignments_valid
  rw [validateGatewayAssignment_admitsWork hvalid (exists_linked_sample sampleAssignment rfl rfl),
    validateGatewayAssignment_admitsWork hdelegated (exists_linked_sample sampleDelegated rfl rfl)]
  exact ⟨⟨rfl, by decide⟩, fun h => absurd (h.2 rfl) (by decide)⟩

end MeshMine.Share
