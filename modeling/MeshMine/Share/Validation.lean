import MeshMine.Hns.Target
import MeshMine.Share.Receipts
import MeshMine.Types.Session

/-!
The validation of a share against the signed context of its gateway assignment
(`validate_gateway_share` of `meshmine-share/src/lib.rs`).
-/

namespace MeshMine.Share

open MeshMine.Types Crypto Handoff Hns
open Except (rejectIf)

abbrev ParentChainOracle := SessionParentCertificateV2 → Bool

structure CommonShareValidationContext where
  session : MaskSessionV2
  parentCertificate : SessionParentCertificateV2
  body : BlockBodyPackageV2
  descriptor : BodyErasureDescriptorV2
  bodyCertificate : BodyAvailabilityCertificateV2
  payoutBucket : PayoutBucketV2
  maskRoster : CommitteeRoster
  availabilityRoster : CommitteeRoster
  settlementRoster : CommitteeRoster
  observedMs : UInt64
  parentOracle : ParentChainOracle

structure GatewayShareValidationContext where
  assignment : GatewayAssignmentV1
  contextManifest : GatewayContextManifestV1
  captureEnvelope : GatewayCaptureEnvelopeV1
  session : MaskSessionV2
  parentCertificate : SessionParentCertificateV2
  body : BlockBodyPackageV2
  descriptor : BodyErasureDescriptorV2
  bodyCertificate : BodyAvailabilityCertificateV2
  payoutBucket : PayoutBucketV2
  maskRoster : CommitteeRoster
  availabilityRoster : CommitteeRoster
  settlementRoster : CommitteeRoster
  coreReceivedMs : UInt64
  parentOracle : ParentChainOracle

def GatewayShareValidationContext.common (context : GatewayShareValidationContext) (observedMs : UInt64)
    : CommonShareValidationContext where
  session := context.session
  parentCertificate := context.parentCertificate
  body := context.body
  descriptor := context.descriptor
  bodyCertificate := context.bodyCertificate
  payoutBucket := context.payoutBucket
  maskRoster := context.maskRoster
  availabilityRoster := context.availabilityRoster
  settlementRoster := context.settlementRoster
  observedMs
  parentOracle := context.parentOracle

/-- What the validation reads of an assignment; `signed` is the object under the operator's signature. -/
structure AssignmentView where
  protocolVersion : UInt16
  networkId : UInt8
  objectId : Hash256
  sessionId : Hash256
  bodyPackageId : Hash256
  bodyCertificateId : Hash256
  operatorPubkey : PublicKey
  payoutBucketId : Hash256
  ntime : UInt64
  edgeTarget : U256
  captureTarget : U256
  extraNonceAuthorized : Bool
  signed : GatewayAssignmentV1

def leftPadded (bytes : List UInt8) (h : bytes.length ≤ 32) : U256 :=
  ⟨List.replicate (32 - bytes.length) 0 ++ bytes, by
    rw [List.length_append, List.length_replicate]
    omega⟩

def compactTargetU256 (bits : UInt32) : Except ShareError U256 :=
  let target := compactToTarget bits
  if h : target ≤ 0 ∨ 256 < Bytes.bitLength target.natAbs then
    .error .invalidNetworkTarget
  else
    .ok (leftPadded (Bytes.toMinimalBE target.natAbs) (length_toMinimalBE_le (not_or.mp h).2))

variable [P : Primitives]

def AssignmentView.gateway (assignment : GatewayAssignmentV1) (extraNonce : ByteVec 24)
    : Except ShareError AssignmentView := do
  rejectIf (assignment.coreProtocolVersion ≠ coreV2
    ∨ assignment.handoffVersion ≠ gatewayHandoffV1
    ∨ assignment.gatewayPubkey = zeroHash
    ∨ assignment.coreHandoffPubkey = zeroHash
    ∨ assignment.gatewayPubkey = assignment.coreHandoffPubkey
    ∨ ¬ (assignment.observationPolicy = gatewayObservationCoreReceiptTime
      ∨ assignment.observationPolicy = gatewayObservationDelegatedSignedTimeV1)
    ∨ maxGatewayClockSkewMs < assignment.maximumClockSkewMs
    ∨ (assignment.observationPolicy = gatewayObservationCoreReceiptTime
      ∧ assignment.maximumClockSkewMs ≠ 0))
    (.linkage "gateway assignment version or handoff identities")
  return {
    protocolVersion := assignment.coreProtocolVersion
    networkId := assignment.networkId
    objectId := Types.objectId assignment
    sessionId := assignment.sessionId
    bodyPackageId := assignment.bodyPackageId
    bodyCertificateId := assignment.bodyCertificateId
    operatorPubkey := assignment.operatorPubkey
    payoutBucketId := assignment.payoutBucketId
    ntime := assignment.ntime
    edgeTarget := assignment.edgeTarget
    captureTarget := assignment.captureTarget
    extraNonceAuthorized := assignment.acceptsExtraNonce extraNonce
    signed := assignment }

def AssignmentView.verifySignature (assignment : AssignmentView) : Except ShareError Unit :=
  (verifyObject assignment.operatorPubkey ed25519Suite assignment.signed.operatorSignature
    assignment.networkId assignment.signed).mapError .operatorSignature

-- The validation of `validate_share_with_assignment` in the order of the source, in four parts.
namespace CommonShareValidationContext

variable (context : CommonShareValidationContext)

def checkLinkage (share : ShareV2) (assignment : AssignmentView) : Except ShareError Unit := do
  let session := context.session
  let body := context.body
  let certificate := context.bodyCertificate
  let parent := context.parentCertificate
  rejectIf (share.protocolVersion ≠ assignment.protocolVersion
    ∨ share.protocolVersion ≠ session.protocolVersion
    ∨ share.protocolVersion ≠ body.protocolVersion
    ∨ share.networkId ≠ assignment.networkId
    ∨ share.networkId ≠ session.networkId
    ∨ share.networkId ≠ body.networkId) (.linkage "protocol version or network")
  rejectIf (context.observedMs < session.assignmentStartMs
    ∨ session.submissionEndMs < context.observedMs
    ∨ session.assignmentEndMs < session.assignmentStartMs
    ∨ session.submissionEndMs < session.assignmentEndMs
    ∨ session.timedOpenAfterMs < session.submissionEndMs) .sessionNotOpen
  share.validateParents.mapError fun _ => .linkage "DAG parent syntax"
  rejectIf (assignment.objectId ≠ share.assignmentId) (.linkage "share assignment ID")
  rejectIf (objectId session ≠ share.sessionId ∨ assignment.sessionId ≠ share.sessionId)
    (.linkage "share session ID")
  rejectIf (objectId body ≠ share.bodyPackageId ∨ assignment.bodyPackageId ≠ share.bodyPackageId)
    (.linkage "share body package ID")
  rejectIf (objectId context.descriptor ≠ certificate.descriptorId
    ∨ context.descriptor.bodyPackageId ≠ objectId body) (.linkage "availability descriptor")
  rejectIf (objectId certificate ≠ assignment.bodyCertificateId) (.linkage "body certificate ID")
  rejectIf (objectId parent ≠ session.parentCertificateId
    ∨ parent.parentHash ≠ session.parentHash
    ∨ parent.parentHash ≠ body.templateCore.hnsParentHash
    ∨ parent.parentHeight ≠ body.templateCore.hnsParentHeight) (.linkage "certified HNS parent")
  rejectIf (certificate.parentHash ≠ session.parentHash
    ∨ certificate.parentHeight ≠ parent.parentHeight
    ∨ certificate.consensusValidationResultHash ≠ body.consensusValidationResultHash)
    (.linkage "body certificate context")
  rejectIf (share.operatorPubkey ≠ assignment.operatorPubkey
    ∨ share.operatorPubkey ≠ body.templateCore.operatorPubkey
    ∨ share.operatorPubkey ≠ context.payoutBucket.operatorPubkey
    ∨ share.payoutBucketId ≠ assignment.payoutBucketId
    ∨ share.payoutBucketId ≠ objectId context.payoutBucket) (.linkage "operator or payout bucket")

def checkSignatures (share : ShareV2) (assignment : AssignmentView) : Except ShareError Unit := do
  let operator := share.operatorPubkey
  let body := context.body
  let bucket := context.payoutBucket
  (verifyObject operator ed25519Suite body.operatorSignature body.networkId body).mapError
    .operatorSignature
  assignment.verifySignature
  (verifyObject operator ed25519Suite bucket.signature bucket.networkId bucket).mapError
    .operatorSignature
  (verifyObject operator ed25519Suite share.operatorSignature share.networkId share).mapError
    .operatorSignature

def checkCommittees : Except ShareError Unit := do
  rejectIf (context.maskRoster.role ≠ .mask
    ∨ context.maskRoster.id ≠ context.session.maskCommitteeId
    ∨ context.availabilityRoster.role ≠ .availability
    ∨ context.settlementRoster.role ≠ .settlement) .committeeMismatch
  context.maskRoster.verify context.session.signerSet context.session
  context.availabilityRoster.verify context.bodyCertificate.signerSet context.bodyCertificate
  context.settlementRoster.verify context.parentCertificate.signerSet context.parentCertificate

def minerHeader (share : ShareV2) : MinerHeader where
  nonce := share.nonce
  time := share.ntime
  prevBlock := context.body.templateCore.hnsParentHash
  treeRoot := context.body.treeRoot
  maskHash := context.session.maskHash
  extraNonce := share.extraNonce
  reservedRoot := context.body.reservedRoot
  witnessRoot := context.body.witnessRoot
  merkleRoot := context.body.merkleRoot
  version := context.body.templateCore.blockVersion
  bits := context.body.templateCore.bits

def checkProof (share : ShareV2) (assignment : AssignmentView) : Except ShareError Unit := do
  let session := context.session
  let template := context.body.templateCore
  rejectIf (template.hnsParentHeight = 0xffffffff) (.linkage "assignment height overflow")
  let assignmentHeight := template.hnsParentHeight + 1
  rejectIf (assignmentHeight < context.payoutBucket.activationHeight
    ∨ context.payoutBucket.retirementHeight.any (· ≤ assignmentHeight)) .inactivePayoutBucket
  rejectIf (share.ntime ≠ assignment.ntime
    ∨ assignment.extraNonceAuthorized = false
    ∨ share.declaredTarget ≠ session.captureTarget
    ∨ assignment.captureTarget ≠ session.captureTarget
    ∨ assignment.edgeTarget < session.captureTarget
    ∨ session.accountingTarget ≠ session.captureTarget)
    (.linkage "assignment proof fields or baseline targets")
  let expectedNetworkTarget ← compactTargetU256 template.bits
  let expectedCapture ← (deriveCaptureParameters template.bits session.blindBandBitsD).mapError
    fun _ => .invalidCaptureProfile
  rejectIf (session.hnsNetworkTarget ≠ expectedNetworkTarget
    ∨ session.hnsNetworkTarget ≠ expectedCapture.networkTarget
    ∨ session.leadingZeroPrefixQ ≠ expectedCapture.leadingZeroPrefixQ
    ∨ session.captureTarget ≠ expectedCapture.captureTarget) .invalidCaptureProfile
  let rawShareHash := (context.minerHeader share).shareHash
  rejectIf (rawShareHash ≠ share.rawShareHash) .rawShareHash
  rejectIf (session.captureTarget < rawShareHash) .captureTarget
  rejectIf (context.parentOracle context.parentCertificate = false) .parentOracleRejected

end CommonShareValidationContext

def validateShareWithAssignment (share : ShareV2) (assignment : AssignmentView)
    (context : CommonShareValidationContext) : Except ShareError ValidatedShare := do
  context.checkLinkage share assignment
  context.checkSignatures share assignment
  context.checkCommittees
  context.checkProof share assignment
  return {
    shareId := objectId share
    workKey := share.workKey
    creditedWork := workForTarget context.session.captureTarget
    share }

def validateGatewayShare (share : ShareV2) (context : GatewayShareValidationContext)
    : Except ShareError ValidatedShare := do
  (validateContextManifest context.contextManifest context.coreReceivedMs).mapError .gatewayHandoff
  let observedMs ← (validateCaptureEnvelope context.contextManifest context.assignment
    context.captureEnvelope context.coreReceivedMs).mapError .gatewayHandoff
  rejectIf (context.captureEnvelope.ntime ≠ share.ntime
    ∨ context.captureEnvelope.extraNonce ≠ share.extraNonce
    ∨ context.captureEnvelope.nonce ≠ share.nonce
    ∨ context.captureEnvelope.rawShareHash ≠ share.rawShareHash
    ∨ share.localTelemetryHash ≠ some (objectId context.captureEnvelope))
    (.linkage "gateway capture envelope")
  let assignment ← AssignmentView.gateway context.assignment share.extraNonce
  validateShareWithAssignment share assignment (context.common observedMs)

theorem share_of_validateGatewayShare {share : ShareV2} {context : GatewayShareValidationContext}
    {validated : ValidatedShare} (h : validateGatewayShare share context = .ok validated)
    : validated.share = share := by
  obtain ⟨_, _, h⟩ := Except.bind_eq_ok h
  obtain ⟨_, _, h⟩ := Except.bind_eq_ok h
  obtain ⟨_, _, h⟩ := Except.bind_eq_ok h
  obtain ⟨_, _, h⟩ := Except.bind_eq_ok h
  unfold validateShareWithAssignment at h
  simp only [Except.bind_unit_eq_ok] at h
  obtain ⟨_, _, _, _, h⟩ := h
  injection h with h
  rw [← h]

end MeshMine.Share
