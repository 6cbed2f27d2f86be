import MeshMine.CoreLink.Client
import MeshMine.Gateway.Queue
import MeshMine.Storage.StoreShared

/-!
What the single store calls of an operator do to the rows of a capture: its row in the gateway's queue, its
envelope and its receipt in the spool, the sequence of its assignment and the drain of that assignment.

The gateway and the spool write disjoint namespaces, so both are run over one store.
-/

namespace MeshMine.CoreLink

open MeshMine.Types Codec Gateway Storage
open Except (rejectIf)
open StoreM (Ends Obeys)

/-!
### Rows
-/

@[simp]
def captureSpaces : List String :=
  [captureSpace, envelopeSpace, receiptSpace, "core-link-capture-sequence/v1",
    "core-link-assignment-drain/v1"]

def Frame (rows : List Row) (s s' : Store) : Prop :=
  ∀ row : Row, row.space ∈ captureSpaces → row ∉ rows → s'.find row = s.find row

theorem Frame.refl (rows : List Row) (s : Store) : Frame rows s s := fun _ _ _ => rfl

variable {rows : List Row}

theorem Frame.applyAll {operations : List BatchOperation} (s : Store)
    (h : ∀ operation ∈ operations, operation.row ∈ rows ∨ operation.row.space ∉ captureSpaces)
    : Frame rows s (s.applyAll operations) := by
  intro row hspace hrow
  apply Store.find_applyAll_of_notMem
  rintro operation hmem rfl
  exact (h operation hmem).elim hrow (fun hother => hother hspace)

variable {s' : Store}

theorem Frame.of_jobStep {s : Store} (h : JobStep s s') : Frame [] s s' := by
  intro row hspace _
  apply h
  revert hspace
  generalize row.space = space
  intro hspace
  simp only [captureSpaces, List.mem_cons, List.not_mem_nil, or_false] at hspace
  rcases hspace with rfl | rfl | rfl | rfl | rfl <;> decide

variable {a : Hash256}

theorem decodeSequenceHead_bytes (head : GatewaySequenceHeadV1)
    : decodeSequenceHead (toCanonicalBytes head) = .ok head := by
  have hdecode : fromCanonicalBytes (toCanonicalBytes head) sequenceHeadLimits = .ok head := by
    apply Decoder.Reads.fromCanonicalBytes
    . unfold toCanonicalBytes CanonicalEncode.encode instCanonicalEncodeGatewaySequenceHeadV1
      simp only [List.append_assoc]
      apply (Decoder.reads_array ⟨asciiBytes "MMS8", by decide⟩).bind
      rw [if_neg (by simp)]
      apply (Decoder.reads_array _).bind
      apply (Decoder.reads_u64 _).bind
      exact Decoder.Reads.map (Decoder.reads_array _)
    . have hmagic : (asciiBytes "MMS8").length = 4 := by decide
      simp only [toCanonicalBytes, CanonicalEncode.encode, List.length_append, Encoder.length_fixed,
        Encoder.length_u64, hmagic]
      decide
  unfold decodeSequenceHead
  rw [hdecode]
  rfl

/-- The last number given out for an assignment. -/
def headSequence (s : Store) (assignmentId : Hash256) : Nat :=
  match s.find (captureSequenceRow assignmentId) with
  | none => 0
  | some bytes =>
    match decodeSequenceHead bytes with
    | .ok head => head.sequence.toNat
    | .error _ => 0

variable {assignmentId : Hash256}

theorem headSequence_congr {s : Store}
    (h : s'.find (captureSequenceRow assignmentId) = s.find (captureSequenceRow assignmentId))
    : headSequence s' assignmentId = headSequence s assignmentId := by
  unfold headSequence
  rw [h]

variable {head : GatewaySequenceHeadV1}

theorem headSequence_of_find {s : Store} (h : s.find (captureSequenceRow assignmentId) = some (toCanonicalBytes head))
    : headSequence s assignmentId = head.sequence.toNat := by
  unfold headSequence
  rw [h]
  dsimp only
  rw [decodeSequenceHead_bytes]

theorem headSequence_of_read {s : Store}
    (h : (s.find (captureSequenceRow assignmentId)).elim (.ok (.initial assignmentId)) decodeSequenceHead
      = .ok head)
    : headSequence s assignmentId = head.sequence.toNat := by
  unfold headSequence
  cases hfind : s.find (captureSequenceRow assignmentId) with
  | none =>
    rw [hfind] at h
    injection h with h
    rw [← h]
    rfl
  | some bytes =>
    rw [hfind] at h
    change decodeSequenceHead bytes = .ok head at h
    dsimp only
    rw [h]

def Clear (s : Store) (assignmentId : Hash256) : Prop :=
  ∀ key bytes, s.find ⟨envelopeSpace, key⟩ = some bytes → s.find ⟨receiptSpace, key⟩ = none
    → ∃ envelope : GatewayCaptureEnvelopeV1,
      fromCanonicalBytes bytes captureLimits = .ok envelope ∧ envelope.assignmentId ≠ assignmentId

/-!
### Events
-/

/-- Of what an envelope says about its capture, the part that decides order and assignment. -/
structure Carries (envelope : GatewayCaptureEnvelopeV1) (capture : ForwardedCapture) : Prop where
  assignment : capture.jobId = hexEncode envelope.assignmentId.toList
  receivedMs : envelope.gatewayReceivedMs = capture.receivedMs
  signature : envelope.gatewaySignature.length = 64

inductive OperatorEvent where
  | internal
  | accept (capture : ForwardedCapture)
  | prepare (capture : ForwardedCapture) (envelope : GatewayCaptureEnvelopeV1)
  | record (workKey : Hash256)
  | acknowledge (capture : ForwardedCapture)
  | drain (assignmentId : Hash256)

variable [P : Primitives]

/-- The gateway queues a capture. -/
structure Accepts (capture : ForwardedCapture) (s s' : Store) : Prop where
  short : capture.jobId.length ≤ 64
  absent : s.find (captureRow (captureWorkKey capture)) = none
  frame : Frame [captureRow (captureWorkKey capture)] s s'
  put : s'.find (captureRow (captureWorkKey capture)) = some (encodeDurableCapture capture)

/-- The spool writes the envelope of a queued capture, under the next number of its assignment. -/
structure Numbers (capture : ForwardedCapture) (envelope : GatewayCaptureEnvelopeV1) (s s' : Store) : Prop where
  queued : s.find (captureRow (captureWorkKey capture)) = some (encodeDurableCapture capture)
  receipt : s.find (spoolReceiptRow (captureWorkKey capture)) = none
  absent : s.find (spoolEnvelopeRow (captureWorkKey capture)) = none
  carries : Carries envelope capture
  next : envelope.gatewaySequence.toNat = headSequence s envelope.assignmentId + 1
  frame : Frame [captureSequenceRow envelope.assignmentId, spoolEnvelopeRow (captureWorkKey capture)] s s'
  put : s'.find (spoolEnvelopeRow (captureWorkKey capture)) = some (toCanonicalBytes envelope)
  head : headSequence s' envelope.assignmentId = envelope.gatewaySequence.toNat

/-- Every event, with the checks made before it. -/
inductive Happens (s s' : Store) : OperatorEvent → Prop where
  | internal (hframe : Frame [] s s') : Happens s s' .internal
  | accept {capture : ForwardedCapture} (h : Accepts capture s s') : Happens s s' (.accept capture)
  | prepare {capture : ForwardedCapture} {envelope : GatewayCaptureEnvelopeV1} (h : Numbers capture envelope s s')
      : Happens s s' (.prepare capture envelope)
  | record {workKey : Hash256} (hframe : Frame [spoolReceiptRow workKey, spoolEnvelopeRow workKey] s s')
      (hput : (s'.find (spoolReceiptRow workKey)).isSome)
      (hdelete : s'.find (spoolEnvelopeRow workKey) = none)
      : Happens s s' (.record workKey)
  | acknowledge {capture : ForwardedCapture}
      (hreceipt : (s.find (spoolReceiptRow (captureWorkKey capture))).isSome)
      (hframe : Frame [captureRow (captureWorkKey capture)] s s')
      (hdelete : s'.find (captureRow (captureWorkKey capture)) = none)
      : Happens s s' (.acknowledge capture)
  | drain {assignmentId : Hash256} (hclear : Clear s assignmentId)
      (hframe : Frame [operatorDrainRow assignmentId] s s')
      : Happens s s' (.drain assignmentId)

/-- The link leaves the gateway's queue alone. -/
def OperatorEvent.ofLink : OperatorEvent → Prop
  | .accept _ => False
  | .acknowledge _ => False
  | _ => True

def SameQueue (s s' : Store) : Prop :=
  ∀ row : Row, row.space = captureSpace → s'.find row = s.find row

omit P in
theorem Frame.sameQueue {s : Store} (h : Frame rows s s') (hrows : ∀ row ∈ rows, row.space ≠ captureSpace)
    : SameQueue s s' := by
  intro row hspace
  apply h row (by rw [hspace]; decide)
  intro hmem
  exact hrows row hmem hspace

theorem Happens.sameQueue {s : Store} {event : OperatorEvent} (h : Happens s s' event) (hlink : event.ofLink)
    : SameQueue s s' := by
  cases h with
  | internal hframe | record hframe | drain _ hframe => exact hframe.sameQueue (by simp)
  | accept | acknowledge => exact hlink.elim
  | prepare h => exact h.frame.sameQueue (by simp)

def OperatorStep (Allowed : Store → OperatorEvent → Prop) (s s' : Store) : Prop :=
  ∃ event, Allowed s event ∧ Happens s s' event

theorem OperatorStep.mono {Allowed Allowed' : Store → OperatorEvent → Prop} {s : Store}
    (hmono : ∀ s event, Allowed s event → Allowed' s event) (h : OperatorStep Allowed s s')
    : OperatorStep Allowed' s s' := by
  obtain ⟨event, hallowed, hhappens⟩ := h
  exact ⟨event, hmono s event hallowed, hhappens⟩

variable {Allowed : Store → OperatorEvent → Prop} {s : Store}

theorem sameQueue_of_ofLink {E α : Type} {x : StoreM E α} {Q : α → Store → Prop} {F : Store → Prop}
    (h : Ends (OperatorStep fun s event => Allowed s event ∧ event.ofLink) x s Q F)
    : Ends (OperatorStep Allowed) x s (fun a s' => SameQueue s s' ∧ Q a s') (SameQueue s) := by
  have halong := Program.Always.along (R := SameQueue) (fun _ _ _ => rfl)
    (fun _ _ _ h h' row hrow => (h' row hrow).trans (h row hrow)) (by
      rintro s s' ⟨event, ⟨_, hlink⟩, hhappens⟩
      exact hhappens.sameQueue hlink) h
  apply Program.Always.mono halong
  . intro s s' hstep
    exact hstep.mono (fun _ _ h => h.1)
  . rintro result s' ⟨hqueue, hresult⟩
    cases result with
    | ok a => exact ⟨hqueue, hresult⟩
    | error e => exact hqueue

variable {capture : ForwardedCapture}

theorem OperatorStep.accept (hallowed : Allowed s (.accept capture)) (hshort : capture.jobId.length ≤ 64)
    (habsent : s.find (captureRow (captureWorkKey capture)) = none)
    : OperatorStep Allowed s (s.applyAll (acceptOperations capture)) := by
  refine ⟨.accept capture, hallowed, .accept ⟨hshort, habsent, ?_, find_accept capture s⟩⟩
  apply Frame.applyAll
  simp [acceptOperations]

theorem OperatorStep.acknowledge (hallowed : Allowed s (.acknowledge capture))
    (hreceipt : (s.find (spoolReceiptRow (captureWorkKey capture))).isSome)
    : OperatorStep Allowed s (s.applyAll (acknowledgeOperations capture)) := by
  refine ⟨.acknowledge capture, hallowed, .acknowledge hreceipt ?_ (find_acknowledge capture s)⟩
  apply Frame.applyAll
  simp [acknowledgeOperations, captureTombstoneRow, captureTombstoneSpace]

variable (hinternal : ∀ s, Allowed s .internal)

include hinternal

theorem OperatorStep.of_jobStep (h : JobStep s s') : OperatorStep Allowed s s' :=
  ⟨.internal, hinternal s, .internal (Frame.of_jobStep h)⟩

theorem OperatorStep.read (s : Store) : OperatorStep Allowed s s :=
  OperatorStep.of_jobStep hinternal (JobStep.refl s)

/-!
### The spool
-/

variable {spool : OperatorCaptureSpool} {bundle : CoreAssignmentBundleV1}

omit hinternal in
theorem signedEnvelope_carries {gatewaySequence : UInt64}
    (hjob : capture.jobId = hexEncode (objectId bundle.assignment).toList)
    : Carries (spool.signedEnvelope bundle capture gatewaySequence) capture where
  assignment := hjob
  receivedMs := rfl
  signature := (P.ed25519Sign _ _).length_toList

variable (workKey : Hash256) (envelope : GatewayCaptureEnvelopeV1) (capacity : OperatorCaptureCapacityV1)

def prepareOperations : List BatchOperation :=
  let head : GatewaySequenceHeadV1 :=
    ⟨envelope.assignmentId, envelope.gatewaySequence, objectId envelope⟩
  [.put (captureSequenceRow envelope.assignmentId) (toCanonicalBytes head),
    .put (spoolEnvelopeRow workKey) (toCanonicalBytes envelope),
    .put captureCapacityRow (encodeCaptureCapacity capacity)]

omit hinternal in
theorem find_prepare (s : Store)
    : (s.applyAll (prepareOperations workKey envelope capacity)).find (spoolEnvelopeRow workKey)
        =
      some (toCanonicalBytes envelope) := by
  simp [prepareOperations, Store.find_applyAll]

omit hinternal in
theorem headSequence_prepare (s : Store)
    : headSequence (s.applyAll (prepareOperations workKey envelope capacity)) envelope.assignmentId
        =
      envelope.gatewaySequence.toNat := by
  apply @headSequence_of_find _ ⟨envelope.assignmentId, envelope.gatewaySequence, objectId envelope⟩
  simp [prepareOperations, Store.find_applyAll]

omit hinternal in
theorem prepare_frame (s : Store)
    : Frame [captureSequenceRow envelope.assignmentId, spoolEnvelopeRow workKey] s
        (s.applyAll (prepareOperations workKey envelope capacity)) := by
  apply Frame.applyAll
  simp [prepareOperations]

def recordOperations (receipt : GatewayCaptureReceiptV1) (capacity : OperatorCaptureCapacityV1)
    : List BatchOperation :=
  [.put (spoolReceiptRow workKey) (toCanonicalBytes receipt),
    .delete (spoolEnvelopeRow workKey),
    .put captureCapacityRow (encodeCaptureCapacity capacity)]

variable {workKey : Hash256}

omit P hinternal in
theorem find_record (workKey : Hash256) (receipt : GatewayCaptureReceiptV1)
    (capacity : OperatorCaptureCapacityV1) (s : Store)
    : (s.applyAll (recordOperations workKey receipt capacity)).find (spoolEnvelopeRow workKey) = none
      ∧ ((s.applyAll (recordOperations workKey receipt capacity)).find (spoolReceiptRow workKey)).isSome := by
  simp [recordOperations, Store.find_applyAll]

def readCapacity (s : Store) : Except SpoolError OperatorCaptureCapacityV1 :=
  (s.find captureCapacityRow).elim (.ok ⟨0, 0⟩) decodeCaptureCapacity

/-- What is known of the store when an envelope is written for a capture. -/
structure Allocates (capture : ForwardedCapture) (envelope : GatewayCaptureEnvelopeV1)
    (capacity next : OperatorCaptureCapacityV1) (s : Store) : Prop where
  carries : Carries envelope capture
  receipt : s.find (spoolReceiptRow (captureWorkKey capture)) = none
  absent : s.find (spoolEnvelopeRow (captureWorkKey capture)) = none
  sequence : envelope.gatewaySequence.toNat = headSequence s envelope.assignmentId + 1
  read : readCapacity s = .ok capacity
  reserve : capacity.reserve (toCanonicalBytes envelope).length = .ok next

section

open StoreM.Obeys (bind_check bind_ofExcept bind_get)

variable {R : Rely Store} {G : Store → Store → Prop} (hread : ∀ s, G s s)

omit hinternal

include hread

theorem bundleForSequence_obeys {sequence : UInt64}
    : Obeys R G (spool.bundleForSequence sequence) s fun _ s' => R.rel s s' := by
  apply bind_get hread
  intro s₁ hs₁
  apply bind_ofExcept
  intro bundleId _
  apply bind_check
  apply bind_get hread
  intro s₂ hs₂
  apply bind_ofExcept
  intro bytes _
  apply bind_ofExcept
  intro bundle _
  apply bind_check
  apply Obeys.pure
  intro s₃ hs₃
  exact R.trans hs₁ (R.trans hs₂ hs₃)

/-- The batch of a new bundle has no row of a capture. -/
theorem acknowledgeOffer_obeys {client : OperatorCoreLinkClient} {acceptedAtMs : UInt64}
    (hpersist : ∀ s operations, (∀ operation ∈ operations, operation.row.space ∉ captureSpaces
      ∧ operation.row.space ≠ captureCapacityRow.space) → G s (s.applyAll operations))
    : Obeys R G (client.acknowledgeOffer bundle acceptedAtMs) s fun _ _ => True := by
  apply bind_check
  apply Obeys.adapt
  apply bind_check
  apply bind_get hread
  intro s₁ _
  apply bind_get hread
  intro s₂ _
  split
  . exact Obeys.pure fun _ _ => trivial
  . apply bind_check
    apply Obeys.bind
    apply Obeys.applyBatchIfAll hread
    . intro s₃ _ _
      refine ⟨hpersist s₃ _ ?_, fun _ _ => Obeys.done⟩
      simp [operatorBundleRow, operatorAssignmentIndexRow]
    . intro s₃ s₄ _ _ _
      exact Obeys.done

variable (hreceipt : ∀ {s s'}, R.rel s s'
    → s'.find (spoolReceiptRow (captureWorkKey capture)) = s.find (spoolReceiptRow (captureWorkKey capture)))
  (hallocate : ∀ s' envelope capacity next, R.rel s s' → Allocates capture envelope capacity next s'
    → G s' (s'.applyAll (prepareOperations (captureWorkKey capture) envelope next)))

include hreceipt hallocate

theorem allocateEnvelope_obeys {s₀ : Store} (hs₀ : R.rel s s₀)
    (hjob : capture.jobId = hexEncode (objectId bundle.assignment).toList)
    (hnone : s.find (spoolReceiptRow (captureWorkKey capture)) = none)
    : Obeys R G (spool.allocateEnvelope bundle capture) s₀ fun _ _ => True := by
  apply bind_get hread
  intro s₁ hs₁
  apply bind_ofExcept
  intro current hcurrent
  apply bind_check
  apply bind_ofExcept
  intro nextSequence hnext
  apply bind_get hread
  intro s₂ hs₂
  apply bind_ofExcept
  intro capacity hcapacity
  apply bind_ofExcept
  intro nextCapacity hreserve
  apply Obeys.bind
  apply Obeys.applyBatchIfAll hread
  . intro s₃ hs₃ hall
    simp only [List.forall_mem_cons, List.not_mem_nil, false_implies, implies_true, and_true,
      BatchCondition.absent] at hall
    obtain ⟨hhead, habsent, hstored⟩ := hall
    have hreached := R.trans hs₀ (R.trans hs₁ (R.trans hs₂ hs₃))
    refine ⟨hallocate s₃ (spool.signedEnvelope bundle capture nextSequence) capacity nextCapacity hreached
      ⟨signedEnvelope_carries hjob, (hreceipt hreached).trans hnone, habsent, ?_, ?_, hreserve⟩, ?_⟩
    . rw [← hhead] at hcurrent
      change nextSequence.toNat = headSequence s₃ (objectId bundle.assignment) + 1
      rw [headSequence_of_read hcurrent]
      exact UInt64.toNat_of_checkedAdd_eq_some (Except.elim_error_eq_ok hnext)
    . rw [← hstored] at hcapacity
      exact hcapacity
    . intro s₄ _
      apply bind_check
      exact Obeys.pure fun _ _ => trivial
  . intro s₃ s₄ _ _ _
    apply bind_check
    exact Obeys.pure fun _ _ => trivial

theorem prepareEnvelope_obeys {s₀ : Store} (hs₀ : R.rel s s₀)
    (hnone : s.find (spoolReceiptRow (captureWorkKey capture)) = none)
    : Obeys R G (spool.prepareEnvelope capture) s₀ fun _ _ => True := by
  apply (bundleForSequence_obeys hread).seq
  intro bundle s₁ hs₁
  apply bind_ofExcept
  intro _ hassignment
  rw [validateCaptureAssignment, Except.rejectIf_eq_ok] at hassignment
  push Not at hassignment
  apply bind_check
  apply bind_get hread
  intro s₂ hs₂
  split
  . apply bind_ofExcept
    intro envelope _
    apply bind_check
    exact Obeys.pure fun _ _ => trivial
  . exact allocateEnvelope_obeys hread hreceipt hallocate (R.trans hs₀ (R.trans hs₁ hs₂)) hassignment.2.1 hnone

omit hallocate

variable (hrecord : ∀ s' bytes receipt capacity next,
    s'.find (spoolEnvelopeRow (captureWorkKey capture)) = some bytes → readCapacity s' = .ok capacity
    → capacity.release bytes.length = .ok next
    → G s' (s'.applyAll (recordOperations (captureWorkKey capture) receipt next)))

include hrecord

theorem recordReceipt_obeys {envelope : GatewayCaptureEnvelopeV1} {receipt : GatewayCaptureReceiptV1}
    : Obeys R G (spool.recordReceipt (captureWorkKey capture) envelope receipt) s
        fun _ s' => (s'.find (spoolReceiptRow (captureWorkKey capture))).isSome := by
  apply bind_check
  apply bind_check
  apply bind_get hread
  intro s₁ _
  split
  next hexisting =>
    apply Obeys.pure
    intro s₂ hs₂
    rw [hreceipt hs₂, hexisting]
    rfl
  . apply bind_get hread
    intro s₂ _
    apply bind_check
    apply bind_get hread
    intro s₃ _
    apply bind_ofExcept
    intro existingCapacity hexisting
    apply bind_ofExcept
    intro capacity hcapacity
    apply bind_ofExcept
    intro nextCapacity hrelease
    apply Obeys.bind
    apply Obeys.applyBatchIfAll hread
    . intro s₄ _ hall
      simp only [List.forall_mem_cons, List.not_mem_nil, false_implies, implies_true, and_true,
        BatchCondition.equals] at hall
      obtain ⟨_, henvelope, hstored⟩ := hall
      refine ⟨hrecord s₄ _ receipt capacity nextCapacity henvelope ?_ hrelease, ?_⟩
      . unfold readCapacity
        rw [hstored]
        exact hcapacity
      . intro s₅ hs₅
        apply Obeys.pure
        intro s₆ hs₆
        rw [hreceipt (R.trans hs₅ hs₆)]
        exact (find_record _ receipt nextCapacity s₄).2
    . intro s₄ s₅ _ _ _
      apply bind_get hread
      intro s₆ _
      apply Obeys.ofExcept
      intro _ s₇ hraced hs₇
      rw [Except.rejectIf_eq_ok, not_not] at hraced
      rw [hreceipt hs₇, hraced]
      rfl

include hallocate

theorem submitCapture_obeys {client : OperatorCoreLinkClient}
    {answer : GatewayCaptureEnvelopeV1 → Except ClientError GatewayCaptureReceiptV1}
    : Obeys R G (client.submitCapture answer capture) s
        fun _ s' => (s'.find (spoolReceiptRow (captureWorkKey capture))).isSome := by
  apply Obeys.bind
  apply Obeys.adapt
  apply bind_get hread
  intro s₁ hs₁
  split
  next hnone =>
    apply Obeys.pure
    intro s₂ hs₂
    rw [hreceipt hs₁] at hnone
    apply (prepareEnvelope_obeys hread hreceipt hallocate (R.trans hs₁ hs₂) hnone).adapt.seq
    intro envelope s₃ _
    apply bind_ofExcept
    intro receipt _
    apply bind_check
    apply (recordReceipt_obeys hread hreceipt hrecord).adapt.seq
    intro _ s₄ hrecorded
    apply Obeys.ofExcept
    intro _ s₅ _ hs₅
    rw [hreceipt hs₅]
    exact hrecorded
  next bytes hsome =>
    apply bind_ofExcept
    intro receipt _
    apply Obeys.pure
    intro s₂ hs₂
    apply Obeys.ofExcept
    intro _ s₃ _ hs₃
    rw [hreceipt (R.trans hs₂ hs₃), hsome]
    rfl

end

open StoreM.Ends (bind_ofExcept bind_get)

omit P hinternal in
theorem countPending_ends {T : Store → Store → Prop} (hread : T s s) {records : List NamespaceRecord} {pending : Nat}
    : Ends T
        (OperatorCaptureSpool.countPending assignmentId records pending) s
        (fun total s' => s' = s ∧ pending ≤ total ∧ (total = 0 → ∀ record ∈ records,
          s.find ⟨receiptSpace, record.key⟩ = none → ∃ envelope : GatewayCaptureEnvelopeV1,
            fromCanonicalBytes record.value captureLimits = .ok envelope
              ∧ envelope.assignmentId ≠ assignmentId))
        (fun _ => True) := by
  induction records generalizing pending with
  | nil =>
    refine ⟨rfl, Nat.le_refl _, ?_⟩
    intro _ record hrecord
    contradiction
  | cons record records ih =>
    apply bind_get hread _ trivial
    split
    next hsome =>
      apply ih.mono _ (fun _ h => h)
      rintro total s' ⟨hs, hle, hzero⟩
      refine ⟨hs, hle, ?_⟩
      intro htotal other hother hnone
      rcases List.mem_cons.mp hother with rfl | hother
      . rw [hnone] at hsome
        contradiction
      . exact hzero htotal other hother hnone
    next =>
      apply bind_ofExcept _ trivial
      intro envelope hdecode
      apply ih.mono _ (fun _ h => h)
      rintro total s' ⟨hs, hle, hzero⟩
      refine ⟨hs, ?_, ?_⟩
      . split at hle <;> omega
      . intro htotal other hother hnone
        rcases List.mem_cons.mp hother with rfl | hother
        . refine ⟨envelope, Except.mapError_eq_ok.mp hdecode, ?_⟩
          intro hsame
          rw [if_pos hsame] at hle
          omega
        . exact hzero htotal other hother hnone

omit P hinternal in
theorem pendingForAssignment_ends {T : Store → Store → Prop} (hread : T s s)
    : Ends T (OperatorCaptureSpool.pendingForAssignment assignmentId) s
        (fun total s' => s' = s ∧ (total = 0 → Clear s assignmentId)) (fun _ => True) := by
  apply Ends.bind
  apply Ends.scanNamespace hread _ trivial
  apply (countPending_ends hread).mono _ (fun _ h => h)
  rintro total s' ⟨hs, _, hzero⟩
  refine ⟨hs, ?_⟩
  intro htotal key bytes hfind hnone
  exact hzero htotal ⟨key, bytes⟩ (Store.mem_inNamespace.mpr hfind) hnone

variable {drain : GatewayAssignmentDrainV1} {transition : GatewayAssignmentTransitionV1}

theorem persistDrainAndTransition_ends (hclear : Clear s drain.assignmentId)
    (hdrain : Allowed s (.drain drain.assignmentId))
    : Ends (OperatorStep Allowed)
        (OperatorCaptureSpool.persistDrainAndTransition drain transition) s
        (fun _ s' => Frame [operatorDrainRow drain.assignmentId] s s') (fun _ => True) := by
  have hread := OperatorStep.read hinternal s
  apply bind_get hread _ trivial
  apply bind_get hread _ trivial
  split
  . exact Frame.refl _ s
  . apply bind_ofExcept _ trivial
    intro _ _
    apply Ends.bind
    apply Ends.applyBatchIfAll hread _ _ trivial
    . intro _
      have hframe : Frame [operatorDrainRow drain.assignmentId] s (s.applyAll
          [.put (operatorDrainRow drain.assignmentId) (toCanonicalBytes drain),
            .put (operatorTransitionRow transition.previousAssignmentId)
              (toCanonicalBytes transition)]) := by
        apply Frame.applyAll
        simp
      refine ⟨⟨.drain drain.assignmentId, hdrain, .drain hclear hframe⟩, ?_⟩
      apply Ends.ofExcept _ trivial
      intro _ _
      exact hframe
    . intro _
      apply Ends.ofExcept _ trivial
      intro _ _
      exact Frame.refl _ s

/-!
### The link
-/

variable {client : OperatorCoreLinkClient}

theorem submitCapture_ends {answer : GatewayCaptureEnvelopeV1 → Except ClientError GatewayCaptureReceiptV1}
    (hprepare : ∀ envelope, Allowed s (.prepare capture envelope))
    (hrecord : ∀ s, Allowed s (.record (captureWorkKey capture)))
    (hqueued : s.find (captureRow (captureWorkKey capture)) = some (encodeDurableCapture capture))
    : Ends (OperatorStep Allowed) (client.submitCapture answer capture) s
        (fun _ s' => (s'.find (spoolReceiptRow (captureWorkKey capture))).isSome) (fun _ => True) := by
  apply Obeys.ends
  apply submitCapture_obeys (OperatorStep.read hinternal)
  . rintro s s' rfl
    rfl
  . rintro s' envelope capacity next rfl h
    exact ⟨_, hprepare envelope, .prepare ⟨hqueued, h.receipt, h.absent, h.carries, h.sequence,
      prepare_frame _ _ next _, find_prepare _ _ next _, headSequence_prepare _ _ next _⟩⟩
  . intro s' bytes receipt capacity next _ _ _
    obtain ⟨henvelope, hreceipt⟩ := find_record (captureWorkKey capture) receipt next s'
    refine ⟨_, hrecord s', .record (Frame.applyAll s' ?_) hreceipt henvelope⟩
    simp [recordOperations]

theorem acknowledgeOffer_ends {acceptedAtMs : UInt64}
    : Ends (OperatorStep Allowed) (client.acknowledgeOffer bundle acceptedAtMs) s
        (fun _ _ => True) (fun _ => True) := by
  apply Obeys.ends
  apply acknowledgeOffer_obeys (OperatorStep.read hinternal)
  intro s operations hrows
  exact ⟨_, hinternal s, .internal (Frame.applyAll s fun operation hmem => .inr (hrows operation hmem).1)⟩

variable {drainedMs : UInt64}

omit hinternal in
theorem assignmentId_of_buildDrainAndTransition {nextBundle : CoreAssignmentBundleV1} {gatewaySigningKey : ByteVec 32}
    (h : buildDrainAndTransition bundle nextBundle head gatewaySigningKey drainedMs
      = .ok (drain, transition))
    : drain.assignmentId = objectId bundle.assignment := by
  obtain ⟨replacement, _, h⟩ := Except.bind_eq_ok h
  obtain ⟨_, h⟩ := Except.bind_unit_eq_ok.mp h
  injection h with h
  injection h with hdrain _
  rw [← hdrain]

theorem prepareDrain_ends {required : Option DrainRequiredV1} {current next : CoreAssignmentBundleV1}
    (hdrain : Allowed s (.drain (objectId current.assignment)))
    : Ends (OperatorStep Allowed) (client.prepareDrain required current next drainedMs) s
        (fun sent s' => sent.1.assignmentId = objectId current.assignment
          ∧ Clear s (objectId current.assignment)
          ∧ Frame [operatorDrainRow (objectId current.assignment)] s s')
        (fun _ => True) := by
  apply bind_ofExcept _ trivial
  intro required _
  apply bind_ofExcept _ trivial
  intro _ _
  apply (pendingForAssignment_ends (OperatorStep.read hinternal s)).adapt.seq
  rintro pending s' ⟨rfl, hclear⟩
  apply bind_ofExcept _ trivial
  intro _ hpending
  rw [Except.rejectIf_eq_ok, not_not] at hpending
  apply Ends.bind
  apply Ends.adapt
  apply bind_get (OperatorStep.read hinternal _) _ trivial
  apply Ends.ofExcept _ trivial
  intro head _
  apply bind_ofExcept _ trivial
  rintro ⟨drain, transition⟩ hbuilt
  have hassignment := assignmentId_of_buildDrainAndTransition (Except.mapError_eq_ok.mp hbuilt)
  have hclear := hclear hpending
  apply Ends.bind
  apply Ends.adapt
  apply (persistDrainAndTransition_ends hinternal (hassignment ▸ hclear)
    (hassignment ▸ hdrain)).mono _ (fun _ h => h)
  intro _ s'' hframe
  exact ⟨hassignment, hclear, hassignment ▸ hframe⟩

end MeshMine.CoreLink
