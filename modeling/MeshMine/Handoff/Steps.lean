import MeshMine.Handoff.PersistenceSafety
import MeshMine.Storage.JournalShared

/-!
What each handoff operation does to the store: nothing, or one commit of which everything is known that the
operation has checked. Rows under the commit's conditions are as the operation has read them; journal records
never change; and of a drained assignment nobody writes the state or the cursor again.
-/

namespace MeshMine.Handoff

open MeshMine.Types Codec Storage
open Storage.ProtocolJournal
open StoreM (Obeys)
open Except (rejectIf_eq_ok)
open StoreM.Obeys (bind_check bind_ofExcept bind_get)

def Drained (s : Store) (a : Hash256) : Prop :=
  ∃ networkId, s.find (assignmentStateRow a) = some (assignmentStateValue networkId a assignmentStateDrained)

def handoffSpaces : List String :=
  [gatewayCaptureCursorNamespace, gatewayContextHeadNamespace, gatewayAssignmentHeadNamespace,
    gatewayAssignmentStateNamespace]

attribute [simp] handoffSpaces

def Moves (R : Rely Store) (row : Row) : Prop :=
  ∃ s s', R.rel s s' ∧ s'.find row ≠ s.find row

def handoffRely : Rely Store where
  rel s s' := journalRely.rel s s' ∧ ∀ a, Drained s a
    → s'.find (assignmentStateRow a) = s.find (assignmentStateRow a)
      ∧ s'.find (captureCursorRow a) = s.find (captureCursorRow a)
  refl s := ⟨journalRely.refl s, fun _ _ => ⟨rfl, rfl⟩⟩
  trans := by
    intro s₁ s₂ s₃ h₁ h₂
    refine ⟨journalRely.trans h₁.1 h₂.1, ?_⟩
    intro a hdrained
    obtain ⟨hstate, hcursor⟩ := h₁.2 a hdrained
    have hdrained : Drained s₂ a := by
      unfold Drained
      rw [hstate]
      exact hdrained
    obtain ⟨hstate', hcursor'⟩ := h₂.2 a hdrained
    exact ⟨hstate'.trans hstate, hcursor'.trans hcursor⟩

variable [P : Primitives]

structure Registers (manifest : GatewayContextManifestV1) (before after : Store) : Prop where
  checked : persistGatewayContextManifest.checkSequence manifest
    (before.find (contextHeadRow manifest.networkId manifest.gatewayPubkey)) = .ok ()
  commit : ∃ conditions, CommitsAt
    ([journalRecord .gatewayContextManifest (objectId manifest) manifest].map toPrepared) conditions
    [.put (contextHeadRow manifest.networkId manifest.gatewayPubkey) (encodeSequenceHead contextHeadMagic
      ⟨manifest.networkId, manifest.contextSequence, objectId manifest⟩)] before after

def authorizeOperations (assignment : GatewayAssignmentV1) : List BatchOperation :=
  [ .put (assignmentHeadRow assignment.networkId assignment.gatewayPubkey)
      (encodeSequenceHead assignmentHeadMagic
        ⟨assignment.networkId, assignment.assignmentSequence, objectId assignment⟩),
    .put (assignmentStateRow (objectId assignment))
      (assignmentStateValue assignment.networkId (objectId assignment) assignmentStateActive) ]

structure Authorizes (assignment : GatewayAssignmentV1) (before after : Store) : Prop where
  checked : persistGatewayAssignmentAuthorization.checkSequence assignment
    (before.find (assignmentHeadRow assignment.networkId assignment.gatewayPubkey)) = .ok ()
  state : before.find (assignmentStateRow (objectId assignment)) = none
    ∨ before.find (assignmentStateRow (objectId assignment))
      = some (assignmentStateValue assignment.networkId (objectId assignment) assignmentStateActive)
  commit : ∃ conditions, CommitsAt
    ([journalRecord .gatewayAssignment (objectId assignment) assignment].map toPrepared) conditions
    (authorizeOperations assignment) before after

structure Admissible (manifest : GatewayContextManifestV1) (assignment : GatewayAssignmentV1)
    (d : Disposition) (s : Store) : Prop where
  linked : d.Linked
  assignmentId : objectId assignment = d.envelope.assignmentId
  manifestRecorded : s.find (journalRow .gatewayContextManifest (objectId manifest).toList)
    = some (toCanonicalBytes manifest)
  assignmentRecorded : s.find (journalRow .gatewayAssignment (objectId assignment).toList)
    = some (toCanonicalBytes assignment)

inductive Disposes (manifest : GatewayContextManifestV1) (assignment : GatewayAssignmentV1)
    (d : Disposition) (before after : Store) : Prop where
  | again {extra : List JournalBatchRecord} {conditions : List BatchCondition}
      (hadmissible : Admissible manifest assignment d before) (hcredit : Credit d extra)
      (hreceipt : before.find d.receiptRow = some (toCanonicalBytes d.receipt))
      (hcommit : CommitsAt ((d.records manifest assignment extra).map toPrepared) conditions [] before after)
  | next {extra : List JournalBatchRecord} {conditions : List BatchCondition}
      {cursor cursor' : GatewayCaptureCursorV1} {decision : CaptureSequenceDecision}
      (hadmissible : Admissible manifest assignment d before) (hcredit : Credit d extra)
      (hstate : before.find (assignmentStateRow d.envelope.assignmentId)
        = some (assignmentStateValue assignment.networkId d.envelope.assignmentId assignmentStateActive))
      (hadvances : d.Advances (before.find d.cursorRow) decision cursor cursor')
      (hcommit : CommitsAt ((d.records manifest assignment extra).map toPrepared) conditions
        [.put d.cursorRow (toCanonicalBytes cursor')] before after)

structure Drains (drain : GatewayAssignmentDrainV1) (before after : Store) : Prop where
  state : before.find (assignmentStateRow drain.assignmentId)
    = some (assignmentStateValue drain.networkId drain.assignmentId assignmentStateActive)
  commit : ∃ cursor cursor' conditions,
    decodeCursor drain.assignmentId (before.find (captureCursorRow drain.assignmentId)) = .ok cursor
    ∧ cursor.applyDrain drain = .ok cursor'
    ∧ CommitsAt ([journalRecord .gatewayAssignmentDrain drain.assignmentId drain].map toPrepared) conditions
      [ .put (captureCursorRow drain.assignmentId) (toCanonicalBytes cursor'),
        .put (assignmentStateRow drain.assignmentId)
          (assignmentStateValue drain.networkId drain.assignmentId assignmentStateDrained) ] before after

structure Precedes (previous next : GatewayAssignmentV1) (transition : GatewayAssignmentTransitionV1)
    (s : Store) : Prop where
  previousId : objectId previous = transition.previousAssignmentId
  nextId : transition.nextAssignmentId = objectId next
  sequence : previous.assignmentSequence.checkedAdd 1 = some next.assignmentSequence
  network : previous.networkId = next.networkId
  gateway : previous.gatewayPubkey = next.gatewayPubkey
  recorded : s.find (journalRow .gatewayAssignment (objectId previous).toList)
    = some (toCanonicalBytes previous)
  state : s.find (assignmentStateRow (objectId previous))
    = some (assignmentStateValue previous.networkId (objectId previous) assignmentStateDrained)
  cursor : ∃ cursor, decodeCursor (objectId previous) (s.find (captureCursorRow (objectId previous)))
      = .ok cursor
    ∧ cursor.drainedThroughSequence = some transition.previousAssignmentLastGatewaySequence

structure Transitions (next : GatewayAssignmentV1) (transition : GatewayAssignmentTransitionV1)
    (before after : Store) : Prop where
  precedes : ∃ previous, Precedes previous next transition before
    ∧ ∃ bytes current, before.find (assignmentHeadRow next.networkId next.gatewayPubkey) = some bytes
      ∧ decodeSequenceHead assignmentHeadMagic next.networkId bytes = .ok current
      ∧ current.objectId = objectId previous
  fresh : before.find (assignmentStateRow (objectId next)) = none
  commit : ∃ conditions, CommitsAt
    ([ journalRecord .gatewayAssignment (objectId next) next,
      journalRecord .gatewayAssignmentTransition transition.previousAssignmentId transition ].map toPrepared)
    conditions (authorizeOperations next) before after

/-!
### The operations
-/

/-- The value that the row had when it was read. -/
def ReadAt (R : Rely Store) (row : Row) (value : Option (List UInt8)) (s : Store) : Prop :=
  ∃ t, R.rel t s ∧ t.find row = value

variable {row : Row}

omit P in
theorem ReadAt.rely {R : Rely Store} {value : Option (List UInt8)} {s s' : Store} (h : ReadAt R row value s)
    (hs : R.rel s s')
    : ReadAt R row value s' := by
  obtain ⟨t, ht, hvalue⟩ := h
  exact ⟨t, R.trans ht hs, hvalue⟩

omit P in
/-- A condition on what was read fails only where the others have changed the row. -/
theorem ReadAt.moves {R : Rely Store} {value : Option (List UInt8)} {s t : Store} (h : ReadAt R row value s)
    (ht : R.rel s t) (hne : t.find row ≠ value)
    : Moves R row := by
  obtain ⟨s₀, hs₀, hvalue⟩ := h
  refine ⟨s₀, t, R.trans hs₀ ht, ?_⟩
  rw [hvalue]
  exact hne

variable {manifest : GatewayContextManifestV1} {assignment : GatewayAssignmentV1}

theorem networkId_of_validate (h : validateGatewayAssignment manifest assignment = .ok ())
    : assignment.networkId = manifest.networkId := by
  unfold validateGatewayAssignment versionContext at h
  simp only [Except.bind_unit_eq_ok, rejectIf_eq_ok] at h
  push Not at h
  exact h.1.2.2.1

variable {d : Disposition}

section

variable {R : Rely Store} {G : Store → Store → Prop} {s : Store}
  (hR : ∀ {s s'}, R.rel s s' → handoffRely.rel s s') (hread : ∀ s, G s s)

omit P in
include hread in
theorem durable_load_obeys {α : Type} {Q : α → Store → Prop} {kind : ProtocolRecordKind}
    {key : List UInt8} {f : Option (List UInt8) → StoreM HandoffError α}
    (hf : ∀ s', R.rel s s' → Obeys R G (f (s'.find (journalRow kind key))) s' Q)
    : Obeys R G (durable (ProtocolJournal.load kind key) >>= f) s Q := by
  apply Obeys.bind
  apply Obeys.adapt
  apply Obeys.get hread
  intro s₁ s₂ hs₁ hs₂
  exact (hf s₁ hs₁).rely hs₂

include hR hread

omit P in
theorem exactJournalObject_obeys {α : Type} [CanonicalEncode α] {kind : ProtocolRecordKind}
    {id : Hash256} {expected : α}
    : Obeys R G (exactJournalObject kind id expected) s fun _ s' =>
        R.rel s s' ∧ s'.find (journalRow kind id.toList) = some (toCanonicalBytes expected) := by
  apply durable_load_obeys hread
  intro s₁ hs₁
  apply Obeys.ofExcept
  intro _ s₂ hfound hs₂
  rw [rejectIf_eq_ok, not_not] at hfound
  exact ⟨R.trans hs₁ hs₂, (hR hs₂).1 _ _ (isJournal_journalRow _ _) hfound⟩

theorem currentManifestHeadBytes_obeys
    : Obeys R G (currentManifestHeadBytes manifest) s fun read s' => R.rel s s'
        ∧ read.1 = contextHeadRow manifest.networkId manifest.gatewayPubkey
        ∧ ReadAt R read.1 (some read.2) s' := by
  apply bind_get hread
  intro s₁ hs₁
  split
  . apply Obeys.throw
  next bytes hbytes =>
    apply bind_ofExcept
    intro head _
    apply bind_check
    apply (exactJournalObject_obeys hR hread).seq
    intro _ s₂ hs₂
    apply Obeys.pure
    intro s₃ hs₃
    exact ⟨R.trans hs₁ (R.trans hs₂.1 hs₃), rfl, s₁, R.trans hs₂.1 hs₃, hbytes⟩

omit hR in
theorem currentAssignmentHeadBytes_obeys
    : Obeys R G (currentAssignmentHeadBytes assignment) s fun read s' => R.rel s s'
        ∧ read.1 = assignmentHeadRow assignment.networkId assignment.gatewayPubkey
        ∧ ReadAt R read.1 (some read.2) s' := by
  apply bind_get hread
  intro s₁ hs₁
  split
  . apply Obeys.throw
  next bytes hbytes =>
    apply bind_ofExcept
    intro head _
    apply bind_check
    apply Obeys.pure
    intro s₂ hs₂
    exact ⟨R.trans hs₁ hs₂, rfl, s₁, hs₂, hbytes⟩

theorem loadGatewayAssignment_obeys {assignmentId : Hash256}
    : Obeys R G (loadGatewayAssignment assignmentId) s fun assignment s' => R.rel s s'
        ∧ objectId assignment = assignmentId
        ∧ s'.find (journalRow .gatewayAssignment (objectId assignment).toList)
          = some (toCanonicalBytes assignment) := by
  apply durable_load_obeys hread
  intro s₁ hs₁
  split
  . apply Obeys.throw
  next payload hpayload =>
    apply bind_ofExcept
    intro assignment _
    apply bind_ofExcept
    intro _ hsame
    rw [rejectIf_eq_ok] at hsame
    push Not at hsame
    apply Obeys.pure
    intro s₂ hs₂
    refine ⟨R.trans hs₁ hs₂, hsame.1, ?_⟩
    rw [hsame.1, hsame.2]
    exact (hR hs₂).1 _ _ (isJournal_journalRow _ _) hpayload

omit P in
theorem persist_obeys {records : List JournalBatchRecord} {conditions : List BatchCondition}
    {supplemental : List BatchOperation}
    (hcommit : ∀ before after, R.rel s before
      → CommitsAt (records.map toPrepared) conditions supplemental before after → G before after)
    : Obeys R G (durable (persistRecordsWithConditionsAndBatch records conditions supplemental)) s
        (Settles R (records.map toPrepared) conditions supplemental s) := by
  apply Obeys.adapt
  exact persistRecordsWithConditionsAndBatch_obeys (fun h => (hR h).1) hread hcommit

theorem persistGatewayContextManifest_obeys {nowMs : UInt64}
    (hcommit : ∀ before after, R.rel s before → Registers manifest before after → G before after)
    : Obeys R G (persistGatewayContextManifest manifest nowMs) s fun _ _ => True := by
  apply bind_check
  apply bind_get hread
  intro s₁ hs₁
  apply bind_ofExcept
  intro _ hchecked
  apply (persist_obeys hR hread ?_).mono fun _ _ _ => trivial
  intro before after hbefore hcommits
  apply hcommit before after (R.trans hs₁ hbefore)
  refine ⟨?_, _, hcommits⟩
  have hexisting := hcommits.conditions _ (List.mem_singleton_self _)
  dsimp only at hexisting
  rw [hexisting]
  exact hchecked

omit hR hread in
theorem authorizes_of_commit {contextCondition : BatchCondition} {existingHead existingState : Option (List UInt8)}
    {before after : Store}
    (hchecked : persistGatewayAssignmentAuthorization.checkSequence assignment existingHead = .ok ())
    (hstate : Except.rejectIf (existingState ≠ none ∧ existingState ≠ some (assignmentStateValue
      assignment.networkId (objectId assignment) assignmentStateActive)) HandoffError.captureAfterDrain
        = .ok ())
    (hcommits : CommitsAt ([journalRecord .gatewayAssignment (objectId assignment) assignment].map toPrepared)
      [contextCondition, ⟨assignmentHeadRow assignment.networkId assignment.gatewayPubkey, existingHead⟩,
        ⟨assignmentStateRow (objectId assignment), existingState⟩] (authorizeOperations assignment)
      before after)
    : Authorizes assignment before after := by
  have hconditions := hcommits.conditions
  simp only [List.forall_mem_cons] at hconditions
  obtain ⟨_, hhead, hexisting, _⟩ := hconditions
  refine ⟨?_, ?_, _, hcommits⟩
  . rw [hhead]
    exact hchecked
  . rw [hexisting]
    rw [rejectIf_eq_ok] at hstate
    by_contra hneither
    push Not at hneither
    exact hstate hneither

theorem persistGatewayAssignmentAuthorization_obeys
    (hcommit : ∀ before after, R.rel s before → Authorizes assignment before after → G before after)
    : Obeys R G (persistGatewayAssignmentAuthorization manifest assignment) s fun _ s' =>
        (∃ before after, R.rel s before ∧ Authorizes assignment before after ∧ R.rel after s')
          ∨ ∃ row, row.space ∈ handoffSpaces ∧ row.space ≠ gatewayCaptureCursorNamespace ∧ Moves R row := by
  apply bind_check
  apply (currentManifestHeadBytes_obeys hR hread).seq
  intro _ s₁ ⟨hs₁, hcontextRow, hcontext⟩
  apply bind_get hread
  intro s₂ hs₂
  apply bind_ofExcept
  intro _ hchecked
  apply bind_get hread
  intro s₃ hs₃
  apply bind_ofExcept
  intro _ hstate
  have hreached := R.trans hs₁ (R.trans hs₂ hs₃)
  apply (persist_obeys hR hread ?_).mono
  . intro outcome s₄ hsettles
    by_cases houtcome : outcome = .committed
    . left
      obtain ⟨before, after, hbefore, hcommits, hafter⟩ := hsettles.committed houtcome
      exact ⟨before, after, R.trans hreached hbefore, authorizes_of_commit hchecked hstate hcommits, hafter⟩
    . right
      obtain ⟨_, c, hmem, t, ht, hne⟩ := hsettles.refused houtcome
      simp only [List.mem_cons, List.not_mem_nil, or_false, BatchCondition.equals] at hmem
      rcases hmem with rfl | rfl | rfl
      . refine ⟨_, ?_, ?_, (hcontext.rely (R.trans hs₂ hs₃)).moves ht hne⟩ <;>
          simp [hcontextRow]
      . refine ⟨_, ?_, ?_, ReadAt.moves ⟨s₂, hs₃, rfl⟩ ht hne⟩ <;>
          simp
      . refine ⟨_, ?_, ?_, ReadAt.moves ⟨s₃, R.refl _, rfl⟩ ht hne⟩ <;>
          simp
  . intro before after hbefore hcommits
    exact hcommit before after (R.trans hreached hbefore)
      (authorizes_of_commit hchecked hstate hcommits)

theorem prepareCaptureDisposition_obeys
    : Obeys R G (prepareCaptureDisposition manifest assignment d.envelope d.receipt) s
        fun prepared s' => R.rel s s' ∧ Admissible manifest assignment d s'
          ∧ Prepares manifest assignment d s' prepared := by
  apply bind_check
  apply bind_ofExcept
  intro observed henvelope
  apply bind_ofExcept
  intro _ hreceipt
  obtain ⟨hlinked, hassignment⟩ := linked_of_validate henvelope hreceipt
  apply (exactJournalObject_obeys hR hread).seq
  intro _ s₁ hs₁
  apply (exactJournalObject_obeys hR hread).seq
  intro _ s₂ hs₂
  have hadmissible : ∀ s', R.rel s₂ s' → Admissible manifest assignment d s' := by
    intro s' hs'
    exact ⟨hlinked, hassignment, (hR (R.trans hs₂.1 hs')).1 _ _ (isJournal_journalRow _ _) hs₁.2,
      (hR hs').1 _ _ (isJournal_journalRow _ _) hs₂.2⟩
  apply durable_load_obeys hread
  intro s₃ hs₃
  apply durable_load_obeys hread
  intro s₄ hs₄
  split
  next hexact =>
    apply Obeys.pure
    intro s₅ hs₅
    refine ⟨R.trans hs₁.1 (R.trans hs₂.1 (R.trans hs₃ (R.trans hs₄ hs₅))),
      hadmissible s₅ (R.trans hs₃ (R.trans hs₄ hs₅)), .retry ?_⟩
    exact (hR hs₅).1 _ _ (isJournal_journalRow _ _) hexact.2
  . apply bind_check
    apply (currentManifestHeadBytes_obeys hR hread).seq
    rintro _ s₅ ⟨hs₅, _⟩
    apply (currentAssignmentHeadBytes_obeys hread).seq
    rintro _ s₆ ⟨hs₆, _⟩
    apply bind_get hread
    intro s₇ hs₇
    apply bind_check
    apply bind_get hread
    intro s₈ hs₈
    apply bind_ofExcept
    intro cursor hdecode
    apply bind_check
    apply bind_ofExcept
    intro decision hclassify
    apply bind_ofExcept
    intro cursor' hadvance
    apply Obeys.pure
    intro s₉ hs₉
    have hrest : R.rel s₂ s₉ := R.trans hs₃ (R.trans hs₄ (R.trans hs₅ (R.trans hs₆ (R.trans hs₇
      (R.trans hs₈ hs₉)))))
    refine ⟨R.trans hs₁.1 (R.trans hs₂.1 hrest), hadmissible s₉ hrest, ?_⟩
    rw [hassignment] at hdecode ⊢
    exact .next ⟨hdecode, hclassify, hadvance⟩

omit hread in
theorem disposes_of_commit {prepared : PreparedCaptureDisposition} {extra : List JournalBatchRecord}
    {before after : Store} (hadmissible : Admissible manifest assignment d s)
    (hprepares : Prepares manifest assignment d s prepared) (hcredit : Credit d extra) (hs : R.rel s before)
    (hcommit : CommitsAt ((prepared.records ++ extra).map toPrepared) prepared.conditions
      prepared.operations before after)
    : Disposes manifest assignment d before after := by
  have hrely := (hR hs).1
  have hbefore : Admissible manifest assignment d before :=
    ⟨hadmissible.linked, hadmissible.assignmentId,
      hrely _ _ (isJournal_journalRow _ _) hadmissible.manifestRecorded,
      hrely _ _ (isJournal_journalRow _ _) hadmissible.assignmentRecorded⟩
  cases hprepares with
  | retry hreceipt => exact .again hbefore hcredit (hrely _ _ (isJournal_journalRow _ _) hreceipt) hcommit
  | next hadvances =>
    have hconditions := hcommit.conditions
    simp only [List.forall_mem_cons, BatchCondition.equals] at hconditions
    obtain ⟨_, _, hstate, hexisting, _⟩ := hconditions
    rw [← hexisting] at hadvances
    exact .next hbefore hcredit hstate hadvances hcommit

theorem persistNoncreditCaptureDisposition_obeys
    (hcommit : ∀ before after, R.rel s before → Disposes manifest assignment d before after
      → G before after)
    : Obeys R G (persistNoncreditCaptureDisposition manifest assignment d.envelope d.receipt) s
        fun _ _ => True := by
  apply bind_ofExcept
  intro _ houtcome
  rw [rejectIf_eq_ok] at houtcome
  apply (prepareCaptureDisposition_obeys hR hread).seq
  intro prepared s₁ hprepared
  apply (persist_obeys hR hread ?_).mono fun _ _ _ => trivial
  intro before after hbefore hcommits
  rw [← List.append_nil prepared.records] at hcommits
  apply hcommit before after (R.trans hprepared.1 hbefore)
  exact disposes_of_commit hR hprepared.2.1 hprepared.2.2 (.none houtcome) hbefore hcommits

theorem persistGatewayAssignmentDrain_obeys {drain : GatewayAssignmentDrainV1}
    (hcommit : ∀ before after, R.rel s before → Drains drain before after → G before after)
    : Obeys R G (persistGatewayAssignmentDrain manifest drain) s fun _ s' =>
        s'.find (journalRow .gatewayAssignmentDrain drain.assignmentId.toList) = some (toCanonicalBytes drain)
          ∨ ∃ row, row.space ∈ handoffSpaces ∧ Moves R row := by
  apply bind_check
  apply (exactJournalObject_obeys hR hread).seq
  intro _ s₁ hs₁
  apply (loadGatewayAssignment_obeys hR hread).seq
  intro assignment s₂ hs₂
  apply bind_check
  apply bind_get hread
  intro s₃ hs₃
  apply bind_get hread
  intro s₄ hs₄
  apply bind_ofExcept
  intro cursor hdecode
  apply bind_ofExcept
  intro cursor' hdrain
  split
  . apply durable_load_obeys hread
    intro s₅ _
    apply bind_ofExcept
    intro _ hrecorded
    rw [rejectIf_eq_ok, not_not] at hrecorded
    apply Obeys.pure
    intro s₆ hs₆
    exact .inl ((hR hs₆).1 _ _ (isJournal_journalRow _ _) hrecorded)
  . apply (currentManifestHeadBytes_obeys hR hread).seq
    rintro _ s₅ ⟨hs₅, hcontextRow, hcontext⟩
    apply (currentAssignmentHeadBytes_obeys hread).seq
    rintro _ s₆ ⟨hs₆, hheadRow, hhead⟩
    apply bind_ofExcept
    intro _ hactive
    rw [rejectIf_eq_ok, not_not] at hactive
    apply (persist_obeys hR hread ?_).mono
    . intro outcome s₇ hsettles
      by_cases houtcome : outcome = .committed
      . left
        apply hsettles.recorded _ _ (List.mem_singleton_self _)
        rw [houtcome]
        simp
      . right
        obtain ⟨_, c, hmem, t, ht, hne⟩ := hsettles.refused houtcome
        simp only [List.mem_cons, List.not_mem_nil, or_false, BatchCondition.equals] at hmem
        rcases hmem with rfl | rfl | rfl | rfl
        . refine ⟨_, ?_, (hcontext.rely hs₆).moves ht hne⟩
          simp [hcontextRow]
        . refine ⟨_, ?_, hhead.moves ht hne⟩
          simp [hheadRow]
        . refine ⟨_, ?_, ReadAt.moves ⟨s₃, R.trans hs₄ (R.trans hs₅ hs₆), hactive⟩ ht hne⟩
          simp
        . refine ⟨_, ?_, ReadAt.moves ⟨s₄, R.trans hs₅ hs₆, rfl⟩ ht hne⟩
          simp
    . intro before after hbefore hcommits
      have hconditions := hcommits.conditions
      simp only [List.forall_mem_cons, BatchCondition.equals] at hconditions
      obtain ⟨_, _, hstate, hexisting, _⟩ := hconditions
      apply hcommit before after (R.trans hs₁.1 (R.trans hs₂.1 (R.trans hs₃ (R.trans hs₄ (R.trans hs₅
        (R.trans hs₆ hbefore))))))
      rw [← hexisting] at hdecode
      exact ⟨hstate, cursor, cursor', _, hdecode, hdrain, hcommits⟩

theorem persistGatewayAssignmentTransition_obeys {nextAssignment : GatewayAssignmentV1}
    {transition : GatewayAssignmentTransitionV1}
    (hcommit : ∀ before after, R.rel s before → Transitions nextAssignment transition before after
      → G before after)
    : Obeys R G (persistGatewayAssignmentTransition manifest nextAssignment transition) s
        fun _ _ => True := by
  apply bind_check
  apply bind_ofExcept
  intro _ hvalidNext
  apply (loadGatewayAssignment_obeys hR hread).seq
  intro previous s₁ hs₁
  apply bind_ofExcept
  intro _ hvalidPrevious
  apply bind_ofExcept
  intro _ hlinked
  rw [rejectIf_eq_ok] at hlinked
  push Not at hlinked
  apply (currentManifestHeadBytes_obeys hR hread).seq
  intro _ s₂ ⟨hs₂, _⟩
  apply bind_get hread
  intro s₃ hs₃
  split
  . apply Obeys.throw
  next bytes hbytes =>
    apply bind_ofExcept
    intro current hcurrent
    dsimp only
    split
    . apply (exactJournalObject_obeys hR hread).seq
      intro _ s₄ _
      exact Obeys.pure fun _ _ => trivial
    . apply bind_ofExcept
      intro _ hprevious
      rw [rejectIf_eq_ok] at hprevious
      push Not at hprevious
      apply bind_get hread
      intro s₄ hs₄
      apply bind_ofExcept
      intro _ hdrained
      rw [rejectIf_eq_ok, not_not] at hdrained
      apply bind_get hread
      intro s₅ hs₅
      split
      . apply Obeys.throw
      next cursorBytes hcursorBytes =>
        apply bind_ofExcept
        intro cursor hcursor
        apply bind_ofExcept
        intro _ hcutoff
        rw [rejectIf_eq_ok, not_not] at hcutoff
        apply bind_get hread
        intro s₆ hs₆
        apply bind_ofExcept
        intro _ hfresh
        rw [rejectIf_eq_ok] at hfresh
        apply (persist_obeys hR hread ?_).mono fun _ _ _ => trivial
        intro before after hbefore hcommits
        have hconditions := hcommits.conditions
        simp only [List.forall_mem_cons, BatchCondition.equals] at hconditions
        obtain ⟨_, hhead, hstate, hnext, _⟩ := hconditions
        have hrest := R.trans hs₂ (R.trans hs₃ (R.trans hs₄ (R.trans hs₅ (R.trans hs₆ hbefore))))
        apply hcommit before after (R.trans hs₁.1 hrest)
        -- Between the two reads and the commit the drained assignment has stayed as it was.
        have hsame := (hR hs₅).2 _ ⟨_, hdrained⟩
        have hkept := (hR (R.trans hs₆ hbefore)).2 (objectId previous) ⟨_, hsame.1.trans hdrained⟩
        refine ⟨⟨previous, ⟨hs₁.2.1, hlinked.1, hlinked.2.2.1, ?_, hlinked.2.2.2.1, ?_, hstate, ?_⟩,
          bytes, current, hhead, hcurrent, hprevious.1⟩, ?_, _, hcommits⟩
        . rw [networkId_of_validate hvalidNext, networkId_of_validate hvalidPrevious]
        . exact (hR hrest).1 _ _ (isJournal_journalRow _ _) hs₁.2.2
        . refine ⟨cursor, ?_, hcutoff⟩
          rw [hkept.2, hcursorBytes]
          exact hcursor
        . rw [hnext]
          simpa using hfresh

end

/-!
### The rows after a step
-/

omit P in
theorem isJournal_of_mem_handoffSpaces (h : row.space ∈ handoffSpaces)
    : isJournal row = false := by
  have hspaces : ∀ space ∈ handoffSpaces, ∀ kind ∈ ProtocolRecordKind.all, kind.space ≠ space := by
    decide
  unfold isJournal
  rw [List.any_eq_false]
  intro kind hmem
  simpa using hspaces _ h kind hmem

variable {before after : Store}

omit P in
theorem find_of_commit {prepared : List Prepared} {conditions : List BatchCondition}
    {supplemental : List BatchOperation} (h : CommitsAt prepared conditions supplemental before after)
    (hrow : row.space ∈ handoffSpaces)
    : after.find row = (before.applyAll supplemental).find row :=
  h.find_of_isJournal_eq_false (isJournal_of_mem_handoffSpaces hrow)

theorem Registers.find (h : Registers manifest before after) (hrow : row.space ∈ handoffSpaces)
    (hne : row.space ≠ gatewayContextHeadNamespace)
    : after.find row = before.find row := by
  obtain ⟨_, hcommit⟩ := h.commit
  rw [find_of_commit hcommit hrow, Store.find_applyAll]
  exact if_neg fun heq => hne (congrArg Row.space heq.symm)

theorem find_authorizeOperations_state (assignment : GatewayAssignmentV1) (a : Hash256) (s : Store)
    : (s.applyAll (authorizeOperations assignment)).find (assignmentStateRow a)
      = if a = objectId assignment then
          some (assignmentStateValue assignment.networkId (objectId assignment) assignmentStateActive)
        else s.find (assignmentStateRow a) := by
  simp [authorizeOperations, Store.find_applyAll, eq_comm]

theorem find_authorizeOperations_head (assignment : GatewayAssignmentV1) (n : UInt8) (k : PublicKey) (s : Store)
    : (s.applyAll (authorizeOperations assignment)).find (assignmentHeadRow n k)
      = if n = assignment.networkId ∧ k = assignment.gatewayPubkey then
          some (encodeSequenceHead assignmentHeadMagic
            ⟨assignment.networkId, assignment.assignmentSequence, objectId assignment⟩)
        else s.find (assignmentHeadRow n k) := by
  simp [authorizeOperations, Store.find_applyAll, eq_comm]

theorem find_authorizeOperations_cursor (assignment : GatewayAssignmentV1) (a : Hash256) (s : Store)
    : (s.applyAll (authorizeOperations assignment)).find (captureCursorRow a)
      = s.find (captureCursorRow a) := by
  simp [authorizeOperations, Store.find_applyAll]

theorem Disposes.find (h : Disposes manifest assignment d before after) (hrow : row.space ∈ handoffSpaces)
    (hne : row ≠ d.cursorRow)
    : after.find row = before.find row := by
  cases h with
  | again _ _ _ hcommit => exact find_of_commit hcommit hrow
  | next _ _ _ _ hcommit =>
    rw [find_of_commit hcommit hrow, Store.find_applyAll]
    exact if_neg hne.symm

structure Closed (drain : GatewayAssignmentDrainV1) (before after : Store) : Prop where
  recorded : after.find (journalRow .gatewayAssignmentDrain drain.assignmentId.toList)
    = some (toCanonicalBytes drain)
  state : after.find (assignmentStateRow drain.assignmentId)
    = some (assignmentStateValue drain.networkId drain.assignmentId assignmentStateDrained)
  cursor : ∃ cursor : GatewayCaptureCursorV1,
    after.find (captureCursorRow drain.assignmentId) = some (toCanonicalBytes cursor)
    ∧ drain.lastGatewaySequence.checkedAdd 1 = some cursor.nextGatewaySequence
    ∧ cursor.drainedThroughSequence = some drain.lastGatewaySequence
  others : ∀ row, row.space ∈ handoffSpaces → row ≠ captureCursorRow drain.assignmentId
    → row ≠ assignmentStateRow drain.assignmentId → after.find row = before.find row

omit P in
theorem Drains.closed {drain : GatewayAssignmentDrainV1} (h : Drains drain before after)
    : Closed drain before after := by
  obtain ⟨cursor, cursor', _, _, hdrain, hcommit⟩ := h.commit
  constructor
  case recorded => exact hcommit.recorded (List.mem_singleton_self _)
  case state =>
    rw [find_of_commit hcommit (by simp)]
    simp [Store.find_applyAll]
  case cursor =>
    refine ⟨cursor', ?_, GatewayCaptureCursorV1.applyDrain_closes hdrain⟩
    rw [find_of_commit hcommit (by simp)]
    simp [Store.find_applyAll]
  case others =>
    intro row hrow hcursor hstate
    rw [find_of_commit hcommit hrow, Store.find_applyAll]
    exact (if_neg hstate.symm).trans (if_neg hcursor.symm)

/-!
### What every step keeps
-/

inductive HandoffStep (before after : Store) : Prop where
  | read (h : after = before)
  | registers {manifest : GatewayContextManifestV1} (h : Registers manifest before after)
  | authorizes {assignment : GatewayAssignmentV1} (h : Authorizes assignment before after)
  | disposes {manifest : GatewayContextManifestV1} {assignment : GatewayAssignmentV1} {d : Disposition}
      (h : Disposes manifest assignment d before after)
  | drains {drain : GatewayAssignmentDrainV1} (h : Drains drain before after)
  | transitions {next : GatewayAssignmentV1} {transition : GatewayAssignmentTransitionV1}
      (h : Transitions next transition before after)

omit P in
theorem assignmentStateValue_ne (n n' : UInt8) (a a' : Hash256)
    : assignmentStateValue n a assignmentStateActive ≠ assignmentStateValue n' a' assignmentStateDrained := by
  intro h
  have hlast := congrArg List.getLast? h
  unfold assignmentStateValue Encoder.u8 at hlast
  rw [List.getLast?_concat, List.getLast?_concat] at hlast
  contradiction

theorem HandoffStep.commits (h : HandoffStep before after)
    : after = before ∨ ∃ prepared conditions supplemental, CommitsAt prepared conditions supplemental before after
      ∧ ∀ operation ∈ supplemental, operation.row.space ∈ handoffSpaces := by
  cases h with
  | read h => exact .inl h
  | registers h | authorizes h | transitions h =>
    obtain ⟨_, hcommit⟩ := h.commit
    exact .inr ⟨_, _, _, hcommit, by simp [authorizeOperations]⟩
  | disposes h =>
    cases h with
    | again _ _ _ hcommit | next _ _ _ _ hcommit => exact .inr ⟨_, _, _, hcommit, by simp⟩
  | drains h =>
    obtain ⟨_, _, _, _, _, hcommit⟩ := h.commit
    exact .inr ⟨_, _, _, hcommit, by simp⟩

theorem HandoffStep.journal (h : HandoffStep before after) : journalRely.rel before after := by
  rcases h.commits with rfl | ⟨_, _, _, hcommit, _⟩
  . exact journalRely.refl _
  . exact hcommit.rely

theorem Authorizes.find (h : Authorizes assignment before after) (hrow : row.space ∈ handoffSpaces)
    : after.find row = (before.applyAll (authorizeOperations assignment)).find row := by
  obtain ⟨_, hcommit⟩ := h.commit
  exact find_of_commit hcommit hrow

theorem Transitions.find {next : GatewayAssignmentV1} {transition : GatewayAssignmentTransitionV1}
    (h : Transitions next transition before after) (hrow : row.space ∈ handoffSpaces)
    : after.find row = (before.applyAll (authorizeOperations next)).find row := by
  obtain ⟨_, hcommit⟩ := h.commit
  exact find_of_commit hcommit hrow

omit P in
theorem stateRow_space (a : Hash256) : (assignmentStateRow a).space ∈ handoffSpaces := by
  simp

omit P in
theorem cursorRow_space (a : Hash256) : (captureCursorRow a).space ∈ handoffSpaces := by
  simp

omit P in
theorem headRow_space (n : UInt8) (k : PublicKey) : (assignmentHeadRow n k).space ∈ handoffSpaces := by
  simp

omit P in
theorem Drained.not_active {s : Store} {a : Hash256} (h : Drained s a) (n : UInt8)
    : s.find (assignmentStateRow a) ≠ some (assignmentStateValue n a assignmentStateActive) := by
  obtain ⟨_, hdrained⟩ := h
  rw [hdrained]
  simp [(assignmentStateValue_ne _ _ _ _).symm]

theorem drained_of_authorize {a : Hash256} (hdrained : Drained before a)
    (hstate : before.find (assignmentStateRow (objectId assignment)) = none
      ∨ before.find (assignmentStateRow (objectId assignment))
        = some (assignmentStateValue assignment.networkId (objectId assignment) assignmentStateActive))
    : (before.applyAll (authorizeOperations assignment)).find (assignmentStateRow a)
        = before.find (assignmentStateRow a) := by
  rw [find_authorizeOperations_state, if_neg]
  rintro rfl
  rcases hstate with hnone | hactive
  . obtain ⟨_, hdrained⟩ := hdrained
    rw [hnone] at hdrained
    contradiction
  . exact hdrained.not_active _ hactive

theorem HandoffStep.find_other (h : HandoffStep before after) (hrow : row.space ∉ handoffSpaces)
    (hjournal : isJournal row = false)
    : after.find row = before.find row := by
  rcases h.commits with rfl | ⟨_, _, _, hcommit, hspaces⟩
  . rfl
  . rw [hcommit.find_of_isJournal_eq_false hjournal]
    apply Store.find_applyAll_of_notMem
    rintro operation hmem rfl
    exact hrow (hspaces operation hmem)

/-- What a step other than an authorization does to one handoff row. -/
inductive RowStep (before after : Store) (row : Row) : Prop where
  | same (h : after.find row = before.find row)
  | advances {a : Hash256} {cursor : GatewayCaptureCursorV1} (hrow : row = captureCursorRow a)
      (hopen : ¬ Drained before a) (h : after.find row = some (toCanonicalBytes cursor))
  | drains {drain : GatewayAssignmentDrainV1} (hrow : row = assignmentStateRow drain.assignmentId)
      (h : Drains drain before after)

theorem HandoffStep.cases (h : HandoffStep before after)
    : (∃ assignment, Authorizes assignment before after)
      ∨ (∃ next transition, Transitions next transition before after)
      ∨ ∀ row : Row, row.space ∈ handoffSpaces → row.space ≠ gatewayContextHeadNamespace
        → RowStep before after row := by
  cases h with
  | read h =>
    rw [h]
    exact .inr (.inr fun _ _ _ => .same rfl)
  | registers h => exact .inr (.inr fun _ hrow hne => .same (h.find hrow hne))
  | authorizes h => exact .inl ⟨_, h⟩
  | @disposes manifest assignment d h =>
    refine .inr (.inr fun row hrow _ => ?_)
    by_cases hne : row = d.cursorRow
    . subst hne
      cases h with
      | again _ _ _ hcommit => exact .same (find_of_commit hcommit hrow)
      | @next _ _ _ cursor' _ _ _ hstate _ hcommit =>
        have hfind : after.find d.cursorRow = some (toCanonicalBytes cursor') :=
          (find_of_commit hcommit hrow).trans (Store.find_apply_put ..)
        exact .advances rfl (fun hdrained => hdrained.not_active _ hstate) hfind
    . exact .same (h.find hrow hne)
  | @drains drain h =>
    refine .inr (.inr fun row hrow _ => ?_)
    by_cases hstate : row = assignmentStateRow drain.assignmentId
    . exact .drains hstate h
    by_cases hcursor : row = captureCursorRow drain.assignmentId
    . subst hcursor
      obtain ⟨_, hcursor, _⟩ := h.closed.cursor
      exact .advances rfl (fun hdrained => hdrained.not_active _ h.state) hcursor
    . exact .same (h.closed.others _ hrow hcursor hstate)
  | transitions h => exact .inr (.inl ⟨_, _, h⟩)

theorem HandoffStep.rely (h : HandoffStep before after) : handoffRely.rel before after := by
  refine ⟨h.journal, ?_⟩
  intro a hdrained
  rcases h.cases with ⟨_, h⟩ | ⟨_, _, h⟩ | hrows
  . rw [h.find (stateRow_space a), h.find (cursorRow_space a), find_authorizeOperations_cursor]
    exact ⟨drained_of_authorize hdrained h.state, rfl⟩
  . rw [h.find (stateRow_space a), h.find (cursorRow_space a), find_authorizeOperations_cursor]
    exact ⟨drained_of_authorize hdrained (.inl h.fresh), rfl⟩
  constructor
  . cases hrows _ (stateRow_space a) (by simp) with
    | same h => exact h
    | advances hrow => simp at hrow
    | drains hrow h =>
      obtain rfl : a = _ := by simpa using hrow
      exact absurd h.state (hdrained.not_active _)
  . cases hrows _ (cursorRow_space a) (by simp) with
    | same h => exact h
    | advances hrow hopen =>
      obtain rfl : a = _ := by simpa using hrow
      exact absurd hdrained hopen
    | drains hrow => simp at hrow

theorem HandoffStep.consistent (hconsistent : Consistent before) (h : HandoffStep before after)
    : Consistent after := by
  cases h with
  | read h =>
    rw [h]
    exact hconsistent
  | registers h | authorizes h | transitions h =>
    obtain ⟨_, hcommit⟩ := h.commit
    apply hconsistent.keeps
    apply keeps_of_no_cursor hcommit
    . simp [journalRecord]
    . simp [authorizeOperations]
  | disposes h =>
    cases h with
    | again _ hcredit hreceipt hcommit => exact hconsistent.repeats hcredit hcommit hreceipt
    | next hadmissible hcredit _ hadvances hcommit =>
      exact hconsistent.disposes hadmissible.linked hcredit hcommit hadvances
  | @drains drain h =>
    obtain ⟨cursor, cursor', _, hdecode, hdrain, hcommit⟩ := h.commit
    apply hconsistent.keeps
    apply keeps_of_kinds hcommit
    . simp [journalRecord]
    . intro a known hknown
      by_cases ha : a = drain.assignmentId
      . subst ha
        rw [hdecode, Except.ok.injEq] at hknown
        subst hknown
        refine ⟨cursor'.drainedThroughSequence, ?_⟩
        rw [hcommit.applied, Store.find_applyAll_put, decodeCursor_bytes,
          ← GatewayCaptureCursorV1.applyDrain_eq_ok hdrain]
        simp
      . rw [h.closed.others _ (cursorRow_space a)]
        . exact ⟨known.drainedThroughSequence, hknown⟩
        . simpa using ha
        . simp

end MeshMine.Handoff
