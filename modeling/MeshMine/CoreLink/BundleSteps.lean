import MeshMine.CoreLink.Admission
import MeshMine.Handoff.AssignmentHistory
import MeshMine.Share.CaptureDispositions

/-!
What the operations of Core's admission engine do to the store, call by call: handoff commits, the rows of a
new bundle, and the rows that name the active and the pending bundle. The rows of a bundle never change.
-/

namespace MeshMine.CoreLink

open MeshMine.Types Codec Handoff Share Storage
open Storage.ProtocolJournal
open StoreM (Obeys)
open StoreM.Obeys (bind_check bind_ofExcept bind_get adapt applyBatchIfAll)

def bundleSpaces : List String :=
  ["core-link-core-bundle/v1", "core-link-core-bundle-assignment-index/v1",
    "core-link-core-bundle-state/v1"]

attribute [simp] bundleSpaces activeBundleRow pendingBundleRow coreBundleRow coreBundleIndexRow

variable {row : Row}

theorem other_of_mem_bundleSpaces (h : row.space ∈ bundleSpaces)
    : row.space ∉ handoffSpaces ∧ isJournal row = false := by
  have hspaces : ∀ space ∈ bundleSpaces, space ∉ handoffSpaces
      ∧ ∀ kind ∈ ProtocolRecordKind.all, kind.space ≠ space := by
    decide
  obtain ⟨hhandoff, hkinds⟩ := hspaces _ h
  refine ⟨hhandoff, ?_⟩
  unfold isJournal
  rw [List.any_eq_false]
  intro kind hmem
  simpa using hkinds kind hmem

def coreRely : Rely Store where
  rel s s' := handoffRely.rel s s' ∧ ∀ id bytes, s.find (coreBundleRow id) = some bytes
    → s'.find (coreBundleRow id) = some bytes
  refl s := ⟨handoffRely.refl s, fun _ _ h => h⟩
  trans := by
    intro a b c hab hbc
    exact ⟨handoffRely.trans hab.1 hbc.1, fun id bytes h => hbc.2 id bytes (hab.2 id bytes h)⟩

def StaysAbsent (R : Rely Store) (row : Row) : Prop :=
  ∀ s s', R.rel s s' → s.find row = none → s'.find row = none

variable [P : Primitives]

def bundleKey (bundle : CoreAssignmentBundleV1) : List UInt8 :=
  (objectId bundle).toList

def BundleStored (s : Store) (bundle : CoreAssignmentBundleV1) : Prop :=
  s.find (coreBundleRow (bundleKey bundle)) = some (toCanonicalBytes bundle)

theorem bundleStored_applyAll (s : Store) (bundle : CoreAssignmentBundleV1)
    : BundleStored (s.applyAll
        [ .put (coreBundleRow (bundleKey bundle)) (toCanonicalBytes bundle),
          .put (coreBundleIndexRow (objectId bundle.assignment)) (bundleKey bundle) ]) bundle := by
  simp [BundleStored, Store.find_applyAll]

def BundleDecodes (bundle : CoreAssignmentBundleV1) : Prop :=
  fromCanonicalBytes (toCanonicalBytes bundle) bundleLimits = .ok bundle

structure Replaces (active bundle : CoreAssignmentBundleV1) : Prop where
  previous : ∃ replacement, bundle.replacement = some replacement
    ∧ replacement.previousAssignmentId = objectId active.assignment
  sequence : active.assignment.assignmentSequence.checkedAdd 1 = some bundle.assignment.assignmentSequence

def HeadOfGateway (s : Store) (assignment : GatewayAssignmentV1) : Prop :=
  s.find (assignmentHeadRow assignment.networkId assignment.gatewayPubkey) = some (headBytes assignment)

inductive StageStep (R : Rely Store) (bundle : CoreAssignmentBundleV1) (before after : Store) : Prop where
  | read (h : after = before)
  | stores (habsent : before.find (coreBundleRow (bundleKey bundle)) = none)
      (happlied : after = before.applyAll
        [ .put (coreBundleRow (bundleKey bundle)) (toCanonicalBytes bundle),
          .put (coreBundleIndexRow (objectId bundle.assignment)) (bundleKey bundle) ])
  | registers (h : Registers bundle.manifest before after)
  | authorizes (hactive : StaysAbsent R activeBundleRow → before.find activeBundleRow = none)
      (h : Authorizes bundle.assignment before after)
  | installs (hstored : BundleStored before bundle)
      (hhead : (HeadOfGateway before bundle.assignment ∧ AssignmentOnRecord before bundle.assignment)
        ∨ ∃ row, row.space ∈ handoffSpaces ∧ row.space ≠ gatewayCaptureCursorNamespace ∧ Moves R row)
      (hactive : before.find activeBundleRow = none)
      (happlied : after = before.applyAll [.put activeBundleRow (bundleKey bundle)])
  | pends {active : CoreAssignmentBundleV1} (hstored : BundleStored before bundle)
      (hloads : BundleStored before active) (hdecodes : BundleDecodes active)
      (hactive : ReadAt R activeBundleRow (some (bundleKey active)) before)
      (hreplaces : Replaces active bundle) (hpending : before.find pendingBundleRow = none)
      (happlied : after = before.applyAll [.put pendingBundleRow (bundleKey bundle)])

inductive RecordStep (R : Rely Store) (before after : Store) : Prop where
  | read (h : after = before)
  | drains {drain : GatewayAssignmentDrainV1} (h : Drains drain before after)
  | receipts {drain : GatewayAssignmentDrainV1} {receipt : CoreAssignmentDrainReceiptV1}
      (hdrain : DrainOnRecord before drain ∨ ∃ row, row.space ∈ handoffSpaces ∧ Moves R row)
      (hid : receipt.gatewayDrainId = objectId drain) (hassignment : receipt.assignmentId = drain.assignmentId)
      (h : CommitsAt [toPrepared (journalRecord .coreAssignmentDrainReceipt drain.assignmentId receipt)] [] []
        before after)
  | registers {manifest : GatewayContextManifestV1} (h : Registers manifest before after)
  | transitions {next : GatewayAssignmentV1} {transition : GatewayAssignmentTransitionV1}
      (h : Transitions next transition before after)

inductive CompleteStep (R : Rely Store) (before after : Store) : Prop where
  | records (h : RecordStep R before after)
  | swaps {active pending : CoreAssignmentBundleV1} (hstored : BundleStored before pending)
      (hdecodes : BundleDecodes pending)
      (hactive : before.find activeBundleRow = some (bundleKey active))
      (hpending : before.find pendingBundleRow = some (bundleKey pending))
      (happlied : after = before.applyAll
        [.put activeBundleRow (bundleKey pending), .delete pendingBundleRow])

inductive AdmitStep (before after : Store) : Prop where
  | read (h : after = before)
  | disposes {manifest : GatewayContextManifestV1} {assignment : GatewayAssignmentV1} {d : Disposition}
      (h : Disposes manifest assignment d before after)

variable {before : Store} {after : Store}

theorem HandoffStep.find_bundle (h : HandoffStep before after) (hrow : row.space ∈ bundleSpaces)
    : after.find row = before.find row := by
  obtain ⟨hspace, hjournal⟩ := other_of_mem_bundleSpaces hrow
  exact h.find_other hspace hjournal

theorem RecordStep.find {R : Rely Store} (h : RecordStep R before after) (hrow : row.space ∈ bundleSpaces)
    : after.find row = before.find row := by
  cases h with
  | read h => rw [h]
  | drains h => exact HandoffStep.find_bundle (.drains h) hrow
  | receipts _ _ _ h =>
    rw [h.find_of_isJournal_eq_false (other_of_mem_bundleSpaces hrow).2]
    rfl
  | registers h => exact HandoffStep.find_bundle (.registers h) hrow
  | transitions h => exact HandoffStep.find_bundle (.transitions h) hrow

/-!
### The operations
-/

variable {R : Rely Store} {G : Store → Store → Prop} {s : Store}
  (hR : ∀ {s s'}, R.rel s s' → coreRely.rel s s') (hread : ∀ s, G s s)

include hR hread

theorem loadBundleBytes_obeys {bundleId : List UInt8}
    : Obeys R G (loadBundleBytes bundleId) s fun bundle s' => R.rel s s'
        ∧ bundleId = bundleKey bundle ∧ BundleStored s' bundle ∧ BundleDecodes bundle := by
  apply bind_check
  apply bind_get hread
  intro s₁ hs₁
  split
  . apply Obeys.throw
  next bytes hbytes =>
    apply bind_ofExcept
    intro bundle hdecodes
    apply bind_ofExcept
    intro _ hsame
    rw [Except.rejectIf_eq_ok] at hsame
    push Not at hsame
    obtain ⟨hid, hcanonical⟩ := hsame
    apply Obeys.pure
    intro s₂ hs₂
    refine ⟨R.trans hs₁ hs₂, hid.symm, ?_, ?_⟩
    . unfold BundleStored bundleKey
      rw [hid, hcanonical]
      exact (hR hs₂).2 _ _ hbytes
    . unfold BundleDecodes
      rw [hcanonical]
      exact Except.mapError_eq_ok.mp hdecodes

theorem loadStateBundle_obeys {stateRow : Row}
    : Obeys R G (loadStateBundle stateRow) s fun result s' => R.rel s s'
        ∧ ReadAt R stateRow (result.map bundleKey) s'
        ∧ ∀ bundle, result = some bundle → BundleStored s' bundle ∧ BundleDecodes bundle := by
  apply bind_get hread
  intro s₁ hs₁
  split
  next hnone =>
    apply Obeys.pure
    intro s₂ hs₂
    refine ⟨R.trans hs₁ hs₂, ⟨s₁, hs₂, hnone⟩, ?_⟩
    intro bundle hbundle
    contradiction
  next bundleId hbundleId =>
    apply (loadBundleBytes_obeys hR hread).seq
    intro bundle s₂ ⟨hs₂, hid, hstored, hdecodes⟩
    apply Obeys.pure
    intro s₃ hs₃
    refine ⟨R.trans hs₁ (R.trans hs₂ hs₃), ⟨s₁, R.trans hs₂ hs₃, ?_⟩, ?_⟩
    . rw [hbundleId, hid]
      rfl
    . intro other hother
      injection hother with hother
      rw [← hother]
      exact ⟨(hR hs₃).2 _ _ hstored, hdecodes⟩

theorem bundleForAssignment_obeys {assignmentId : Hash256}
    : Obeys R G (bundleForAssignment assignmentId) s fun _ _ => True := by
  apply bind_get hread
  intro s₁ _
  split
  . apply Obeys.throw
  . apply bind_check
    apply (loadBundleBytes_obeys hR hread).mono
    intro _ _ _
    trivial

variable {bundle : CoreAssignmentBundleV1}
  (hstep : ∀ before after, StageStep R bundle before after → G before after)

omit hread in
theorem head_of_authorized (h : (∃ b a, R.rel s b ∧ Authorizes bundle.assignment b a ∧ R.rel a before)
      ∨ ∃ row, row.space ∈ handoffSpaces ∧ row.space ≠ gatewayCaptureCursorNamespace ∧ Moves R row)
    : (HeadOfGateway before bundle.assignment ∧ AssignmentOnRecord before bundle.assignment)
      ∨ ∃ row, row.space ∈ handoffSpaces ∧ row.space ≠ gatewayCaptureCursorNamespace ∧ Moves R row := by
  rcases h with ⟨b, a, _, hauthorizes, hbefore⟩ | hmoves
  . let row := assignmentHeadRow bundle.assignment.networkId bundle.assignment.gatewayPubkey
    have hhead : a.find row = some (headBytes bundle.assignment) := by
      rw [hauthorizes.find (headRow_space _ _), find_authorizeOperations_head, if_pos ⟨rfl, rfl⟩]
      rfl
    by_cases hsame : before.find row = a.find row
    . left
      obtain ⟨_, hcommit⟩ := hauthorizes.commit
      refine ⟨hsame.trans hhead, (hR hbefore).1.1 _ _ (isJournal_journalRow _ _) ?_⟩
      exact hcommit.recorded (List.mem_singleton_self _)
    . right
      refine ⟨row, headRow_space _ _, ?_, a, before, hbefore, hsame⟩
      simp [row]
  . exact .inr hmoves

include hstep

variable {nowMs : UInt64}

theorem installActive_obeys (hstored : BundleStored s bundle)
    (hactive : StaysAbsent R activeBundleRow → s.find activeBundleRow = none)
    : Obeys R G (installActive bundle nowMs) s fun _ _ => True := by
  let K : Store → Prop := fun s => BundleStored s bundle
    ∧ (StaysAbsent R activeBundleRow → s.find activeBundleRow = none)
  have hK : ∀ s s', R.rel s s' → K s → K s' := by
    rintro s s' hs ⟨hstored, hactive⟩
    exact ⟨(hR hs).2 _ _ hstored, fun habsent => habsent s s' hs (hactive habsent)⟩
  have hhandoff : ∀ s s', K s → HandoffStep s s' → K s' := by
    rintro s s' ⟨hstored, hactive⟩ hstep
    constructor
    . unfold BundleStored
      rw [HandoffStep.find_bundle hstep (by simp)]
      exact hstored
    . rw [HandoffStep.find_bundle hstep (by simp)]
      exact hactive
  apply bind_check
  apply Obeys.bind
  apply adapt
  have hregisters : Obeys R (fun s s' => s' = s ∨ Registers bundle.manifest s s')
      (persistGatewayContextManifest bundle.manifest nowMs) s fun _ _ => True :=
    persistGatewayContextManifest_obeys (fun h => (hR h).1) (fun _ => .inl rfl) fun _ _ _ h => .inr h
  apply (hregisters.keep hK ?_ ⟨hstored, hactive⟩).mono
  . intro _ s₁ ⟨_, hK₁⟩
    apply Obeys.bind
    apply adapt
    have hauthorizes : Obeys R (fun s s' => s' = s ∨ Authorizes bundle.assignment s s')
        (persistGatewayAssignmentAuthorization bundle.manifest bundle.assignment) s₁ _ :=
      persistGatewayAssignmentAuthorization_obeys (fun h => (hR h).1) (fun _ => .inl rfl)
        fun _ _ _ h => .inr h
    apply (hauthorizes.keep hK ?_ hK₁).mono
    . intro _ s₂ ⟨hauthorized, hK₂⟩
      apply Obeys.bind
      apply applyBatchIfAll hread
      . intro s₃ hs₃ hconditions
        constructor
        . apply hstep
          apply StageStep.installs (hK _ _ hs₃ hK₂).1 _ (hconditions _ (List.mem_singleton_self _)) rfl
          apply head_of_authorized hR
          refine hauthorized.imp ?_ id
          rintro ⟨b, a, hb, hstep, ha⟩
          exact ⟨b, a, hb, hstep, R.trans ha hs₃⟩
        . intro s₄ _
          exact Obeys.pure fun _ _ => trivial
      . intro s₃ s₄ _ _ _
        apply (loadStateBundle_obeys hR hread).seq
        intro active s₅ _
        exact Obeys.done
    . rintro s s' hs (rfl | h)
      . exact ⟨hs, hread _⟩
      . exact ⟨hhandoff s s' hs (.authorizes h), hstep s s' (.authorizes hs.2 h)⟩
  . rintro s s' hs (rfl | h)
    . exact ⟨hs, hread _⟩
    . exact ⟨hhandoff s s' hs (.registers h), hstep s s' (.registers h)⟩

variable {active : CoreAssignmentBundleV1}

theorem markPending_obeys (hstored : BundleStored s bundle) (hloads : BundleStored s active)
    (hdecodes : BundleDecodes active) (hactive : ReadAt R activeBundleRow (some (bundleKey active)) s)
    : Obeys R G (markPending active bundle) s fun _ _ => True := by
  unfold markPending
  split
  . apply Obeys.throw
  next replacement hreplacement =>
    apply bind_ofExcept
    intro _ hlinked
    rw [Except.rejectIf_eq_ok] at hlinked
    push Not at hlinked
    apply (loadStateBundle_obeys hR hread).seq
    intro pending s₁ ⟨hs₁, _⟩
    split
    . exact Obeys.done
    . apply Obeys.bind
      apply applyBatchIfAll hread
      . intro s₂ hs₂ hconditions
        have hreached := R.trans hs₁ hs₂
        constructor
        . apply hstep
          exact .pends ((hR hreached).2 _ _ hstored) ((hR hreached).2 _ _ hloads) hdecodes
            (hactive.rely hreached) ⟨⟨replacement, hreplacement, hlinked.1⟩, hlinked.2.2⟩
            (hconditions _ (List.mem_singleton_self _)) rfl
        . intro s₃ _
          exact Obeys.done
      . intro s₂ s₃ _ _ _
        exact Obeys.done

theorem installOrMarkPending_obeys (hstored : BundleStored s bundle)
    : Obeys R G (installOrMarkPending bundle nowMs) s fun _ _ => True := by
  apply (loadStateBundle_obeys hR hread).seq
  intro active s₁ ⟨hs₁, hactive, hloads⟩
  have hstored : BundleStored s₁ bundle := (hR hs₁).2 _ _ hstored
  split
  . apply installActive_obeys hR hread hstep hstored
    intro habsent
    obtain ⟨t, ht, hnone⟩ := hactive
    exact habsent t s₁ ht hnone
  next active =>
    split
    . exact Obeys.pure fun _ _ => trivial
    . exact markPending_obeys hR hread hstep hstored (hloads active rfl).1 (hloads active rfl).2 hactive

theorem CoreAdmissionEngine.stageBundle_obeys {engine : CoreAdmissionEngine}
    : Obeys R G (engine.stageBundle bundle nowMs) s fun _ _ => True := by
  apply bind_check
  apply bind_get hread
  intro s₁ hs₁
  apply bind_get hread
  intro s₂ hs₂
  split
  next hexisting => exact installOrMarkPending_obeys hR hread hstep ((hR hs₂).2 _ _ hexisting.1)
  . apply bind_check
    apply Obeys.bind
    apply applyBatchIfAll hread
    . intro s₃ hs₃ hconditions
      refine ⟨hstep _ _ (.stores (hconditions _ (List.mem_cons_self ..)) rfl), ?_⟩
      intro s₄ hs₄
      apply bind_check
      apply installOrMarkPending_obeys hR hread hstep
      exact (hR hs₄).2 _ _ (bundleStored_applyAll s₃ bundle)
    . intro s₃ s₄ _ _ _
      apply bind_ofExcept
      intro _ hstored
      simp at hstored

omit hstep

namespace CoreAdmissionEngine

variable {engine : CoreAdmissionEngine} {pending : CoreAssignmentBundleV1}

theorem swapBundles_obeys (hstored : BundleStored s pending) (hdecodes : BundleDecodes pending)
    (hstep : ∀ before after, CompleteStep R before after → G before after)
    : Obeys R G (swapBundles active pending) s fun _ _ => True := by
  apply Obeys.bind
  apply applyBatchIfAll hread
  . intro s₁ hs₁ hconditions
    simp only [List.forall_mem_cons] at hconditions
    constructor
    . exact hstep _ _ (.swaps ((hR hs₁).2 _ _ hstored) hdecodes hconditions.1 hconditions.2.1 rfl)
    . intro s₂ _
      exact Obeys.pure fun _ _ => trivial
  . intro s₁ s₂ _ _ _
    apply (loadStateBundle_obeys hR hread).seq
    intro current s₃ _
    exact Obeys.done

variable {drain : GatewayAssignmentDrainV1}

theorem persistDrainReceipt_obeys {receipt : CoreAssignmentDrainReceiptV1}
    (hassignment : drain.assignmentId = objectId active.assignment) (hstep : ∀ before after, R.rel s before
      → CommitsAt [toPrepared (journalRecord .coreAssignmentDrainReceipt drain.assignmentId receipt)] [] []
        before after → G before after)
    : Obeys R G (persistDrainReceipt active receipt) s fun _ _ => True := by
  rw [hassignment] at hstep
  apply adapt
  apply (persistRecordsWithConditionsAndBatch_obeys (fun h => (hR h).1.1) hread hstep).seq
  intro outcome s₁ _
  split
  . exact Obeys.pure fun _ _ => trivial
  . exact Obeys.pure fun _ _ => trivial
  . apply Obeys.throw

variable {coreReceivedMs : UInt64} {transition : GatewayAssignmentTransitionV1}

theorem recordTransition_obeys (hassignment : drain.assignmentId = objectId active.assignment)
    (hstep : ∀ before after, RecordStep R before after → G before after)
    : Obeys R G (engine.recordTransition active pending drain transition coreReceivedMs) s
        fun _ _ => True := by
  have hhandoff : ∀ {s s'}, R.rel s s' → handoffRely.rel s s' := fun h => (hR h).1
  apply Obeys.bind
  apply adapt
  apply (persistGatewayAssignmentDrain_obeys hhandoff hread fun _ _ _ h => hstep _ _ (.drains h)).mono
  intro _ s₁ hdrain
  apply bind_check
  apply (persistDrainReceipt_obeys hR hread hassignment ?_).seq
  . intro _ s₂ _
    apply Obeys.bind
    apply adapt
    apply (persistGatewayContextManifest_obeys hhandoff hread fun _ _ _ h => hstep _ _ (.registers h)).mono
    intro _ s₃ _
    apply Obeys.bind
    apply adapt
    apply (persistGatewayAssignmentTransition_obeys hhandoff hread
      fun _ _ _ h => hstep _ _ (.transitions h)).mono
    intro _ s₄ _
    exact Obeys.pure fun _ _ => trivial
  . intro before after hbefore hcommits
    apply hstep
    refine .receipts ?_ rfl hassignment.symm hcommits
    exact hdrain.imp_left fun hrecorded => (hhandoff hbefore).1 _ _ (isJournal_journalRow _ _) hrecorded

theorem completePendingTransition_obeys (hstep : ∀ before after, CompleteStep R before after → G before after)
    : Obeys R G (engine.completePendingTransition drain transition coreReceivedMs) s
        fun _ _ => True := by
  apply (loadStateBundle_obeys hR hread).seq
  intro active s₁ _
  cases active with
  | none => apply Obeys.throw
  | some active =>
    apply (loadStateBundle_obeys hR hread).seq
    intro pending s₂ ⟨_, _, hpending⟩
    cases pending with
    | none => apply Obeys.throw
    | some pending =>
      obtain ⟨hstored, hdecodes⟩ := hpending pending rfl
      dsimp only
      split
      . apply Obeys.throw
      . apply bind_ofExcept
        intro _ hlinked
        rw [Except.rejectIf_eq_ok] at hlinked
        push Not at hlinked
        apply Obeys.bind
        have hrecord : Obeys R (RecordStep R)
            (engine.recordTransition active pending drain transition coreReceivedMs) s₂ _ :=
          recordTransition_obeys hR (fun _ => .read rfl) hlinked.1 fun _ _ h => h
        apply (hrecord.keep (fun _ _ hs => (hR hs).2 _ _) ?_ hstored).mono
        . intro receipt s₃ ⟨_, hstored⟩
          apply (swapBundles_obeys hR hread hstored hdecodes hstep).seq
          intro _ _ _
          exact Obeys.pure fun _ _ => trivial
        . intro s s' hstored hrecords
          refine ⟨?_, hstep s s' (.records hrecords)⟩
          rw [hrecords.find (by simp)]
          exact hstored

omit P hR hread in
theorem resultOf_obeys {E α : Type} {x : StoreM E α} {Q : α → Store → Prop} (h : Obeys R G x s Q)
    : Obeys R G (resultOf x : StoreM AdmissionError _) s fun _ _ => True := by
  apply Program.Obeys.bind
  apply Program.Obeys.mono h
  intro _ _ _ _ _ _ _
  trivial

variable {envelope : GatewayCaptureEnvelopeV1}

variable (hadmits : ∀ before after, AdmitStep before after → G before after)

include hadmits

theorem persistNoncredit_obeys {bundle : CoreAssignmentBundleV1} {outcome : UInt8} {reasonCode : UInt16}
    : Obeys R G (engine.persistNoncredit bundle envelope coreReceivedMs outcome reasonCode) s
        fun _ _ => True := by
  apply Obeys.bind
  apply adapt
  apply (persistNoncreditCaptureDisposition_obeys (d := ⟨envelope, _⟩) (fun h => (hR h).1) hread
    fun _ _ _ h => hadmits _ _ (.disposes h)).mono
  intro outcome s₁ _
  split
  . exact Obeys.pure fun _ _ => trivial
  . exact Obeys.pure fun _ _ => trivial
  . apply Obeys.throw

theorem admitNewCapture_obeys
    : Obeys R G (engine.admitNewCapture envelope coreReceivedMs) s fun _ _ => True := by
  apply (bundleForAssignment_obeys hR hread).seq
  intro bundle s₁ _
  apply bind_check
  split
  next validated hvalidated =>
    apply Obeys.bind
    have hshare := share_of_validateGatewayShare hvalidated
    have hrepresentable : validated.share.Representable := by
      rw [hshare]
      exact Nat.two_pow_pos 64
    apply (resultOf_obeys (ReceiptBuilder.acceptGatewayDurable_obeys (d := ⟨envelope, _⟩)
      (fun h => (hR h).1) hread hrepresentable fun _ _ _ h => hadmits _ _ (.disposes h))).mono
    intro result s₂ _
    split
    . exact Obeys.pure fun _ _ => trivial
    . exact persistNoncredit_obeys hR hread hadmits
    . apply Obeys.throw
  . exact persistNoncredit_obeys hR hread hadmits

theorem admitCapture_obeys
    : Obeys R G (engine.admitCapture envelope coreReceivedMs) s fun _ _ => True := by
  apply Obeys.bind
  apply adapt
  apply Obeys.get hread
  intro s₁ s₂ _ _
  split
  . apply bind_ofExcept
    intro receipt _
    apply bind_check
    exact Obeys.pure fun _ _ => trivial
  . exact admitNewCapture_obeys hR hread hadmits

end CoreAdmissionEngine

end MeshMine.CoreLink
