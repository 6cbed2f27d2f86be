import MeshMine.CoreLink.BundleSteps
import MeshMine.Storage.StoreRun

/-!
Core's calls in any interleaving that keeps `stage_bundle` and `complete_pending_transition` apart: the rows for
the active and the pending bundle name bundles that load, and the pending one replaces the active one.
-/

namespace MeshMine.CoreLink

open MeshMine.Types Codec Crypto Handoff Share Storage
open Storage.ProtocolJournal
open StoreM (Yields)

section

variable [P : Primitives]

inductive CoreCall where
  | stageBundle (engine : CoreAdmissionEngine) (bundle : CoreAssignmentBundleV1) (nowMs : UInt64)
  | admitCapture (engine : CoreAdmissionEngine) (envelope : GatewayCaptureEnvelopeV1)
      (coreReceivedMs : UInt64)
  | completePendingTransition (engine : CoreAdmissionEngine) (drain : GatewayAssignmentDrainV1)
      (transition : GatewayAssignmentTransitionV1) (coreReceivedMs : UInt64)

def CoreCall.program : CoreCall → Program storeMachine Unit
  | stageBundle engine bundle nowMs => ignoreResult (engine.stageBundle bundle nowMs)
  | admitCapture engine envelope coreReceivedMs =>
    ignoreResult (engine.admitCapture envelope coreReceivedMs)
  | completePendingTransition engine drain transition coreReceivedMs =>
    ignoreResult (engine.completePendingTransition drain transition coreReceivedMs)

abbrev CorePool (ι : Type) := Pool ι CoreCall storeMachine Unit

/-!
### What a step leaves alone
-/

variable {R : Rely Store} {s s' : Store}

omit P in
theorem handoffRely_of_find (h : ∀ row, row.space ∉ bundleSpaces → s'.find row = s.find row)
    : handoffRely.rel s s' := by
  refine ⟨?_, ?_⟩
  . intro row value hjournal hfind
    rw [h row, hfind]
    intro hrow
    rw [(other_of_mem_bundleSpaces hrow).2] at hjournal
    contradiction
  . intro a _
    constructor
    . apply h
      simp [assignmentStateRow, gatewayAssignmentStateNamespace]
    . apply h
      simp [captureCursorRow, gatewayCaptureCursorNamespace]

omit P in
theorem coreRely_of_stateRows {operations : List BatchOperation}
    (h : ∀ operation ∈ operations, operation.row.space = "core-link-core-bundle-state/v1")
    : coreRely.rel s (s.applyAll operations) := by
  have hother : ∀ row : Row, row.space ≠ "core-link-core-bundle-state/v1"
      → (s.applyAll operations).find row = s.find row := by
    intro row hrow
    apply Store.find_applyAll_of_notMem
    rintro operation hmem rfl
    exact hrow (h operation hmem)
  constructor
  . apply handoffRely_of_find
    intro row hrow
    apply hother
    intro hspace
    exact hrow (by simp [hspace])
  . intro id bytes hfind
    rw [hother _ (by simp), hfind]

theorem coreRely_of_handoff (h : HandoffStep s s') : coreRely.rel s s' := by
  refine ⟨h.rely, ?_⟩
  intro id bytes hfind
  rw [HandoffStep.find_bundle h (by simp), hfind]

variable {bundle : CoreAssignmentBundleV1}

theorem StageStep.rely (h : StageStep R bundle s s') : coreRely.rel s s' := by
  cases h with
  | read h =>
    rw [h]
    exact coreRely.refl s
  | stores habsent happlied =>
    have hother : ∀ row, row ≠ coreBundleRow (bundleKey bundle)
        → row ≠ coreBundleIndexRow (objectId bundle.assignment) → s'.find row = s.find row := by
      intro row hbundle hindex
      rw [happlied]
      apply Store.find_applyAll_of_notMem
      simpa using ⟨hbundle.symm, hindex.symm⟩
    constructor
    . apply handoffRely_of_find
      intro row hrow
      apply hother <;> rintro rfl <;> simp at hrow
    . intro id bytes hfind
      rw [hother, hfind]
      . intro hrow
        rw [hrow, habsent] at hfind
        contradiction
      . simp
  | registers h => exact coreRely_of_handoff (.registers h)
  | authorizes _ h => exact coreRely_of_handoff (.authorizes h)
  | installs _ _ _ happlied | pends _ _ _ _ _ _ happlied =>
    rw [happlied]
    apply coreRely_of_stateRows
    simp

theorem RecordStep.rely (h : RecordStep R s s') : coreRely.rel s s' := by
  cases h with
  | read h =>
    rw [h]
    exact coreRely.refl s
  | drains h => exact coreRely_of_handoff (.drains h)
  | receipts hdrain hid hassignment h =>
    have hother : ∀ row, isJournal row = false → s'.find row = s.find row := by
      intro row hrow
      rw [h.find_of_isJournal_eq_false hrow]
      rfl
    refine ⟨⟨h.rely, ?_⟩, ?_⟩
    . intro a _
      exact ⟨hother _ (isJournal_of_mem_handoffSpaces (stateRow_space a)),
        hother _ (isJournal_of_mem_handoffSpaces (cursorRow_space a))⟩
    . intro id bytes hfind
      rw [hother, hfind]
      exact (other_of_mem_bundleSpaces (by simp)).2
  | registers h => exact coreRely_of_handoff (.registers h)
  | transitions h => exact coreRely_of_handoff (.transitions h)

theorem CompleteStep.rely (h : CompleteStep R s s') : coreRely.rel s s' := by
  cases h with
  | records h => exact h.rely
  | swaps _ _ _ _ happlied =>
    rw [happlied]
    apply coreRely_of_stateRows
    simp

theorem AdmitStep.handoff (h : AdmitStep s s') : HandoffStep s s' := by
  cases h with
  | read h => exact .read h
  | disposes h => exact .disposes h

omit P in
theorem asciiBytes_active_ne : asciiBytes "active" ≠ asciiBytes "pending" := by
  decide

omit P in
theorem find_pending_of_install (s : Store) (key : List UInt8)
    : (s.applyAll [.put activeBundleRow key]).find pendingBundleRow = s.find pendingBundleRow := by
  simp [Store.find_applyAll, asciiBytes_active_ne]

omit P in
theorem find_active_of_pend (s : Store) (key : List UInt8)
    : (s.applyAll [.put pendingBundleRow key]).find activeBundleRow = s.find activeBundleRow := by
  simp [Store.find_applyAll, asciiBytes_active_ne.symm]

omit P in
theorem find_put_single (s : Store) (row : Row) (key : List UInt8)
    : (s.applyAll [.put row key]).find row = some key := Store.find_apply_put ..

omit P in
theorem find_swapped (s : Store) (key : List UInt8)
    : (s.applyAll [.put activeBundleRow key, .delete pendingBundleRow]).find activeBundleRow = some key
      ∧ (s.applyAll [.put activeBundleRow key, .delete pendingBundleRow]).find pendingBundleRow = none := by
  simp [Store.find_applyAll, asciiBytes_active_ne.symm]

/-!
### Staging apart from transitions
-/

/-- Nobody else replaces the active bundle while a bundle is staged. -/
def stagingRely : Rely Store where
  rel s s' := coreRely.rel s s' ∧ ∀ id, s.find activeBundleRow = some id → s'.find activeBundleRow = some id
  refl s := ⟨coreRely.refl s, fun _ h => h⟩
  trans := by
    intro a b c hab hbc
    exact ⟨coreRely.trans hab.1 hbc.1, fun id h => hbc.2 id (hab.2 id h)⟩

namespace CoreCall

def Apart : CoreCall → CoreCall → Prop
  | stageBundle .., completePendingTransition .. => False
  | completePendingTransition .., stageBundle .. => False
  | _, _ => True

def relies : CoreCall → Rely Store
  | stageBundle .. => stagingRely
  | admitCapture .. => coreRely
  | completePendingTransition .. => coreRely

def Step : CoreCall → Store → Store → Prop
  | stageBundle _ bundle _ => StageStep stagingRely bundle
  | admitCapture .. => AdmitStep
  | completePendingTransition .. => CompleteStep coreRely

theorem Step.rely {call : CoreCall} (h : call.Step s s') : coreRely.rel s s' := by
  cases call with
  | stageBundle => exact StageStep.rely h
  | admitCapture => exact coreRely_of_handoff (AdmitStep.handoff h)
  | completePendingTransition => exact CompleteStep.rely h

theorem contract : Pool.Contract relies Step program Apart where
  symm := by
    intro c c' hapart
    cases c <;> cases c' <;> exact hapart
  respected := by
    intro c c' s s' hapart hstep
    have hrely := hstep.rely
    cases c' with
    | stageBundle =>
      refine ⟨hrely, ?_⟩
      intro id hactive
      cases c with
      | stageBundle =>
        cases hstep with
        | read h => rwa [h]
        | stores _ happlied =>
          rw [happlied, Store.find_applyAll_of_notMem, hactive]
          simp
        | registers h =>
          rwa [HandoffStep.find_bundle (.registers h) (by simp)]
        | authorizes _ h =>
          rwa [HandoffStep.find_bundle (.authorizes h) (by simp)]
        | installs _ _ hnone =>
          rw [hnone] at hactive
          simp at hactive
        | pends _ _ _ _ _ _ happlied =>
          rw [happlied, find_active_of_pend, hactive]
      | admitCapture =>
        rwa [HandoffStep.find_bundle (AdmitStep.handoff hstep) (by simp)]
      | completePendingTransition => exact hapart.elim
    | admitCapture => exact hrely
    | completePendingTransition => exact hrely
  obeyed := by
    intro call s
    cases call with
    | stageBundle engine bundle nowMs =>
      exact (CoreAdmissionEngine.stageBundle_obeys And.left (fun _ => .read rfl) fun _ _ h => h).discard
    | admitCapture engine envelope coreReceivedMs =>
      exact (CoreAdmissionEngine.admitCapture_obeys id (fun _ => .read rfl) fun _ _ h => h).discard
    | completePendingTransition engine drain transition coreReceivedMs =>
      exact (CoreAdmissionEngine.completePendingTransition_obeys id (fun _ => .records (.read rfl))
        fun _ _ h => h).discard

end CoreCall

/-!
### The two rows
-/

structure Names (s : Store) (row : Row) (bundle : CoreAssignmentBundleV1) : Prop where
  named : s.find row = some (bundleKey bundle)
  stored : BundleStored s bundle
  decodes : BundleDecodes bundle

structure BundlesNamed (s : Store) : Prop where
  active : ∀ id, s.find activeBundleRow = some id → ∃ bundle, Names s activeBundleRow bundle
  pending : ∀ id, s.find pendingBundleRow = some id → ∃ active bundle, Names s activeBundleRow active
    ∧ Names s pendingBundleRow bundle ∧ Replaces active bundle

variable {row : Row}

theorem Names.rely (h : Names s row bundle) (hs : coreRely.rel s s') (hrow : s'.find row = s.find row)
    : Names s' row bundle :=
  ⟨hrow.trans h.named, hs.2 _ _ h.stored, h.decodes⟩

theorem BundlesNamed.keeps (h : BundlesNamed s) (hs : coreRely.rel s s')
    (hactive : s'.find activeBundleRow = s.find activeBundleRow)
    (hpending : s'.find pendingBundleRow = s.find pendingBundleRow)
    : BundlesNamed s' := by
  constructor
  . intro id hid
    rw [hactive] at hid
    obtain ⟨bundle, hbundle⟩ := h.active id hid
    exact ⟨bundle, hbundle.rely hs hactive⟩
  . intro id hid
    rw [hpending] at hid
    obtain ⟨active, bundle, hnamed, hbundle, hreplaces⟩ := h.pending id hid
    exact ⟨active, bundle, hnamed.rely hs hactive, hbundle.rely hs hpending, hreplaces⟩

theorem BundlesNamed.handoff (h : BundlesNamed s) (hstep : HandoffStep s s') : BundlesNamed s' := by
  apply h.keeps (coreRely_of_handoff hstep) <;> apply HandoffStep.find_bundle hstep
  . simp
  . simp

theorem BundlesNamed.stage (h : BundlesNamed s) (hdecodes : BundleDecodes bundle)
    (hstep : StageStep stagingRely bundle s s')
    : BundlesNamed s' := by
  have hs := hstep.rely
  cases hstep with
  | read heq => rwa [heq]
  | stores _ happlied =>
    apply h.keeps hs <;> rw [happlied] <;> apply Store.find_applyAll_of_notMem
    . simp
    . simp
  | registers hstep => exact h.handoff (.registers hstep)
  | authorizes _ hstep => exact h.handoff (.authorizes hstep)
  | installs hstored _ hnone happlied =>
    constructor
    . intro id _
      refine ⟨bundle, ?_, hs.2 _ _ hstored, hdecodes⟩
      rw [happlied, find_put_single]
    . -- There is no pending bundle before there is an active one.
      intro id hid
      rw [happlied, find_pending_of_install] at hid
      obtain ⟨active, _, hnamed, _⟩ := h.pending id hid
      rw [hnamed.named] at hnone
      simp at hnone
  | @pends active hstored hloads hactiveDecodes hactive hreplaces _ happlied =>
    have hkept : s'.find activeBundleRow = s.find activeBundleRow := by
      rw [happlied, find_active_of_pend]
    have hnamed : Names s activeBundleRow active := by
      obtain ⟨t, ht, hread⟩ := hactive
      exact ⟨ht.2 _ hread, hloads, hactiveDecodes⟩
    constructor
    . intro id _
      exact ⟨active, hnamed.rely hs hkept⟩
    . intro id _
      refine ⟨active, bundle, hnamed.rely hs hkept, ⟨?_, hs.2 _ _ hstored, hdecodes⟩, hreplaces⟩
      rw [happlied, find_put_single]

theorem BundlesNamed.complete (h : BundlesNamed s) (hstep : CompleteStep R s s') : BundlesNamed s' := by
  have hs := hstep.rely
  cases hstep with
  | records hstep =>
    apply h.keeps hs <;> apply hstep.find
    . simp
    . simp
  | @swaps active pending hstored hdecodes _ _ happlied =>
    have hswapped := find_swapped s (bundleKey pending)
    rw [← happlied] at hswapped
    constructor
    . intro id _
      exact ⟨pending, hswapped.1, hs.2 _ _ hstored, hdecodes⟩
    . intro id hid
      rw [hswapped.2] at hid
      simp at hid

/-!
### Runs
-/

def CoreCall.Decodes : CoreCall → Prop
  | stageBundle _ bundle _ => BundleDecodes bundle
  | _ => True

/-- Pools in which every staged bundle decodes from its own bytes. -/
abbrev BundlePool (ι : Type) := Pool ι {call : CoreCall // call.Decodes} storeMachine Unit

variable {ι : Type} [DecidableEq ι]

abbrev BundlePool.Reaches (pool pool' : BundlePool ι) : Prop :=
  Pool.GuardedReaches (fun call => call.1.program) (fun call call' => call.1.Apart call'.1) pool pool'

def BundlesUnused (s : Store) : Prop :=
  ∀ row : Row, row.space ∈ bundleSpaces → s.find row = none

omit P in
theorem BundlesUnused.named [Primitives] {store : Store} (h : BundlesUnused store) : BundlesNamed store := by
  constructor
  . intro id hid
    rw [h _ (by simp)] at hid
    simp at hid
  . intro id hid
    rw [h _ (by simp)] at hid
    simp at hid

theorem BundlePool.Reaches.named {store : Store} {pool : BundlePool ι} (hstore : BundlesUnused store)
    (h : BundlePool.Reaches (Pool.idle store) pool)
    : BundlesNamed pool.state := by
  have htrace := (CoreCall.contract.comap Subtype.val).traces (Pool.separate_idle store) h
  generalize pool.state = s at htrace
  induction htrace with
  | refl => exact hstore.named
  | tail _ hstep ih =>
    obtain ⟨⟨call, hdecodes⟩, hstep⟩ := hstep
    cases call with
    | stageBundle => exact ih.stage hdecodes hstep
    | admitCapture => exact ih.handoff (AdmitStep.handoff hstep)
    | completePendingTransition => exact ih.complete hstep

theorem BundlePool.reaches_calls (i : ι) (calls : List {call : CoreCall // call.Decodes}) (store : Store)
    : ∃ pool : BundlePool ι, pool.state = Pool.after (fun call => call.1.program) calls store
      ∧ BundlePool.Reaches (Pool.idle store) pool :=
  ⟨_, Pool.idle_state _, Pool.guardedReaches_after _ _ i calls store⟩

theorem yields_loadBundleBytes (hstored : BundleStored s bundle) (hdecodes : BundleDecodes bundle)
    : Yields (loadBundleBytes (bundleKey bundle)) s bundle s := by
  have hlength : (bundleKey bundle).length = 32 := (objectId bundle).2
  have hsame : ¬ ((objectId bundle).toList ≠ bundleKey bundle
      ∨ toCanonicalBytes bundle ≠ toCanonicalBytes bundle) := by
    simp [bundleKey]
  refine StoreM.yields_bind.mpr ⟨(), s, StoreM.yields_ofExcept.mpr ⟨?_, rfl⟩, ?_⟩
  . rw [Except.rejectIf_eq_ok, not_not]
    exact hlength
  refine StoreM.yields_bind.mpr ⟨_, s, StoreM.yields_get.mpr ⟨Row.valid_hexEncode (by decide) _, rfl, rfl⟩, ?_⟩
  rw [show s.find (coreBundleRow (bundleKey bundle)) = some (toCanonicalBytes bundle) from hstored]
  refine StoreM.yields_bind.mpr ⟨bundle, s, StoreM.yields_ofExcept.mpr ⟨?_, rfl⟩, ?_⟩
  . exact Except.mapError_eq_ok.mpr hdecodes
  refine StoreM.yields_bind.mpr ⟨(), s, StoreM.yields_ofExcept.mpr ⟨?_, rfl⟩, ?_⟩
  . exact Except.rejectIf_of_not hsame
  . exact StoreM.yields_pure.mpr ⟨rfl, rfl⟩

theorem Names.yields (h : Names s row bundle) (hrow : row.valid = true)
    : Yields (loadStateBundle row) s (some bundle) s := by
  refine StoreM.yields_bind.mpr ⟨_, s, StoreM.yields_get.mpr ⟨hrow, rfl, rfl⟩, ?_⟩
  rw [h.named]
  refine StoreM.yields_bind.mpr ⟨bundle, s, yields_loadBundleBytes h.stored h.decodes, ?_⟩
  exact StoreM.yields_pure.mpr ⟨rfl, rfl⟩

omit P in
theorem yields_loadStateBundle_none [Primitives] (h : s.find row = none) (hrow : row.valid = true)
    : Yields (loadStateBundle row) s none s := by
  unfold loadStateBundle
  simp only [StoreM.yields_bind, StoreM.yields_get]
  refine ⟨_, s, ⟨hrow, rfl, rfl⟩, ?_⟩
  rw [h]
  simp

theorem BundlePool.reaches_bundles_named {store : Store} {pool : BundlePool ι} (hstore : BundlesUnused store)
    (h : BundlePool.Reaches (Pool.idle store) pool)
    : ∃ active pending, Yields activeBundle pool.state active pool.state
      ∧ Yields pendingBundle pool.state pending pool.state
      ∧ ∀ bundle, pending = some bundle → ∃ current replacement, active = some current
        ∧ bundle.replacement = some replacement
        ∧ replacement.previousAssignmentId = objectId current.assignment
        ∧ bundle.assignment.assignmentSequence.toNat = current.assignment.assignmentSequence.toNat + 1 := by
  have hnamed := h.named hstore
  have hactive : activeBundleRow.valid = true := by decide
  have hpending : pendingBundleRow.valid = true := by decide
  cases hp : pool.state.find pendingBundleRow with
  | some id =>
    obtain ⟨current, bundle, hcurrent, hbundle, hreplaces⟩ := hnamed.pending id hp
    refine ⟨some current, some bundle, hcurrent.yields hactive, hbundle.yields hpending, ?_⟩
    intro other hother
    injection hother with hother
    rw [← hother]
    obtain ⟨replacement, hreplacement, hprevious⟩ := hreplaces.previous
    exact ⟨current, replacement, rfl, hreplacement, hprevious,
      UInt64.toNat_of_checkedAdd_eq_some hreplaces.sequence⟩
  | none =>
    have hnone : ∀ bundle : CoreAssignmentBundleV1, none = some bundle → False := by
      intro bundle hbundle
      contradiction
    cases ha : pool.state.find activeBundleRow with
    | some id =>
      obtain ⟨current, hcurrent⟩ := hnamed.active id ha
      exact ⟨some current, none, hcurrent.yields hactive, yields_loadStateBundle_none hp hpending,
        fun bundle hbundle => (hnone bundle hbundle).elim⟩
    | none =>
      exact ⟨none, none, yields_loadStateBundle_none ha hactive, yields_loadStateBundle_none hp hpending,
        fun bundle hbundle => (hnone bundle hbundle).elim⟩

end

/-!
### Two replacements of one bundle
-/

def sampleEngine : CoreAdmissionEngine :=
  ⟨2, coreKey, operatorKey, fun _ _ => true⟩

def sampleOtherBundle : CoreAssignmentBundleV1 :=
  letI := lowHashes
  sampleBundleWith 2 1600 (objectId sampleBundle) (some ⟨objectId sampleBundle.assignment, 1000, 2000, 0⟩)

def sampleEmptyDrain : GatewayAssignmentDrainV1 :=
  @Handoff.sampleDrain lowHashes sampleBundle.assignment 0 zeroHash 1500

def sampleEmptyTransition : GatewayAssignmentTransitionV1 :=
  @sampleTransition lowHashes sampleBundle.assignment sampleNextBundle.assignment 0 1500

def sampleStage (bundle : CoreAssignmentBundleV1) : CoreCall :=
  .stageBundle sampleEngine bundle 10

def sampleComplete (coreReceivedMs : UInt64) : CoreCall :=
  .completePendingTransition sampleEngine sampleEmptyDrain sampleEmptyTransition coreReceivedMs

def sampleStaged : Store :=
  letI := lowHashes
  Pool.after CoreCall.program [sampleStage sampleBundle] ∅

def samplePending : Store :=
  letI := lowHashes
  Pool.after CoreCall.program [sampleStage sampleBundle, sampleStage sampleNextBundle] ∅

/-- The other replacement has found no pending bundle; then the next bundle becomes pending and active. -/
def sampleStale : Store :=
  letI := lowHashes
  Pool.resumed CoreCall.program 6 (sampleStage sampleOtherBundle) sampleStaged
    (Pool.after CoreCall.program [sampleStage sampleNextBundle, sampleComplete 1500]
      ((sampleStage sampleOtherBundle).program.advance 6 sampleStaged).2)

theorem sampleBundles_decode
    : letI := lowHashes
      BundleDecodes sampleBundle ∧ BundleDecodes sampleNextBundle ∧ BundleDecodes sampleOtherBundle := by
  unfold BundleDecodes
  decide +kernel

theorem sampleStale_rows
    : letI := lowHashes
      (samplePending.find activeBundleRow = some (bundleKey sampleBundle)
        ∧ samplePending.find pendingBundleRow = some (bundleKey sampleNextBundle))
      ∧ (sampleStale.find activeBundleRow = some (bundleKey sampleNextBundle)
        ∧ BundleStored sampleStale sampleNextBundle)
      ∧ (sampleStale.find pendingBundleRow = some (bundleKey sampleOtherBundle)
        ∧ BundleStored sampleStale sampleOtherBundle)
      ∧ objectId sampleBundle.assignment ≠ objectId sampleNextBundle.assignment := by
  unfold BundleStored
  decide +kernel

theorem BundlePool.reaches_bundles_named_staged
    : letI := lowHashes
      ∃ pool : BundlePool Unit, pool.state.find activeBundleRow = some (bundleKey sampleBundle)
        ∧ pool.state.find pendingBundleRow = some (bundleKey sampleNextBundle)
        ∧ ∃ active pending, Yields activeBundle pool.state active pool.state
          ∧ Yields pendingBundle pool.state pending pool.state
          ∧ ∀ bundle, pending = some bundle → ∃ current replacement, active = some current
            ∧ bundle.replacement = some replacement
            ∧ replacement.previousAssignmentId = objectId current.assignment
            ∧ bundle.assignment.assignmentSequence.toNat
              = current.assignment.assignmentSequence.toNat + 1 := by
  let _ := lowHashes
  obtain ⟨hbundle, hnext, _⟩ := sampleBundles_decode
  obtain ⟨pool, hstate, hreaches⟩ :=
    BundlePool.reaches_calls () [⟨sampleStage sampleBundle, hbundle⟩, ⟨sampleStage sampleNextBundle, hnext⟩] ∅
  replace hstate : pool.state = samplePending := hstate
  obtain ⟨hactive, hpending⟩ := sampleStale_rows.1
  rw [← hstate] at hactive hpending
  exact ⟨pool, hactive, hpending, BundlePool.reaches_bundles_named (fun _ _ => rfl) hreaches⟩

/-- The pending bundle replaces a bundle that is active no longer, and follows it and not the active one. -/
theorem CorePool.reaches_stale_pending
    : letI := lowHashes
      ∃ pool : CorePool Bool, Pool.Reaches CoreCall.program (Pool.idle ∅) pool
        ∧ Yields activeBundle pool.state (some sampleNextBundle) pool.state
        ∧ Yields pendingBundle pool.state (some sampleOtherBundle) pool.state
        ∧ sampleOtherBundle.replacement.map (·.previousAssignmentId)
          ≠ some (objectId sampleNextBundle.assignment)
        ∧ sampleOtherBundle.assignment.assignmentSequence
          = sampleNextBundle.assignment.assignmentSequence := by
  let _ := lowHashes
  obtain ⟨_, hnext, hother⟩ := sampleBundles_decode
  obtain ⟨_, hactive, hpending, hne⟩ := sampleStale_rows
  have hstaged := Pool.reaches_after CoreCall.program true [sampleStage sampleBundle] ∅
  obtain ⟨earlier, pool, hearlier, hpool, hstate, hstale⟩ := Pool.reaches_between CoreCall.program 6
    (sampleStage sampleOtherBundle) [sampleStage sampleNextBundle, sampleComplete 1500] [] sampleStaged
    Bool.false_ne_true
  rw [hstate, Pool.after_nil] at hstale
  replace hstale : pool.state = sampleStale := hstale
  refine ⟨pool, hstaged.trans (hearlier.trans hpool), ?_, ?_, ?_, by decide +kernel⟩
  . rw [hstale]
    exact Names.yields ⟨hactive.1, hactive.2, hnext⟩ (by decide)
  . rw [hstale]
    exact Names.yields ⟨hpending.1, hpending.2, hother⟩ (by decide)
  . intro heq
    injection heq with heq
    exact hne heq

end MeshMine.CoreLink
