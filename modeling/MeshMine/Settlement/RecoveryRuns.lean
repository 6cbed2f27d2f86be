import MeshMine.Concurrency.Trace
import MeshMine.Settlement.Recovery
import MeshMine.Storage.JournalShared

/-!
Checkpoint calls of one committee in any interleaving, beside arbitrary writes of the source fence. Each change
of the checkpoint head appends one checkpoint to a chain.
-/

namespace MeshMine.Settlement

open MeshMine.Types Codec Storage
open Storage.ProtocolJournal
open StoreM (Obeys)
open Except (rejectIf_eq_ok bind_unit_eq_ok)
open StoreM.Obeys (bind_check bind_ofExcept bind_get)

/-!
### The chain
-/

/-- One component of a source fence: a count that never falls, and a head that changes exactly with it. -/
def Advances (previousCount : UInt64) (previousHead : Hash256) (nextCount : UInt64) (nextHead : Hash256)
    : Prop :=
  previousCount ≤ nextCount ∧ (previousCount = nextCount ↔ previousHead = nextHead)

structure FenceAdvances (previous next : PayoutRecoverySourceFenceV1) : Prop where
  dispositions : Advances previous.dispositionCount previous.dispositionCommitment
    next.dispositionCount next.dispositionCommitment
  snapshots : Advances previous.snapshotCount previous.snapshotHeadId next.snapshotCount next.snapshotHeadId
  plans : Advances previous.planCount previous.planHeadId next.planCount next.planHeadId
  canonicalEvents : Advances previous.canonicalEventCount previous.canonicalEventCommitment
    next.canonicalEventCount next.canonicalEventCommitment

theorem advances_of_componentIsMonotonic {previousCount nextCount : UInt64} {previousHead nextHead : Hash256}
    (h : PayoutRecoverySourceFenceV1.componentIsMonotonic previousCount previousHead nextCount nextHead = true)
    : Advances previousCount previousHead nextCount nextHead := by
  unfold PayoutRecoverySourceFenceV1.componentIsMonotonic at h
  simp only [Bool.or_eq_true, Bool.and_eq_true, decide_eq_true_eq] at h
  rcases h with ⟨hlt, hne⟩ | ⟨rfl, rfl⟩
  . exact ⟨le_of_lt hlt, iff_of_false (ne_of_lt hlt) (Ne.symm hne)⟩
  . exact ⟨le_refl _, iff_of_true rfl rfl⟩

theorem fenceAdvances_of_validateMonotonicAfter {previous next : PayoutRecoverySourceFenceV1}
    (h : next.validateMonotonicAfter previous = .ok ())
    : FenceAdvances previous next := by
  unfold PayoutRecoverySourceFenceV1.validateMonotonicAfter at h
  simp only [rejectIf_eq_ok, not_or, Bool.not_eq_true', Bool.not_eq_false] at h
  obtain ⟨hdispositions, hsnapshots, hplans, hevents⟩ := h
  exact ⟨advances_of_componentIsMonotonic hdispositions, advances_of_componentIsMonotonic hsnapshots,
    advances_of_componentIsMonotonic hplans, advances_of_componentIsMonotonic hevents⟩

section

variable [P : Primitives]

structure CheckpointSucceeds (previous next : PayoutRecoveryCheckpointV1) : Prop where
  previousId : next.previousCheckpointId = objectId previous
  fingerprint : next.payoutPolicyFingerprint = previous.payoutPolicyFingerprint
  stepWork : next.accumulator.snapshotStepWork = previous.accumulator.snapshotStepWork
  windowWork : next.accumulator.pplnsWindowWork = previous.accumulator.pplnsWindowWork
  committee : next.accumulator.settlementCommitteeId = previous.accumulator.settlementCommitteeId
  fence : FenceAdvances previous.sourceFence next.sourceFence

variable {previous next : PayoutRecoveryCheckpointV1}

theorem checkpointSucceeds_of_transition (hprevious : next.previousCheckpointId = objectId previous)
    (h : validateCheckpointTransition previous next = .ok ())
    : CheckpointSucceeds previous next := by
  unfold validateCheckpointTransition at h
  simp only [bind_unit_eq_ok, rejectIf_eq_ok, not_or, not_not] at h
  obtain ⟨⟨hfingerprint, hstep, hwindow, hcommittee⟩, hfence, _⟩ := h
  exact ⟨hprevious, hfingerprint, hstep, hwindow, hcommittee, fenceAdvances_of_validateMonotonicAfter hfence⟩

structure CheckpointChain (chain : List PayoutRecoveryCheckpointV1) : Prop where
  sequences : ∀ i checkpoint, chain[i]? = some checkpoint → checkpoint.checkpointSequence.toNat = i + 1
  first : ∀ checkpoint, chain.head? = some checkpoint → checkpoint.previousCheckpointId = .zero 32
  links : chain.IsChain CheckpointSucceeds

theorem checkpointChain_nil : CheckpointChain [] where
  sequences := by simp
  first := by simp
  links := .nil

theorem CheckpointChain.eq_of_sequence {chain : List PayoutRecoveryCheckpointV1} (h : CheckpointChain chain)
    {a b : PayoutRecoveryCheckpointV1} (ha : a ∈ chain) (hb : b ∈ chain)
    (heq : a.checkpointSequence = b.checkpointSequence)
    : a = b := by
  obtain ⟨i, hi⟩ := List.mem_iff_getElem?.mp ha
  obtain ⟨j, hj⟩ := List.mem_iff_getElem?.mp hb
  have hai := h.sequences i a hi
  have hbj := h.sequences j b hj
  rw [heq] at hai
  have hij : i = j := by omega
  rw [hij, hj] at hi
  injection hi with hi
  exact hi.symm

theorem CheckpointChain.append {chain : List PayoutRecoveryCheckpointV1} (h : CheckpointChain chain)
    (hsequence : next.checkpointSequence.toNat = chain.length + 1)
    (hfirst : chain = [] → next.previousCheckpointId = .zero 32)
    (hlink : ∀ previous, chain.getLast? = some previous → CheckpointSucceeds previous next)
    : CheckpointChain (chain ++ [next]) where
  sequences := by
    intro i checkpoint hi
    rw [List.getElem?_append] at hi
    split at hi
    . exact h.sequences i checkpoint hi
    next hge =>
      have hlast := (List.getElem?_eq_some_iff.mp hi).1
      rw [List.length_singleton] at hlast
      rw [List.mem_singleton.mp (List.mem_of_getElem? hi), hsequence]
      omega
  first := by
    intro checkpoint hhead
    cases chain with
    | nil =>
      injection hhead with hhead
      rw [← hhead]
      exact hfirst rfl
    | cons first rest => exact h.first checkpoint hhead
  links := by
    apply h.links.append (List.isChain_singleton _)
    intro previous hprevious next' hnext
    injection hnext with hnext
    rw [← hnext]
    exact hlink previous hprevious

/-!
### What one call does
-/

def checkpointRecord (checkpoint : PayoutRecoveryCheckpointV1) : JournalBatchRecord where
  kind := .payoutRecoveryCheckpoint
  durableKey := (checkpointWrapperId (toCanonicalBytes checkpoint)).toList
  value := toCanonicalBytes checkpoint

def headBytes (checkpoint : PayoutRecoveryCheckpointV1) : List UInt8 :=
  encodeHead (checkpointHead checkpoint)

def CheckpointAt (s : Store) (head : PayoutRecoveryHeadV1) (checkpoint : PayoutRecoveryCheckpointV1) : Prop :=
  ∃ payload, s.find (journalRow .payoutRecoveryCheckpoint head.checkpointWrapperId.toList) = some payload
    ∧ fromCanonicalBytes payload checkpointLimits = .ok checkpoint
    ∧ objectId checkpoint = head.checkpointId

variable {s' : Store} {head : PayoutRecoveryHeadV1}

theorem CheckpointAt.rely {s : Store} {checkpoint : PayoutRecoveryCheckpointV1} (h : CheckpointAt s head checkpoint)
    (hs : journalRely.rel s s')
    : CheckpointAt s' head checkpoint := by
  obtain ⟨payload, hpayload, hrest⟩ := h
  exact ⟨payload, hs _ _ (isJournal_journalRow _ _) hpayload, hrest⟩

def Admitted (s : Store) (checkpoint : PayoutRecoveryCheckpointV1) : Option (List UInt8) → Prop
  | none => checkpoint.checkpointSequence = 1 ∧ checkpoint.previousCheckpointId = .zero 32
  | some bytes => ∃ current previous, decodeHead checkpoint.networkId bytes = .ok current
    ∧ current.checkpointSequence.checkedAdd 1 = some checkpoint.checkpointSequence
    ∧ checkpoint.previousCheckpointId = current.checkpointId
    ∧ CheckpointAt s current previous
    ∧ validateCheckpointTransition previous checkpoint = .ok ()

variable {existing : Option (List UInt8)}

theorem Admitted.rely {s : Store} {checkpoint : PayoutRecoveryCheckpointV1} (h : Admitted s checkpoint existing)
    (hs : journalRely.rel s s')
    : Admitted s' checkpoint existing := by
  cases existing with
  | none => exact h
  | some bytes =>
    obtain ⟨current, previous, hcurrent, hsequence, hid, hprevious, htransition⟩ := h
    exact ⟨current, previous, hcurrent, hsequence, hid, hprevious.rely hs, htransition⟩

structure Installs (n : UInt8) (checkpoint : PayoutRecoveryCheckpointV1) (before after : Store) : Prop where
  network : checkpoint.networkId = n
  decodes : fromCanonicalBytes (toCanonicalBytes checkpoint) checkpointLimits = .ok checkpoint
  admitted : Admitted before checkpoint (before.find (checkpointHeadRow n))
  fence : before.find (sourceFenceRow n) = some (encodeSourceFence n checkpoint.sourceFence)
  recorded : after.find (toPrepared (checkpointRecord checkpoint)).row = some (toCanonicalBytes checkpoint)
  head : after.find (checkpointHeadRow n) = some (headBytes checkpoint)
  journal : journalRely.rel before after

inductive CheckpointStep (n : UInt8) (before after : Store) : Prop where
  | other (hhead : after.find (checkpointHeadRow n) = before.find (checkpointHeadRow n))
      (hjournal : journalRely.rel before after)
  | installs {checkpoint : PayoutRecoveryCheckpointV1} (h : Installs n checkpoint before after)

theorem CheckpointStep.read (n : UInt8) (s : Store) : CheckpointStep n s s :=
  .other rfl (journalRely.refl s)

theorem CheckpointStep.rely {n : UInt8} {before after : Store} (h : CheckpointStep n before after)
    : journalRely.rel before after := by
  cases h with
  | other _ hjournal => exact hjournal
  | installs h => exact h.journal

variable {size : Nat} {policy : PayoutRecoveryCommitteePolicyV1} {checkpoint : PayoutRecoveryCheckpointV1}
  {s : Store}

omit P in
theorem canonicalPayload_eq_ok {payload : List UInt8} (h : checkpoint.canonicalPayload size = .ok payload)
    : payload = toCanonicalBytes checkpoint
      ∧ fromCanonicalBytes (toCanonicalBytes checkpoint) checkpointLimits = .ok checkpoint := by
  unfold PayoutRecoveryCheckpointV1.canonicalPayload at h
  simp only [bind_unit_eq_ok] at h
  obtain ⟨_, _, h⟩ := h
  obtain ⟨decoded, hdecoded, h⟩ := Except.bind_eq_ok h
  rw [Except.mapError_eq_ok] at hdecoded
  simp only [bind_unit_eq_ok, rejectIf_eq_ok, not_or, not_not] at h
  obtain ⟨⟨hsame, _⟩, h⟩ := h
  injection h with h
  rw [hsame] at hdecoded
  exact ⟨h.symm, hdecoded⟩

theorem networkId_of_verifyCheckpoint (h : policy.verifyCheckpoint checkpoint = .ok ())
    : checkpoint.networkId = policy.networkId := by
  unfold PayoutRecoveryCommitteePolicyV1.verifyCheckpoint at h
  simp only [bind_unit_eq_ok, rejectIf_eq_ok, not_or, not_not] at h
  exact h.2.1

theorem sourceFenceMatches_obeys {n n' : UInt8} {fence : PayoutRecoverySourceFenceV1}
    : Obeys journalRely (CheckpointStep n') (sourceFenceMatches n fence) s
        fun _ s' => journalRely.rel s s' := by
  unfold sourceFenceMatches
  apply bind_get (CheckpointStep.read _)
  intro s₁ hs₁
  split
  . apply Obeys.pure
    intro s₂ hs₂
    exact journalRely.trans hs₁ hs₂
  . apply bind_ofExcept
    intro observed _
    apply Obeys.pure
    intro s₂ hs₂
    exact journalRely.trans hs₁ hs₂

theorem loadCheckpointAtHead_obeys {n : UInt8}
    : Obeys journalRely (CheckpointStep n) (loadCheckpointAtHead size policy head) s
        fun previous s' => CheckpointAt s' head previous := by
  unfold loadCheckpointAtHead
  apply Obeys.bind
  apply Obeys.adapt
  apply Obeys.get (CheckpointStep.read _)
  intro s₁ s₂ _ hs₂
  cases hpayload : s₁.find (journalRow .payoutRecoveryCheckpoint head.checkpointWrapperId.toList) with
  | none => apply Obeys.throw
  | some payload =>
    apply bind_ofExcept
    intro previous hprevious
    rw [Except.mapError_eq_ok] at hprevious
    apply bind_check
    apply bind_ofExcept
    intro _ hchecked
    simp only [rejectIf_eq_ok, not_or, not_not] at hchecked
    apply bind_check
    apply Obeys.pure
    intro s₃ hs₃
    refine ⟨payload, ?_, hprevious, hchecked.2.2.1⟩
    exact journalRely.trans hs₂ hs₃ _ _ (isJournal_journalRow _ _) hpayload

variable {bytes : List UInt8} {current : PayoutRecoveryHeadV1}

theorem checkSuccessor_obeys {n : UInt8} (hcurrent : decodeHead checkpoint.networkId bytes = .ok current)
    : Obeys journalRely (CheckpointStep n) (checkSuccessor size checkpoint policy current) s
        fun _ s' => Admitted s' checkpoint (some bytes) := by
  apply bind_ofExcept
  intro _ hsequence
  simp only [rejectIf_eq_ok, not_or, not_not] at hsequence
  apply loadCheckpointAtHead_obeys.seq
  intro previous s₁ hprevious
  apply Obeys.ofExcept
  intro _ s₂ htransition hs₂
  exact ⟨current, previous, hcurrent, hsequence.1, hsequence.2, hprevious.rely hs₂, htransition⟩

theorem confirmCurrent_obeys {n : UInt8}
    : Obeys journalRely (CheckpointStep n) (confirmCurrent size checkpoint policy bytes current) s
        fun _ _ => True := by
  unfold confirmCurrent
  split
  . apply Obeys.throw
  . apply loadCheckpointAtHead_obeys.seq
    intro _ s₁ _
    apply Obeys.bind
    apply Obeys.applyBatchIfAll (CheckpointStep.read _)
    . intro s₂ _ _
      refine ⟨CheckpointStep.read _ s₂, ?_⟩
      intro s₃ _
      exact Obeys.pure fun _ _ => trivial
    . intro s₂ s₃ _ _ _
      apply Obeys.throw

theorem installCheckpoint_obeys
    (hdecodes : fromCanonicalBytes (toCanonicalBytes checkpoint) checkpointLimits = .ok checkpoint)
    (hadmitted : Admitted s checkpoint existing)
    : Obeys journalRely (CheckpointStep checkpoint.networkId)
        (installCheckpoint checkpoint (toCanonicalBytes checkpoint) existing) s fun _ _ => True := by
  unfold installCheckpoint
  apply Obeys.bind
  apply Obeys.adapt
  apply (persistRecordsWithConditionsAndBatch_obeys id (CheckpointStep.read _) ?_).mono
  . intro outcome s₁ _
    split
    . exact Obeys.pure fun _ _ => trivial
    . apply sourceFenceMatches_obeys.seq
      intro isMatch s₂ _
      split
      . apply bind_get (CheckpointStep.read _)
        intro s₃ _
        split
        . exact Obeys.pure fun _ _ => trivial
        . apply Obeys.throw
      . apply Obeys.throw
    . apply Obeys.throw
  . intro before after hs hcommits
    have hexisting : before.find (checkpointHeadRow checkpoint.networkId) = existing :=
      hcommits.conditions _ (List.mem_cons_self ..)
    have hinstalls : Installs checkpoint.networkId checkpoint before after := by
      constructor
      case network => rfl
      case decodes => exact hdecodes
      case admitted =>
        rw [hexisting]
        exact hadmitted.rely hs
      case fence => exact hcommits.conditions _ (List.mem_cons_of_mem _ (List.mem_cons_self ..))
      case recorded => exact hcommits.recorded (List.mem_cons_self ..)
      case head =>
        rw [hcommits.find_of_isJournal_eq_false rfl]
        exact Store.find_apply_put before _ _
      case journal => exact hcommits.rely
    exact .installs hinstalls

theorem persistPayoutRecoveryCheckpoint_obeys
    : Obeys journalRely (CheckpointStep policy.networkId)
        (persistPayoutRecoveryCheckpoint size checkpoint policy) s fun _ _ => True := by
  unfold persistPayoutRecoveryCheckpoint
  apply bind_ofExcept
  intro payload hpayload
  obtain ⟨rfl, hdecodes⟩ := canonicalPayload_eq_ok hpayload
  apply bind_ofExcept
  intro _ hverified
  rw [← networkId_of_verifyCheckpoint hverified]
  apply sourceFenceMatches_obeys.seq
  intro isMatch s₁ _
  split
  . apply Obeys.throw
  . apply bind_get (CheckpointStep.read _)
    intro s₂ _
    cases s₂.find (checkpointHeadRow checkpoint.networkId) with
    | some bytes =>
      apply bind_ofExcept
      intro current hcurrent
      split
      . exact confirmCurrent_obeys
      . apply (checkSuccessor_obeys hcurrent).seq
        intro _ s₃ hadmitted
        exact installCheckpoint_obeys hdecodes hadmitted
    | none =>
      apply bind_ofExcept
      intro _ hfirst
      simp only [rejectIf_eq_ok, not_or, not_not] at hfirst
      exact installCheckpoint_obeys hdecodes hfirst

/-!
### Runs
-/

/-- The calls of a pool: checkpoints for one committee, and whatever else writes or deletes its fence. -/
inductive CheckpointCall where
  | persist (checkpoint : PayoutRecoveryCheckpointV1)
  | writeFence (conditions : List BatchCondition) (value : Option (List UInt8))

def fenceOperation (n : UInt8) : Option (List UInt8) → BatchOperation
  | some value => .put (sourceFenceRow n) value
  | none => .delete (sourceFenceRow n)

variable (size policy) in
def CheckpointCall.program : CheckpointCall → Program storeMachine Unit
  | persist checkpoint =>
    (persistPayoutRecoveryCheckpoint size checkpoint policy).run >>= fun _ => .pure ()
  | writeFence conditions value =>
    (StoreM.applyBatchIfAll conditions [fenceOperation policy.networkId value]
      : StoreM PayoutRecoveryError Bool).run >>= fun _ => .pure ()

theorem fenceOperation_step (n : UInt8) (value : Option (List UInt8)) (s : Store)
    : CheckpointStep n s (s.applyAll [fenceOperation n value]) := by
  have hother : ∀ row, row.space ≠ payoutRecoverySourceFenceNamespace
      → (s.applyAll [fenceOperation n value]).find row = s.find row := by
    intro row hrow
    apply Store.find_applyAll_of_notMem
    intro operation hop heq
    rw [List.mem_singleton] at hop
    rw [← heq, hop] at hrow
    cases value <;> exact hrow rfl
  apply CheckpointStep.other
  . apply hother
    simp [checkpointHeadRow, payoutRecoveryHeadNamespace, payoutRecoverySourceFenceNamespace]
  . intro row value hrow hfind
    rw [hother, hfind]
    intro hspace
    unfold isJournal at hrow
    rw [hspace] at hrow
    contradiction

theorem CheckpointCall.contract
    : Pool.Contract (fun _ => journalRely) (fun _ => CheckpointStep policy.networkId)
        (CheckpointCall.program size policy) fun _ _ => True where
  symm _ _ _ := trivial
  respected _ _ _ _ _ hstep := hstep.rely
  obeyed := by
    intro call s
    cases call with
    | persist checkpoint => exact persistPayoutRecoveryCheckpoint_obeys.discard
    | writeFence conditions value =>
      apply Obeys.discard (Q := fun _ _ => True)
      apply Obeys.applyBatchIfAll (CheckpointStep.read _)
      . intro s₁ _ _
        exact ⟨fenceOperation_step _ value s₁, fun _ _ => trivial⟩
      . intro _ _ _ _ _
        trivial

/-- The head names the last checkpoint of the chain, and every checkpoint is in the journal. -/
structure Chained (n : UInt8) (s : Store) (chain : List PayoutRecoveryCheckpointV1) : Prop where
  ordered : CheckpointChain chain
  head : s.find (checkpointHeadRow n) = chain.getLast?.map headBytes
  recorded : ∀ checkpoint ∈ chain,
    s.find (toPrepared (checkpointRecord checkpoint)).row = some (toCanonicalBytes checkpoint)
  decodes : ∀ checkpoint ∈ chain,
    fromCanonicalBytes (toCanonicalBytes checkpoint) checkpointLimits = .ok checkpoint

variable {n : UInt8} {before after : Store} {chain : List PayoutRecoveryCheckpointV1}

theorem Chained.keeps (h : Chained n before chain) (hs : journalRely.rel before after)
    (hhead : after.find (checkpointHeadRow n) = before.find (checkpointHeadRow n))
    : Chained n after chain where
  ordered := h.ordered
  head := by rw [hhead, h.head]
  recorded checkpoint hmem := hs _ _ (isJournal_journalRow _ _) (h.recorded checkpoint hmem)
  decodes := h.decodes

theorem Chained.eq_of_checkpointAt {last : PayoutRecoveryCheckpointV1} (h : Chained n before chain)
    (hlast : chain.getLast? = some last) (hprevious : CheckpointAt before (checkpointHead last) previous)
    : previous = last := by
  have hmem := List.mem_of_getLast? hlast
  obtain ⟨payload, hpayload, hdecoded, _⟩ := hprevious
  have hrecorded := h.recorded last hmem
  change before.find (journalRow .payoutRecoveryCheckpoint (checkpointHead last).checkpointWrapperId.toList)
    = _ at hrecorded
  rw [hpayload, Option.some.injEq] at hrecorded
  rw [hrecorded, h.decodes last hmem] at hdecoded
  injection hdecoded with hdecoded
  exact hdecoded.symm

theorem Chained.installs (h : Chained n before chain) (hstep : Installs n checkpoint before after)
    : Chained n after (chain ++ [checkpoint]) := by
  have hadmitted := hstep.admitted
  rw [h.head] at hadmitted
  constructor
  case ordered =>
    cases hlast : chain.getLast? with
    | none =>
      rw [hlast] at hadmitted
      have hempty := List.getLast?_eq_none_iff.mp hlast
      apply h.ordered.append
      . rw [hadmitted.1, hempty]
        rfl
      . exact fun _ => hadmitted.2
      . intro previous hprevious
        rw [hlast] at hprevious
        contradiction
    | some last =>
      rw [hlast] at hadmitted
      obtain ⟨current, previous, hcurrent, hsequence, hid, hprevious, htransition⟩ := hadmitted
      have hhead := decodeHead_encodeHead hcurrent
      rw [hhead] at hsequence hid hprevious
      rw [h.eq_of_checkpointAt hlast hprevious] at htransition
      apply h.ordered.append
      . have hplace := hlast
        rw [List.getLast?_eq_getElem?] at hplace
        have hlength := (List.getElem?_eq_some_iff.mp hplace).1
        rw [UInt64.toNat_of_checkedAdd_eq_some hsequence]
        change last.checkpointSequence.toNat + 1 = _
        rw [h.ordered.sequences _ _ hplace]
        omega
      . intro hempty
        rw [hempty] at hlast
        contradiction
      . intro previous hprevious
        rw [hlast, Option.some.injEq] at hprevious
        rw [← hprevious]
        exact checkpointSucceeds_of_transition hid htransition
  case head =>
    rw [hstep.head, List.getLast?_concat]
    rfl
  case recorded =>
    intro other hmem
    rcases List.mem_append.mp hmem with hmem | hmem
    . exact hstep.journal _ _ (isJournal_journalRow _ _) (h.recorded other hmem)
    . rw [List.mem_singleton.mp hmem]
      exact hstep.recorded
  case decodes =>
    intro other hmem
    rcases List.mem_append.mp hmem with hmem | hmem
    . exact h.decodes other hmem
    . rw [List.mem_singleton.mp hmem]
      exact hstep.decodes

/-- A change of the head: the checkpoint that it installs, and the fence at that moment. -/
structure CommittedIn (n : UInt8) (change : Store × Store) (checkpoint : PayoutRecoveryCheckpointV1)
    : Prop where
  head : change.2.find (checkpointHeadRow n) = some (headBytes checkpoint)
  fence : change.1.find (sourceFenceRow n) = some (encodeSourceFence n checkpoint.sourceFence)

def headChanges (n : UInt8) (steps : List (Store × Store)) : List (Store × Store) :=
  steps.filter fun step => step.2.find (checkpointHeadRow n) ≠ step.1.find (checkpointHeadRow n)

omit P in
theorem headChanges_append_of_eq {steps : List (Store × Store)}
    (h : after.find (checkpointHeadRow n) = before.find (checkpointHeadRow n))
    : headChanges n (steps ++ [(before, after)]) = headChanges n steps := by
  simp [headChanges, h]

omit P in
theorem headChanges_append_of_ne {steps : List (Store × Store)}
    (h : after.find (checkpointHeadRow n) ≠ before.find (checkpointHeadRow n))
    : headChanges n (steps ++ [(before, after)]) = headChanges n steps ++ [(before, after)] := by
  simp [headChanges, h]

abbrev CheckpointPool (ι : Type) := Pool ι CheckpointCall storeMachine Unit

variable {ι : Type} [DecidableEq ι] {store : Store} {pool : CheckpointPool ι} {steps : List (Store × Store)}

theorem CheckpointPool.chained (hstore : store.find (checkpointHeadRow policy.networkId) = none)
    (h : Pool.Trace (CheckpointCall.program size policy) (Pool.idle store) steps pool)
    : ∃ chain, List.Forall₂ (CommittedIn policy.networkId) (headChanges policy.networkId steps) chain
      ∧ Chained policy.networkId pool.state chain := by
  apply CheckpointCall.contract.trace (fun _ _ => trivial) (Pool.separate_idle store) h
    (I := fun steps s => ∃ chain,
      List.Forall₂ (CommittedIn policy.networkId) (headChanges policy.networkId steps) chain
      ∧ Chained policy.networkId s chain)
  . refine ⟨[], .nil, checkpointChain_nil, hstore, ?_, ?_⟩ <;> simp
  . intro steps s s' ⟨chain, hcommitted, hchained⟩ hstep
    by_cases hsame : s'.find (checkpointHeadRow policy.networkId) = s.find (checkpointHeadRow policy.networkId)
    . have hs : journalRely.rel s s' := by
        rcases hstep with rfl | ⟨_, hstep⟩
        . exact journalRely.refl _
        . exact hstep.rely
      rw [headChanges_append_of_eq hsame]
      exact ⟨chain, hcommitted, hchained.keeps hs hsame⟩
    . rw [headChanges_append_of_ne hsame]
      rcases hstep with rfl | ⟨_, hstep⟩
      . contradiction
      . cases hstep with
        | other hhead _ => contradiction
        | @installs checkpoint hinstalls =>
          refine ⟨chain ++ [checkpoint], ?_, hchained.installs hinstalls⟩
          exact List.rel_append hcommitted (.cons ⟨hinstalls.head, hinstalls.fence⟩ .nil)

theorem CheckpointPool.headChanges_checkpointChain (hstore : store.find (checkpointHeadRow policy.networkId) = none)
    (h : Pool.Trace (CheckpointCall.program size policy) (Pool.idle store) steps pool)
    : ∃ chain, List.Forall₂ (CommittedIn policy.networkId) (headChanges policy.networkId steps) chain
      ∧ CheckpointChain chain
      ∧ pool.state.find (checkpointHeadRow policy.networkId) = chain.getLast?.map headBytes
      ∧ ∀ a ∈ chain, ∀ b ∈ chain, a.checkpointSequence = b.checkpointSequence
        → objectId a = objectId b := by
  obtain ⟨chain, hcommitted, hchained⟩ := CheckpointPool.chained hstore h
  refine ⟨chain, hcommitted, hchained.ordered, hchained.head, ?_⟩
  intro a ha b hb heq
  rw [hchained.ordered.eq_of_sequence ha hb heq]

end

/-- A committee of one member seals the state before the first snapshot, twice. -/
def sampleRecoveryPolicy : PayoutRecoveryCommitteePolicyV1 where
  networkId := 2
  settlementCommitteeId := .fill 32 6
  payoutPolicyFingerprint := .fill 32 1
  threshold := 1
  members := .ofList [.fill 32 41]

def sampleSourceFence : PayoutRecoverySourceFenceV1 where
  dispositionCount := 0
  dispositionCommitment := .zero 32
  snapshotCount := 0
  snapshotHeadId := .zero 32
  planCount := 0
  planHeadId := .zero 32
  canonicalEventCount := 0
  canonicalEventCommitment := .zero 32

def sampleCheckpoint (sequence : UInt64) (previousCheckpointId : Hash256) : PayoutRecoveryCheckpointV1 :=
  letI := Primitives.fold
  let checkpoint : PayoutRecoveryCheckpointV1 := {
    coreProtocolVersion := coreV2
    checkpointVersion := payoutRecoveryCheckpointV1
    networkId := 2
    checkpointSequence := sequence
    previousCheckpointId
    payoutPolicyFingerprint := .fill 32 1
    sourceFence := sampleSourceFence
    accumulator := {
      networkId := 2
      nextSequence := 1
      previousSnapshotId := .zero 32
      snapshotStepWork := .fill 64 1
      pplnsWindowWork := .fill 64 2
      settlementCommitteeId := .fill 32 6
      closedSessions := []
      newWorkSinceSnapshot := .zero 64 }
    expectedPlans := []
    canonicalPlanBindings := []
    signerSet := .emptyEd25519 }
  { checkpoint with
    signerSet := ⟨ed25519Suite, [Crypto.signCertificate (.fill 32 41) 2 checkpoint]⟩ }

def sampleFirstCheckpoint : PayoutRecoveryCheckpointV1 := sampleCheckpoint 1 (.zero 32)

def sampleSecondCheckpoint : PayoutRecoveryCheckpointV1 :=
  letI := Primitives.fold
  sampleCheckpoint 2 (objectId sampleFirstCheckpoint)

def sampleCheckpointCalls : List CheckpointCall :=
  [ .writeFence [] (some (encodeSourceFence 2 sampleSourceFence)), .persist sampleFirstCheckpoint,
    .persist sampleSecondCheckpoint ]

theorem sampleCheckpointCalls_checkpointChain
    : letI := Primitives.fold
      ∃ (steps : List (Store × Store)) (pool : CheckpointPool Unit) (chain : List _),
        Pool.Trace (CheckpointCall.program 0 sampleRecoveryPolicy) (Pool.idle ∅) steps pool
        ∧ pool.state.find (checkpointHeadRow 2) = some (headBytes sampleSecondCheckpoint)
        ∧ List.Forall₂ (CommittedIn 2) (headChanges 2 steps) chain ∧ CheckpointChain chain
        ∧ chain.getLast?.map headBytes = some (headBytes sampleSecondCheckpoint) := by
  have hhead : letI := Primitives.fold
      (Pool.after (CheckpointCall.program 0 sampleRecoveryPolicy) sampleCheckpointCalls ∅).find
        (checkpointHeadRow 2) = some (headBytes sampleSecondCheckpoint) := by
    decide +kernel
  obtain ⟨pool, hreaches, hstate⟩ : letI := Primitives.fold
      ∃ pool : CheckpointPool Unit,
        Pool.Reaches (CheckpointCall.program 0 sampleRecoveryPolicy) (Pool.idle ∅) pool
        ∧ pool.state.find (checkpointHeadRow 2) = some (headBytes sampleSecondCheckpoint) :=
    ⟨_, Pool.reaches_after _ () sampleCheckpointCalls ∅, by rw [Pool.idle_state, hhead]⟩
  obtain ⟨steps, hsteps⟩ := Pool.exists_trace hreaches
  obtain ⟨chain, hcommitted, hchain, hlast, _⟩ :=
    CheckpointPool.headChanges_checkpointChain (P := .fold) rfl hsteps
  exact ⟨steps, pool, chain, hsteps, hstate, hcommitted, hchain, hlast.symm.trans hstate⟩

end MeshMine.Settlement
