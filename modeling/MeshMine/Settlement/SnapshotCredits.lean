import MeshMine.Settlement.AccumulatorRuns

/-!
What a snapshot says about credit: the sessions of the window are the newest ones that reach it, and the bucket
leaves divide the credits of these sessions by bucket without loss.
-/

namespace MeshMine.Settlement

open MeshMine.Types WeightedWindow
open Except (bind_eq_ok)

theorem sumCredits_append (as bs : List BucketCredit) : sumCredits (as ++ bs) = sumCredits as + sumCredits bs := by
  simp [sumCredits]

theorem sorted_middle {before after : BucketTotals} {entry : Hash256 × PayoutBucketV2 × Nat}
    (hsorted : (before ++ after).Pairwise fun a b => a.1 < b.1) (hbefore : ∀ e ∈ before, e.1 < entry.1)
    (hafter : ∀ e ∈ after.head?, entry.1 < e.1)
    : (before ++ entry :: after).Pairwise fun a b => a.1 < b.1 := by
  rw [List.pairwise_append] at hsorted ⊢
  obtain ⟨hb, ha, hba⟩ := hsorted
  refine ⟨hb, List.pairwise_cons.mpr ⟨?_, ha⟩, ?_⟩
  . intro e he
    cases after with
    | nil => contradiction
    | cons first rest =>
      have hfirst := hafter first rfl
      rcases List.mem_cons.mp he with rfl | he
      . exact hfirst
      . exact hfirst.trans ((List.pairwise_cons.mp ha).1 e he)
  . intro e he e' he'
    rcases List.mem_cons.mp he' with rfl | he'
    . exact hbefore e he
    . exact hba e he e' he'

theorem toNat_of_bigToU512 {value : Nat} {word : U512} (h : bigToU512 value = .ok word) : word.toNat = value := by
  have hlt : value < 2 ^ (8 * 64) := by
    unfold bigToU512 at h
    split at h
    . contradiction
    next hbits => exact Bytes.bitLength_le_iff.mp (Nat.not_lt.mp hbits)
  obtain ⟨other, hother, htoNat⟩ := bigToU512_eq_ok hlt
  rw [h] at hother
  injection hother with hother
  rw [hother, htoNat]

theorem sumCredits_flatMap_work (sessions : List ClosedSessionCredits)
    : sumCredits (sessions.flatMap (·.work)) = total ClosedSessionCredits.totalWork sessions := by
  induction sessions with
  | nil => rfl
  | cons session sessions ih =>
    rw [List.flatMap_cons, sumCredits_append, ih, total_cons]
    rfl

variable {self : SnapshotAccumulator} {size : Nat}

namespace SnapshotAccumulator

variable {checkpoint : SnapshotAccumulatorCheckpoint}

theorem fromCheckpoint_window {limits : SnapshotAccumulatorLimits}
    (h : fromCheckpoint size checkpoint limits = .ok self)
    : self.pplnsWindowWork = checkpoint.pplnsWindowWork.toNat
        ∧ ∃ dropped,
            checkpoint.closedSessions = dropped ++ self.closedSessions
              ∧ (dropped = [] ∨ self.pplnsWindowWork ≤ work self.closedSessions) := by
  obtain ⟨accumulator, hrestored, h⟩ := bind_eq_ok h
  obtain ⟨⟨⟩, hlimits, h⟩ := bind_eq_ok h
  injection h with h
  obtain ⟨hcounts, hsessions, hwindow, -⟩ := restored_eq_ok hrestored
  have heq : pruneRetainedPrefix size accumulator = _ := (hcounts.prune rfl).2
  have hreaches := deadPrefix_reaches ClosedSessionCredits.totalWork accumulator.pplnsWindowWork
    accumulator.closedSessions []
  dsimp only at hreaches
  rw [List.append_nil, List.append_nil, ← work, ← hcounts.work_eq] at hreaches
  generalize deadPrefix _ _ _ _ = count at heq hreaches
  rw [← h, heq, ← hsessions]
  refine ⟨hwindow, accumulator.closedSessions.take count, (List.take_append_drop ..).symm, ?_⟩
  rcases hreaches with hzero | hreaches
  . left
    rw [hzero, List.take_zero]
  . right
    exact hreaches

theorem checkpoint_eq_ok (h : self.checkpoint = .ok checkpoint)
    : checkpoint.closedSessions = self.closedSessions
        ∧ checkpoint.pplnsWindowWork.toNat = self.pplnsWindowWork := by
  unfold SnapshotAccumulator.checkpoint at h
  split at h
  . contradiction
  obtain ⟨step, hstep, h⟩ := bind_eq_ok h
  obtain ⟨window, hwindow, h⟩ := bind_eq_ok h
  obtain ⟨newWork, hnewWork, h⟩ := bind_eq_ok h
  injection h with h
  rw [← h]
  exact ⟨rfl, toNat_of_bigToU512 hwindow⟩

end SnapshotAccumulator

section

variable [P : Primitives]

/-!
### Merging credits
-/

def creditOf (id : Hash256) (credits : List BucketCredit) : Nat :=
  sumCredits (credits.filter fun credit => objectId credit.bucket = id)

theorem creditOf_append (id : Hash256) (as bs : List BucketCredit)
    : creditOf id (as ++ bs) = creditOf id as + creditOf id bs := by
  unfold creditOf
  rw [List.filter_append, sumCredits_append]

theorem creditOf_singleton (id : Hash256) (credit : BucketCredit)
    : creditOf id [credit] = if objectId credit.bucket = id then credit.credit.toNat else 0 := by
  unfold creditOf
  by_cases h : objectId credit.bucket = id <;> simp [h, sumCredits]

structure Totals (credits : List BucketCredit) (buckets : BucketTotals) : Prop where
  sorted : buckets.Pairwise fun a b => a.1 < b.1
  total : ∀ entry ∈ buckets, entry.2.2 = creditOf entry.1 credits
  source : ∀ entry ∈ buckets, ∃ credit ∈ credits, credit.bucket = entry.2.1 ∧ objectId credit.bucket = entry.1
  metadata : ∀ entry ∈ buckets, ∀ credit ∈ credits, objectId credit.bucket = entry.1
    → unsignedBytes credit.bucket = unsignedBytes entry.2.1
  complete : ∀ credit ∈ credits, ∃ entry ∈ buckets, entry.1 = objectId credit.bucket
  sum : (buckets.map (·.2.2)).sum = sumCredits credits

variable {buckets buckets' : BucketTotals}

theorem mergeCredit_cases {credit : BucketCredit} (h : mergeCredit credit buckets = .ok buckets')
    : (∃ before after, buckets = before ++ after
        ∧ buckets' = before ++ (objectId credit.bucket, credit.bucket, credit.credit.toNat) :: after
        ∧ (∀ entry ∈ before, entry.1 < objectId credit.bucket)
        ∧ ∀ entry ∈ after.head?, objectId credit.bucket < entry.1)
      ∨ ∃ before after bucket total, buckets = before ++ (objectId credit.bucket, bucket, total) :: after
        ∧ buckets' = before ++ (objectId credit.bucket, bucket, total + credit.credit.toNat) :: after
        ∧ unsignedBytes bucket = unsignedBytes credit.bucket := by
  induction buckets generalizing buckets' with
  | nil =>
    injection h with h
    exact .inl ⟨[], [], rfl, h.symm, by simp, by simp⟩
  | cons entry buckets ih =>
    obtain ⟨id, bucket, total⟩ := entry
    unfold mergeCredit at h
    split at h
    next hlt =>
      injection h with h
      exact .inl ⟨[], _, rfl, h.symm, by simp, by simpa using hlt⟩
    next hle =>
      split at h
      next heq =>
        split at h
        next => contradiction
        next hbytes =>
          injection h with h
          rw [not_not] at hbytes
          subst heq
          exact .inr ⟨[], buckets, bucket, total, rfl, h.symm, hbytes⟩
      next hne =>
        obtain ⟨merged, hmerged, h⟩ := bind_eq_ok h
        injection h with h
        subst h
        rcases ih hmerged with ⟨before, after, rfl, rfl, hbefore, hafter⟩ | ⟨before, after, b, t, rfl, rfl, hbytes⟩
        . refine .inl ⟨(id, bucket, total) :: before, after, rfl, rfl, ?_, hafter⟩
          rw [List.forall_mem_cons]
          exact ⟨lt_of_le_of_ne (not_lt.mp hle) (Ne.symm hne), hbefore⟩
        . exact .inr ⟨(id, bucket, total) :: before, after, b, t, rfl, rfl, hbytes⟩

variable {id : Hash256}

theorem creditOf_eq_zero {credits : List BucketCredit} (h : ∀ credit ∈ credits, objectId credit.bucket ≠ id)
    : creditOf id credits = 0 := by
  unfold creditOf
  rw [List.filter_eq_nil_iff.mpr]
  . rfl
  . intro credit hcredit
    simpa using h credit hcredit

theorem totals_nil : Totals [] [] := by
  constructor <;> simp [sumCredits]

namespace Totals

variable {credits : List BucketCredit} {credit : BucketCredit} {before after : BucketTotals} {total : Nat}

theorem total_of_ne (htotal : total = creditOf id credits) (hne : objectId credit.bucket ≠ id)
    : total = creditOf id (credits ++ [credit]) := by
  rw [creditOf_append, creditOf_singleton, if_neg hne, htotal, Nat.add_zero]

/-- The entry of the credit's bucket, a new one or the old one, takes the credit up. -/
theorem place {old : BucketTotals} {bucket : PayoutBucketV2} (h : Totals credits (before ++ old ++ after))
    (hold : (old = [] ∧ bucket = credit.bucket ∧ total = 0) ∨ old = [(objectId credit.bucket, bucket, total)])
    (hbytes : unsignedBytes bucket = unsignedBytes credit.bucket)
    (hsorted : (before ++ (objectId credit.bucket, bucket, total + credit.credit.toNat) :: after).Pairwise
      fun a b => a.1 < b.1)
    : Totals (credits ++ [credit])
        (before ++ (objectId credit.bucket, bucket, total + credit.credit.toNat) :: after) := by
  have hne : ∀ e ∈ before ++ after, objectId credit.bucket ≠ e.1 := by
    intro e he
    rw [List.pairwise_append, List.pairwise_cons] at hsorted
    rcases List.mem_append.mp he with he | he
    . exact (hsorted.2.2 e he _ (List.mem_cons_self ..)).ne'
    . exact (hsorted.2.1.1 e he).ne
  have hmem : ∀ {e middle}, e ∈ before ++ middle ++ after ↔ e ∈ before ++ after ∨ e ∈ middle := by
    intro e middle
    simp only [List.mem_append]
    tauto
  have hfresh : old = [] → ∀ other ∈ credits, objectId other.bucket ≠ objectId credit.bucket := by
    rintro rfl other hother heq
    obtain ⟨e, he, hid⟩ := h.complete other hother
    rcases hmem.mp he with he | he
    . exact hne e he (heq.symm.trans hid.symm)
    . contradiction
  rw [List.append_cons before]
  refine ⟨by rwa [← List.append_cons], ?_, ?_, ?_, ?_, ?_⟩
  . intro e he
    rcases hmem.mp he with he | he
    . exact total_of_ne (h.total e (hmem.mpr (.inl he))) (hne e he)
    . rw [List.mem_singleton.mp he, creditOf_append, creditOf_singleton, if_pos rfl]
      rcases hold with ⟨hnil, -, rfl⟩ | rfl
      . rw [creditOf_eq_zero (hfresh hnil)]
      . rw [← h.total _ (hmem.mpr (.inr (List.mem_singleton_self _)))]
  . intro e he
    have hsource : ∀ e ∈ before ++ old ++ after, ∃ other ∈ credits ++ [credit],
        other.bucket = e.2.1 ∧ objectId other.bucket = e.1 := by
      intro e he
      obtain ⟨other, hother, hrest⟩ := h.source e he
      exact ⟨other, List.mem_append_left _ hother, hrest⟩
    rcases hmem.mp he with he | he
    . exact hsource e (hmem.mpr (.inl he))
    . rw [List.mem_singleton.mp he]
      rcases hold with ⟨-, rfl, -⟩ | rfl
      . exact ⟨credit, by simp, rfl, rfl⟩
      . exact hsource (_, _, total) (hmem.mpr (.inr (List.mem_singleton_self _)))
  . intro e he other hother hid
    rw [List.mem_append, List.mem_singleton] at hother
    rcases hmem.mp he with hin | hin
    . rcases hother with hother | rfl
      . exact h.metadata e (hmem.mpr (.inl hin)) other hother hid
      . exact absurd hid (hne e hin)
    . rw [List.mem_singleton.mp hin] at hid ⊢
      rcases hother with hother | rfl
      . rcases hold with ⟨hnil, -, -⟩ | rfl
        . exact absurd hid (hfresh hnil other hother)
        . exact h.metadata _ (hmem.mpr (.inr (List.mem_singleton_self _))) other hother hid
      . exact hbytes.symm
  . intro other hother
    rw [List.mem_append, List.mem_singleton] at hother
    rcases hother with hother | rfl
    . obtain ⟨e, he, hid⟩ := h.complete other hother
      rcases hmem.mp he with he | he
      . exact ⟨e, hmem.mpr (.inl he), hid⟩
      . rcases hold with ⟨rfl, -, -⟩ | rfl
        . contradiction
        . rw [List.mem_singleton.mp he] at hid
          exact ⟨_, hmem.mpr (.inr (List.mem_singleton_self _)), hid⟩
    . exact ⟨_, hmem.mpr (.inr (List.mem_singleton_self _)), rfl⟩
  . rw [sumCredits_append, ← h.sum]
    rcases hold with ⟨rfl, -, rfl⟩ | rfl
    all_goals
      simp only [List.map_append, List.map_cons, List.sum_append, List.sum_cons, sumCredits, List.map_nil, List.sum_nil]
      omega

theorem merge (h : Totals credits buckets) (hmerge : mergeCredit credit buckets = .ok buckets')
    : Totals (credits ++ [credit]) buckets' := by
  rcases mergeCredit_cases hmerge with ⟨before, after, rfl, rfl, hbefore, hafter⟩
    | ⟨before, after, b, t, rfl, rfl, hbytes⟩
  . have hsorted : (before ++ (objectId credit.bucket, credit.bucket, 0 + credit.credit.toNat) :: after).Pairwise
        fun a b => a.1 < b.1 := sorted_middle h.sorted hbefore hafter
    rw [← List.append_nil before] at h
    have hplaced := h.place (.inl ⟨rfl, rfl, rfl⟩) rfl hsorted
    rwa [Nat.zero_add] at hplaced
  . have hsorted := h.sorted
    rw [List.append_cons] at h
    apply h.place (.inr rfl) hbytes
    simpa only [List.pairwise_append, List.pairwise_cons, List.forall_mem_cons] using hsorted

theorem foldlM (h : Totals credits buckets) {more : List BucketCredit}
    (hfold : more.foldlM (fun buckets credit => mergeCredit credit buckets) buckets = .ok buckets')
    : Totals (credits ++ more) buckets' := by
  induction more generalizing credits buckets with
  | nil =>
    injection hfold with hfold
    rwa [← hfold, List.append_nil]
  | cons credit more ih =>
    rw [List.foldlM_cons] at hfold
    obtain ⟨merged, hmerged, hfold⟩ := bind_eq_ok hfold
    have := ih (h.merge hmerged) hfold
    rwa [List.append_assoc] at this

end Totals

/-!
### Leaves
-/

/-- The leaves divide the credits: each credit counts for the one leaf of its bucket. -/
structure Divides {α : Type} (id : α → Hash256) (amount : α → U512) (credits : List BucketCredit) (leaves : List α)
    : Prop where
  sorted : leaves.Pairwise fun a b => id a < id b
  credit : ∀ leaf ∈ leaves, (amount leaf).toNat = creditOf (id leaf) credits
  bucket : ∀ leaf ∈ leaves, ∀ a ∈ credits, ∀ b ∈ credits, objectId a.bucket = id leaf → objectId b.bucket = id leaf
    → unsignedBytes a.bucket = unsignedBytes b.bucket
  complete : ∀ credit ∈ credits, ∃ leaf ∈ leaves, id leaf = objectId credit.bucket
  sum : (leaves.map fun leaf => (amount leaf).toNat).sum = sumCredits credits

theorem Totals.divides {α : Type} {id : α → Hash256} {amount : α → U512} {address : α → List UInt8}
    {credits : List BucketCredit} (h : Totals credits buckets) {leaves : List α}
    (hleaves : (leaves.map fun leaf => (id leaf, address leaf, (amount leaf).toNat))
      = buckets.map fun entry => (entry.1, entry.2.1.hnsAddressHash, entry.2.2))
    : Divides id amount credits leaves := by
  have hids : leaves.map id = buckets.map (·.1) := by
    simpa [Function.comp_def] using congrArg (List.map (·.1)) hleaves
  have hamounts : (leaves.map fun leaf => (amount leaf).toNat) = buckets.map (·.2.2) := by
    simpa [Function.comp_def] using congrArg (List.map (·.2.2)) hleaves
  have hleaf : ∀ leaf ∈ leaves, ∃ entry ∈ buckets, entry.1 = id leaf ∧ entry.2.2 = (amount leaf).toNat := by
    intro leaf hmem
    have hmem := List.mem_map_of_mem (f := fun leaf => (id leaf, address leaf, (amount leaf).toNat)) hmem
    rw [hleaves, List.mem_map] at hmem
    obtain ⟨entry, hentry, heq⟩ := hmem
    simp only [Prod.mk.injEq] at heq
    exact ⟨entry, hentry, heq.1, heq.2.2⟩
  refine ⟨?_, ?_, ?_, ?_, ?_⟩
  . have hsorted := List.pairwise_map.mpr h.sorted
    rw [← hids] at hsorted
    exact List.pairwise_map.mp hsorted
  . intro leaf hmem
    obtain ⟨entry, hentry, hentryId, htotal⟩ := hleaf leaf hmem
    rw [← htotal, ← hentryId]
    exact h.total entry hentry
  . intro leaf hmem a ha b hb haid hbid
    obtain ⟨entry, hentry, hentryId, _⟩ := hleaf leaf hmem
    rw [← hentryId] at haid hbid
    rw [h.metadata entry hentry a ha haid, h.metadata entry hentry b hb hbid]
  . intro credit hcredit
    obtain ⟨entry, hentry, hentryId⟩ := h.complete credit hcredit
    have hmem := List.mem_map_of_mem (f := (·.1)) hentry
    rw [← hids, List.mem_map] at hmem
    obtain ⟨leaf, hmem, heq⟩ := hmem
    exact ⟨leaf, hmem, heq.trans hentryId⟩
  . rw [hamounts, h.sum]

variable {sessions : List ClosedSessionCredits}

theorem aggregateWork_eq_ok {leaves : List WorkBucketLeaf} (h : aggregateWork sessions = .ok leaves)
    : ∃ totals, Totals (sessions.flatMap (·.work)) totals
        ∧ (leaves.map fun leaf => (leaf.bucketId, leaf.hnsAddressHash, leaf.creditedWork.toNat))
          = totals.map fun entry => (entry.1, entry.2.1.hnsAddressHash, entry.2.2) := by
  obtain ⟨totals, hfold, h⟩ := bind_eq_ok h
  refine ⟨totals, totals_nil.foldlM hfold, Except.map_of_mapM_eq_ok ?_ h⟩
  intro entry leaf hleaf
  obtain ⟨word, hword, hleaf⟩ := bind_eq_ok hleaf
  injection hleaf with hleaf
  rw [← hleaf, ← toNat_of_bigToU512 hword]

theorem aggregateService_eq_ok {leaves : List ServiceBucketLeaf} (h : aggregateService sessions = .ok leaves)
    : ∃ totals, Totals (sessions.flatMap (·.service)) totals
        ∧ (leaves.map fun leaf => (leaf.bucketId, leaf.hnsAddressHash, leaf.certifiedServiceCredit.toNat))
          = totals.map fun entry => (entry.1, entry.2.1.hnsAddressHash, entry.2.2) := by
  obtain ⟨totals, hfold, h⟩ := bind_eq_ok h
  refine ⟨totals, totals_nil.foldlM hfold, Except.map_of_mapM_eq_ok ?_ h⟩
  intro entry leaf hleaf
  obtain ⟨word, hword, hleaf⟩ := bind_eq_ok hleaf
  injection hleaf with hleaf
  rw [← hleaf, ← toNat_of_bigToU512 hword]

/-!
### Snapshots
-/

structure Conserves (selected : List ClosedSessionCredits) (snapshot : PayoutSnapshotV2) : Prop where
  work : Divides WorkBucketLeaf.bucketId WorkBucketLeaf.creditedWork (selected.flatMap (·.work)) snapshot.workBuckets
  service : Divides ServiceBucketLeaf.bucketId ServiceBucketLeaf.certifiedServiceCredit
    (selected.flatMap (·.service)) snapshot.serviceBuckets
  window : (snapshot.workBuckets.map fun leaf => leaf.creditedWork.toNat).sum = snapshot.actualWorkInWindow.toNat

theorem conserves_buildSnapshot {context : SnapshotContext} (hwindow : 0 < context.pplnsWindowWork)
    {session : ClosedSessionCredits} {signerSet : SignatureSet} {snapshot : PayoutSnapshotV2}
    (h : buildSnapshot context sessions session signerSet = .ok snapshot)
    : Conserves (select ClosedSessionCredits.totalWork context.pplnsWindowWork (sessions ++ [session])).1 snapshot := by
  unfold buildSnapshot at h
  dsimp only at h
  split at h
  . contradiction
  obtain ⟨work, hwork, h⟩ := bind_eq_ok h
  obtain ⟨service, hservice, h⟩ := bind_eq_ok h
  obtain ⟨_, _, h⟩ := bind_eq_ok h
  obtain ⟨actual, hactual, h⟩ := bind_eq_ok h
  injection h with h
  subst h
  obtain ⟨_, htotals, hleaves⟩ := aggregateWork_eq_ok hwork
  obtain ⟨_, hserviceTotals, hserviceLeaves⟩ := aggregateService_eq_ok hservice
  have hdivides := htotals.divides hleaves
  refine ⟨hdivides, hserviceTotals.divides hserviceLeaves, ?_⟩
  rw [hdivides.sum, sumCredits_flatMap_work, toNat_of_bigToU512 hactual, select_snd hwindow]

namespace SnapshotAccumulator

/-- The sessions `history` are all that the accumulator accepted, or that the checkpoint it began with holds. -/
inductive Accepted (size : Nat) : SnapshotAccumulator → List ClosedSessionCredits → Prop where
  | new {networkId : UInt8} {firstSequence : UInt64} {previousSnapshotId committee : Hash256}
      {step window : U512} {limits : SnapshotAccumulatorLimits} {self : SnapshotAccumulator}
      (h : newWithLimits networkId firstSequence previousSnapshotId step window committee limits = .ok self)
      : Accepted size self []
  | restored {checkpoint : SnapshotAccumulatorCheckpoint} {limits : SnapshotAccumulatorLimits}
      {self : SnapshotAccumulator} (h : fromCheckpoint size checkpoint limits = .ok self)
      : Accepted size self checkpoint.closedSessions
  | restarted {self self' : SnapshotAccumulator} {history : List ClosedSessionCredits}
      {checkpoint : SnapshotAccumulatorCheckpoint} {limits : SnapshotAccumulatorLimits}
      (hself : Accepted size self history) (hcheckpoint : self.checkpoint = .ok checkpoint)
      (h : fromCheckpoint size checkpoint limits = .ok self')
      : Accepted size self' history
  | added {self self' : SnapshotAccumulator} {history : List ClosedSessionCredits} {session : ClosedSessionCredits}
      {signerSet : SignatureSet} {snapshot : Option PayoutSnapshotV2} (hself : Accepted size self history)
      (h : addClosedSession size self session signerSet = .ok (snapshot, self'))
      : Accepted size self' (history ++ [session])

theorem Accepted.retained {history : List ClosedSessionCredits} (h : Accepted size self history)
    : Inv size self
        ∧ ∃ dropped,
            history = dropped ++ self.closedSessions
              ∧ (dropped = [] ∨ self.pplnsWindowWork ≤ work self.closedSessions) := by
  induction h with
  | new h =>
    refine ⟨inv_newWithLimits h, [], ?_, .inl rfl⟩
    obtain ⟨-, rfl⟩ := newWithLimits_eq_ok h
    rfl
  | restored h => exact ⟨inv_fromCheckpoint h, (fromCheckpoint_window h).2⟩
  | @restarted self self' history checkpoint limits hself hcheckpoint h ih =>
    obtain ⟨-, dropped, hhistory, hdropped⟩ := ih
    obtain ⟨hsessions, hwindow⟩ := checkpoint_eq_ok hcheckpoint
    obtain ⟨hwindow', pruned, hpruned, hreaches⟩ := fromCheckpoint_window h
    refine ⟨inv_fromCheckpoint h, dropped ++ pruned, ?_, ?_⟩
    . rw [hhistory, ← hsessions, hpruned, List.append_assoc]
    . rcases hreaches with rfl | hreaches
      . rw [hwindow', hwindow, List.append_nil, ← List.nil_append self'.closedSessions, ← hpruned, hsessions]
        exact hdropped
      . exact .inr hreaches
  | @added self self' history session signerSet snapshot hself h ih =>
    obtain ⟨hinv, dropped, hhistory, hdropped⟩ := ih
    refine ⟨hinv.addClosedSession h, ?_⟩
    have hkept := simulates_history hhistory hdropped session
    obtain ⟨-, -, -, -, hcases⟩ := addClosedSession_eq_ok hinv h
    rcases hcases with ⟨-, -, rfl⟩ | ⟨-, closed, -, -, rfl⟩ <;> exact hkept

/-- The sessions of a snapshot: the shortest newest ones that fill the window, all of them if none do. -/
def Selected (self : SnapshotAccumulator) (history : List ClosedSessionCredits) (session : ClosedSessionCredits)
    (selected : List ClosedSessionCredits) : Prop :=
  ShortestReaching ClosedSessionCredits.totalWork self.pplnsWindowWork (history ++ [session]) selected
    ∨ (work (history ++ [session]) < self.pplnsWindowWork ∧ selected = history ++ [session]
      ∧ selected = self.closedSessions ++ [session])

theorem emitted_snapshot_conserves {size : Nat} {self self' : SnapshotAccumulator}
    {history : List ClosedSessionCredits} (hself : Accepted size self history) {session : ClosedSessionCredits}
    {signerSet : SignatureSet} {snapshot : PayoutSnapshotV2}
    (h : addClosedSession size self session signerSet = .ok (some snapshot, self'))
    : ∃ selected, Selected self history session selected ∧ Conserves selected snapshot := by
  obtain ⟨hinv, dropped, hhistory, hdropped⟩ := hself.retained
  obtain ⟨-, -, -, -, hcases⟩ := addClosedSession_eq_ok hinv h
  rcases hcases with ⟨-, hnone, -⟩ | ⟨-, closed, hclosed, hsome, -⟩
  . contradiction
  . injection hsome with hsome
    rw [← hsome, ← buildSnapshot_append _ dropped _ _ _ hdropped, ← hhistory] at hclosed
    refine ⟨_, ?_, conserves_buildSnapshot hinv.configured.window_pos hclosed⟩
    have hpos : 0 < self.context.pplnsWindowWork := hinv.configured.window_pos
    by_cases hreaches : self.pplnsWindowWork ≤ work (history ++ [session])
    . left
      exact select_shortest hpos hreaches
    . right
      have hlt : work (history ++ [session]) < self.context.pplnsWindowWork := Nat.not_le.mp hreaches
      refine ⟨hlt, select_of_lt hpos hlt, ?_⟩
      rw [select_of_lt hpos hlt, hhistory]
      -- A full window would not be short of work.
      rcases hdropped with rfl | hfull
      . rfl
      . rw [hhistory] at hreaches
        unfold work at hreaches hfull
        rw [total_append, total_append] at hreaches
        omega

end SnapshotAccumulator

end

namespace SnapshotAccumulator

theorem exists_emitted (result : Except SettlementError (Option PayoutSnapshotV2 × SnapshotAccumulator))
    (test : PayoutSnapshotV2 → Bool) (h : (result.toOption.bind (·.1)).any test = true)
    : ∃ snapshot self', result = .ok (some snapshot, self') ∧ test snapshot = true := by
  match result, h with
  | .ok (some snapshot, self'), h => exact ⟨snapshot, self', rfl, h⟩

theorem emitted_snapshot_conserves_sampleSession
    : letI := Primitives.fold
      ∃ self self' snapshot,
        Accepted 200 self [sampleSession 1]
          ∧ addClosedSession 200 self (sampleSession 2) .emptyEd25519 = .ok (some snapshot, self')
          ∧ ∃ selected, Selected self [sampleSession 1] (sampleSession 2) selected ∧ Conserves selected snapshot := by
  let P := Primitives.fold
  obtain ⟨snapshot, self', hrun, _⟩ := exists_emitted
    (addClosedSession 200 sampleStart (sampleSession 1) .emptyEd25519
      >>= fun first => addClosedSession 200 first.2 (sampleSession 2) .emptyEd25519)
    (fun _ => true) (by decide +kernel)
  obtain ⟨first, hfirst, hsecond⟩ := bind_eq_ok hrun
  have haccepted : Accepted 200 first.2 [sampleSession 1] := .added (.new newWithLimits_sampleStart) hfirst
  exact ⟨first.2, self', snapshot, haccepted, hsecond, emitted_snapshot_conserves haccepted hsecond⟩

end SnapshotAccumulator

end MeshMine.Settlement
