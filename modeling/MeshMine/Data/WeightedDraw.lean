import Mathlib.Algebra.Order.BigOperators.Group.List
import Mathlib.Algebra.Order.Ring.Nat
import Mathlib.Data.Nat.Count
import Mathlib.Order.Interval.Finset.Nat

/-!
A weighted choice among the entries of a list: a number below the sum of the weights falls into one of the
intervals that the running sums bound, and a binary search finds it. Numbers below a multiple of the sum are
taken modulo the sum, so each entry is hit in proportion to its weight.
-/

namespace WeightedDraw

/-!
### Partition points
-/

section

variable {α : Type} (pred : α → Bool)

/-- The search never looks at more than `size` elements from `base` on. -/
def partitionPoint.search (xs : List α) : Nat → Nat → Nat → Nat
  | 0, base, _ => base
  | fuel + 1, base, size =>
    if size ≤ 1 then
      base
    else
      let half := size / 2
      let mid := base + half
      search xs fuel (if xs[mid]?.any pred then mid else base) (size - half)

def partitionPoint (xs : List α) : Nat :=
  if xs.isEmpty then
    0
  else
    let base := partitionPoint.search pred xs xs.length 0 xs.length
    if xs[base]?.any pred then base + 1 else base

/-- The predicate holds of the elements before `point` and of no others. -/
def Partitioned (xs : List α) (point : Nat) : Prop :=
  ∀ i, xs[i]?.any pred ↔ i < point

variable {pred}

theorem partitionPoint.search_spec {xs : List α} {point : Nat} (h : Partitioned pred xs point) (fuel base size : Nat)
    (hfuel : size ≤ fuel + 1) (hsize : 1 ≤ size) (hbase : base = 0 ∨ base < point) (hpoint : point ≤ base + size)
    : let found := search pred xs fuel base size
      (found = 0 ∨ found < point) ∧ point ≤ found + 1 := by
  induction fuel generalizing base size with
  | zero =>
    unfold search
    dsimp only
    omega
  | succ fuel ih =>
    unfold search
    dsimp only
    split
    . omega
    . apply ih
      . omega
      . omega
      . split
        next hmid =>
          right
          exact (h _).mp hmid
        next => exact hbase
      . split
        next => omega
        next hmid =>
          rw [h] at hmid
          omega

theorem partitionPoint_eq {xs : List α} {point : Nat} (h : Partitioned pred xs point)
    : partitionPoint pred xs = point := by
  have hle : point ≤ xs.length := by
    by_contra hlt
    have hany := (h xs.length).mpr (by omega)
    simp at hany
  unfold partitionPoint
  split
  next hempty =>
    rw [List.isEmpty_iff] at hempty
    simp [hempty] at hle
    omega
  next hempty =>
    rw [List.isEmpty_iff_length_eq_zero] at hempty
    have hfound := partitionPoint.search_spec h xs.length 0 xs.length (by omega) (by omega) (.inl rfl) (by omega)
    dsimp only at hfound ⊢
    split
    next hany =>
      rw [h] at hany
      omega
    next hany =>
      rw [h] at hany
      omega

end

/-!
### Intervals
-/

def cumulative (running : Nat) : List Nat → List Nat
  | [] => []
  | weight :: weights => (running + weight) :: cumulative (running + weight) weights

theorem getElem?_cumulative (running : Nat) (weights : List Nat) (i : Nat)
    : (cumulative running weights)[i]?
        = if i < weights.length then some (running + (weights.take (i + 1)).sum) else none := by
  induction weights generalizing running i with
  | nil => simp [cumulative]
  | cons weight weights ih =>
    cases i with
    | zero => simp [cumulative]
    | succ i => simp [cumulative, ih, Nat.add_assoc]

def Falls (weights : List Nat) (i residue : Nat) : Prop :=
  (weights.take i).sum ≤ residue ∧ residue < (weights.take (i + 1)).sum

variable {i : Nat}

theorem sum_take_mono (weights : List Nat) {j : Nat} (h : i ≤ j) : (weights.take i).sum ≤ (weights.take j).sum :=
  (List.take_sublist_take_left h).sum_le_sum (by simp)

variable {weights : List Nat} {residue : Nat}

theorem Falls.lt_length (h : Falls weights i residue) : i < weights.length := by
  by_contra hle
  unfold Falls at h
  rw [List.take_of_length_le (by omega), List.take_of_length_le (by omega)] at h
  omega

theorem Falls.weight_pos {weight : Nat} (h : Falls weights i residue) (hweight : weights[i]? = some weight)
    : 0 < weight := by
  unfold Falls at h
  rw [List.take_add_one, hweight] at h
  simp at h
  omega

theorem exists_falls (h : residue < weights.sum)
    : ∃ i, Falls weights i residue := by
  induction weights generalizing residue with
  | nil => simp at h
  | cons weight weights ih =>
    unfold Falls
    by_cases hlt : residue < weight
    . exact ⟨0, by simpa using hlt⟩
    . rw [List.sum_cons] at h
      have hrest : residue - weight < weights.sum := by omega
      obtain ⟨i, hi⟩ := ih hrest
      unfold Falls at hi
      refine ⟨i + 1, ?_⟩
      simp only [List.take_succ_cons, List.sum_cons]
      omega

theorem Falls.partitioned (h : Falls weights i residue)
    : Partitioned (fun upper => upper ≤ residue) (cumulative 0 weights) i := by
  intro j
  rw [getElem?_cumulative]
  have hlength := h.lt_length
  unfold Falls at h
  split
  next =>
    simp only [Option.any_some, decide_eq_true_eq, Nat.zero_add]
    by_cases hlt : j < i
    . have := sum_take_mono weights (show j + 1 ≤ i from hlt)
      omega
    . have := sum_take_mono weights (show i + 1 ≤ j + 1 by omega)
      omega
  next =>
    simp
    omega

def entryAt (weights : List Nat) (residue : Nat) : Nat :=
  partitionPoint (fun upper => upper ≤ residue) (cumulative 0 weights)

theorem falls_entryAt (h : residue < weights.sum)
    : Falls weights (entryAt weights residue) residue := by
  obtain ⟨i, hi⟩ := exists_falls h
  have heq : entryAt weights residue = i := partitionPoint_eq hi.partitioned
  rwa [heq]

theorem entryAt_eq_iff (h : residue < weights.sum)
    : entryAt weights residue = i ↔ Falls weights i residue := by
  constructor
  . rintro rfl
    exact falls_entryAt h
  . intro hi
    exact partitionPoint_eq hi.partitioned

/-!
### Counting
-/

theorem count_interval {lo hi : Nat} (total : Nat) (hhi : hi ≤ total)
    : Nat.count (fun c => lo ≤ c ∧ c < hi) total = hi - lo := by
  rw [Nat.count_eq_card_filter_range]
  have heq : (Finset.range total).filter (fun c => lo ≤ c ∧ c < hi) = Finset.Ico lo hi := by
    ext c
    simp
    omega
  rw [heq, Nat.card_Ico]

theorem count_residues {total lo hi : Nat} (hhi : hi ≤ total) (rounds : Nat)
    : Nat.count (fun c => lo ≤ c % total ∧ c % total < hi) (rounds * total) = rounds * (hi - lo) := by
  induction rounds with
  | zero => simp
  | succ rounds ih =>
    rw [Nat.succ_mul, Nat.count_add, ih, Nat.succ_mul]
    congr 1
    rw [← count_interval total hhi, Nat.count_eq_card_filter_range, Nat.count_eq_card_filter_range]
    congr 1
    apply Finset.filter_congr
    intro c hc
    rw [Finset.mem_range] at hc
    rw [Nat.mul_add_mod_self_right, Nat.mod_eq_of_lt hc]

theorem card_entryAt (hpos : 0 < weights.sum) (space : Nat) {weight : Nat} (hweight : weights[i]? = some weight)
    : ((Finset.range space).filter fun c =>
        c < space / weights.sum * weights.sum ∧ entryAt weights (c % weights.sum) = i).card
      = space / weights.sum * weight := by
  have hhi : (weights.take (i + 1)).sum ≤ weights.sum := by
    have := sum_take_mono weights (Nat.le_max_left (i + 1) weights.length)
    rwa [List.take_of_length_le (Nat.le_max_right ..)] at this
  have hwidth : (weights.take (i + 1)).sum - (weights.take i).sum = weight := by
    rw [List.take_add_one, hweight]
    simp
  have hlimit := Nat.div_mul_le_self space weights.sum
  rw [← hwidth, ← count_residues hhi, Nat.count_eq_card_filter_range]
  congr 1
  ext c
  simp only [Finset.mem_filter, Finset.mem_range, entryAt_eq_iff (Nat.mod_lt c hpos), Falls]
  generalize space / weights.sum * weights.sum = limit at *
  omega

end WeightedDraw
