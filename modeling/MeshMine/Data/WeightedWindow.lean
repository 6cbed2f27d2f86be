import Mathlib.Algebra.GroupWithZero.Nat
import Mathlib.Data.List.Basic

/-!
The newest elements of a sequence whose weights reach a target. `collect` walks from the newest
element and stops at the first one that reaches the target, so that it selects the shortest suffix that
does; `deadPrefix` counts the oldest elements without which the rest still reaches it.
-/

namespace WeightedWindow

variable {α : Type*} (weight : α → Nat) (target : Nat) (xs : List α)

def total : Nat :=
  (xs.map weight).sum

def collect : List α → List α → Nat → List α × Nat
  | [], selected, reached => (selected, reached)
  | x :: older, selected, reached =>
    if target ≤ reached + weight x then
      (x :: selected, reached + weight x)
    else
      collect older (x :: selected) (reached + weight x)

def select : List α × Nat :=
  collect weight target xs.reverse [] 0

def deadPrefix : List α → Nat → Nat
  | [], _ => 0
  | oldest :: newer, retained =>
    if retained - weight oldest < target then
      0
    else
      deadPrefix newer (retained - weight oldest) + 1

/-- No single oldest element can be dropped any more. -/
def Tight : Prop :=
  ∀ oldest newer, xs = oldest :: newer → total weight newer < target

variable {weight target}

@[simp]
theorem total_nil : total weight [] = 0 := rfl

@[simp]
theorem total_cons (x : α) (xs : List α) : total weight (x :: xs) = weight x + total weight xs := by
  simp [total]

@[simp]
theorem total_append (xs ys : List α)
    : total weight (xs ++ ys) = total weight xs + total weight ys := by
  simp [total]

@[simp]
theorem total_reverse : total weight xs.reverse = total weight xs := by
  simp [total, List.sum_reverse]

theorem collect_append (newer older selected : List α) (reached : Nat) (hne : newer ≠ [])
    (h : target ≤ reached + total weight newer)
    : collect weight target (newer ++ older) selected reached
        =
      collect weight target newer selected reached := by
  induction newer generalizing selected reached with
  | nil => contradiction
  | cons x newer ih =>
    rw [List.cons_append]
    unfold collect
    split
    . rfl
    next hreached =>
      rw [total_cons] at h
      apply ih
      . rintro rfl
        simp at h
        omega
      . omega

theorem select_append (older newer : List α) (hne : newer ≠ []) (h : target ≤ total weight newer)
    : select weight target (older ++ newer) = select weight target newer := by
  unfold select
  rw [List.reverse_append]
  apply collect_append
  . simpa using hne
  . simpa using h

variable (weight target)

theorem deadPrefix_le_length (retained : Nat)
    : deadPrefix weight target xs retained ≤ xs.length := by
  induction xs generalizing retained with
  | nil => simp [deadPrefix]
  | cons x xs ih =>
    unfold deadPrefix
    split
    . omega
    . have := ih (retained - weight x)
      simp
      omega

/-- The elements `newest` are never dropped. -/
theorem deadPrefix_reaches (xs newest : List α)
    : let count := deadPrefix weight target xs (total weight (xs ++ newest))
      count = 0 ∨ target ≤ total weight (xs.drop count ++ newest) := by
  induction xs with
  | nil =>
    left
    rfl
  | cons x xs ih =>
    dsimp only at *
    unfold deadPrefix
    rw [List.cons_append, total_cons, Nat.add_sub_cancel_left]
    split
    . left
      rfl
    next h =>
      right
      rcases ih with hzero | hreach
      . rw [hzero]
        simpa using h
      . simpa using hreach

variable {weight target}

theorem eq_nil_of_drop_deadPrefix {xs : List α} (htarget : 0 < target)
    (h : xs.drop (deadPrefix weight target xs (total weight xs)) = [])
    : xs = [] := by
  have hreach := deadPrefix_reaches weight target xs []
  dsimp only at hreach
  rw [List.append_nil, List.append_nil, h, total_nil] at hreach
  rcases hreach with hzero | hreach
  . rwa [hzero, List.drop_zero] at h
  . omega

theorem tight_drop_deadPrefix (xs newest : List α) (hnewest : newest.length ≤ 1) (htarget : 0 < target)
    : Tight weight target
        (xs.drop (deadPrefix weight target xs (total weight (xs ++ newest))) ++ newest) := by
  induction xs with
  | nil =>
    intro oldest newer h
    have hlen := congrArg List.length h
    simp at hlen
    have hnil : newer = [] := by
      apply List.eq_nil_of_length_eq_zero
      omega
    simpa [hnil] using htarget
  | cons x xs ih =>
    unfold deadPrefix
    rw [List.cons_append, total_cons, Nat.add_sub_cancel_left]
    split
    next hlt =>
      intro oldest newer h
      rw [List.drop_zero, List.cons_append, List.cons.injEq] at h
      rw [← h.2]
      exact hlt
    . rw [List.drop_succ_cons]
      exact ih

/-!
### The selection
-/

variable (weight target)

structure ShortestReaching (xs selected : List α) : Prop where
  suffix : selected <:+ xs
  reaches : target ≤ total weight selected
  shortest : ∀ ys, ys <:+ xs → target ≤ total weight ys → selected.length ≤ ys.length

theorem total_le_of_suffix {xs ys : List α} (h : ys <:+ xs) : total weight ys ≤ total weight xs := by
  obtain ⟨older, rfl⟩ := h
  rw [total_append]
  omega

variable {weight target}

theorem collect_eq (older selected : List α) (h : total weight selected < target)
    : let result := collect weight target older selected (total weight selected)
      result.2 = total weight result.1
        ∧ ((total weight (older.reverse ++ selected) < target ∧ result.1 = older.reverse ++ selected)
          ∨ (target ≤ total weight result.1 ∧ result.1 <:+ older.reverse ++ selected
            ∧ Tight weight target result.1)) := by
  induction older generalizing selected with
  | nil => exact ⟨rfl, .inl ⟨h, rfl⟩⟩
  | cons x older ih =>
    have htotal : total weight selected + weight x = total weight (x :: selected) := by
      rw [total_cons, Nat.add_comm]
    dsimp only at ih ⊢
    unfold collect
    rw [htotal, List.reverse_cons, List.append_assoc]
    split
    next hreaches =>
      refine ⟨rfl, .inr ⟨hreaches, List.suffix_append .., ?_⟩⟩
      intro oldest newer heq
      rw [List.cons.injEq] at heq
      rwa [← heq.2]
    next hshort => exact ih (x :: selected) (by omega)

theorem select_snd {xs : List α} (htarget : 0 < target)
    : (select weight target xs).2 = total weight (select weight target xs).1 :=
  (collect_eq xs.reverse [] htarget).1

theorem select_cases (weight : α → Nat) (xs : List α) (htarget : 0 < target)
    : (total weight xs < target ∧ (select weight target xs).1 = xs)
      ∨ (target ≤ total weight (select weight target xs).1 ∧ (select weight target xs).1 <:+ xs
        ∧ Tight weight target (select weight target xs).1) := by
  have hcases : total weight (xs.reverse.reverse ++ []) < target ∧ _ ∨ _ := (collect_eq xs.reverse [] htarget).2
  rwa [List.reverse_reverse, List.append_nil] at hcases

theorem select_of_lt {xs : List α} (htarget : 0 < target) (h : total weight xs < target)
    : (select weight target xs).1 = xs := by
  rcases select_cases weight xs htarget with ⟨_, heq⟩ | ⟨hreaches, hsuffix, _⟩
  . exact heq
  . have := total_le_of_suffix weight hsuffix
    omega

theorem select_shortest {xs : List α} (htarget : 0 < target) (h : target ≤ total weight xs)
    : ShortestReaching weight target xs (select weight target xs).1 := by
  rcases select_cases weight xs htarget with ⟨hlt, _⟩ | ⟨hreaches, hsuffix, htight⟩
  . omega
  . refine ⟨hsuffix, hreaches, ?_⟩
    intro ys hys hreach
    by_contra hshorter
    cases hselected : (select weight target xs).1 with
    | nil => simp [hselected] at hshorter
    | cons oldest newer =>
      -- A shorter suffix lies in what is left without the oldest element.
      have hnewer : newer <:+ xs := (List.suffix_cons oldest newer).trans (hselected ▸ hsuffix)
      have hle : ys.length ≤ newer.length := by
        rw [hselected, List.length_cons] at hshorter
        omega
      have := total_le_of_suffix weight (List.suffix_of_suffix_length_le hys hnewer hle)
      have := htight oldest newer hselected
      omega

end WeightedWindow
