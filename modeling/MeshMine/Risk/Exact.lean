import MeshMine.Data.Except
import Mathlib.Algebra.BigOperators.Group.List.Basic
import Mathlib.Algebra.Order.Field.Basic
import Mathlib.Algebra.Order.Ring.Rat
import Mathlib.Data.Nat.Cast.Field
import Mathlib.Data.Rat.Cast.Defs
import Mathlib.Tactic.FieldSimp
import Mathlib.Tactic.Linarith
import Mathlib.Tactic.Positivity
import Mathlib.Tactic.Ring

/-!
Probabilities as reduced fractions of natural numbers (`ExactProbability` of `meshmine-committee-risk/src/lib.rs`),
and the rational numbers that they stand for.
-/

namespace MeshMine.Risk

open Except (rejectIf)

inductive RiskError where
  | zeroDenominator
  | probabilityOutOfRange
  | emptyRoles
  | invalidCommittee
  | invalidRotation
  | lookbackTooShort
  | invalidCorrelationGroups
  | invalidRoleOverlap
  | invalidAnnualTarget
  | securityBoundExceeded
  | livenessBoundExceeded
deriving DecidableEq

structure ExactProbability where
  numerator : Nat
  denominator : Nat
deriving DecidableEq

namespace ExactProbability

def zero : ExactProbability := ⟨0, 1⟩
def one : ExactProbability := ⟨1, 1⟩

def reduced (numerator denominator : Nat) : ExactProbability :=
  if numerator = 0 then
    zero
  else
    let divisor := numerator.gcd denominator
    ⟨numerator / divisor, denominator / divisor⟩

instance : LE ExactProbability where
  le a b := a.numerator * b.denominator ≤ b.numerator * a.denominator

instance : DecidableLE ExactProbability := fun a b =>
  inferInstanceAs (Decidable (a.numerator * b.denominator ≤ b.numerator * a.denominator))

def new (numerator denominator : Nat) : Except RiskError ExactProbability := do
  rejectIf (denominator = 0) .zeroDenominator
  rejectIf (denominator < numerator) .probabilityOutOfRange
  return reduced numerator denominator

def complement (p : ExactProbability) : ExactProbability :=
  reduced (p.denominator - p.numerator) p.denominator

def cappedAtOne (p : ExactProbability) : ExactProbability :=
  if p ≤ one then p else one

variable (p q : ExactProbability)

def sum : ExactProbability :=
  reduced (p.numerator * q.denominator + q.numerator * p.denominator) (p.denominator * q.denominator)

def add : ExactProbability :=
  (p.sum q).cappedAtOne

def multiply : ExactProbability :=
  reduced (p.numerator * q.numerator) (p.denominator * q.denominator)

def maximum : ExactProbability :=
  if q ≤ p then p else q

def validateProbability (p : ExactProbability) : Except RiskError Unit := do
  rejectIf (p.denominator = 0) .zeroDenominator
  rejectIf (p.denominator < p.numerator) .probabilityOutOfRange

def sumExceedsOne : Bool :=
  p.denominator * q.denominator < p.numerator * q.denominator + q.numerator * p.denominator

/-!
### Values
-/

def value (p : ExactProbability) : ℚ :=
  p.numerator / p.denominator

structure Valid (p : ExactProbability) : Prop where
  denominator : p.denominator ≠ 0
  le_one : p.numerator ≤ p.denominator

theorem validateProbability_eq_ok {p : ExactProbability} : p.validateProbability = .ok () ↔ p.Valid := by
  unfold validateProbability
  simp only [Except.bind_unit_eq_ok, Except.rejectIf_eq_ok, not_lt]
  constructor
  . intro h
    exact ⟨h.1, h.2⟩
  . intro h
    exact ⟨h.1, h.2⟩

theorem value_nonneg (p : ExactProbability) : 0 ≤ p.value := by
  unfold value
  positivity

theorem value_le_one {p : ExactProbability} (h : p.Valid) : p.value ≤ 1 := by
  have hpos : (0 : ℚ) < p.denominator := by
    have := h.denominator
    positivity
  unfold value
  rw [div_le_one hpos]
  exact_mod_cast h.le_one

theorem valid_of_value {p : ExactProbability} (hdenominator : p.denominator ≠ 0) (h : p.value ≤ 1) : p.Valid := by
  refine ⟨hdenominator, ?_⟩
  have hpos : (0 : ℚ) < p.denominator := by positivity
  unfold value at h
  rw [div_le_one hpos] at h
  exact_mod_cast h

theorem le_iff_value_le {p q : ExactProbability} (hp : p.denominator ≠ 0) (hq : q.denominator ≠ 0)
    : p ≤ q ↔ p.value ≤ q.value := by
  have hp' : (0 : ℚ) < p.denominator := by positivity
  have hq' : (0 : ℚ) < q.denominator := by positivity
  unfold value
  rw [div_le_div_iff₀ hp' hq']
  change p.numerator * q.denominator ≤ q.numerator * p.denominator ↔ _
  norm_cast

variable {n d : Nat}

theorem reduced_denominator (hd : d ≠ 0) : (reduced n d).denominator ≠ 0 := by
  unfold reduced
  split
  . decide
  . dsimp only
    have hpos : 0 < n.gcd d := Nat.gcd_pos_of_pos_right _ (by omega)
    have := Nat.div_pos (Nat.le_of_dvd (by omega) (Nat.gcd_dvd_right n d)) hpos
    omega

@[simp]
theorem value_reduced (hd : d ≠ 0) : (reduced n d).value = n / d := by
  unfold reduced
  split
  next h => simp [h, zero, value]
  next h =>
    have hgcd : ((n.gcd d : Nat) : ℚ) ≠ 0 := by
      have : 0 < n.gcd d := Nat.gcd_pos_of_pos_right _ (by omega)
      positivity
    unfold value
    dsimp only
    rw [Nat.cast_div (Nat.gcd_dvd_left n d) hgcd, Nat.cast_div (Nat.gcd_dvd_right n d) hgcd,
      div_div_div_cancel_right₀ hgcd]

@[simp]
theorem value_zero : zero.value = 0 := by
  simp [zero, value]

@[simp]
theorem value_one : one.value = 1 := by
  simp [one, value]

theorem valid_zero : zero.Valid := ⟨by decide, by decide⟩

theorem valid_one : one.Valid := ⟨by decide, by decide⟩

variable {p q : ExactProbability}

theorem value_complement (hp : p.Valid) : p.complement.value = 1 - p.value := by
  have hd : (p.denominator : ℚ) ≠ 0 := by exact_mod_cast hp.denominator
  unfold complement
  rw [value_reduced hp.denominator, Nat.cast_sub hp.le_one, sub_div, div_self hd]
  rfl

theorem Valid.complement (hp : p.Valid) : p.complement.Valid := by
  apply valid_of_value
  . exact reduced_denominator hp.denominator
  rw [value_complement hp]
  linarith [value_nonneg p]

section

variable (hp : p.denominator ≠ 0) (hq : q.denominator ≠ 0)

include hp hq

theorem value_multiply : (p.multiply q).value = p.value * q.value := by
  unfold multiply
  rw [value_reduced (Nat.mul_ne_zero hp hq)]
  unfold value
  push_cast
  rw [div_mul_div_comm]

theorem sum_denominator : (p.sum q).denominator ≠ 0 :=
  reduced_denominator (Nat.mul_ne_zero hp hq)

theorem value_sum : (p.sum q).value = p.value + q.value := by
  have hp' : (p.denominator : ℚ) ≠ 0 := by exact_mod_cast hp
  have hq' : (q.denominator : ℚ) ≠ 0 := by exact_mod_cast hq
  unfold sum
  rw [value_reduced (Nat.mul_ne_zero hp hq)]
  unfold value
  push_cast
  rw [div_add_div _ _ hp' hq']
  ring

theorem value_add : (p.add q).value = min 1 (p.value + q.value) := by
  unfold add cappedAtOne
  rw [← value_sum hp hq]
  split
  next h =>
    rw [le_iff_value_le (sum_denominator hp hq) (by decide), value_one] at h
    rw [min_eq_right h]
  next h =>
    rw [le_iff_value_le (sum_denominator hp hq) (by decide), value_one, not_le] at h
    rw [value_one, min_eq_left h.le]

theorem add_eq_sum (h : p.value + q.value ≤ 1) : p.add q = p.sum q := by
  unfold add cappedAtOne
  rw [if_pos]
  rw [le_iff_value_le (sum_denominator hp hq) (by decide), value_sum hp hq, value_one]
  exact h

theorem value_maximum : (p.maximum q).value = max p.value q.value := by
  unfold maximum
  split
  next h =>
    rw [le_iff_value_le hq hp] at h
    rw [max_eq_left h]
  next h =>
    rw [le_iff_value_le hq hp, not_le] at h
    rw [max_eq_right h.le]

theorem sumExceedsOne_eq_false : p.sumExceedsOne q = false ↔ p.value + q.value ≤ 1 := by
  have hp' : (0 : ℚ) < p.denominator := by positivity
  have hq' : (0 : ℚ) < q.denominator := by positivity
  unfold sumExceedsOne value
  rw [decide_eq_false_iff_not, not_lt, div_add_div _ _ hp'.ne' hq'.ne', div_le_one (mul_pos hp' hq')]
  norm_cast
  rw [Nat.mul_comm q.numerator]

end

section

variable (hp : p.Valid) (hq : q.Valid)

include hp hq

theorem Valid.multiply : (p.multiply q).Valid := by
  apply valid_of_value
  . exact reduced_denominator (Nat.mul_ne_zero hp.denominator hq.denominator)
  rw [value_multiply hp.denominator hq.denominator]
  exact mul_le_one₀ (value_le_one hp) (value_nonneg q) (value_le_one hq)

theorem Valid.add : (p.add q).Valid := by
  apply valid_of_value
  . unfold ExactProbability.add cappedAtOne
    split
    . exact sum_denominator hp.denominator hq.denominator
    . decide
  . rw [value_add hp.denominator hq.denominator]
    exact min_le_left _ _

theorem Valid.sum (h : p.value + q.value ≤ 1) : (p.sum q).Valid := by
  apply valid_of_value (sum_denominator hp.denominator hq.denominator)
  rw [value_sum hp.denominator hq.denominator]
  exact h

theorem Valid.maximum : (p.maximum q).Valid := by
  unfold ExactProbability.maximum
  split
  . exact hp
  . exact hq

end

/-!
### Sums of many
-/

variable {ps : List ExactProbability} {start : ExactProbability}

theorem foldl_sum (hstart : start.denominator ≠ 0) (hps : ∀ p ∈ ps, p.denominator ≠ 0)
    : (ps.foldl sum start).denominator ≠ 0
      ∧ (ps.foldl sum start).value = start.value + (ps.map value).sum := by
  induction ps generalizing start with
  | nil => simpa using hstart
  | cons p ps ih =>
    rw [List.forall_mem_cons] at hps
    obtain ⟨hdenominator, hvalue⟩ := ih (sum_denominator hstart hps.1) hps.2
    refine ⟨hdenominator, ?_⟩
    rw [List.foldl_cons, hvalue, value_sum hstart hps.1, List.map_cons, List.sum_cons]
    ring

def AddsExactly (addition : ExactProbability → ExactProbability → ExactProbability) : Prop :=
  ∀ p q, p.denominator ≠ 0 → q.denominator ≠ 0 → p.value + q.value ≤ 1 → addition p q = p.sum q

theorem addsExactly_add : AddsExactly add := by
  intro p q hp hq h
  exact add_eq_sum hp hq h

theorem sum_values_nonneg (ps : List ExactProbability) : 0 ≤ (ps.map value).sum := by
  apply List.sum_nonneg
  simp [value_nonneg]

theorem AddsExactly.foldl {addition : ExactProbability → ExactProbability → ExactProbability}
    (hadd : AddsExactly addition) (hstart : start.denominator ≠ 0) (hps : ∀ p ∈ ps, p.denominator ≠ 0)
    (h : start.value + (ps.map value).sum ≤ 1)
    : ps.foldl addition start = ps.foldl sum start := by
  induction ps generalizing start with
  | nil => rfl
  | cons p ps ih =>
    rw [List.forall_mem_cons] at hps
    rw [List.map_cons, List.sum_cons] at h
    have hrest := sum_values_nonneg ps
    rw [List.foldl_cons, List.foldl_cons, hadd start p hstart hps.1 (by linarith)]
    apply ih (sum_denominator hstart hps.1) hps.2
    rw [value_sum hstart hps.1]
    linarith

theorem foldl_add (hstart : start.Valid) (hps : ∀ p ∈ ps, p.Valid)
    : (ps.foldl add start).Valid ∧ (ps.foldl add start).value = min 1 (start.value + (ps.map value).sum) := by
  induction ps generalizing start with
  | nil => simpa [value_le_one hstart] using hstart
  | cons p ps ih =>
    rw [List.forall_mem_cons] at hps
    obtain ⟨hvalid, hvalue⟩ := ih (hstart.add hps.1) hps.2
    refine ⟨hvalid, ?_⟩
    have hrest := sum_values_nonneg ps
    rw [List.foldl_cons, hvalue, value_add hstart.denominator hps.1.denominator, List.map_cons, List.sum_cons,
      ← add_assoc]
    rcases le_total 1 (start.value + p.value) with hle | hle
    . rw [min_eq_left hle, min_eq_left (by linarith), min_eq_left (by linarith)]
    . rw [min_eq_right hle]

end ExactProbability

end MeshMine.Risk
