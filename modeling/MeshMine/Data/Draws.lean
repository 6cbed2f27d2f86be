import Mathlib.Algebra.BigOperators.Fin
import Mathlib.Algebra.Order.BigOperators.Ring.Finset
import Mathlib.Data.Nat.Choose.Sum

/-!
Independent choices with finitely many outcomes. `independent p F` is the mean of `F` when the outcome of
choice `i` is `c` with weight `p i c`; the weights need not be numbers of any particular kind.

When all choices have the same weights, the number of choices with a given outcome is binomial, and the numbers
for two outcomes are trinomial.
-/

namespace Draws

variable {κ R : Type*}

/-!
### Counts
-/

variable {a b : κ}

section

variable [DecidableEq κ] {n : ℕ}

def count (a : κ) (f : Fin n → κ) : ℕ :=
  (Finset.univ.filter fun i => f i = a).card

theorem count_elim0 (a : κ) (f : Fin 0 → κ) : count a f = 0 := by
  simp [count]

theorem count_cons (a c : κ) (f : Fin n → κ)
    : count a (Fin.cons (α := fun _ => κ) c f) = (if c = a then 1 else 0) + count a f := by
  unfold count
  rw [Fin.card_filter_univ_succ]
  simp only [Fin.cons_zero, Fin.cons_succ]
  split <;> omega

end

/-!
### Means
-/

section

variable [Fintype κ] [CommSemiring R] {n : ℕ}

def indicator (event : Prop) [Decidable event] : R :=
  if event then 1 else 0

def independent (p : Fin n → κ → R) (F : (Fin n → κ) → R) : R :=
  ∑ f, (∏ i, p i (f i)) * F f

theorem independent_zero (p : Fin 0 → κ → R) (F : (Fin 0 → κ) → R)
    : independent p F = F Fin.elim0 := by
  unfold independent
  rw [Fintype.sum_eq_single Fin.elim0]
  . simp
  . intro f hf
    exact absurd (Subsingleton.elim f Fin.elim0) hf

theorem independent_succ (p : Fin (n + 1) → κ → R) (F : (Fin (n + 1) → κ) → R)
    : independent p F
      = ∑ c, p 0 c * independent (fun i => p i.succ) (fun f => F (Fin.cons c f)) := by
  unfold independent
  rw [← (Fin.consEquiv fun _ : Fin (n + 1) => κ).sum_comp, Fintype.sum_prod_type]
  apply Finset.sum_congr rfl
  intro c _
  rw [Finset.mul_sum]
  apply Finset.sum_congr rfl
  intro f _
  simp only [Fin.consEquiv_apply, Fin.prod_univ_succ, Fin.cons_zero, Fin.cons_succ, mul_assoc]
  rfl

variable {p : Fin n → κ → R} {F G : (Fin n → κ) → R}

theorem independent_congr (h : ∀ f, F f = G f)
    : independent p F = independent p G := by
  rw [funext h]

theorem independent_add (p : Fin n → κ → R) (F G : (Fin n → κ) → R)
    : independent p (fun f => F f + G f) = independent p F + independent p G := by
  unfold independent
  rw [← Finset.sum_add_distrib]
  apply Finset.sum_congr rfl
  intro f _
  rw [mul_add]

theorem independent_one (h : ∀ i, ∑ c, p i c = 1)
    : independent p (fun _ => 1) = 1 := by
  induction n with
  | zero => exact independent_zero _ _
  | succ n ih =>
    rw [independent_succ]
    simp only [ih fun i => h i.succ, mul_one]
    exact h 0

theorem independent_mono [PartialOrder R] [IsOrderedRing R] (hp : ∀ i c, 0 ≤ p i c) (h : ∀ f, F f ≤ G f)
    : independent p F ≤ independent p G := by
  apply Finset.sum_le_sum
  intro f _
  exact mul_le_mul_of_nonneg_left (h f) (Finset.prod_nonneg fun i _ => hp i (f i))

end

/-!
### The laws of the counts
-/

section

variable [CommSemiring R] {n : ℕ}

def binomialSum (x y : R) (n : ℕ) (g : ℕ → R) : R :=
  ∑ i ∈ Finset.range (n + 1), n.choose i * (x ^ i * (y ^ (n - i) * g i))

def trinomialSum (x y z : R) (n : ℕ) (g : ℕ → ℕ → R) : R :=
  ∑ i ∈ Finset.range (n + 1), n.choose i * (x ^ i * binomialSum y z (n - i) (g i))

theorem binomialSum_succ (x y : R) (n : ℕ) (g : ℕ → R)
    : binomialSum x y (n + 1) g = x * binomialSum x y n (fun i => g (i + 1)) + y * binomialSum x y n g := by
  unfold binomialSum
  rw [Finset.sum_choose_succ_mul fun i j => x ^ i * (y ^ j * g i)]
  simp only [Finset.mul_sum, ← Finset.sum_add_distrib]
  apply Finset.sum_congr rfl
  intro i hi
  rw [Nat.succ_sub (Finset.mem_range_succ_iff.mp hi), pow_succ]
  ring

theorem binomialSum_one {x y : R} (h : x + y = 1) (n : ℕ) : binomialSum x y n (fun _ => 1) = 1 := by
  induction n with
  | zero => simp [binomialSum]
  | succ n ih => rw [binomialSum_succ, ih, mul_one, mul_one, h]

theorem binomialSum_mono [PartialOrder R] [IsOrderedRing R] {x y : R} (hx : 0 ≤ x) (hy : 0 ≤ y) {g g' : ℕ → R}
    (h : ∀ i, g i ≤ g' i)
    : binomialSum x y n g ≤ binomialSum x y n g' := by
  apply Finset.sum_le_sum
  intro i _
  have := h i
  gcongr

theorem binomialSum_add (x y : R) (m n : ℕ) (g : ℕ → R)
    : binomialSum x y (m + n) g = binomialSum x y m fun i => binomialSum x y n fun j => g (i + j) := by
  induction m generalizing g with
  | zero => simp [binomialSum]
  | succ m ih =>
    rw [Nat.succ_add, binomialSum_succ, binomialSum_succ, ih, ih]
    simp only [Nat.add_right_comm]

theorem trinomialSum_succ (x y z : R) (n : ℕ) (g : ℕ → ℕ → R)
    : trinomialSum x y z (n + 1) g
      = x * trinomialSum x y z n (fun i => g (i + 1)) + y * trinomialSum x y z n (fun i j => g i (j + 1))
        + z * trinomialSum x y z n g := by
  unfold trinomialSum
  rw [Finset.sum_choose_succ_mul fun i j => x ^ i * binomialSum y z j (g i)]
  simp only [Finset.mul_sum, ← Finset.sum_add_distrib]
  apply Finset.sum_congr rfl
  intro i hi
  rw [Nat.succ_sub (Finset.mem_range_succ_iff.mp hi), binomialSum_succ]
  ring

variable [Fintype κ] [DecidableEq κ]

theorem independent_comp_count (p : κ → R) (a : κ) (n : ℕ) (g : ℕ → R)
    : independent (fun _ : Fin n => p) (fun f => g (count a f))
      = binomialSum (p a) (∑ c ∈ Finset.univ.erase a, p c) n g := by
  induction n generalizing g with
  | zero =>
    rw [independent_zero, count_elim0]
    simp [binomialSum]
  | succ n ih =>
    rw [independent_succ, binomialSum_succ, ← Finset.add_sum_erase _ _ (Finset.mem_univ a), Finset.sum_mul]
    simp only [count_cons, if_true, Nat.add_comm 1, ih fun i => g (i + 1)]
    congr 1
    apply Finset.sum_congr rfl
    intro c hc
    simp only [if_neg (Finset.ne_of_mem_erase hc), Nat.zero_add, ih g]

theorem independent_comp_counts (p : κ → R) (hab : a ≠ b) (n : ℕ) (g : ℕ → ℕ → R)
    : independent (fun _ : Fin n => p) (fun f => g (count a f) (count b f))
      = trinomialSum (p a) (p b) (∑ c ∈ (Finset.univ.erase a).erase b, p c) n g := by
  induction n generalizing g with
  | zero =>
    rw [independent_zero, count_elim0, count_elim0]
    simp [trinomialSum, binomialSum]
  | succ n ih =>
    have hb : b ∈ Finset.univ.erase a := Finset.mem_erase.mpr ⟨Ne.symm hab, Finset.mem_univ b⟩
    rw [independent_succ, trinomialSum_succ, ← Finset.add_sum_erase _ _ (Finset.mem_univ a),
      ← Finset.add_sum_erase _ _ hb, Finset.sum_mul, add_assoc]
    simp only [count_cons, if_true, if_neg hab, if_neg (Ne.symm hab), Nat.zero_add, Nat.add_comm 1,
      ih fun i => g (i + 1), ih fun i j => g i (j + 1)]
    congr 2
    apply Finset.sum_congr rfl
    intro c hc
    rw [Finset.mem_erase, Finset.mem_erase] at hc
    simp only [if_neg hc.1, if_neg hc.2.1, Nat.zero_add, ih g]

end

/-!
### Trials that succeed with a given probability
-/

section

variable [CommRing R] [LinearOrder R] [IsStrictOrderedRing R] {x : R} (hx : 0 ≤ x) (hle : x ≤ 1) {g : ℕ → R}
  (hg : Monotone g)

include hx hle hg

theorem binomialSum_le_succ (n : ℕ) : binomialSum x (1 - x) n g ≤ binomialSum x (1 - x) n fun i => g (i + 1) :=
  binomialSum_mono hx (sub_nonneg.mpr hle) fun i => hg i.le_succ

theorem binomialSum_le_of_le {y : R} (hy : x ≤ y) (hy1 : y ≤ 1) (n : ℕ)
    : binomialSum x (1 - x) n g ≤ binomialSum y (1 - y) n g := by
  induction n generalizing g with
  | zero => simp [binomialSum]
  | succ n ih =>
    have hsucc := binomialSum_le_succ (hx.trans hy) hy1 hg n
    have hlow := ih hg
    have hhigh := ih (g := fun i => g (i + 1)) fun i j h => hg (Nat.succ_le_succ h)
    rw [binomialSum_succ, binomialSum_succ]
    nlinarith

/-- Two quantities that grow with the number of successes are positively correlated. -/
theorem binomialSum_mul {g' : ℕ → R} (hg' : Monotone g') (n : ℕ)
    : binomialSum x (1 - x) n g * binomialSum x (1 - x) n g' ≤ binomialSum x (1 - x) n fun i => g i * g' i := by
  induction n generalizing g g' with
  | zero => simp [binomialSum]
  | succ n ih =>
    have hsucc := binomialSum_le_succ hx hle hg n
    have hsucc' := binomialSum_le_succ hx hle hg' n
    have hlow := ih hg hg'
    have hshift : ∀ {f : ℕ → R}, Monotone f → Monotone fun i => f (i + 1) :=
      fun hf i j h => hf (Nat.succ_le_succ h)
    have hhigh := ih (hshift hg) (hshift hg')
    rw [binomialSum_succ, binomialSum_succ, binomialSum_succ]
    nlinarith [mul_nonneg (mul_nonneg hx (sub_nonneg.mpr hle)) (mul_nonneg (sub_nonneg.mpr hsucc)
      (sub_nonneg.mpr hsucc'))]

end

/-!
### Draws without replacement
-/

variable [DecidableEq κ] {s marked : Finset κ} (hmarked : marked ⊆ s) {n k : ℕ}

include hmarked

theorem card_powersetCard_filter_eq (h : k ≤ n)
    : ((s.powersetCard n).filter fun drawn => (drawn ∩ marked).card = k).card
      = marked.card.choose k * (s \ marked).card.choose (n - k) := by
  rw [← Finset.card_powersetCard, ← Finset.card_powersetCard, ← Finset.card_product]
  apply Finset.card_bij' (fun drawn _ => (drawn ∩ marked, drawn \ marked)) (fun parts _ => parts.1 ∪ parts.2) <;>
    simp only [Finset.mem_filter, Finset.mem_product, Finset.mem_powersetCard]
  . intro drawn hdrawn
    have hcard := Finset.card_sdiff_add_card_inter drawn marked
    grind
  . intro parts hparts
    have hcard := Finset.card_sdiff_add_card_inter (parts.1 ∪ parts.2) marked
    have hinter : (parts.1 ∪ parts.2) ∩ marked = parts.1 := by grind
    have hdiff : (parts.1 ∪ parts.2) \ marked = parts.2 := by grind
    grind
  . intro drawn _
    exact sup_inf_sdiff drawn marked
  . intro parts hparts
    apply Prod.ext <;> grind

theorem card_powersetCard_filter_le (n atLeast : ℕ)
    : ((s.powersetCard n).filter fun drawn => atLeast ≤ (drawn ∩ marked).card).card
      = ∑ k ∈ Finset.Ico atLeast (n + 1), marked.card.choose k * (s \ marked).card.choose (n - k) := by
  rw [Finset.card_eq_sum_card_fiberwise (f := fun drawn => (drawn ∩ marked).card) (t := Finset.Ico atLeast (n + 1))]
  . apply Finset.sum_congr rfl
    intro k hk
    rw [Finset.mem_Ico] at hk
    rw [← card_powersetCard_filter_eq hmarked (by omega), Finset.filter_filter]
    congr 1
    grind
  . intro drawn hdrawn
    have hcard := Finset.card_le_card (Finset.inter_subset_left : drawn ∩ marked ⊆ drawn)
    simp only [Finset.coe_filter, Finset.mem_powersetCard, Finset.coe_Ico] at hdrawn ⊢
    grind

end Draws
