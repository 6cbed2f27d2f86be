import Mathlib.LinearAlgebra.Lagrange

/-!
Threshold sharing over a field: a secret is the value at zero of a polynomial, a share its value at another point.
As many shares as the polynomial has coefficients determine the secret; fewer say nothing of it.
-/

namespace MeshMine.Sharing

open Polynomial

variable {F : Type*} [Field F]

noncomputable def polynomial : List F → F[X]
  | [] => 0
  | coefficient :: coefficients => C coefficient + polynomial coefficients * X

theorem eval_polynomial_nil (x : F) : (polynomial []).eval x = 0 := by
  simp [polynomial]

theorem eval_polynomial_cons (coefficient : F) (coefficients : List F) (x : F)
    : (polynomial (coefficient :: coefficients)).eval x = (polynomial coefficients).eval x * x + coefficient := by
  simp [polynomial, add_comm]

theorem degree_polynomial (coefficients : List F) : (polynomial coefficients).degree < coefficients.length := by
  induction coefficients with
  | nil => simp [polynomial]
  | cons coefficient coefficients ih =>
    rw [polynomial, List.length_cons]
    apply (degree_add_le _ _).trans_lt
    rw [max_lt_iff]
    constructor
    . apply degree_C_le.trans_lt
      exact_mod_cast Nat.succ_pos _
    . rw [degree_mul_X, Nat.cast_succ]
      exact WithBot.add_lt_add_right (by simp) ih

theorem eval_zero_eq_sum {n : Nat} {x : Fin n → F} (hx : Function.Injective x) {f : F[X]} (hf : f.degree < n)
    : f.eval 0 = ∑ i, f.eval (x i) * ∏ j ∈ Finset.univ.erase i, x j / (x j - x i) := by
  have hdegree : f.degree < (Finset.univ : Finset (Fin n)).card := by simpa using hf
  refine (congrArg (eval 0) (Lagrange.eq_interpolate hx.injOn hdegree)).trans ?_
  rw [Lagrange.interpolate_apply, eval_finsetSum]
  apply Finset.sum_congr rfl
  intro i _
  rw [eval_mul, eval_C, Lagrange.basis, eval_prod]
  congr 1
  apply Finset.prod_congr rfl
  intro j hj
  have hne : x j - x i ≠ 0 := by
    rw [sub_ne_zero]
    exact hx.ne (Finset.ne_of_mem_erase hj)
  have hne' : x i - x j ≠ 0 := by
    rw [sub_ne_zero]
    exact hx.ne (Finset.ne_of_mem_erase hj).symm
  simp only [Lagrange.basisDivisor, eval_mul, eval_C, eval_sub, eval_X]
  field_simp
  ring

theorem polynomial_ofFn {n : Nat} (f : Fin n → F) : polynomial (List.ofFn f) = ∑ i, C (f i) * X ^ (i : ℕ) := by
  induction n with
  | zero => simp [polynomial]
  | succ n ih =>
    rw [List.ofFn_succ, polynomial, ih, Fin.sum_univ_succ, Finset.sum_mul]
    simp [pow_succ, mul_assoc]

theorem exists_vanishing {points : Finset F} (hzero : 0 ∉ points) (c : F)
    : ∃ f : F[X], f.eval 0 = c ∧ f.natDegree ≤ points.card ∧ ∀ x ∈ points, f.eval x = 0 := by
  have hne : (Lagrange.nodal points id).eval (0 : F) ≠ 0 := by
    rw [Lagrange.eval_nodal, Finset.prod_ne_zero_iff]
    intro x hx
    rw [zero_sub, neg_ne_zero]
    exact ne_of_mem_of_not_mem hx hzero
  refine ⟨C (c / (Lagrange.nodal points id).eval 0) * Lagrange.nodal points id, ?_, ?_, ?_⟩
  . rw [eval_mul, eval_C, div_mul_cancel₀ _ hne]
  . exact (natDegree_C_mul_le _ _).trans Lagrange.natDegree_nodal.le
  . intro x hx
    have hnode : (Lagrange.nodal points id).eval x = 0 := Lagrange.eval_nodal_at_node (v := id) hx
    rw [eval_mul, hnode, mul_zero]

/-- Too few shares leave the secret open: a mask that vanishes at their points takes any secret to any other. -/
theorem exists_mask {points : Finset F} (hzero : 0 ∉ points) {k : Nat} (hfew : points.card ≤ k) (secret secret' : F)
    : ∃ mask : Fin k → F, ∀ choice : Fin k → F, ∀ x ∈ points,
        (polynomial (secret' :: List.ofFn fun j => choice j + mask j)).eval x
          = (polynomial (secret :: List.ofFn choice)).eval x := by
  obtain ⟨f, hsecret, hdegree, hroot⟩ := exists_vanishing hzero (secret' - secret)
  have hf : f = polynomial (f.coeff 0 :: List.ofFn fun j : Fin k => f.coeff (j + 1)) := by
    have hofFn := polynomial_ofFn fun i : Fin (k + 1) => f.coeff i
    rw [List.ofFn_succ] at hofFn
    refine (f.as_sum_range_C_mul_X_pow' (by omega : f.natDegree < k + 1)).trans ?_
    rw [← Fin.sum_univ_eq_sum_range fun i => C (f.coeff i) * X ^ i]
    exact hofFn.symm
  refine ⟨fun j => f.coeff (j + 1), ?_⟩
  intro choice x hx
  have heval := hroot x hx
  rw [hf, coeff_zero_eq_eval_zero, hsecret] at heval
  simp only [eval_polynomial_cons, polynomial_ofFn, C_add, add_mul, Finset.sum_add_distrib, eval_add] at heval ⊢
  rw [← sub_eq_zero, ← heval]
  ring

end MeshMine.Sharing
