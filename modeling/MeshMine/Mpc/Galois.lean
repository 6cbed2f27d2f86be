import MeshMine.Data.Sharing
import Mathlib.Data.FinEnum

/-!
The arithmetic of the mask shares (`gf_mul`, `gf_pow`, `gf_div` and `gf_eval` of `meshmine-mpc-api/src/lib.rs`): bytes
with exclusive or and multiplication modulo `x^8 + x^4 + x^3 + x + 1` are a field.
-/

namespace MeshMine.Mpc

/-- The next `left` of the loop of `gf_mul`. -/
def gfDouble (left : UInt8) : UInt8 :=
  if left &&& 0x80 ≠ 0 then left <<< 1 ^^^ 0x1b else left <<< 1

/-- Since `right` has eight bits, the loop ends within eight rounds. -/
def gfMulLoop : Nat → UInt8 → UInt8 → UInt8 → UInt8
  | 0, _, _, product => product
  | rounds + 1, left, right, product =>
    if right = 0 then
      product
    else
      gfMulLoop rounds (gfDouble left) (right >>> 1) (if right &&& 1 ≠ 0 then product ^^^ left else product)

@[irreducible]
def gfMul (left right : UInt8) : UInt8 :=
  gfMulLoop 8 left right 0

def gfPowLoop : Nat → UInt8 → UInt8 → UInt8 → UInt8
  | 0, _, _, result => result
  | rounds + 1, value, exponent, result =>
    if exponent = 0 then
      result
    else
      gfPowLoop rounds (gfMul value value) (exponent >>> 1)
        (if exponent &&& 1 ≠ 0 then gfMul result value else result)

@[irreducible]
def gfPow (value exponent : UInt8) : UInt8 :=
  gfPowLoop 8 value exponent 1

def gfDiv (numerator denominator : UInt8) : UInt8 :=
  gfMul numerator (gfPow denominator 254)

def gfEval (coefficients : List UInt8) (x : UInt8) : UInt8 :=
  coefficients.reverse.foldl (fun value coefficient => gfMul value x ^^^ coefficient) 0

/-!
### Multiplication is bilinear
-/

def Additive (f : UInt8 → UInt8) : Prop :=
  ∀ a b, f (a ^^^ b) = f a ^^^ f b

variable {f g : UInt8 → UInt8}

theorem Additive.comp (hf : Additive f) (hg : Additive g) : Additive fun a => f (g a) := by
  intro a b
  dsimp only
  rw [hg, hf]

theorem xor_left_comm (a b c : UInt8) : a ^^^ (b ^^^ c) = b ^^^ (a ^^^ c) := by
  rw [← UInt8.xor_assoc, UInt8.xor_comm a b, UInt8.xor_assoc]

theorem Additive.xor (hf : Additive f) (hg : Additive g) : Additive fun a => f a ^^^ g a := by
  intro a b
  dsimp only
  rw [hf, hg, UInt8.xor_assoc, UInt8.xor_assoc, xor_left_comm (f b)]

theorem Additive.zero (hf : Additive f) : f 0 = 0 := by
  have h := hf 0 0
  rw [UInt8.xor_self, UInt8.xor_self] at h
  exact h

def bit (a : UInt8) (i : Nat) : Bool :=
  a.toBitVec.getLsbD i

theorem bit_xor (a b : UInt8) (i : Nat) : bit (a ^^^ b) i = (bit a i ^^ bit b i) := by
  simp [bit]

def select (chosen : Bool) (a : UInt8) : UInt8 :=
  if chosen then a else 0

theorem additive_select (chosen : Bool) : Additive (select chosen) := by
  intro a b
  cases chosen <;> simp [select]

theorem select_xor (first second : Bool) (a : UInt8)
    : select (first ^^ second) a = select first a ^^^ select second a := by
  cases first <;> cases second <;> simp [select]

theorem additive_select_bit (i : Nat) (value : UInt8) : Additive fun a => select (bit a i) value := by
  intro a b
  dsimp only
  rw [bit_xor, select_xor]

def single (i : Nat) : UInt8 :=
  1 <<< i.toUInt8

theorem bit_single {i j : Nat} (hi : i < 8) (hj : j < 8) : bit (single i) j = decide (i = j) := by
  have h : ∀ i < 8, ∀ j < 8, bit (single i) j = decide (i = j) := by decide
  exact h i hi j hj

theorem and_single (a : UInt8) {i : Nat} (hi : i < 8) : a &&& single i = select (bit a i) (single i) := by
  apply UInt8.toBitVec_inj.mp
  apply BitVec.eq_of_getLsbD_eq
  intro j hj
  have hand : bit (a &&& single i) j = (bit a j && bit (single i) j) := by simp [bit]
  have hselect : bit (select (bit a i) (single i)) j = (bit a i && bit (single i) j) := by
    cases bit a i <;> simp [select, bit]
  change bit _ j = bit _ j
  rw [hand, hselect, bit_single hi hj]
  by_cases hij : i = j <;> simp [hij]

theorem and_single_ne_zero (a : UInt8) {i : Nat} (hi : i < 8) : a &&& single i ≠ 0 ↔ bit a i = true := by
  have hne : ∀ i < 8, single i ≠ 0 := by decide
  rw [and_single a hi]
  cases bit a i <;> simp [select, hne i hi]

theorem eq_xor_bits (a : UInt8) : a = (List.range 8).foldr (fun i rest => select (bit a i) (single i) ^^^ rest) 0 := by
  revert a
  decide +kernel

theorem Additive.ext (hf : Additive f) (hg : Additive g) (h : ∀ i < 8, f (single i) = g (single i))
    : f = g := by
  have hselect : ∀ chosen i, i < 8 → f (select chosen (single i)) = g (select chosen (single i)) := by
    intro chosen i hi
    cases chosen with
    | false => exact hf.zero.trans hg.zero.symm
    | true => exact h i hi
  have hfold : ∀ (a : UInt8) (is : List Nat), (∀ i ∈ is, i < 8) →
      f (is.foldr (fun i rest => select (bit a i) (single i) ^^^ rest) 0)
        = g (is.foldr (fun i rest => select (bit a i) (single i) ^^^ rest) 0) := by
    intro a is his
    induction is with
    | nil => exact hf.zero.trans hg.zero.symm
    | cons i is ih =>
      rw [List.forall_mem_cons] at his
      rw [List.foldr_cons, hf, hg, hselect _ i his.1, ih his.2]
  funext a
  have ha := eq_xor_bits a
  rw [ha]
  exact hfold a _ (by simp)

theorem gfDouble_eq (a : UInt8) : gfDouble a = a <<< 1 ^^^ select (bit a 7) 0x1b := by
  have hhigh : a &&& 0x80 ≠ 0 ↔ bit a 7 = true := @and_single_ne_zero a 7 (by decide)
  unfold gfDouble
  simp only [hhigh]
  cases bit a 7 <;> simp [select]

theorem additive_gfDouble : Additive gfDouble := by
  have hshift : Additive fun a => a <<< 1 := by
    intro a b
    exact UInt8.shiftLeft_xor
  intro a b
  rw [gfDouble_eq, gfDouble_eq, gfDouble_eq]
  exact hshift.xor (additive_select_bit 7 0x1b) a b

/-- The loop as a sum over the bits of `right`. -/
def gfMulBits : Nat → UInt8 → UInt8 → UInt8
  | 0, _, _ => 0
  | rounds + 1, left, right => select (bit right 0) left ^^^ gfMulBits rounds (gfDouble left) (right >>> 1)

theorem gfMulBits_zero_right (rounds : Nat) (left : UInt8) : gfMulBits rounds left 0 = 0 := by
  induction rounds generalizing left with
  | zero => rfl
  | succ rounds ih =>
    unfold gfMulBits
    rw [show (0 : UInt8) >>> 1 = 0 by decide, ih]
    simp [bit, select]

theorem gfMulLoop_eq (rounds : Nat) (left right product : UInt8)
    : gfMulLoop rounds left right product = product ^^^ gfMulBits rounds left right := by
  induction rounds generalizing left right product with
  | zero => simp [gfMulLoop, gfMulBits]
  | succ rounds ih =>
    have hlow : right &&& 1 ≠ 0 ↔ bit right 0 = true := @and_single_ne_zero right 0 (by decide)
    unfold gfMulLoop
    split
    next h => rw [h, gfMulBits_zero_right, UInt8.xor_zero]
    next =>
      rw [ih, gfMulBits, ← UInt8.xor_assoc]
      congr 1
      unfold select
      split
      next h => rw [if_pos (hlow.mp h)]
      next h => rw [if_neg (mt hlow.mpr h), UInt8.xor_zero]

theorem gfMul_eq (left right : UInt8) : gfMul left right = gfMulBits 8 left right := by
  unfold gfMul
  rw [gfMulLoop_eq, UInt8.zero_xor]

theorem additive_gfMul_left (right : UInt8) : Additive fun left => gfMul left right := by
  have h : ∀ rounds right, Additive fun left => gfMulBits rounds left right := by
    intro rounds
    induction rounds with
    | zero =>
      intro right a b
      simp [gfMulBits]
    | succ rounds ih =>
      intro right
      exact (additive_select (bit right 0)).xor ((ih (right >>> 1)).comp additive_gfDouble)
  simp only [gfMul_eq]
  exact h 8 right

theorem additive_gfMul_right (left : UInt8) : Additive (gfMul left) := by
  have h : ∀ rounds left, Additive (gfMulBits rounds left) := by
    intro rounds
    induction rounds with
    | zero =>
      intro left a b
      simp [gfMulBits]
    | succ rounds ih =>
      intro left
      apply (additive_select_bit 0 left).xor
      exact (ih (gfDouble left)).comp fun a b => UInt8.shiftRight_xor
  intro a b
  rw [gfMul_eq, gfMul_eq, gfMul_eq]
  exact h 8 left a b

theorem gfMul_single (a : UInt8) {k : Nat} (hk : k < 8) : gfMul a (single k) = gfDouble^[k] a := by
  have hfirst : bit (single 0) 0 = true ∧ single 0 >>> 1 = 0 := by decide
  have hnext : ∀ k < 7, bit (single (k + 1)) 0 = false ∧ single (k + 1) >>> 1 = single k := by decide
  -- The doublings before the one set bit are all that counts; the rounds after it add nothing.
  have h : ∀ rounds a, gfMulBits (k + 1 + rounds) a (single k) = gfDouble^[k] a := by
    induction k with
    | zero =>
      intro rounds a
      rw [Nat.zero_add, Nat.add_comm, gfMulBits, hfirst.1, hfirst.2, gfMulBits_zero_right, UInt8.xor_zero]
      rfl
    | succ k ih =>
      intro rounds a
      obtain ⟨hbit, hshift⟩ := hnext k (by omega)
      rw [Nat.add_right_comm, gfMulBits, hbit, hshift, ih (by omega), Function.iterate_succ_apply]
      exact UInt8.zero_xor
  rw [gfMul_eq, ← h (7 - k) a, show k + 1 + (7 - k) = 8 by omega]

theorem single_eq_iterate {k : Nat} (hk : k < 8) : single k = gfDouble^[k] 1 := by
  have h : ∀ k < 8, single k = gfDouble^[k] 1 := by decide
  exact h k hk

theorem gfMul_comm (a b : UInt8) : gfMul a b = gfMul b a := by
  have hsingles : ∀ i < 8, ∀ j < 8, gfMul (single i) (single j) = gfMul (single j) (single i) := by
    intro i hi j hj
    rw [gfMul_single _ hj, gfMul_single _ hi, single_eq_iterate hi, single_eq_iterate hj,
      ← Function.iterate_add_apply, ← Function.iterate_add_apply, Nat.add_comm]
  refine congrFun (Additive.ext (additive_gfMul_left b) (additive_gfMul_right b) ?_) a
  intro i hi
  exact congrFun (Additive.ext (additive_gfMul_right _) (additive_gfMul_left _) (hsingles i hi)) b

theorem gfDouble_gfMul (a b : UInt8) : gfMul (gfDouble a) b = gfDouble (gfMul a b) := by
  have hselect : ∀ chosen a, select chosen (gfDouble a) = gfDouble (select chosen a) := by
    intro chosen a
    cases chosen with
    | false => exact additive_gfDouble.zero.symm
    | true => rfl
  have h : ∀ rounds a b, gfMulBits rounds (gfDouble a) b = gfDouble (gfMulBits rounds a b) := by
    intro rounds
    induction rounds with
    | zero =>
      intro a b
      exact additive_gfDouble.zero.symm
    | succ rounds ih =>
      intro a b
      rw [gfMulBits, gfMulBits, ih, hselect, additive_gfDouble]
  rw [gfMul_eq, gfMul_eq, h]

theorem gfMul_gfDouble_iterate (a b : UInt8) (k : Nat) : gfMul a (gfDouble^[k] b) = gfDouble^[k] (gfMul a b) := by
  induction k with
  | zero => rfl
  | succ k ih =>
    rw [Function.iterate_succ_apply', Function.iterate_succ_apply', gfMul_comm, gfDouble_gfMul, gfMul_comm, ih]

theorem gfMul_assoc (a b c : UInt8) : gfMul (gfMul a b) c = gfMul a (gfMul b c) := by
  refine congrFun (Additive.ext (additive_gfMul_right _)
    ((additive_gfMul_right a).comp (additive_gfMul_right b)) ?_) c
  intro k hk
  rw [gfMul_single _ hk, gfMul_single _ hk, gfMul_gfDouble_iterate]

theorem one_gfMul (a : UInt8) : gfMul 1 a = a := by
  refine congrFun (Additive.ext (g := id) (additive_gfMul_right 1) (fun a b => rfl) ?_) a
  intro i hi
  exact (gfMul_single 1 hi).trans (single_eq_iterate hi).symm

def gfSquare (a : UInt8) : UInt8 :=
  gfMul a a

theorem additive_gfSquare : Additive gfSquare := by
  intro a b
  have hleft : ∀ c, gfMul (a ^^^ b) c = gfMul a c ^^^ gfMul b c := fun c => additive_gfMul_left c a b
  unfold gfSquare
  rw [additive_gfMul_right, hleft, hleft, gfMul_comm b a, UInt8.xor_assoc, ← UInt8.xor_assoc (gfMul a b),
    UInt8.xor_self, UInt8.zero_xor]

theorem gfSquare_iterate (a : UInt8) : gfSquare^[8] a = a := by
  have hadditive : ∀ k, Additive gfSquare^[k] := by
    intro k
    induction k with
    | zero =>
      intro a b
      rfl
    | succ k ih =>
      rw [Function.iterate_succ]
      exact ih.comp additive_gfSquare
  refine congrFun (Additive.ext (g := id) (hadditive 8) ?_ (by decide +kernel)) a
  intro a b
  rfl

theorem eq_zero_or_one_of_gfSquare (a : UInt8) (h : gfSquare a = a) : a = 0 ∨ a = 1 := by
  revert a
  decide +kernel

/-!
### The field
-/

structure GF256 where
  byte : UInt8
deriving DecidableEq

namespace GF256

variable {a : GF256}

theorem ext {b : GF256} (h : a.byte = b.byte) : a = b := by
  cases a
  cases b
  exact congrArg GF256.mk h

instance : Zero GF256 := ⟨⟨0⟩⟩
instance : One GF256 := ⟨⟨1⟩⟩
instance : Add GF256 := ⟨fun a b => ⟨a.byte ^^^ b.byte⟩⟩
instance : Neg GF256 := ⟨id⟩
instance : Mul GF256 := ⟨fun a b => ⟨gfMul a.byte b.byte⟩⟩
instance : Inv GF256 := ⟨fun a => ⟨gfPow a.byte 254⟩⟩

@[simp]
theorem byte_add (a b : GF256) : (a + b).byte = a.byte ^^^ b.byte := rfl

@[simp]
theorem byte_neg (a : GF256) : (-a).byte = a.byte := rfl

@[simp]
theorem byte_mul (a b : GF256) : (a * b).byte = gfMul a.byte b.byte := rfl

@[simp]
theorem byte_inv (a : GF256) : a⁻¹.byte = gfPow a.byte 254 := rfl

instance : CommRing GF256 where
  add_assoc a b c := by
    apply GF256.ext
    exact UInt8.xor_assoc _ _ _
  zero_add a := by
    apply GF256.ext
    exact UInt8.zero_xor
  add_zero a := by
    apply GF256.ext
    exact UInt8.xor_zero
  add_comm a b := by
    apply GF256.ext
    exact UInt8.xor_comm _ _
  neg_add_cancel a := by
    apply GF256.ext
    exact UInt8.xor_self
  nsmul := nsmulRec
  zsmul := zsmulRec
  mul_assoc a b c := by
    apply GF256.ext
    exact gfMul_assoc _ _ _
  mul_comm a b := by
    apply GF256.ext
    exact gfMul_comm _ _
  one_mul a := by
    apply GF256.ext
    exact one_gfMul _
  mul_one a := by
    apply GF256.ext
    exact (gfMul_comm _ _).trans (one_gfMul _)
  zero_mul a := by
    apply GF256.ext
    exact (additive_gfMul_left a.byte).zero
  mul_zero a := by
    apply GF256.ext
    exact (additive_gfMul_right a.byte).zero
  left_distrib a b c := by
    apply GF256.ext
    exact additive_gfMul_right a.byte b.byte c.byte
  right_distrib a b c := by
    apply GF256.ext
    exact additive_gfMul_left c.byte a.byte b.byte

theorem mk_gfSquare_iterate (a : UInt8) (k : Nat) : (⟨gfSquare^[k] a⟩ : GF256) = ⟨a⟩ ^ 2 ^ k := by
  induction k with
  | zero => rw [pow_zero, pow_one, Function.iterate_zero_apply]
  | succ k ih =>
    rw [Function.iterate_succ_apply', pow_succ, pow_mul, ← ih, pow_two]
    rfl

theorem pow_255 (h : a ≠ 0) : a ^ 255 = 1 := by
  have hfrobenius : a ^ 256 = a := by
    have := mk_gfSquare_iterate a.byte 8
    rw [gfSquare_iterate] at this
    exact this.symm
  have hidempotent : gfSquare (a ^ 255).byte = (a ^ 255).byte := by
    have hpower : a ^ 255 * a ^ 255 = a ^ 255 := by
      rw [← pow_add, show 255 + 255 = 256 + 254 by rfl, pow_add, hfrobenius, ← pow_succ']
    exact congrArg byte hpower
  rcases eq_zero_or_one_of_gfSquare _ hidempotent with hzero | hone
  . have hzero : a ^ 255 = 0 := ext hzero
    rw [pow_succ, hzero, zero_mul] at hfrobenius
    exact absurd hfrobenius.symm h
  . exact ext hone

theorem mk_gfPowLoop {rounds : Nat} (value exponent result : UInt8) (h : exponent.toNat < 2 ^ rounds)
    : (⟨gfPowLoop rounds value exponent result⟩ : GF256) = ⟨result⟩ * ⟨value⟩ ^ exponent.toNat := by
  induction rounds generalizing value exponent result with
  | zero =>
    rw [show exponent.toNat = 0 by omega, pow_zero, mul_one]
    rfl
  | succ rounds ih =>
    have hshift : (exponent >>> 1).toNat = exponent.toNat / 2 := by
      rw [UInt8.toNat_shiftRight]
      exact Nat.shiftRight_one _
    have hodd : exponent &&& 1 ≠ 0 ↔ exponent.toNat % 2 = 1 := by
      rw [ne_eq, ← UInt8.toNat_inj, UInt8.toNat_and]
      change ¬ exponent.toNat &&& 1 = 0 ↔ _
      rw [Nat.and_one_is_mod]
      omega
    unfold gfPowLoop
    split
    next hzero =>
      rw [hzero]
      exact (mul_one _).symm
    next =>
      rw [ih _ _ _ (by omega), hshift]
      change _ * (⟨value⟩ * ⟨value⟩ : GF256) ^ (exponent.toNat / 2) = _
      rw [← pow_two, ← pow_mul]
      split
      next h =>
        rw [hodd] at h
        change (⟨result⟩ * ⟨value⟩ : GF256) * _ = _
        rw [mul_assoc, ← pow_succ', show 2 * (exponent.toNat / 2) + 1 = exponent.toNat by omega]
      next h =>
        rw [hodd] at h
        rw [show 2 * (exponent.toNat / 2) = exponent.toNat by omega]

theorem inv_eq_pow (a : GF256) : a⁻¹ = a ^ 254 := by
  have h := @mk_gfPowLoop 8 a.byte 254 1 (by decide)
  change _ = 1 * a ^ 254 at h
  rw [one_mul] at h
  rw [← h]
  apply GF256.ext
  rw [byte_inv, gfPow]

instance : Field GF256 where
  inv := Inv.inv
  exists_pair_ne := ⟨0, 1, by decide⟩
  mul_inv_cancel a h := by
    rw [inv_eq_pow, ← pow_succ', pow_255 h]
  inv_zero := by
    rw [inv_eq_pow, zero_pow (by decide)]
  nnqsmul := _
  nnqsmul_def _ _ := rfl
  qsmul := _
  qsmul_def _ _ := rfl

@[simp]
theorem byte_sub (a b : GF256) : (a - b).byte = a.byte ^^^ b.byte := by
  rw [sub_eq_add_neg, byte_add, byte_neg]

@[simp]
theorem byte_div (a b : GF256) : (a / b).byte = gfDiv a.byte b.byte := by
  rw [div_eq_mul_inv, byte_mul, byte_inv]
  rfl

theorem mk_gfEval (coefficients : List UInt8) (x : UInt8)
    : (⟨gfEval coefficients x⟩ : GF256) = (Sharing.polynomial (coefficients.map GF256.mk)).eval ⟨x⟩ := by
  unfold gfEval
  rw [List.foldl_reverse]
  induction coefficients with
  | nil =>
    rw [List.map_nil, Sharing.eval_polynomial_nil]
    rfl
  | cons coefficient coefficients ih =>
    rw [List.map_cons, Sharing.eval_polynomial_cons, ← ih]
    rfl

end GF256

end MeshMine.Mpc
