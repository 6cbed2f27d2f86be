import Mathlib.Data.Nat.Bitwise
import Mathlib.Tactic.Ring

/-!
Byte strings and the numbers they denote: big-endian and little-endian readings, fixed-width byte
vectors, and the bitwise facts that relate a byte-by-byte `xor` to the `xor` of the numbers.
-/

structure ByteVec (n : Nat) where
  toList : List UInt8
  length_toList : toList.length = n
deriving DecidableEq

variable {n : Nat}

namespace Bytes

def ofBE : List UInt8 → Nat
  | [] => 0
  | b :: bs => 2 ^ (8 * bs.length) * b.toNat + ofBE bs

def toBE : Nat → Nat → List UInt8
  | 0, _ => []
  | k + 1, n => UInt8.ofNat (n / 2 ^ (8 * k)) :: toBE k n

def toLE (k : Nat) (n : Nat) : List UInt8 :=
  (toBE k n).reverse

variable (bytes : List UInt8)

def ofLE : Nat :=
  ofBE bytes.reverse

def bitLength (n : Nat) : Nat :=
  if n = 0 then 0 else n.log2 + 1

/-- The shortest representation; `0` is one zero byte. -/
def toMinimalBE (n : Nat) : List UInt8 :=
  toBE (max 1 ((bitLength n + 7) / 8)) n

def bitMSB (i : Nat) : Bool :=
  (bytes[i / 8]?.getD 0).toNat.testBit (7 - i % 8)

@[simp]
theorem ofBE_nil : ofBE [] = 0 := rfl

theorem ofBE_cons (b : UInt8) (bs : List UInt8)
    : ofBE (b :: bs) = 2 ^ (8 * bs.length) * b.toNat + ofBE bs := rfl

theorem ofBE_lt (bs : List UInt8) : ofBE bs < 2 ^ (8 * bs.length) := by
  induction bs with
  | nil => simp
  | cons b bs ih =>
    have hb : b.toNat + 1 ≤ 2 ^ 8 := b.toNat_lt
    have hmul := Nat.mul_le_mul_left (2 ^ (8 * bs.length)) hb
    rw [ofBE_cons, List.length_cons]
    rw [show 8 * (bs.length + 1) = 8 * bs.length + 8 by omega, Nat.pow_add]
    rw [Nat.mul_add] at hmul
    omega

theorem testBit_ofBE_cons (b : UInt8) (bs : List UInt8) (i : Nat)
    : (ofBE (b :: bs)).testBit i
        =
      if i < 8 * bs.length then (ofBE bs).testBit i else b.toNat.testBit (i - 8 * bs.length) := by
  rw [ofBE_cons]
  exact Nat.testBit_two_pow_mul_add b.toNat (ofBE_lt bs) i

theorem ofBE_append (xs ys : List UInt8)
    : ofBE (xs ++ ys) = 2 ^ (8 * ys.length) * ofBE xs + ofBE ys := by
  induction xs with
  | nil => simp
  | cons x xs ih =>
    rw [List.cons_append, ofBE_cons, ofBE_cons, ih, List.length_append]
    rw [Nat.mul_add 8, Nat.pow_add]
    ring

@[simp]
theorem ofBE_replicate_zero (k : Nat) : ofBE (List.replicate k 0) = 0 := by
  induction k with
  | zero => rfl
  | succ k ih => simp [List.replicate_succ, ofBE_cons, ih]

@[simp]
theorem length_toBE (k n : Nat) : (toBE k n).length = k := by
  induction k with
  | zero => rfl
  | succ k ih => simp [toBE, ih]

theorem ofBE_toBE (k n : Nat) : ofBE (toBE k n) = n % 2 ^ (8 * k) := by
  induction k with
  | zero => simp [toBE, Nat.mod_one]
  | succ k ih =>
    rw [toBE, ofBE_cons, ih, length_toBE, UInt8.toNat_ofNat']
    rw [show 8 * (k + 1) = 8 * k + 8 by omega, Nat.pow_add]
    have := Nat.mod_mul (x := n) (a := 2 ^ (8 * k)) (b := 2 ^ 8)
    omega

theorem length_toLE (k n : Nat) : (toLE k n).length = k := by
  unfold toLE
  rw [List.length_reverse, length_toBE]

theorem ofLE_toLE (k n : Nat) : ofLE (toLE k n) = n % 2 ^ (8 * k) := by
  unfold ofLE toLE
  rw [List.reverse_reverse, ofBE_toBE]

theorem toBE_two_pow_mul_add (k a n : Nat) : toBE k (2 ^ (8 * k) * a + n) = toBE k n := by
  induction k generalizing a with
  | zero => rfl
  | succ k ih =>
    have hpow : 2 ^ (8 * (k + 1)) * a + n = 2 ^ (8 * k) * (2 ^ 8 * a) + n := by
      rw [show 8 * (k + 1) = 8 * k + 8 by omega, Nat.pow_add, Nat.mul_assoc]
    rw [toBE, toBE, hpow, ih]
    rw [Nat.mul_add_div (Nat.two_pow_pos (8 * k))]
    congr 1
    rw [← UInt8.toNat_inj, UInt8.toNat_ofNat', UInt8.toNat_ofNat', Nat.mul_add_mod]

theorem toBE_ofBE (bs : List UInt8) : toBE bs.length (ofBE bs) = bs := by
  induction bs with
  | nil => rfl
  | cons b bs ih =>
    rw [List.length_cons, toBE, ofBE_cons, toBE_two_pow_mul_add, ih]
    rw [Nat.mul_add_div (Nat.two_pow_pos _), Nat.div_eq_of_lt (ofBE_lt bs)]
    simp

theorem toLE_ofLE (bs : List UInt8) : toLE bs.length (ofLE bs) = bs := by
  unfold toLE ofLE
  rw [← List.length_reverse, toBE_ofBE, List.reverse_reverse]

/-!
### Bit lengths
-/

theorem bitLength_le_iff {k : Nat} : bitLength n ≤ k ↔ n < 2 ^ k := by
  unfold bitLength
  split
  next h =>
    subst h
    simp
  next h =>
    rw [Nat.add_one_le_iff, Nat.log2_lt h]

theorem bitLength_spec {n : Nat} (h : n ≠ 0)
    : 0 < bitLength n ∧ 2 ^ (bitLength n - 1) ≤ n ∧ n < 2 ^ bitLength n := by
  unfold bitLength
  rw [if_neg h]
  exact ⟨Nat.succ_pos _, Nat.log2_self_le h, Nat.lt_log2_self⟩

@[simp]
theorem length_toMinimalBE (n : Nat)
    : (toMinimalBE n).length = max 1 ((bitLength n + 7) / 8) := by
  simp [toMinimalBE]

theorem ofBE_toMinimalBE (n : Nat) : ofBE (toMinimalBE n) = n := by
  unfold toMinimalBE
  rw [ofBE_toBE]
  apply Nat.mod_eq_of_lt
  rw [← bitLength_le_iff]
  omega

/-!
### Bits and `xor`
-/

theorem ofBE_zipWith_xor (xs ys : List UInt8) (h : xs.length = ys.length)
    : ofBE (List.zipWith (· ^^^ ·) xs ys) = ofBE xs ^^^ ofBE ys := by
  induction xs generalizing ys with
  | nil =>
    have : ys = [] := by simpa using h.symm
    simp [this]
  | cons x xs ih =>
    cases ys with
    | nil => simp at h
    | cons y ys =>
      have hlen : xs.length = ys.length := by simpa using h
      apply Nat.eq_of_testBit_eq
      intro i
      rw [List.zipWith_cons_cons, Nat.testBit_xor]
      rw [testBit_ofBE_cons, testBit_ofBE_cons, testBit_ofBE_cons]
      rw [ih ys hlen]
      simp only [List.length_zipWith, hlen, Nat.min_self]
      split
      . rw [Nat.testBit_xor]
      . rw [UInt8.toNat_xor, Nat.testBit_xor]

theorem testBit_ofBE (i : Nat) (h : i < 8 * bytes.length)
    : (ofBE bytes).testBit i = bitMSB bytes (8 * bytes.length - 1 - i) := by
  induction bytes with
  | nil => simp at h
  | cons b bs ih =>
    rw [testBit_ofBE_cons]
    rw [List.length_cons] at *
    unfold bitMSB at *
    split
    next hlt =>
      rw [ih hlt]
      have hdiv : (8 * (bs.length + 1) - 1 - i) / 8 = (8 * bs.length - 1 - i) / 8 + 1 := by omega
      have hmod : (8 * (bs.length + 1) - 1 - i) % 8 = (8 * bs.length - 1 - i) % 8 := by omega
      rw [hdiv, hmod, List.getElem?_cons_succ]
    next hge =>
      have hdiv : (8 * (bs.length + 1) - 1 - i) / 8 = 0 := by omega
      have hmod : 7 - (8 * (bs.length + 1) - 1 - i) % 8 = i - 8 * bs.length := by omega
      rw [hdiv, hmod]
      simp

theorem forall_bitMSB_eq_false_iff (q : Nat) (hq : q ≤ 8 * bytes.length)
    : (∀ i < q, bitMSB bytes i = false) ↔ ofBE bytes < 2 ^ (8 * bytes.length - q) := by
  constructor
  . intro h
    apply Nat.lt_pow_two_of_testBit
    intro i hi
    by_cases hlt : i < 8 * bytes.length
    . rw [testBit_ofBE bytes i hlt]
      apply h
      omega
    . apply Nat.testBit_lt_two_pow
      apply Nat.lt_of_lt_of_le (ofBE_lt bytes)
      apply Nat.pow_le_pow_right <;> omega
  . intro h i hi
    have hbit := testBit_ofBE bytes (8 * bytes.length - 1 - i) (by omega)
    rw [show 8 * bytes.length - 1 - (8 * bytes.length - 1 - i) = i by omega] at hbit
    rw [← hbit]
    apply Nat.testBit_lt_two_pow
    apply Nat.lt_of_lt_of_le h
    apply Nat.pow_le_pow_right <;> omega

/-!
### Lexicographic order
-/

theorem lt_iff_ofBE_lt (xs ys : List UInt8) (h : xs.length = ys.length)
    : xs < ys ↔ ofBE xs < ofBE ys := by
  induction xs generalizing ys with
  | nil =>
    have : ys = [] := by simpa using h.symm
    simp [this]
  | cons x xs ih =>
    cases ys with
    | nil => simp at h
    | cons y ys =>
      have hlen : xs.length = ys.length := by simpa using h
      have hx := ofBE_lt xs
      have hy := ofBE_lt ys
      rw [List.cons_lt_cons_iff, ih ys hlen, UInt8.lt_iff_toNat_lt, ← UInt8.toNat_inj]
      rw [ofBE_cons, ofBE_cons, hlen]
      rw [hlen] at hx
      -- The first differing digit decides, since the rest is worth less than one unit of it.
      rcases Nat.lt_trichotomy x.toNat y.toNat with hlt | heq | hgt
      . have := Nat.mul_le_mul_left (2 ^ (8 * ys.length)) hlt
        rw [Nat.mul_succ] at this
        omega
      . rw [heq]
        omega
      . have := Nat.mul_le_mul_left (2 ^ (8 * ys.length)) hgt
        rw [Nat.mul_succ] at this
        omega

theorem ofBE_inj {xs ys : List UInt8} (hlen : xs.length = ys.length) (h : ofBE xs = ofBE ys)
    : xs = ys := by
  rw [← toBE_ofBE xs, ← toBE_ofBE ys, hlen, h]

end Bytes

namespace ByteVec

@[ext]
theorem ext {a b : ByteVec n} (h : a.toList = b.toList) : a = b := by
  cases a
  cases b
  congr

def toNat {n : Nat} (a : ByteVec n) : Nat :=
  Bytes.ofBE a.toList

def fill (n : Nat) (byte : UInt8) : ByteVec n :=
  ⟨List.replicate n byte, List.length_replicate⟩

def append {m n : Nat} (a : ByteVec m) (b : ByteVec n) : ByteVec (m + n) :=
  ⟨a.toList ++ b.toList, by simp [a.length_toList, b.length_toList]⟩

def zero (n : Nat) : ByteVec n :=
  ⟨List.replicate n 0, by simp⟩

instance : Inhabited (ByteVec n) := ⟨zero n⟩

def xor {n : Nat} (a b : ByteVec n) : ByteVec n :=
  ⟨List.zipWith (· ^^^ ·) a.toList b.toList, by simp [a.length_toList, b.length_toList]⟩

instance {n : Nat} : LE (ByteVec n) := ⟨fun a b => a.toList ≤ b.toList⟩

instance {n : Nat} : LT (ByteVec n) := ⟨fun a b => a.toList < b.toList⟩

instance {n : Nat} (a b : ByteVec n) : Decidable (a ≤ b) :=
  inferInstanceAs (Decidable (a.toList ≤ b.toList))

instance {n : Nat} (a b : ByteVec n) : Decidable (a < b) :=
  inferInstanceAs (Decidable (a.toList < b.toList))

theorem toNat_lt (a : ByteVec n) : a.toNat < 2 ^ (8 * n) := by
  have := Bytes.ofBE_lt a.toList
  rwa [a.length_toList] at this

theorem toNat_xor (a b : ByteVec n) : (a.xor b).toNat = a.toNat ^^^ b.toNat := by
  apply Bytes.ofBE_zipWith_xor
  rw [a.length_toList, b.length_toList]

theorem lt_iff_toNat_lt (a b : ByteVec n) : a < b ↔ a.toNat < b.toNat := by
  apply Bytes.lt_iff_ofBE_lt
  rw [a.length_toList, b.length_toList]

theorem le_iff_toNat_le (a b : ByteVec n) : a ≤ b ↔ a.toNat ≤ b.toNat := by
  rw [← Nat.not_lt, ← lt_iff_toNat_lt]
  exact List.not_lt.symm

theorem toNat_inj {a b : ByteVec n} (h : a.toNat = b.toNat) : a = b := by
  apply ext
  apply Bytes.ofBE_inj _ h
  rw [a.length_toList, b.length_toList]

end ByteVec
