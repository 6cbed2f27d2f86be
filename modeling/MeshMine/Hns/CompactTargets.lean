import MeshMine.Hns.Target

/-!
The canonical compact encoding of targets. Encoding keeps the three highest bytes of a target, or the two highest where
a third would reach into the sign.
-/

namespace MeshMine.Hns

theorem toNat_eight_mul_sub {a b : UInt32} (hle : b ≤ a) (ha : a.toNat < 256)
    : (8 * (a - b)).toNat = 8 * (a.toNat - b.toNat) := by
  rw [UInt32.toNat_mul, UInt32.toNat_sub_of_le _ _ hle]
  apply Nat.mod_eq_of_lt
  change 8 * (a.toNat - b.toNat) < 2 ^ 32
  omega

section

variable {compact : UInt32} {e m : Nat} (h : compact.toNat = 2 ^ 24 * e + m) (hlt : m < 2 ^ 23)

include h hlt

theorem fields_of_toNat
    : (compact >>> 24).toNat = e ∧ (compact >>> 23) &&& 1 = 0 ∧ (compact &&& 0x007fffff).toNat = m := by
  have := compact.toNat_lt
  refine ⟨?_, ?_, ?_⟩
  . rw [UInt32.toNat_shiftRight, Nat.shiftRight_eq_div_pow, h]
    simp
    omega
  . rw [← UInt32.toNat_inj, UInt32.toNat_and, UInt32.toNat_shiftRight, Nat.shiftRight_eq_div_pow, h]
    simp
    omega
  . rw [UInt32.toNat_and, h]
    change (2 ^ 24 * e + m) &&& (2 ^ 23 - 1) = m
    rw [Nat.and_two_pow_sub_one_eq_mod]
    omega

theorem compactToTarget_of_toNat (hpos : 0 < m)
    : compactToTarget compact = (m * 2 ^ (8 * (e - 3)) / 2 ^ (8 * (3 - e)) : Nat) := by
  obtain ⟨hexponent, hnegative, hmantissa⟩ := fields_of_toNat h hlt
  have := compact.toNat_lt
  have hne : compact ≠ 0 := by
    rintro rfl
    simp at h
    omega
  unfold compactToTarget
  simp only [if_neg hne, hnegative, ne_eq, not_true_eq_false, if_false]
  split
  next hle =>
    rw [UInt32.toNat_shiftRight, hmantissa, toNat_eight_mul_sub hle (by decide), hexponent,
      Nat.shiftRight_eq_div_pow]
    rw [UInt32.le_iff_toNat_le, hexponent] at hle
    change e ≤ 3 at hle
    rw [Nat.sub_eq_zero_of_le hle, Nat.mod_eq_of_lt]
    . simp
    . simp
      omega
  next hle =>
    rw [UInt32.not_le] at hle
    rw [hmantissa, toNat_eight_mul_sub (UInt32.le_of_lt hle) (by omega), hexponent, Nat.shiftLeft_eq]
    rw [UInt32.lt_iff_toNat_lt, hexponent] at hle
    change 3 < e at hle
    rw [Nat.sub_eq_zero_of_le (Nat.le_of_lt hle)]
    simp

end

def compactMantissa (t e : Nat) : Nat :=
  t * 2 ^ (8 * (3 - e)) / 2 ^ (8 * (e - 3))

theorem compactMantissa_div (t e : Nat) : compactMantissa t e / 2 ^ 8 = compactMantissa t (e + 1) := by
  unfold compactMantissa
  rw [Nat.div_div_eq_div_mul, ← Nat.pow_add]
  rcases Nat.lt_or_ge e 3 with h | h
  . rw [show 8 * (3 - e) = 8 * (3 - (e + 1)) + 8 by omega, show 8 * (e - 3) = 0 by omega,
      show 8 * (e + 1 - 3) = 0 by omega, Nat.zero_add, Nat.pow_add, ← Nat.mul_assoc, Nat.mul_div_cancel _ (by decide)]
    simp
  . rw [show 8 * (3 - e) = 8 * (3 - (e + 1)) by omega, show 8 * (e - 3) + 8 = 8 * (e + 1 - 3) by omega]

theorem two_pow_le_compactMantissa {t e k : Nat} (he : 24 ≤ 8 * e + k)
    : 2 ^ k ≤ compactMantissa t e ↔ 2 ^ (8 * e + k - 24) ≤ t := by
  unfold compactMantissa
  rw [Nat.le_div_iff_mul_le (Nat.two_pow_pos _), ← Nat.pow_add,
    show k + 8 * (e - 3) = 8 * e + k - 24 + 8 * (3 - e) by omega, Nat.pow_add]
  exact Nat.mul_le_mul_right_iff (Nat.two_pow_pos _)

theorem toNat_shiftLeft_or {e m : Nat} (he : e < 256) (hm : m < 2 ^ 24)
    : (UInt32.ofNat e <<< 24 ||| UInt32.ofNat m).toNat = 2 ^ 24 * e + m := by
  have hshift : (UInt32.ofNat e <<< 24).toNat = 2 ^ 24 * e := by
    rw [UInt32.toNat_shiftLeft, Nat.shiftLeft_eq]
    simp
    omega
  have hmantissa : (UInt32.ofNat m).toNat = m := by
    rw [UInt32.toNat_ofNat', Nat.mod_eq_of_lt (by omega)]
  rw [UInt32.toNat_or, hshift, hmantissa, Nat.two_pow_add_eq_or_of_lt hm]

/-- The bytes of the target, and one more where the highest bit is the sign. -/
def compactExponent (t : Nat) : Nat :=
  Bytes.bitLength t / 8 + 1

theorem targetToCompact_toNat {t : Nat} (h : t ≠ 0) (ht : t < 2 ^ 256)
    : (targetToCompact t).toNat = 2 ^ 24 * compactExponent t + compactMantissa t (compactExponent t) := by
  have hle : Bytes.bitLength t ≤ 256 := Bytes.bitLength_le_iff.mpr ht
  obtain ⟨hpos, hlow, hhigh⟩ := Bytes.bitLength_spec h
  unfold targetToCompact
  rw [if_neg h, Bytes.length_toMinimalBE]
  dsimp only
  obtain ⟨n, hn⟩ : ∃ n, n = max 1 ((Bytes.bitLength t + 7) / 8) := ⟨_, rfl⟩
  have hlt : compactMantissa t n < 2 ^ 24 := by
    rw [← Nat.not_le, two_pow_le_compactMantissa (by omega), Nat.not_le, ← Bytes.bitLength_le_iff]
    omega
  have hmantissa : (if n ≤ 3 then UInt32.ofNat t <<< UInt32.ofNat (8 * (3 - n)) else UInt32.ofNat (t >>> (8 * (n - 3))))
      = UInt32.ofNat (compactMantissa t n) := by
    unfold compactMantissa
    split
    next hsmall =>
      rw [Nat.sub_eq_zero_of_le hsmall, Nat.mul_zero, Nat.pow_zero, Nat.div_one, ← UInt32.toNat_inj,
        UInt32.toNat_shiftLeft, Nat.shiftLeft_eq, UInt32.toNat_ofNat', UInt32.toNat_ofNat', UInt32.toNat_ofNat',
        show 8 * (3 - n) % 2 ^ 32 % 32 = 8 * (3 - n) by omega, Nat.mod_mul_mod]
    next hlarge =>
      rw [Nat.shiftRight_eq_div_pow, show 3 - n = 0 by omega, Nat.mul_zero, Nat.pow_zero, Nat.mul_one]
  have htoNat : (UInt32.ofNat (compactMantissa t n)).toNat = compactMantissa t n := by
    rw [UInt32.toNat_ofNat', Nat.mod_eq_of_lt (by omega)]
  rw [← hn, hmantissa]
  have hsign : UInt32.ofNat (compactMantissa t n) &&& 0x00800000 ≠ 0 ↔ 8 * n ≤ Bytes.bitLength t := by
    have hhalf : 2 ^ 23 ≤ compactMantissa t n ↔ 8 * n ≤ Bytes.bitLength t := by
      rw [two_pow_le_compactMantissa (by omega), show 8 * n + 23 - 24 = 8 * n - 1 by omega, ← Nat.not_lt,
        ← Bytes.bitLength_le_iff]
      omega
    rw [← hhalf, ne_eq, ← UInt32.toNat_inj, UInt32.toNat_and, htoNat]
    change ¬ compactMantissa t n &&& 2 ^ 23 = 0 ↔ _
    rw [Nat.and_two_pow, Nat.testBit_eq_decide_div_mod_eq]
    by_cases hlow : compactMantissa t n < 2 ^ 23
    . rw [show compactMantissa t n / 2 ^ 23 = 0 by omega]
      simp
      omega
    . rw [show compactMantissa t n / 2 ^ 23 = 1 by omega]
      simp
      omega
  simp only [hsign]
  split
  next hfull =>
    have hdiv : UInt32.ofNat (compactMantissa t n) >>> 8 = UInt32.ofNat (compactMantissa t (n + 1)) := by
      rw [← UInt32.toNat_inj, UInt32.toNat_shiftRight, htoNat, Nat.shiftRight_eq_div_pow, ← compactMantissa_div,
        UInt32.toNat_ofNat']
      simp
      omega
    have hexponent : compactExponent t = n + 1 := by
      unfold compactExponent
      omega
    rw [hdiv, toNat_shiftLeft_or (by omega) (by rw [← compactMantissa_div]; omega), hexponent]
  next hpartial =>
    have hexponent : compactExponent t = n := by
      unfold compactExponent
      omega
    rw [toNat_shiftLeft_or (by omega) hlt, hexponent]

theorem compactMantissa_bounds {t : Nat} (h : t ≠ 0)
    : 0 < compactMantissa t (compactExponent t) ∧ compactMantissa t (compactExponent t) < 2 ^ 23 := by
  obtain ⟨hpos, hlow, hhigh⟩ := Bytes.bitLength_spec h
  have hexponent : 8 * compactExponent t = 8 * (Bytes.bitLength t / 8) + 8 := by
    unfold compactExponent
    omega
  constructor
  . apply Nat.lt_of_lt_of_le (Nat.two_pow_pos (Bytes.bitLength t + 23 - 8 * compactExponent t))
    rw [two_pow_le_compactMantissa (by omega),
      show 8 * compactExponent t + (Bytes.bitLength t + 23 - 8 * compactExponent t) - 24 = Bytes.bitLength t - 1 by
        omega]
    exact hlow
  . rw [← Nat.not_le, two_pow_le_compactMantissa (by omega), Nat.not_le, ← Bytes.bitLength_le_iff]
    omega

/-- The target with the bytes cut off that do not fit into the mantissa. -/
def truncatedTarget (t : Nat) : Nat :=
  t / 2 ^ (8 * (compactExponent t - 3)) * 2 ^ (8 * (compactExponent t - 3))

theorem two_pow_le_truncatedTarget {t : Nat} (h : t ≠ 0) : 2 ^ (Bytes.bitLength t - 1) ≤ truncatedTarget t := by
  obtain ⟨hpos, hlow, _⟩ := Bytes.bitLength_spec h
  have hsplit : Bytes.bitLength t - 1
      = Bytes.bitLength t - 1 - 8 * (compactExponent t - 3) + 8 * (compactExponent t - 3) := by
    unfold compactExponent
    omega
  unfold truncatedTarget
  rw [hsplit, Nat.pow_add]
  apply Nat.mul_le_mul_right
  rw [Nat.le_div_iff_mul_le (Nat.two_pow_pos _), ← Nat.pow_add, ← hsplit]
  exact hlow

theorem truncatedTarget_le (t : Nat) : truncatedTarget t ≤ t :=
  Nat.div_mul_le_self _ _

theorem bitLength_truncatedTarget (t : Nat) : Bytes.bitLength (truncatedTarget t) = Bytes.bitLength t := by
  by_cases h : t = 0
  . rw [h]
    rfl
  . obtain ⟨hpos, _, hhigh⟩ := Bytes.bitLength_spec h
    have hlow := two_pow_le_truncatedTarget h
    apply Nat.le_antisymm
    . rw [Bytes.bitLength_le_iff]
      exact Nat.lt_of_le_of_lt (truncatedTarget_le t) hhigh
    . rw [← Nat.not_lt, Nat.lt_iff_le_pred hpos, Bytes.bitLength_le_iff]
      exact Nat.not_lt.mpr hlow

theorem compactToTarget_targetToCompact {t : Nat} (ht : t < 2 ^ 256)
    : compactToTarget (targetToCompact t) = truncatedTarget t := by
  by_cases h : t = 0
  . rw [h]
    rfl
  . obtain ⟨hpos, hlt⟩ := compactMantissa_bounds h
    rw [compactToTarget_of_toNat (targetToCompact_toNat h ht) hlt hpos]
    unfold compactMantissa truncatedTarget
    rcases Nat.lt_or_ge (compactExponent t) 3 with hlt | hge
    . rw [show compactExponent t - 3 = 0 by omega]
      simp
    . rw [show 3 - compactExponent t = 0 by omega]
      simp

theorem targetToCompact_truncatedTarget {t : Nat} (ht : t < 2 ^ 256)
    : targetToCompact (truncatedTarget t) = targetToCompact t := by
  by_cases h : t = 0
  . rw [h]
    rfl
  . have hexponent : compactExponent (truncatedTarget t) = compactExponent t := by
      unfold compactExponent
      rw [bitLength_truncatedTarget]
    have hne : truncatedTarget t ≠ 0 := by
      have := two_pow_le_truncatedTarget h
      have := Nat.two_pow_pos (Bytes.bitLength t - 1)
      omega
    rw [← UInt32.toNat_inj, targetToCompact_toNat h ht, targetToCompact_toNat hne
      (Nat.lt_of_le_of_lt (truncatedTarget_le t) ht), hexponent]
    congr 1
    unfold compactMantissa truncatedTarget
    rcases Nat.lt_or_ge (compactExponent t) 3 with hlt | hge
    . rw [show compactExponent t - 3 = 0 by omega]
      simp
    . rw [show 3 - compactExponent t = 0 by omega]
      simp

theorem truncatedTarget_mono {t t' : Nat} (h : t ≤ t') : truncatedTarget t ≤ truncatedTarget t' := by
  by_cases hzero : t' = 0
  . rw [show t = t' by omega]
  . obtain ⟨_, _, hhigh⟩ := Bytes.bitLength_spec hzero
    have hle : Bytes.bitLength t ≤ Bytes.bitLength t' := Bytes.bitLength_le_iff.mpr (Nat.lt_of_le_of_lt h hhigh)
    rcases Nat.eq_or_lt_of_le hle with heq | hlt
    . unfold truncatedTarget compactExponent
      rw [heq]
      exact Nat.mul_le_mul_right _ (Nat.div_le_div_right h)
    . calc truncatedTarget t
        _ ≤ t := truncatedTarget_le t
        _ ≤ 2 ^ (Bytes.bitLength t' - 1) := Nat.le_of_lt (Bytes.bitLength_le_iff.mp (by omega))
        _ ≤ truncatedTarget t' := two_pow_le_truncatedTarget hzero

theorem targetToCompact_canonical {t : Nat} (ht : t < 2 ^ 256)
    : (targetToCompact t >>> 23) &&& 1 = 0
      ∧ 0 ≤ compactToTarget (targetToCompact t) ∧ compactToTarget (targetToCompact t) ≤ t
      ∧ t < compactToTarget (targetToCompact t) + 2 ^ (8 * ((targetToCompact t >>> 24).toNat - 3))
      ∧ targetToCompact (compactToTarget (targetToCompact t)).toNat = targetToCompact t
      ∧ ∀ t' < 2 ^ 256, (t ≤ t' → compactToTarget (targetToCompact t) ≤ compactToTarget (targetToCompact t'))
        ∧ (compactToTarget (targetToCompact t') = compactToTarget (targetToCompact t)
          → targetToCompact t' = targetToCompact t) := by
  have hfields : (targetToCompact t >>> 23) &&& 1 = 0
      ∧ t < truncatedTarget t + 2 ^ (8 * ((targetToCompact t >>> 24).toNat - 3)) := by
    by_cases h : t = 0
    . rw [h]
      decide
    . obtain ⟨hexponent, hsign, _⟩ := fields_of_toNat (targetToCompact_toNat h ht) (compactMantissa_bounds h).2
      rw [hexponent]
      exact ⟨hsign, Nat.lt_div_mul_add (Nat.two_pow_pos _)⟩
  rw [compactToTarget_targetToCompact ht, Int.toNat_natCast]
  refine ⟨hfields.1, Int.natCast_nonneg _, ?_, ?_, targetToCompact_truncatedTarget ht, ?_⟩
  . exact_mod_cast truncatedTarget_le t
  . exact_mod_cast hfields.2
  . intro t' ht'
    rw [compactToTarget_targetToCompact ht']
    constructor
    . intro h
      exact_mod_cast truncatedTarget_mono h
    . intro h
      rw [← targetToCompact_truncatedTarget ht', Int.ofNat_inj.mp h, targetToCompact_truncatedTarget ht]

theorem targetToCompact_canonical_sample
    : targetToCompact (compactToTarget (targetToCompact (2 ^ 254 + 1))).toNat = targetToCompact (2 ^ 254 + 1) :=
  (targetToCompact_canonical (by decide)).2.2.2.2.1

end MeshMine.Hns
