import MeshMine.Hns.Header

/-!
Compact targets, proof-of-work comparison and the mask-safe capture target
(`meshmine-hns/src/target.rs`).
-/

namespace MeshMine.Hns

structure CaptureParameters where
  networkTarget : Hash256
  leadingZeroBitsP : UInt16
  leadingZeroPrefixQ : UInt16
  blindBandBitsD : UInt16
  captureTarget : Hash256

inductive CaptureParameterError where
  | invalidTarget
  | invalidBlindBand

def compactToTarget (compact : UInt32) : Int :=
  if compact = 0 then
    0
  else
    let exponent := compact >>> 24
    let negative := (compact >>> 23) &&& 1 ≠ 0
    let mantissa := compact &&& 0x007fffff
    let target : Int :=
      if exponent ≤ 3 then
        (mantissa >>> (8 * (3 - exponent))).toNat
      else
        mantissa.toNat <<< (8 * (exponent - 3)).toNat
    if negative then -target else target

def targetToCompact (target : Nat) : UInt32 :=
  if target = 0 then
    0
  else
    let exponent := (Bytes.toMinimalBE target).length
    let mantissa : UInt32 :=
      if exponent ≤ 3 then
        UInt32.ofNat target <<< UInt32.ofNat (8 * (3 - exponent))
      else
        UInt32.ofNat (target >>> (8 * (exponent - 3)))
    if mantissa &&& 0x00800000 ≠ 0 then
      UInt32.ofNat (exponent + 1) <<< 24 ||| mantissa >>> 8
    else
      UInt32.ofNat exponent <<< 24 ||| mantissa

def verifyPow (hash : Hash256) (bits : UInt32) : Bool :=
  let target := compactToTarget bits
  if target ≤ 0 ∨ 256 < Bytes.bitLength target.natAbs then
    false
  else
    hash.toNat ≤ target.toNat

def leadingZeros (byte : UInt8) : UInt16 :=
  UInt16.ofNat (8 - Bytes.bitLength byte.toNat)

def countLeadingZeroBits (bytes : Hash256) : UInt16 :=
  go bytes.toList 0
where
  go : List UInt8 → UInt16 → UInt16
    | [], count => count
    | byte :: bytes, count =>
      if byte = 0 then
        go bytes (count + 8)
      else
        count + leadingZeros byte

def captureTarget (q : UInt16) : Hash256 :=
  let zeroBytes := (q / 8).toNat
  let partialZeroBits := q % 8
  let filled := (List.replicate 32 (0xff : UInt8)).mapIdx fun i byte =>
    if i < zeroBytes then 0 else byte
  if partialZeroBits ≠ 0 then
    ⟨filled.modify zeroBytes (· >>> partialZeroBits.toUInt8), by simp [filled]⟩
  else
    ⟨filled, by simp [filled]⟩

theorem length_toMinimalBE_le {n : Nat} (h : ¬ 256 < Bytes.bitLength n)
    : (Bytes.toMinimalBE n).length ≤ 32 := by
  rw [Bytes.length_toMinimalBE]
  omega

def deriveCaptureParameters (bits : UInt32) (blindBandBitsD : UInt16)
    : Except CaptureParameterError CaptureParameters :=
  let target := compactToTarget bits
  if h : target ≤ 0 ∨ 256 < Bytes.bitLength target.natAbs then
    .error .invalidTarget
  else
    let targetBytes := Bytes.toMinimalBE target.natAbs
    let networkTarget : Hash256 :=
      ⟨List.replicate (32 - targetBytes.length) 0 ++ targetBytes, by
        have := length_toMinimalBE_le (not_or.mp h).2
        simp only [List.length_append, List.length_replicate, targetBytes]
        omega⟩
    let leadingZeroBitsP := countLeadingZeroBits networkTarget
    if blindBandBitsD = 0 ∨ leadingZeroBitsP ≤ blindBandBitsD then
      .error .invalidBlindBand
    else
      let leadingZeroPrefixQ := leadingZeroBitsP - blindBandBitsD
      .ok {
        networkTarget
        leadingZeroBitsP
        leadingZeroPrefixQ
        blindBandBitsD
        captureTarget := captureTarget leadingZeroPrefixQ
      }

theorem leadingZeros_toNat (byte : UInt8)
    : (leadingZeros byte).toNat = 8 - Bytes.bitLength byte.toNat := by
  unfold leadingZeros
  rw [UInt16.toNat_ofNat']
  apply Nat.mod_eq_of_lt
  omega

theorem bitLength_ofBE_cons_zero (bytes : List UInt8)
    : Bytes.bitLength (Bytes.ofBE (0 :: bytes)) = Bytes.bitLength (Bytes.ofBE bytes) := by
  rw [Bytes.ofBE_cons]
  simp

theorem bitLength_ofBE_cons {byte : UInt8} (hbyte : byte ≠ 0) (bytes : List UInt8)
    : Bytes.bitLength (Bytes.ofBE (byte :: bytes))
        =
      8 * bytes.length + Bytes.bitLength byte.toNat := by
  have hlt := Bytes.ofBE_lt bytes
  apply Nat.le_antisymm
  . rw [Bytes.bitLength_le_iff, Bytes.ofBE_cons, Nat.pow_add]
    have hb : byte.toNat + 1 ≤ 2 ^ Bytes.bitLength byte.toNat := Bytes.bitLength_le_iff.mp (Nat.le_refl _)
    have := Nat.mul_le_mul_left (2 ^ (8 * bytes.length)) hb
    rw [Nat.mul_add] at this
    omega
  . have hpos : byte.toNat ≠ 0 := by
      intro h
      apply hbyte
      rwa [← UInt8.toNat_inj]
    have hlen : Bytes.bitLength byte.toNat = byte.toNat.log2 + 1 := by
      simp [Bytes.bitLength, hpos]
    rw [hlen, ← Nat.add_assoc, Nat.add_one_le_iff, ← Nat.not_le, Bytes.bitLength_le_iff, Nat.not_lt]
    rw [Nat.pow_add, Bytes.ofBE_cons]
    have := Nat.mul_le_mul_left (2 ^ (8 * bytes.length)) (Nat.log2_self_le hpos)
    omega

/-- The count never overflows: it is at most eight times the number of bytes read. -/
theorem countLeadingZeroBits.go_toNat (bytes : List UInt8) (count : UInt16)
    (hcount : count.toNat + 8 * bytes.length < 2 ^ 16)
    : (go bytes count).toNat
        =
      count.toNat + (8 * bytes.length - Bytes.bitLength (Bytes.ofBE bytes)) := by
  induction bytes generalizing count with
  | nil => simp [go]
  | cons byte bytes ih =>
    rw [List.length_cons] at hcount
    have hle := Bytes.bitLength_le_iff.mpr (Bytes.ofBE_lt bytes)
    unfold go
    split
    next h =>
      have hadd : (count + 8).toNat = count.toNat + 8 := by
        rw [UInt16.toNat_add]
        apply Nat.mod_eq_of_lt
        simp
        omega
      rw [ih (count + 8) (by omega), hadd, h, bitLength_ofBE_cons_zero, List.length_cons]
      omega
    next h =>
      rw [bitLength_ofBE_cons h, List.length_cons, UInt16.toNat_add, leadingZeros_toNat]
      rw [Nat.mod_eq_of_lt (by omega)]
      omega

theorem countLeadingZeroBits_toNat (bytes : Hash256)
    : (countLeadingZeroBits bytes).toNat = 256 - Bytes.bitLength bytes.toNat := by
  unfold countLeadingZeroBits
  rw [countLeadingZeroBits.go_toNat _ _ (by simp [bytes.length_toList]), bytes.length_toList]
  simp [ByteVec.toNat]

theorem ofBE_replicate_ff (k : Nat)
    : Bytes.ofBE (List.replicate k 0xff) = 2 ^ (8 * k) - 1 := by
  induction k with
  | zero => rfl
  | succ k ih =>
    rw [List.replicate_succ, Bytes.ofBE_cons, ih, List.length_replicate]
    rw [show 8 * (k + 1) = 8 * k + 8 by omega, Nat.pow_add]
    have := Nat.two_pow_pos (8 * k)
    simp
    omega

theorem modify_length_append {α : Type} (xs : List α) (y : α) (ys : List α) (f : α → α)
    : (xs ++ y :: ys).modify xs.length f = xs ++ f y :: ys := by
  induction xs with
  | nil => rfl
  | cons x xs ih => simp [ih]

theorem captureTarget_toList (q : UInt16) (hq : q.toNat < 256)
    : (captureTarget q).toList
        =
      List.replicate (q.toNat / 8) (0 : UInt8)
        ++ ((0xff : UInt8) >>> (q % 8).toUInt8) :: List.replicate (31 - q.toNat / 8) 0xff := by
  have hzero : (q / 8).toNat = q.toNat / 8 := by simp
  have hfilled : (List.replicate 32 (0xff : UInt8)).mapIdx (fun i byte => if i < q.toNat / 8 then 0 else byte)
      = List.replicate (q.toNat / 8) 0 ++ 0xff :: List.replicate (31 - q.toNat / 8) 0xff := by
    rw [← List.replicate_succ]
    apply List.ext_getElem
    . simp
      omega
    . intro i h1 h2
      simp only [List.getElem_mapIdx, List.getElem_replicate, List.getElem_append,
        List.length_replicate]
      split <;> rfl
  unfold captureTarget
  simp only [hzero, hfilled]
  split
  . have := modify_length_append (List.replicate (q.toNat / 8) (0 : UInt8)) 0xff
      (List.replicate (31 - q.toNat / 8) 0xff) (· >>> (q % 8).toUInt8)
    rwa [List.length_replicate] at this
  next h =>
    have hr : q % 8 = 0 := by simpa using h
    simp [hr]

theorem shiftRight_ff_toNat (q : UInt16)
    : ((0xff : UInt8) >>> (q % 8).toUInt8).toNat = 2 ^ (8 - q.toNat % 8) - 1 := by
  have hr : (q % 8).toNat < 8 := by
    simp
    omega
  have hall : ∀ r : Fin 8, ((0xff : UInt8) >>> (UInt16.ofNat r.val).toUInt8).toNat = 2 ^ (8 - r.val) - 1 := by
    decide
  have := hall ⟨(q % 8).toNat, hr⟩
  simpa using this

theorem captureTarget_toNat (q : UInt16) (hq : q.toNat < 256)
    : (captureTarget q).toNat = 2 ^ (256 - q.toNat) - 1 := by
  unfold ByteVec.toNat
  rw [captureTarget_toList q hq, Bytes.ofBE_append, Bytes.ofBE_replicate_zero, Bytes.ofBE_cons]
  rw [ofBE_replicate_ff, shiftRight_ff_toNat, List.length_replicate]
  rw [Nat.mul_zero, Nat.zero_add, Nat.mul_sub, ← Nat.pow_add]
  rw [show 8 * (31 - q.toNat / 8) + (8 - q.toNat % 8) = 256 - q.toNat by omega]
  have hle : 2 ^ (8 * (31 - q.toNat / 8)) ≤ 2 ^ (256 - q.toNat) := by
    apply Nat.pow_le_pow_right <;> omega
  have := Nat.two_pow_pos (8 * (31 - q.toNat / 8))
  omega

theorem deriveCaptureParameters_eq_ok {bits : UInt32} {d : UInt16} {params : CaptureParameters}
    (h : deriveCaptureParameters bits d = .ok params)
    : 0 < compactToTarget bits
        ∧ params.networkTarget.toNat = (compactToTarget bits).toNat
        ∧ params.leadingZeroBitsP.toNat = 256 - Bytes.bitLength (compactToTarget bits).toNat
        ∧ d.toNat ≠ 0
        ∧ d.toNat < params.leadingZeroBitsP.toNat
        ∧ params.leadingZeroPrefixQ.toNat = params.leadingZeroBitsP.toNat - d.toNat
        ∧ params.captureTarget = captureTarget params.leadingZeroPrefixQ := by
  unfold deriveCaptureParameters at h
  dsimp only at h
  split at h
  . contradiction
  next htarget =>
    split at h
    . contradiction
    next hband =>
      have hpos : 0 < compactToTarget bits := by
        have := (not_or.mp htarget).1
        omega
      have hnat : (compactToTarget bits).natAbs = (compactToTarget bits).toNat := by omega
      have hnetwork : params.networkTarget.toNat = (compactToTarget bits).toNat := by
        rw [← hnat, ← Bytes.ofBE_toMinimalBE (compactToTarget bits).natAbs]
        injection h with h
        rw [← h]
        simp [ByteVec.toNat, Bytes.ofBE_append]
      rw [not_or] at hband
      obtain ⟨hd, hlt⟩ := hband
      injection h with h
      have hp : params.leadingZeroBitsP = countLeadingZeroBits params.networkTarget := by
        rw [← h]
      rw [UInt16.not_le, UInt16.lt_iff_toNat_lt] at hlt
      refine ⟨hpos, hnetwork, ?_, ?_, ?_, ?_, ?_⟩
      . rw [hp, countLeadingZeroBits_toNat, hnetwork]
      . intro hcon
        apply hd
        rwa [← UInt16.toNat_inj]
      . rw [← h]
        exact hlt
      . rw [← h]
        apply UInt16.toNat_sub_of_le
        rw [UInt16.le_iff_toNat_le]
        omega
      . rw [← h]

theorem verifyPow_eq_true {hash : Hash256} {bits : UInt32} (h : verifyPow hash bits = true)
    : hash.toNat ≤ (compactToTarget bits).toNat := by
  unfold verifyPow at h
  dsimp only at h
  split at h
  . contradiction
  . simpa using h

theorem shareHash_toNat_eq [Primitives] (header : HnsHeader)
    : header.shareHash.toNat = header.powHash.toNat ^^^ header.mask.toNat := by
  unfold HnsHeader.powHash xorHashes
  rw [ByteVec.toNat_xor, Nat.xor_assoc, Nat.xor_self, Nat.xor_zero]

theorem deriveCaptureParameters_captures_pow [P : Primitives] (bits : UInt32) (d : UInt16)
    (params : CaptureParameters) (h : deriveCaptureParameters bits d = .ok params)
    : let p := 256 - Bytes.bitLength (compactToTarget bits).toNat
      let q := p - d.toNat
      params.leadingZeroBitsP.toNat = p
        ∧ params.leadingZeroPrefixQ.toNat = q
        ∧ params.captureTarget.toNat = 2 ^ (256 - q) - 1
        ∧ params.networkTarget.toNat = (compactToTarget bits).toNat
        ∧ params.networkTarget ≤ params.captureTarget
        ∧ ∀ header : HnsHeader,
            header.bits = bits
              → (∀ i < q, Bytes.bitMSB header.mask.toList i = false)
              → verifyPow header.powHash header.bits = true
              → header.shareHash ≤ params.captureTarget := by
  obtain ⟨hpos, hnetwork, hp, hd, hdp, hq, hcapture⟩ := deriveCaptureParameters_eq_ok h
  dsimp only
  rw [← hp, ← hq]
  have hq256 : params.leadingZeroPrefixQ.toNat < 256 := by omega
  have hcaptureNat : params.captureTarget.toNat = 2 ^ (256 - params.leadingZeroPrefixQ.toNat) - 1 := by
    rw [hcapture]
    exact captureTarget_toNat _ hq256
  have htarget : (compactToTarget bits).toNat < 2 ^ (256 - params.leadingZeroPrefixQ.toNat) := by
    rw [← Bytes.bitLength_le_iff]
    omega
  refine ⟨rfl, rfl, hcaptureNat, hnetwork, ?_, ?_⟩
  . rw [ByteVec.le_iff_toNat_le]
    omega
  . intro header hbits hmask hpow
    have hmaskNat : header.mask.toNat < 2 ^ (256 - params.leadingZeroPrefixQ.toNat) := by
      have hlen : 8 * header.mask.toList.length = 256 := by rw [header.mask.length_toList]
      rw [Bytes.forall_bitMSB_eq_false_iff _ _ (by omega), hlen] at hmask
      exact hmask
    have hpowNat : header.powHash.toNat < 2 ^ (256 - params.leadingZeroPrefixQ.toNat) := by
      rw [hbits] at hpow
      exact Nat.lt_of_le_of_lt (verifyPow_eq_true hpow) htarget
    rw [ByteVec.le_iff_toNat_le, shareHash_toNat_eq]
    have := Nat.xor_lt_two_pow hpowNat hmaskNat
    omega

/-- A target just under `2 ^ 254`, so `p = 2`, with a one-bit blind band. -/
def sampleHeader : HnsHeader where
  nonce := 0
  time := 1700000000
  prevBlock := .zero 32
  treeRoot := .zero 32
  extraNonce := .zero 24
  reservedRoot := .zero 32
  witnessRoot := .zero 32
  merkleRoot := .zero 32
  version := 0
  bits := 0x203fffff
  mask := ⟨0x5a :: List.replicate 31 0xa5, by simp⟩

theorem sampleHeader_captured
    : ∃ params,
        deriveCaptureParameters 0x203fffff 1 = .ok params
          ∧ verifyPow (sampleHeader.powHash (P := .fold)) 0x203fffff = true
          ∧ sampleHeader.shareHash (P := .fold) ≤ params.captureTarget := by
  have hpow : verifyPow (sampleHeader.powHash (P := .fold)) 0x203fffff = true := by decide +kernel
  cases h : deriveCaptureParameters 0x203fffff 1 with
  | error e =>
    have : (deriveCaptureParameters 0x203fffff 1).isOk = true := by decide
    rw [h] at this
    exact Bool.noConfusion this
  | ok params =>
    have hq : 256 - Bytes.bitLength (compactToTarget 0x203fffff).toNat - (1 : UInt16).toNat = 1 := by
      decide
    have hcaptured := deriveCaptureParameters_captures_pow (P := .fold) 0x203fffff 1 params h
    dsimp only at hcaptured
    rw [hq] at hcaptured
    obtain ⟨-, -, -, -, -, hcaptured⟩ := hcaptured
    exact ⟨params, rfl, hpow, hcaptured sampleHeader rfl (by decide) hpow⟩

end MeshMine.Hns
