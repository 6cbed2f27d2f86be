import MeshMine.Mpc.Shamir

/-!
Masks with a zero prefix and a blind band (`generate_constrained_mask` and `mask_constraints_valid` of
`meshmine-mpc-api/src/lib.rs`).
-/

namespace MeshMine.Mpc

def maskParametersValid (zeroPrefix blindBits : Nat) : Bool :=
  zeroPrefix ≠ 0 ∧ (blindBits ≠ 0 ∨ zeroPrefix = 1) ∧ zeroPrefix + blindBits ≤ 256

def getBit (bytes : Hash256) (bit : Nat) : Bool :=
  bytes.toList.getD (bit / 8) 0 &&& single (7 - bit % 8) ≠ 0

def setBit (bytes : Hash256) (bit : Nat) (value : Bool) : Hash256 :=
  ⟨bytes.toList.modify (bit / 8) fun byte =>
    if value then byte ||| single (7 - bit % 8) else byte &&& ~~~ single (7 - bit % 8), by
    rw [List.length_modify, bytes.length_toList]⟩

variable (mask : Hash256)

def anyBit (first last : Nat) : Bool :=
  (List.range' first (last - first)).any (getBit mask)

def hasRequiredNonzero (zeroPrefix blindBits : Nat) : Bool :=
  if blindBits = 0 then anyBit mask zeroPrefix 256 else anyBit mask zeroPrefix (zeroPrefix + blindBits)

def clearPrefix (zeroPrefix : Nat) : Hash256 :=
  (List.range zeroPrefix).foldl (fun mask bit => setBit mask bit false) mask

/-- The loop of the source goes on until a drawn mask is taken; here it may also run out of rounds. -/
def generateConstrainedMask (source : RandomSource) (zeroPrefix blindBits : Nat)
    : Nat → source.State → Option (Hash256 × source.State)
  | 0, _ => none
  | rounds + 1, state =>
    let (drawn, state) := source.fillBytes 32 state
    let mask := clearPrefix drawn zeroPrefix
    if hasRequiredNonzero mask zeroPrefix blindBits then
      some (mask, state)
    else
      generateConstrainedMask source zeroPrefix blindBits rounds state

def maskConstraintsValid (zeroPrefix blindBits : Nat) : Bool :=
  maskParametersValid zeroPrefix blindBits
    && (List.range zeroPrefix).all (fun bit => !getBit mask bit)
    && hasRequiredNonzero mask zeroPrefix blindBits

/-!
### Bits
-/

theorem bit_and_not_single (byte : UInt8) {i j : Nat} (hi : i < 8) (hj : j < 8)
    : bit (byte &&& ~~~ single i) j = (bit byte j && decide (i ≠ j)) := by
  have hsingle := bit_single hi hj
  unfold bit at hsingle ⊢
  rw [UInt8.toBitVec_and, BitVec.getLsbD_and, UInt8.toBitVec_not, BitVec.getLsbD_not, hsingle]
  simp [hj]

theorem getBit_eq (bytes : Hash256) (i : Nat) : getBit bytes i = bit (bytes.toList.getD (i / 8) 0) (7 - i % 8) := by
  unfold getBit
  rw [Bool.eq_iff_iff, decide_eq_true_iff]
  exact and_single_ne_zero _ (by omega)

theorem getBit_setBit (bytes : Hash256) {i : Nat} (hi : i < 256) (j : Nat)
    : getBit (setBit bytes i false) j = (getBit bytes j && decide (i ≠ j)) := by
  have hlength := bytes.length_toList
  rw [getBit_eq, getBit_eq]
  unfold setBit
  dsimp only
  rw [List.getD_eq_getElem?_getD, List.getElem?_modify, List.getD_eq_getElem?_getD]
  by_cases hbyte : i / 8 = j / 8
  . rw [List.getElem?_eq_getElem (by omega)]
    simp only [Option.map_eq_map, Option.map_some, Option.getD_some, Bool.false_eq_true, if_false, if_pos hbyte]
    rw [bit_and_not_single _ (by omega) (by omega)]
    congr 2
    rw [eq_iff_iff]
    omega
  . simp only [if_neg hbyte, id_map']
    rw [decide_eq_true (by omega), Bool.and_true]

theorem getBit_clearPrefix {zeroPrefix : Nat} (h : zeroPrefix ≤ 256) (i : Nat)
    : getBit (clearPrefix mask zeroPrefix) i = (getBit mask i && decide (zeroPrefix ≤ i)) := by
  unfold clearPrefix
  induction zeroPrefix with
  | zero => simp
  | succ zeroPrefix ih =>
    rw [List.range_succ, List.foldl_append, List.foldl_cons, List.foldl_nil, getBit_setBit _ (by omega),
      ih (by omega), Bool.and_assoc]
    congr 1
    rw [← Bool.decide_and]
    congr 1
    rw [eq_iff_iff]
    omega

theorem maskConstraintsValid_of_generate {source : RandomSource} {zeroPrefix blindBits rounds : Nat}
    {state state' : source.State} {mask : Hash256} (hparameters : maskParametersValid zeroPrefix blindBits = true)
    (h : generateConstrainedMask source zeroPrefix blindBits rounds state = some (mask, state'))
    : maskConstraintsValid mask zeroPrefix blindBits = true := by
  induction rounds generalizing state with
  | zero => contradiction
  | succ rounds ih =>
    unfold generateConstrainedMask at h
    dsimp only at h
    split at h
    next hrequired =>
      injection h with h
      injection h with hmask hstate
      have hle : zeroPrefix ≤ 256 := by
        simp only [maskParametersValid, decide_eq_true_eq] at hparameters
        omega
      unfold maskConstraintsValid
      rw [hparameters, ← hmask, hrequired, Bool.true_and, Bool.and_true, List.all_eq_true]
      intro i hi
      rw [List.mem_range] at hi
      rw [getBit_clearPrefix _ hle, decide_eq_false (by omega), Bool.and_false]
      rfl
    next => exact ih h

theorem maskConstraintsValid_eq_true {mask : Hash256} {zeroPrefix blindBits : Nat}
    (h : maskConstraintsValid mask zeroPrefix blindBits = true)
    : (∀ i < zeroPrefix, getBit mask i = false)
      ∧ ∃ i, zeroPrefix ≤ i ∧ (i < if blindBits = 0 then 256 else zeroPrefix + blindBits) ∧ getBit mask i = true := by
  unfold maskConstraintsValid at h
  simp only [Bool.and_eq_true, List.all_eq_true, List.mem_range, Bool.not_eq_true'] at h
  refine ⟨h.1.2, ?_⟩
  have hrequired := h.2
  unfold hasRequiredNonzero anyBit at hrequired
  split at hrequired
  next hzero =>
    obtain ⟨i, hi, hbit⟩ := List.any_eq_true.mp hrequired
    rw [List.mem_range'_1] at hi
    exact ⟨i, hi.1, by rw [if_pos hzero]; omega, hbit⟩
  next hzero =>
    obtain ⟨i, hi, hbit⟩ := List.any_eq_true.mp hrequired
    rw [List.mem_range'_1] at hi
    exact ⟨i, hi.1, by rw [if_neg hzero]; omega, hbit⟩

end MeshMine.Mpc
