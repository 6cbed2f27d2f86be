import MeshMine.Codec.Basic

/-!
The canonical encoding read back: what an encoder wrote determines the value, and the decoder returns it.
-/

namespace MeshMine.Codec

variable {n rounds : Nat} {byte : UInt8} {α : Type}

namespace Encoder

@[simp]
theorem length_fixed (value : ByteVec n) : (fixed value).length = n :=
  value.length_toList

@[simp]
theorem length_u8 (value : UInt8) : (u8 value).length = 1 := rfl

@[simp]
theorem length_u16 (value : UInt16) : (u16 value).length = 2 := Bytes.length_toLE 2 _

@[simp]
theorem length_u32 (value : UInt32) : (u32 value).length = 4 := Bytes.length_toLE 4 _

variable (value : UInt64)

@[simp]
theorem length_u64 : (u64 value).length = 8 := Bytes.length_toLE 8 _

theorem ofLE_u16 (value : UInt16) : UInt16.ofNat (Bytes.ofLE (u16 value)) = value := by
  unfold u16
  rw [Bytes.ofLE_toLE, Nat.mod_eq_of_lt value.toNat_lt]
  apply UInt16.ofNat_toNat

theorem ofLE_u32 (value : UInt32) : UInt32.ofNat (Bytes.ofLE (u32 value)) = value := by
  unfold u32
  rw [Bytes.ofLE_toLE, Nat.mod_eq_of_lt value.toNat_lt]
  apply UInt32.ofNat_toNat

theorem ofLE_u64 : UInt64.ofNat (Bytes.ofLE (u64 value)) = value := by
  unfold u64
  rw [Bytes.ofLE_toLE, Nat.mod_eq_of_lt value.toNat_lt]
  apply UInt64.ofNat_toNat

theorem toNat_shiftRight_seven : (value >>> 7).toNat = value.toNat / 128 := by
  rw [UInt64.toNat_shiftRight]
  simp [Nat.shiftRight_eq_div_pow]

theorem toNat_lowBits : (value &&& 0x7f).toUInt8.toNat = value.toNat % 128 := by
  rw [UInt64.toNat_toUInt8, UInt64.toNat_and]
  have h : (0x7f : UInt64).toNat = 2 ^ 7 - 1 := rfl
  rw [h, Nat.and_two_pow_sub_one_eq_mod]
  omega

theorem toNat_or_continuation (h : byte.toNat < 128)
    : (byte ||| 0x80).toNat = byte.toNat + 128 := by
  have hor := Nat.two_pow_add_eq_or_of_lt (i := 7) h 1
  rw [UInt8.toNat_or, Nat.or_comm]
  change 2 ^ 7 * 1 ||| byte.toNat = _
  omega

variable {next value : UInt64}

theorem varint_go_last (h : byte.toNat < 128) : varint.go (rounds + 1) byte.toUInt64 = [byte] := by
  have hshift : byte.toUInt64 >>> 7 = 0 := by
    apply UInt64.toNat_inj.mp
    rw [toNat_shiftRight_seven, UInt8.toNat_toUInt64, Nat.div_eq_of_lt h]
    rfl
  have hbyte : (byte.toUInt64 &&& 0x7f).toUInt8 = byte := by
    apply UInt8.toNat_inj.mp
    rw [toNat_lowBits, UInt8.toNat_toUInt64, Nat.mod_eq_of_lt h]
  rw [varint.go, hshift, hbyte, if_neg (by simp)]

theorem varint_go_more (hbyte : 128 ≤ byte.toNat) (hnext : 0 < next.toNat)
    (h : value.toNat = next.toNat * 128 + byte.toNat % 128)
    : varint.go (rounds + 1) value = byte :: varint.go rounds next := by
  have hshift : value >>> 7 = next := by
    apply UInt64.toNat_inj.mp
    rw [toNat_shiftRight_seven]
    omega
  have hlow := toNat_lowBits value
  have hcontinues : (value &&& 0x7f).toUInt8 ||| 0x80 = byte := by
    apply UInt8.toNat_inj.mp
    have := byte.toNat_lt
    rw [toNat_or_continuation (by omega)]
    omega
  rw [varint.go, hshift, hcontinues, if_pos (by rintro rfl; contradiction)]

theorem length_le_length_bytes (value : List UInt8) : value.length ≤ (bytes value).length := by
  unfold bytes
  rw [List.length_append]
  omega

theorem length_varint_le (value : UInt64) : (varint value).length ≤ 10 := by
  have h : ∀ rounds value, (varint.go rounds value).length ≤ rounds := by
    intro rounds
    induction rounds with
    | zero => simp [varint.go]
    | succ rounds ih =>
      intro value
      unfold varint.go
      dsimp only
      split
      . have := ih (value >>> 7)
        rw [List.length_cons]
        omega
      . simp
  apply h

theorem length_bytes_le (value : List UInt8) : (bytes value).length ≤ 10 + value.length := by
  have := length_varint_le (UInt64.ofNat value.length)
  unfold bytes
  rw [List.length_append]
  omega

theorem length_le_length_list (encode : α → List UInt8) {values : List α} {a : α} (h : a ∈ values)
    : (encode a).length ≤ (list encode values).length := by
  obtain ⟨before, after, rfl⟩ := List.append_of_mem h
  unfold list
  simp only [List.length_append, List.flatMap_append, List.flatMap_cons]
  omega

end Encoder

variable {decode : Decoder α} {encode : α → List UInt8}

namespace Decoder

/-- On any input that starts with `bytes`, `decode` reads `value` off the front. -/
def Reads {α : Type} (limits : DecodeLimits) (decode : Decoder α) (bytes : List UInt8) (value : α)
    : Prop :=
  ∀ rest offset, decode.run ⟨bytes ++ rest, offset, limits⟩
    = .ok (value, ⟨rest, offset + bytes.length, limits⟩)

variable {limits : DecodeLimits}

theorem reads_pure (value : α) : Reads limits (pure value) [] value := by
  intro rest offset
  rfl

theorem Reads.bind {β : Type} {f : α → Decoder β} {first second : List UInt8}
    {a : α} {b : β} (ha : Reads limits decode first a) (hb : Reads limits (f a) second b)
    : Reads limits (decode >>= f) (first ++ second) b := by
  intro rest offset
  rw [StateT.run_bind, List.append_assoc, ha]
  change (f a).run _ = _
  rw [hb, List.length_append, Nat.add_assoc]

theorem Reads.map {β : Type} {f : α → β} {bytes : List UInt8} {a : α} (ha : Reads limits decode bytes a)
    : Reads limits (decode >>= fun a => pure (f a)) bytes (f a) := by
  have h : Reads limits (decode >>= fun a => pure (f a)) (bytes ++ []) (f a) := by
    apply ha.bind
    apply reads_pure
  rwa [List.append_nil] at h

theorem Reads.append_inj {first second rest rest' : List UInt8} {a b : α}
    (ha : Reads limits decode first a) (hb : Reads limits decode second b) (h : first ++ rest = second ++ rest')
    : a = b ∧ rest = rest' := by
  have hread := ha rest 0
  rw [h, hb] at hread
  injection hread with hread
  injection hread with hvalue hstate
  injection hstate with hrest
  exact ⟨hvalue.symm, hrest.symm⟩

theorem reads_take (bytes : List UInt8) : Reads limits (take bytes.length) bytes bytes := by
  intro rest offset
  unfold take
  simp [StateT.run_bind, List.length_append]
  rfl

theorem reads_array (value : ByteVec n)
    : Reads limits (array n) (Encoder.fixed value) value := by
  intro rest offset
  have hlength := value.length_toList
  unfold array Encoder.fixed
  have hlt : ¬ (value.toList ++ rest).length < n := by
    rw [List.length_append]
    omega
  simp only [StateT.run_bind, StateT.run_get, pure_bind]
  rw [dif_neg hlt]
  have hdrop : (value.toList ++ rest).drop n = rest := by
    apply List.drop_left' hlength
  simp [hdrop, hlength]
  rfl

theorem reads_u8 (value : UInt8) : Reads limits u8 (Encoder.u8 value) value :=
  (reads_take (Encoder.u8 value)).map

theorem reads_u16 (value : UInt16) : Reads limits u16 (Encoder.u16 value) value := by
  have h : Reads limits (take (Encoder.u16 value).length) _ _ := reads_take (Encoder.u16 value)
  rw [Encoder.length_u16] at h
  have h := h.map (f := fun bytes => UInt16.ofNat (Bytes.ofLE bytes))
  rwa [Encoder.ofLE_u16] at h

theorem reads_u32 (value : UInt32) : Reads limits u32 (Encoder.u32 value) value := by
  have h : Reads limits (take (Encoder.u32 value).length) _ _ := reads_take (Encoder.u32 value)
  rw [Encoder.length_u32] at h
  have h := h.map (f := fun bytes => UInt32.ofNat (Bytes.ofLE bytes))
  rwa [Encoder.ofLE_u32] at h

theorem reads_u64 (value : UInt64) : Reads limits u64 (Encoder.u64 value) value := by
  have h : Reads limits (take (Encoder.u64 value).length) _ _ := reads_take (Encoder.u64 value)
  rw [Encoder.length_u64] at h
  have h := h.map (f := fun bytes => UInt64.ofNat (Bytes.ofLE bytes))
  rwa [Encoder.ofLE_u64] at h

theorem and_continuation_eq_zero_iff (byte : UInt8) : byte &&& 0x80 = 0 ↔ byte.toNat < 128 := by
  have hall : ∀ n : Fin 256, UInt8.ofNat n &&& 0x80 = 0 ↔ n.val < 128 := by decide +kernel
  have hbyte := hall ⟨byte.toNat, byte.toNat_lt⟩
  rwa [UInt8.ofNat_toNat] at hbyte

theorem toNat_payload (byte : UInt8) : (byte &&& 0x7f).toUInt64.toNat = byte.toNat % 128 := by
  rw [UInt8.toNat_toUInt64, UInt8.toNat_and]
  change byte.toNat &&& 2 ^ 7 - 1 = _
  rw [Nat.and_two_pow_sub_one_eq_mod]

variable {index value : UInt64}

theorem toNat_or_shiftLeft (payload : UInt64) (hindex : index.toNat < 10)
    (hvalue : value.toNat < 2 ^ (7 * index.toNat)) (hpayload : payload.toNat * 2 ^ (7 * index.toNat) < 2 ^ 64)
    : (value ||| payload <<< (index * 7)).toNat = value.toNat + payload.toNat * 2 ^ (7 * index.toNat) := by
  have hshift : (index * 7).toNat % 64 = 7 * index.toNat := by
    rw [UInt64.toNat_mul]
    change index.toNat * 7 % 2 ^ 64 % 64 = _
    omega
  rw [UInt64.toNat_or, UInt64.toNat_shiftLeft, hshift, Nat.shiftLeft_eq, Nat.mod_eq_of_lt hpayload,
    Nat.or_comm, Nat.mul_comm, ← Nat.two_pow_add_eq_or_of_lt hvalue]
  omega

/-- A byte with the continuation bit adds its payload and the next one is read. -/
theorem reads_varint_go_more {bytes : List UInt8} {result : UInt64} (hbyte : 128 ≤ byte.toNat) (hindex : index ≠ 9)
    (h : Reads limits (varint.go rounds (index + 1) (value ||| (byte &&& 0x7f).toUInt64 <<< (index * 7)))
      bytes result)
    : Reads limits (varint.go (rounds + 1) index value) (byte :: bytes) result := by
  have hcontinues : ¬ byte &&& 0x80 = 0 := by
    rw [and_continuation_eq_zero_iff]
    omega
  unfold varint.go
  apply (reads_u8 byte).bind
  rw [if_neg (by simp [hindex]), if_neg hcontinues]
  exact h

/-- A byte without it ends the number, unless it adds nothing to the bytes before it. -/
theorem reads_varint_go_last (hbyte : byte.toNat < 128) (hindex : index = 9 → byte.toNat ≤ 1)
    (hpos : 0 < index.toNat → 0 < byte.toNat)
    : Reads limits (varint.go (rounds + 1) index value) [byte]
        (value ||| (byte &&& 0x7f).toUInt64 <<< (index * 7)) := by
  have hends := (and_continuation_eq_zero_iff byte).mpr hbyte
  have hpayload : (byte &&& 0x7f).toUInt64.toNat = byte.toNat := by
    rw [toNat_payload, Nat.mod_eq_of_lt hbyte]
  have h : Reads limits (varint.go (rounds + 1) index value) (Encoder.u8 byte ++ [])
      (value ||| (byte &&& 0x7f).toUInt64 <<< (index * 7)) := by
    unfold varint.go
    apply (reads_u8 byte).bind
    rw [if_neg, if_pos hends, if_neg]
    . apply reads_pure
    . rintro ⟨hfirst, hzero⟩
      have := hpos (UInt64.lt_iff_toNat_lt.mp hfirst)
      simp [← hpayload, hzero] at this
    . rintro ⟨h, hlarge⟩
      have hone : 1 < byte.toNat := by
        rw [← hpayload]
        exact UInt64.lt_iff_toNat_lt.mp (hlarge.resolve_right (by simp [hends]))
      have := hindex h
      omega
  exact h

theorem toNat_index_succ (h : index.toNat + (rounds + 1) = 10) : (index + 1).toNat = index.toNat + 1 := by
  rw [UInt64.toNat_add]
  change (index.toNat + 1) % 2 ^ 64 = _
  omega

theorem reads_varint_go {left : UInt64} (hindex : index.toNat + rounds = 10)
    (hvalue : value.toNat < 2 ^ (7 * index.toNat)) (hleft : value.toNat + left.toNat * 2 ^ (7 * index.toNat) < 2 ^ 64)
    (hpos : 0 < index.toNat → 0 < left.toNat)
    : Reads limits (varint.go rounds index value) (Encoder.varint.go rounds left)
        (UInt64.ofNat (value.toNat + left.toNat * 2 ^ (7 * index.toNat))) := by
  induction rounds generalizing index value left with
  | zero =>
    rw [Nat.add_zero] at hindex
    rw [hindex] at hleft hpos
    omega
  | succ rounds ih =>
    have hsplit : left.toNat * 2 ^ (7 * index.toNat)
        = left.toNat % 128 * 2 ^ (7 * index.toNat)
          + left.toNat / 128 * 2 ^ (7 * (index.toNat + 1)) := by
      rw [Nat.mul_succ, Nat.pow_add, Nat.mul_comm (2 ^ _), ← Nat.mul_assoc, ← Nat.add_mul,
        Nat.mul_comm (_ / _), Nat.mod_add_div]
    -- The tenth byte holds the last bit of a `u64`.
    have htenth : index = 9 → left.toNat ≤ 1 := by
      intro h
      rw [h] at hleft
      change _ + _ * 2 ^ 63 < _ at hleft
      omega
    by_cases hlast : left.toNat < 128
    . obtain ⟨byte, rfl⟩ : ∃ byte : UInt8, left = byte.toUInt64 :=
        ⟨left.toUInt8, UInt64.toNat_inj.mp (by simp; omega)⟩
      rw [UInt8.toNat_toUInt64] at *
      have hpayload : (byte &&& 0x7f).toUInt64.toNat = byte.toNat := by
        rw [toNat_payload, Nat.mod_eq_of_lt hlast]
      have hvalue' := toNat_or_shiftLeft (byte &&& 0x7f).toUInt64 (by omega) hvalue
        (by rw [hpayload]; omega)
      rw [hpayload] at hvalue'
      rw [← hvalue', UInt64.ofNat_toNat, Encoder.varint_go_last hlast]
      exact reads_varint_go_last hlast htenth hpos
    . have hshift := Encoder.toNat_shiftRight_seven left
      obtain ⟨byte, hbyte⟩ : ∃ byte : UInt8, byte.toNat = left.toNat % 128 + 128 :=
        ⟨UInt8.ofNat (left.toNat % 128 + 128), by simp; omega⟩
      have hpayload : (byte &&& 0x7f).toUInt64.toNat = left.toNat % 128 := by
        rw [toNat_payload]
        omega
      have hvalue' := toNat_or_shiftLeft (byte &&& 0x7f).toUInt64 (by omega) hvalue
        (by rw [hpayload]; omega)
      rw [hpayload] at hvalue'
      have hbytes : Encoder.varint.go (rounds + 1) left = byte :: Encoder.varint.go rounds (left >>> 7) :=
        Encoder.varint_go_more (by omega) (by omega) (by omega)
      rw [hbytes]
      apply reads_varint_go_more (by omega) (fun h => by have := htenth h; omega)
      have h := @ih (index + 1) (value ||| (byte &&& 0x7f).toUInt64 <<< (index * 7)) (left >>> 7)
      rw [toNat_index_succ hindex, hshift, hvalue', Nat.add_assoc value.toNat, ← hsplit] at h
      apply h (by omega) _ hleft (by omega)
      have := Nat.mul_le_mul_right (2 ^ (7 * index.toNat)) (show left.toNat % 128 ≤ 127 by omega)
      rw [Nat.mul_succ, Nat.pow_add]
      omega

theorem reads_varint (value : UInt64) : Reads limits varint (Encoder.varint value) value := by
  have h : Reads limits (varint.go 10 0 0) (Encoder.varint.go 10 value) _ :=
    reads_varint_go rfl (by simp) (by simpa using value.toNat_lt) (by simp)
  have hvalue : (0 : UInt64).toNat + value.toNat * 2 ^ (7 * (0 : UInt64).toNat) = value.toNat := by simp
  rw [hvalue, UInt64.ofNat_toNat] at h
  exact h

/-- What the reader accepts was written by the encoder: only the first byte of a number may be a zero. -/
theorem exists_of_varint_go {state : DecoderState} {result : UInt64 × DecoderState}
    (hindex : index.toNat + rounds = 10) (h : (varint.go rounds index value).run state = .ok result)
    : ∃ left rest, state.rest = Encoder.varint.go rounds left ++ rest
        ∧ left.toNat < 2 ^ (64 - 7 * index.toNat) ∧ (0 < index.toNat → 0 < left.toNat) := by
  induction rounds generalizing index value state with
  | zero => contradiction
  | succ rounds ih =>
    obtain ⟨bytes, offset, limits⟩ := state
    cases bytes with
    | nil => contradiction
    | cons byte bytes =>
      have hpayload := toNat_payload byte
      have hread : u8.run ⟨byte :: bytes, offset, limits⟩ = _ := reads_u8 byte bytes offset
      unfold varint.go at h
      rw [StateT.run_bind, hread] at h
      change StateT.run (ite (_ ∧ _) _ _) _ = _ at h
      dsimp only at h
      split at h
      . contradiction
      next htenth =>
        have htenth : index.toNat ≤ 8 ∨ index.toNat = 9 ∧ byte.toNat ≤ 1 := by
          rw [not_and_or, not_or, not_not, and_continuation_eq_zero_iff, ← UInt64.toNat_inj,
            UInt64.lt_iff_toNat_lt, hpayload] at htenth
          change ¬ index.toNat = 9 ∨ ¬ 1 < byte.toNat % 128 ∧ byte.toNat < 128 at htenth
          omega
        change StateT.run (ite (_ = _) _ _) _ = _ at h
        split at h
        next hends =>
          rw [and_continuation_eq_zero_iff] at hends
          refine ⟨byte.toUInt64, bytes, by rw [Encoder.varint_go_last hends]; rfl, ?_, ?_⟩
          . rw [UInt8.toNat_toUInt64]
            cases htenth with
            | inl hindex =>
              have hbits : 2 ^ 8 ≤ 2 ^ (64 - 7 * index.toNat) := by
                apply Nat.pow_le_pow_right <;> omega
              omega
            | inr hindex =>
              rw [hindex.1]
              omega
          . split at h
            . contradiction
            next hzero =>
              rw [UInt64.lt_iff_toNat_lt, ← UInt64.toNat_inj, hpayload] at hzero
              change ¬ (0 < index.toNat ∧ byte.toNat % 128 = 0) at hzero
              rw [UInt8.toNat_toUInt64]
              omega
        next hcontinues =>
          rw [and_continuation_eq_zero_iff] at hcontinues
          have hnext := toNat_index_succ hindex
          obtain ⟨next, rest, hrest, hbound, hne⟩ := ih (by omega) h
          rw [hnext] at hbound
          have hbits : 2 ^ (64 - 7 * index.toNat) = 2 ^ (64 - 7 * (index.toNat + 1)) * 128 := by
            rw [show 64 - 7 * index.toNat = 64 - 7 * (index.toNat + 1) + 7 by omega, Nat.pow_add]
          have hwidth : 2 ^ (64 - 7 * index.toNat) ≤ 2 ^ 64 := by
            apply Nat.pow_le_pow_right <;> omega
          obtain ⟨left, hleft⟩ : ∃ left : UInt64, left.toNat = next.toNat * 128 + byte.toNat % 128 :=
            ⟨_, UInt64.toNat_ofNat_of_lt' (show _ < 2 ^ 64 by omega)⟩
          refine ⟨left, rest, ?_, by omega, by omega⟩
          rw [Encoder.varint_go_more (by omega) (by omega) hleft, List.cons_append, ← hrest]

/-- The reader returns every written number, and what it accepts is the shortest writing of the number it returns. -/
theorem varint_exact (limits : DecodeLimits)
    : (∀ value rest offset, varint.run ⟨Encoder.varint value ++ rest, offset, limits⟩
        = .ok (value, ⟨rest, offset + (Encoder.varint value).length, limits⟩))
      ∧ ∀ bytes offset value state, varint.run ⟨bytes, offset, limits⟩ = .ok (value, state)
        → bytes = Encoder.varint value ++ state.rest
          ∧ state = ⟨state.rest, offset + (Encoder.varint value).length, limits⟩ := by
  refine ⟨reads_varint, ?_⟩
  intro bytes offset value state h
  obtain ⟨left, rest, hbytes, _⟩ := exists_of_varint_go rfl h
  change bytes = Encoder.varint left ++ rest at hbytes
  rw [hbytes, reads_varint left rest offset] at h
  injection h with h
  injection h with hvalue hstate
  rw [← hstate, ← hvalue]
  exact ⟨hbytes, rfl⟩

variable {maximum : Nat}

theorem reads_bytes {value : List UInt8} (h : value.length < 2 ^ 64) (hmaximum : value.length ≤ maximum)
    (hlimits : value.length ≤ limits.maxObjectBytes)
    : Reads limits (bytes maximum) (Encoder.bytes value) value := by
  apply (reads_varint _).bind
  intro rest offset
  have hsize : (UInt64.ofNat value.length).toNat = value.length :=
    UInt64.toNat_ofNat_of_lt' (by unfold UInt64.size; omega)
  simp only [StateT.run_bind, StateT.run_get, pure_bind]
  rw [hsize, if_neg (by omega)]
  exact reads_take value rest offset

theorem reads_length {count : Nat} (h : count < 2 ^ 64) (hmaximum : count ≤ maximum)
    (hlimits : count ≤ limits.maxVectorItems)
    : Reads limits (length maximum) (Encoder.varint (UInt64.ofNat count)) count := by
  have hcount : (UInt64.ofNat count).toNat = count := UInt64.toNat_ofNat_of_lt' h
  have hread : Reads limits (length maximum) (Encoder.varint (UInt64.ofNat count) ++ []) count := by
    apply (reads_varint _).bind
    intro rest offset
    simp only [StateT.run_bind, StateT.run_get, pure_bind]
    rw [hcount, if_neg (by omega)]
    rfl
  rwa [List.append_nil] at hread

theorem reads_replicate {values : List α} (h : ∀ a ∈ values, Reads limits decode (encode a) a)
    : Reads limits (replicate decode values.length) (values.flatMap encode) values := by
  induction values with
  | nil => apply reads_pure
  | cons a values ih =>
    rw [List.forall_mem_cons] at h
    rw [List.flatMap_cons]
    apply h.1.bind
    apply (ih h.2).map

theorem reads_list {values : List α}
    (h : ∀ a ∈ values, Reads limits decode (encode a) a) (hlength : values.length < 2 ^ 64)
    (hmaximum : values.length ≤ maximum) (hlimits : values.length ≤ limits.maxVectorItems)
    : Reads limits (list maximum decode) (Encoder.list encode values) values :=
  (reads_length hlength hmaximum hlimits).bind (reads_replicate h)

theorem reads_option {value : Option α} (h : ∀ a ∈ value, Reads limits decode (encode a) a)
    : Reads limits (option decode) (Encoder.option encode value) value := by
  cases value with
  | none =>
    have h0 : Reads limits (option decode) (Encoder.u8 0 ++ []) none := by
      apply (reads_u8 0).bind
      apply reads_pure
    exact h0
  | some a =>
    apply (reads_u8 1).bind
    exact (h a rfl).map

theorem Reads.fromCanonicalBytes {bytes : List UInt8} {value : α}
    (h : Reads limits decode bytes value) (hlength : bytes.length ≤ limits.maxObjectBytes)
    : Decoder.fromCanonicalBytes decode bytes limits = .ok value := by
  have hrun := h [] 0
  rw [List.append_nil] at hrun
  unfold Decoder.fromCanonicalBytes
  rw [if_neg (by omega), hrun]
  rfl

end Decoder

namespace Encoder

variable {rest rest' : List UInt8}

theorem append_inj_of_reads (h : ∀ a, Decoder.Reads .default decode (encode a) a) {a b : α}
    : encode a ++ rest = encode b ++ rest' ↔ a = b ∧ rest = rest' := by
  constructor
  . apply (h a).append_inj (h b)
  . rintro ⟨rfl, rfl⟩
    rfl

@[simp]
theorem u8_append_inj {a b : UInt8}
    : u8 a ++ rest = u8 b ++ rest' ↔ a = b ∧ rest = rest' :=
  append_inj_of_reads Decoder.reads_u8

@[simp]
theorem u16_append_inj {a b : UInt16}
    : u16 a ++ rest = u16 b ++ rest' ↔ a = b ∧ rest = rest' :=
  append_inj_of_reads Decoder.reads_u16

@[simp]
theorem u32_append_inj {a b : UInt32}
    : u32 a ++ rest = u32 b ++ rest' ↔ a = b ∧ rest = rest' :=
  append_inj_of_reads Decoder.reads_u32

@[simp]
theorem u64_append_inj {a b : UInt64}
    : u64 a ++ rest = u64 b ++ rest' ↔ a = b ∧ rest = rest' :=
  append_inj_of_reads Decoder.reads_u64

@[simp]
theorem fixed_append_inj {a b : ByteVec n}
    : fixed a ++ rest = fixed b ++ rest' ↔ a = b ∧ rest = rest' :=
  append_inj_of_reads Decoder.reads_array

theorem bytes_inj {a b : List UInt8} : bytes a = bytes b ↔ a = b := by
  unfold bytes
  constructor
  . intro h
    exact ((append_inj_of_reads Decoder.reads_varint).mp h).2
  . rintro rfl
    rfl

theorem hashes_append_inj {a b : List (ByteVec n)} (ha : a.length < 2 ^ 64) (hb : b.length < 2 ^ 64)
    (h : hashes a ++ rest = hashes b ++ rest')
    : a = b ∧ rest = rest' := by
  have hread : ∀ values : List (ByteVec n), values.length < 2 ^ 64
      → Decoder.Reads ⟨0, 2 ^ 64⟩ (Decoder.list (2 ^ 64) (Decoder.array n)) (hashes values) values :=
    fun values hlength => Decoder.reads_list (fun a _ => Decoder.reads_array a) hlength hlength.le hlength.le
  exact (hread a ha).append_inj (hread b hb) h

end Encoder

end MeshMine.Codec
