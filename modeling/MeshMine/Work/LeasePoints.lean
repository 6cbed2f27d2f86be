import MeshMine.Work.Planner
import Mathlib.Data.Set.Lattice
import Mathlib.Order.CompletePartialOrder

/-!
What a lease covers. The points of a signed assignment lie along one axis, the extra nonces or the nonces, and a
lease that the cursor cuts out of it is a stretch of that axis.
-/

namespace MeshMine.Work

open MeshMine.Types Codec

abbrev WorkPoint := ByteVec 24 × UInt32

def OnGrid (start last stride nonce : UInt32) : Prop :=
  start ≤ nonce ∧ nonce ≤ last ∧ (nonce.toNat - start.toNat) % stride.toNat = 0

def WorkLease.points (lease : WorkLease) : Set WorkPoint :=
  {point | lease.acceptsExtraNonce point.1 = true
    ∧ OnGrid lease.nonceStart lease.nonceEnd lease.nonceStride point.2}

inductive SignedAssignment where
  | assignment (value : AssignmentV2)
  | gateway (value : GatewayAssignmentV1)

namespace SignedAssignment

def envelope [Primitives] (generation : UInt64) : SignedAssignment → Except LeaseError WorkEnvelope
  | assignment value => WorkEnvelope.fromAssignment value generation
  | gateway value => WorkEnvelope.fromGatewayAssignment value generation

def points : SignedAssignment → Set WorkPoint
  | assignment value => {point | point.1 = value.extraNonce
    ∧ OnGrid value.nonceStart value.nonceEnd value.nonceStride point.2}
  | gateway value => {point | (∃ extraNonce2, value.extraNonce2StartBe ≤ extraNonce2
      ∧ extraNonce2 ≤ value.extraNonce2EndBe
      ∧ point.1 = gatewayExtraNonce value.extraNoncePrefix extraNonce2)
    ∧ OnGrid value.nonceStart value.nonceEnd value.nonceStride point.2}

def position : SignedAssignment → WorkPoint → Nat
  | assignment _, point => point.2.toNat
  | gateway _, point => (extraNonce2Of point.1).toNat

def low : SignedAssignment → WorkLease → Nat
  | assignment _, lease => lease.nonceStart.toNat
  | gateway _, lease => (extraNonce2Of lease.extraNonceStart).toNat

def high : SignedAssignment → WorkLease → Nat
  | assignment _, lease => lease.nonceEnd.toNat
  | gateway _, lease => (extraNonce2Of lease.extraNonceEnd).toNat

end SignedAssignment

structure Stretch (signed : SignedAssignment) (lease : WorkLease) : Prop where
  within : lease.points ⊆ signed.points
  low_le : ∀ point ∈ lease.points, signed.low lease ≤ signed.position point
  le_high : ∀ point ∈ lease.points, signed.position point ≤ signed.high lease

theorem Stretch.disjoint {signed : SignedAssignment} {earlier later : WorkLease} (h : Stretch signed earlier)
    (h' : Stretch signed later) (hlt : signed.high earlier < signed.low later)
    : Disjoint later.points earlier.points := by
  rw [Set.disjoint_left]
  intro point hlater hearlier
  have hhigh := h.le_high point hearlier
  have hlow := h'.low_le point hlater
  omega

/-!
### Extra nonces
-/

section

variable (noncePrefix extraNonce2 : ByteVec 4)

@[simp]
theorem toList_gatewayExtraNonce
    : (gatewayExtraNonce noncePrefix extraNonce2).toList
      = noncePrefix.toList ++ extraNonce2.toList ++ List.replicate 16 0 := rfl

theorem toNat_gatewayExtraNonce
    : (gatewayExtraNonce noncePrefix extraNonce2).toNat
      = (noncePrefix.toNat * 2 ^ 32 + extraNonce2.toNat) * 2 ^ 128 := by
  simp only [toList_gatewayExtraNonce, ByteVec.toNat, Bytes.ofBE_append, Bytes.ofBE_replicate_zero,
    extraNonce2.length_toList, List.length_replicate]
  omega

@[simp]
theorem noncePrefixOf_gatewayExtraNonce
    : noncePrefixOf (gatewayExtraNonce noncePrefix extraNonce2) = noncePrefix := by
  apply ByteVec.ext
  simp [noncePrefixOf, noncePrefix.length_toList]

@[simp]
theorem extraNonce2Of_gatewayExtraNonce
    : extraNonce2Of (gatewayExtraNonce noncePrefix extraNonce2) = extraNonce2 := by
  apply ByteVec.ext
  have hlength := noncePrefix.length_toList
  simp [extraNonce2Of, extraNonce2.length_toList, hlength]

end

theorem eq_gatewayExtraNonce {value : ByteVec 24} (h : (value.toList.drop 8).all (· = 0) = true)
    : value = gatewayExtraNonce (noncePrefixOf value) (extraNonce2Of value) := by
  have hzero : value.toList.drop 8 = List.replicate 16 0 := by
    rw [List.eq_replicate_iff]
    refine ⟨by simp [value.length_toList], ?_⟩
    simpa using h
  apply ByteVec.ext
  change value.toList = value.toList.take 4 ++ (value.toList.drop 4).take 4 ++ List.replicate 16 0
  rw [← hzero, List.append_assoc]
  have hrest : (value.toList.drop 4).take 4 ++ value.toList.drop 8 = value.toList.drop 4 := by
    have hdrop : value.toList.drop 8 = (value.toList.drop 4).drop 4 := by rw [List.drop_drop]
    rw [hdrop, List.take_append_drop]
  rw [hrest, List.take_append_drop]

@[simp]
theorem toNat_u32ToBe (value : UInt32) : (u32ToBe value).toNat = value.toNat := by
  have hlt := value.toNat_lt
  simp only [u32ToBe, ByteVec.toNat, Bytes.ofBE_toBE]
  omega

theorem toNat_ofNat_byteVec (value : ByteVec 4) : (UInt32.ofNat value.toNat).toNat = value.toNat :=
  UInt32.toNat_ofNat_of_lt' value.toNat_lt

theorem extraNonce2_gatewayExtraNonce (noncePrefix value : ByteVec 4)
    : extraNonce2 (gatewayExtraNonce noncePrefix value) = some (UInt32.ofNat value.toNat) := by
  have hzero : (gatewayExtraNonce noncePrefix value).toList.drop 8 = List.replicate 16 0 := by
    have hlength := noncePrefix.length_toList
    have hlength' := value.length_toList
    simp [List.drop_append, hlength, hlength']
  unfold extraNonce2
  rw [hzero, extraNonce2Of_gatewayExtraNonce]
  rfl

variable {lease : WorkLease} {last : ByteVec 4} {extraNonce : ByteVec 24}

theorem acceptsExtraNonce_gateway {noncePrefix start : ByteVec 4}
    (hprofile : lease.extraNonceProfile = gatewayExtraNonceProfile)
    (hstart : lease.extraNonceStart = gatewayExtraNonce noncePrefix start)
    (hlast : lease.extraNonceEnd = gatewayExtraNonce noncePrefix last) (h : lease.acceptsExtraNonce extraNonce = true)
    : start ≤ extraNonce2Of extraNonce ∧ extraNonce2Of extraNonce ≤ last
      ∧ extraNonce = gatewayExtraNonce noncePrefix (extraNonce2Of extraNonce) := by
  have hne : gatewayExtraNonceProfile ≠ 0 := by decide
  unfold WorkLease.acceptsExtraNonce at h
  rw [hprofile, if_neg hne, if_pos rfl, hstart, hlast] at h
  split at h
  . contradiction
  next hbounds =>
    simp only [noncePrefixOf_gatewayExtraNonce, Bool.and_eq_true, decide_eq_true_eq] at h
    obtain ⟨⟨hfront, _⟩, hzero⟩ := h
    have heq := eq_gatewayExtraNonce hzero
    rw [hfront] at heq
    push Not at hbounds
    rw [heq, ByteVec.le_iff_toNat_le, ByteVec.le_iff_toNat_le] at hbounds
    simp only [toNat_gatewayExtraNonce] at hbounds
    rw [ByteVec.le_iff_toNat_le, ByteVec.le_iff_toNat_le]
    exact ⟨by omega, by omega, heq⟩

theorem acceptsExtraNonce_single (hprofile : lease.extraNonceProfile = 0)
    (h : lease.acceptsExtraNonce extraNonce = true)
    : extraNonce = lease.extraNonceStart := by
  unfold WorkLease.acceptsExtraNonce at h
  rw [hprofile, if_pos rfl] at h
  split at h
  . contradiction
  . simp only [Bool.and_eq_true, decide_eq_true_eq] at h
    exact h.2

/-!
### The leases of an envelope
-/

variable {value : AssignmentV2}

section

variable [P : Primitives] {generation : UInt64} {envelope : WorkEnvelope}

theorem fromAssignment_eq_ok (h : WorkEnvelope.fromAssignment value generation = .ok envelope)
    : value.nonceStart ≤ value.nonceEnd ∧ value.nonceStride ≠ 0 ∧ envelope.kind = .assignmentV2
      ∧ envelope.extraNonceProfile = 0 ∧ envelope.range = ⟨value.extraNonce, value.extraNonce,
        value.nonceStart, value.nonceEnd, value.nonceStride⟩ := by
  unfold WorkEnvelope.fromAssignment validateNonceRange at h
  simp only [Except.bind_unit_eq_ok, Except.rejectIf_eq_ok, not_or, not_lt] at h
  obtain ⟨_, ⟨hrange, hstride⟩, h⟩ := h
  injection h with h
  rw [← h]
  exact ⟨hrange, hstride, rfl, rfl, rfl⟩

theorem fromGatewayAssignment_eq_ok {value : GatewayAssignmentV1}
    (h : WorkEnvelope.fromGatewayAssignment value generation = .ok envelope)
    : envelope.kind = .gatewayAssignmentV1 ∧ envelope.extraNonceProfile = gatewayExtraNonceProfile
      ∧ envelope.range = ⟨gatewayExtraNonce value.extraNoncePrefix value.extraNonce2StartBe,
        gatewayExtraNonce value.extraNoncePrefix value.extraNonce2EndBe, value.nonceStart, value.nonceEnd,
        value.nonceStride⟩ := by
  unfold WorkEnvelope.fromGatewayAssignment at h
  simp only [Except.bind_unit_eq_ok, Except.rejectIf_eq_ok, not_not] at h
  obtain ⟨_, _, hprofile, _, h⟩ := h
  injection h with h
  rw [← h]
  exact ⟨rfl, hprofile, rfl⟩

end

variable {start : UInt32} {stride : UInt32}

theorem OnGrid.widen {last start' last' nonce : UInt32} (h : OnGrid start' last' stride nonce)
    (hstart : start ≤ start') (hlast : last' ≤ last) (haligned : (start'.toNat - start.toNat) % stride.toNat = 0)
    : OnGrid start last stride nonce := by
  obtain ⟨hlow, hhigh, hgrid⟩ := h
  rw [UInt32.le_iff_toNat_le] at hlow hhigh hstart hlast
  refine ⟨?_, ?_, ?_⟩
  . rw [UInt32.le_iff_toNat_le]
    omega
  . rw [UInt32.le_iff_toNat_le]
    omega
  . have hsplit : nonce.toNat - start.toNat
        = (nonce.toNat - start'.toNat) + (start'.toNat - start.toNat) := by omega
    rw [hsplit, Nat.add_mod, hgrid, haligned]
    simp

theorem stretch_of_nonces (hprofile : lease.extraNonceProfile = 0) (hextra : lease.extraNonceStart = value.extraNonce)
    (hstride : lease.nonceStride = value.nonceStride) (hfirst : value.nonceStart ≤ lease.nonceStart)
    (hlast : lease.nonceEnd ≤ value.nonceEnd)
    (haligned : (lease.nonceStart.toNat - value.nonceStart.toNat) % value.nonceStride.toNat = 0)
    : Stretch (.assignment value) lease := by
  constructor
  . intro point ⟨haccepts, hgrid⟩
    rw [hstride] at hgrid
    refine ⟨?_, hgrid.widen hfirst hlast haligned⟩
    rw [acceptsExtraNonce_single hprofile haccepts, hextra]
  . intro point ⟨_, hgrid⟩
    exact UInt32.le_iff_toNat_le.mp hgrid.1
  . intro point ⟨_, hgrid⟩
    exact UInt32.le_iff_toNat_le.mp hgrid.2.1

theorem stretch_of_extraNonces {value : GatewayAssignmentV1} {first : ByteVec 4}
    (hprofile : lease.extraNonceProfile = gatewayExtraNonceProfile)
    (hstart : lease.extraNonceStart = gatewayExtraNonce value.extraNoncePrefix first)
    (hend : lease.extraNonceEnd = gatewayExtraNonce value.extraNoncePrefix last)
    (hgrid : OnGrid lease.nonceStart lease.nonceEnd lease.nonceStride
      = OnGrid value.nonceStart value.nonceEnd value.nonceStride) (hfirst : value.extraNonce2StartBe ≤ first)
    (hlast : last ≤ value.extraNonce2EndBe)
    : Stretch (.gateway value) lease := by
  constructor
  . intro point ⟨haccepts, hnonce⟩
    obtain ⟨hlow, hhigh, heq⟩ := acceptsExtraNonce_gateway hprofile hstart hend haccepts
    rw [hgrid] at hnonce
    exact ⟨⟨_, le_trans hfirst hlow, le_trans hhigh hlast, heq⟩, hnonce⟩
  . intro point ⟨haccepts, _⟩
    obtain ⟨hlow, _⟩ := acceptsExtraNonce_gateway hprofile hstart hend haccepts
    rw [ByteVec.le_iff_toNat_le] at hlow
    simpa [SignedAssignment.low, SignedAssignment.position, hstart] using hlow
  . intro point ⟨haccepts, _⟩
    obtain ⟨_, hhigh, _⟩ := acceptsExtraNonce_gateway hprofile hstart hend haccepts
    rw [ByteVec.le_iff_toNat_le] at hhigh
    simpa [SignedAssignment.high, SignedAssignment.position, hend] using hhigh

/-!
### The cursor
-/

@[simp]
theorem decodeCursor_encodeCursor (value : UInt64)
    : decodeCursor (some (encodeCursor value)) = .ok (.next value) := by
  have hvalue : UInt64.ofNat (Bytes.ofLE (Encoder.u64 value)) = value := by
    unfold Encoder.u64
    rw [Bytes.ofLE_toLE, Nat.mod_eq_of_lt value.toNat_lt, UInt64.ofNat_toNat]
  simp [decodeCursor, encodeCursor, hvalue]

@[simp]
theorem decodeCursor_exhausted : decodeCursor (some encodeExhaustedCursor) = .ok .exhausted := rfl

/-- The next lease begins behind `bound`, or there is none. -/
def CursorState.Beyond (bound : Nat) : CursorState → Prop
  | unset => False
  | next value => bound < value.toNat
  | exhausted => True

variable {state : CursorState} {bound : Nat}

theorem CursorState.Beyond.mono {bound' : Nat} (h : state.Beyond bound') (hle : bound ≤ bound')
    : state.Beyond bound := by
  cases state with
  | unset => exact h
  | next value => exact lt_of_le_of_lt hle h
  | exhausted => trivial

theorem CursorState.Beyond.lt_position {cursor : Nat} (h : state.Beyond bound)
    (hposition : state.position start = .ok cursor)
    : bound < cursor := by
  cases state with
  | unset => contradiction
  | next value =>
    injection hposition with hposition
    rw [← hposition]
    exact h
  | exhausted => contradiction

variable {limits : PlannerLimits} {first final : UInt32} {capabilities : DeviceCapabilities}

theorem nextExtraNonces_eq_ok {last : UInt32}
    (h : nextExtraNonces limits start last capabilities state = .ok (first, final))
    : state.position start = .ok first.toNat ∧ start ≤ first ∧ first ≤ final ∧ final ≤ last := by
  unfold nextExtraNonces at h
  obtain ⟨cursor, hcursor, h⟩ := Except.bind_eq_ok h
  simp only [Except.bind_unit_eq_ok, Except.rejectIf_eq_ok, not_or, not_lt] at h
  obtain ⟨⟨hlow, hhigh⟩, h⟩ := h
  injection h with h
  injection h with hfirst hfinal
  have hlast := last.toNat_lt
  have hsize : UInt32.size = 2 ^ 32 := rfl
  have htoNat : first.toNat = cursor := by
    rw [← hfirst, UInt32.toNat_ofNat_of_lt' (by omega)]
  rw [htoNat]
  rw [UInt32.le_iff_toNat_le, UInt32.le_iff_toNat_le, UInt32.le_iff_toNat_le, htoNat, ← hfinal,
    UInt32.toNat_ofNat_of_lt' (by omega)]
  exact ⟨hcursor, hlow, by omega, by omega⟩

theorem nextNonces_eq_ok {envelope : WorkEnvelope}
    (h : nextNonces limits envelope capabilities state = .ok (first, final))
    : state.position envelope.nonceStart = .ok first.toNat ∧ first ≤ final ∧ final ≤ envelope.nonceEnd
      ∧ (final.toNat - first.toNat) % envelope.nonceStride.toNat = 0 := by
  unfold nextNonces at h
  obtain ⟨cursor, hcursor, h⟩ := Except.bind_eq_ok h
  simp only [Except.bind_unit_eq_ok, Except.rejectIf_eq_ok, not_or, not_lt, not_le] at h
  obtain ⟨hhigh, ⟨hcursor32, hfinal32⟩, h⟩ := h
  injection h with h
  injection h with hfirst hfinal
  have hend := envelope.nonceEnd.toNat_lt
  have hsize : UInt32.size = 2 ^ 32 := rfl
  generalize hsteps : min _ ((envelope.nonceEnd.toNat - cursor) / envelope.nonceStride.toNat) = steps
    at hfinal hfinal32
  have hbound : steps * envelope.nonceStride.toNat ≤ envelope.nonceEnd.toNat - cursor := by
    apply le_trans (Nat.mul_le_mul_right _ _) (Nat.div_mul_le_self _ envelope.nonceStride.toNat)
    omega
  have hexact : min (cursor + min (steps * envelope.nonceStride.toNat) (2 ^ 64 - 1)) (2 ^ 64 - 1)
      = cursor + steps * envelope.nonceStride.toNat := by
    omega
  rw [hexact] at hfinal hfinal32
  have htoNat : first.toNat = cursor := by
    rw [← hfirst, UInt32.toNat_ofNat_of_lt' (by omega)]
  have htoNat' : final.toNat = cursor + steps * envelope.nonceStride.toNat := by
    rw [← hfinal, UInt32.toNat_ofNat_of_lt' (by omega)]
  rw [UInt32.le_iff_toNat_le, UInt32.le_iff_toNat_le, htoNat, htoNat']
  exact ⟨hcursor, by omega, by omega, by simp⟩

theorem CursorState.beyond_afterExtraNonce (leaseEnd : UInt32)
    : ∃ state, decodeCursor (some (((if leaseEnd.toNat + 1 < 2 ^ 32 then some (leaseEnd.toUInt64 + 1)
        else none).map encodeCursor).getD encodeExhaustedCursor)) = .ok state
      ∧ state.Beyond leaseEnd.toNat := by
  split
  next hlt =>
    refine ⟨.next (leaseEnd.toUInt64 + 1), by simp, ?_⟩
    simp only [Beyond, UInt64.toNat_add, UInt32.toNat_toUInt64, UInt64.reduceToNat]
    omega
  . exact ⟨.exhausted, by simp, trivial⟩

theorem CursorState.beyond_afterNonce (leaseEnd nonceEnd : UInt32) (hstride : stride ≠ 0)
    : ∃ state, decodeCursor (some (((if leaseEnd.toUInt64 + stride.toUInt64 ≤ nonceEnd.toUInt64 then
        some (leaseEnd.toUInt64 + stride.toUInt64) else none).map encodeCursor).getD encodeExhaustedCursor))
        = .ok state
      ∧ state.Beyond leaseEnd.toNat
      ∧ ∀ value, state = .next value → value.toNat = leaseEnd.toNat + stride.toNat := by
  have hpos : stride.toNat ≠ 0 := by
    intro hzero
    exact hstride (UInt32.toNat_inj.mp hzero)
  have hnext : (leaseEnd.toUInt64 + stride.toUInt64).toNat = leaseEnd.toNat + stride.toNat := by
    have hend := leaseEnd.toNat_lt
    have hbound := stride.toNat_lt
    simp only [UInt64.toNat_add, UInt32.toNat_toUInt64]
    omega
  split
  next hle =>
    refine ⟨.next (leaseEnd.toUInt64 + stride.toUInt64), by simp, ?_, ?_⟩
    . simp only [Beyond, hnext]
      omega
    . intro value heq
      injection heq with heq
      rw [← heq, hnext]
  . exact ⟨.exhausted, by simp, trivial, by simp⟩

end MeshMine.Work
