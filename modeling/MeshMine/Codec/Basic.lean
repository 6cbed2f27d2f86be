import MeshMine.Data.Bytes

/-!
The bounded canonical binary encoding (`meshmine-codec/src/lib.rs`). An encoder call is the byte
string that it appends; a decoder is a state transformer over the bytes not read yet.
-/

namespace MeshMine.Codec

structure DecodeLimits where
  maxObjectBytes : Nat
  maxVectorItems : Nat

def DecodeLimits.default : DecodeLimits where
  maxObjectBytes := 4 * 1024 * 1024
  maxVectorItems := 100000

inductive CodecError where
  | objectTooLarge (actual maximum : Nat)
  | unexpectedEof (offset needed : Nat)
  | nonCanonicalVarint
  | varintOverflow
  | lengthLimit (actual maximum : Nat)
  | invalidOption (tag : UInt8)
  | trailingBytes (remaining : Nat)
  | invalidField (name : String)
deriving DecidableEq

namespace Encoder

def u8 (value : UInt8) : List UInt8 :=
  [value]

def u16 (value : UInt16) : List UInt8 :=
  Bytes.toLE 2 value.toNat

def u32 (value : UInt32) : List UInt8 :=
  Bytes.toLE 4 value.toNat

def u64 (value : UInt64) : List UInt8 :=
  Bytes.toLE 8 value.toNat

def fixed {n : Nat} (value : ByteVec n) : List UInt8 :=
  value.toList

/-- Seven bits are written per round, so ten rounds exhaust a `u64`. -/
def varint (value : UInt64) : List UInt8 :=
  go 10 value
where
  go : Nat → UInt64 → List UInt8
    | 0, _ => []
    | rounds + 1, value =>
      let byte := (value &&& 0x7f).toUInt8
      let value := value >>> 7
      if value ≠ 0 then
        (byte ||| 0x80) :: go rounds value
      else
        [byte]

def bytes (value : List UInt8) : List UInt8 :=
  varint (UInt64.ofNat value.length) ++ value

def list {α : Type} (encode : α → List UInt8) (values : List α) : List UInt8 :=
  varint (UInt64.ofNat values.length) ++ values.flatMap encode

def option {α : Type} (encode : α → List UInt8) : Option α → List UInt8
  | none => u8 0
  | some value => u8 1 ++ encode value

def hashes {n : Nat} (values : List (ByteVec n)) : List UInt8 :=
  list fixed values

end Encoder

structure DecoderState where
  rest : List UInt8
  offset : Nat
  limits : DecodeLimits

abbrev Decoder := StateT DecoderState (Except CodecError)

namespace Decoder

def take (length : Nat) : Decoder (List UInt8) := do
  let state ← get
  if state.rest.length < length then
    throw (.unexpectedEof state.offset (length - state.rest.length))
  set { state with rest := state.rest.drop length, offset := state.offset + length }
  return state.rest.take length

def array (n : Nat) : Decoder (ByteVec n) := do
  let state ← get
  if h : state.rest.length < n then
    throw (.unexpectedEof state.offset (n - state.rest.length))
  else
    set { state with rest := state.rest.drop n, offset := state.offset + n }
    return ⟨state.rest.take n, by simp only [List.length_take]; omega⟩

def u8 : Decoder UInt8 := do
  let bytes ← take 1
  return bytes.headD 0

def u16 : Decoder UInt16 := do
  let bytes ← take 2
  return UInt16.ofNat (Bytes.ofLE bytes)

def u32 : Decoder UInt32 := do
  let bytes ← take 4
  return UInt32.ofNat (Bytes.ofLE bytes)

def u64 : Decoder UInt64 := do
  let bytes ← take 8
  return UInt64.ofNat (Bytes.ofLE bytes)

def varint : Decoder UInt64 :=
  go 10 0 0
where
  go : Nat → UInt64 → UInt64 → Decoder UInt64
    | 0, _, _ => throw .varintOverflow
    | rounds + 1, index, value => do
      let byte ← u8
      let payload := (byte &&& 0x7f).toUInt64
      if index = 9 ∧ (1 < payload ∨ byte &&& 0x80 ≠ 0) then
        throw .varintOverflow
      let value := value ||| (payload <<< (index * 7))
      if byte &&& 0x80 = 0 then
        if 0 < index ∧ payload = 0 then
          throw .nonCanonicalVarint
        return value
      go rounds (index + 1) value

def length (maximum : Nat) : Decoder Nat := do
  let value ← varint
  let state ← get
  if maximum < value.toNat ∨ state.limits.maxVectorItems < value.toNat then
    throw (.lengthLimit value.toNat (min maximum state.limits.maxVectorItems))
  return value.toNat

def bytes (maximum : Nat) : Decoder (List UInt8) := do
  let length ← varint
  let state ← get
  if maximum < length.toNat ∨ state.limits.maxObjectBytes < length.toNat then
    throw (.lengthLimit length.toNat (min maximum state.limits.maxObjectBytes))
  take length.toNat

def option {α : Type} (decode : Decoder α) : Decoder (Option α) := do
  let tag ← u8
  if tag = 0 then
    return none
  else if tag = 1 then
    let value ← decode
    return some value
  else
    throw (.invalidOption tag)

def replicate {α : Type} (decode : Decoder α) : Nat → Decoder (List α)
  | 0 => return []
  | count + 1 => do
    let value ← decode
    let values ← replicate decode count
    return value :: values

def list {α : Type} (maximum : Nat) (decode : Decoder α) : Decoder (List α) := do
  let count ← length maximum
  replicate decode count

def fromCanonicalBytes {α : Type} (decode : Decoder α) (bytes : List UInt8) (limits : DecodeLimits)
    : Except CodecError α := do
  if limits.maxObjectBytes < bytes.length then
    throw (.objectTooLarge bytes.length limits.maxObjectBytes)
  let (value, state) ← decode.run { rest := bytes, offset := 0, limits }
  if state.rest.length ≠ 0 then
    throw (.trailingBytes state.rest.length)
  return value

end Decoder

class CanonicalEncode (α : Type) where
  encode : α → List UInt8

class CanonicalDecode (α : Type) where
  decode : Decoder α

def toCanonicalBytes {α : Type} [CanonicalEncode α] (object : α) : List UInt8 :=
  CanonicalEncode.encode object

def fromCanonicalBytes {α : Type} [CanonicalDecode α] (bytes : List UInt8) (limits : DecodeLimits)
    : Except CodecError α :=
  Decoder.fromCanonicalBytes CanonicalDecode.decode bytes limits

end MeshMine.Codec
