import MeshMine.Data.Bytes

/-!
The Handshake header and the hashes derived from it (`meshmine-hns/src/header.rs`).

The hash functions and the Ed25519 scheme of the program are third-party code. They enter the model
as one parameter, `Primitives`; a hash function takes the concatenation of the parts that the
program feeds to the incremental hasher.
-/

namespace MeshMine

abbrev Hash256 := ByteVec 32

class Primitives where
  blake2b256 : List UInt8 → Hash256
  blake2b512 : List UInt8 → ByteVec 64
  sha3_256 : List UInt8 → Hash256
  ed25519Public : ByteVec 32 → ByteVec 32
  ed25519ValidKey : ByteVec 32 → Bool
  ed25519Sign : ByteVec 32 → List UInt8 → ByteVec 64
  ed25519Verify : ByteVec 32 → List UInt8 → ByteVec 64 → Bool

namespace Primitives

/-- A polynomial hash modulo a 256-bit prime and a keyed-hash signature: enough to run the model on concrete inputs.
No result about the program assumes anything of it. -/
def foldHash (seed : Nat) (bytes : List UInt8) : Nat :=
  bytes.foldl
    (fun acc byte => (acc * 0x9e3779b97f4a7c15f39cc0605cedc8341082276bf3a27251f86c6a11d0c18e95
      + byte.toNat + 1) % (2 ^ 256 - 189))
    seed

def foldVec (seed n : Nat) (bytes : List UInt8) : ByteVec n :=
  ⟨Bytes.toBE n (foldHash seed bytes), Bytes.length_toBE _ _⟩

@[reducible]
def fold : Primitives where
  blake2b256 := foldVec 1 32
  blake2b512 := foldVec 2 64
  sha3_256 := foldVec 3 32
  ed25519Public := id
  ed25519ValidKey _ := true
  ed25519Sign key message := foldVec 4 64 (key.toList ++ message)
  ed25519Verify key message signature := signature = foldVec 4 64 (key.toList ++ message)

end Primitives

namespace Hns

structure HnsHeader where
  nonce : UInt32
  time : UInt64
  prevBlock : Hash256
  treeRoot : Hash256
  extraNonce : ByteVec 24
  reservedRoot : Hash256
  witnessRoot : Hash256
  merkleRoot : Hash256
  version : UInt32
  bits : UInt32
  mask : Hash256

structure MinerHeader where
  nonce : UInt32
  time : UInt64
  prevBlock : Hash256
  treeRoot : Hash256
  maskHash : Hash256
  extraNonce : ByteVec 24
  reservedRoot : Hash256
  witnessRoot : Hash256
  merkleRoot : Hash256
  version : UInt32
  bits : UInt32
deriving DecidableEq

def u32Bytes (value : UInt32) : List UInt8 :=
  Bytes.toLE 4 value.toNat

def u64Bytes (value : UInt64) : List UInt8 :=
  Bytes.toLE 8 value.toNat

def deterministicPadding (prevBlock treeRoot : Hash256) (size : Nat) : List UInt8 :=
  (List.range size).map fun index =>
    prevBlock.toList.getD (index % 32) 0 ^^^ treeRoot.toList.getD (index % 32) 0

def subheader (extraNonce : ByteVec 24) (reservedRoot witnessRoot merkleRoot : Hash256)
    (version bits : UInt32) : List UInt8 :=
  extraNonce.toList ++ reservedRoot.toList ++ witnessRoot.toList ++ merkleRoot.toList
    ++ u32Bytes version ++ u32Bytes bits

def preheader (nonce : UInt32) (time : UInt64) (prevBlock treeRoot commitHash : Hash256)
    : List UInt8 :=
  u32Bytes nonce ++ u64Bytes time ++ deterministicPadding prevBlock treeRoot 20
    ++ prevBlock.toList ++ treeRoot.toList ++ commitHash.toList

inductive HeaderError where
  | invalidLength (expected actual : Nat)
  | invalidPadding

def headerSize : Nat := 236
def minerHeaderSize : Nat := 256

variable (data : List UInt8)

/-- Models `read_array` at a fixed offset; the length of the input is checked before any read. -/
def readArray (offset n : Nat) (h : offset + n ≤ data.length) : ByteVec n :=
  ⟨(data.drop offset).take n, by rw [List.length_take, List.length_drop]; omega⟩

namespace HnsHeader

def toBytes (header : HnsHeader) : List UInt8 :=
  u32Bytes header.nonce ++ u64Bytes header.time ++ header.prevBlock.toList ++ header.treeRoot.toList
    ++ header.extraNonce.toList ++ header.reservedRoot.toList ++ header.witnessRoot.toList
    ++ header.merkleRoot.toList ++ u32Bytes header.version ++ u32Bytes header.bits ++ header.mask.toList

def fromBytes : Except HeaderError HnsHeader :=
  if h : data.length ≠ headerSize then
    .error (.invalidLength headerSize data.length)
  else
    have hlength : data.length = 236 := not_not.mp h
    .ok {
      nonce := UInt32.ofNat (Bytes.ofLE (readArray data 0 4 (by omega)).toList)
      time := UInt64.ofNat (Bytes.ofLE (readArray data 4 8 (by omega)).toList)
      prevBlock := readArray data 12 32 (by omega)
      treeRoot := readArray data 44 32 (by omega)
      extraNonce := readArray data 76 24 (by omega)
      reservedRoot := readArray data 100 32 (by omega)
      witnessRoot := readArray data 132 32 (by omega)
      merkleRoot := readArray data 164 32 (by omega)
      version := UInt32.ofNat (Bytes.ofLE (readArray data 196 4 (by omega)).toList)
      bits := UInt32.ofNat (Bytes.ofLE (readArray data 200 4 (by omega)).toList)
      mask := readArray data 204 32 (by omega)
    }

end HnsHeader

namespace MinerHeader

def toBytes (header : MinerHeader) : List UInt8 :=
  u32Bytes header.nonce ++ u64Bytes header.time
    ++ deterministicPadding header.prevBlock header.treeRoot 20
    ++ header.prevBlock.toList ++ header.treeRoot.toList ++ header.maskHash.toList
    ++ header.extraNonce.toList ++ header.reservedRoot.toList ++ header.witnessRoot.toList
    ++ header.merkleRoot.toList ++ u32Bytes header.version ++ u32Bytes header.bits

def fromBytes : Except HeaderError MinerHeader :=
  if h : data.length ≠ minerHeaderSize then
    .error (.invalidLength minerHeaderSize data.length)
  else
    have hlength : data.length = 256 := not_not.mp h
    let padding := readArray data 12 20 (by omega)
    let prevBlock := readArray data 32 32 (by omega)
    let treeRoot := readArray data 64 32 (by omega)
    if padding.toList ≠ deterministicPadding prevBlock treeRoot 20 then
      .error .invalidPadding
    else
      .ok {
        nonce := UInt32.ofNat (Bytes.ofLE (readArray data 0 4 (by omega)).toList)
        time := UInt64.ofNat (Bytes.ofLE (readArray data 4 8 (by omega)).toList)
        prevBlock
        treeRoot
        maskHash := readArray data 96 32 (by omega)
        extraNonce := readArray data 128 24 (by omega)
        reservedRoot := readArray data 152 32 (by omega)
        witnessRoot := readArray data 184 32 (by omega)
        merkleRoot := readArray data 216 32 (by omega)
        version := UInt32.ofNat (Bytes.ofLE (readArray data 248 4 (by omega)).toList)
        bits := UInt32.ofNat (Bytes.ofLE (readArray data 252 4 (by omega)).toList)
      }

end MinerHeader

theorem u32Bytes_ofLE {bytes : List UInt8} (h : bytes.length = 4)
    : u32Bytes (UInt32.ofNat (Bytes.ofLE bytes)) = bytes := by
  have hlt : Bytes.ofLE bytes < 2 ^ 32 := by
    have := Bytes.ofBE_lt bytes.reverse
    rwa [List.length_reverse, h] at this
  unfold u32Bytes
  rw [UInt32.toNat_ofNat', Nat.mod_eq_of_lt hlt, ← h, Bytes.toLE_ofLE]

theorem u64Bytes_ofLE {bytes : List UInt8} (h : bytes.length = 8)
    : u64Bytes (UInt64.ofNat (Bytes.ofLE bytes)) = bytes := by
  have hlt : Bytes.ofLE bytes < 2 ^ 64 := by
    have := Bytes.ofBE_lt bytes.reverse
    rwa [List.length_reverse, h] at this
  unfold u64Bytes
  rw [UInt64.toNat_ofNat', Nat.mod_eq_of_lt hlt, ← h, Bytes.toLE_ofLE]

theorem readArray_append_drop {offset n next : Nat} (h : offset + n ≤ data.length) (hnext : offset + n = next)
    : (readArray data offset n h).toList ++ data.drop next = data.drop offset := by
  unfold readArray
  rw [← hnext, ← List.drop_drop, List.take_append_drop]

theorem readArray_last {offset n : Nat} (h : offset + n = data.length)
    : (readArray data offset n (Nat.le_of_eq h)).toList = data.drop offset := by
  unfold readArray
  apply List.take_of_length_le
  rw [List.length_drop]
  omega

/-- The fields tile the 256 bytes, so an accepted header is written back as it was read. -/
theorem MinerHeader.toBytes_of_fromBytes {data : List UInt8} {header : MinerHeader} (h : fromBytes data = .ok header)
    : header.toBytes = data := by
  unfold fromBytes at h
  split at h
  next => contradiction
  next hsize =>
    have hlength : data.length = 256 := not_not.mp hsize
    dsimp only at h
    split at h
    next => contradiction
    next hpadding =>
      injection h with h
      subst h
      unfold toBytes
      simp only [List.append_assoc]
      rw [← not_not.mp hpadding]
      rw [u32Bytes_ofLE (ByteVec.length_toList _), u64Bytes_ofLE (ByteVec.length_toList _),
        u32Bytes_ofLE (ByteVec.length_toList _), u32Bytes_ofLE (ByteVec.length_toList _)]
      have hlast : (readArray data 252 4 (by omega)).toList = data.drop 252 :=
        readArray_last data (by omega)
      rw [hlast]
      simp only [readArray_append_drop, Nat.reduceAdd, List.drop_zero]

def xorHashes (left right : Hash256) : Hash256 :=
  left.xor right

variable [P : Primitives]

def shareHashFromPreheader (preheader : List UInt8) (prevBlock treeRoot : Hash256) : Hash256 :=
  let left := P.blake2b512 preheader
  let right := P.sha3_256 (preheader ++ deterministicPadding prevBlock treeRoot 8)
  P.blake2b256 (left.toList ++ deterministicPadding prevBlock treeRoot 32 ++ right.toList)

namespace HnsHeader

def subHash (header : HnsHeader) : Hash256 :=
  P.blake2b256 (subheader header.extraNonce header.reservedRoot header.witnessRoot
    header.merkleRoot header.version header.bits)

def maskHash (header : HnsHeader) : Hash256 :=
  P.blake2b256 (header.prevBlock.toList ++ header.mask.toList)

def commitHash (header : HnsHeader) : Hash256 :=
  P.blake2b256 (header.subHash.toList ++ header.maskHash.toList)

def preheader (header : HnsHeader) : List UInt8 :=
  Hns.preheader header.nonce header.time header.prevBlock header.treeRoot header.commitHash

def shareHash (header : HnsHeader) : Hash256 :=
  shareHashFromPreheader header.preheader header.prevBlock header.treeRoot

def powHash (header : HnsHeader) : Hash256 :=
  xorHashes header.shareHash header.mask

end HnsHeader

namespace MinerHeader

def ofHnsHeader (header : HnsHeader) : MinerHeader where
  nonce := header.nonce
  time := header.time
  prevBlock := header.prevBlock
  treeRoot := header.treeRoot
  maskHash := header.maskHash
  extraNonce := header.extraNonce
  reservedRoot := header.reservedRoot
  witnessRoot := header.witnessRoot
  merkleRoot := header.merkleRoot
  version := header.version
  bits := header.bits

def subHash (header : MinerHeader) : Hash256 :=
  P.blake2b256 (subheader header.extraNonce header.reservedRoot header.witnessRoot
    header.merkleRoot header.version header.bits)

def commitHash (header : MinerHeader) : Hash256 :=
  P.blake2b256 (header.subHash.toList ++ header.maskHash.toList)

def preheader (header : MinerHeader) : List UInt8 :=
  Hns.preheader header.nonce header.time header.prevBlock header.treeRoot header.commitHash

def shareHash (header : MinerHeader) : Hash256 :=
  shareHashFromPreheader header.preheader header.prevBlock header.treeRoot

theorem shareHash_ofHnsHeader (header : HnsHeader)
    : (ofHnsHeader header).shareHash = header.shareHash := rfl

end MinerHeader

/-- What does not change with the nonce. -/
structure PreparedMinerHasher where
  preheader : List UInt8
  padding8 : List UInt8
  padding32 : List UInt8

namespace PreparedMinerHasher

def new (header : MinerHeader) : PreparedMinerHasher where
  preheader := header.preheader
  padding8 := deterministicPadding header.prevBlock header.treeRoot 8
  padding32 := deterministicPadding header.prevBlock header.treeRoot 32

/-- The first four bytes are overwritten. -/
def shareHash (hasher : PreparedMinerHasher) (nonce : UInt32) : Hash256 :=
  let preheader := u32Bytes nonce ++ hasher.preheader.drop 4
  let left := P.blake2b512 preheader
  let right := P.sha3_256 (preheader ++ hasher.padding8)
  P.blake2b256 (left.toList ++ hasher.padding32 ++ right.toList)

end PreparedMinerHasher

end Hns
end MeshMine
