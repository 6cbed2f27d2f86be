import MeshMine.Hns.Header

/-!
Headers as bytes. Both kinds of header round-trip, and the prepared hasher of a mining loop computes the share hash of
the header with each nonce.
-/

namespace MeshMine.Hns

@[simp]
theorem length_deterministicPadding (prevBlock treeRoot : Hash256) (size : Nat)
    : (deterministicPadding prevBlock treeRoot size).length = size := by
  simp [deterministicPadding]

@[simp]
theorem length_u32Bytes (value : UInt32) : (u32Bytes value).length = 4 :=
  Bytes.length_toLE _ _

@[simp]
theorem length_u64Bytes (value : UInt64) : (u64Bytes value).length = 8 :=
  Bytes.length_toLE _ _

@[simp]
theorem ofLE_u32Bytes (value : UInt32) : UInt32.ofNat (Bytes.ofLE (u32Bytes value)) = value := by
  simp [u32Bytes, Bytes.ofLE_toLE]

@[simp]
theorem ofLE_u64Bytes (value : UInt64) : UInt64.ofNat (Bytes.ofLE (u64Bytes value)) = value := by
  simp [u64Bytes, Bytes.ofLE_toLE]

theorem MinerHeader.fromBytes_toBytes (header : MinerHeader) : fromBytes header.toBytes = .ok header := by
  simp [fromBytes, minerHeaderSize, toBytes, readArray, List.drop_append, List.drop_of_length_le,
    List.take_of_length_le, ByteVec.length_toList]

theorem HnsHeader.fromBytes_toBytes (header : HnsHeader) : fromBytes header.toBytes = .ok header := by
  simp [fromBytes, headerSize, toBytes, readArray, List.drop_append, List.drop_of_length_le,
    List.take_of_length_le, ByteVec.length_toList]

theorem HnsHeader.toBytes_of_fromBytes {data : List UInt8} {header : HnsHeader} (h : fromBytes data = .ok header)
    : header.toBytes = data := by
  unfold fromBytes at h
  split at h
  next => contradiction
  next hsize =>
    have hlength : data.length = 236 := not_not.mp hsize
    injection h with h
    subst h
    unfold toBytes
    simp only [List.append_assoc]
    rw [u32Bytes_ofLE (ByteVec.length_toList _), u64Bytes_ofLE (ByteVec.length_toList _),
      u32Bytes_ofLE (ByteVec.length_toList _), u32Bytes_ofLE (ByteVec.length_toList _)]
    have hlast : (readArray data 204 32 (by omega)).toList = data.drop 204 :=
      readArray_last data (by omega)
    rw [hlast]
    simp only [readArray_append_drop, Nat.reduceAdd, List.drop_zero]

variable [P : Primitives]

theorem PreparedMinerHasher.shareHash_new (header : MinerHeader) (nonce : UInt32)
    : (new header).shareHash nonce = { header with nonce }.shareHash := by
  unfold shareHash MinerHeader.shareHash shareHashFromPreheader
  simp [new, MinerHeader.preheader, Hns.preheader]
  rfl

theorem shareHash_prepared (header : MinerHeader) (nonce : UInt32)
    : (PreparedMinerHasher.new header).shareHash nonce = { header with nonce }.shareHash
      ∧ (∀ full : HnsHeader, MinerHeader.ofHnsHeader full = { header with nonce }
        → full.shareHash = { header with nonce }.shareHash)
      ∧ MinerHeader.fromBytes header.toBytes = .ok header
      ∧ (∀ data, MinerHeader.fromBytes data = .ok header → header.toBytes = data)
      ∧ ∀ full : HnsHeader, HnsHeader.fromBytes full.toBytes = .ok full
        ∧ ∀ data, HnsHeader.fromBytes data = .ok full → full.toBytes = data := by
  refine ⟨PreparedMinerHasher.shareHash_new header nonce, ?_, header.fromBytes_toBytes,
    fun _ => MinerHeader.toBytes_of_fromBytes, fun full => ⟨full.fromBytes_toBytes, fun _ =>
      HnsHeader.toBytes_of_fromBytes⟩⟩
  intro full h
  rw [← h, MinerHeader.shareHash_ofHnsHeader]

end MeshMine.Hns
