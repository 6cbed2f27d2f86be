import MeshMine.Codec.RoundTrip
import MeshMine.Types.Common

/-!
Shares and receipt batches (`meshmine-types/src/objects.rs`).
-/

namespace MeshMine.Types

open Codec
open Encoder (fixed u8 u16 u32 u64 hashes fixed_append_inj u8_append_inj u16_append_inj u32_append_inj u64_append_inj)

structure ShareV2 where
  protocolVersion : UInt16
  networkId : UInt8
  sessionId : Hash256
  assignmentId : Hash256
  bodyPackageId : Hash256
  operatorPubkey : PublicKey
  payoutBucketId : Hash256
  nonce : UInt32
  ntime : UInt64
  extraNonce : ByteVec 24
  rawShareHash : Hash256
  declaredTarget : U256
  gossipParentHashes : List Hash256
  localTelemetryHash : Option Hash256
  operatorSignature : SignatureBytes
deriving Inhabited

structure ReceiptBatchV2 where
  protocolVersion : UInt16
  networkId : UInt8
  sessionId : Hash256
  batchSequence : UInt64
  previousBatchId : Hash256
  acceptedShareIds : List Hash256
  acceptedWorkKeys : List Hash256
  creditedWork : List U512
  shareMerkleRoot : Hash256
  cumulativeShareCount : UInt64
  cumulativeCreditedWork : U512
  signerSet : SignatureSet

instance : UnsignedObject ShareV2 where
  domainTag := "meshmine/share/v2"
  encodeUnsigned self :=
    u16 self.protocolVersion ++ u8 self.networkId
    ++ (fixed self.sessionId
    ++ (fixed self.assignmentId
    ++ (fixed self.bodyPackageId
    ++ (fixed self.operatorPubkey
    ++ (fixed self.payoutBucketId
    ++ (u32 self.nonce
    ++ (u64 self.ntime
    ++ (fixed self.extraNonce
    ++ (fixed self.rawShareHash
    ++ (fixed self.declaredTarget
    ++ (hashes self.gossipParentHashes
    ++ Encoder.option fixed self.localTelemetryHash)))))))))))

instance : CanonicalEncode ShareV2 where
  encode self := unsignedBytes self ++ Encoder.bytes self.operatorSignature

instance : UnsignedObject ReceiptBatchV2 where
  domainTag := "meshmine/receipt-batch/v2"
  encodeUnsigned self :=
    u16 self.protocolVersion ++ u8 self.networkId
    ++ (fixed self.sessionId
    ++ (u64 self.batchSequence
    ++ (fixed self.previousBatchId
    ++ (hashes self.acceptedShareIds
    ++ (hashes self.acceptedWorkKeys
    ++ (hashes self.creditedWork
    ++ (fixed self.shareMerkleRoot
    ++ (u64 self.cumulativeShareCount
    ++ fixed self.cumulativeCreditedWork))))))))

namespace ShareV2

def maxDagParents : Nat := 4

def validateParents (share : ShareV2) : Except ObjectError Unit := do
  if maxDagParents < share.gossipParentHashes.length then
    throw (.codec (.lengthLimit share.gossipParentHashes.length maxDagParents))
  if ¬ share.gossipParentHashes.Nodup then
    throw .unsortedDagParents

def workKey [Primitives] (share : ShareV2) : Hash256 :=
  domainHash "meshmine/share-work-key/v2"
    (fixed share.sessionId ++ fixed share.bodyPackageId ++ u64 share.ntime
      ++ fixed share.extraNonce ++ u32 share.nonce ++ fixed share.rawShareHash)

theorem workKey_eq_of_bytes [Primitives] {a b : ShareV2} (h : toCanonicalBytes a = toCanonicalBytes b)
    : a.workKey = b.workKey := by
  simp only [toCanonicalBytes, CanonicalEncode.encode, unsignedBytes, UnsignedObject.encodeUnsigned,
    List.append_assoc, u8_append_inj, u16_append_inj, u32_append_inj,
    u64_append_inj, fixed_append_inj] at h
  obtain ⟨_, _, hsession, _, hbody, _, _, hnonce, hntime, hextra, hraw, _⟩ := h
  unfold workKey
  rw [hsession, hbody, hnonce, hntime, hextra, hraw]

/-- A vector in memory has a length that fits a machine word. -/
def Representable (share : ShareV2) : Prop :=
  share.gossipParentHashes.length < 2 ^ 64

theorem toCanonicalBytes_inj {a b : ShareV2} (ha : a.Representable) (hb : b.Representable)
    (h : toCanonicalBytes a = toCanonicalBytes b)
    : a = b := by
  unfold Representable at ha hb
  cases a
  cases b
  simp only [toCanonicalBytes, CanonicalEncode.encode, unsignedBytes, UnsignedObject.encodeUnsigned,
    List.append_assoc, u8_append_inj, u16_append_inj, u32_append_inj,
    u64_append_inj, fixed_append_inj] at h
  obtain ⟨_, _, _, _, _, _, _, _, _, _, _, _, h⟩ := h
  obtain ⟨hparents, h⟩ := Encoder.hashes_append_inj ha hb h
  have hread : ∀ value : Option Hash256,
      Decoder.Reads .default (Decoder.option (Decoder.array 32)) (Encoder.option fixed value) value :=
    fun value => Decoder.reads_option fun hash _ => Decoder.reads_array hash
  obtain ⟨htelemetry, h⟩ := (Encoder.append_inj_of_reads hread).mp h
  rw [Encoder.bytes_inj] at h
  simp_all

end ShareV2

namespace ReceiptBatchV2

/-- Entries stand in strictly ascending order of work key and share. -/
def unsorted : List Hash256 → List Hash256 → Bool
  | firstKey :: secondKey :: workKeys, firstId :: secondId :: shareIds =>
    decide (secondKey < firstKey ∨ secondKey = firstKey ∧ secondId ≤ firstId)
      || unsorted (secondKey :: workKeys) (secondId :: shareIds)
  | _, _ => false

def validateEntries (batch : ReceiptBatchV2) : Except ObjectError Unit := do
  let length := batch.acceptedShareIds.length
  if batch.acceptedWorkKeys.length ≠ length ∨ batch.creditedWork.length ≠ length then
    throw .receiptLengthMismatch
  if unsorted batch.acceptedWorkKeys batch.acceptedShareIds then
    throw .unsortedReceiptEntries
  batch.signerSet.validateOrder

theorem validateEntries_eq_ok {batch : ReceiptBatchV2}
    : batch.validateEntries = .ok ()
      ↔ (batch.acceptedWorkKeys.length = batch.acceptedShareIds.length
          ∧ batch.creditedWork.length = batch.acceptedShareIds.length)
        ∧ unsorted batch.acceptedWorkKeys batch.acceptedShareIds = false
        ∧ batch.signerSet.validateOrder = .ok () := by
  unfold validateEntries
  dsimp only
  split
  next h =>
    constructor
    . intro h'
      contradiction
    . intro h'
      exact absurd h (by simp [h'.1])
  next h =>
    push Not at h
    cases hsorted : unsorted batch.acceptedWorkKeys batch.acceptedShareIds with
    | true => simp [bind, Except.bind]
    | false => simp [h]

end ReceiptBatchV2

end MeshMine.Types
