import MeshMine.Data.Except
import MeshMine.Hns.Merkle
import MeshMine.Types.Session

/-!
Erasure-coded body packages (`meshmine-body/src/availability.rs`): a body is cut into data shards, parity shards
are added, and every shard goes with a membership proof under the Merkle root of the descriptor.

The Reed-Solomon library is a parameter.
-/

namespace MeshMine.Body

open MeshMine.Types Codec Hns
open Except (rejectIf)

def shardDomain : String := "meshmine/body-shard/v2"

structure ShardProof where
  shardIndex : UInt16
  totalShards : UInt16
  siblings : List Hash256

structure StoredShard where
  index : UInt16
  bytes : List UInt8
  proof : ShardProof

structure EncodedBody where
  descriptor : BodyErasureDescriptorV2
  shards : List StoredShard

inductive AvailabilityError where
  | invalidParameters (data parity : UInt16)
  | packageTooLarge
  | reedSolomon (message : String)
  | insufficientShards
  | invalidShardLength (index : UInt16)
  | invalidShardProof (index : UInt16)
  | shardOutOfRange (index : UInt16)
  | duplicateShard (index : UInt16)
  | invalidReconstructedSize

/-- Stands for `ReedSolomon::new`, `encode` and `reconstruct` with the given numbers of data and parity shards. -/
structure ErasureCode where
  create : Nat → Nat → Except String Unit
  encode : Nat → Nat → List (List UInt8) → Except String (List (List UInt8))
  reconstruct : Nat → Nat → List (Option (List UInt8)) → Except String (List (Option (List UInt8)))

variable [P : Primitives]

/-!
### Membership proofs
-/

def shardLeaf (bodyId : Hash256) (index : UInt16) (shard : List UInt8) : Hash256 :=
  domainHash shardDomain (Encoder.fixed bodyId ++ Encoder.u16 index ++ Encoder.bytes shard)

def createProof (leaves : List Hash256) (index : Nat) : ShardProof where
  shardIndex := UInt16.ofNat index
  totalShards := UInt16.ofNat leaves.length
  siblings := go leaves.length (leaves.map fun leaf => P.blake2b256 (0 :: leaf.toList)) index
where
  -- A level is at least halved per round, so its length bounds the rounds.
  go : Nat → List Hash256 → Nat → List Hash256
    | rounds + 1, first :: second :: rest, position =>
      (first :: second :: rest).getD (position ^^^ 1) merkleSentinel
        :: go rounds (merkleLevel (first :: second :: rest)) (position / 2)
    | _, _, _ => []

def climbProof (root : Hash256) (position : Nat) : List Hash256 → Hash256
  | [] => root
  | sibling :: siblings =>
    climbProof (if position % 2 = 0 then merklePair root sibling else merklePair sibling root) (position / 2)
      siblings

def verifyProof (leaf : Hash256) (proof : ShardProof) (expectedRoot : Hash256) : Bool :=
  climbProof (P.blake2b256 (0 :: leaf.toList)) proof.shardIndex.toNat proof.siblings = expectedRoot

def verifyShard (descriptor : BodyErasureDescriptorV2) (shard : StoredShard) : Bool :=
  let total := descriptor.dataShards.toNat + descriptor.parityShards.toNat
  shard.proof.shardIndex = shard.index && total < 2 ^ 16 && shard.proof.totalShards.toNat = total
    && verifyProof (shardLeaf descriptor.bodyPackageId shard.index shard.bytes) shard.proof
      descriptor.shardMerkleRoot

/-!
### Encoding
-/

omit P in
/-- The bytes of one data shard, padded with zeros; behind the body there are only zeros. -/
def bodyShard (shardSize : Nat) (body : List UInt8) (index : Nat) : List UInt8 :=
  let bytes := (body.drop (index * shardSize)).take shardSize
  bytes ++ List.replicate (shardSize - bytes.length) 0

def encodeBody (code : ErasureCode) (protocolVersion : UInt16) (networkId : UInt8) (bodyPackageId : Hash256)
    (canonicalBodyBytes : List UInt8) (dataShards parityShards : UInt16) (expiryHeight : UInt32)
    : Except AvailabilityError EncodedBody := do
  rejectIf (dataShards = 0 ∨ parityShards = 0) (.invalidParameters dataShards parityShards)
  let total := dataShards.toNat + parityShards.toNat
  rejectIf (2 ^ 16 ≤ total) (.invalidParameters dataShards parityShards)
  rejectIf (2 ^ 32 ≤ canonicalBodyBytes.length) .packageTooLarge
  let shardSize := (max canonicalBodyBytes.length 1 + (dataShards.toNat - 1)) / dataShards.toNat
  rejectIf (2 ^ 32 ≤ shardSize) .packageTooLarge
  (code.create dataShards.toNat parityShards.toNat).mapError .reedSolomon
  let shards ← (code.encode dataShards.toNat parityShards.toNat
    ((List.range total).map (bodyShard shardSize canonicalBodyBytes))).mapError .reedSolomon
  let leaves := shards.mapIdx fun index shard => shardLeaf bodyPackageId (UInt16.ofNat index) shard
  return {
    descriptor := {
      protocolVersion
      networkId
      bodyPackageId
      originalSize := UInt32.ofNat canonicalBodyBytes.length
      dataShards
      parityShards
      shardSize := UInt32.ofNat shardSize
      shardMerkleRoot := merkleRoot leaves
      expiryHeight
      compression := 0 }
    shards := shards.mapIdx fun index bytes => {
      index := UInt16.ofNat index
      bytes
      proof := createProof leaves index } }

/-!
### Reconstruction
-/

def placeShards (descriptor : BodyErasureDescriptorV2) (total : Nat)
    : List StoredShard → List (Option (List UInt8)) → Except AvailabilityError (List (Option (List UInt8)))
  | [], shards => .ok shards
  | shard :: supplied, shards => do
    rejectIf (total ≤ shard.index.toNat) (.shardOutOfRange shard.index)
    rejectIf (shard.bytes.length ≠ descriptor.shardSize.toNat) (.invalidShardLength shard.index)
    rejectIf (shards.getD shard.index.toNat none).isSome (.duplicateShard shard.index)
    rejectIf (!verifyShard descriptor shard) (.invalidShardProof shard.index)
    placeShards descriptor total supplied (shards.set shard.index.toNat (some shard.bytes))

def reconstructBody (code : ErasureCode) (descriptor : BodyErasureDescriptorV2) (supplied : List StoredShard)
    : Except AvailabilityError (List UInt8) := do
  let dataShards := descriptor.dataShards.toNat
  let parityShards := descriptor.parityShards.toNat
  let total := dataShards + parityShards
  rejectIf (2 ^ 16 ≤ total) (.invalidParameters descriptor.dataShards descriptor.parityShards)
  let shards ← placeShards descriptor total supplied (List.replicate total none)
  rejectIf (shards.countP (·.isSome) < dataShards) .insufficientShards
  (code.create dataShards parityShards).mapError .reedSolomon
  let shards ← (code.reconstruct dataShards parityShards shards).mapError .reedSolomon
  let known ← (shards.take dataShards).mapM fun shard => shard.elim (.error .insufficientShards) .ok
  let body := known.flatten
  rejectIf (body.length < descriptor.originalSize.toNat) .invalidReconstructedSize
  return body.take descriptor.originalSize.toNat

end MeshMine.Body
