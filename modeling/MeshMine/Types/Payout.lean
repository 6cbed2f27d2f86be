import MeshMine.Types.Common

/-!
Payout buckets, snapshots and plans (`meshmine-types/src/objects.rs`).
-/

namespace MeshMine.Types

open Codec
open Encoder (fixed u8 u16 u32 u64 hashes)

structure PayoutBucketV2 where
  protocolVersion : UInt16
  networkId : UInt8
  operatorPubkey : PublicKey
  bucketSequence : UInt64
  hnsAddressVersion : UInt8
  hnsAddressHash : List UInt8
  activationHeight : UInt32
  retirementHeight : Option UInt32
  signature : SignatureBytes
deriving DecidableEq

structure PayoutSnapshotV2 where
  protocolVersion : UInt16
  networkId : UInt8
  snapshotSequence : UInt64
  previousSnapshotId : Hash256
  firstSessionCloseId : Hash256
  lastSessionCloseId : Hash256
  closeAnchorHeight : UInt32
  workWindowTarget : U512
  actualWorkInWindow : U512
  workBuckets : List WorkBucketLeaf
  serviceBuckets : List ServiceBucketLeaf
  shareSetRoot : Hash256
  serviceSetRoot : Hash256
  settlementCommitteeId : Hash256
  signerSet : SignatureSet
deriving DecidableEq

structure PayoutPlanV2 where
  protocolVersion : UInt16
  networkId : UInt8
  planSequence : UInt64
  snapshotId : Hash256
  entropyAnchorStart : UInt32
  entropyAnchorCount : UInt16
  entropyHashes : List Hash256
  priorBeacon : Hash256
  planSeed : Hash256
  workTicketCount : UInt16
  serviceTicketCount : UInt16
  workWinners : List Hash256
  serviceWinners : List Hash256
  selectionTranscriptHash : Hash256
  signerSet : SignatureSet

instance : UnsignedObject PayoutBucketV2 where
  domainTag := "meshmine/payout-bucket/v2"
  encodeUnsigned self :=
    u16 self.protocolVersion ++ u8 self.networkId
    ++ fixed self.operatorPubkey
    ++ u64 self.bucketSequence
    ++ u8 self.hnsAddressVersion
    ++ Encoder.bytes self.hnsAddressHash
    ++ u32 self.activationHeight
    ++ Encoder.option u32 self.retirementHeight

instance : UnsignedObject PayoutSnapshotV2 where
  domainTag := "meshmine/payout-snapshot/v2"
  encodeUnsigned self :=
    u16 self.protocolVersion ++ u8 self.networkId
    ++ u64 self.snapshotSequence
    ++ fixed self.previousSnapshotId
    ++ fixed self.firstSessionCloseId
    ++ fixed self.lastSessionCloseId
    ++ u32 self.closeAnchorHeight
    ++ fixed self.workWindowTarget
    ++ fixed self.actualWorkInWindow
    ++ Encoder.list WorkBucketLeaf.encode self.workBuckets
    ++ Encoder.list ServiceBucketLeaf.encode self.serviceBuckets
    ++ fixed self.shareSetRoot
    ++ fixed self.serviceSetRoot
    ++ fixed self.settlementCommitteeId

instance : UnsignedObject PayoutPlanV2 where
  domainTag := "meshmine/payout-plan/v2"
  encodeUnsigned plan :=
    u16 plan.protocolVersion ++ u8 plan.networkId
    ++ u64 plan.planSequence
    ++ fixed plan.snapshotId
    ++ u32 plan.entropyAnchorStart
    ++ u16 plan.entropyAnchorCount
    ++ hashes plan.entropyHashes
    ++ fixed plan.priorBeacon
    ++ fixed plan.planSeed
    ++ u16 plan.workTicketCount
    ++ u16 plan.serviceTicketCount
    ++ hashes plan.workWinners
    ++ hashes plan.serviceWinners
    ++ fixed plan.selectionTranscriptHash

end MeshMine.Types
