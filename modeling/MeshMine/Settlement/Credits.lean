import MeshMine.Storage.Journal
import MeshMine.Types.Payout

/-!
Session credits, their sums and their aggregation into bucket leaves
(`meshmine-settlement/src/lib.rs`). A `BigUint` is a `Nat`, a `BTreeMap` an association list in
ascending key order.
-/

namespace MeshMine.Settlement

open MeshMine.Types

inductive SettlementError where
  | zeroSnapshotThreshold
  | zeroAccumulatorLimit
  | retainedSessionLimit
  | retainedBucketCreditLimit
  | retainedPayloadByteLimit
  | invalidAccumulatorCheckpoint
  | emptySessionWork
  | conflictingBucketMetadata
  | emptyTicketClass
  | zeroTicketWeight
  | entropyCountOverflow
  | entropyNotDelayed
  | invalidServiceFraction
  | missingTickets
  | ticketCountMismatch
  | planSnapshotMismatch
  | planVerificationMismatch
  | arithmeticOverflow
  | disconnectMismatch
  | canonicalHeightConflict
  | noncanonicalParentCertificate
  | noncanonicalSessionParent
  | uneconomicTicket
  | coinbaseOutputPolicy
  | durable (error : Storage.DurableInvariantError)
deriving DecidableEq

structure BucketCredit where
  bucket : PayoutBucketV2
  credit : U512
deriving DecidableEq

structure ClosedSessionCredits where
  sessionCloseId : Hash256
  closeAnchorHeight : UInt32
  work : List BucketCredit
  service : List BucketCredit
deriving DecidableEq

def sumCredits (credits : List BucketCredit) : Nat :=
  (credits.map fun credit => credit.credit.toNat).sum

def ClosedSessionCredits.totalWork (session : ClosedSessionCredits) : Nat :=
  sumCredits session.work

def checkedAdd (a b : Nat) : Except SettlementError Nat :=
  if a + b < 2 ^ 64 then .ok (a + b) else .error .arithmeticOverflow

def checkedMul (a b : Nat) : Except SettlementError Nat :=
  if a * b < 2 ^ 64 then .ok (a * b) else .error .arithmeticOverflow

def bigToU512 (value : Nat) : Except SettlementError U512 :=
  if 512 < Bytes.bitLength value then
    .error .arithmeticOverflow
  else
    .ok ⟨Bytes.toBE 64 value, Bytes.length_toBE 64 value⟩

def sessionBucketCreditCount (session : ClosedSessionCredits) : Except SettlementError Nat :=
  checkedAdd session.work.length session.service.length

section

-- `size_of::<BucketCredit>()`, fixed by the compiler.
variable (sizeOfBucketCredit : Nat)

/-- Vectors have been shrunk to fit before this is called, so a capacity is a length. -/
def sessionPayloadBytes (session : ClosedSessionCredits) : Except SettlementError Nat := do
  let credits ← checkedAdd session.work.length session.service.length
  let total ← checkedMul credits sizeOfBucketCredit
  go total (session.work ++ session.service)
where
  go (total : Nat) : List BucketCredit → Except SettlementError Nat
    | [] => return total
    | credit :: credits => do
      let bytes ← checkedAdd total credit.bucket.hnsAddressHash.length
      let bytes ← checkedAdd bytes credit.bucket.signature.length
      go bytes credits

end

variable [P : Primitives]

abbrev BucketTotals := List (Hash256 × PayoutBucketV2 × Nat)

def mergeCredit (credit : BucketCredit) : BucketTotals → Except SettlementError BucketTotals
  | [] => .ok [(objectId credit.bucket, credit.bucket, credit.credit.toNat)]
  | (id, bucket, total) :: buckets =>
    if objectId credit.bucket < id then
      .ok ((objectId credit.bucket, credit.bucket, credit.credit.toNat) :: (id, bucket, total) :: buckets)
    else if objectId credit.bucket = id then
      if unsignedBytes bucket ≠ unsignedBytes credit.bucket then
        .error .conflictingBucketMetadata
      else
        .ok ((id, bucket, total + credit.credit.toNat) :: buckets)
    else do
      let buckets ← mergeCredit credit buckets
      return (id, bucket, total) :: buckets

def aggregateWork (sessions : List ClosedSessionCredits)
    : Except SettlementError (List WorkBucketLeaf) := do
  let buckets ← (sessions.flatMap (·.work)).foldlM (fun buckets credit => mergeCredit credit buckets) []
  buckets.mapM fun (bucketId, bucket, credit) => do
    let creditedWork ← bigToU512 credit
    return {
      bucketId
      operatorPubkey := bucket.operatorPubkey
      hnsAddressVersion := bucket.hnsAddressVersion
      hnsAddressHash := bucket.hnsAddressHash
      creditedWork
    }

def aggregateService (sessions : List ClosedSessionCredits)
    : Except SettlementError (List ServiceBucketLeaf) := do
  let buckets ← (sessions.flatMap (·.service)).foldlM (fun buckets credit => mergeCredit credit buckets) []
  buckets.mapM fun (bucketId, bucket, credit) => do
    let certifiedServiceCredit ← bigToU512 credit
    return {
      bucketId
      operatorPubkey := bucket.operatorPubkey
      hnsAddressVersion := bucket.hnsAddressVersion
      hnsAddressHash := bucket.hnsAddressHash
      certifiedServiceCredit
    }

end MeshMine.Settlement
