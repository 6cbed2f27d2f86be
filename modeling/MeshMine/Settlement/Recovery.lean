import MeshMine.Crypto.Signature
import MeshMine.Settlement.Snapshot
import MeshMine.Types.PayoutCodec

/-!
Payout-recovery checkpoints (`meshmine-settlement/src/recovery.rs`): the sealed state, its encoding, the
committee that certifies it, and the durable head that is advanced under a condition on the live source fence.
-/

namespace MeshMine.Settlement

open MeshMine.Types Codec Storage
open Except (rejectIf)
open Encoder (fixed u8 u16 u32 u64)
open Decoder (array reads_array)
open StoreM (adapt)

def payoutRecoveryCheckpointV1 : UInt16 := 1
def payoutRecoveryHeadNamespace : String := "payout-recovery-checkpoint-head/v1"
def payoutRecoverySourceFenceNamespace : String := "payout-recovery-source-fence/v1"
def maxExpectedPayoutPlans : Nat := 100000
def maxCanonicalPlanBindings : Nat := 100000
def maxPayoutRecoveryCommitteeMembers : Nat := 256
def maxPayoutCheckpointBytes : Nat := 64 * 1024 * 1024
def payoutRecoveryHeadMagic : ByteVec 4 := ⟨[77, 77, 67, 72], rfl⟩
def payoutRecoverySourceFenceMagic : ByteVec 4 := ⟨[77, 77, 83, 70], rfl⟩
def payoutRecoveryWrapperDomain : String := "meshmine/payout-recovery-wrapper/v1"
def defaultMaxRetainedBucketCredits : Nat := 1000000
def defaultMaxRetainedSessions : Nat := 100000

inductive PayoutRecoveryError where
  | invalidCheckpoint
  | sequence
  | invalidHead
  | missingCheckpoint
  | nonCanonicalCheckpoint
  | checkpointTooLarge
  | invalidCommitteePolicy
  | invalidCertificate
  | invalidSourceFence
  | sourceFenceMismatch
  | sourceFenceRegression
  | policyChange
  | concurrentUpdate
  | durable (error : DurableInvariantError)

instance : FromStorageError PayoutRecoveryError where
  ofStorage error := .durable (.storage error)

structure PayoutRecoverySourceFenceV1 where
  dispositionCount : UInt64
  dispositionCommitment : Hash256
  snapshotCount : UInt64
  snapshotHeadId : Hash256
  planCount : UInt64
  planHeadId : Hash256
  canonicalEventCount : UInt64
  canonicalEventCommitment : Hash256
deriving DecidableEq

structure ExpectedPayoutPlanV1 where
  planSequence : UInt64
  snapshotId : Hash256
deriving DecidableEq

structure CanonicalPlanBindingV1 where
  planSequence : UInt64
  payoutPlanId : Hash256
  payoutSnapshotId : Hash256
deriving DecidableEq

structure PayoutRecoveryCommitteePolicyV1 where
  networkId : UInt8
  settlementCommitteeId : Hash256
  payoutPolicyFingerprint : Hash256
  threshold : UInt16
  members : SortedList PublicKey

inductive PayoutRecoveryPersistOutcome where
  | committed
  | alreadyCurrent

structure PayoutRecoveryCheckpointV1 where
  coreProtocolVersion : UInt16
  checkpointVersion : UInt16
  networkId : UInt8
  checkpointSequence : UInt64
  previousCheckpointId : Hash256
  payoutPolicyFingerprint : Hash256
  sourceFence : PayoutRecoverySourceFenceV1
  accumulator : SnapshotAccumulatorCheckpoint
  expectedPlans : List ExpectedPayoutPlanV1
  canonicalPlanBindings : List CanonicalPlanBindingV1
  signerSet : SignatureSet
deriving DecidableEq

/-!
### The source fence
-/

namespace PayoutRecoverySourceFenceV1

def encode (fence : PayoutRecoverySourceFenceV1) : List UInt8 :=
  u64 fence.dispositionCount ++ fixed fence.dispositionCommitment
    ++ u64 fence.snapshotCount ++ fixed fence.snapshotHeadId
    ++ u64 fence.planCount ++ fixed fence.planHeadId
    ++ u64 fence.canonicalEventCount ++ fixed fence.canonicalEventCommitment

def decode : Decoder PayoutRecoverySourceFenceV1 := do
  let dispositionCount ← Decoder.u64
  let dispositionCommitment ← array 32
  let snapshotCount ← Decoder.u64
  let snapshotHeadId ← array 32
  let planCount ← Decoder.u64
  let planHeadId ← array 32
  let canonicalEventCount ← Decoder.u64
  let canonicalEventCommitment ← array 32
  return {
    dispositionCount, dispositionCommitment, snapshotCount, snapshotHeadId, planCount, planHeadId,
    canonicalEventCount, canonicalEventCommitment }

def zeroCountHasNonzeroHead (count : UInt64) (head : Hash256) : Bool :=
  (count = 0 && head ≠ .zero 32) || (count ≠ 0 && head = .zero 32)

def validateCoherence (fence : PayoutRecoverySourceFenceV1) : Except PayoutRecoveryError Unit :=
  rejectIf (zeroCountHasNonzeroHead fence.dispositionCount fence.dispositionCommitment
      ∨ zeroCountHasNonzeroHead fence.snapshotCount fence.snapshotHeadId
      ∨ zeroCountHasNonzeroHead fence.planCount fence.planHeadId
      ∨ zeroCountHasNonzeroHead fence.canonicalEventCount fence.canonicalEventCommitment
      ∨ fence.snapshotCount < fence.planCount
      ∨ fence.dispositionCount < fence.snapshotCount)
    .invalidCheckpoint

def componentIsMonotonic (previousCount : UInt64) (previousHead : Hash256) (nextCount : UInt64)
    (nextHead : Hash256) : Bool :=
  (previousCount < nextCount && nextHead ≠ previousHead)
    || (nextCount = previousCount && nextHead = previousHead)

def validateMonotonicAfter (fence previous : PayoutRecoverySourceFenceV1)
    : Except PayoutRecoveryError Unit :=
  rejectIf (!componentIsMonotonic previous.dispositionCount previous.dispositionCommitment
        fence.dispositionCount fence.dispositionCommitment
      ∨ !componentIsMonotonic previous.snapshotCount previous.snapshotHeadId
        fence.snapshotCount fence.snapshotHeadId
      ∨ !componentIsMonotonic previous.planCount previous.planHeadId fence.planCount fence.planHeadId
      ∨ !componentIsMonotonic previous.canonicalEventCount previous.canonicalEventCommitment
        fence.canonicalEventCount fence.canonicalEventCommitment)
    .sourceFenceRegression

end PayoutRecoverySourceFenceV1

variable (networkId : UInt8)

/-- As `network_id.to_string()`. -/
def networkKey : List UInt8 :=
  asciiBytes (toString networkId.toNat)

def checkpointHeadRow : Row :=
  ⟨payoutRecoveryHeadNamespace, networkKey networkId⟩

def sourceFenceRow : Row :=
  ⟨payoutRecoverySourceFenceNamespace, networkKey networkId⟩

def encodeSourceFence (fence : PayoutRecoverySourceFenceV1) : List UInt8 :=
  fixed payoutRecoverySourceFenceMagic ++ u16 payoutRecoveryCheckpointV1
    ++ u8 networkId ++ fence.encode

def decodeSourceFence (bytes : List UInt8) : Except PayoutRecoveryError PayoutRecoverySourceFenceV1 := do
  let (magic, version, network, fence) ← (Decoder.fromCanonicalBytes decoder bytes ⟨192, 0⟩).mapError
    fun _ => .invalidSourceFence
  rejectIf (magic ≠ payoutRecoverySourceFenceMagic ∨ version ≠ payoutRecoveryCheckpointV1
    ∨ network ≠ networkId) .invalidSourceFence
  fence.validateCoherence.mapError fun _ => .invalidSourceFence
  return fence
where
  decoder : Decoder (ByteVec 4 × UInt16 × UInt8 × PayoutRecoverySourceFenceV1) := do
    let magic ← array 4
    let version ← Decoder.u16
    let network ← Decoder.u8
    let fence ← PayoutRecoverySourceFenceV1.decode
    return (magic, version, network, fence)

/-!
### The checkpoint
-/

def ExpectedPayoutPlanV1.encode (plan : ExpectedPayoutPlanV1) : List UInt8 :=
  u64 plan.planSequence ++ fixed plan.snapshotId

def ExpectedPayoutPlanV1.decode : Decoder ExpectedPayoutPlanV1 := do
  let planSequence ← Decoder.u64
  let snapshotId ← array 32
  return { planSequence, snapshotId }

def CanonicalPlanBindingV1.encode (binding : CanonicalPlanBindingV1) : List UInt8 :=
  u64 binding.planSequence ++ fixed binding.payoutPlanId
    ++ fixed binding.payoutSnapshotId

def CanonicalPlanBindingV1.decode : Decoder CanonicalPlanBindingV1 := do
  let planSequence ← Decoder.u64
  let payoutPlanId ← array 32
  let payoutSnapshotId ← array 32
  return { planSequence, payoutPlanId, payoutSnapshotId }

def encodeBucketCredit (credit : BucketCredit) : List UInt8 :=
  toCanonicalBytes credit.bucket ++ fixed credit.credit

def decodeBucketCredit : Decoder BucketCredit := do
  let bucket ← CanonicalDecode.decode
  let credit ← array 64
  return { bucket, credit }

def encodeClosedSession (session : ClosedSessionCredits) : List UInt8 :=
  fixed session.sessionCloseId ++ u32 session.closeAnchorHeight
    ++ Encoder.list encodeBucketCredit session.work ++ Encoder.list encodeBucketCredit session.service

def decodeClosedSession : Decoder ClosedSessionCredits := do
  let sessionCloseId ← array 32
  let closeAnchorHeight ← Decoder.u32
  let work ← Decoder.list defaultMaxRetainedBucketCredits decodeBucketCredit
  let service ← Decoder.list defaultMaxRetainedBucketCredits decodeBucketCredit
  return { sessionCloseId, closeAnchorHeight, work, service }

def SnapshotAccumulatorCheckpoint.encode (checkpoint : SnapshotAccumulatorCheckpoint) : List UInt8 :=
  u8 checkpoint.networkId ++ u64 checkpoint.nextSequence
    ++ fixed checkpoint.previousSnapshotId ++ fixed checkpoint.snapshotStepWork
    ++ fixed checkpoint.pplnsWindowWork ++ fixed checkpoint.settlementCommitteeId
    ++ Encoder.list encodeClosedSession checkpoint.closedSessions
    ++ fixed checkpoint.newWorkSinceSnapshot

def SnapshotAccumulatorCheckpoint.decode : Decoder SnapshotAccumulatorCheckpoint := do
  let networkId ← Decoder.u8
  let nextSequence ← Decoder.u64
  let previousSnapshotId ← array 32
  let snapshotStepWork ← array 64
  let pplnsWindowWork ← array 64
  let settlementCommitteeId ← array 32
  let closedSessions ← Decoder.list defaultMaxRetainedSessions decodeClosedSession
  let newWorkSinceSnapshot ← array 64
  return {
    networkId, nextSequence, previousSnapshotId, snapshotStepWork, pplnsWindowWork,
    settlementCommitteeId, closedSessions, newWorkSinceSnapshot }

instance : UnsignedObject PayoutRecoveryCheckpointV1 where
  domainTag := "meshmine/payout-recovery-checkpoint/v1"
  encodeUnsigned self :=
    u16 self.coreProtocolVersion ++ u16 self.checkpointVersion
    ++ u8 self.networkId ++ u64 self.checkpointSequence
    ++ fixed self.previousCheckpointId
    ++ fixed self.payoutPolicyFingerprint ++ self.sourceFence.encode
    ++ self.accumulator.encode
    ++ Encoder.list ExpectedPayoutPlanV1.encode self.expectedPlans
    ++ Encoder.list CanonicalPlanBindingV1.encode self.canonicalPlanBindings

instance : CanonicalEncode PayoutRecoveryCheckpointV1 where
  encode self := unsignedBytes self ++ self.signerSet.encode

instance : CanonicalDecode PayoutRecoveryCheckpointV1 where
  decode := do
    let coreProtocolVersion ← Decoder.u16
    let checkpointVersion ← Decoder.u16
    let networkId ← Decoder.u8
    let checkpointSequence ← Decoder.u64
    let previousCheckpointId ← array 32
    let payoutPolicyFingerprint ← array 32
    let sourceFence ← PayoutRecoverySourceFenceV1.decode
    let accumulator ← SnapshotAccumulatorCheckpoint.decode
    let expectedPlans ← Decoder.list maxExpectedPayoutPlans ExpectedPayoutPlanV1.decode
    let canonicalPlanBindings ← Decoder.list maxCanonicalPlanBindings CanonicalPlanBindingV1.decode
    let signerSet ← SignatureSet.decode
    return {
      coreProtocolVersion, checkpointVersion, networkId, checkpointSequence, previousCheckpointId,
      payoutPolicyFingerprint, sourceFence, accumulator, expectedPlans, canonicalPlanBindings,
      signerSet }

/-- As `windows(2).any` for two plan sequences that do not ascend. -/
def sequencesDoNotAscend : List UInt64 → Bool
  | first :: second :: rest => decide (second ≤ first) || sequencesDoNotAscend (second :: rest)
  | _ => false

def checkpointLimits : DecodeLimits where
  maxObjectBytes := maxPayoutCheckpointBytes
  maxVectorItems := defaultMaxRetainedBucketCredits

variable (sizeOfBucketCredit : Nat)

namespace PayoutRecoveryCheckpointV1

def validateStructure (checkpoint : PayoutRecoveryCheckpointV1) : Except PayoutRecoveryError Unit := do
  let fence := checkpoint.sourceFence
  let accumulator := checkpoint.accumulator
  let expected := checkpoint.expectedPlans
  let bindings := checkpoint.canonicalPlanBindings
  fence.validateCoherence
  rejectIf (fence.snapshotCount < fence.planCount) .invalidCheckpoint
  let expectedQueueLength := (fence.snapshotCount - fence.planCount).toNat
  let expectedNextSnapshot ← (fence.snapshotCount.checkedAdd 1).elim (.error .invalidCheckpoint) .ok
  let expectedPlanStart ← (fence.planCount.checkedAdd 1).elim (.error .invalidCheckpoint) .ok
  let expectedSequencesAreContiguous := expected.zipIdx.all fun (entry, offset) =>
    expectedPlanStart.checkedAddLength offset = some entry.planSequence
  let canonicalSequences := SortedList.ofList (bindings.map (·.planSequence))
  let canonicalPlanIds := SortedList.ofList (bindings.map (·.payoutPlanId))
  let canonicalSnapshotIds := SortedList.ofList (bindings.map (·.payoutSnapshotId))
  let expectedSnapshotIds := SortedList.ofList (expected.map (·.snapshotId))
  let restoredAccumulator ← (SnapshotAccumulator.fromCheckpoint sizeOfBucketCredit accumulator
    SnapshotAccumulatorLimits.default).mapError fun _ => .invalidCheckpoint
  let canonicalAccumulator ← restoredAccumulator.checkpoint.mapError fun _ => .invalidCheckpoint
  rejectIf (checkpoint.coreProtocolVersion ≠ coreV2
      ∨ checkpoint.checkpointVersion ≠ payoutRecoveryCheckpointV1
      ∨ checkpoint.checkpointSequence = 0
      ∨ checkpoint.payoutPolicyFingerprint = .zero 32
      ∨ accumulator.networkId ≠ checkpoint.networkId
      ∨ accumulator.nextSequence ≠ expectedNextSnapshot
      ∨ accumulator.previousSnapshotId ≠ fence.snapshotHeadId
      ∨ accumulator.snapshotStepWork = .zero 64
      ∨ accumulator.pplnsWindowWork = .zero 64
      ∨ defaultMaxRetainedSessions < accumulator.closedSessions.length
      ∨ maxExpectedPayoutPlans < expected.length
      ∨ expected.length ≠ expectedQueueLength
      ∨ maxCanonicalPlanBindings < bindings.length
      ∨ canonicalAccumulator ≠ accumulator
      ∨ !expectedSequencesAreContiguous
      ∨ sequencesDoNotAscend (expected.map (·.planSequence))
      ∨ (expected.any fun entry => entry.planSequence = 0 || entry.snapshotId = .zero 32)
      ∨ sequencesDoNotAscend (bindings.map (·.planSequence))
      ∨ (bindings.any fun entry => entry.planSequence = 0 || fence.planCount < entry.planSequence
        || entry.payoutPlanId = .zero 32 || entry.payoutSnapshotId = .zero 32)
      ∨ canonicalSequences.toList.length ≠ bindings.length
      ∨ canonicalPlanIds.toList.length ≠ bindings.length
      ∨ canonicalSnapshotIds.toList.length ≠ bindings.length
      ∨ expectedSnapshotIds.toList.length ≠ expected.length
      ∨ (canonicalSnapshotIds.toList.any fun snapshotId => snapshotId ∈ expectedSnapshotIds)
      ∨ (fence.planCount = 0 ∧ !bindings.isEmpty)
      ∨ (fence.planCount ≠ 0 ∧ bindings.getLast?.all fun binding =>
        binding.planSequence ≠ fence.planCount || binding.payoutPlanId ≠ fence.planHeadId)
      ∨ (fence.snapshotCount ≠ fence.planCount ∧ expected.getLast?.all fun plan =>
        plan.snapshotId ≠ fence.snapshotHeadId)
      ∨ (fence.snapshotCount = fence.planCount ∧ !expected.isEmpty)
      ∨ checkpoint.signerSet.validateOrder ≠ .ok ())
    .invalidCheckpoint

def canonicalPayload (checkpoint : PayoutRecoveryCheckpointV1)
    : Except PayoutRecoveryError (List UInt8) := do
  checkpoint.validateStructure sizeOfBucketCredit
  let payload := toCanonicalBytes checkpoint
  rejectIf (maxPayoutCheckpointBytes < payload.length) .checkpointTooLarge
  let decoded ← (fromCanonicalBytes payload checkpointLimits).mapError fun _ => .nonCanonicalCheckpoint
  rejectIf (decoded ≠ checkpoint ∨ toCanonicalBytes decoded ≠ payload) .nonCanonicalCheckpoint
  return payload

end PayoutRecoveryCheckpointV1

def PayoutRecoveryCommitteePolicyV1.validate (policy : PayoutRecoveryCommitteePolicyV1)
    : Except PayoutRecoveryError Unit :=
  rejectIf (policy.settlementCommitteeId = .zero 32
      ∨ policy.payoutPolicyFingerprint = .zero 32
      ∨ policy.members.toList.isEmpty
      ∨ maxPayoutRecoveryCommitteeMembers < policy.members.toList.length
      ∨ policy.threshold = 0
      ∨ policy.members.toList.length < policy.threshold.toNat)
    .invalidCommitteePolicy

def validateCheckpointTransition (previous next : PayoutRecoveryCheckpointV1)
    : Except PayoutRecoveryError Unit := do
  rejectIf (next.payoutPolicyFingerprint ≠ previous.payoutPolicyFingerprint
      ∨ next.accumulator.snapshotStepWork ≠ previous.accumulator.snapshotStepWork
      ∨ next.accumulator.pplnsWindowWork ≠ previous.accumulator.pplnsWindowWork
      ∨ next.accumulator.settlementCommitteeId ≠ previous.accumulator.settlementCommitteeId)
    .policyChange
  next.sourceFence.validateMonotonicAfter previous.sourceFence
  rejectIf (next.sourceFence = previous.sourceFence
      ∧ (next.accumulator ≠ previous.accumulator
        ∨ next.expectedPlans ≠ previous.expectedPlans
        ∨ next.canonicalPlanBindings ≠ previous.canonicalPlanBindings))
    .sourceFenceRegression

/-!
### The durable head
-/

structure PayoutRecoveryHeadV1 where
  networkId : UInt8
  checkpointSequence : UInt64
  checkpointId : Hash256
  checkpointWrapperId : Hash256
deriving DecidableEq

def encodeHead (head : PayoutRecoveryHeadV1) : List UInt8 :=
  fixed payoutRecoveryHeadMagic ++ u16 payoutRecoveryCheckpointV1
    ++ u8 head.networkId ++ u64 head.checkpointSequence
    ++ fixed head.checkpointId ++ fixed head.checkpointWrapperId

def decodeHead (bytes : List UInt8) : Except PayoutRecoveryError PayoutRecoveryHeadV1 := do
  let (magic, version, head) ← (Decoder.fromCanonicalBytes decoder bytes ⟨96, 0⟩).mapError
    fun _ => .invalidHead
  rejectIf (magic ≠ payoutRecoveryHeadMagic ∨ version ≠ payoutRecoveryCheckpointV1) .invalidHead
  rejectIf (head.networkId ≠ networkId ∨ head.checkpointSequence = 0 ∨ head.checkpointId = .zero 32
    ∨ head.checkpointWrapperId = .zero 32) .invalidHead
  return head
where
  decoder : Decoder (ByteVec 4 × UInt16 × PayoutRecoveryHeadV1) := do
    let magic ← array 4
    let version ← Decoder.u16
    let networkId ← Decoder.u8
    let checkpointSequence ← Decoder.u64
    let checkpointId ← array 32
    let checkpointWrapperId ← array 32
    return (magic, version, { networkId, checkpointSequence, checkpointId, checkpointWrapperId })

theorem decodeHead_encodeHead {networkId : UInt8} {head current : PayoutRecoveryHeadV1}
    (h : decodeHead networkId (encodeHead head) = .ok current)
    : current = head := by
  have hread : Decoder.fromCanonicalBytes decodeHead.decoder (encodeHead head) ⟨96, 0⟩
      = .ok (payoutRecoveryHeadMagic, payoutRecoveryCheckpointV1, head) := by
    apply Decoder.Reads.fromCanonicalBytes
    . unfold encodeHead
      simp only [List.append_assoc]
      apply (reads_array _).bind
      apply (Decoder.reads_u16 _).bind
      apply (Decoder.reads_u8 _).bind
      apply (Decoder.reads_u64 _).bind
      apply (reads_array _).bind
      apply Decoder.Reads.map (reads_array _)
    . simp [encodeHead]
  unfold decodeHead at h
  rw [hread] at h
  simp only [Except.mapError, Except.ok_bind, Except.bind_unit_eq_ok] at h
  obtain ⟨_, _, h⟩ := h
  injection h with h
  exact h.symm

def sourceFenceMatches (expected : PayoutRecoverySourceFenceV1) : StoreM PayoutRecoveryError Bool := do
  match ← StoreM.get (sourceFenceRow networkId) with
  | none => return false
  | some bytes =>
    let observed ← StoreM.ofExcept (decodeSourceFence networkId bytes)
    return observed = expected && bytes = encodeSourceFence networkId expected

variable [P : Primitives]

def PayoutRecoveryCommitteePolicyV1.verifyCheckpoint (policy : PayoutRecoveryCommitteePolicyV1)
    (checkpoint : PayoutRecoveryCheckpointV1)
    : Except PayoutRecoveryError Unit := do
  policy.validate
  rejectIf (checkpoint.networkId ≠ policy.networkId
      ∨ checkpoint.accumulator.settlementCommitteeId ≠ policy.settlementCommitteeId
      ∨ checkpoint.payoutPolicyFingerprint ≠ policy.payoutPolicyFingerprint
      ∨ checkpoint.signerSet.signatureSuite ≠ ed25519Suite
      ∨ checkpoint.signerSet.signatures.length < policy.threshold.toNat
      ∨ (checkpoint.signerSet.signatures.any fun signature => signature.signerPubkey ∉ policy.members)
      ∨ Crypto.verifyCertificate checkpoint.signerSet checkpoint.networkId checkpoint ≠ .ok ())
    .invalidCertificate

def checkpointWrapperId (payload : List UInt8) : Hash256 :=
  domainHash payoutRecoveryWrapperDomain payload

def loadCheckpointAtHead (policy : PayoutRecoveryCommitteePolicyV1) (head : PayoutRecoveryHeadV1)
    : StoreM PayoutRecoveryError PayoutRecoveryCheckpointV1 := do
  match ← adapt .durable
      (ProtocolJournal.load .payoutRecoveryCheckpoint head.checkpointWrapperId.toList) with
  | none => throw .missingCheckpoint
  | some payload =>
    let checkpoint ← StoreM.ofExcept ((fromCanonicalBytes payload checkpointLimits).mapError
      fun _ => .nonCanonicalCheckpoint)
    StoreM.ofExcept (checkpoint.validateStructure sizeOfBucketCredit)
    StoreM.ofExcept (rejectIf (checkpoint.networkId ≠ head.networkId
        ∨ checkpoint.checkpointSequence ≠ head.checkpointSequence
        ∨ objectId checkpoint ≠ head.checkpointId
        ∨ checkpointWrapperId payload ≠ head.checkpointWrapperId
        ∨ toCanonicalBytes checkpoint ≠ payload)
      .nonCanonicalCheckpoint)
    StoreM.ofExcept (policy.verifyCheckpoint checkpoint)
    return checkpoint

def checkpointHead (checkpoint : PayoutRecoveryCheckpointV1) : PayoutRecoveryHeadV1 where
  networkId := checkpoint.networkId
  checkpointSequence := checkpoint.checkpointSequence
  checkpointId := objectId checkpoint
  checkpointWrapperId := checkpointWrapperId (toCanonicalBytes checkpoint)

/-- The branch of `persist_payout_recovery_checkpoint` where the head already names the checkpoint. -/
def confirmCurrent (checkpoint : PayoutRecoveryCheckpointV1) (policy : PayoutRecoveryCommitteePolicyV1)
    (bytes : List UInt8) (current : PayoutRecoveryHeadV1)
    : StoreM PayoutRecoveryError PayoutRecoveryPersistOutcome := do
  if current.checkpointSequence ≠ checkpoint.checkpointSequence then
    throw .sequence
  let _ ← loadCheckpointAtHead sizeOfBucketCredit policy current
  if ← StoreM.applyBatchIfAll
      [ .equals (checkpointHeadRow checkpoint.networkId) bytes,
        .equals (sourceFenceRow checkpoint.networkId)
          (encodeSourceFence checkpoint.networkId checkpoint.sourceFence) ] [] then
    return .alreadyCurrent
  throw .concurrentUpdate

def checkSuccessor (checkpoint : PayoutRecoveryCheckpointV1) (policy : PayoutRecoveryCommitteePolicyV1)
    (current : PayoutRecoveryHeadV1)
    : StoreM PayoutRecoveryError Unit := do
  StoreM.ofExcept (rejectIf (current.checkpointSequence.checkedAdd 1 ≠ some checkpoint.checkpointSequence
    ∨ checkpoint.previousCheckpointId ≠ current.checkpointId) .sequence)
  let previous ← loadCheckpointAtHead sizeOfBucketCredit policy current
  StoreM.ofExcept (validateCheckpointTransition previous checkpoint)

def installCheckpoint (checkpoint : PayoutRecoveryCheckpointV1) (payload : List UInt8)
    (existing : Option (List UInt8))
    : StoreM PayoutRecoveryError PayoutRecoveryPersistOutcome := do
  let head : PayoutRecoveryHeadV1 := {
    networkId := checkpoint.networkId
    checkpointSequence := checkpoint.checkpointSequence
    checkpointId := objectId checkpoint
    checkpointWrapperId := checkpointWrapperId payload }
  let outcome ← adapt .durable (ProtocolJournal.persistRecordsWithConditionsAndBatch
    [ ⟨.payoutRecoveryCheckpoint, head.checkpointWrapperId.toList, payload⟩ ]
    [ ⟨checkpointHeadRow checkpoint.networkId, existing⟩,
      .equals (sourceFenceRow checkpoint.networkId)
        (encodeSourceFence checkpoint.networkId checkpoint.sourceFence) ]
    [ .put (checkpointHeadRow checkpoint.networkId) (encodeHead head) ])
  match outcome with
  | .committed => return .committed
  | .exactRecord =>
    if ← sourceFenceMatches checkpoint.networkId checkpoint.sourceFence then
      let bytes ← StoreM.get (checkpointHeadRow checkpoint.networkId)
      if bytes.any fun bytes => (decodeHead checkpoint.networkId bytes).toOption = some head then
        return .alreadyCurrent
    throw .concurrentUpdate
  | .preconditionMismatch => throw .concurrentUpdate

def persistPayoutRecoveryCheckpoint (checkpoint : PayoutRecoveryCheckpointV1)
    (policy : PayoutRecoveryCommitteePolicyV1)
    : StoreM PayoutRecoveryError PayoutRecoveryPersistOutcome := do
  let payload ← StoreM.ofExcept (checkpoint.canonicalPayload sizeOfBucketCredit)
  StoreM.ofExcept (policy.verifyCheckpoint checkpoint)
  if !(← sourceFenceMatches checkpoint.networkId checkpoint.sourceFence) then
    throw .sourceFenceMismatch
  match ← StoreM.get (checkpointHeadRow checkpoint.networkId) with
  | some bytes =>
    let current ← StoreM.ofExcept (decodeHead checkpoint.networkId bytes)
    if current.checkpointId = objectId checkpoint then
      confirmCurrent sizeOfBucketCredit checkpoint policy bytes current
    else
      checkSuccessor sizeOfBucketCredit checkpoint policy current
      installCheckpoint checkpoint payload (some bytes)
  | none =>
    StoreM.ofExcept (rejectIf (checkpoint.checkpointSequence ≠ 1
      ∨ checkpoint.previousCheckpointId ≠ .zero 32) .sequence)
    installCheckpoint checkpoint payload none

end MeshMine.Settlement
