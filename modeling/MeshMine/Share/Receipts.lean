import MeshMine.Handoff.Persistence
import MeshMine.Hns.Merkle
import MeshMine.Types.Share

/-!
Committee rosters, the receipt builder and the receipt chain (`meshmine-share/src/lib.rs`).
-/

namespace MeshMine.Share

open MeshMine.Types Codec Crypto Storage Handoff Hns
open Except (rejectIf)

inductive CommitteeRole where
  | mask
  | receipt
  | availability
  | settlement
deriving DecidableEq

def CommitteeRole.code : CommitteeRole → UInt16
  | mask => 1
  | receipt => 2
  | availability => 3
  | settlement => 4

def maxCommitteeMembers : Nat := 256

structure CommitteeRoster where
  protocolVersion : UInt16
  networkId : UInt8
  role : CommitteeRole
  epoch : UInt64
  threshold : UInt16
  members : SortedList PublicKey
deriving DecidableEq

structure ValidatedShare where
  share : ShareV2
  shareId : Hash256
  workKey : Hash256
  creditedWork : U512

inductive ShareError where
  | linkage (what : String)
  | gatewayHandoff (error : HandoffError)
  | operatorSignature (error : CryptoError)
  | certificateThreshold
  | invalidCommitteeRoster
  | ineligibleSigner
  | committeeMismatch
  | inactivePayoutBucket
  | rawShareHash
  | captureTarget
  | invalidNetworkTarget
  | duplicateWork
  | workOverflow
  | parentOracleRejected
  | sessionNotOpen
  | invalidCaptureProfile
  | durable (error : DurableInvariantError)
  | invalidReceiptChain
deriving DecidableEq

/-- A value of more than 64 bytes keeps its last 64. -/
def biguintToU512 (value : Nat) : U512 :=
  let bytes := Bytes.toMinimalBE value
  ⟨List.replicate (64 - bytes.length) 0 ++ bytes.drop (bytes.length - 64), by
    rw [List.length_append, List.length_replicate, List.length_drop]
    omega⟩

theorem toNat_biguintToU512 {value : Nat} (h : (Bytes.toMinimalBE value).length ≤ 64)
    : (biguintToU512 value).toNat = value := by
  unfold biguintToU512 ByteVec.toNat
  dsimp only
  rw [Nat.sub_eq_zero_of_le h, List.drop_zero, Bytes.ofBE_append, Bytes.ofBE_replicate_zero, Nat.mul_zero, Nat.zero_add,
    Bytes.ofBE_toMinimalBE]

def workForTarget (target : U256) : U512 :=
  biguintToU512 (2 ^ 256 / (target.toNat + 1))

theorem workForTarget_exact (target : U256)
    : (Bytes.toMinimalBE (2 ^ 256 / (target.toNat + 1))).length ≤ 64
      ∧ (workForTarget target).toNat = 2 ^ 256 / (target.toNat + 1)
      ∧ ∀ easier, target ≤ easier → workForTarget easier ≤ workForTarget target := by
  have hlength : ∀ target : U256, (Bytes.toMinimalBE (2 ^ 256 / (target.toNat + 1))).length ≤ 64 := by
    intro target
    have hbits : Bytes.bitLength (2 ^ 256 / (target.toNat + 1)) ≤ 257 := by
      rw [Bytes.bitLength_le_iff]
      apply Nat.lt_of_le_of_lt (Nat.div_le_self _ _)
      apply Nat.pow_lt_pow_right <;> omega
    rw [Bytes.length_toMinimalBE]
    omega
  refine ⟨hlength target, toNat_biguintToU512 (hlength target), ?_⟩
  intro easier heasier
  rw [ByteVec.le_iff_toNat_le] at heasier ⊢
  unfold workForTarget
  rw [toNat_biguintToU512 (hlength target), toNat_biguintToU512 (hlength easier)]
  apply Nat.div_le_div_left <;> omega

variable [P : Primitives]

namespace CommitteeRoster

def validate (roster : CommitteeRoster) : Except ShareError Unit :=
  rejectIf (roster.members.toList = [] ∨ maxCommitteeMembers < roster.members.toList.length
    ∨ roster.threshold = 0 ∨ roster.members.toList.length < roster.threshold.toNat)
    .invalidCommitteeRoster

def id (roster : CommitteeRoster) : Hash256 :=
  domainHash "meshmine/committee-roster/v2"
    (Encoder.u16 roster.protocolVersion ++ Encoder.u8 roster.networkId ++ Encoder.u16 roster.role.code
      ++ Encoder.u64 roster.epoch ++ Encoder.u16 roster.threshold
      ++ roster.members.toList.flatMap ByteVec.toList)

def verify {α : Type} [UnsignedObject α] (roster : CommitteeRoster) (signerSet : SignatureSet)
    (object : α) : Except ShareError Unit := do
  roster.validate
  (verifyCertificate signerSet roster.networkId object).mapError .operatorSignature
  rejectIf (signerSet.signatures.length < roster.threshold.toNat) .certificateThreshold
  rejectIf (∃ signature ∈ signerSet.signatures, signature.signerPubkey ∉ roster.members.toList)
    .ineligibleSigner

end CommitteeRoster

/-- The accepted shares by work key, in the order of their acceptance. -/
structure ReceiptBuilder where
  protocolVersion : UInt16
  networkId : UInt8
  sessionId : Hash256
  batchSequence : UInt64
  previousBatchId : Hash256
  previousShareCount : UInt64
  previousWork : U512
  accepted : List ValidatedShare

namespace ReceiptBuilder

def new (protocolVersion : UInt16) (networkId : UInt8) (sessionId : Hash256) (batchSequence : UInt64)
    (previousBatchId : Hash256) (previousShareCount : UInt64) (previousWork : U512)
    : ReceiptBuilder where
  protocolVersion
  networkId
  sessionId
  batchSequence
  previousBatchId
  previousShareCount
  previousWork
  accepted := []

variable (builder : ReceiptBuilder) (share : ValidatedShare)

def checkNew : Except ShareError Unit := do
  rejectIf (share.share.sessionId ≠ builder.sessionId) (.linkage "receipt session")
  rejectIf (∃ other ∈ builder.accepted, other.workKey = share.workKey) .duplicateWork

def accept : Except ShareError ReceiptBuilder := do
  builder.checkNew share
  return { builder with accepted := builder.accepted ++ [share] }

def acceptedRecords : List JournalBatchRecord :=
  [ ⟨.acceptedWorkKey, share.workKey.toList, share.shareId.toList⟩,
    ⟨.acceptedShare, share.shareId.toList, toCanonicalBytes share.share⟩ ]

def persistOutcome (records : List JournalBatchRecord) (conditions : List BatchCondition)
    (operations : List BatchOperation)
    : StoreM ShareError (Except DurableInvariantError JournalBatchOutcome) :=
  ExceptT.mk do
    return .ok (← (ProtocolJournal.persistRecordsWithConditionsAndBatch records conditions
      operations).run)

def acceptDurable : StoreM ShareError ReceiptBuilder := do
  StoreM.ofExcept (builder.checkNew share)
  match ← persistOutcome (acceptedRecords share) [] [] with
  | .ok .committed | .ok .exactRecord => StoreM.ofExcept (builder.accept share)
  | .ok .preconditionMismatch => throw (.durable .immutableConflict)
  | .error .immutableConflict => throw .duplicateWork
  | .error failure => throw (.durable failure)

def acceptGatewayDurable (manifest : GatewayContextManifestV1) (assignment : GatewayAssignmentV1)
    (envelope : GatewayCaptureEnvelopeV1) (receipt : GatewayCaptureReceiptV1)
    : StoreM ShareError ReceiptBuilder := do
  StoreM.ofExcept (rejectIf (share.shareId ≠ objectId share.share
    ∨ share.workKey ≠ share.share.workKey
    ∨ share.creditedWork ≠ workForTarget share.share.declaredTarget)
    (.linkage "validated gateway share derivation"))
  StoreM.ofExcept (builder.checkNew share)
  StoreM.ofExcept (rejectIf (receipt.outcome ≠ captureOutcomeAccepted
    ∨ receipt.acceptedShareId ≠ share.shareId
    ∨ share.share.assignmentId ≠ objectId assignment
    ∨ share.share.localTelemetryHash ≠ some (objectId envelope)
    ∨ envelope.rawShareHash ≠ share.share.rawShareHash
    ∨ envelope.nonce ≠ share.share.nonce
    ∨ envelope.ntime ≠ share.share.ntime
    ∨ envelope.extraNonce ≠ share.share.extraNonce) (.linkage "accepted gateway disposition"))
  let prepared ← StoreM.adapt .gatewayHandoff
    (prepareCaptureDisposition manifest assignment envelope receipt)
  match ← persistOutcome (prepared.records ++ acceptedRecords share) prepared.conditions
      prepared.operations with
  | .ok .committed | .ok .exactRecord => StoreM.ofExcept (builder.accept share)
  | .ok .preconditionMismatch => throw (.gatewayHandoff .sequence)
  | .error .immutableConflict =>
    match ← StoreM.adapt .durable
        (ProtocolJournal.load .acceptedWorkKey share.workKey.toList) with
    | some acceptedShareId =>
      if acceptedShareId ≠ share.shareId.toList then
        throw .duplicateWork
      else
        throw (.durable .immutableConflict)
    | none => throw (.durable .immutableConflict)
  | .error failure => throw (.durable failure)

def entryLe (a b : ValidatedShare) : Prop :=
  a.workKey < b.workKey ∨ a.workKey = b.workKey ∧ a.shareId ≤ b.shareId

instance : DecidableRel entryLe := fun a b => by
  unfold entryLe
  infer_instance

def finalize (signerSet : SignatureSet) : Except ShareError ReceiptBatchV2 := do
  let accepted := builder.accepted.insertionSort entryLe
  let acceptedShareIds := accepted.map (·.shareId)
  let acceptedWorkKeys := accepted.map (·.workKey)
  let creditedWork := accepted.map (·.creditedWork)
  let added := (creditedWork.map ByteVec.toNat).sum
  let cumulative := builder.previousWork.toNat + added
  rejectIf (512 < Bytes.bitLength cumulative) .workOverflow
  match builder.previousShareCount.checkedAddLength accepted.length with
  | none => throw .workOverflow
  | some cumulativeShareCount =>
    return {
      protocolVersion := builder.protocolVersion
      networkId := builder.networkId
      sessionId := builder.sessionId
      batchSequence := builder.batchSequence
      previousBatchId := builder.previousBatchId
      acceptedShareIds
      acceptedWorkKeys
      creditedWork
      shareMerkleRoot := merkleRoot acceptedShareIds
      cumulativeShareCount
      cumulativeCreditedWork := biguintToU512 cumulative
      signerSet }

end ReceiptBuilder

structure ReceiptChainSummary where
  sessionId : Hash256
  finalBatchId : Hash256
  acceptedShareIds : List Hash256
  acceptedWorkKeys : List Hash256
  totalCreditedWork : U512
deriving DecidableEq

structure ReceiptChainState where
  shareIds : List Hash256
  workKeys : List Hash256
  cumulativeWork : Nat
  previous : Option ReceiptBatchV2

def ReceiptChainState.initial : ReceiptChainState where
  shareIds := []
  workKeys := []
  cumulativeWork := 0
  previous := none

/-- Inserting the entries of a batch into the set of those seen so far meets one that is there already. -/
def repeats (seen : List Hash256) : List Hash256 → Bool
  | [] => false
  | entry :: entries => seen.contains entry || repeats (entry :: seen) entries

def invalidLink (previous : Option ReceiptBatchV2) (batch : ReceiptBatchV2) : Bool :=
  match previous with
  | none => false
  | some previous =>
    previous.batchSequence.checkedAdd 1 ≠ some batch.batchSequence
      ∨ batch.previousBatchId ≠ objectId previous

def verifyReceiptBatch (receiptRoster : CommitteeRoster) (first : ReceiptBatchV2)
    (state : ReceiptChainState) (batch : ReceiptBatchV2) : Except ShareError ReceiptChainState := do
  batch.validateEntries.mapError fun _ => .invalidReceiptChain
  receiptRoster.verify batch.signerSet batch
  rejectIf (batch.protocolVersion ≠ first.protocolVersion
    ∨ batch.networkId ≠ first.networkId
    ∨ batch.sessionId ≠ first.sessionId
    ∨ batch.shareMerkleRoot ≠ merkleRoot batch.acceptedShareIds
    ∨ invalidLink state.previous batch
    ∨ repeats state.shareIds batch.acceptedShareIds
    ∨ repeats state.workKeys batch.acceptedWorkKeys) .invalidReceiptChain
  let shareIds := state.shareIds ++ batch.acceptedShareIds
  let workKeys := state.workKeys ++ batch.acceptedWorkKeys
  let cumulativeWork := state.cumulativeWork + (batch.creditedWork.map ByteVec.toNat).sum
  rejectIf (batch.cumulativeShareCount ≠ UInt64.ofNat shareIds.length
    ∨ batch.cumulativeCreditedWork.toNat ≠ cumulativeWork) .invalidReceiptChain
  return { shareIds, workKeys, cumulativeWork, previous := some batch }

def verifyReceiptChain (batches : List ReceiptBatchV2) (receiptRoster : CommitteeRoster)
    : Except ShareError ReceiptChainSummary :=
  match batches with
  | [] => throw .invalidReceiptChain
  | first :: rest => do
    rejectIf (receiptRoster.role ≠ .receipt) .invalidReceiptChain
    rejectIf (first.batchSequence ≠ 0 ∨ first.previousBatchId ≠ zeroHash) .invalidReceiptChain
    let state ← batches.foldlM (verifyReceiptBatch receiptRoster first) .initial
    rejectIf (512 < Bytes.bitLength state.cumulativeWork) .workOverflow
    return {
      sessionId := first.sessionId
      finalBatchId := objectId (rest.getLastD first)
      acceptedShareIds := state.shareIds
      acceptedWorkKeys := state.workKeys
      totalCreditedWork := biguintToU512 state.cumulativeWork }

end MeshMine.Share
