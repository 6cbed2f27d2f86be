import MeshMine.CoreLink.Bundle
import MeshMine.Gateway.Operations

/-!
The operator's durable spool between the gateway and the link to Core: the bundles it has accepted, one
signed envelope per capture in hand, and Core's receipts (`meshmine-core-link/src/spool.rs`).
-/

namespace MeshMine.CoreLink

open MeshMine.Types Codec Crypto Hns Handoff Gateway Storage
open Except (rejectIf)
open StoreM (applyBatchIfAll)

inductive SpoolError where
  | storage (error : StorageError)
  | codec (error : CodecError)
  | assignment
  | conflict
  | sequenceRace
  | receipt
  | capacity
deriving DecidableEq

instance : FromStorageError SpoolError where
  ofStorage := .storage

def maxOperatorCaptureRecords : Nat := 100000
def maxOperatorCaptureBytes : Nat := 512 * 1024 * 1024

structure GatewaySequenceHeadV1 where
  assignmentId : Hash256
  sequence : UInt64
  finalEnvelopeId : Hash256

variable (assignmentId : Hash256)

def GatewaySequenceHeadV1.initial : GatewaySequenceHeadV1 :=
  ⟨assignmentId, 0, zeroHash⟩

structure OperatorCaptureCapacityV1 where
  pendingRecords : UInt64
  pendingBytes : UInt64

structure OperatorCaptureSpool where
  networkId : UInt8
  gatewaySigningKey : ByteVec 32
  coreHandoffPubkey : PublicKey
  connectionId : Hash256

/-!
### Rows and their encodings
-/

def envelopeSpace : String := "core-link-capture-envelope/v1"
def receiptSpace : String := "core-link-capture-receipt/v1"

/-- As `format!("{sequence:020}")`. -/
def assignmentSequenceKey (sequence : UInt64) : Text :=
  List.replicate (20 - (decimal sequence).length) 48 ++ decimal sequence

def operatorBundleRow (bundleId : List UInt8) : Row :=
  ⟨"core-link-operator-bundle/v1", hexEncode bundleId⟩
def operatorAssignmentIndexRow (sequence : UInt64) : Row :=
  ⟨"core-link-operator-assignment-index/v1", assignmentSequenceKey sequence⟩
def spoolEnvelopeRow (workKey : Hash256) : Row :=
  ⟨envelopeSpace, hexEncode workKey.toList⟩
def spoolReceiptRow (workKey : Hash256) : Row :=
  ⟨receiptSpace, hexEncode workKey.toList⟩
def captureSequenceRow : Row :=
  ⟨"core-link-capture-sequence/v1", hexEncode assignmentId.toList⟩
def captureCapacityRow : Row :=
  ⟨"core-link-capture-capacity/v1", asciiBytes "pending"⟩
def operatorDrainRow : Row :=
  ⟨"core-link-assignment-drain/v1", hexEncode assignmentId.toList⟩
def operatorTransitionRow (previousAssignmentId : Hash256) : Row :=
  ⟨"core-link-assignment-transition/v1", hexEncode previousAssignmentId.toList⟩

attribute [simp] captureRow captureSpace spoolEnvelopeRow spoolReceiptRow captureSequenceRow captureCapacityRow
  operatorDrainRow operatorTransitionRow envelopeSpace receiptSpace

def captureLimits : DecodeLimits := ⟨4096, 0⟩
def sequenceHeadLimits : DecodeLimits := ⟨80, 0⟩

instance : CanonicalEncode GatewaySequenceHeadV1 where
  encode head :=
    asciiBytes "MMS8" ++ Encoder.fixed head.assignmentId ++ Encoder.u64 head.sequence
    ++ Encoder.fixed head.finalEnvelopeId

instance : CanonicalDecode GatewaySequenceHeadV1 where
  decode := do
    let magic ← Decoder.array 4
    if magic.toList ≠ asciiBytes "MMS8" then
      throw (.invalidField "gateway sequence magic")
    let assignmentId ← Decoder.array 32
    let sequence ← Decoder.u64
    let finalEnvelopeId ← Decoder.array 32
    return { assignmentId, sequence, finalEnvelopeId }

def decodeSequenceHead (bytes : List UInt8) : Except SpoolError GatewaySequenceHeadV1 :=
  (fromCanonicalBytes bytes sequenceHeadLimits).mapError .codec

variable (capacity : OperatorCaptureCapacityV1)

def encodeCaptureCapacity : List UInt8 :=
  u64Bytes capacity.pendingRecords ++ u64Bytes capacity.pendingBytes

def OperatorCaptureCapacityV1.fits : Bool :=
  capacity.pendingRecords.toNat ≤ maxOperatorCaptureRecords
    && capacity.pendingBytes.toNat ≤ maxOperatorCaptureBytes

def decodeCaptureCapacity (bytes : List UInt8) : Except SpoolError OperatorCaptureCapacityV1 := do
  rejectIf (bytes.length ≠ 16) .conflict
  let capacity : OperatorCaptureCapacityV1 :=
    ⟨UInt64.ofNat (Bytes.ofLE (bytes.take 8)), UInt64.ofNat (Bytes.ofLE (bytes.drop 8))⟩
  rejectIf (¬ capacity.fits) .capacity
  return capacity

def OperatorCaptureCapacityV1.reserve (envelopeLength : Nat) : Except SpoolError OperatorCaptureCapacityV1 :=
  match capacity.pendingRecords.checkedAdd 1, capacity.pendingBytes.checkedAddLength envelopeLength with
  | some pendingRecords, some pendingBytes =>
    let next : OperatorCaptureCapacityV1 := ⟨pendingRecords, pendingBytes⟩
    if next.fits then .ok next else .error .capacity
  | _, _ => .error .capacity

def OperatorCaptureCapacityV1.release (envelopeLength : Nat) : Except SpoolError OperatorCaptureCapacityV1 :=
  if capacity.pendingRecords = 0 ∨ capacity.pendingBytes.toNat < envelopeLength then
    .error .conflict
  else
    .ok ⟨capacity.pendingRecords - 1, capacity.pendingBytes - UInt64.ofNat envelopeLength⟩

/-!
### Checks
-/

def validateCaptureMatches (capture : ForwardedCapture) (envelope : GatewayCaptureEnvelopeV1)
    : Except SpoolError Unit :=
  rejectIf (envelope.ntime ≠ capture.minerHeader.time
    ∨ envelope.extraNonce ≠ capture.minerHeader.extraNonce
    ∨ envelope.nonce ≠ capture.minerHeader.nonce
    ∨ envelope.rawShareHash ≠ capture.rawShareHash) .conflict

def validateCaptureContext (capture : ForwardedCapture) (bundle : CoreAssignmentBundleV1)
    : Except SpoolError Unit :=
  let header := capture.minerHeader
  rejectIf (capture.receivedMs < bundle.session.assignmentStartMs
    ∨ bundle.session.submissionEndMs < capture.receivedMs
    ∨ header.prevBlock ≠ bundle.session.parentHash
    ∨ header.maskHash ≠ bundle.session.maskHash
    ∨ header.merkleRoot ≠ bundle.body.merkleRoot
    ∨ header.witnessRoot ≠ bundle.body.witnessRoot
    ∨ header.treeRoot ≠ bundle.body.treeRoot
    ∨ header.reservedRoot ≠ bundle.body.reservedRoot
    ∨ header.version ≠ bundle.body.templateCore.blockVersion
    ∨ header.bits ≠ bundle.body.templateCore.bits) .assignment

variable [P : Primitives]

def validateCaptureAssignment (capture : ForwardedCapture) (assignment : GatewayAssignmentV1)
    : Except SpoolError Unit :=
  let header := capture.minerHeader
  rejectIf (capture.assignmentSequence ≠ assignment.assignmentSequence
    ∨ capture.jobId ≠ hexEncode (objectId assignment).toList
    ∨ header.time ≠ assignment.ntime
    ∨ ¬ assignment.acceptsExtraNonce header.extraNonce
    ∨ header.nonce < assignment.nonceStart
    ∨ assignment.nonceEnd < header.nonce
    ∨ assignment.nonceStride = 0
    ∨ (header.nonce - assignment.nonceStart) % assignment.nonceStride ≠ 0
    ∨ capture.telemetryLevel.code ≠ assignment.telemetryLevel
    ∨ header.shareHash ≠ capture.rawShareHash
    ∨ assignment.captureTarget < capture.rawShareHash) .assignment

namespace OperatorCaptureSpool

variable (spool : OperatorCaptureSpool) (bundle : CoreAssignmentBundleV1)

def Owns : Prop :=
  bundle.networkId = spool.networkId
    ∧ bundle.assignment.gatewayPubkey = P.ed25519Public spool.gatewaySigningKey
    ∧ bundle.assignment.coreHandoffPubkey = spool.coreHandoffPubkey
    ∧ verifyObject spool.coreHandoffPubkey ed25519Suite bundle.coreSignature bundle.networkId bundle
      = .ok ()

instance (bundle : CoreAssignmentBundleV1) : Decidable (spool.Owns bundle) :=
  inferInstanceAs (Decidable (_ ∧ _))

def persistBundle : StoreM SpoolError Unit := do
  StoreM.ofExcept (rejectIf (¬ spool.Owns bundle) .assignment)
  let bundleId := objectId bundle
  let bundleRow := operatorBundleRow bundleId.toList
  let indexRow := operatorAssignmentIndexRow bundle.assignment.assignmentSequence
  let bytes := toCanonicalBytes bundle
  let existingBundle ← StoreM.get bundleRow
  let existingIndex ← StoreM.get indexRow
  if existingBundle = some bytes ∧ existingIndex = some bundleId.toList then
    return ()
  else
    StoreM.ofExcept (rejectIf (existingBundle.isSome ∨ existingIndex.isSome) .conflict)
    let applied ← applyBatchIfAll [.absent bundleRow, .absent indexRow]
      [.put bundleRow bytes, .put indexRow bundleId.toList]
    StoreM.ofExcept (rejectIf (applied = false) .sequenceRace)

def bundleForSequence (sequence : UInt64) : StoreM SpoolError CoreAssignmentBundleV1 := do
  let index ← StoreM.get (operatorAssignmentIndexRow sequence)
  let bundleId ← StoreM.ofExcept (index.elim (.error .assignment) .ok)
  StoreM.ofExcept (rejectIf (bundleId.length ≠ 32) .conflict)
  let stored ← StoreM.get (operatorBundleRow bundleId)
  let bytes ← StoreM.ofExcept (stored.elim (.error .assignment) .ok)
  let bundle ← StoreM.ofExcept
    ((fromCanonicalBytes (α := CoreAssignmentBundleV1) bytes bundleLimits).mapError .codec)
  StoreM.ofExcept (rejectIf ((objectId bundle).toList ≠ bundleId
    ∨ toCanonicalBytes bundle ≠ bytes
    ∨ bundle.assignment.assignmentSequence ≠ sequence
    ∨ ¬ spool.Owns bundle) .conflict)
  return bundle

def unsignedEnvelope (capture : ForwardedCapture) (gatewaySequence : UInt64) : GatewayCaptureEnvelopeV1 where
  coreProtocolVersion := coreV2
  handoffVersion := gatewayHandoffV1
  networkId := spool.networkId
  contextManifestId := objectId bundle.manifest
  assignmentId := objectId bundle.assignment
  sessionId := objectId bundle.session
  gatewayPubkey := P.ed25519Public spool.gatewaySigningKey
  coreHandoffPubkey := spool.coreHandoffPubkey
  gatewaySequence := gatewaySequence
  gatewayConnectionId := spool.connectionId
  gatewayReceivedMs := capture.receivedMs
  ntime := capture.minerHeader.time
  extraNonce := capture.minerHeader.extraNonce
  nonce := capture.minerHeader.nonce
  rawShareHash := capture.rawShareHash
  gatewaySignature := []

def signedEnvelope (capture : ForwardedCapture) (gatewaySequence : UInt64) : GatewayCaptureEnvelopeV1 :=
  let envelope := spool.unsignedEnvelope bundle capture gatewaySequence
  { envelope with gatewaySignature := signObject spool.gatewaySigningKey spool.networkId envelope }

def allocateEnvelope (capture : ForwardedCapture) : StoreM SpoolError GatewayCaptureEnvelopeV1 := do
  let workKey := captureWorkKey capture
  let assignmentId := objectId bundle.assignment
  let existingHead ← StoreM.get (captureSequenceRow assignmentId)
  let current ← StoreM.ofExcept
    (existingHead.elim (.ok (.initial assignmentId)) decodeSequenceHead)
  StoreM.ofExcept (rejectIf (current.assignmentId ≠ assignmentId) .conflict)
  let nextSequence ← StoreM.ofExcept ((current.sequence.checkedAdd 1).elim (.error .capacity) .ok)
  let envelope := spool.signedEnvelope bundle capture nextSequence
  let envelopeBytes := toCanonicalBytes envelope
  let existingCapacity ← StoreM.get captureCapacityRow
  let capacity ← StoreM.ofExcept (existingCapacity.elim (.ok ⟨0, 0⟩) decodeCaptureCapacity)
  let nextCapacity ← StoreM.ofExcept (capacity.reserve envelopeBytes.length)
  let nextHead : GatewaySequenceHeadV1 := ⟨assignmentId, nextSequence, objectId envelope⟩
  let applied ← applyBatchIfAll
    [⟨captureSequenceRow assignmentId, existingHead⟩,
      .absent (spoolEnvelopeRow workKey),
      ⟨captureCapacityRow, existingCapacity⟩]
    [.put (captureSequenceRow assignmentId) (toCanonicalBytes nextHead),
      .put (spoolEnvelopeRow workKey) envelopeBytes,
      .put captureCapacityRow (encodeCaptureCapacity nextCapacity)]
  StoreM.ofExcept (rejectIf (applied = false) .sequenceRace)
  return envelope

def prepareEnvelope (capture : ForwardedCapture) : StoreM SpoolError GatewayCaptureEnvelopeV1 := do
  let bundle ← spool.bundleForSequence capture.assignmentSequence
  StoreM.ofExcept (validateCaptureAssignment capture bundle.assignment)
  StoreM.ofExcept (validateCaptureContext capture bundle)
  let existing ← StoreM.get (spoolEnvelopeRow (captureWorkKey capture))
  match existing with
  | some bytes =>
    let envelope ← StoreM.ofExcept
      ((fromCanonicalBytes (α := GatewayCaptureEnvelopeV1) bytes captureLimits).mapError .codec)
    StoreM.ofExcept (validateCaptureMatches capture envelope)
    return envelope
  | none => spool.allocateEnvelope bundle capture

def recordReceipt (workKey : Hash256) (envelope : GatewayCaptureEnvelopeV1)
    (receipt : GatewayCaptureReceiptV1)
    : StoreM SpoolError Unit := do
  StoreM.ofExcept ((validateCaptureReceipt envelope receipt).mapError fun _ => .receipt)
  StoreM.ofExcept (rejectIf (receipt.coreHandoffPubkey ≠ spool.coreHandoffPubkey
    ∨ receipt.networkId ≠ spool.networkId) .receipt)
  let receiptBytes := toCanonicalBytes receipt
  let envelopeBytes := toCanonicalBytes envelope
  let existing ← StoreM.get (spoolReceiptRow workKey)
  if existing = some receiptBytes then
    return ()
  else
    let storedEnvelope ← StoreM.get (spoolEnvelopeRow workKey)
    StoreM.ofExcept (rejectIf (storedEnvelope ≠ some envelopeBytes) .conflict)
    let storedCapacity ← StoreM.get captureCapacityRow
    let existingCapacity ← StoreM.ofExcept (storedCapacity.elim (.error .conflict) .ok)
    let capacity ← StoreM.ofExcept (decodeCaptureCapacity existingCapacity)
    let nextCapacity ← StoreM.ofExcept (capacity.release envelopeBytes.length)
    let applied ← applyBatchIfAll
      [.absent (spoolReceiptRow workKey),
        .equals (spoolEnvelopeRow workKey) envelopeBytes,
        .equals captureCapacityRow existingCapacity]
      [.put (spoolReceiptRow workKey) receiptBytes,
        .delete (spoolEnvelopeRow workKey),
        .put captureCapacityRow (encodeCaptureCapacity nextCapacity)]
    if applied then
      return ()
    else
      let raced ← StoreM.get (spoolReceiptRow workKey)
      StoreM.ofExcept (rejectIf (raced ≠ some receiptBytes) .sequenceRace)

def receipt (workKey : Hash256) : StoreM SpoolError (Option GatewayCaptureReceiptV1) := do
  let stored ← StoreM.get (spoolReceiptRow workKey)
  match stored with
  | none => return none
  | some bytes =>
    let receipt ← StoreM.ofExcept
      ((fromCanonicalBytes (α := GatewayCaptureReceiptV1) bytes captureLimits).mapError .codec)
    return some receipt

def sequenceHead : StoreM SpoolError GatewaySequenceHeadV1 := do
  let stored ← StoreM.get (captureSequenceRow assignmentId)
  StoreM.ofExcept (stored.elim (.ok (.initial assignmentId)) decodeSequenceHead)

def envelopeScanLimits : ScanLimits where
  maximumRecords := maxOperatorCaptureRecords
  maximumValueBytes := 16 * 1024
  maximumTotalBytes := maxOperatorCaptureBytes

def countPending (assignmentId : Hash256) : List NamespaceRecord → Nat → StoreM SpoolError Nat
  | [], pending => return pending
  | record :: records, pending => do
    let receipt ← StoreM.get ⟨receiptSpace, record.key⟩
    if receipt.isSome then
      countPending assignmentId records pending
    else
      let envelope ← StoreM.ofExcept
        ((fromCanonicalBytes (α := GatewayCaptureEnvelopeV1) record.value captureLimits).mapError .codec)
      countPending assignmentId records
        (if envelope.assignmentId = assignmentId then pending + 1 else pending)

def pendingForAssignment : StoreM SpoolError Nat := do
  let records ← StoreM.scanNamespace envelopeSpace envelopeScanLimits
  countPending assignmentId records 0

def persistDrainAndTransition (drain : GatewayAssignmentDrainV1)
    (transition : GatewayAssignmentTransitionV1)
    : StoreM SpoolError Unit := do
  let drainRow := operatorDrainRow drain.assignmentId
  let transitionRow := operatorTransitionRow transition.previousAssignmentId
  let drainBytes := toCanonicalBytes drain
  let transitionBytes := toCanonicalBytes transition
  let existingDrain ← StoreM.get drainRow
  let existingTransition ← StoreM.get transitionRow
  if existingDrain = some drainBytes ∧ existingTransition = some transitionBytes then
    return ()
  else
    StoreM.ofExcept (rejectIf (existingDrain.isSome ∨ existingTransition.isSome) .conflict)
    let applied ← applyBatchIfAll [.absent drainRow, .absent transitionRow]
      [.put drainRow drainBytes, .put transitionRow transitionBytes]
    StoreM.ofExcept (rejectIf (applied = false) .sequenceRace)

end OperatorCaptureSpool

def buildDrainAndTransition (bundle nextBundle : CoreAssignmentBundleV1)
    (sequenceHead : GatewaySequenceHeadV1) (gatewaySigningKey : ByteVec 32) (drainedMs : UInt64)
    : Except SpoolError (GatewayAssignmentDrainV1 × GatewayAssignmentTransitionV1) := do
  let assignmentId := objectId bundle.assignment
  let gatewayPubkey := P.ed25519Public gatewaySigningKey
  let replacement ← nextBundle.replacement.elim (.error .assignment) .ok
  rejectIf (replacement.previousAssignmentId ≠ assignmentId
    ∨ sequenceHead.assignmentId ≠ assignmentId) .assignment
  let drain : GatewayAssignmentDrainV1 := {
    coreProtocolVersion := coreV2
    handoffVersion := gatewayHandoffV1
    networkId := bundle.networkId
    contextManifestId := objectId bundle.manifest
    assignmentId
    gatewayPubkey
    coreHandoffPubkey := bundle.assignment.coreHandoffPubkey
    lastGatewaySequence := sequenceHead.sequence
    finalCaptureEnvelopeId := sequenceHead.finalEnvelopeId
    drainedMs
    gatewaySignature := [] }
  let transition : GatewayAssignmentTransitionV1 := {
    coreProtocolVersion := coreV2
    handoffVersion := gatewayHandoffV1
    networkId := bundle.networkId
    contextManifestId := objectId nextBundle.manifest
    gatewayPubkey
    coreHandoffPubkey := nextBundle.assignment.coreHandoffPubkey
    transitionSequence := nextBundle.assignment.assignmentSequence
    previousAssignmentId := assignmentId
    nextAssignmentId := objectId nextBundle.assignment
    previousAssignmentLastGatewaySequence := sequenceHead.sequence
    transitionMs := replacement.creditCutoffMs
    reasonCode := replacement.reasonCode
    gatewaySignature := [] }
  return ({ drain with gatewaySignature := signObject gatewaySigningKey bundle.networkId drain },
    { transition with
      gatewaySignature := signObject gatewaySigningKey bundle.networkId transition })

end MeshMine.CoreLink
