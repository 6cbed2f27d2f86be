import MeshMine.Crypto.Signature
import MeshMine.Storage.Journal
import MeshMine.Types.Gateway

/-!
The pure checks of the gateway-to-Core handoff: signed objects, their linkage, and the per-assignment
sequence cursor (`meshmine-handoff/src/lib.rs`).
-/

namespace MeshMine.Handoff

open MeshMine.Types Codec Crypto Storage
open Except (rejectIf)

def maxHandoffFrameBytes : UInt32 := 1024 * 1024
def maxHandoffInFlight : UInt16 := 4096

def captureOutcomeAccepted : UInt8 := 1
def captureOutcomeRejected : UInt8 := 2
def captureOutcomeGraceNoncredit : UInt8 := 3
def captureOutcomeDuplicate : UInt8 := 4

def drainOutcomeComplete : UInt8 := 1
def drainOutcomeRejected : UInt8 := 2

inductive HandoffError where
  | context
  | linkage (what : String)
  | signature
  | sequence
  | observationTime
  | disposition
  | captureAfterDrain
  | drainBoundary
  | durable (error : DurableInvariantError)
  | cursor
deriving DecidableEq

instance : FromStorageError HandoffError where
  ofStorage error := .durable (.storage error)

def zeroHash : Hash256 :=
  ByteVec.zero 32

inductive CaptureSequenceDecision where
  | new
  | exactRetry
deriving DecidableEq

structure GatewayCaptureCursorV1 where
  assignmentId : Hash256
  nextGatewaySequence : UInt64
  lastEnvelopeId : Hash256
  lastGatewayReceivedMs : UInt64
  drainedThroughSequence : Option UInt64
deriving DecidableEq

instance : CanonicalEncode GatewayCaptureCursorV1 where
  encode self :=
    Encoder.fixed self.assignmentId
    ++ Encoder.u64 self.nextGatewaySequence
    ++ Encoder.fixed self.lastEnvelopeId
    ++ Encoder.u64 self.lastGatewayReceivedMs
    ++ Encoder.option Encoder.u64 self.drainedThroughSequence

instance : CanonicalDecode GatewayCaptureCursorV1 where
  decode := do
    let assignmentId ← Decoder.array 32
    let nextGatewaySequence ← Decoder.u64
    let lastEnvelopeId ← Decoder.array 32
    let lastGatewayReceivedMs ← Decoder.u64
    let drainedThroughSequence ← Decoder.option Decoder.u64
    return {
      assignmentId, nextGatewaySequence, lastEnvelopeId, lastGatewayReceivedMs,
      drainedThroughSequence }

def versionContext (coreProtocolVersion handoffVersion : UInt16) (networkId expectedNetworkId : UInt8)
    (gatewayPubkey coreHandoffPubkey : PublicKey) : Except HandoffError Unit :=
  rejectIf (coreProtocolVersion ≠ coreV2 ∨ handoffVersion ≠ gatewayHandoffV1
    ∨ networkId ≠ expectedNetworkId ∨ gatewayPubkey = zeroHash ∨ coreHandoffPubkey = zeroHash
    ∨ gatewayPubkey = coreHandoffPubkey) .context

variable [P : Primitives]

def verifySignature {α : Type} [UnsignedObject α] (key : PublicKey) (signature : SignatureBytes)
    (networkId : UInt8) (object : α) : Except HandoffError Unit :=
  (verifyObject key ed25519Suite signature networkId object).mapError fun _ => .signature

namespace GatewayCaptureCursorV1

def new (assignmentId : Hash256) : GatewayCaptureCursorV1 where
  assignmentId
  nextGatewaySequence := 1
  lastEnvelopeId := zeroHash
  lastGatewayReceivedMs := 0
  drainedThroughSequence := none

variable (cursor : GatewayCaptureCursorV1)

def classify (envelope : GatewayCaptureEnvelopeV1) : Except HandoffError CaptureSequenceDecision := do
  rejectIf (envelope.assignmentId ≠ cursor.assignmentId) (.linkage "cursor assignment")
  let envelopeId := objectId envelope
  if envelope.gatewaySequence = cursor.nextGatewaySequence then
    rejectIf cursor.drainedThroughSequence.isSome .captureAfterDrain
    rejectIf (1 < cursor.nextGatewaySequence
      ∧ envelope.gatewayReceivedMs < cursor.lastGatewayReceivedMs) .observationTime
    return .new
  else if envelope.gatewaySequence.checkedAdd 1 = some cursor.nextGatewaySequence
      ∧ envelopeId = cursor.lastEnvelopeId then
    return .exactRetry
  else
    throw .sequence

def advance (envelope : GatewayCaptureEnvelopeV1) : Except HandoffError GatewayCaptureCursorV1 := do
  match ← cursor.classify envelope with
  | .new =>
    match cursor.nextGatewaySequence.checkedAdd 1 with
    | none => throw .sequence
    | some nextGatewaySequence =>
      return { cursor with
        nextGatewaySequence
        lastEnvelopeId := objectId envelope
        lastGatewayReceivedMs := envelope.gatewayReceivedMs }
  | .exactRetry => return cursor

def applyDrain (drain : GatewayAssignmentDrainV1) : Except HandoffError GatewayCaptureCursorV1 := do
  rejectIf (drain.assignmentId ≠ cursor.assignmentId
    ∨ drain.lastGatewaySequence.checkedAdd 1 ≠ some cursor.nextGatewaySequence
    ∨ (drain.lastGatewaySequence = 0 ∧ drain.finalCaptureEnvelopeId ≠ zeroHash)
    ∨ (drain.lastGatewaySequence ≠ 0 ∧ drain.finalCaptureEnvelopeId ≠ cursor.lastEnvelopeId))
    .drainBoundary
  match cursor.drainedThroughSequence with
  | none => return { cursor with drainedThroughSequence := some drain.lastGatewaySequence }
  | some existing =>
    if existing = drain.lastGatewaySequence then return cursor else throw .drainBoundary

end GatewayCaptureCursorV1

variable (manifest : GatewayContextManifestV1) (assignment : GatewayAssignmentV1)

def validateGatewayAssignment : Except HandoffError Unit := do
  versionContext assignment.coreProtocolVersion assignment.handoffVersion assignment.networkId
    manifest.networkId assignment.gatewayPubkey assignment.coreHandoffPubkey
  rejectIf (assignment.assignmentSequence = 0
    ∨ manifest.operatorPubkey ≠ assignment.operatorPubkey
    ∨ manifest.gatewayPubkey ≠ assignment.gatewayPubkey
    ∨ manifest.coreHandoffPubkey ≠ assignment.coreHandoffPubkey
    ∨ assignment.nonceStride = 0
    ∨ assignment.nonceEnd < assignment.nonceStart
    ∨ assignment.extraNonce2EndBe < assignment.extraNonce2StartBe
    ∨ ¬ (assignment.observationPolicy = gatewayObservationCoreReceiptTime
      ∨ assignment.observationPolicy = gatewayObservationDelegatedSignedTimeV1)
    ∨ maxGatewayClockSkewMs < assignment.maximumClockSkewMs
    ∨ (assignment.observationPolicy = gatewayObservationCoreReceiptTime
      ∧ assignment.maximumClockSkewMs ≠ 0)) .context
  verifySignature assignment.operatorPubkey assignment.operatorSignature assignment.networkId assignment

def validateContextManifest (nowMs : UInt64) : Except HandoffError Unit := do
  versionContext manifest.coreProtocolVersion manifest.handoffVersion manifest.networkId
    manifest.networkId manifest.gatewayPubkey manifest.coreHandoffPubkey
  rejectIf (manifest.contextSequence = 0
    ∨ nowMs < manifest.validFromMs
    ∨ manifest.validUntilMs < nowMs
    ∨ manifest.maximumFrameBytes = 0
    ∨ maxHandoffFrameBytes < manifest.maximumFrameBytes
    ∨ manifest.maximumInFlight = 0
    ∨ maxHandoffInFlight < manifest.maximumInFlight) .context
  verifySignature manifest.operatorPubkey manifest.operatorSignature manifest.networkId manifest

def observationTime (gatewayReceivedMs coreReceivedMs : UInt64) : Except HandoffError UInt64 :=
  if assignment.observationPolicy = gatewayObservationCoreReceiptTime
      ∧ assignment.maximumClockSkewMs = 0 then
    .ok coreReceivedMs
  else if assignment.observationPolicy = gatewayObservationDelegatedSignedTimeV1
      ∧ 0 < assignment.maximumClockSkewMs
      ∧ assignment.maximumClockSkewMs ≤ maxGatewayClockSkewMs
      ∧ gatewayReceivedMs.absDiff coreReceivedMs ≤ assignment.maximumClockSkewMs then
    .ok gatewayReceivedMs
  else
    .error .observationTime

def validateCaptureEnvelope (envelope : GatewayCaptureEnvelopeV1) (coreReceivedMs : UInt64)
    : Except HandoffError UInt64 := do
  validateGatewayAssignment manifest assignment
  versionContext envelope.coreProtocolVersion envelope.handoffVersion envelope.networkId
    assignment.networkId envelope.gatewayPubkey envelope.coreHandoffPubkey
  rejectIf (objectId manifest ≠ envelope.contextManifestId
    ∨ manifest.networkId ≠ envelope.networkId
    ∨ manifest.operatorPubkey ≠ assignment.operatorPubkey
    ∨ manifest.gatewayPubkey ≠ envelope.gatewayPubkey
    ∨ manifest.coreHandoffPubkey ≠ envelope.coreHandoffPubkey
    ∨ assignment.gatewayPubkey ≠ envelope.gatewayPubkey
    ∨ assignment.coreHandoffPubkey ≠ envelope.coreHandoffPubkey
    ∨ objectId assignment ≠ envelope.assignmentId
    ∨ assignment.sessionId ≠ envelope.sessionId
    ∨ assignment.ntime ≠ envelope.ntime
    ∨ ¬ assignment.acceptsExtraNonce envelope.extraNonce
    ∨ envelope.nonce < assignment.nonceStart
    ∨ assignment.nonceEnd < envelope.nonce
    ∨ assignment.nonceStride = 0
    ∨ (envelope.nonce - assignment.nonceStart) % assignment.nonceStride ≠ 0)
    (.linkage "capture envelope")
  rejectIf (envelope.gatewaySequence = 0) .sequence
  verifySignature envelope.gatewayPubkey envelope.gatewaySignature envelope.networkId envelope
  observationTime assignment envelope.gatewayReceivedMs coreReceivedMs

def validateCaptureReceipt (envelope : GatewayCaptureEnvelopeV1) (receipt : GatewayCaptureReceiptV1)
    : Except HandoffError Unit := do
  versionContext receipt.coreProtocolVersion receipt.handoffVersion receipt.networkId
    envelope.networkId receipt.gatewayPubkey receipt.coreHandoffPubkey
  rejectIf (receipt.contextManifestId ≠ envelope.contextManifestId
    ∨ receipt.assignmentId ≠ envelope.assignmentId
    ∨ receipt.captureEnvelopeId ≠ objectId envelope
    ∨ receipt.gatewayPubkey ≠ envelope.gatewayPubkey
    ∨ receipt.coreHandoffPubkey ≠ envelope.coreHandoffPubkey
    ∨ receipt.receiptSequence = 0
    ∨ receipt.receiptSequence ≠ envelope.gatewaySequence) (.linkage "capture receipt")
  rejectIf (¬ (receipt.outcome = captureOutcomeAccepted ∨ receipt.outcome = captureOutcomeRejected
      ∨ receipt.outcome = captureOutcomeGraceNoncredit ∨ receipt.outcome = captureOutcomeDuplicate)
    ∨ (receipt.outcome = captureOutcomeAccepted ↔ receipt.acceptedShareId = zeroHash)) .disposition
  verifySignature receipt.coreHandoffPubkey receipt.coreSignature receipt.networkId receipt

def validateTransition (transition : GatewayAssignmentTransitionV1) : Except HandoffError Unit := do
  validateContextManifest manifest transition.transitionMs
  versionContext transition.coreProtocolVersion transition.handoffVersion transition.networkId
    manifest.networkId transition.gatewayPubkey transition.coreHandoffPubkey
  rejectIf (transition.contextManifestId ≠ objectId manifest
    ∨ transition.gatewayPubkey ≠ manifest.gatewayPubkey
    ∨ transition.coreHandoffPubkey ≠ manifest.coreHandoffPubkey
    ∨ transition.transitionSequence = 0
    ∨ transition.previousAssignmentId = zeroHash
    ∨ transition.nextAssignmentId = zeroHash
    ∨ transition.previousAssignmentId = transition.nextAssignmentId)
    (.linkage "assignment transition")
  verifySignature transition.gatewayPubkey transition.gatewaySignature transition.networkId transition

def validateGatewayDrain (drain : GatewayAssignmentDrainV1) : Except HandoffError Unit := do
  validateContextManifest manifest drain.drainedMs
  versionContext drain.coreProtocolVersion drain.handoffVersion drain.networkId
    manifest.networkId drain.gatewayPubkey drain.coreHandoffPubkey
  rejectIf (drain.contextManifestId ≠ objectId manifest
    ∨ drain.gatewayPubkey ≠ manifest.gatewayPubkey
    ∨ drain.coreHandoffPubkey ≠ manifest.coreHandoffPubkey
    ∨ drain.assignmentId = zeroHash
    ∨ (drain.lastGatewaySequence = 0 ∧ drain.finalCaptureEnvelopeId ≠ zeroHash)
    ∨ (drain.lastGatewaySequence ≠ 0 ∧ drain.finalCaptureEnvelopeId = zeroHash)) .drainBoundary
  verifySignature drain.gatewayPubkey drain.gatewaySignature drain.networkId drain

def validateCoreDrainReceipt (drain : GatewayAssignmentDrainV1) (receipt : CoreAssignmentDrainReceiptV1)
    : Except HandoffError Unit := do
  validateGatewayDrain manifest drain
  versionContext receipt.coreProtocolVersion receipt.handoffVersion receipt.networkId
    drain.networkId receipt.gatewayPubkey receipt.coreHandoffPubkey
  rejectIf (receipt.contextManifestId ≠ drain.contextManifestId
    ∨ receipt.assignmentId ≠ drain.assignmentId
    ∨ receipt.gatewayDrainId ≠ objectId drain
    ∨ receipt.gatewayPubkey ≠ drain.gatewayPubkey
    ∨ receipt.coreHandoffPubkey ≠ drain.coreHandoffPubkey
    ∨ receipt.receiptSequence = 0
    ∨ receipt.acceptedThroughGatewaySequence ≠ drain.lastGatewaySequence
    ∨ ¬ (receipt.outcome = drainOutcomeComplete ∨ receipt.outcome = drainOutcomeRejected))
    .drainBoundary
  verifySignature receipt.coreHandoffPubkey receipt.coreSignature receipt.networkId receipt

/-!
### Objects of sample runs
-/

def operatorKey : ByteVec 32 := .fill 32 7
def gatewayKey : ByteVec 32 := .fill 32 8
def coreKey : ByteVec 32 := .fill 32 9

def unsignedAssignment : GatewayAssignmentV1 where
  coreProtocolVersion := coreV2
  handoffVersion := gatewayHandoffV1
  networkId := 2
  sessionId := .fill 32 1
  bodyPackageId := .fill 32 3
  bodyCertificateId := .fill 32 4
  operatorPubkey := operatorKey
  gatewayPubkey := gatewayKey
  coreHandoffPubkey := coreKey
  workerIdHash := .fill 32 5
  payoutBucketId := .fill 32 6
  assignmentSequence := 1
  ntime := 100
  extraNonceProfile := gatewayExtraNonceProfile
  observationPolicy := gatewayObservationCoreReceiptTime
  maximumClockSkewMs := 0
  extraNoncePrefix := .fill 4 1
  extraNonce2StartBe := .fill 4 0
  extraNonce2EndBe := .fill 4 255
  nonceStart := 0
  nonceEnd := 1000
  nonceStride := 1
  edgeTarget := .fill 32 255
  captureTarget := .fill 32 255
  telemetryLevel := 0
  operatorSignature := []

def sampleManifest : GatewayContextManifestV1 :=
  let manifest : GatewayContextManifestV1 := {
    coreProtocolVersion := coreV2
    handoffVersion := gatewayHandoffV1
    networkId := 2
    contextSequence := 1
    previousManifestId := zeroHash
    operatorPubkey := operatorKey
    gatewayPubkey := gatewayKey
    coreHandoffPubkey := coreKey
    validFromMs := 0
    validUntilMs := 10000
    maximumFrameBytes := 65536
    maximumInFlight := 16
    operatorSignature := [] }
  { manifest with operatorSignature := signObject operatorKey 2 manifest }

def signedAssignment (assignment : GatewayAssignmentV1) : GatewayAssignmentV1 :=
  { assignment with operatorSignature := signObject operatorKey 2 assignment }

def sampleReceipt (envelope : GatewayCaptureEnvelopeV1) (coreReceivedMs : UInt64) (outcome : UInt8)
    (acceptedShareId : Hash256) : GatewayCaptureReceiptV1 :=
  let receipt : GatewayCaptureReceiptV1 := {
    coreProtocolVersion := coreV2
    handoffVersion := gatewayHandoffV1
    networkId := 2
    contextManifestId := envelope.contextManifestId
    assignmentId := envelope.assignmentId
    captureEnvelopeId := objectId envelope
    gatewayPubkey := gatewayKey
    coreHandoffPubkey := coreKey
    receiptSequence := envelope.gatewaySequence
    coreReceivedMs
    outcome
    reasonCode := 0
    acceptedShareId
    coreSignature := [] }
  { receipt with coreSignature := signObject coreKey 2 receipt }

def sampleTransition (previous next : GatewayAssignmentV1) (last transitionMs : UInt64)
    : GatewayAssignmentTransitionV1 :=
  let transition : GatewayAssignmentTransitionV1 := {
    coreProtocolVersion := coreV2
    handoffVersion := gatewayHandoffV1
    networkId := 2
    contextManifestId := objectId sampleManifest
    gatewayPubkey := gatewayKey
    coreHandoffPubkey := coreKey
    transitionSequence := next.assignmentSequence
    previousAssignmentId := objectId previous
    nextAssignmentId := objectId next
    previousAssignmentLastGatewaySequence := last
    transitionMs
    reasonCode := 0
    gatewaySignature := [] }
  { transition with gatewaySignature := signObject gatewayKey 2 transition }

def sampleDrain (assignment : GatewayAssignmentV1) (last : UInt64) (finalCaptureEnvelopeId : Hash256)
    (drainedMs : UInt64) : GatewayAssignmentDrainV1 :=
  let drain : GatewayAssignmentDrainV1 := {
    coreProtocolVersion := coreV2
    handoffVersion := gatewayHandoffV1
    networkId := 2
    contextManifestId := objectId sampleManifest
    assignmentId := objectId assignment
    gatewayPubkey := gatewayKey
    coreHandoffPubkey := coreKey
    lastGatewaySequence := last
    finalCaptureEnvelopeId
    drainedMs
    gatewaySignature := [] }
  { drain with gatewaySignature := signObject gatewayKey 2 drain }

end MeshMine.Handoff
