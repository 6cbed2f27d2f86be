import MeshMine.CoreLink.Spool

/-!
The operator's client of the Core link: it turns a capture into a receipt, and announces the end of an
assignment (`meshmine-core-link/src/client.rs`).

What Core answers to a request is a parameter; a failed exchange is an error. Messages that Core sends
unasked only fill the client's queues, so the drain request in hand is a parameter as well.
-/

namespace MeshMine.CoreLink

open MeshMine.Types Crypto Handoff Gateway Storage
open Except (rejectIf)

/-- A failure of the transport, of the protocol or an error sent by Core is a failed exchange. -/
inductive ClientError where
  | exchange
  | spool (error : SpoolError)
  | signature
  | request
  | disposition
  | pendingCaptures
deriving DecidableEq

structure DrainRequiredV1 where
  currentAssignmentId : Hash256
  nextBundleId : Hash256
  nextAssignmentId : Hash256

structure OperatorCoreLinkClient where
  spool : OperatorCaptureSpool
  pinnedCorePubkey : PublicKey

variable [P : Primitives]

def terminalReceiptId (receipt : GatewayCaptureReceiptV1) : Except ClientError Hash256 :=
  if receipt.outcome = captureOutcomeAccepted ∨ receipt.outcome = captureOutcomeRejected
      ∨ receipt.outcome = captureOutcomeGraceNoncredit
      ∨ receipt.outcome = captureOutcomeDuplicate then
    .ok (objectId receipt)
  else
    .error .disposition

namespace OperatorCoreLinkClient

variable (client : OperatorCoreLinkClient)

def acknowledgeOffer (bundle : CoreAssignmentBundleV1) (acceptedAtMs : UInt64)
    : StoreM ClientError Unit := do
  StoreM.ofExcept
    ((bundle.validate acceptedAtMs client.pinnedCorePubkey).mapError fun _ => .signature)
  (client.spool.persistBundle bundle).adapt .spool

def checkDisposition (envelope : GatewayCaptureEnvelopeV1) (receipt : GatewayCaptureReceiptV1)
    : Except ClientError Unit := do
  rejectIf (receipt.captureEnvelopeId ≠ objectId envelope
    ∨ receipt.coreHandoffPubkey ≠ client.pinnedCorePubkey) .request
  (verifyObject client.pinnedCorePubkey ed25519Suite receipt.coreSignature receipt.networkId
    receipt).mapError fun _ => .signature

def submitCapture (answer : GatewayCaptureEnvelopeV1 → Except ClientError GatewayCaptureReceiptV1)
    (capture : ForwardedCapture)
    : StoreM ClientError Hash256 := do
  let workKey := captureWorkKey capture
  let recorded ← (OperatorCaptureSpool.receipt workKey).adapt .spool
  match recorded with
  | some receipt => StoreM.ofExcept (terminalReceiptId receipt)
  | none =>
    let envelope ← (client.spool.prepareEnvelope capture).adapt .spool
    let receipt ← StoreM.ofExcept (answer envelope)
    StoreM.ofExcept (client.checkDisposition envelope receipt)
    (client.spool.recordReceipt workKey envelope receipt).adapt .spool
    StoreM.ofExcept (terminalReceiptId receipt)

/-- The call `complete_drain` up to the point where both objects are durable and are sent. -/
def prepareDrain (required : Option DrainRequiredV1) (current next : CoreAssignmentBundleV1)
    (drainedMs : UInt64)
    : StoreM ClientError (GatewayAssignmentDrainV1 × GatewayAssignmentTransitionV1) := do
  let assignmentId := objectId current.assignment
  let required ← StoreM.ofExcept (required.elim (.error .request) .ok)
  StoreM.ofExcept (rejectIf (required.currentAssignmentId ≠ assignmentId
    ∨ required.nextBundleId ≠ objectId next
    ∨ required.nextAssignmentId ≠ objectId next.assignment) .request)
  let pending ← (OperatorCaptureSpool.pendingForAssignment assignmentId).adapt .spool
  StoreM.ofExcept (rejectIf (pending ≠ 0) .pendingCaptures)
  let head ← (OperatorCaptureSpool.sequenceHead assignmentId).adapt .spool
  let (drain, transition) ← StoreM.ofExcept ((buildDrainAndTransition current next head
    client.spool.gatewaySigningKey drainedMs).mapError .spool)
  (OperatorCaptureSpool.persistDrainAndTransition drain transition).adapt .spool
  return (drain, transition)

def settleDrain (current : CoreAssignmentBundleV1) (drain : GatewayAssignmentDrainV1)
    (receipt : Except ClientError CoreAssignmentDrainReceiptV1)
    : Except ClientError Unit := do
  let receipt ← receipt
  (validateCoreDrainReceipt current.manifest drain receipt).mapError fun _ => .signature
  rejectIf (receipt.coreHandoffPubkey ≠ client.pinnedCorePubkey) .signature

end OperatorCoreLinkClient

end MeshMine.CoreLink
