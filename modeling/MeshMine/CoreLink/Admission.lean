import MeshMine.CoreLink.Bundle
import MeshMine.Share.Validation

/-!
Core's side of the link: the durable active and pending bundles, the admission of captures and the transition
to a replacement (`meshmine-core-link/src/admission.rs`).
-/

namespace MeshMine.CoreLink

open MeshMine.Types Codec Crypto Handoff Share Storage
open Except (rejectIf)
open StoreM (adapt)

inductive AdmissionError where
  | bundle (error : BundleError)
  | handoff (error : HandoffError)
  | share (error : ShareError)
  | storage (error : StorageError)
  | durable (error : DurableInvariantError)
  | codec (error : CodecError)
  | identity
  | parentOracle
  | noActiveBundle
  | noPendingBundle
  | unknownAssignment
  | stateRace

instance : FromStorageError AdmissionError where
  ofStorage := .storage

def captureReasonValidated : UInt16 := 0
def captureReasonDuplicateWork : UInt16 := 1
def captureReasonShareLinkage : UInt16 := 2
def captureReasonCaptureTarget : UInt16 := 3
def captureReasonParentOracle : UInt16 := 4
def captureReasonSessionWindow : UInt16 := 5
def captureReasonSignature : UInt16 := 6
def captureReasonContext : UInt16 := 7
def captureReasonOther : UInt16 := 0xffff

def shareReason : ShareError → UInt16
  | .duplicateWork => captureReasonDuplicateWork
  | .captureTarget | .rawShareHash => captureReasonCaptureTarget
  | .parentOracleRejected => captureReasonParentOracle
  | .sessionNotOpen => captureReasonSessionWindow
  | .operatorSignature _ => captureReasonSignature
  | .gatewayHandoff _ => captureReasonContext
  | .linkage _ => captureReasonShareLinkage
  | _ => captureReasonOther

structure CaptureAdmission where
  receipt : GatewayCaptureReceiptV1
  acceptedShareId : Option Hash256
  exactRetry : Bool

/-- The oracle looks at a live node: `parentOracle n` is its answer to the question number `n` of a call. -/
structure CoreAdmissionEngine where
  networkId : UInt8
  coreSigningKey : ByteVec 32
  operatorSigningKey : ByteVec 32
  parentOracle : Nat → ParentChainOracle

def coreBundleRow (bundleId : List UInt8) : Row :=
  ⟨"core-link-core-bundle/v1", hexEncode bundleId⟩
def coreBundleIndexRow (assignmentId : Hash256) : Row :=
  ⟨"core-link-core-bundle-assignment-index/v1", hexEncode assignmentId.toList⟩
def activeBundleRow : Row :=
  ⟨"core-link-core-bundle-state/v1", asciiBytes "active"⟩
def pendingBundleRow : Row :=
  ⟨"core-link-core-bundle-state/v1", asciiBytes "pending"⟩

/-- The result of an operation whose error the caller inspects. -/
def resultOf {E E' α : Type} (x : StoreM E α) : StoreM E' (Except E α) :=
  ExceptT.mk do
    return .ok (← x.run)

variable [P : Primitives]

def loadBundleBytes (bundleId : List UInt8) : StoreM AdmissionError CoreAssignmentBundleV1 := do
  StoreM.ofExcept (rejectIf (bundleId.length ≠ 32) .identity)
  match ← StoreM.get (coreBundleRow bundleId) with
  | none => throw .identity
  | some bytes =>
    let bundle ← StoreM.ofExcept
      ((fromCanonicalBytes (α := CoreAssignmentBundleV1) bytes bundleLimits).mapError .codec)
    StoreM.ofExcept (rejectIf ((objectId bundle).toList ≠ bundleId ∨ toCanonicalBytes bundle ≠ bytes)
      .identity)
    return bundle

def loadStateBundle (stateRow : Row) : StoreM AdmissionError (Option CoreAssignmentBundleV1) := do
  match ← StoreM.get stateRow with
  | none => return none
  | some bundleId => return some (← loadBundleBytes bundleId)

def activeBundle : StoreM AdmissionError (Option CoreAssignmentBundleV1) :=
  loadStateBundle activeBundleRow

def pendingBundle : StoreM AdmissionError (Option CoreAssignmentBundleV1) :=
  loadStateBundle pendingBundleRow

def bundleForAssignment (assignmentId : Hash256) : StoreM AdmissionError CoreAssignmentBundleV1 := do
  match ← StoreM.get (coreBundleIndexRow assignmentId) with
  | none => throw .unknownAssignment
  | some bundleId =>
    StoreM.ofExcept (rejectIf (bundleId.length ≠ 32) .identity)
    loadBundleBytes bundleId

/-- The source's `compare_and_swap` against an absent row. -/
def installActive (bundle : CoreAssignmentBundleV1) (nowMs : UInt64) : StoreM AdmissionError Unit := do
  StoreM.ofExcept (rejectIf (bundle.assignment.assignmentSequence ≠ 1 ∨ bundle.replacement.isSome) .identity)
  let _ ← adapt .handoff (persistGatewayContextManifest bundle.manifest nowMs)
  let _ ← adapt .handoff
    (persistGatewayAssignmentAuthorization bundle.manifest bundle.assignment)
  if ← StoreM.compareAndSwap activeBundleRow none (objectId bundle).toList then
    return
  else
    let active ← activeBundle
    StoreM.ofExcept (rejectIf (active.map objectId ≠ some (objectId bundle)) .stateRace)

def markPending (active bundle : CoreAssignmentBundleV1) : StoreM AdmissionError Unit := do
  match bundle.replacement with
  | none => throw .identity
  | some replacement =>
    StoreM.ofExcept (rejectIf (replacement.previousAssignmentId ≠ objectId active.assignment
      ∨ bundle.previousBundleId ≠ objectId active
      ∨ active.assignment.assignmentSequence.checkedAdd 1 ≠ some bundle.assignment.assignmentSequence)
      .identity)
    match ← pendingBundle with
    | some existing =>
      StoreM.ofExcept (rejectIf (objectId existing ≠ objectId bundle) .identity)
    | none =>
      let swapped ← StoreM.compareAndSwap pendingBundleRow none (objectId bundle).toList
      StoreM.ofExcept (rejectIf (swapped = false) .stateRace)

def installOrMarkPending (bundle : CoreAssignmentBundleV1) (nowMs : UInt64)
    : StoreM AdmissionError Unit := do
  match ← activeBundle with
  | none => installActive bundle nowMs
  | some active =>
    if objectId active = objectId bundle then
      return
    else
      markPending active bundle

namespace CoreAdmissionEngine

variable (engine : CoreAdmissionEngine)

def corePubkey : PublicKey :=
  P.ed25519Public engine.coreSigningKey

def operatorPubkey : PublicKey :=
  P.ed25519Public engine.operatorSigningKey

def validateLocalBundle (bundle : CoreAssignmentBundleV1) (nowMs : UInt64) : Except AdmissionError Unit := do
  rejectIf (bundle.networkId ≠ engine.networkId
    ∨ bundle.assignment.coreHandoffPubkey ≠ engine.corePubkey
    ∨ bundle.assignment.operatorPubkey ≠ engine.operatorPubkey) .identity
  (bundle.validate nowMs engine.corePubkey).mapError .bundle
  rejectIf (engine.parentOracle 0 bundle.parentCertificate = false) .parentOracle

def stageBundle (bundle : CoreAssignmentBundleV1) (nowMs : UInt64) : StoreM AdmissionError Unit := do
  StoreM.ofExcept (engine.validateLocalBundle bundle nowMs)
  let bundleRow := coreBundleRow (objectId bundle).toList
  let indexRow := coreBundleIndexRow (objectId bundle.assignment)
  let bytes := toCanonicalBytes bundle
  let existingBundle ← StoreM.get bundleRow
  let existingIndex ← StoreM.get indexRow
  if existingBundle = some bytes ∧ existingIndex = some (objectId bundle).toList then
    installOrMarkPending bundle nowMs
  else
    StoreM.ofExcept (rejectIf (existingBundle.isSome ∨ existingIndex.isSome) .identity)
    let stored ← StoreM.applyBatchIfAll [.absent bundleRow, .absent indexRow]
      [.put bundleRow bytes, .put indexRow (objectId bundle).toList]
    StoreM.ofExcept (rejectIf (stored = false) .stateRace)
    installOrMarkPending bundle nowMs

def captureReceipt (bundle : CoreAssignmentBundleV1) (envelope : GatewayCaptureEnvelopeV1) (coreReceivedMs : UInt64)
    (outcome : UInt8) (reasonCode : UInt16) (acceptedShareId : Hash256) : GatewayCaptureReceiptV1 :=
  let receipt : GatewayCaptureReceiptV1 := {
    coreProtocolVersion := coreV2
    handoffVersion := gatewayHandoffV1
    networkId := engine.networkId
    contextManifestId := objectId bundle.manifest
    assignmentId := objectId bundle.assignment
    captureEnvelopeId := objectId envelope
    gatewayPubkey := bundle.assignment.gatewayPubkey
    coreHandoffPubkey := engine.corePubkey
    receiptSequence := envelope.gatewaySequence
    coreReceivedMs
    outcome
    reasonCode
    acceptedShareId
    coreSignature := [] }
  { receipt with coreSignature := signObject engine.coreSigningKey engine.networkId receipt }

def persistNoncredit (bundle : CoreAssignmentBundleV1) (envelope : GatewayCaptureEnvelopeV1) (coreReceivedMs : UInt64)
    (outcome : UInt8) (reasonCode : UInt16) : StoreM AdmissionError CaptureAdmission := do
  let receipt := engine.captureReceipt bundle envelope coreReceivedMs outcome reasonCode zeroHash
  match ← adapt .handoff
      (persistNoncreditCaptureDisposition bundle.manifest bundle.assignment envelope receipt) with
  | .committed | .exactRecord => return ⟨receipt, none, false⟩
  | .preconditionMismatch => throw .stateRace

def captureShare (bundle : CoreAssignmentBundleV1) (envelope : GatewayCaptureEnvelopeV1) : ShareV2 :=
  let share : ShareV2 := {
    protocolVersion := coreV2
    networkId := engine.networkId
    sessionId := objectId bundle.session
    assignmentId := objectId bundle.assignment
    bodyPackageId := objectId bundle.body
    operatorPubkey := engine.operatorPubkey
    payoutBucketId := objectId bundle.payoutBucket
    nonce := envelope.nonce
    ntime := envelope.ntime
    extraNonce := envelope.extraNonce
    rawShareHash := envelope.rawShareHash
    declaredTarget := bundle.assignment.captureTarget
    gossipParentHashes := []
    localTelemetryHash := some (objectId envelope)
    operatorSignature := [] }
  { share with operatorSignature := signObject engine.operatorSigningKey engine.networkId share }

def shareContext (bundle : CoreAssignmentBundleV1) (envelope : GatewayCaptureEnvelopeV1) (coreReceivedMs : UInt64)
    : GatewayShareValidationContext where
  assignment := bundle.assignment
  contextManifest := bundle.manifest
  captureEnvelope := envelope
  session := bundle.session
  parentCertificate := bundle.parentCertificate
  body := bundle.body
  descriptor := bundle.descriptor
  bodyCertificate := bundle.bodyCertificate
  payoutBucket := bundle.payoutBucket
  maskRoster := bundle.maskRoster
  availabilityRoster := bundle.availabilityRoster
  settlementRoster := bundle.settlementRoster
  coreReceivedMs
  parentOracle := engine.parentOracle 1

def admitNewCapture (envelope : GatewayCaptureEnvelopeV1) (coreReceivedMs : UInt64)
    : StoreM AdmissionError CaptureAdmission := do
  let bundle ← bundleForAssignment envelope.assignmentId
  StoreM.ofExcept (engine.validateLocalBundle bundle coreReceivedMs)
  match validateGatewayShare (engine.captureShare bundle envelope)
      (engine.shareContext bundle envelope coreReceivedMs) with
  | .ok validated =>
    let accepted := engine.captureReceipt bundle envelope coreReceivedMs captureOutcomeAccepted
      captureReasonValidated validated.shareId
    let builder := ReceiptBuilder.new coreV2 engine.networkId (objectId bundle.session) 1 zeroHash 0
      (ByteVec.zero 64)
    match ← resultOf (builder.acceptGatewayDurable validated bundle.manifest bundle.assignment envelope
        accepted) with
    | .ok _ => return ⟨accepted, some validated.shareId, false⟩
    | .error .duplicateWork =>
      engine.persistNoncredit bundle envelope coreReceivedMs captureOutcomeDuplicate
        captureReasonDuplicateWork
    | .error error => throw (.share error)
  | .error error =>
    engine.persistNoncredit bundle envelope coreReceivedMs
      (if error = .duplicateWork then captureOutcomeDuplicate else captureOutcomeRejected)
      (shareReason error)

def admitCapture (envelope : GatewayCaptureEnvelopeV1) (coreReceivedMs : UInt64)
    : StoreM AdmissionError CaptureAdmission := do
  match ← adapt .durable
      (ProtocolJournal.load .gatewayCaptureReceipt (objectId envelope).toList) with
  | some bytes =>
    let receipt ← StoreM.ofExcept
      ((fromCanonicalBytes (α := GatewayCaptureReceiptV1) bytes ⟨4096, 0⟩).mapError .codec)
    StoreM.ofExcept ((validateCaptureReceipt envelope receipt).mapError .handoff)
    return {
      acceptedShareId := if receipt.outcome = captureOutcomeAccepted then some receipt.acceptedShareId
        else none
      receipt
      exactRetry := true }
  | none => engine.admitNewCapture envelope coreReceivedMs

variable (active pending : CoreAssignmentBundleV1) (drain : GatewayAssignmentDrainV1)

def drainReceipt (coreReceivedMs : UInt64) : CoreAssignmentDrainReceiptV1 :=
  let receipt : CoreAssignmentDrainReceiptV1 := {
    coreProtocolVersion := coreV2
    handoffVersion := gatewayHandoffV1
    networkId := engine.networkId
    contextManifestId := objectId active.manifest
    assignmentId := objectId active.assignment
    gatewayDrainId := objectId drain
    gatewayPubkey := active.assignment.gatewayPubkey
    coreHandoffPubkey := engine.corePubkey
    acceptedThroughGatewaySequence := drain.lastGatewaySequence
    receiptSequence := pending.assignment.assignmentSequence
    coreReceivedMs
    outcome := drainOutcomeComplete
    reasonCode := 0
    coreSignature := [] }
  { receipt with coreSignature := signObject engine.coreSigningKey engine.networkId receipt }

def persistDrainReceipt (active : CoreAssignmentBundleV1) (receipt : CoreAssignmentDrainReceiptV1)
    : StoreM AdmissionError Unit :=
  adapt .durable (ProtocolJournal.persist .coreAssignmentDrainReceipt
    (objectId active.assignment).toList (toCanonicalBytes receipt))

def swapBundles : StoreM AdmissionError Unit := do
  let pendingId := (objectId pending).toList
  if ← StoreM.applyBatchIfAll
      [.equals activeBundleRow (objectId active).toList, .equals pendingBundleRow pendingId]
      [.put activeBundleRow pendingId, .delete pendingBundleRow] then
    return
  else
    let current ← activeBundle
    StoreM.ofExcept (rejectIf (current.map objectId ≠ some (objectId pending)) .stateRace)

/-- The four journaled steps of a transition; the store commits each of them on its own. -/
def recordTransition (transition : GatewayAssignmentTransitionV1) (coreReceivedMs : UInt64)
    : StoreM AdmissionError CoreAssignmentDrainReceiptV1 := do
  let _ ← adapt .handoff (persistGatewayAssignmentDrain active.manifest drain)
  let receipt := engine.drainReceipt active pending drain coreReceivedMs
  StoreM.ofExcept ((validateCoreDrainReceipt active.manifest drain receipt).mapError .handoff)
  persistDrainReceipt active receipt
  let _ ← adapt .handoff (persistGatewayContextManifest pending.manifest coreReceivedMs)
  let _ ← adapt .handoff
    (persistGatewayAssignmentTransition pending.manifest pending.assignment transition)
  return receipt

def completePendingTransition (transition : GatewayAssignmentTransitionV1) (coreReceivedMs : UInt64)
    : StoreM AdmissionError CoreAssignmentDrainReceiptV1 := do
  match ← activeBundle with
  | none => throw .noActiveBundle
  | some active =>
    match ← pendingBundle with
    | none => throw .noPendingBundle
    | some pending =>
      match pending.replacement with
      | none => throw .identity
      | some replacement =>
        StoreM.ofExcept (rejectIf (drain.assignmentId ≠ objectId active.assignment
          ∨ replacement.previousAssignmentId ≠ objectId active.assignment
          ∨ transition.previousAssignmentId ≠ objectId active.assignment
          ∨ transition.nextAssignmentId ≠ objectId pending.assignment) .identity)
        let receipt ← engine.recordTransition active pending drain transition coreReceivedMs
        swapBundles active pending
        return receipt

end CoreAdmissionEngine

end MeshMine.CoreLink
