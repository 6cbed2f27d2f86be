import MeshMine.Handoff.Validation

/-!
The durable operations of the gateway-to-Core handoff (`meshmine-handoff/src/lib.rs`). Each one reads,
validates, and commits under conditions on what it has read.
-/

namespace MeshMine.Handoff

open MeshMine.Types Codec Storage
open Except (rejectIf)
open StoreM (adapt)

def gatewayCaptureCursorNamespace : String := "gateway-capture-cursor/v1"
def gatewayContextHeadNamespace : String := "gateway-context-head/v1"
def gatewayAssignmentHeadNamespace : String := "gateway-assignment-head/v1"
def gatewayAssignmentStateNamespace : String := "gateway-assignment-state/v1"

def assignmentStateActive : UInt8 := 1
def assignmentStateDrained : UInt8 := 2

def contextHeadMagic : ByteVec 4 := ⟨[77, 77, 67, 88], rfl⟩
def assignmentHeadMagic : ByteVec 4 := ⟨[77, 77, 65, 72], rfl⟩
def assignmentStateMagic : ByteVec 4 := ⟨[77, 77, 65, 83], rfl⟩

structure SequenceHeadV1 where
  networkId : UInt8
  sequence : UInt64
  objectId : Hash256

def identityKey (networkId : UInt8) (gatewayPubkey : PublicKey) : List UInt8 :=
  hexEncode [networkId] ++ asciiBytes "-" ++ hexEncode gatewayPubkey.toList

def contextHeadRow (networkId : UInt8) (gatewayPubkey : PublicKey) : Row :=
  ⟨gatewayContextHeadNamespace, identityKey networkId gatewayPubkey⟩

def assignmentHeadRow (networkId : UInt8) (gatewayPubkey : PublicKey) : Row :=
  ⟨gatewayAssignmentHeadNamespace, identityKey networkId gatewayPubkey⟩

def assignmentStateRow (assignmentId : Hash256) : Row :=
  ⟨gatewayAssignmentStateNamespace, hexEncode assignmentId.toList⟩

def captureCursorRow (assignmentId : Hash256) : Row :=
  ⟨gatewayCaptureCursorNamespace, hexEncode assignmentId.toList⟩

attribute [simp] assignmentStateRow captureCursorRow assignmentHeadRow contextHeadRow gatewayCaptureCursorNamespace
  gatewayContextHeadNamespace gatewayAssignmentHeadNamespace gatewayAssignmentStateNamespace

@[simp]
theorem identityKey_inj {n n' : UInt8} {k k' : PublicKey} : identityKey n k = identityKey n' k' ↔ n = n' ∧ k = k' := by
  constructor
  . intro h
    obtain ⟨hn, hk⟩ := hexEncode_append_inj (by simp) h
    exact ⟨List.head_eq_of_cons_eq hn, ByteVec.ext hk⟩
  . rintro ⟨rfl, rfl⟩
    rfl

def encodeSequenceHead (magic : ByteVec 4) (head : SequenceHeadV1) : List UInt8 :=
  Encoder.fixed magic ++ Encoder.u8 head.networkId ++ Encoder.u64 head.sequence
    ++ Encoder.fixed head.objectId

def decodeSequenceHead (expectedMagic : ByteVec 4) (expectedNetworkId : UInt8) (bytes : List UInt8)
    : Except HandoffError SequenceHeadV1 := do
  let (magic, head) ← (Decoder.fromCanonicalBytes decoder bytes ⟨64, 0⟩).mapError fun _ => .cursor
  rejectIf (magic ≠ expectedMagic) .cursor
  rejectIf (head.networkId ≠ expectedNetworkId ∨ head.sequence = 0 ∨ head.objectId = zeroHash) .cursor
  return head
where
  decoder : Decoder (ByteVec 4 × SequenceHeadV1) := do
    let magic ← Decoder.array 4
    let networkId ← Decoder.u8
    let sequence ← Decoder.u64
    let objectId ← Decoder.array 32
    return (magic, { networkId, sequence, objectId })

def assignmentStateValue (networkId : UInt8) (assignmentId : Hash256) (status : UInt8)
    : List UInt8 :=
  Encoder.fixed assignmentStateMagic ++ Encoder.u8 networkId ++ Encoder.fixed assignmentId
    ++ Encoder.u8 status

def decodeCursor (assignmentId : Hash256) : Option (List UInt8)
    → Except HandoffError GatewayCaptureCursorV1
  | none => .ok (.new assignmentId)
  | some bytes => (fromCanonicalBytes bytes ⟨128, 0⟩).mapError fun _ => .cursor

def durable {α : Type} (x : StoreM DurableInvariantError α) : StoreM HandoffError α :=
  adapt .durable x

def journalRecord {α : Type} [CanonicalEncode α] (kind : ProtocolRecordKind) (key : Hash256)
    (object : α) : JournalBatchRecord :=
  ⟨kind, key.toList, toCanonicalBytes object⟩

def exactJournalObject {α : Type} [CanonicalEncode α] (kind : ProtocolRecordKind) (objectId : Hash256)
    (expected : α) : StoreM HandoffError Unit := do
  let found ← durable (ProtocolJournal.load kind objectId.toList)
  StoreM.ofExcept (rejectIf (found ≠ some (toCanonicalBytes expected))
    (.linkage "durable handoff authorization"))

variable [P : Primitives] (manifest : GatewayContextManifestV1)

def persistGatewayContextManifest (nowMs : UInt64) : StoreM HandoffError JournalBatchOutcome := do
  StoreM.ofExcept (validateContextManifest manifest nowMs)
  let row := contextHeadRow manifest.networkId manifest.gatewayPubkey
  let existing ← StoreM.get row
  let manifestId := objectId manifest
  StoreM.ofExcept (checkSequence existing)
  durable (ProtocolJournal.persistRecordsWithConditionsAndBatch
    [journalRecord .gatewayContextManifest manifestId manifest]
    [⟨row, existing⟩]
    [.put row (encodeSequenceHead contextHeadMagic
      ⟨manifest.networkId, manifest.contextSequence, manifestId⟩)])
where
  checkSequence : Option (List UInt8) → Except HandoffError Unit
    | none => rejectIf (manifest.contextSequence ≠ 1 ∨ manifest.previousManifestId ≠ zeroHash) .sequence
    | some bytes => do
      let current ← decodeSequenceHead contextHeadMagic manifest.networkId bytes
      if current.objectId = objectId manifest then
        rejectIf (current.sequence ≠ manifest.contextSequence) .sequence
      else
        rejectIf (some manifest.contextSequence ≠ current.sequence.checkedAdd 1
          ∨ manifest.previousManifestId ≠ current.objectId) .sequence

def currentManifestHeadBytes : StoreM HandoffError (Row × List UInt8) := do
  let row := contextHeadRow manifest.networkId manifest.gatewayPubkey
  match ← StoreM.get row with
  | none => throw (.linkage "context manifest head")
  | some bytes =>
    let head ← StoreM.ofExcept (decodeSequenceHead contextHeadMagic manifest.networkId bytes)
    StoreM.ofExcept (rejectIf (head.sequence ≠ manifest.contextSequence
      ∨ head.objectId ≠ objectId manifest) .sequence)
    exactJournalObject .gatewayContextManifest (objectId manifest) manifest
    return (row, bytes)

variable (assignment : GatewayAssignmentV1)

def currentAssignmentHeadBytes : StoreM HandoffError (Row × List UInt8) := do
  let row := assignmentHeadRow assignment.networkId assignment.gatewayPubkey
  match ← StoreM.get row with
  | none => throw (.linkage "gateway assignment head")
  | some bytes =>
    let head ← StoreM.ofExcept (decodeSequenceHead assignmentHeadMagic assignment.networkId bytes)
    StoreM.ofExcept (rejectIf (head.sequence ≠ assignment.assignmentSequence
      ∨ head.objectId ≠ objectId assignment) .sequence)
    return (row, bytes)

def persistGatewayAssignmentAuthorization : StoreM HandoffError JournalBatchOutcome := do
  StoreM.ofExcept (validateGatewayAssignment manifest assignment)
  let (contextRow, contextHead) ← currentManifestHeadBytes manifest
  let headRow := assignmentHeadRow assignment.networkId assignment.gatewayPubkey
  let existingHead ← StoreM.get headRow
  let assignmentId := objectId assignment
  StoreM.ofExcept (checkSequence existingHead)
  let stateRow := assignmentStateRow assignmentId
  let active := assignmentStateValue assignment.networkId assignmentId assignmentStateActive
  let existingState ← StoreM.get stateRow
  StoreM.ofExcept (rejectIf (existingState ≠ none ∧ existingState ≠ some active) .captureAfterDrain)
  durable (ProtocolJournal.persistRecordsWithConditionsAndBatch
    [journalRecord .gatewayAssignment assignmentId assignment]
    [.equals contextRow contextHead, ⟨headRow, existingHead⟩, ⟨stateRow, existingState⟩]
    [.put headRow (encodeSequenceHead assignmentHeadMagic
        ⟨assignment.networkId, assignment.assignmentSequence, assignmentId⟩),
      .put stateRow active])
where
  checkSequence : Option (List UInt8) → Except HandoffError Unit
    | none => rejectIf (assignment.assignmentSequence ≠ 1) .sequence
    | some bytes => do
      let current ← decodeSequenceHead assignmentHeadMagic assignment.networkId bytes
      rejectIf (current.objectId ≠ objectId assignment
        ∨ current.sequence ≠ assignment.assignmentSequence) .sequence

structure PreparedCaptureDisposition where
  records : List JournalBatchRecord
  conditions : List BatchCondition
  operations : List BatchOperation
  sequenceDecision : CaptureSequenceDecision

def checkCursor (assignmentId : Hash256) (cursor : GatewayCaptureCursorV1) : Except HandoffError Unit :=
  rejectIf (cursor.assignmentId ≠ assignmentId
    ∨ cursor.nextGatewaySequence = 0
    ∨ (cursor.nextGatewaySequence = 1
      ∧ (cursor.lastEnvelopeId ≠ zeroHash ∨ cursor.lastGatewayReceivedMs ≠ 0))
    ∨ (1 < cursor.nextGatewaySequence ∧ cursor.lastEnvelopeId = zeroHash)
    ∨ ∃ sequence ∈ cursor.drainedThroughSequence,
      sequence.checkedAdd 1 ≠ some cursor.nextGatewaySequence) .cursor

variable (envelope : GatewayCaptureEnvelopeV1)

def dispositionRecords (receipt : GatewayCaptureReceiptV1) : List JournalBatchRecord :=
  [ journalRecord .gatewayContextManifest (objectId manifest) manifest,
    journalRecord .gatewayAssignment (objectId assignment) assignment,
    journalRecord .gatewayCaptureEnvelope (objectId envelope) envelope,
    journalRecord .gatewayCaptureReceipt (objectId envelope) receipt ]

def prepareCaptureDisposition (receipt : GatewayCaptureReceiptV1)
    : StoreM HandoffError PreparedCaptureDisposition := do
  StoreM.ofExcept (validateContextManifest manifest receipt.coreReceivedMs)
  let _ ← StoreM.ofExcept (validateCaptureEnvelope manifest assignment envelope receipt.coreReceivedMs)
  StoreM.ofExcept (validateCaptureReceipt envelope receipt)
  exactJournalObject .gatewayContextManifest (objectId manifest) manifest
  exactJournalObject .gatewayAssignment (objectId assignment) assignment
  let records := dispositionRecords manifest assignment envelope receipt
  let existingEnvelope ←
    durable (ProtocolJournal.load .gatewayCaptureEnvelope (objectId envelope).toList)
  let existingReceipt ←
    durable (ProtocolJournal.load .gatewayCaptureReceipt (objectId envelope).toList)
  if existingEnvelope = some (toCanonicalBytes envelope)
      ∧ existingReceipt = some (toCanonicalBytes receipt) then
    return { records, conditions := [], operations := [], sequenceDecision := .exactRetry }
  else
    StoreM.ofExcept (rejectIf (existingEnvelope.isSome ∨ existingReceipt.isSome)
      (.durable .immutableConflict))
    let (contextHeadRow, contextHead) ← currentManifestHeadBytes manifest
    let (assignmentHeadRow, assignmentHead) ← currentAssignmentHeadBytes assignment
    let stateRow := assignmentStateRow (objectId assignment)
    let activeState := assignmentStateValue assignment.networkId (objectId assignment)
      assignmentStateActive
    let state ← StoreM.get stateRow
    StoreM.ofExcept (rejectIf (state ≠ some activeState) .captureAfterDrain)
    let cursorRow := captureCursorRow (objectId assignment)
    let existingCursor ← StoreM.get cursorRow
    let cursor ← StoreM.ofExcept (decodeCursor (objectId assignment) existingCursor)
    StoreM.ofExcept (checkCursor (objectId assignment) cursor)
    let sequenceDecision ← StoreM.ofExcept (cursor.classify envelope)
    let cursor ← StoreM.ofExcept (cursor.advance envelope)
    return {
      records
      conditions := [.equals contextHeadRow contextHead, .equals assignmentHeadRow assignmentHead,
        .equals stateRow activeState, ⟨cursorRow, existingCursor⟩]
      operations := [.put cursorRow (toCanonicalBytes cursor)]
      sequenceDecision }

def persistNoncreditCaptureDisposition (receipt : GatewayCaptureReceiptV1)
    : StoreM HandoffError JournalBatchOutcome := do
  StoreM.ofExcept (rejectIf (receipt.outcome = captureOutcomeAccepted) .disposition)
  let prepared ← prepareCaptureDisposition manifest assignment envelope receipt
  durable (ProtocolJournal.persistRecordsWithConditionsAndBatch
    prepared.records prepared.conditions prepared.operations)

def loadGatewayAssignment (assignmentId : Hash256) : StoreM HandoffError GatewayAssignmentV1 := do
  match ← durable (ProtocolJournal.load .gatewayAssignment assignmentId.toList) with
  | none => throw (.linkage "durable gateway assignment")
  | some payload =>
    let assignment ← StoreM.ofExcept
      ((fromCanonicalBytes (α := GatewayAssignmentV1) payload ⟨4096, 0⟩).mapError
        fun _ => .linkage "durable gateway assignment")
    StoreM.ofExcept (rejectIf (objectId assignment ≠ assignmentId
      ∨ toCanonicalBytes assignment ≠ payload) (.linkage "durable gateway assignment"))
    return assignment

def persistGatewayAssignmentDrain (drain : GatewayAssignmentDrainV1) : StoreM HandoffError JournalBatchOutcome := do
  StoreM.ofExcept (validateGatewayDrain manifest drain)
  exactJournalObject .gatewayContextManifest (objectId manifest) manifest
  let assignment ← loadGatewayAssignment drain.assignmentId
  StoreM.ofExcept (validateGatewayAssignment manifest assignment)
  let stateRow := assignmentStateRow drain.assignmentId
  let active := assignmentStateValue drain.networkId drain.assignmentId assignmentStateActive
  let drained := assignmentStateValue drain.networkId drain.assignmentId assignmentStateDrained
  let existingState ← StoreM.get stateRow
  let cursorRow := captureCursorRow drain.assignmentId
  let existingCursor ← StoreM.get cursorRow
  let cursor ← StoreM.ofExcept (decodeCursor drain.assignmentId existingCursor)
  let cursor ← StoreM.ofExcept (cursor.applyDrain drain)
  if existingState = some drained then
    let recorded ← durable (ProtocolJournal.load .gatewayAssignmentDrain drain.assignmentId.toList)
    StoreM.ofExcept (rejectIf (recorded ≠ some (toCanonicalBytes drain)) (.durable .immutableConflict))
    return .exactRecord
  else
    let (contextHeadRow, contextHead) ← currentManifestHeadBytes manifest
    let (assignmentHeadRow, assignmentHead) ← currentAssignmentHeadBytes assignment
    StoreM.ofExcept (rejectIf (existingState ≠ some active) (.linkage "active gateway assignment"))
    durable (ProtocolJournal.persistRecordsWithConditionsAndBatch
      [journalRecord .gatewayAssignmentDrain drain.assignmentId drain]
      [.equals contextHeadRow contextHead, .equals assignmentHeadRow assignmentHead,
        .equals stateRow active, ⟨cursorRow, existingCursor⟩]
      [.put cursorRow (toCanonicalBytes cursor), .put stateRow drained])

def persistGatewayAssignmentTransition (nextAssignment : GatewayAssignmentV1)
    (transition : GatewayAssignmentTransitionV1) : StoreM HandoffError JournalBatchOutcome := do
  StoreM.ofExcept (validateTransition manifest transition)
  StoreM.ofExcept (validateGatewayAssignment manifest nextAssignment)
  let previous ← loadGatewayAssignment transition.previousAssignmentId
  StoreM.ofExcept (validateGatewayAssignment manifest previous)
  StoreM.ofExcept (rejectIf (transition.nextAssignmentId ≠ objectId nextAssignment
    ∨ transition.transitionSequence ≠ nextAssignment.assignmentSequence
    ∨ previous.assignmentSequence.checkedAdd 1 ≠ some nextAssignment.assignmentSequence
    ∨ previous.gatewayPubkey ≠ nextAssignment.gatewayPubkey
    ∨ previous.coreHandoffPubkey ≠ nextAssignment.coreHandoffPubkey
    ∨ previous.operatorPubkey ≠ nextAssignment.operatorPubkey) .sequence)
  let (contextRow, contextHead) ← currentManifestHeadBytes manifest
  let headRow := assignmentHeadRow nextAssignment.networkId nextAssignment.gatewayPubkey
  match ← StoreM.get headRow with
  | none => throw .sequence
  | some existingHead =>
    let current ← StoreM.ofExcept
      (decodeSequenceHead assignmentHeadMagic nextAssignment.networkId existingHead)
    let nextId := objectId nextAssignment
    if current.objectId = nextId ∧ current.sequence = nextAssignment.assignmentSequence then
      exactJournalObject .gatewayAssignmentTransition transition.previousAssignmentId transition
      return .exactRecord
    else
      StoreM.ofExcept (rejectIf (current.objectId ≠ objectId previous
        ∨ current.sequence ≠ previous.assignmentSequence) .sequence)
      let previousStateRow := assignmentStateRow (objectId previous)
      let previousDrained := assignmentStateValue previous.networkId (objectId previous)
        assignmentStateDrained
      let previousState ← StoreM.get previousStateRow
      StoreM.ofExcept (rejectIf (previousState ≠ some previousDrained) .drainBoundary)
      match ← StoreM.get (captureCursorRow (objectId previous)) with
      | none => throw .drainBoundary
      | some previousCursor =>
        let cursor ← StoreM.ofExcept
          ((fromCanonicalBytes (α := GatewayCaptureCursorV1) previousCursor ⟨128, 0⟩).mapError
            fun _ => .cursor)
        StoreM.ofExcept (rejectIf (cursor.drainedThroughSequence
          ≠ some transition.previousAssignmentLastGatewaySequence) .drainBoundary)
        let nextStateRow := assignmentStateRow nextId
        let existingNextState ← StoreM.get nextStateRow
        StoreM.ofExcept (rejectIf existingNextState.isSome .sequence)
        durable (ProtocolJournal.persistRecordsWithConditionsAndBatch
          [ journalRecord .gatewayAssignment nextId nextAssignment,
            journalRecord .gatewayAssignmentTransition transition.previousAssignmentId transition ]
          [ .equals contextRow contextHead, .equals headRow existingHead,
            .equals previousStateRow previousDrained, ⟨nextStateRow, existingNextState⟩ ]
          [ .put headRow (encodeSequenceHead assignmentHeadMagic
              ⟨nextAssignment.networkId, nextAssignment.assignmentSequence, nextId⟩),
            .put nextStateRow (assignmentStateValue nextAssignment.networkId nextId
              assignmentStateActive) ])

end MeshMine.Handoff
