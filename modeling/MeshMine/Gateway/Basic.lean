import MeshMine.Gateway.Job

/-!
The operator's gateway: a process that holds the jobs it has issued and the captures not yet handed to
Core, and writes both through to the durable store (`Gateway` of `meshmine-gateway/src/lib.rs`).

The memory of the process is passed as explicit state and survives an error return. A hash map is an
association list and a hash set a list without duplicates; the order of their entries stands for the
unspecified iteration order.
-/

namespace MeshMine

open MeshMine.Types Storage Hns
open Except (rejectIf)

namespace Gateway

def maxRecoveredAssignments : Nat := 100000
def maxRecoveredCaptures : Nat := 1000000
def maxRecoveryValueBytes : Nat := 4 * 1024 * 1024
def maxAssignmentRecoveryBytes : Nat := 512 * 1024 * 1024
def maxCaptureRecoveryBytes : Nat := 512 * 1024 * 1024
def maxGatewayEvents : Nat := 10000
def retireDeleteBatch : Nat := 4096
def maxRetirementsPerPass : Nat := 1024

inductive GatewayEvent where
  | jobIssued (jobId : Text) (assignmentSequence : UInt64)
  | jobCancelled (jobId : Text) (creditCutoffMs submissionEndMs : UInt64)
  | captureForwarded (jobId : Text) (rawShareHash : Hash256) (creditEligible : Bool)
  | submissionRejected (jobId : Text) (reason : String)

abbrev Jobs := AList fun _ : Text => GatewayJob × JobState

end Gateway

open Gateway in
structure Gateway where
  jobs : Jobs
  currentJob : Option Text
  seenWork : List Hash256
  forwarded : List ForwardedCapture
  captureIndexes : AList fun _ : Hash256 => Nat
  pendingByAssignment : AList fun _ : UInt64 => Nat
  tombstonesByAssignment : AList fun _ : UInt64 => List Hash256
  retiringAssignments : List UInt64
  events : List GatewayEvent
  droppedEvents : UInt64
  enforceHandyTarget : Bool

namespace Gateway

structure CaptureDrainReport where
  attempted : Nat
  acknowledged : Nat
  lastDownstreamId : Option Hash256

def CaptureDrainReport.default : CaptureDrainReport :=
  ⟨0, 0, none⟩

/-!
### Checks
-/

theorem length_toMinimalBE_le_of_not_lt {n : Nat} (h : ¬ 32 < (Bytes.toMinimalBE n).length)
    : (List.replicate (32 - (Bytes.toMinimalBE n).length) (0 : UInt8) ++ Bytes.toMinimalBE n).length
        =
      32 := by
  rw [List.length_append, List.length_replicate]
  omega

def handyTargetFromDifficulty (difficulty : UInt32) : Except GatewayError Hash256 :=
  if difficulty = 0 ∨ maxHandyDifficulty < difficulty then
    .error .invalidDifficulty
  else
    let target := (2 ^ (8 * 29) - 1) / difficulty.toNat
    let effective := compactToTarget (targetToCompact target)
    if effective < 0 then
      .error .invalidDifficulty
    else if h : 32 < (Bytes.toMinimalBE effective.toNat).length then
      .error .invalidDifficulty
    else
      .ok ⟨_, length_toMinimalBE_le_of_not_lt h⟩

def isJobIdByte (byte : UInt8) : Bool :=
  (48 ≤ byte && byte ≤ 57) || (65 ≤ byte && byte ≤ 90) || (97 ≤ byte && byte ≤ 122) || byte = 45

def validateJob (job : GatewayJob) (enforceHandyTarget : Bool) : Except GatewayError Unit := do
  rejectIf (job.id.length < 12 ∨ 64 < job.id.length ∨ ¬ job.id.all isJobIdByte) .invalidJobId
  rejectIf (maxJobTransactions < job.transactionHashes.length) .jobTooLarge
  rejectIf (job.assignmentEndMs < job.issuedMs ∨ job.submissionEndMs < job.assignmentEndMs)
    .invalidJobTiming
  rejectIf (job.advertisedDifficulty = 0 ∨ maxHandyDifficulty < job.advertisedDifficulty)
    .invalidDifficulty
  let capture ← (deriveCaptureParameters job.bits job.blindBandBitsD).mapError
    fun _ => .invalidCaptureProfile
  rejectIf (job.leadingZeroPrefixQ ≠ capture.leadingZeroPrefixQ
    ∨ job.captureTarget ≠ capture.captureTarget) .invalidCaptureProfile
  if enforceHandyTarget then
    let target ← handyTargetFromDifficulty job.advertisedDifficulty
    rejectIf (job.advertisedDeviceTarget ≠ target) .advertisedTargetMismatch
  rejectIf (job.advertisedDeviceTarget < job.captureTarget) .deviceTargetTooHard

def validateRecoveredJobState (job : GatewayJob) : JobState → Except GatewayError Unit
  | .grace creditCutoffMs submissionEndMs =>
    rejectIf (creditCutoffMs < job.issuedMs ∨ submissionEndMs < creditCutoffMs
      ∨ job.submissionEndMs < submissionEndMs) .invalidDurableState
  | _ => .ok ()

section

variable [P : Primitives]

def captureWorkKey (capture : ForwardedCapture) : Hash256 :=
  domainHash "meshmine/gateway-work/v2"
    (capture.jobId ++ capture.minerHeader.extraNonce.toList
      ++ u32Bytes (UInt32.ofNat capture.minerHeader.time.toNat)
      ++ u32Bytes capture.minerHeader.nonce ++ capture.rawShareHash.toList)

def gatewayAssignmentJobId (assignment : GatewayAssignmentV1) : Text :=
  hexEncode (objectId assignment).toList

def validateRecoveredCapture (capture : ForwardedCapture) (jobs : Jobs)
    : Except GatewayError Unit := do
  rejectIf (capture.username = [] ∨ 100 < capture.username.length) .invalidDurableState
  match jobs.lookup capture.jobId with
  | none => .error .invalidDurableState
  | some (job, _) =>
    let header := capture.minerHeader
    rejectIf (capture.assignmentSequence ≠ job.assignmentSequence
      ∨ header.time ≠ job.ntime.toUInt64
      ∨ header.prevBlock ≠ job.previousBlock
      ∨ header.merkleRoot ≠ job.merkleRoot
      ∨ header.witnessRoot ≠ job.witnessRoot
      ∨ header.treeRoot ≠ job.treeRoot
      ∨ header.reservedRoot ≠ job.reservedRoot
      ∨ header.version ≠ job.version
      ∨ header.bits ≠ job.bits
      ∨ header.maskHash ≠ job.maskHash
      ∨ (header.extraNonce.toList.drop 8).any (· ≠ 0)
      ∨ header.shareHash ≠ capture.rawShareHash
      ∨ job.captureTarget < capture.rawShareHash
      ∨ capture.receivedMs < job.issuedMs
      ∨ job.submissionEndMs < capture.receivedMs) .invalidDurableState

structure AuthorizedGatewayJobRequest where
  manifest : GatewayContextManifestV1
  assignment : GatewayAssignmentV1
  session : MaskSessionV2
  body : BlockBodyPackageV2
  descriptor : BodyErasureDescriptorV2
  bodyCertificate : BodyAvailabilityCertificateV2
  job : GatewayJob
  transition : Option PreviousJobTransition

def validateAuthorizedJobBinding (request : AuthorizedGatewayJobRequest)
    : Except GatewayError Unit :=
  let job := request.job
  let assignment := request.assignment
  let session := request.session
  let body := request.body
  let descriptor := request.descriptor
  let certificate := request.bodyCertificate
  let template := body.templateCore
  rejectIf (¬ (assignment.ntime.toNat < 2 ^ 32
    ∧ assignment.sessionId = objectId session
    ∧ assignment.bodyPackageId = objectId body
    ∧ assignment.bodyCertificateId = objectId certificate
    ∧ descriptor.bodyPackageId = assignment.bodyPackageId
    ∧ certificate.descriptorId = objectId descriptor
    ∧ certificate.parentHash = session.parentHash
    ∧ certificate.parentHeight = template.hnsParentHeight
    ∧ certificate.consensusValidationResultHash = body.consensusValidationResultHash
    ∧ assignment.networkId = session.networkId
    ∧ assignment.networkId = body.networkId
    ∧ assignment.networkId = descriptor.networkId
    ∧ assignment.networkId = certificate.networkId
    ∧ assignment.coreProtocolVersion = session.protocolVersion
    ∧ assignment.coreProtocolVersion = body.protocolVersion
    ∧ assignment.coreProtocolVersion = descriptor.protocolVersion
    ∧ assignment.coreProtocolVersion = certificate.protocolVersion
    ∧ body.templateCoreId = objectId template
    ∧ template.networkId = assignment.networkId
    ∧ template.hnsParentHash = session.parentHash
    ∧ session.captureTarget = assignment.captureTarget
    ∧ job.id = gatewayAssignmentJobId assignment
    ∧ job.assignmentSequence = 0
    ∧ job.previousBlock = session.parentHash
    ∧ job.merkleRoot = body.merkleRoot
    ∧ job.witnessRoot = body.witnessRoot
    ∧ job.treeRoot = body.treeRoot
    ∧ job.reservedRoot = body.reservedRoot
    ∧ job.version = template.blockVersion
    ∧ job.bits = template.bits
    ∧ job.ntime = UInt32.ofNat assignment.ntime.toNat
    ∧ template.minimumNtime ≤ assignment.ntime
    ∧ job.maskHash = session.maskHash
    ∧ job.leadingZeroPrefixQ = session.leadingZeroPrefixQ
    ∧ job.blindBandBitsD = session.blindBandBitsD
    ∧ job.captureTarget = session.captureTarget
    ∧ job.captureTarget = assignment.captureTarget
    ∧ job.advertisedDeviceTarget = assignment.edgeTarget
    ∧ job.issuedMs = session.assignmentStartMs
    ∧ job.assignmentEndMs = session.assignmentEndMs
    ∧ job.submissionEndMs = session.submissionEndMs
    ∧ job.transactionHashes = template.orderedNonCoinbaseTxids)) .assignmentAuthorizationMismatch

end

/-!
### The process
-/

abbrev GatewayM := ExceptT GatewayError (StateT Gateway (Program storeMachine))

namespace GatewayM

def ofStore {α : Type} (x : StoreM GatewayError α) : GatewayM α :=
  ExceptT.mk fun gateway => do
    let result ← x.run
    return (result, gateway)

def checked {α : Type} (x : Except GatewayError α) : GatewayM α :=
  ExceptT.mk (pure x)

def memory : GatewayM Gateway :=
  ExceptT.mk fun gateway => pure (.ok gateway, gateway)

def update (f : Gateway → Gateway) : GatewayM Unit :=
  ExceptT.mk fun gateway => pure (.ok (), f gateway)

def fail {α : Type} (error : GatewayError) : GatewayM α :=
  checked (.error error)

def expect {α : Type} (value : Option α) (error : GatewayError) : GatewayM α :=
  checked (value.elim (.error error) .ok)

def refuseIf (condition : Prop) [Decidable condition] (error : GatewayError) : GatewayM Unit :=
  checked (rejectIf condition error)

end GatewayM

open GatewayM

def pushEvent (event : GatewayEvent) : GatewayM Unit :=
  update fun gateway =>
    if gateway.events.length = maxGatewayEvents then
      { gateway with
        events := gateway.events.drop 1 ++ [event]
        droppedEvents := if gateway.droppedEvents = 0xffffffffffffffff then gateway.droppedEvents
          else gateway.droppedEvents + 1 }
    else
      { gateway with events := gateway.events ++ [event] }

def reject {α : Type} (jobId : Text) (reason : String) (error : GatewayError) : GatewayM α := do
  pushEvent (.submissionRejected jobId reason)
  fail error

def setJobState (id : Text) (state : JobState) : GatewayM Unit := do
  let gateway ← memory
  let (job, _) ← expect (gateway.jobs.lookup id) .invalidDurableState
  update fun gateway => { gateway with jobs := gateway.jobs.insert id (job, state) }

def loadSequenceCandidate : StoreM GatewayError (Option (List UInt8) × UInt64 × UInt64) := do
  let raw ← StoreM.get sequenceRow
  let current ← StoreM.ofExcept <|
    match raw with
    | some bytes => if bytes.length = 8 then .ok (UInt64.ofNat (Bytes.ofLE bytes)) else .error .sequenceExhausted
    | none => .ok 1
  StoreM.ofExcept (rejectIf (current = 0xffffffffffffffff) .sequenceExhausted)
  return (raw, current, current + 1)

def previousJob (gateway : Gateway) (job : GatewayJob) (transition : Option PreviousJobTransition)
    : Except GatewayError (Option (Text × UInt64 × JobState)) :=
  match gateway.currentJob, transition with
  | none, none => .ok none
  | none, some _ => .error .invalidJobTiming
  | some _, none => .error .activeJobExists
  | some currentId, some transition =>
    if transition.jobId ≠ currentId then
      .error .invalidJobTiming
    else
      match gateway.jobs.lookup currentId with
      | none => .error .invalidDurableState
      | some (previous, state) =>
        if state ≠ .active
            ∨ transition.creditCutoffMs < previous.issuedMs
            ∨ job.issuedMs < transition.creditCutoffMs
            ∨ transition.submissionEndMs < transition.creditCutoffMs
            ∨ previous.submissionEndMs < transition.submissionEndMs then
          .error .invalidJobTiming
        else
          .ok (some (previous.id, previous.assignmentSequence,
            .grace transition.creditCutoffMs transition.submissionEndMs))

end Gateway
end MeshMine
