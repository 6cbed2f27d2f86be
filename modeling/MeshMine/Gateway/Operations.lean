import MeshMine.Gateway.Basic

/-!
What the gateway does: jobs are issued, cancelled, closed and retired; miners' submissions become
captures; captures are handed to a durable consumer and compacted; a restart reads everything back.
-/

namespace MeshMine.Gateway

open Storage Hns GatewayM
open Except (rejectIf)
open StoreM (applyBatchIfAll putIfAbsent)

variable [P : Primitives]

/-!
### Jobs
-/

variable (job : GatewayJob)

def issueJobOperations (nextSequence : UInt64) (previous : Option (Text × UInt64 × JobState))
    : List BatchOperation :=
  let sequence := job.assignmentSequence
  [.put sequenceRow (u64Bytes nextSequence),
    .put (assignmentRow sequence) (encodeDurableJob job),
    .put (assignmentStateRow sequence) (encodeDurableJobState .active),
    .put (assignmentPrefixPolicyRow sequence) assignmentPrefixPolicy,
    .put currentAssignmentRow (u64Bytes sequence)]
  ++ previous.toList.map fun (_, previousSequence, previousState) =>
    .put (assignmentStateRow previousSequence) (encodeDurableJobState previousState)

/-- A job under an identifier that is in use: the same request again, or a conflict. -/
def reissueJob (gateway : Gateway) (job existing : GatewayJob) (state : JobState)
    (expectedSequence : Option UInt64)
    : Except GatewayError UInt64 :=
  let job := { job with assignmentSequence := existing.assignmentSequence }
  if expectedSequence.any (· ≠ existing.assignmentSequence) then
    .error .assignmentAuthorizationMismatch
  else if encodeDurableJob job = encodeDurableJob existing ∧ state = .active
      ∧ gateway.currentJob = some existing.id then
    .ok existing.assignmentSequence
  else
    .error .assignmentConflict

variable (transition : Option PreviousJobTransition)

def issueNewJob (expectedSequence : Option UInt64) : GatewayM UInt64 := do
  let retired ← ofStore (StoreM.get (retiredJobRow job.id))
  match retired with
  | some bytes =>
    let _ ← checked (decodeSequenceValue bytes)
    fail .invalidJobId
  | none =>
    let gateway ← memory
    refuseIf (maxRecoveredAssignments ≤ gateway.jobs.entries.length) .assignmentCapacity
    let previous ← checked (previousJob gateway job transition)
    let (sequenceHead, sequence, nextSequence) ← ofStore loadSequenceCandidate
    refuseIf (expectedSequence.any (· ≠ sequence)) .assignmentAuthorizationMismatch
    let job := { job with assignmentSequence := sequence }
    let occupied ← ofStore (StoreM.get (assignmentRow sequence))
    refuseIf (occupied.isSome) .assignmentConflict
    let applied ← ofStore (applyBatchIfAll
      [⟨currentAssignmentRow, previous.map fun (_, previousSequence, _) => u64Bytes previousSequence⟩,
        ⟨sequenceRow, sequenceHead⟩,
        .absent (assignmentRow sequence)]
      (issueJobOperations job nextSequence previous))
    refuseIf (applied = false) .assignmentConflict
    match previous with
    | some (previousId, _, previousState) => setJobState previousId previousState
    | none => pure ()
    update fun gateway =>
      { gateway with jobs := gateway.jobs.insert job.id (job, .active), currentJob := some job.id }
    pushEvent (.jobIssued job.id sequence)
    return sequence

def issueJobInternal (expectedSequence : Option UInt64) : GatewayM UInt64 := do
  refuseIf (job.assignmentSequence ≠ 0) .assignmentConflict
  let gateway ← memory
  checked (validateJob job gateway.enforceHandyTarget)
  match gateway.jobs.lookup job.id with
  | some (existing, state) => checked (reissueJob gateway job existing state expectedSequence)
  | none => issueNewJob job transition expectedSequence

def issueJobWithTransition : GatewayM UInt64 :=
  issueJobInternal job transition none

def issueAuthorizedJob (request : AuthorizedGatewayJobRequest) : GatewayM UInt64 := do
  checked ((Handoff.validateGatewayAssignment request.manifest request.assignment).mapError .handoff)
  checked (validateAuthorizedJobBinding request)
  issueJobInternal request.job request.transition (some request.assignment.assignmentSequence)

def cancelJob (jobId : Text) (creditCutoffMs submissionEndMs : UInt64) : GatewayM Unit := do
  let gateway ← memory
  let (job, state) ← expect (gateway.jobs.lookup jobId) .staleJob
  refuseIf (creditCutoffMs < job.issuedMs ∨ submissionEndMs < creditCutoffMs
    ∨ job.submissionEndMs < submissionEndMs) .invalidJobTiming
  let nextState := JobState.grace creditCutoffMs submissionEndMs
  match state with
  | .active =>
    refuseIf (gateway.currentJob ≠ some jobId) .invalidDurableState
    let applied ← ofStore (applyBatchIfAll
      [.equals currentAssignmentRow (u64Bytes job.assignmentSequence)]
      [.put (assignmentStateRow job.assignmentSequence) (encodeDurableJobState nextState),
        .delete currentAssignmentRow])
    refuseIf (applied = false) .invalidDurableState
    setJobState jobId nextState
    update fun gateway => { gateway with currentJob := none }
    pushEvent (.jobCancelled jobId creditCutoffMs submissionEndMs)
  | .grace .. =>
    refuseIf (state ≠ nextState) .invalidJobTiming
    let durable ← ofStore (StoreM.get (assignmentStateRow job.assignmentSequence))
    refuseIf (durable ≠ some (encodeDurableJobState nextState)) .invalidDurableState
  | .closed => fail .staleJob

def expiredAt (nowMs : UInt64) (job : GatewayJob) : JobState → Bool
  | .active => job.submissionEndMs < nowMs
  | .grace _ submissionEndMs => submissionEndMs < nowMs
  | .closed => false

def closeJob (id : Text) (sequence : UInt64) (state : JobState) : GatewayM Unit := do
  match state with
  | .active =>
    let gateway ← memory
    refuseIf (gateway.currentJob ≠ some id) .invalidDurableState
    let applied ← ofStore (applyBatchIfAll
      [.equals currentAssignmentRow (u64Bytes sequence)]
      [.put (assignmentStateRow sequence) (encodeDurableJobState .closed),
        .delete currentAssignmentRow])
    refuseIf (applied = false) .invalidDurableState
    update fun gateway => { gateway with currentJob := none }
  | .grace .. =>
    let applied ← ofStore (StoreM.compareAndSwap (assignmentStateRow sequence)
      (some (encodeDurableJobState state)) (encodeDurableJobState .closed))
    refuseIf (applied = false) .invalidDurableState
  | .closed => pure ()
  setJobState id .closed

def pendingCaptures (gateway : Gateway) (sequence : UInt64) : Nat :=
  (gateway.pendingByAssignment.lookup sequence).getD 0

variable (sequence : UInt64)

def forgetTombstones (keys : List Hash256) (gateway : Gateway) : Gateway :=
  let seenWork := keys.foldl List.erase gateway.seenWork
  let remaining := keys.foldl List.erase ((gateway.tombstonesByAssignment.lookup sequence).getD [])
  let tombstones := gateway.tombstonesByAssignment
  { gateway with
    seenWork
    tombstonesByAssignment :=
      if remaining = [] then tombstones.erase sequence else tombstones.insert sequence remaining }

def advanceRetirement (id : Text) : GatewayM Unit := do
  let gateway ← memory
  refuseIf (pendingCaptures gateway sequence ≠ 0) .invalidDurableState
  let tombstones := ((gateway.tombstonesByAssignment.lookup sequence).getD []).take retireDeleteBatch
  if tombstones ≠ [] then
    ofStore (StoreM.applyBatch (tombstones.map fun key => .delete (captureTombstoneRow key)))
    update (forgetTombstones sequence tombstones)
  else
    let applied ← ofStore (applyBatchIfAll [.absent (retiredJobRow id)]
      [.put (retiredJobRow id) (u64Bytes sequence),
        .delete (assignmentRow sequence),
        .delete (assignmentStateRow sequence),
        .delete (retiringAssignmentRow sequence)])
    refuseIf (applied = false) .invalidDurableState
    let _ ← expect ((← memory).jobs.lookup id) .invalidDurableState
    update fun gateway =>
      { gateway with
        jobs := gateway.jobs.erase id
        pendingByAssignment := gateway.pendingByAssignment.erase sequence
        retiringAssignments := gateway.retiringAssignments.erase sequence }

def retireJob (id : Text) : GatewayM Unit := do
  let gateway ← memory
  if sequence ∉ gateway.retiringAssignments then
    let inserted ← ofStore (putIfAbsent (retiringAssignmentRow sequence) id)
    if inserted = false then
      let existing ← ofStore (StoreM.get (retiringAssignmentRow sequence))
      refuseIf (existing ≠ some id) .invalidDurableState
    update fun gateway =>
      { gateway with retiringAssignments := gateway.retiringAssignments.insert sequence }
  advanceRetirement sequence id

def retirementCandidates (gateway : Gateway) : List (UInt64 × Text) :=
  let closed := gateway.jobs.entries.filter fun entry =>
    entry.2.2 = .closed && pendingCaptures gateway entry.2.1.assignmentSequence = 0
  let candidates := closed.map fun entry => (entry.2.1.assignmentSequence, entry.2.1.id)
  (candidates.insertionSort fun a b => a.1 ≤ b.1).take maxRetirementsPerPass

def retireClosedJobs : GatewayM Unit := do
  let gateway ← memory
  (retirementCandidates gateway).forM fun (sequence, id) => retireJob sequence id

def closeExpired (nowMs : UInt64) : GatewayM Unit := do
  let gateway ← memory
  let expired := gateway.jobs.entries.filter fun entry => expiredAt nowMs entry.2.1 entry.2.2
  expired.forM fun entry => closeJob entry.2.1.id entry.2.1.assignmentSequence entry.2.2
  retireClosedJobs

/-!
### Captures
-/

def extraNonceOf (noncePrefix extraNonce2 : ByteVec 4) : ByteVec 24 :=
  ⟨noncePrefix.toList ++ extraNonce2.toList ++ List.replicate 16 0, by
    simp [noncePrefix.length_toList, extraNonce2.length_toList]⟩

def minerHeaderOf (noncePrefix : ByteVec 4) (submission : HandySubmission) : MinerHeader where
  nonce := submission.nonce
  time := submission.ntime.toUInt64
  prevBlock := job.previousBlock
  treeRoot := job.treeRoot
  maskHash := job.maskHash
  extraNonce := extraNonceOf noncePrefix submission.extraNonce2
  reservedRoot := job.reservedRoot
  witnessRoot := job.witnessRoot
  merkleRoot := job.merkleRoot
  version := job.version
  bits := job.bits

/-- Whether a submission at `receivedMs` earns credit; `none` when the job takes no more work. The end of the
assignment window stops new jobs only. -/
def creditEligible (receivedMs : UInt64) : JobState → Option Bool
  | .active => if job.submissionEndMs < receivedMs then none else some true
  | .grace creditCutoffMs submissionEndMs =>
    if submissionEndMs < receivedMs then none else some (receivedMs ≤ creditCutoffMs)
  | .closed => none

def recordCapture (capture : ForwardedCapture) (gateway : Gateway) : Gateway :=
  let workKey := captureWorkKey capture
  let sequence := capture.assignmentSequence
  { gateway with
    seenWork := gateway.seenWork.insert workKey
    captureIndexes := gateway.captureIndexes.insert workKey gateway.forwarded.length
    pendingByAssignment := gateway.pendingByAssignment.insert sequence (pendingCaptures gateway sequence + 1)
    forwarded := gateway.forwarded ++ [capture] }

def submit (noncePrefix : ByteVec 4) (telemetryLevel : TelemetryLevel) (submission : HandySubmission)
    (receivedMs : UInt64)
    : GatewayM ForwardedCapture := do
  let gateway ← memory
  let (job, state) ← expect (gateway.jobs.lookup submission.jobId) .staleJob
  if receivedMs < job.issuedMs then
    reject submission.jobId "job-not-issued" .staleJob
  else
    match creditEligible job receivedMs state with
    | none => reject submission.jobId "stale-job" .staleJob
    | some creditEligible =>
      if submission.ntime ≠ job.ntime then
        reject submission.jobId "ntime-mismatch" .ntimeMismatch
      else
        let minerHeader := minerHeaderOf job noncePrefix submission
        let rawShareHash := minerHeader.shareHash
        if job.captureTarget < rawShareHash then
          reject submission.jobId "high-hash" .highHash
        else
          let capture : ForwardedCapture := {
            username := submission.username
            jobId := submission.jobId
            assignmentSequence := job.assignmentSequence
            minerHeader, rawShareHash, receivedMs, creditEligible, telemetryLevel }
          let workKey := captureWorkKey capture
          if workKey ∈ gateway.seenWork then
            reject submission.jobId "duplicate" .duplicate
          else if maxRecoveredCaptures ≤ gateway.seenWork.length then
            reject submission.jobId "capture-capacity" .captureCapacity
          else
            let inserted ← ofStore (putIfAbsent (captureRow workKey) (encodeDurableCapture capture))
            if inserted = false then
              reject submission.jobId "duplicate" .duplicate
            else
              update (recordCapture capture)
              pushEvent (.captureForwarded submission.jobId rawShareHash creditEligible)
              return capture

/-- As `Vec::swap_remove`: the last element takes the place of the removed one. -/
def swapRemove {α : Type} (values : List α) (index : Nat) : List α :=
  match values.getLast? with
  | none => values
  | some last => (values.set index last).dropLast

def forgetCapture (workKey : Hash256) (index : Nat) (gateway : Gateway) : Gateway :=
  let forwarded := swapRemove gateway.forwarded index
  let captureIndexes := gateway.captureIndexes.erase workKey
  { gateway with
    forwarded
    captureIndexes :=
      match forwarded[index]? with
      | some moved => captureIndexes.insert (captureWorkKey moved) index
      | none => captureIndexes }

def buryCapture (workKey : Hash256) (sequence : UInt64) (gateway : Gateway) : Gateway :=
  let keys := (gateway.tombstonesByAssignment.lookup sequence).getD []
  { gateway with
    tombstonesByAssignment := gateway.tombstonesByAssignment.insert sequence (keys.insert workKey) }

def releaseCapture (pending : Nat) (gateway : Gateway) : Gateway :=
  { gateway with
    pendingByAssignment :=
      if pending = 1 then gateway.pendingByAssignment.erase sequence
      else gateway.pendingByAssignment.insert sequence (pending - 1) }

def acknowledgeCapture (workKey : Hash256) : GatewayM Bool := do
  let gateway ← memory
  match gateway.captureIndexes.lookup workKey with
  | none =>
    refuseIf (workKey ∉ gateway.seenWork) .captureNotFound
    let tombstone ← ofStore (StoreM.get (captureTombstoneRow workKey))
    let bytes ← expect tombstone .invalidDurableState
    let assignmentSequence ← checked (decodeCaptureTombstone bytes)
    refuseIf (¬ gateway.jobs.entries.any fun entry =>
      entry.2.1.assignmentSequence = assignmentSequence) .invalidDurableState
    return false
  | some index =>
    let capture ← expect gateway.forwarded[index]? .invalidDurableState
    refuseIf (captureWorkKey capture ≠ workKey) .invalidDurableState
    let sequence := capture.assignmentSequence
    ofStore (StoreM.applyBatch
      [.put (captureTombstoneRow workKey) (encodeCaptureTombstone sequence),
        .delete (captureRow workKey)])
    update (buryCapture workKey sequence)
    let pending ← expect (gateway.pendingByAssignment.lookup sequence) .invalidDurableState
    refuseIf (pending = 0) .invalidDurableState
    update (releaseCapture sequence pending)
    update (forgetCapture workKey index)
    return true

/-- At most `maximum` captures from the front of the queue, up to the first one the consumer refuses. -/
def drainCapturesDurably {E : Type} (admitCapture : ForwardedCapture → StoreM E Hash256)
    (maximum : Nat)
    : GatewayM CaptureDrainReport :=
  go maximum .default
where
  go : Nat → CaptureDrainReport → GatewayM CaptureDrainReport
    | 0, report => return report
    | maximum + 1, report => do
      let gateway ← memory
      match gateway.forwarded with
      | [] => return report
      | capture :: _ =>
        let downstreamId ← ofStore
          ((admitCapture capture).adapt fun _ => .captureConsumerUnavailable)
        let acknowledged ← acknowledgeCapture (captureWorkKey capture)
        refuseIf (acknowledged = false) .invalidDurableState
        go maximum {
          attempted := report.attempted + 1
          acknowledged := report.acknowledged + 1
          lastDownstreamId := some downstreamId }

/-!
### Restart
-/

def recoverStates
    : List NamespaceRecord → AList (fun _ : UInt64 => JobState)
      → Except GatewayError (AList fun _ : UInt64 => JobState)
  | [], states => .ok states
  | record :: records, states => do
    let sequence ← parseU64 record.key
    let state ← decodeDurableJobState record.value
    rejectIf (sequence ∈ states) .invalidDurableState
    recoverStates records (states.insert sequence state)

structure RecoveredJobs where
  jobs : Jobs
  activeJobs : List (UInt64 × Text)
  states : AList fun _ : UInt64 => JobState

def recoverJobs (enforceHandyTarget : Bool)
    : List NamespaceRecord → RecoveredJobs → Except GatewayError RecoveredJobs
  | [], recovered => .ok recovered
  | record :: records, recovered => do
    let sequence ← parseU64 record.key
    let job ← decodeDurableJob record.value
    validateJob job enforceHandyTarget
    match recovered.states.lookup sequence with
    | none => .error .invalidDurableState
    | some state =>
      validateRecoveredJobState job state
      rejectIf (sequence ≠ job.assignmentSequence ∨ job.id ∈ recovered.jobs) .invalidDurableState
      recoverJobs enforceHandyTarget records {
        jobs := recovered.jobs.insert job.id (job, state)
        activeJobs :=
          if state = .active then recovered.activeJobs ++ [(sequence, job.id)]
          else recovered.activeJobs
        states := recovered.states.erase sequence }

def recoverCurrentJob (durableHeadSequence : Option UInt64) (activeJobs : List (UInt64 × Text))
    : Except GatewayError (Option Text) :=
  match durableHeadSequence, activeJobs with
  | some head, [(sequence, id)] => if head = sequence then .ok (some id) else .error .invalidDurableState
  | none, [] => .ok none
  | _, _ => .error .invalidDurableState

def recoverRetiring (jobs : Jobs)
    : List NamespaceRecord → List UInt64 → Except GatewayError (List UInt64)
  | [], retiring => .ok retiring
  | record :: records, retiring => do
    let sequence ← parseU64 record.key
    rejectIf (¬ (ByteArray.mk record.value.toArray).validateUTF8) .invalidDurableState
    match jobs.lookup record.value with
    | none => .error .invalidDurableState
    | some (job, state) =>
      rejectIf (job.assignmentSequence ≠ sequence ∨ state ≠ .closed ∨ sequence ∈ retiring)
        .invalidDurableState
      recoverRetiring jobs records (retiring ++ [sequence])

structure RecoveredTombstones where
  seenWork : List Hash256
  tombstonesByAssignment : AList fun _ : UInt64 => List Hash256

def recoverTombstones (jobs : Jobs)
    : List NamespaceRecord → RecoveredTombstones → Except GatewayError RecoveredTombstones
  | [], recovered => .ok recovered
  | record :: records, recovered => do
    let workKey ← fixedHashKey record.key
    rejectIf (workKey ∈ recovered.seenWork) .invalidDurableState
    let sequence ← decodeCaptureTombstone record.value
    rejectIf (¬ jobs.entries.any fun entry => entry.2.1.assignmentSequence = sequence)
      .invalidDurableState
    let keys := (recovered.tombstonesByAssignment.lookup sequence).getD []
    recoverTombstones jobs records {
      seenWork := recovered.seenWork ++ [workKey]
      tombstonesByAssignment := recovered.tombstonesByAssignment.insert sequence (keys.insert workKey) }

structure RecoveredCaptures where
  seenWork : List Hash256
  forwarded : List ForwardedCapture
  pendingByAssignment : AList fun _ : UInt64 => Nat

def recoverCaptures (jobs : Jobs)
    : List NamespaceRecord → RecoveredCaptures → Except GatewayError RecoveredCaptures
  | [], recovered => .ok recovered
  | record :: records, recovered => do
    rejectIf (maxRecoveredCaptures ≤ recovered.seenWork.length) .invalidDurableState
    let workKey ← fixedHashKey record.key
    let capture ← decodeDurableCapture record.value
    validateRecoveredCapture capture jobs
    rejectIf (captureWorkKey capture ≠ workKey ∨ workKey ∈ recovered.seenWork) .invalidDurableState
    let sequence := capture.assignmentSequence
    let pending := (recovered.pendingByAssignment.lookup sequence).getD 0
    recoverCaptures jobs records {
      seenWork := recovered.seenWork ++ [workKey]
      forwarded := recovered.forwarded ++ [capture]
      pendingByAssignment := recovered.pendingByAssignment.insert sequence (pending + 1) }

/-- The order of the key `(assignment_sequence, received_ms, raw_share_hash)`. -/
def recoveredBefore (a b : ForwardedCapture) : Prop :=
  a.assignmentSequence < b.assignmentSequence
    ∨ (a.assignmentSequence = b.assignmentSequence
      ∧ (a.receivedMs < b.receivedMs
        ∨ (a.receivedMs = b.receivedMs ∧ a.rawShareHash ≤ b.rawShareHash)))

instance : DecidableRel recoveredBefore := fun _ _ => inferInstanceAs (Decidable (_ ∨ _))

def indexCaptures (forwarded : List ForwardedCapture) : AList fun _ : Hash256 => Nat :=
  forwarded.zipIdx.foldl (fun indexes entry => indexes.insert (captureWorkKey entry.1) entry.2) ∅

def assignmentScanLimits (maximumValueBytes : Nat) : ScanLimits where
  maximumRecords := maxRecoveredAssignments
  maximumValueBytes
  maximumTotalBytes := maxAssignmentRecoveryBytes

def captureScanLimits (maximumValueBytes : Nat) : ScanLimits where
  maximumRecords := maxRecoveredCaptures
  maximumValueBytes
  maximumTotalBytes := maxCaptureRecoveryBytes

def installFormat : StoreM GatewayError Unit := do
  let applied ← applyBatchIfAll [.absent currentAssignmentFormatRow]
    [.put currentAssignmentFormatRow currentAssignmentFormat]
  StoreM.ofExcept (rejectIf (applied = false) .invalidDurableState)

def recoverQueue (enforceHandyTarget : Bool) (jobs : Jobs) (currentJob : Option Text)
    : StoreM GatewayError Gateway := do
  let retiringRecords ← StoreM.scanNamespace retiringAssignmentSpace (assignmentScanLimits 64)
  let retiringAssignments ← StoreM.ofExcept (recoverRetiring jobs retiringRecords [])
  let tombstoneRecords ← StoreM.scanNamespace captureTombstoneSpace (captureScanLimits 14)
  let tombstones ← StoreM.ofExcept (recoverTombstones jobs tombstoneRecords ⟨[], ∅⟩)
  let captureRecords ← StoreM.scanNamespace captureSpace (captureScanLimits maxRecoveryValueBytes)
  let captures ← StoreM.ofExcept
    (recoverCaptures jobs captureRecords ⟨tombstones.seenWork, [], ∅⟩)
  StoreM.ofExcept (rejectIf (∃ sequence ∈ retiringAssignments,
    sequence ∈ captures.pendingByAssignment) .invalidDurableState)
  let forwarded := captures.forwarded.insertionSort recoveredBefore
  return {
    jobs
    currentJob
    seenWork := captures.seenWork
    forwarded
    captureIndexes := indexCaptures forwarded
    pendingByAssignment := captures.pendingByAssignment
    tombstonesByAssignment := tombstones.tombstonesByAssignment
    retiringAssignments
    events := []
    droppedEvents := 0
    enforceHandyTarget }

def openWithTargetPolicy (enforceHandyTarget : Bool) : StoreM GatewayError Gateway := do
  let format ← StoreM.get currentAssignmentFormatRow
  StoreM.ofExcept (rejectIf (format.any (· ≠ currentAssignmentFormat)) .invalidDurableState)
  let durableHead ← StoreM.get currentAssignmentRow
  let durableHeadSequence ← StoreM.ofExcept (durableHead.mapM decodeSequenceValue)
  let stateRecords ← StoreM.scanNamespace assignmentStateSpace
    (assignmentScanLimits maxRecoveryValueBytes)
  let states ← StoreM.ofExcept (recoverStates stateRecords ∅)
  let assignmentRecords ← StoreM.scanNamespace assignmentSpace
    (assignmentScanLimits maxRecoveryValueBytes)
  let recovered ← StoreM.ofExcept
    (recoverJobs enforceHandyTarget assignmentRecords { jobs := ∅, activeJobs := [], states })
  StoreM.ofExcept (rejectIf (recovered.states.entries ≠ []) .invalidDurableState)
  let currentJob ← StoreM.ofExcept (recoverCurrentJob durableHeadSequence recovered.activeJobs)
  if format = none then
    StoreM.ofExcept (rejectIf (durableHeadSequence.isSome ∨ recovered.jobs.entries ≠ [])
      .invalidDurableState)
    installFormat
  recoverQueue enforceHandyTarget recovered.jobs currentJob

end MeshMine.Gateway
