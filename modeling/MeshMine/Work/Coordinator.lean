import MeshMine.Work.Planner

/-!
Device events and the captures among them (`coordinator.rs`, with `CaptureRecord` of `record.rs`, in
`meshmine-work/src`). A capture is spooled before the sink sees it, and its record gives way to a tombstone
once the sink has admitted it.

The sink and the backends are outside of the program: a call has the answers they give as a parameter.
-/

namespace MeshMine.Work

open MeshMine.Types Codec Storage Hns
open Except (rejectIf)
open Encoder (fixed u16 u32 u64)
open StoreM (adapt)

def captureNamespace : String := "work-capture-v2"
def captureTombstoneNamespace : String := "work-capture-tombstone-v2"
def captureDomain : String := "MESHMINE/WORK_CAPTURE/V2"

def captureRow (captureId : Hash256) : Row := ⟨captureNamespace, hexEncode captureId.toList⟩

def captureTombstoneRow (captureId : Hash256) : Row :=
  ⟨captureTombstoneNamespace, hexEncode captureId.toList⟩

structure PreparedDeviceJob where
  protocolVersion : UInt16
  jobId : Hash256
  assignmentId : Hash256
  leaseId : Hash256
  generation : UInt64
  previousBlock : Hash256
  merkleRoot : Hash256
  witnessRoot : Hash256
  treeRoot : Hash256
  reservedRoot : Hash256
  version : UInt32
  bits : UInt32
  ntime : UInt64
  maskHash : Hash256
  extraNonceStart : ByteVec 24
  extraNonceEnd : ByteVec 24
  nonceStart : UInt32
  nonceEnd : UInt32
  nonceStride : UInt32
  edgeTarget : U256
  captureTarget : U256
deriving Inhabited

structure CaptureRecord where
  version : UInt16
  captureId : Hash256
  leaseId : Hash256
  assignmentId : Hash256
  deviceId : DeviceId
  generation : UInt64
  nonce : UInt32
  ntime : UInt64
  extraNonce : ByteVec 24
  rawShareHash : Hash256
  receivedAtMs : UInt64
deriving DecidableEq

/-- The fields of `DeviceEvent::Capture`. -/
structure CaptureReport where
  generation : UInt64
  nonce : UInt32
  ntime : UInt64
  extraNonce : ByteVec 24
  rawShareHash : Hash256
  receivedAtMs : UInt64

inductive DeviceEvent where
  | jobAcknowledged (generation : UInt64)
  | capture (report : CaptureReport)
  | rangeCompleted (generation : UInt64) (leaseId : Hash256)
  | telemetry (generation : UInt64)
  | disconnected

inductive BackendError where
  | invalidCapabilities
  | conflictingPreparedJob
  | generationNotPrepared
  | generationNotActive
  | eventCapacity
  | operation (message : String)
deriving DecidableEq

inductive CaptureOutcome where
  | telemetryOnly (rawShareHash : Hash256)
  | durablyAdmitted (captureId downstreamId : Hash256)
  | duplicate (captureId : Hash256)
deriving DecidableEq

inductive CoordinatorError where
  | planner (error : PlannerError)
  | backend (error : BackendError)
  | storage (error : StorageError)
  | lease (error : LeaseError)
  | backendNotFound
  | backendConflict
  | generationMismatch
  | jobNotPrepared
  | staleGeneration
  | captureOutsideLease
  | captureHashMismatch
  | highHash
  | downstream (message : String)
  | unauthorizedCompletion
  | corruptState
  | recoveryCapacity
  | invalidLimits
  | capacity
deriving DecidableEq

instance : FromStorageError CoordinatorError where
  ofStorage := .storage

structure BackendSlot where
  capabilities : DeviceCapabilities
  prepared : Option (WorkLease × PreparedDeviceJob)
  activeGeneration : Option UInt64

abbrev Backends := AList fun _ : DeviceId => BackendSlot

/-- What the sink says to one capture: the downstream id, or why it was not admitted. -/
abbrev CaptureSink := CaptureRecord → Except String Hash256

variable [P : Primitives]

/-!
### Capture records
-/

namespace CaptureRecord

/-- Receipt time is local observation metadata, not work identity. -/
def canonicalId (record : CaptureRecord) : Hash256 :=
  domainHash captureDomain (u16 record.version ++ fixed record.leaseId
    ++ fixed record.assignmentId ++ fixed record.deviceId ++ u64 record.generation
    ++ u32 record.nonce ++ u64 record.ntime ++ fixed record.extraNonce
    ++ fixed record.rawShareHash)

end CaptureRecord

omit P in
instance : CanonicalEncode CaptureRecord where
  encode record :=
    u16 record.version ++ fixed record.captureId ++ fixed record.leaseId
    ++ fixed record.assignmentId ++ fixed record.deviceId ++ u64 record.generation
    ++ u32 record.nonce ++ u64 record.ntime ++ fixed record.extraNonce
    ++ fixed record.rawShareHash ++ u64 record.receivedAtMs

instance : CanonicalDecode CaptureRecord where
  decode := do
    let version ← Decoder.u16
    let captureId ← Decoder.array 32
    let leaseId ← Decoder.array 32
    let assignmentId ← Decoder.array 32
    let deviceId ← Decoder.array 32
    let generation ← Decoder.u64
    let nonce ← Decoder.u32
    let ntime ← Decoder.u64
    let extraNonce ← Decoder.array 24
    let rawShareHash ← Decoder.array 32
    let receivedAtMs ← Decoder.u64
    let value : CaptureRecord := {
      version, captureId, leaseId, assignmentId, deviceId, generation, nonce, ntime, extraNonce, rawShareHash,
      receivedAtMs }
    if value.version ≠ workSchemaVersion ∨ value.canonicalId ≠ value.captureId then
      throw (.invalidField "capture_record")
    return value

def decodeCapture (bytes : List UInt8) : Except CodecError CaptureRecord :=
  fromCanonicalBytes bytes .default

/-!
### Captures
-/

omit P in
def requireActive (backends : Backends) (deviceId : DeviceId) (generation : UInt64)
    : Except CoordinatorError BackendSlot :=
  match backends.lookup deviceId with
  | none => .error .backendNotFound
  | some slot => if slot.activeGeneration ≠ some generation then .error .staleGeneration else .ok slot

omit P in
def CaptureReport.insideLease (report : CaptureReport) (lease : WorkLease) (job : PreparedDeviceJob) : Bool :=
  report.ntime = job.ntime && lease.acceptsExtraNonce report.extraNonce && lease.nonceStart ≤ report.nonce
    && report.nonce ≤ lease.nonceEnd && lease.nonceStride ≠ 0
    && (report.nonce - lease.nonceStart) % lease.nonceStride = 0
    && !lease.expiresAtMs.any (· < report.receivedAtMs)

omit P in
def CaptureReport.header (report : CaptureReport) (job : PreparedDeviceJob) : MinerHeader where
  nonce := report.nonce
  time := report.ntime
  prevBlock := job.previousBlock
  treeRoot := job.treeRoot
  maskHash := job.maskHash
  extraNonce := report.extraNonce
  reservedRoot := job.reservedRoot
  witnessRoot := job.witnessRoot
  merkleRoot := job.merkleRoot
  version := job.version
  bits := job.bits

def CaptureReport.record (report : CaptureReport) (deviceId : DeviceId) (lease : WorkLease) : CaptureRecord :=
  let record : CaptureRecord := {
    version := workSchemaVersion
    captureId := .zero 32
    leaseId := lease.leaseId
    assignmentId := lease.assignmentId
    deviceId
    generation := report.generation
    nonce := report.nonce
    ntime := report.ntime
    extraNonce := report.extraNonce
    rawShareHash := report.rawShareHash
    receivedAtMs := report.receivedAtMs }
  { record with captureId := record.canonicalId }

/-- The record of a report that meets the capture target; `none` is work for telemetry only. -/
def checkCapture (backends : Backends) (deviceId : DeviceId) (report : CaptureReport)
    : Except CoordinatorError (Option CaptureRecord) := do
  let slot ← requireActive backends deviceId report.generation
  let (lease, job) ← slot.prepared.elim (.error .jobNotPrepared) .ok
  rejectIf (!report.insideLease lease job) .captureOutsideLease
  rejectIf ((report.header job).shareHash ≠ report.rawShareHash) .captureHashMismatch
  rejectIf (job.edgeTarget < report.rawShareHash) .highHash
  return if job.captureTarget < report.rawShareHash then none else some (report.record deviceId lease)

variable (sink : CaptureSink)

omit P in
/-- A record that is spooled as `bytes` gives way to its tombstone. -/
def admitSpooled (record : CaptureRecord) (bytes : List UInt8) : StoreM CoordinatorError CaptureOutcome := do
  let downstreamId ← StoreM.ofExcept ((sink record).mapError .downstream)
  let admitted ← StoreM.applyBatchIfAll [.equals (captureRow record.captureId) bytes]
    [ .put (captureTombstoneRow record.captureId) downstreamId.toList, .delete (captureRow record.captureId) ]
  if !admitted then
    throw .corruptState
  return .durablyAdmitted record.captureId downstreamId

omit P in
def spoolCapture (record : CaptureRecord) : StoreM CoordinatorError CaptureOutcome := do
  if (← StoreM.get (captureTombstoneRow record.captureId)).isSome then
    return .duplicate record.captureId
  let bytes := toCanonicalBytes record
  if !(← StoreM.compareAndSwap (captureRow record.captureId) none bytes) then
    if (← StoreM.get (captureRow record.captureId)) ≠ some bytes then
      throw .corruptState
  admitSpooled sink record bytes

def processCapture (backends : Backends) (deviceId : DeviceId) (report : CaptureReport)
    : StoreM CoordinatorError CaptureOutcome := do
  match ← StoreM.ofExcept (checkCapture backends deviceId report) with
  | none => return .telemetryOnly report.rawShareHash
  | some record => spoolCapture sink record

/-!
### Retries
-/

def retryCapture (value : List UInt8) : StoreM CoordinatorError CaptureOutcome := do
  let capture ← StoreM.ofExcept ((decodeCapture value).mapError fun _ => .corruptState)
  match ← StoreM.get (captureTombstoneRow capture.captureId) with
  | some downstreamId =>
    if downstreamId.length ≠ 32 then
      throw .corruptState
    StoreM.delete (captureRow capture.captureId)
    return .duplicate capture.captureId
  | none => admitSpooled sink capture value

def retryScanLimits (maximum : Nat) : ScanLimits where
  maximumRecords := maximum
  maximumValueBytes := 4 * 1024
  maximumTotalBytes := min (maximum * (4 * 1024)) (2 ^ 64 - 1)

def retryPendingCaptures (maximum : Nat) : StoreM CoordinatorError (List CaptureOutcome) := do
  if maximum = 0 then
    throw .recoveryCapacity
  let page ← StoreM.scanNamespaceAfter captureNamespace none (retryScanLimits maximum)
  page.records.mapM fun record => retryCapture sink record.value

/-!
### Events
-/

def clearSlot (backends : Backends) (deviceId : DeviceId) (slot : BackendSlot) : Backends :=
  backends.insert deviceId { slot with prepared := none, activeGeneration := none }

/-- What comes of the event, and the backends after it. -/
def processEvent (backends : Backends) (deviceId : DeviceId)
    : DeviceEvent → StoreM CoordinatorError (Option CaptureOutcome × Backends)
  | .jobAcknowledged generation => do
    let _ ← StoreM.ofExcept (requireActive backends deviceId generation)
    return (none, backends)
  | .capture report => do
    let outcome ← processCapture sink backends deviceId report
    return (some outcome, backends)
  | .rangeCompleted generation leaseId => do
    let slot ← StoreM.ofExcept (requireActive backends deviceId generation)
    StoreM.ofExcept (rejectIf (!slot.capabilities.reportsRangeCompletion) .unauthorizedCompletion)
    let (lease, _) ← StoreM.ofExcept (slot.prepared.elim (.error .jobNotPrepared) .ok)
    StoreM.ofExcept (rejectIf (lease.leaseId ≠ leaseId ∨ lease.jobGeneration ≠ generation)
      .unauthorizedCompletion)
    let _ ← adapt .planner (WorkPlanner.complete slot.capabilities leaseId.toList)
    return (none, clearSlot backends deviceId slot)
  | .telemetry generation => do
    let _ ← StoreM.ofExcept (requireActive backends deviceId generation)
    return (none, backends)
  | .disconnected =>
    match backends.lookup deviceId with
    | none => throw .backendNotFound -- `poll_device` has found the slot
    | some slot => do
      if let some (lease, _) := slot.prepared then
        let _ ← adapt .planner (WorkPlanner.retire deviceId lease.leaseId.toList)
      return (none, clearSlot backends deviceId slot)

/-- The backends survive an error of a later event. -/
def processEvents (sink : CaptureSink) (deviceId : DeviceId) (backends : Backends)
    : List DeviceEvent → Program storeMachine (Except CoordinatorError (List CaptureOutcome) × Backends)
  | [] => return (.ok [], backends)
  | event :: events => do
    match ← (processEvent sink backends deviceId event).run with
    | .error error => return (.error error, backends)
    | .ok (outcome, backends) =>
      let (outcomes, backends) ← processEvents sink deviceId backends events
      return (outcomes.map (outcome.toList ++ ·), backends)

/-- The backend delivers `events` before its `poll_events` returns `polled`. -/
def pollDevice (maximumEventsPerPoll : Nat) (backends : Backends) (deviceId : DeviceId) (events : List DeviceEvent)
    (polled : Except BackendError Unit)
    : Program storeMachine (Except CoordinatorError (List CaptureOutcome) × Backends) :=
  match backends.lookup deviceId, polled with
  | none, _ => return (.error .backendNotFound, backends)
  | some _, .error error => return (.error (.backend error), backends)
  | some _, .ok _ =>
    if maximumEventsPerPoll < events.length then
      return (.error .capacity, backends)
    else
      processEvents sink deviceId backends events

end MeshMine.Work
