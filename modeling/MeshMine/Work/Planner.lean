import MeshMine.Work.Lease

/-!
The planner that cuts leases out of signed envelopes (`meshmine-work/src/planner.rs`): devices that can be told a
range share a durable cursor, devices that cannot take the whole assignment for themselves.
-/

namespace MeshMine.Work

open MeshMine.Types Codec Storage
open Except (rejectIf)
open StoreM (applyBatchIfAll)

def workSchemaVersion : UInt16 := 2
def deviceNamespace : String := "work-device-v1"
def leaseNamespace : String := "work-lease-v1"
def activeLeaseNamespace : String := "work-active-lease-v1"
def cursorNamespace : String := "work-cursor-v1"
def exclusiveNamespace : String := "work-exclusive-v1"

def deviceRow (deviceId : DeviceId) : Row := ⟨deviceNamespace, hexEncode deviceId.toList⟩
def leaseRow (leaseId : List UInt8) : Row := ⟨leaseNamespace, hexEncode leaseId⟩
def activeLeaseRow (deviceId : DeviceId) : Row := ⟨activeLeaseNamespace, hexEncode deviceId.toList⟩
def exclusiveRow (assignmentId : Hash256) : Row := ⟨exclusiveNamespace, hexEncode assignmentId.toList⟩

def extraCursorRow (assignmentId : Hash256) : Row :=
  ⟨cursorNamespace, hexEncode assignmentId.toList ++ asciiBytes ":extra"⟩

def nonceCursorRow (assignmentId : Hash256) : Row :=
  ⟨cursorNamespace, hexEncode assignmentId.toList ++ asciiBytes ":nonce"⟩

structure PlannerLimits where
  maximumExtraNonceValuesPerLease : UInt32
  maximumNonceValuesPerLease : UInt64
  targetNativeLeaseMs : UInt64

inductive PlannerError where
  | storage (error : StorageError)
  | lease (error : LeaseError)
  | invalidCapabilities
  | schemaMismatch
  | deviceBusy
  | envelopeExhausted
  | unsupportedEnvelope
  | allocationRace
  | corruptLease
  | unauthorizedCompletion
  | invalidExpiration
deriving DecidableEq

instance : FromStorageError PlannerError where
  ofStorage := .storage

/-- A planner exists only with limits that `open` has accepted. -/
structure WorkPlanner where
  limits : PlannerLimits
  extraNonceValues : limits.maximumExtraNonceValuesPerLease ≠ 0
  nonceValues : limits.maximumNonceValuesPerLease ≠ 0
  leaseMs : limits.targetNativeLeaseMs ≠ 0

/-!
### The cursor
-/

inductive CursorState where
  | unset
  | next (value : UInt64)
  | exhausted

def decodeCursor : Option (List UInt8) → Except PlannerError CursorState
  | none => .ok .unset
  | some bytes =>
    if bytes.length = 9 ∧ bytes.head? = some 0 then
      .ok (.next (UInt64.ofNat (Bytes.ofLE (bytes.drop 1))))
    else if bytes = [1] then
      .ok .exhausted
    else
      .error .corruptLease

def encodeCursor (value : UInt64) : List UInt8 :=
  0 :: Encoder.u64 value

def encodeExhaustedCursor : List UInt8 :=
  [1]

def CursorState.position (start : UInt32) : CursorState → Except PlannerError Nat
  | unset => .ok start.toNat
  | next value => .ok value.toNat
  | exhausted => .error .envelopeExhausted

variable (limits : PlannerLimits)

def nextExtraNonces (start last : UInt32) (capabilities : DeviceCapabilities) (state : CursorState)
    : Except PlannerError (UInt32 × UInt32) := do
  let cursor ← state.position start
  rejectIf (cursor < start.toNat ∨ last.toNat < cursor) .envelopeExhausted
  let preferred := max (min capabilities.preferredBatchSize.toNat (2 ^ 32 - 1)) 1
  let requested := min preferred limits.maximumExtraNonceValuesPerLease.toNat
  let leaseEnd := min (min (cursor + (requested - 1)) (2 ^ 32 - 1)) last.toNat
  return (UInt32.ofNat cursor, UInt32.ofNat leaseEnd)

def nextNonces (envelope : WorkEnvelope) (capabilities : DeviceCapabilities) (state : CursorState)
    : Except PlannerError (UInt32 × UInt32) := do
  let cursor ← state.position envelope.nonceStart
  rejectIf (envelope.nonceEnd.toNat < cursor) .envelopeExhausted
  let measuredBatch := capabilities.measuredHashrate.map fun hashrate =>
    min (hashrate.toNat * limits.targetNativeLeaseMs.toNat / 1000) (2 ^ 64 - 1)
  let batch := measuredBatch.getD capabilities.preferredBatchSize.toNat
  let requested := max (min batch limits.maximumNonceValuesPerLease.toNat) 1
  let stride := envelope.nonceStride.toNat
  let maximumSteps := (envelope.nonceEnd.toNat - cursor) / stride
  let selectedSteps := min (requested - 1) maximumSteps
  let leaseEnd := min (cursor + min (selectedSteps * stride) (2 ^ 64 - 1)) (2 ^ 64 - 1)
  rejectIf (2 ^ 32 ≤ cursor ∨ 2 ^ 32 ≤ leaseEnd) .envelopeExhausted
  return (UInt32.ofNat cursor, UInt32.ofNat leaseEnd)

structure LeaseRange where
  extraNonceStart : ByteVec 24
  extraNonceEnd : ByteVec 24
  nonceStart : UInt32
  nonceEnd : UInt32
  nonceStride : UInt32

def WorkEnvelope.range (envelope : WorkEnvelope) : LeaseRange where
  extraNonceStart := envelope.extraNonceStart
  extraNonceEnd := envelope.extraNonceEnd
  nonceStart := envelope.nonceStart
  nonceEnd := envelope.nonceEnd
  nonceStride := envelope.nonceStride

variable [P : Primitives]

def buildLease (envelope : WorkEnvelope) (capabilities : DeviceCapabilities) (range : LeaseRange)
    (edgeTarget : U256) (nowMs : UInt64) (expiresAtMs : Option UInt64)
    : WorkLease :=
  let lease : WorkLease := {
    protocolVersion := workProtocolVersion
    leaseId := .zero 32
    assignmentId := envelope.assignmentId
    assignmentSequence := envelope.assignmentSequence
    jobGeneration := envelope.jobGeneration
    deviceId := capabilities.deviceId
    extraNonceProfile := envelope.extraNonceProfile
    extraNonceStart := range.extraNonceStart
    extraNonceEnd := range.extraNonceEnd
    nonceStart := range.nonceStart
    nonceEnd := range.nonceEnd
    nonceStride := range.nonceStride
    edgeTarget
    captureTarget := envelope.captureTarget
    activatedAtMs := nowMs
    expiresAtMs
    completionReportAllowed := capabilities.reportsRangeCompletion }
  { lease with leaseId := lease.canonicalId }

theorem decodeLease_buildLease (envelope : WorkEnvelope) (capabilities : DeviceCapabilities)
    (range : LeaseRange) (edgeTarget : U256) (nowMs : UInt64) (expiresAtMs : Option UInt64)
    : decodeLease (toCanonicalBytes (buildLease envelope capabilities range edgeTarget nowMs expiresAtMs))
      = .ok (buildLease envelope capabilities range edgeTarget nowMs expiresAtMs) :=
  decodeLease_toCanonicalBytes rfl rfl

namespace WorkPlanner

omit P in
def registerDevice (capabilities : DeviceCapabilities) : StoreM PlannerError Unit := do
  StoreM.ofExcept (capabilities.validate.mapError fun _ => .invalidCapabilities)
  let bytes := toCanonicalBytes capabilities
  let row := deviceRow capabilities.deviceId
  let existing ← StoreM.get row
  if existing = some bytes then
    return
  StoreM.ofExcept (checkContract existing)
  if ← StoreM.compareAndSwap row existing bytes then
    return
  if (← StoreM.get row) = some bytes then
    return
  throw .allocationRace
where
  -- A device that is registered already may only have measured another hash rate.
  checkContract : Option (List UInt8) → Except PlannerError Unit
    | none => .ok ()
    | some existing => do
      let prior ← (decodeCapabilities existing).mapError fun _ => .invalidCapabilities
      rejectIf (!prior.sameStaticContract capabilities) .invalidCapabilities

omit P in
def retire (deviceId : DeviceId) (leaseId : List UInt8) : StoreM PlannerError Bool :=
  applyBatchIfAll [.equals (activeLeaseRow deviceId) leaseId] [.delete (activeLeaseRow deviceId)]

omit P in
def complete (capabilities : DeviceCapabilities) (leaseId : List UInt8) : StoreM PlannerError Bool := do
  if !capabilities.reportsRangeCompletion then
    throw .unauthorizedCompletion
  retire capabilities.deviceId leaseId

def persistExclusive (envelope : WorkEnvelope) (capabilities : DeviceCapabilities) (lease : WorkLease)
    : StoreM PlannerError Unit := do
  let committed ← applyBatchIfAll
    [ .absent (activeLeaseRow capabilities.deviceId), .absent (exclusiveRow envelope.assignmentId) ]
    [ .put (leaseRow lease.leaseId.toList) (toCanonicalBytes lease),
      .put (activeLeaseRow capabilities.deviceId) lease.leaseId.toList,
      .put (exclusiveRow envelope.assignmentId) capabilities.deviceId.toList ]
  if !committed then
    throw .envelopeExhausted

def persistAllocation (cursorRow : Row) (cursorBefore cursorAfter : Option (List UInt8))
    (capabilities : DeviceCapabilities) (lease : WorkLease)
    : StoreM PlannerError Unit := do
  let committed ← applyBatchIfAll
    [ ⟨cursorRow, cursorBefore⟩, .absent (activeLeaseRow capabilities.deviceId) ]
    [ .put (leaseRow lease.leaseId.toList) (toCanonicalBytes lease),
      .put (activeLeaseRow capabilities.deviceId) lease.leaseId.toList,
      .put cursorRow (cursorAfter.getD encodeExhaustedCursor) ]
  if !committed then
    throw .allocationRace

variable (planner : WorkPlanner) (envelope : WorkEnvelope) (capabilities : DeviceCapabilities)
  (edgeTarget : U256) (nowMs : UInt64) (expiresAtMs : Option UInt64)

def allocateExtraNonce : StoreM PlannerError WorkLease := do
  if !capabilities.supportsExtraNonceRange then
    throw .unsupportedEnvelope
  let start ← StoreM.ofExcept ((extraNonce2 envelope.extraNonceStart).elim (.error .unsupportedEnvelope) .ok)
  let last ← StoreM.ofExcept ((extraNonce2 envelope.extraNonceEnd).elim (.error .unsupportedEnvelope) .ok)
  let cursorRow := extraCursorRow envelope.assignmentId
  let cursorBytes ← StoreM.get cursorRow
  let state ← StoreM.ofExcept (decodeCursor cursorBytes)
  let (cursor, leaseEnd) ← StoreM.ofExcept (nextExtraNonces planner.limits start last capabilities state)
  let noncePrefix := noncePrefixOf envelope.extraNonceStart
  let lease := buildLease envelope capabilities
    { envelope.range with
      extraNonceStart := gatewayExtraNonce noncePrefix (u32ToBe cursor)
      extraNonceEnd := gatewayExtraNonce noncePrefix (u32ToBe leaseEnd) }
    edgeTarget nowMs expiresAtMs
  let next := if leaseEnd.toNat + 1 < 2 ^ 32 then some (leaseEnd.toUInt64 + 1) else none
  persistAllocation cursorRow cursorBytes (next.map encodeCursor) capabilities lease
  return lease

def allocateNonce : StoreM PlannerError WorkLease := do
  if envelope.extraNonceStart ≠ envelope.extraNonceEnd then
    throw .unsupportedEnvelope
  if !capabilities.supportsNonceRange then
    let lease := buildLease envelope capabilities envelope.range edgeTarget nowMs expiresAtMs
    persistExclusive envelope capabilities lease
    return lease
  else
    let cursorRow := nonceCursorRow envelope.assignmentId
    let cursorBytes ← StoreM.get cursorRow
    let state ← StoreM.ofExcept (decodeCursor cursorBytes)
    let (cursor, leaseEnd) ← StoreM.ofExcept (nextNonces planner.limits envelope capabilities state)
    let lease := buildLease envelope capabilities
      { envelope.range with nonceStart := cursor, nonceEnd := leaseEnd } edgeTarget nowMs expiresAtMs
    let next := leaseEnd.toUInt64 + envelope.nonceStride.toUInt64
    let next := if next ≤ envelope.nonceEnd.toUInt64 then some next else none
    persistAllocation cursorRow cursorBytes (next.map encodeCursor) capabilities lease
    return lease

def currentLease : StoreM PlannerError (Option WorkLease) := do
  match ← StoreM.get (activeLeaseRow capabilities.deviceId) with
  | none => return none
  | some existingId =>
    if existingId.length ≠ 32 then
      throw .corruptLease
    match ← StoreM.get (leaseRow existingId) with
    | none => throw .corruptLease
    | some bytes =>
      let lease ← StoreM.ofExcept ((decodeLease bytes).mapError fun _ => .corruptLease)
      if lease.expiresAtMs.any (· < nowMs) then
        if ← retire capabilities.deviceId existingId then
          return none
        throw .allocationRace
      if lease.assignmentId = envelope.assignmentId ∧ lease.jobGeneration = envelope.jobGeneration then
        StoreM.ofExcept ((envelope.validateLease lease capabilities).mapError .lease)
        return some lease
      throw .deviceBusy

def allocateWithEdgeTarget : StoreM PlannerError WorkLease := do
  if expiresAtMs.any (· ≤ nowMs) then
    throw .invalidExpiration
  if edgeTarget < envelope.captureTarget ∨ envelope.edgeTarget < edgeTarget
      ∨ edgeTarget < capabilities.minimumDeviceTarget then
    throw .unsupportedEnvelope
  registerDevice capabilities
  match ← currentLease envelope capabilities nowMs with
  | some lease => return lease
  | none =>
    match envelope.kind with
    | .gatewayAssignmentV1 =>
      allocateExtraNonce planner envelope capabilities edgeTarget nowMs expiresAtMs
    | .assignmentV2 => allocateNonce planner envelope capabilities edgeTarget nowMs expiresAtMs

end WorkPlanner

end MeshMine.Work
