import MeshMine.Data.Except
import MeshMine.Storage.Journal
import MeshMine.Types.Gateway

/-!
Device capabilities, signed work envelopes and the leases cut out of them (`capabilities.rs`, `lease.rs` and
`record.rs` of `meshmine-work/src`).
-/

namespace MeshMine.Work

open MeshMine.Types Codec
open Except (rejectIf)
open Encoder (fixed u8 u16 u64)
open Decoder (array reads_array reads_u8 reads_u16 reads_u32 reads_u64)

def workProtocolVersion : UInt16 := 1
def workLeaseDomain : String := "MESHMINE/WORK_LEASE/V1"

abbrev DeviceId := ByteVec 32

/-!
### Capabilities
-/

inductive BackendKind where
  | handyStratum
  | nativeWorker
  | externalProcess
  | cuda
  | rocm
  | arm64Cpu
  | x86Cpu
  | vulkan
  | simulator
deriving DecidableEq, Inhabited

def BackendKind.toU8 : BackendKind → UInt8
  | handyStratum => 1
  | nativeWorker => 2
  | externalProcess => 3
  | cuda => 4
  | rocm => 5
  | arm64Cpu => 6
  | x86Cpu => 7
  | vulkan => 8
  | simulator => 255

inductive CapabilityError where
  | zeroDeviceId
  | zeroJobRate
  | zeroBatchSize
  | invalidRangeCompletionClaim
  | strideWithoutRange
  | unknownBackendKind (value : UInt8)

def BackendKind.fromU8 (value : UInt8) : Except CapabilityError BackendKind :=
  if value = 1 then .ok handyStratum
  else if value = 2 then .ok nativeWorker
  else if value = 3 then .ok externalProcess
  else if value = 4 then .ok cuda
  else if value = 5 then .ok rocm
  else if value = 6 then .ok arm64Cpu
  else if value = 7 then .ok x86Cpu
  else if value = 8 then .ok vulkan
  else if value = 255 then .ok simulator
  else .error (.unknownBackendKind value)

structure DeviceCapabilities where
  deviceId : DeviceId
  backendKind : BackendKind
  supportsNonceRange : Bool
  supportsNonceStride : Bool
  supportsExtraNonceRange : Bool
  supportsNtimeRolling : Bool
  supportsJobPrepare : Bool
  reportsRangeCompletion : Bool
  minimumDeviceTarget : U256
  maximumJobRateHz : UInt32
  preferredBatchSize : UInt64
  measuredHashrate : Option UInt64
  telemetryLevel : UInt8
deriving DecidableEq, Inhabited

namespace DeviceCapabilities

def validate (capabilities : DeviceCapabilities) : Except CapabilityError Unit := do
  rejectIf (capabilities.deviceId = .zero 32) .zeroDeviceId
  rejectIf (capabilities.maximumJobRateHz = 0) .zeroJobRate
  rejectIf (capabilities.preferredBatchSize = 0) .zeroBatchSize
  rejectIf (capabilities.supportsNonceStride ∧ !capabilities.supportsNonceRange) .strideWithoutRange
  rejectIf (capabilities.reportsRangeCompletion ∧ !capabilities.supportsNonceRange)
    .invalidRangeCompletionClaim

/-- Everything but the measured hash rate. -/
def sameStaticContract (capabilities other : DeviceCapabilities) : Bool :=
  { capabilities with measuredHashrate := none } = { other with measuredHashrate := none }

end DeviceCapabilities

def encodeBool (value : Bool) : List UInt8 :=
  u8 (if value then 1 else 0)

def boolValue (value : UInt8) : Except CodecError Bool :=
  if value = 0 then .ok false
  else if value = 1 then .ok true
  else .error (.invalidField "boolean")

def decodeBool : Decoder Bool := do
  let value ← Decoder.u8
  boolValue value

/-- Reads `Some` and `None`, with a field name of its own for a wrong tag. -/
def decodeOptionalU64 (field : String) : Decoder (Option UInt64) := do
  let tag ← Decoder.u8
  if tag = 0 then
    return none
  else if tag = 1 then
    let value ← Decoder.u64
    return some value
  else
    throw (.invalidField field)

instance : CanonicalEncode DeviceCapabilities where
  encode self :=
    fixed self.deviceId ++ u8 self.backendKind.toU8
    ++ encodeBool self.supportsNonceRange ++ encodeBool self.supportsNonceStride
    ++ encodeBool self.supportsExtraNonceRange ++ encodeBool self.supportsNtimeRolling
    ++ encodeBool self.supportsJobPrepare ++ encodeBool self.reportsRangeCompletion
    ++ fixed self.minimumDeviceTarget ++ Encoder.u32 self.maximumJobRateHz
    ++ u64 self.preferredBatchSize
    ++ Encoder.option u64 self.measuredHashrate
    ++ u8 self.telemetryLevel

instance : CanonicalDecode DeviceCapabilities where
  decode := do
    let deviceId ← array 32
    let kind ← Decoder.u8
    let backendKind ← match BackendKind.fromU8 kind with
      | .ok backendKind => pure backendKind
      | .error _ => throw (.invalidField "backend_kind")
    let supportsNonceRange ← decodeBool
    let supportsNonceStride ← decodeBool
    let supportsExtraNonceRange ← decodeBool
    let supportsNtimeRolling ← decodeBool
    let supportsJobPrepare ← decodeBool
    let reportsRangeCompletion ← decodeBool
    let minimumDeviceTarget ← array 32
    let maximumJobRateHz ← Decoder.u32
    let preferredBatchSize ← Decoder.u64
    let measuredHashrate ← decodeOptionalU64 "measured_hashrate"
    let telemetryLevel ← Decoder.u8
    let value : DeviceCapabilities := {
      deviceId, backendKind, supportsNonceRange, supportsNonceStride, supportsExtraNonceRange,
      supportsNtimeRolling, supportsJobPrepare, reportsRangeCompletion, minimumDeviceTarget,
      maximumJobRateHz, preferredBatchSize, measuredHashrate, telemetryLevel }
    match value.validate with
    | .error _ => throw (.invalidField "device_capabilities")
    | .ok _ => return value

def decodeCapabilities (bytes : List UInt8) : Except CodecError DeviceCapabilities :=
  fromCanonicalBytes bytes .default

/-!
### Envelopes
-/

inductive EnvelopeKind where
  | assignmentV2
  | gatewayAssignmentV1
deriving DecidableEq

structure WorkEnvelope where
  kind : EnvelopeKind
  assignmentId : Hash256
  assignmentSequence : UInt64
  jobGeneration : UInt64
  workerIdHash : Hash256
  ntime : UInt64
  extraNonceProfile : UInt16
  extraNonceStart : ByteVec 24
  extraNonceEnd : ByteVec 24
  nonceStart : UInt32
  nonceEnd : UInt32
  nonceStride : UInt32
  edgeTarget : U256
  captureTarget : U256
  telemetryLevel : UInt8
deriving DecidableEq

structure WorkLease where
  protocolVersion : UInt16
  leaseId : Hash256
  assignmentId : Hash256
  assignmentSequence : UInt64
  jobGeneration : UInt64
  deviceId : DeviceId
  extraNonceProfile : UInt16
  extraNonceStart : ByteVec 24
  extraNonceEnd : ByteVec 24
  nonceStart : UInt32
  nonceEnd : UInt32
  nonceStride : UInt32
  edgeTarget : U256
  captureTarget : U256
  activatedAtMs : UInt64
  expiresAtMs : Option UInt64
  completionReportAllowed : Bool
deriving DecidableEq, Inhabited

inductive LeaseError where
  | invalidNonceRange
  | invalidExtraNonceRange
  | invalidExtraNonceProfile
  | deviceTargetTooHard
  | leaseOutsideEnvelope
  | unsupportedLease
  | invalidLeaseId
  | invalidJobId
  | jobLeaseMismatch
deriving DecidableEq

def gatewayExtraNonce (noncePrefix extraNonce2 : ByteVec 4) : ByteVec 24 :=
  (noncePrefix.append extraNonce2).append (.zero 16)

/-- The first four bytes of an extra nonce, and the next four. -/
def noncePrefixOf (value : ByteVec 24) : ByteVec 4 :=
  ⟨value.toList.take 4, by simp [value.length_toList]⟩

def extraNonce2Of (value : ByteVec 24) : ByteVec 4 :=
  ⟨(value.toList.drop 4).take 4, by simp [value.length_toList]⟩

def extraNonce2 (value : ByteVec 24) : Option UInt32 :=
  if (value.toList.drop 8).any (· ≠ 0) then none else some (UInt32.ofNat (extraNonce2Of value).toNat)

/-- As `u32::to_be_bytes`. -/
def u32ToBe (value : UInt32) : ByteVec 4 :=
  ⟨Bytes.toBE 4 value.toNat, Bytes.length_toBE 4 value.toNat⟩

def validateTargets (edge capture : U256) : Except LeaseError Unit :=
  rejectIf (edge < capture) .deviceTargetTooHard

def validateNonceRange (start last stride : UInt32) : Except LeaseError Unit :=
  rejectIf (last < start ∨ stride = 0) .invalidNonceRange

variable [P : Primitives]

namespace WorkEnvelope

def fromAssignment (value : AssignmentV2) (generation : UInt64) : Except LeaseError WorkEnvelope := do
  validateTargets value.edgeTarget value.captureTarget
  validateNonceRange value.nonceStart value.nonceEnd value.nonceStride
  return {
    kind := .assignmentV2
    assignmentId := objectId value
    assignmentSequence := value.assignmentSequence
    jobGeneration := generation
    workerIdHash := value.workerIdHash
    ntime := value.ntime
    extraNonceProfile := 0
    extraNonceStart := value.extraNonce
    extraNonceEnd := value.extraNonce
    nonceStart := value.nonceStart
    nonceEnd := value.nonceEnd
    nonceStride := value.nonceStride
    edgeTarget := value.edgeTarget
    captureTarget := value.captureTarget
    telemetryLevel := value.telemetryLevel }

def fromGatewayAssignment (value : GatewayAssignmentV1) (generation : UInt64)
    : Except LeaseError WorkEnvelope := do
  validateTargets value.edgeTarget value.captureTarget
  validateNonceRange value.nonceStart value.nonceEnd value.nonceStride
  rejectIf (value.extraNonceProfile ≠ gatewayExtraNonceProfile) .invalidExtraNonceProfile
  rejectIf (value.extraNonce2EndBe < value.extraNonce2StartBe) .invalidExtraNonceRange
  return {
    kind := .gatewayAssignmentV1
    assignmentId := objectId value
    assignmentSequence := value.assignmentSequence
    jobGeneration := generation
    workerIdHash := value.workerIdHash
    ntime := value.ntime
    extraNonceProfile := value.extraNonceProfile
    extraNonceStart := gatewayExtraNonce value.extraNoncePrefix value.extraNonce2StartBe
    extraNonceEnd := gatewayExtraNonce value.extraNoncePrefix value.extraNonce2EndBe
    nonceStart := value.nonceStart
    nonceEnd := value.nonceEnd
    nonceStride := value.nonceStride
    edgeTarget := value.edgeTarget
    captureTarget := value.captureTarget
    telemetryLevel := value.telemetryLevel }

end WorkEnvelope

/-!
### Leases
-/

namespace WorkLease

def canonicalBody (lease : WorkLease) : List UInt8 :=
  u16 lease.protocolVersion ++ fixed lease.assignmentId
    ++ u64 lease.assignmentSequence ++ u64 lease.jobGeneration
    ++ fixed lease.deviceId ++ u16 lease.extraNonceProfile
    ++ fixed lease.extraNonceStart ++ fixed lease.extraNonceEnd
    ++ Encoder.u32 lease.nonceStart ++ Encoder.u32 lease.nonceEnd ++ Encoder.u32 lease.nonceStride
    ++ fixed lease.edgeTarget ++ fixed lease.captureTarget
    ++ u64 lease.activatedAtMs ++ Encoder.option u64 lease.expiresAtMs
    ++ encodeBool lease.completionReportAllowed

def canonicalId (lease : WorkLease) : Hash256 :=
  domainHash workLeaseDomain lease.canonicalBody

omit P in
def acceptsExtraNonce (lease : WorkLease) (extraNonce : ByteVec 24) : Bool :=
  if extraNonce < lease.extraNonceStart ∨ lease.extraNonceEnd < extraNonce then
    false
  else if lease.extraNonceProfile = 0 then
    lease.extraNonceStart = lease.extraNonceEnd && extraNonce = lease.extraNonceStart
  else if lease.extraNonceProfile = gatewayExtraNonceProfile then
    noncePrefixOf extraNonce = noncePrefixOf lease.extraNonceStart
      && noncePrefixOf extraNonce = noncePrefixOf lease.extraNonceEnd
      && (extraNonce.toList.drop 8).all (· = 0)
  else
    false

end WorkLease

instance : CanonicalEncode WorkLease where
  encode self :=
    u16 self.protocolVersion ++ fixed self.leaseId
    ++ fixed self.assignmentId ++ u64 self.assignmentSequence
    ++ u64 self.jobGeneration ++ fixed self.deviceId
    ++ u16 self.extraNonceProfile ++ fixed self.extraNonceStart
    ++ fixed self.extraNonceEnd ++ Encoder.u32 self.nonceStart
    ++ Encoder.u32 self.nonceEnd ++ Encoder.u32 self.nonceStride
    ++ fixed self.edgeTarget ++ fixed self.captureTarget
    ++ u64 self.activatedAtMs ++ Encoder.option u64 self.expiresAtMs
    ++ encodeBool self.completionReportAllowed

instance : CanonicalDecode WorkLease where
  decode := do
    let protocolVersion ← Decoder.u16
    let leaseId ← array 32
    let assignmentId ← array 32
    let assignmentSequence ← Decoder.u64
    let jobGeneration ← Decoder.u64
    let deviceId ← array 32
    let extraNonceProfile ← Decoder.u16
    let extraNonceStart ← array 24
    let extraNonceEnd ← array 24
    let nonceStart ← Decoder.u32
    let nonceEnd ← Decoder.u32
    let nonceStride ← Decoder.u32
    let edgeTarget ← array 32
    let captureTarget ← array 32
    let activatedAtMs ← Decoder.u64
    let expiresAtMs ← decodeOptionalU64 "expires_at_ms"
    let completionReportAllowed ← decodeBool
    let value : WorkLease := {
      protocolVersion, leaseId, assignmentId, assignmentSequence, jobGeneration, deviceId,
      extraNonceProfile, extraNonceStart, extraNonceEnd, nonceStart, nonceEnd, nonceStride,
      edgeTarget, captureTarget, activatedAtMs, expiresAtMs, completionReportAllowed }
    if value.protocolVersion ≠ workProtocolVersion ∨ value.canonicalId ≠ value.leaseId then
      throw (.invalidField "work_lease")
    return value

def decodeLease (bytes : List UInt8) : Except CodecError WorkLease :=
  fromCanonicalBytes bytes .default

def WorkEnvelope.validateLease (envelope : WorkEnvelope) (lease : WorkLease)
    (capabilities : DeviceCapabilities)
    : Except LeaseError Unit := do
  rejectIf (lease.protocolVersion ≠ workProtocolVersion
      ∨ lease.assignmentId ≠ envelope.assignmentId
      ∨ lease.assignmentSequence ≠ envelope.assignmentSequence
      ∨ lease.jobGeneration ≠ envelope.jobGeneration
      ∨ lease.extraNonceProfile ≠ envelope.extraNonceProfile
      ∨ lease.extraNonceStart < envelope.extraNonceStart
      ∨ envelope.extraNonceEnd < lease.extraNonceEnd
      ∨ lease.extraNonceEnd < lease.extraNonceStart
      ∨ lease.nonceStart < envelope.nonceStart
      ∨ envelope.nonceEnd < lease.nonceEnd
      ∨ lease.nonceEnd < lease.nonceStart
      ∨ envelope.nonceStride = 0
      ∨ lease.nonceStride = 0
      ∨ lease.nonceStride.toNat % envelope.nonceStride.toNat ≠ 0
      ∨ (lease.nonceStart.toNat - envelope.nonceStart.toNat) % envelope.nonceStride.toNat ≠ 0
      ∨ envelope.edgeTarget < lease.edgeTarget
      ∨ lease.edgeTarget < envelope.captureTarget
      ∨ lease.captureTarget ≠ envelope.captureTarget)
    .leaseOutsideEnvelope
  rejectIf (lease.extraNonceStart ≠ lease.extraNonceEnd ∧ !capabilities.supportsExtraNonceRange)
    .unsupportedLease
  rejectIf ((lease.nonceStart ≠ envelope.nonceStart ∨ lease.nonceEnd ≠ envelope.nonceEnd
      ∨ lease.nonceStride ≠ envelope.nonceStride) ∧ !capabilities.supportsNonceRange)
    .unsupportedLease
  rejectIf (lease.nonceStride ≠ envelope.nonceStride ∧ !capabilities.supportsNonceStride)
    .unsupportedLease
  rejectIf (lease.completionReportAllowed ≠ capabilities.reportsRangeCompletion
      ∨ lease.edgeTarget < capabilities.minimumDeviceTarget)
    .unsupportedLease
  validateTargets lease.edgeTarget lease.captureTarget
  rejectIf (lease.canonicalId ≠ lease.leaseId) .invalidLeaseId

/-!
### The recorded bytes determine the lease
-/

omit P in
theorem reads_bool {limits : DecodeLimits} (value : Bool)
    : Decoder.Reads limits decodeBool (encodeBool value) value := by
  unfold decodeBool encodeBool
  rw [← List.append_nil (u8 _)]
  apply (reads_u8 _).bind
  cases value <;> apply Decoder.reads_pure

omit P in
theorem reads_optionalU64 {limits : DecodeLimits} (field : String) (value : Option UInt64)
    : Decoder.Reads limits (decodeOptionalU64 field) (Encoder.option u64 value) value := by
  unfold decodeOptionalU64
  cases value with
  | none =>
    unfold Encoder.option
    rw [← List.append_nil (u8 _)]
    apply (reads_u8 _).bind
    apply Decoder.reads_pure
  | some value =>
    apply (reads_u8 _).bind
    apply (reads_u64 _).map

theorem decodeLease_toCanonicalBytes {lease : WorkLease} (hversion : lease.protocolVersion = workProtocolVersion)
    (hid : lease.canonicalId = lease.leaseId)
    : decodeLease (toCanonicalBytes lease) = .ok lease := by
  unfold decodeLease fromCanonicalBytes
  apply Decoder.Reads.fromCanonicalBytes
  . unfold toCanonicalBytes CanonicalEncode.encode instCanonicalEncodeWorkLease
    simp only [List.append_assoc]
    apply (reads_u16 _).bind
    apply (reads_array _).bind
    apply (reads_array _).bind
    apply (reads_u64 _).bind
    apply (reads_u64 _).bind
    apply (reads_array _).bind
    apply (reads_u16 _).bind
    apply (reads_array _).bind
    apply (reads_array _).bind
    apply (reads_u32 _).bind
    apply (reads_u32 _).bind
    apply (reads_u32 _).bind
    apply (reads_array _).bind
    apply (reads_array _).bind
    apply (reads_u64 _).bind
    apply (reads_optionalU64 _ _).bind
    rw [← List.append_nil (encodeBool _)]
    apply (reads_bool _).bind
    dsimp only
    rw [if_neg (not_or.mpr ⟨not_not.mpr hversion, not_not.mpr hid⟩)]
    apply Decoder.reads_pure
  . have hoption : (Encoder.option u64 lease.expiresAtMs).length ≤ 9 := by
      cases lease.expiresAtMs <;> simp [Encoder.option]
    have hlimit : DecodeLimits.default.maxObjectBytes = 4194304 := rfl
    simp only [toCanonicalBytes, CanonicalEncode.encode, encodeBool, List.length_append,
      Encoder.length_u16, Encoder.length_fixed, Encoder.length_u64, Encoder.length_u32, Encoder.length_u8]
    omega

end MeshMine.Work
