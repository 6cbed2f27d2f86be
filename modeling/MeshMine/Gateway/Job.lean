import MeshMine.Handoff.Validation
import MeshMine.Hns.Target
import MeshMine.Types.Session

/-!
The jobs and captures of the operator's gateway, the checks on them and their durable encodings
(`meshmine-gateway/src/lib.rs`). Strings are kept as their UTF-8 bytes, as the store's keys are.
-/

namespace MeshMine.Gateway

open MeshMine.Types Storage Hns
open Except (rejectIf)

abbrev Text := List UInt8

inductive TelemetryLevel where
  | stockAsic
  | observableController
  | rangeProgrammable
  | auditableHardware
deriving DecidableEq

def TelemetryLevel.code : TelemetryLevel → UInt8
  | .stockAsic => 0
  | .observableController => 1
  | .rangeProgrammable => 2
  | .auditableHardware => 3

structure GatewayJob where
  id : Text
  assignmentSequence : UInt64
  previousBlock : Hash256
  merkleRoot : Hash256
  witnessRoot : Hash256
  treeRoot : Hash256
  reservedRoot : Hash256
  version : UInt32
  bits : UInt32
  ntime : UInt32
  maskHash : Hash256
  leadingZeroPrefixQ : UInt16
  blindBandBitsD : UInt16
  captureTarget : Hash256
  advertisedDeviceTarget : Hash256
  advertisedDifficulty : UInt32
  issuedMs : UInt64
  assignmentEndMs : UInt64
  submissionEndMs : UInt64
  transactionHashes : List Hash256

structure PreviousJobTransition where
  jobId : Text
  creditCutoffMs : UInt64
  submissionEndMs : UInt64

inductive JobState where
  | active
  | grace (creditCutoffMs submissionEndMs : UInt64)
  | closed
deriving DecidableEq

structure HandySubmission where
  username : Text
  jobId : Text
  extraNonce2 : ByteVec 4
  ntime : UInt32
  nonce : UInt32

structure ForwardedCapture where
  username : Text
  jobId : Text
  assignmentSequence : UInt64
  minerHeader : MinerHeader
  rawShareHash : Hash256
  receivedMs : UInt64
  creditEligible : Bool
  telemetryLevel : TelemetryLevel
deriving DecidableEq

inductive GatewayError where
  | storage (error : StorageError)
  | sequenceExhausted
  | assignmentConflict
  | activeJobExists
  | assignmentCapacity
  | invalidDurableState
  | captureNotFound
  | captureConsumerUnavailable
  | captureCapacity
  | invalidJobId
  | assignmentAuthorizationMismatch
  | handoff (error : Handoff.HandoffError)
  | jobTooLarge
  | invalidJobTiming
  | deviceTargetTooHard
  | invalidCaptureProfile
  | invalidDifficulty
  | advertisedTargetMismatch
  | staleJob
  | ntimeMismatch
  | highHash
  | duplicate

instance : FromStorageError GatewayError where
  ofStorage := .storage

def maxHandyDifficulty : UInt32 := 0x03ffffff
def maxJobTransactions : Nat := 100000

/-!
### Rows
-/

/-- As `u64::to_string`. -/
def decimal (value : UInt64) : Text :=
  (Nat.toDigits 10 value.toNat).map fun digit => UInt8.ofNat digit.toNat

def sequenceRow : Row := ⟨"gateway-sequence-v2", asciiBytes "next-assignment"⟩

def assignmentSpace : String := "gateway-assignment-v2"
def assignmentStateSpace : String := "gateway-assignment-state-v2"
def retiringAssignmentSpace : String := "gateway-retiring-assignment-v3"
def captureSpace : String := "gateway-capture-v2"
def captureTombstoneSpace : String := "gateway-capture-tombstone-v2"

variable (sequence : UInt64)

def assignmentRow : Row := ⟨assignmentSpace, decimal sequence⟩
def assignmentStateRow : Row := ⟨assignmentStateSpace, decimal sequence⟩
def currentAssignmentRow : Row := ⟨"gateway-current-assignment-v3", asciiBytes "current"⟩
def currentAssignmentFormatRow : Row := ⟨"gateway-current-assignment-v3", asciiBytes "format"⟩
def assignmentPrefixPolicyRow : Row :=
  ⟨"gateway-assignment-prefix-policy-v3", decimal sequence⟩
def retiringAssignmentRow : Row := ⟨retiringAssignmentSpace, decimal sequence⟩
def retiredJobRow (id : Text) : Row := ⟨"gateway-retired-job-v3", id⟩
def captureRow (workKey : Hash256) : Row := ⟨captureSpace, hexEncode workKey.toList⟩
def captureTombstoneRow (workKey : Hash256) : Row := ⟨captureTombstoneSpace, hexEncode workKey.toList⟩

def currentAssignmentFormat : List UInt8 := asciiBytes "single-active-v3"
def assignmentPrefixPolicy : List UInt8 := asciiBytes "assignment-prefix-v3"

/-!
### Durable encodings
-/

def u16Bytes (value : UInt16) : List UInt8 :=
  Bytes.toLE 2 value.toNat

/-- The casts `usize as u16` and `usize as u64` keep the low bits of a length. -/
def encodeDurableJob (job : GatewayJob) : List UInt8 :=
  u64Bytes (UInt64.ofNat job.id.length) ++ job.id ++ u64Bytes job.assignmentSequence
    ++ job.previousBlock.toList ++ job.merkleRoot.toList ++ job.witnessRoot.toList
    ++ job.treeRoot.toList ++ job.reservedRoot.toList
    ++ u32Bytes job.version ++ u32Bytes job.bits ++ u32Bytes job.ntime ++ job.maskHash.toList
    ++ u16Bytes job.leadingZeroPrefixQ ++ u16Bytes job.blindBandBitsD ++ job.captureTarget.toList
    ++ job.advertisedDeviceTarget.toList ++ u32Bytes job.advertisedDifficulty
    ++ u64Bytes job.issuedMs ++ u64Bytes job.assignmentEndMs ++ u64Bytes job.submissionEndMs
    ++ u64Bytes (UInt64.ofNat job.transactionHashes.length)
    ++ job.transactionHashes.flatMap ByteVec.toList

def encodeDurableJobState (state : JobState) : List UInt8 :=
  asciiBytes "MMGS" ++ u16Bytes 2 ++
    match state with
    | .active => [0]
    | .grace creditCutoffMs submissionEndMs =>
      [1] ++ u64Bytes creditCutoffMs ++ u64Bytes submissionEndMs
    | .closed => [2]

def encodeCaptureTombstone (assignmentSequence : UInt64) : List UInt8 :=
  asciiBytes "MMCT" ++ u16Bytes 3 ++ u64Bytes assignmentSequence

def encodeDurableCapture (capture : ForwardedCapture) : List UInt8 :=
  asciiBytes "MMCF" ++ u16Bytes 2
    ++ u16Bytes (UInt16.ofNat capture.username.length) ++ capture.username
    ++ u16Bytes (UInt16.ofNat capture.jobId.length) ++ capture.jobId
    ++ u64Bytes capture.assignmentSequence ++ capture.minerHeader.toBytes
    ++ capture.rawShareHash.toList ++ u64Bytes capture.receivedMs
    ++ [if capture.creditEligible then 1 else 0] ++ [capture.telemetryLevel.code]

abbrev DurableReader := StateT (List UInt8) (Except GatewayError)

namespace DurableReader

def take (length : Nat) : DurableReader (List UInt8) := fun rest =>
  if rest.length < length then
    .error .invalidDurableState
  else
    .ok (rest.take length, rest.drop length)

def array (n : Nat) : DurableReader (ByteVec n) := fun rest =>
  if h : rest.length < n then
    .error .invalidDurableState
  else
    .ok (⟨rest.take n, by rw [List.length_take]; omega⟩, rest.drop n)

def hash : DurableReader Hash256 :=
  array 32

def byte : DurableReader UInt8 := do
  let bytes ← take 1
  return bytes.headD 0

def u16 : DurableReader UInt16 := do
  let bytes ← take 2
  return UInt16.ofNat (Bytes.ofLE bytes)

def u32 : DurableReader UInt32 := do
  let bytes ← take 4
  return UInt32.ofNat (Bytes.ofLE bytes)

def u64 : DurableReader UInt64 := do
  let bytes ← take 8
  return UInt64.ofNat (Bytes.ofLE bytes)

def check (condition : Prop) [Decidable condition] : DurableReader Unit := fun rest =>
  if condition then .ok ((), rest) else .error .invalidDurableState

def boundedLength (maximum : Nat) : DurableReader Nat := do
  let value ← u64
  check (value.toNat ≤ maximum)
  return value.toNat

def string (length : Nat) : DurableReader Text := do
  let bytes ← take length
  check ((ByteArray.mk bytes.toArray).validateUTF8 = true)
  return bytes

def replicate {α : Type} (read : DurableReader α) : Nat → DurableReader (List α)
  | 0 => return []
  | count + 1 => do
    let value ← read
    let values ← replicate read count
    return value :: values

def finish : DurableReader Unit := fun rest =>
  if rest.length = 0 then .ok ((), rest) else .error .invalidDurableState

end DurableReader

variable (bytes : List UInt8)

open DurableReader in
def decodeDurableJob : Except GatewayError GatewayJob :=
  StateT.run' (s := bytes) do
    let idLength ← boundedLength 64
    let id ← string idLength
    let assignmentSequence ← u64
    let previousBlock ← hash
    let merkleRoot ← hash
    let witnessRoot ← hash
    let treeRoot ← hash
    let reservedRoot ← hash
    let version ← u32
    let bits ← u32
    let ntime ← u32
    let maskHash ← hash
    let leadingZeroPrefixQ ← u16
    let blindBandBitsD ← u16
    let captureTarget ← hash
    let advertisedDeviceTarget ← hash
    let advertisedDifficulty ← u32
    let issuedMs ← u64
    let assignmentEndMs ← u64
    let submissionEndMs ← u64
    let transactionCount ← boundedLength maxJobTransactions
    let transactionHashes ← replicate hash transactionCount
    finish
    return {
      id, assignmentSequence, previousBlock, merkleRoot, witnessRoot, treeRoot, reservedRoot,
      version, bits, ntime, maskHash, leadingZeroPrefixQ, blindBandBitsD, captureTarget,
      advertisedDeviceTarget, advertisedDifficulty, issuedMs, assignmentEndMs, submissionEndMs,
      transactionHashes }

open DurableReader in
def decodeDurableJobState : Except GatewayError JobState :=
  StateT.run' (s := bytes) do
    let magic ← take 4
    check (magic = asciiBytes "MMGS")
    let version ← u16
    check (version = 2)
    let tag ← byte
    let state ←
      if tag = 0 then
        pure JobState.active
      else if tag = 1 then do
        let creditCutoffMs ← u64
        let submissionEndMs ← u64
        pure (JobState.grace creditCutoffMs submissionEndMs)
      else do
        check (tag = 2)
        pure JobState.closed
    finish
    return state

open DurableReader in
def decodeCaptureTombstone : Except GatewayError UInt64 :=
  StateT.run' (s := bytes) do
    let magic ← take 4
    check (magic = asciiBytes "MMCT")
    let version ← u16
    check (version = 3 ∧ bytes.length = 14)
    let assignmentSequence ← u64
    finish
    return assignmentSequence

def TelemetryLevel.ofCode (code : UInt8) : Option TelemetryLevel :=
  [.stockAsic, .observableController, .rangeProgrammable, .auditableHardware].find?
    (·.code = code)

open DurableReader in
def decodeDurableCapture : Except GatewayError ForwardedCapture :=
  StateT.run' (s := bytes) do
    let magic ← take 4
    check (magic = asciiBytes "MMCF")
    let version ← u16
    check (version = 2)
    let usernameLength ← u16
    check (usernameLength.toNat ≠ 0 ∧ usernameLength.toNat ≤ 100)
    let username ← string usernameLength.toNat
    let jobIdLength ← u16
    check (12 ≤ jobIdLength.toNat ∧ jobIdLength.toNat ≤ 64)
    let jobId ← string jobIdLength.toNat
    let assignmentSequence ← u64
    let headerBytes ← take minerHeaderSize
    let minerHeader ← (MinerHeader.fromBytes headerBytes).mapError fun _ =>
      GatewayError.invalidDurableState
    let rawShareHash ← hash
    let receivedMs ← u64
    let eligible ← byte
    check (eligible = 0 ∨ eligible = 1)
    let level ← byte
    let telemetryLevel ← ((TelemetryLevel.ofCode level).elim (.error .invalidDurableState) .ok
      : Except GatewayError TelemetryLevel)
    finish
    return {
      username, jobId, assignmentSequence, minerHeader, rawShareHash, receivedMs,
      creditEligible := eligible = 1, telemetryLevel }

def decodeSequenceValue : Except GatewayError UInt64 := do
  rejectIf (bytes.length ≠ 8) .invalidDurableState
  return UInt64.ofNat (Bytes.ofLE bytes)

/-!
### Keys read back
-/

def fixedHashKey (value : List UInt8) : Except GatewayError Hash256 :=
  match hexDecode value with
  | none => .error .invalidDurableState
  | some bytes =>
    if h : bytes.length = 32 then
      if hexEncode bytes = value then .ok ⟨bytes, h⟩ else .error .invalidDurableState
    else
      .error .invalidDurableState

/-- As `str::parse::<u64>`: an optional plus sign, then digits whose value fits. -/
def parseU64 (value : List UInt8) : Except GatewayError UInt64 :=
  let digits := if value.head? = some 43 then value.drop 1 else value
  let number := digits.foldl (fun number digit => number * 10 + (digit.toNat - 48)) 0
  if digits = [] ∨ ¬ digits.all (fun digit => 48 ≤ digit && digit ≤ 57) ∨ 2 ^ 64 ≤ number then
    .error .invalidDurableState
  else
    .ok (UInt64.ofNat number)

/-!
### What is read back is what was written
-/

variable {bytes : List UInt8}

namespace DurableReader

variable {α β : Type} {rest : List UInt8} {b : β}

theorem bind_eq_ok {x : DurableReader α} {f : α → DurableReader β} (h : (x >>= f) bytes = .ok (b, rest))
    : ∃ a middle, x bytes = .ok (a, middle) ∧ f a middle = .ok (b, rest) := by
  obtain ⟨⟨a, middle⟩, hx, hf⟩ := Except.bind_eq_ok h
  exact ⟨a, middle, hx, hf⟩

theorem lift_bind_eq_ok {x : Except GatewayError α} {f : α → DurableReader β}
    (h : ((liftM x : DurableReader α) >>= f) bytes = .ok (b, rest))
    : ∃ a, x = .ok a ∧ f a bytes = .ok (b, rest) := by
  cases x with
  | error e => contradiction
  | ok a => exact ⟨a, rfl, h⟩

theorem pure_eq_ok {a b : α} (h : (pure a : DurableReader α) bytes = .ok (b, rest))
    : b = a ∧ rest = bytes := by
  injection h with h
  injection h with ha hrest
  exact ⟨ha.symm, hrest.symm⟩

variable {n : Nat}

theorem take_eq_ok {value : List UInt8} (h : take n bytes = .ok (value, rest))
    : bytes = value ++ rest ∧ value.length = n := by
  unfold take at h
  split at h
  next => contradiction
  next hlength =>
    injection h with h
    injection h with hvalue hrest
    rw [← hvalue, ← hrest, List.take_append_drop, List.length_take]
    exact ⟨rfl, by omega⟩

theorem array_eq_ok {value : ByteVec n} (h : array n bytes = .ok (value, rest))
    : bytes = value.toList ++ rest := by
  unfold array at h
  split at h
  next => contradiction
  next hlength =>
    injection h with h
    injection h with hvalue hrest
    rw [← hvalue, ← hrest, List.take_append_drop]

theorem byte_eq_ok {value : UInt8} (h : byte bytes = .ok (value, rest))
    : bytes = [value] ++ rest := by
  obtain ⟨taken, middle, htake, hpure⟩ := bind_eq_ok h
  obtain ⟨hvalue, rfl⟩ := pure_eq_ok hpure
  obtain ⟨hbytes, hlength⟩ := take_eq_ok htake
  obtain ⟨single, rfl⟩ := List.length_eq_one_iff.mp hlength
  rw [hbytes, hvalue]
  rfl

theorem u16_eq_ok {value : UInt16} (h : u16 bytes = .ok (value, rest))
    : bytes = u16Bytes value ++ rest := by
  obtain ⟨taken, middle, htake, hpure⟩ := bind_eq_ok h
  obtain ⟨rfl, rfl⟩ := pure_eq_ok hpure
  obtain ⟨hbytes, hlength⟩ := take_eq_ok htake
  have hlt : Bytes.ofLE taken < 2 ^ 16 := by
    have := Bytes.ofBE_lt taken.reverse
    rwa [List.length_reverse, hlength] at this
  unfold u16Bytes
  rw [UInt16.toNat_ofNat', Nat.mod_eq_of_lt hlt, ← hlength, Bytes.toLE_ofLE, hbytes]

theorem u64_eq_ok {value : UInt64} (h : u64 bytes = .ok (value, rest))
    : bytes = u64Bytes value ++ rest := by
  obtain ⟨taken, middle, htake, hpure⟩ := bind_eq_ok h
  obtain ⟨rfl, rfl⟩ := pure_eq_ok hpure
  obtain ⟨hbytes, hlength⟩ := take_eq_ok htake
  rw [u64Bytes_ofLE hlength, hbytes]

theorem check_bind_eq_ok {condition : Prop} [Decidable condition] {f : Unit → DurableReader β}
    (h : (check condition >>= f) bytes = .ok (b, rest))
    : condition ∧ f () bytes = .ok (b, rest) := by
  obtain ⟨_, middle, hcheck, hf⟩ := bind_eq_ok h
  unfold check at hcheck
  split at hcheck
  next hcondition =>
    injection hcheck with hcheck
    injection hcheck with _ hmiddle
    rw [hmiddle]
    exact ⟨hcondition, hf⟩
  next => contradiction

theorem string_eq_ok {value : Text} (h : string n bytes = .ok (value, rest))
    : bytes = value ++ rest ∧ value.length = n := by
  obtain ⟨taken, middle, htake, hcheck⟩ := bind_eq_ok h
  obtain ⟨_, hpure⟩ := check_bind_eq_ok hcheck
  obtain ⟨rfl, rfl⟩ := pure_eq_ok hpure
  exact take_eq_ok htake

theorem finish_eq_ok {u : Unit} (h : finish bytes = .ok (u, rest))
    : bytes = [] := by
  unfold finish at h
  split at h
  next hlength => exact List.length_eq_zero_iff.mp hlength
  next => contradiction

end DurableReader

theorem TelemetryLevel.code_of_ofCode {code : UInt8} {level : TelemetryLevel} (h : ofCode code = some level)
    : level.code = code := by
  have := List.find?_some h
  simpa using this

open DurableReader in
theorem encodeDurableCapture_of_decode {capture : ForwardedCapture} (h : decodeDurableCapture bytes = .ok capture)
    : encodeDurableCapture capture = bytes := by
  obtain ⟨⟨value, rest⟩, hread, hvalue⟩ := Except.bind_eq_ok h
  injection hvalue with hvalue
  obtain ⟨magic, b₀, hmagic, hread⟩ := bind_eq_ok hread
  obtain ⟨hmagicValue, hread⟩ := check_bind_eq_ok hread
  obtain ⟨version, b₁, hversion, hread⟩ := bind_eq_ok hread
  obtain ⟨hversionValue, hread⟩ := check_bind_eq_ok hread
  obtain ⟨usernameLength, b₂, husernameLength, hread⟩ := bind_eq_ok hread
  obtain ⟨_, hread⟩ := check_bind_eq_ok hread
  obtain ⟨username, b₃, husername, hread⟩ := bind_eq_ok hread
  obtain ⟨jobIdLength, b₄, hjobIdLength, hread⟩ := bind_eq_ok hread
  obtain ⟨_, hread⟩ := check_bind_eq_ok hread
  obtain ⟨jobId, b₅, hjobId, hread⟩ := bind_eq_ok hread
  obtain ⟨assignmentSequence, b₆, hsequence, hread⟩ := bind_eq_ok hread
  obtain ⟨headerBytes, b₇, hheaderBytes, hread⟩ := bind_eq_ok hread
  obtain ⟨minerHeader, hheader, hread⟩ := lift_bind_eq_ok hread
  obtain ⟨rawShareHash, b₈, hraw, hread⟩ := bind_eq_ok hread
  obtain ⟨receivedMs, b₉, hreceived, hread⟩ := bind_eq_ok hread
  obtain ⟨eligible, b₁₀, heligible, hread⟩ := bind_eq_ok hread
  obtain ⟨hbit, hread⟩ := check_bind_eq_ok hread
  obtain ⟨level, b₁₁, hlevel, hread⟩ := bind_eq_ok hread
  obtain ⟨telemetryLevel, htelemetry, hread⟩ := lift_bind_eq_ok hread
  obtain ⟨_, b₁₂, hfinish, hread⟩ := bind_eq_ok hread
  obtain ⟨hcapture, _⟩ := pure_eq_ok hread
  obtain ⟨husername, husernameSize⟩ := string_eq_ok husername
  obtain ⟨hjobId, hjobIdSize⟩ := string_eq_ok hjobId
  have hflag : (if decide (eligible = 1) = true then (1 : UInt8) else 0) = eligible := by
    rcases hbit with rfl | rfl <;> rfl
  have hcode : telemetryLevel.code = level := by
    apply TelemetryLevel.code_of_ofCode
    cases hofCode : TelemetryLevel.ofCode level with
    | none =>
      rw [hofCode] at htelemetry
      contradiction
    | some found =>
      rw [hofCode] at htelemetry
      injection htelemetry with htelemetry
      rw [htelemetry]
  rw [← hvalue, hcapture]
  unfold encodeDurableCapture
  dsimp only
  rw [hflag, hcode, MinerHeader.toBytes_of_fromBytes (Except.mapError_eq_ok.mp hheader)]
  rw [husernameSize, hjobIdSize, UInt16.ofNat_toNat, UInt16.ofNat_toNat]
  rw [(take_eq_ok hmagic).1, u16_eq_ok hversion,
    u16_eq_ok husernameLength, husername, u16_eq_ok hjobIdLength, hjobId,
    u64_eq_ok hsequence, (take_eq_ok hheaderBytes).1,
    array_eq_ok hraw, u64_eq_ok hreceived,
    byte_eq_ok heligible, byte_eq_ok hlevel,
    finish_eq_ok hfinish, hmagicValue, hversionValue]
  simp only [List.append_assoc, List.append_nil]

/-!
### The bytes determine the capture
-/

theorem length_u16Bytes (value : UInt16) : (u16Bytes value).length = 2 := Bytes.length_toLE _ _

theorem MinerHeader.length_toBytes (header : MinerHeader) : header.toBytes.length = 256 := by
  unfold MinerHeader.toBytes u32Bytes u64Bytes deterministicPadding
  simp [Bytes.length_toLE, ByteVec.length_toList]

open Codec.Encoder

theorem MinerHeader.toBytes_append_inj {a b : MinerHeader} {x y : List UInt8}
    : a.toBytes ++ x = b.toBytes ++ y ↔ a = b ∧ x = y := by
  constructor
  . intro h
    cases a
    cases b
    unfold MinerHeader.toBytes at h
    simp only [List.append_assoc] at h
    change u32 _ ++ (u64 _ ++ _)
      = u32 _ ++ (u64 _ ++ _) at h
    rw [u32_append_inj, u64_append_inj] at h
    obtain ⟨hnonce, htime, h⟩ := h
    have hpadding := List.append_inj h (by unfold deterministicPadding; simp)
    have hrest := hpadding.2
    change fixed _ ++ (fixed _ ++ (fixed _
        ++ (fixed _ ++ (fixed _ ++ (fixed _
        ++ (fixed _ ++ (u32 _ ++ (u32 _ ++ x))))))))
      = fixed _ ++ (fixed _ ++ (fixed _
        ++ (fixed _ ++ (fixed _ ++ (fixed _
        ++ (fixed _ ++ (u32 _ ++ (u32 _ ++ y)))))))) at hrest
    simp only [fixed_append_inj, u32_append_inj] at hrest
    obtain ⟨h1, h2, h3, h4, h5, h6, h7, h8, h9, hxy⟩ := hrest
    subst hnonce htime h1 h2 h3 h4 h5 h6 h7 h8 h9
    exact ⟨rfl, hxy⟩
  . rintro ⟨rfl, rfl⟩
    rfl

theorem TelemetryLevel.code_inj {a b : TelemetryLevel} (h : a.code = b.code) : a = b := by
  cases a <;> cases b <;> first | rfl | (exact absurd h (by decide))

/-- The encoding keeps only the low sixteen bits of a length. -/
theorem encodeDurableCapture_inj {a b : ForwardedCapture} (ha : a.jobId.length ≤ 64)
    (hb : b.jobId.length ≤ 64) (h : encodeDurableCapture a = encodeDurableCapture b)
    : a = b := by
  have hlength := congrArg List.length h
  unfold encodeDurableCapture at h hlength
  simp only [List.length_append, MinerHeader.length_toBytes, ByteVec.length_toList, u64Bytes,
    Bytes.length_toLE, length_u16Bytes, List.length_singleton] at hlength
  simp only [List.append_assoc] at h
  have h := List.append_cancel_left (List.append_cancel_left h)
  change u16 _ ++ _ = u16 _ ++ _ at h
  rw [u16_append_inj] at h
  obtain ⟨husername, h⟩ := h
  have hsize : a.username.length = b.username.length := by
    have := congrArg UInt16.toNat husername
    rw [UInt16.toNat_ofNat', UInt16.toNat_ofNat'] at this
    omega
  obtain ⟨hname, h⟩ := List.append_inj h hsize
  change u16 _ ++ _ = u16 _ ++ _ at h
  rw [u16_append_inj] at h
  obtain ⟨hjob, h⟩ := List.append_inj h.2 (by omega)
  change u64 _ ++ _ = u64 _ ++ _ at h
  rw [u64_append_inj, MinerHeader.toBytes_append_inj] at h
  obtain ⟨hsequence, hheader, h⟩ := h
  change fixed _ ++ (u64 _ ++ _)
    = fixed _ ++ (u64 _ ++ _) at h
  rw [fixed_append_inj, u64_append_inj] at h
  obtain ⟨hraw, hreceived, h⟩ := h
  injection h with hflag h
  injection h with hlevel _
  have heligible : a.creditEligible = b.creditEligible := by
    revert hflag
    cases a.creditEligible <;> cases b.creditEligible <;> decide
  have htelemetry := TelemetryLevel.code_inj hlevel
  cases a
  cases b
  simp_all

end MeshMine.Gateway
