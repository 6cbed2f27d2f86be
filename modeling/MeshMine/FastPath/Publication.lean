import MeshMine.Codec.RoundTrip
import MeshMine.Data.Except
import MeshMine.Storage.Journal
import MeshMine.Storage.StoreSteps

/-!
The durable fan-out of a block candidate (`meshmine-fast-path/src/lib.rs`): the intent and the attempt records
of each target, their encodings and rows, and what a publication does before and after its targets are called.

A target identifier is kept as its UTF-8 bytes, whose lexicographic order is the order of the source's strings.
-/

namespace MeshMine.FastPath

open MeshMine.Types Codec Storage
open Except (rejectIf)
open Encoder (fixed u8 u64)
open Decoder (array reads_array reads_u8 reads_u16 reads_u64)

abbrev TargetId := List UInt8

def publicationIntentVersion : UInt16 := 1
def maxPublicationPayloadBytes : Nat := 4 * 1024 * 1024
def maxPublicationTargets : Nat := 32
def maxPublicationTargetIdBytes : Nat := 64
def maxPublicationAttemptsPerTarget : UInt16 := 16
def headStarted : UInt8 := 1
def headCompleted : UInt8 := 2

structure BlockPublicationIntent where
  version : UInt16
  networkId : UInt8
  winnerShareId : Hash256
  blockHash : Hash256
  payloadHash : Hash256
  payload : List UInt8
  targetIds : List TargetId

instance : UnsignedObject BlockPublicationIntent where
  domainTag := "meshmine/block-publication-intent/v1"
  encodeUnsigned self :=
    Encoder.u16 self.version ++ u8 self.networkId ++ fixed self.winnerShareId
    ++ fixed self.blockHash ++ fixed self.payloadHash ++ Encoder.bytes self.payload
    ++ Encoder.list Encoder.bytes self.targetIds

instance : CanonicalEncode BlockPublicationIntent where
  encode := UnsignedObject.encodeUnsigned

inductive PublicationResultKind where
  | accepted
  | alreadyKnown
  | rejected
  | retryable
deriving DecidableEq

structure PublicationTargetResult where
  kind : PublicationResultKind
  responseCode : UInt16
  detailHash : Hash256
deriving DecidableEq

structure TargetPublicationReport where
  targetId : TargetId
  attemptSequence : UInt16
  result : PublicationTargetResult
  submittedThisRun : Bool
  attemptsExhausted : Bool
  attemptElapsedUs : UInt64
deriving DecidableEq

structure PublicationFanoutReport where
  intentId : Hash256
  targets : List TargetPublicationReport
  firstAcceptedTarget : Option TargetId
  firstAcceptedElapsedUs : Option UInt64

inductive PublicationError where
  | invalidIntent
  | targetSetMismatch
  | invalidTarget
  | malformedDurableState
  | targetTaskStopped
  | clock
  | blockingTask
  | storage (error : StorageError)
  | codec (error : CodecError)
deriving DecidableEq

instance : FromStorageError PublicationError where
  ofStorage := .storage

structure AttemptStart where
  intentId : Hash256
  targetIdHash : Hash256
  sequence : UInt16
  startedUnixMs : UInt64
deriving DecidableEq

structure AttemptResult where
  intentId : Hash256
  targetIdHash : Hash256
  sequence : UInt16
  completedUnixMs : UInt64
  attemptElapsedUs : UInt64
  result : PublicationTargetResult

structure AttemptHead where
  intentId : Hash256
  targetIdHash : Hash256
  sequence : UInt16
  state : UInt8
  recordHash : Hash256

inductive PreparedTarget where
  | submit (target : TargetId) (start : AttemptStart)
  | existing (report : TargetPublicationReport)
deriving DecidableEq

namespace PublicationResultKind

def toByte : PublicationResultKind → UInt8
  | accepted => 1
  | alreadyKnown => 2
  | rejected => 3
  | retryable => 4

def isSuccess : PublicationResultKind → Bool
  | accepted | alreadyKnown => true
  | _ => false

def isTerminal : PublicationResultKind → Bool
  | retryable => false
  | _ => true

def fromByte (value : UInt8) : Except PublicationError PublicationResultKind :=
  if value = 1 then .ok accepted
  else if value = 2 then .ok alreadyKnown
  else if value = 3 then .ok rejected
  else if value = 4 then .ok retryable
  else .error .malformedDurableState

theorem fromByte_toByte (kind : PublicationResultKind) : fromByte kind.toByte = .ok kind := by
  cases kind <;> rfl

end PublicationResultKind

/-!
### Records
-/

/-- Record decoders refuse with the publisher's own error where they read an unknown value. -/
abbrev RecordDecoder := StateT DecoderState (Except PublicationError)

namespace RecordDecoder

def ofDecoder {α : Type} (decode : Decoder α) : RecordDecoder α := fun state =>
  (decode.run state).mapError .codec

/-- The source's `bounded_decoder`, the record's own decoder and `finish`. -/
def run {α : Type} (decode : RecordDecoder α) (maximum : Nat) (bytes : List UInt8) : Except PublicationError α := do
  rejectIf (maximum < bytes.length) (.codec (.objectTooLarge bytes.length maximum))
  let (value, state) ← StateT.run decode { rest := bytes, offset := 0, limits := ⟨maximum, maxPublicationTargets⟩ }
  rejectIf (state.rest.length ≠ 0) (.codec (.trailingBytes state.rest.length))
  return value

def tagged (magic : ByteVec 4) : RecordDecoder Unit := do
  let found ← ofDecoder (array 4)
  if found ≠ magic then
    throw .malformedDurableState
  let version ← ofDecoder Decoder.u16
  if version ≠ publicationIntentVersion then
    throw .malformedDurableState

def Reads {α : Type} (decode : RecordDecoder α) (bytes : List UInt8) (value : α) : Prop :=
  ∀ limits rest offset, StateT.run decode ⟨bytes ++ rest, offset, limits⟩
    = .ok (value, ⟨rest, offset + bytes.length, limits⟩)

variable {α : Type} {bytes : List UInt8}

theorem reads_ofDecoder {decode : Decoder α} {value : α} (h : ∀ limits, Decoder.Reads limits decode bytes value)
    : Reads (ofDecoder decode) bytes value := by
  intro limits rest offset
  change (StateT.run decode _).mapError PublicationError.codec = _
  rw [h limits rest offset]
  rfl

variable {β : Type}

theorem Reads.bind {decode : RecordDecoder α} {f : α → RecordDecoder β} {first second : List UInt8} {a : α} {b : β}
    (ha : Reads decode first a) (hb : Reads (f a) second b)
    : Reads (decode >>= f) (first ++ second) b := by
  intro limits rest offset
  rw [StateT.run_bind, List.append_assoc, ha, Except.ok_bind, hb, List.length_append, Nat.add_assoc]

theorem Reads.map {decode : RecordDecoder α} {f : α → β} {a : α} (ha : Reads decode bytes a)
    : Reads (decode >>= fun a => pure (f a)) bytes (f a) := by
  intro limits rest offset
  rw [StateT.run_bind, ha]
  rfl

theorem Reads.then {γ : Type} {x : Except PublicationError β} {f : β → RecordDecoder γ} {b : β} {c : γ}
    (hx : x = .ok b) (hf : Reads (f b) bytes c)
    : Reads (liftM x >>= f) bytes c := by
  intro limits rest offset
  rw [hx]
  exact hf limits rest offset

theorem reads_tagged (magic : ByteVec 4)
    : Reads (tagged magic) (fixed magic ++ Encoder.u16 publicationIntentVersion) () := by
  apply (reads_ofDecoder fun _ => reads_array magic).bind
  rw [if_neg (by simp)]
  intro limits rest offset
  change StateT.run (ofDecoder Decoder.u16 >>= _) _ = _
  rw [StateT.run_bind, reads_ofDecoder (fun _ => reads_u16 publicationIntentVersion)]
  rfl

theorem Reads.run {decode : RecordDecoder α} {value : α} (h : Reads decode bytes value) {maximum : Nat}
    (hlength : bytes.length ≤ maximum)
    : RecordDecoder.run decode maximum bytes = .ok value := by
  have hread := h ⟨maximum, maxPublicationTargets⟩ [] 0
  rw [List.append_nil] at hread
  unfold RecordDecoder.run
  rw [Except.rejectIf_of_not (by omega), Except.ok_bind, hread]
  rfl

end RecordDecoder

open RecordDecoder

def startMagic : ByteVec 4 := ⟨asciiBytes "MMBS", by decide⟩
def resultMagic : ByteVec 4 := ⟨asciiBytes "MMBR", by decide⟩
def headMagic : ByteVec 4 := ⟨asciiBytes "MMBH", by decide⟩

def recordTag (magic : ByteVec 4) : List UInt8 :=
  fixed magic ++ Encoder.u16 publicationIntentVersion

def encodeStart (value : AttemptStart) : List UInt8 :=
  recordTag startMagic ++ (fixed value.intentId ++ (fixed value.targetIdHash
    ++ (Encoder.u16 value.sequence ++ u64 value.startedUnixMs)))

def AttemptStart.decode : RecordDecoder AttemptStart := do
  tagged startMagic
  let intentId ← ofDecoder (array 32)
  let targetIdHash ← ofDecoder (array 32)
  let sequence ← ofDecoder Decoder.u16
  let startedUnixMs ← ofDecoder Decoder.u64
  return { intentId, targetIdHash, sequence, startedUnixMs }

def decodeStart : List UInt8 → Except PublicationError AttemptStart :=
  RecordDecoder.run AttemptStart.decode 96

def encodeResult (value : AttemptResult) : List UInt8 :=
  recordTag resultMagic ++ (fixed value.intentId ++ (fixed value.targetIdHash
    ++ (Encoder.u16 value.sequence ++ (u64 value.completedUnixMs ++ (u64 value.attemptElapsedUs
    ++ (u8 value.result.kind.toByte ++ (Encoder.u16 value.result.responseCode
    ++ fixed value.result.detailHash)))))))

def AttemptResult.decode : RecordDecoder AttemptResult := do
  tagged resultMagic
  let intentId ← ofDecoder (array 32)
  let targetIdHash ← ofDecoder (array 32)
  let sequence ← ofDecoder Decoder.u16
  let completedUnixMs ← ofDecoder Decoder.u64
  let attemptElapsedUs ← ofDecoder Decoder.u64
  let kindByte ← ofDecoder Decoder.u8
  let kind ← liftM (PublicationResultKind.fromByte kindByte)
  let responseCode ← ofDecoder Decoder.u16
  let detailHash ← ofDecoder (array 32)
  return { intentId, targetIdHash, sequence, completedUnixMs, attemptElapsedUs,
           result := { kind, responseCode, detailHash } }

def decodeResult : List UInt8 → Except PublicationError AttemptResult :=
  RecordDecoder.run AttemptResult.decode 144

def encodeHead (value : AttemptHead) : List UInt8 :=
  recordTag headMagic ++ (fixed value.intentId ++ (fixed value.targetIdHash
    ++ (Encoder.u16 value.sequence ++ (u8 value.state ++ fixed value.recordHash))))

def AttemptHead.decode : RecordDecoder AttemptHead := do
  tagged headMagic
  let intentId ← ofDecoder (array 32)
  let targetIdHash ← ofDecoder (array 32)
  let sequence ← ofDecoder Decoder.u16
  let state ← ofDecoder Decoder.u8
  let recordHash ← ofDecoder (array 32)
  return { intentId, targetIdHash, sequence, state, recordHash }

def decodeHead : List UInt8 → Except PublicationError AttemptHead :=
  RecordDecoder.run AttemptHead.decode 112

section

theorem decodeStart_encodeStart (value : AttemptStart) : decodeStart (encodeStart value) = .ok value := by
  have hreads : Reads AttemptStart.decode (encodeStart value) value := by
    apply (reads_tagged startMagic).bind
    apply (reads_ofDecoder fun _ => reads_array _).bind
    apply (reads_ofDecoder fun _ => reads_array _).bind
    apply (reads_ofDecoder fun _ => reads_u16 _).bind
    apply (reads_ofDecoder fun _ => reads_u64 _).map
  apply hreads.run
  simp [encodeStart, recordTag]

theorem decodeResult_encodeResult (value : AttemptResult) : decodeResult (encodeResult value) = .ok value := by
  have hreads : Reads AttemptResult.decode (encodeResult value) value := by
    apply (reads_tagged resultMagic).bind
    apply (reads_ofDecoder fun _ => reads_array _).bind
    apply (reads_ofDecoder fun _ => reads_array _).bind
    apply (reads_ofDecoder fun _ => reads_u16 _).bind
    apply (reads_ofDecoder fun _ => reads_u64 _).bind
    apply (reads_ofDecoder fun _ => reads_u64 _).bind
    apply (reads_ofDecoder fun _ => reads_u8 _).bind
    apply Reads.then value.result.kind.fromByte_toByte
    apply (reads_ofDecoder fun _ => reads_u16 _).bind
    apply (reads_ofDecoder fun _ => reads_array _).map
  apply hreads.run
  simp [encodeResult, recordTag]

theorem decodeHead_encodeHead (value : AttemptHead) : decodeHead (encodeHead value) = .ok value := by
  have hreads : Reads AttemptHead.decode (encodeHead value) value := by
    apply (reads_tagged headMagic).bind
    apply (reads_ofDecoder fun _ => reads_array _).bind
    apply (reads_ofDecoder fun _ => reads_array _).bind
    apply (reads_ofDecoder fun _ => reads_u16 _).bind
    apply (reads_ofDecoder fun _ => reads_u8 _).bind
    apply (reads_ofDecoder fun _ => reads_array _).map
  apply hreads.run
  simp [encodeHead, recordTag]

theorem encodeStart_inj {a b : AttemptStart} (h : encodeStart a = encodeStart b) : a = b := by
  have hdecode := decodeStart_encodeStart a
  rw [h, decodeStart_encodeStart] at hdecode
  injection hdecode with hdecode
  exact hdecode.symm

theorem encodeResult_inj {a b : AttemptResult} (h : encodeResult a = encodeResult b) : a = b := by
  have hdecode := decodeResult_encodeResult a
  rw [h, decodeResult_encodeResult] at hdecode
  injection hdecode with hdecode
  exact hdecode.symm

end

/-!
### Rows
-/

def intentRow (intentId : Hash256) : Row :=
  ⟨"block-publication-intent/v1", hexEncode intentId.toList⟩

variable (intentId targetIdHash : Hash256)

def headKey : List UInt8 :=
  hexEncode intentId.toList ++ asciiBytes "-" ++ hexEncode targetIdHash.toList

variable (sequence : UInt16)

/-- Formats as `{sequence:05}`; a `u16` has at most five digits. -/
def fiveDigits : List UInt8 :=
  [10000, 1000, 100, 10, 1].map fun unit => UInt8.ofNat (48 + sequence.toNat / unit % 10)

def attemptKey : List UInt8 :=
  headKey intentId targetIdHash ++ asciiBytes "-" ++ fiveDigits sequence

def headRow : Row :=
  ⟨"block-publication-attempt-head/v1", headKey intentId targetIdHash⟩

def startRow : Row :=
  ⟨"block-publication-attempt-start/v1", attemptKey intentId targetIdHash sequence⟩

def resultRow : Row :=
  ⟨"block-publication-attempt-result/v1", attemptKey intentId targetIdHash sequence⟩

theorem fiveDigits_inj {a b : UInt16} (h : fiveDigits a = fiveDigits b) : a = b := by
  have hdigit : ∀ {m n : Nat}, UInt8.ofNat (48 + m % 10) = UInt8.ofNat (48 + n % 10) → m % 10 = n % 10 := by
    intro m n h
    have h := congrArg UInt8.toNat h
    rw [UInt8.toNat_ofNat', UInt8.toNat_ofNat'] at h
    change (48 + m % 10) % 256 = (48 + n % 10) % 256 at h
    omega
  simp only [fiveDigits, List.map_cons, List.map_nil, List.cons.injEq, and_true] at h
  obtain ⟨h4, h3, h2, h1, h0⟩ := h
  have h4 := hdigit h4
  have h3 := hdigit h3
  have h2 := hdigit h2
  have h1 := hdigit h1
  have h0 := hdigit h0
  have ha := a.toNat_lt
  have hb := b.toNat_lt
  apply UInt16.toNat_inj.mp
  omega

theorem length_headKey : (headKey intentId targetIdHash).length = 129 := by
  have hdash : (asciiBytes "-").length = 1 := by decide
  simp [headKey, length_hexEncode, ByteVec.length_toList, hdash]

variable {intentId intentId' targetIdHash targetIdHash' : Hash256}

@[simp]
theorem headKey_inj
    : headKey intentId targetIdHash = headKey intentId' targetIdHash'
      ↔ intentId = intentId' ∧ targetIdHash = targetIdHash' := by
  constructor
  . intro h
    obtain ⟨hintent, htarget⟩ := hexEncode_append_inj (by simp [ByteVec.length_toList]) h
    exact ⟨ByteVec.ext hintent, ByteVec.ext htarget⟩
  . rintro ⟨rfl, rfl⟩
    rfl

@[simp]
theorem attemptKey_inj {sequence sequence' : UInt16}
    : attemptKey intentId targetIdHash sequence = attemptKey intentId' targetIdHash' sequence'
      ↔ (intentId = intentId' ∧ targetIdHash = targetIdHash') ∧ sequence = sequence' := by
  constructor
  . intro h
    unfold attemptKey at h
    rw [List.append_assoc, List.append_assoc] at h
    obtain ⟨hhead, hrest⟩ := List.append_inj h (by rw [length_headKey, length_headKey])
    exact ⟨headKey_inj.mp hhead, fiveDigits_inj (List.append_cancel_left hrest)⟩
  . rintro ⟨⟨rfl, rfl⟩, rfl⟩
    rfl

section

variable {i i' t t' : Hash256} {n n' : UInt16}

@[simp]
theorem headRow_inj : headRow i t = headRow i' t' ↔ i = i' ∧ t = t' := by
  simp [headRow]

@[simp]
theorem startRow_inj : startRow i t n = startRow i' t' n' ↔ (i = i' ∧ t = t') ∧ n = n' := by
  simp [startRow]

@[simp]
theorem resultRow_inj : resultRow i t n = resultRow i' t' n' ↔ (i = i' ∧ t = t') ∧ n = n' := by
  simp [resultRow]

@[simp]
theorem intentRow_inj : intentRow i = intentRow i' ↔ i = i' := by
  simp [intentRow]

@[simp]
theorem intentRow_ne_headRow : intentRow i ≠ headRow i' t' ∧ headRow i' t' ≠ intentRow i := by
  simp [intentRow, headRow]

@[simp]
theorem intentRow_ne
    : intentRow i ≠ startRow i' t' n ∧ intentRow i ≠ resultRow i' t' n
      ∧ startRow i' t' n ≠ intentRow i ∧ resultRow i' t' n ≠ intentRow i := by
  simp [intentRow, startRow, resultRow]

@[simp]
theorem headRow_ne
    : headRow i t ≠ startRow i' t' n ∧ headRow i t ≠ resultRow i' t' n
      ∧ startRow i' t' n ≠ headRow i t ∧ resultRow i' t' n ≠ headRow i t := by
  simp [headRow, startRow, resultRow]

@[simp]
theorem startRow_ne_resultRow
    : startRow i t n ≠ resultRow i' t' n' ∧ resultRow i' t' n' ≠ startRow i t n := by
  simp [startRow, resultRow]

end

/-!
### Validation
-/

/-- Either `is_ascii_lowercase`, `is_ascii_digit` or one of `-`, `_`, `.` and `:`. -/
def allowedTargetByte (byte : UInt8) : Bool :=
  (97 ≤ byte && byte ≤ 122) || (48 ≤ byte && byte ≤ 57) || [45, 95, 46, 58].contains byte

def isAsciiAlphanumeric (byte : UInt8) : Bool :=
  (97 ≤ byte && byte ≤ 122) || (65 ≤ byte && byte ≤ 90) || (48 ≤ byte && byte ≤ 57)

def validateTargetId (targetId : TargetId) : Except PublicationError Unit :=
  rejectIf (targetId = [] ∨ maxPublicationTargetIdBytes < targetId.length ∨ ¬ targetId.all (· < 128)
    ∨ ¬ targetId.all allowedTargetByte ∨ ¬ targetId.head?.any isAsciiAlphanumeric) .invalidTarget

def validateTargetIds : Option TargetId → List TargetId → Except PublicationError Unit
  | _, [] => .ok ()
  | previous, targetId :: targetIds => do
    validateTargetId targetId
    rejectIf (previous.any (targetId ≤ ·)) .invalidIntent
    validateTargetIds (some targetId) targetIds

theorem sorted_of_validateTargetIds {previous : Option TargetId} {targetIds : List TargetId}
    (h : validateTargetIds previous targetIds = .ok ())
    : (∀ p ∈ previous, ∀ targetId ∈ targetIds, p < targetId) ∧ targetIds.Pairwise (· < ·) := by
  induction targetIds generalizing previous with
  | nil => simp
  | cons targetId targetIds ih =>
    unfold validateTargetIds at h
    simp only [Except.bind_unit_eq_ok, Except.rejectIf_eq_ok] at h
    obtain ⟨_, hprevious, hrest⟩ := h
    obtain ⟨hlater, hsorted⟩ := ih hrest
    have hlater := hlater targetId rfl
    refine ⟨?_, List.pairwise_cons.mpr ⟨hlater, hsorted⟩⟩
    intro p hp
    have hlt : p < targetId := by
      rw [Option.mem_def] at hp
      subst hp
      exact List.not_le.mp (by simpa using hprevious)
    rw [List.forall_mem_cons]
    exact ⟨hlt, fun other hother => List.lt_trans hlt (hlater other hother)⟩

/-- The second part of `DurableBlockPublisher::new`: no two targets in a row share their identifier. -/
def validateConfigured : Option TargetId → List TargetId → Except PublicationError Unit
  | _, [] => .ok ()
  | previous, targetId :: targetIds => do
    validateTargetId targetId
    rejectIf (previous = some targetId) .invalidTarget
    validateConfigured (some targetId) targetIds

def newPublisher (targets : List TargetId) : Except PublicationError (List TargetId) := do
  rejectIf (targets = [] ∨ maxPublicationTargets < targets.length) .invalidTarget
  let targets := targets.insertionSort (· ≤ ·)
  validateConfigured none targets
  return targets

/-- One round of `min_by_key` over the elapsed time and the identifier. -/
def earlier (best : Option TargetPublicationReport) (report : TargetPublicationReport)
    : Option TargetPublicationReport :=
  match best with
  | none => some report
  | some first =>
    if report.attemptElapsedUs < first.attemptElapsedUs
        ∨ report.attemptElapsedUs = first.attemptElapsedUs ∧ report.targetId < first.targetId then
      some report
    else
      some first

def firstAccepted (reports : List TargetPublicationReport) : Option TargetPublicationReport :=
  let current := (reports.filter fun report => report.submittedThisRun && report.result.kind.isSuccess).foldl
    earlier none
  let existing := reports.find? fun report => !report.submittedThisRun && report.result.kind.isSuccess
  existing.or current

theorem foldl_earlier (reports : List TargetPublicationReport) (best : Option TargetPublicationReport)
    : (∀ report, reports.foldl earlier best = some report → report ∈ reports ∨ best = some report)
      ∧ (reports.foldl earlier best = none → reports = [] ∧ best = none) := by
  induction reports generalizing best with
  | nil => simp
  | cons report reports ih =>
    have hround : earlier best report = some report ∨ earlier best report = best ∧ best ≠ none := by
      unfold earlier
      cases best with
      | none => simp
      | some first =>
        dsimp only
        split <;> simp
    obtain ⟨hsome, hnone⟩ := ih (earlier best report)
    rw [List.foldl_cons]
    constructor
    . intro other hother
      rcases hsome other hother with hmem | heq
      . exact .inl (List.mem_cons_of_mem _ hmem)
      . rcases hround with h | ⟨h, _⟩
        . rw [h, Option.some.injEq] at heq
          simp [heq]
        . exact .inr (h.symm.trans heq)
    . intro hfold
      have hbest := (hnone hfold).2
      rcases hround with h | ⟨h, hne⟩
      . simp [h] at hbest
      . exact absurd (h.symm.trans hbest) hne

variable {reports : List TargetPublicationReport} {report : TargetPublicationReport}

theorem mem_of_firstAccepted (h : firstAccepted reports = some report)
    : report ∈ reports ∧ report.result.kind.isSuccess = true := by
  unfold firstAccepted at h
  rw [Option.or_eq_some_iff] at h
  rcases h with h | ⟨_, h⟩
  . have hsuccess := List.find?_some h
    exact ⟨List.mem_of_find?_eq_some h, by simp_all⟩
  . rcases (foldl_earlier _ none).1 report h with hmem | heq
    . rw [List.mem_filter] at hmem
      exact ⟨hmem.1, by simp_all⟩
    . contradiction

theorem isSuccess_eq_false_of_firstAccepted (h : firstAccepted reports = none) (hmem : report ∈ reports)
    : report.result.kind.isSuccess = false := by
  unfold firstAccepted at h
  rw [Option.or_eq_none_iff] at h
  obtain ⟨hexisting, hcurrent⟩ := h
  have hexisting := List.find?_eq_none.mp hexisting report hmem
  have hcurrent := List.filter_eq_nil_iff.mp ((foldl_earlier _ none).2 hcurrent).1 report hmem
  cases hsubmitted : report.submittedThisRun <;> simp_all

def fanoutReport (intentId : Hash256) (reports : List TargetPublicationReport) : PublicationFanoutReport :=
  let reports := reports.insertionSort fun left right => left.targetId ≤ right.targetId
  let first := firstAccepted reports
  { intentId
    targets := reports
    firstAcceptedTarget := first.map (·.targetId)
    firstAcceptedElapsedUs := (first.filter (·.submittedThisRun)).map (·.attemptElapsedUs) }

def validateHeadBinding (head : AttemptHead) (intentId targetIdHash : Hash256) : Except PublicationError Unit :=
  rejectIf (head.intentId ≠ intentId ∨ head.targetIdHash ≠ targetIdHash ∨ head.sequence = 0
    ∨ maxPublicationAttemptsPerTarget < head.sequence
    ∨ ¬ (head.state = headStarted ∨ head.state = headCompleted)) .malformedDurableState

variable [P : Primitives]

def publicationPayloadHash (payload : List UInt8) : Hash256 :=
  domainHash "meshmine/block-publication-payload/v1" payload

def validateIntent (intent : BlockPublicationIntent) : Except PublicationError Unit := do
  rejectIf (intent.version ≠ publicationIntentVersion ∨ intent.winnerShareId = ByteVec.zero 32
    ∨ intent.blockHash = ByteVec.zero 32 ∨ intent.payload = []
    ∨ maxPublicationPayloadBytes < intent.payload.length
    ∨ publicationPayloadHash intent.payload ≠ intent.payloadHash ∨ intent.targetIds = []
    ∨ maxPublicationTargets < intent.targetIds.length) .invalidIntent
  validateTargetIds none intent.targetIds

def targetHash (targetId : TargetId) : Hash256 :=
  domainHash "meshmine/block-publication-target/v1" targetId

def startHash (bytes : List UInt8) : Hash256 :=
  domainHash "meshmine/block-publication-attempt-start/v1" bytes

def resultHash (bytes : List UInt8) : Hash256 :=
  domainHash "meshmine/block-publication-attempt-result/v1" bytes

def startedHead (start : AttemptStart) : AttemptHead where
  intentId := start.intentId
  targetIdHash := start.targetIdHash
  sequence := start.sequence
  state := headStarted
  recordHash := startHash (encodeStart start)

def completedHead (start : AttemptStart) (result : AttemptResult) : AttemptHead where
  intentId := start.intentId
  targetIdHash := start.targetIdHash
  sequence := start.sequence
  state := headCompleted
  recordHash := resultHash (encodeResult result)

/-!
### Durable steps
-/

def persistIntent (intent : BlockPublicationIntent) : StoreM PublicationError Unit := do
  let row := intentRow (objectId intent)
  let bytes := toCanonicalBytes intent
  match ← StoreM.putIfAbsent row bytes with
  | true => return ()
  | false =>
    let existing ← StoreM.get row
    StoreM.ofExcept (rejectIf (existing ≠ some bytes) .malformedDurableState)

def persistAttemptStart (head : Row) (expectedHead : Option (List UInt8)) (start : AttemptStart)
    : StoreM PublicationError Unit := do
  let applied ← StoreM.applyBatchIfAll [⟨head, expectedHead⟩]
    [.put (startRow start.intentId start.targetIdHash start.sequence) (encodeStart start),
      .put head (encodeHead (startedHead start))]
  StoreM.ofExcept (rejectIf (applied = false) .malformedDurableState)

def persistAttemptResult (start : AttemptStart) (result : AttemptResult) : StoreM PublicationError Unit := do
  StoreM.ofExcept (rejectIf (result.intentId ≠ start.intentId ∨ result.targetIdHash ≠ start.targetIdHash
    ∨ result.sequence ≠ start.sequence) .malformedDurableState)
  let head := headRow start.intentId start.targetIdHash
  let applied ← StoreM.applyBatchIfAll [⟨head, some (encodeHead (startedHead start))⟩]
    [.put (resultRow start.intentId start.targetIdHash start.sequence) (encodeResult result),
      .put head (encodeHead (completedHead start result))]
  StoreM.ofExcept (rejectIf (applied = false) .malformedDurableState)

def loadAttemptStart (head : AttemptHead) : StoreM PublicationError AttemptStart := do
  match ← StoreM.get (startRow head.intentId head.targetIdHash head.sequence) with
  | none => StoreM.ofExcept (.error .malformedDurableState)
  | some bytes =>
    StoreM.ofExcept (rejectIf (startHash bytes ≠ head.recordHash) .malformedDurableState)
    let start ← StoreM.ofExcept (decodeStart bytes)
    StoreM.ofExcept (rejectIf (start.intentId ≠ head.intentId ∨ start.targetIdHash ≠ head.targetIdHash
      ∨ start.sequence ≠ head.sequence) .malformedDurableState)
    return start

def loadAttemptResult (head : AttemptHead) : StoreM PublicationError AttemptResult := do
  match ← StoreM.get (resultRow head.intentId head.targetIdHash head.sequence) with
  | none => StoreM.ofExcept (.error .malformedDurableState)
  | some bytes =>
    StoreM.ofExcept (rejectIf (resultHash bytes ≠ head.recordHash) .malformedDurableState)
    let result ← StoreM.ofExcept (decodeResult bytes)
    StoreM.ofExcept (rejectIf (result.intentId ≠ head.intentId ∨ result.targetIdHash ≠ head.targetIdHash
      ∨ result.sequence ≠ head.sequence) .malformedDurableState)
    return result

def existingReport (targetId : TargetId) (result : AttemptResult) : TargetPublicationReport where
  targetId := targetId
  attemptSequence := result.sequence
  result := result.result
  submittedThisRun := false
  attemptsExhausted := !result.result.kind.isTerminal && decide (maxPublicationAttemptsPerTarget ≤ result.sequence)
  attemptElapsedUs := result.attemptElapsedUs

def checkedNext : Except PublicationError UInt16 :=
  if sequence.toNat + 1 < 2 ^ 16 then .ok (sequence + 1) else .error .malformedDurableState

def prepareTarget (intentId : Hash256) (nowMs : UInt64) (targetId : TargetId)
    : StoreM PublicationError PreparedTarget := do
  let targetIdHash := targetHash targetId
  let row := headRow intentId targetIdHash
  match ← StoreM.get row with
  | none =>
    let start := { intentId, targetIdHash, sequence := 1, startedUnixMs := nowMs }
    persistAttemptStart row none start
    return .submit targetId start
  | some bytes =>
    let head ← StoreM.ofExcept (decodeHead bytes)
    StoreM.ofExcept (validateHeadBinding head intentId targetIdHash)
    if head.state = headStarted then
      let start ← loadAttemptStart head
      return .submit targetId start
    else if head.state = headCompleted then
      let result ← loadAttemptResult head
      if result.result.kind.isTerminal ∨ maxPublicationAttemptsPerTarget ≤ result.sequence then
        return .existing (existingReport targetId result)
      else
        let sequence ← StoreM.ofExcept (checkedNext result.sequence)
        let start := { intentId, targetIdHash, sequence, startedUnixMs := nowMs }
        persistAttemptStart row (some bytes) start
        return .submit targetId start
    else
      StoreM.ofExcept (.error .malformedDurableState)

/-- What `publish` does before it calls any target; the clock is read once, after the intent is durable. -/
def preparePublication (targets : List TargetId) (clock : Option UInt64) (intent : BlockPublicationIntent)
    : StoreM PublicationError (List PreparedTarget) := do
  StoreM.ofExcept (validateIntent intent)
  StoreM.ofExcept (rejectIf (targets ≠ intent.targetIds) .targetSetMismatch)
  persistIntent intent
  let nowMs ← StoreM.ofExcept (clock.elim (.error .clock) .ok)
  targets.mapM (prepareTarget (objectId intent) nowMs)

end MeshMine.FastPath
