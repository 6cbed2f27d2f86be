import MeshMine.Storage.Store

/-!
The immutable protocol journal (`ProtocolJournal` of `meshmine-storage/src/lib.rs`).
-/

namespace MeshMine.Storage

open MeshMine.Types

inductive ProtocolRecordKind where
  | operatorSequence
  | payoutBucket
  | bodyPackage
  | bodyValidation
  | erasureDescriptor
  | bodyShard
  | parentCertificate
  | maskSession
  | mpcTranscript
  | openingShare
  | assignment
  | gatewayAssignment
  | gatewayContextManifest
  | gatewayCaptureEnvelope
  | gatewayCaptureReceipt
  | gatewayAssignmentTransition
  | gatewayAssignmentDrain
  | coreAssignmentDrainReceipt
  | acceptedShare
  | acceptedWorkKey
  | receiptBatch
  | sessionClose
  | payoutSnapshot
  | payoutPlan
  | payoutRecoveryCheckpoint
  | canonicalPlanPayment
deriving DecidableEq

namespace ProtocolRecordKind

def all : List ProtocolRecordKind :=
  [ operatorSequence, payoutBucket, bodyPackage, bodyValidation, erasureDescriptor, bodyShard,
    parentCertificate, maskSession, mpcTranscript, openingShare, assignment, gatewayAssignment,
    gatewayContextManifest, gatewayCaptureEnvelope, gatewayCaptureReceipt,
    gatewayAssignmentTransition, gatewayAssignmentDrain, coreAssignmentDrainReceipt, acceptedShare,
    acceptedWorkKey, receiptBatch, sessionClose, payoutSnapshot, payoutPlan,
    payoutRecoveryCheckpoint, canonicalPlanPayment ]

def space : ProtocolRecordKind → String
  | operatorSequence => "journal/operator-sequence/v2"
  | payoutBucket => "journal/payout-bucket/v2"
  | bodyPackage => "journal/body-package/v2"
  | bodyValidation => "journal/body-validation/v2"
  | erasureDescriptor => "journal/erasure-descriptor/v2"
  | bodyShard => "journal/body-shard/v2"
  | parentCertificate => "journal/parent-certificate/v2"
  | maskSession => "journal/mask-session/v2"
  | mpcTranscript => "journal/mpc-transcript/v2"
  | openingShare => "journal/opening-share/v2"
  | assignment => "journal/assignment/v2"
  | gatewayAssignment => "journal/gateway-assignment/v1"
  | gatewayContextManifest => "journal/gateway-context-manifest/v1"
  | gatewayCaptureEnvelope => "journal/gateway-capture-envelope/v1"
  | gatewayCaptureReceipt => "journal/gateway-capture-receipt/v1"
  | gatewayAssignmentTransition => "journal/gateway-assignment-transition/v1"
  | gatewayAssignmentDrain => "journal/gateway-assignment-drain/v1"
  | coreAssignmentDrainReceipt => "journal/core-assignment-drain-receipt/v1"
  | acceptedShare => "journal/accepted-share/v2"
  | acceptedWorkKey => "journal/accepted-work-key/v2"
  | receiptBatch => "journal/receipt-batch/v2"
  | sessionClose => "journal/session-close/v2"
  | payoutSnapshot => "journal/payout-snapshot/v2"
  | payoutPlan => "journal/payout-plan/v2"
  | payoutRecoveryCheckpoint => "journal/payout-recovery-checkpoint/v1"
  | canonicalPlanPayment => "journal/canonical-plan-payment/v2"

theorem mem_all (kind : ProtocolRecordKind) : kind ∈ all := by
  cases kind <;> decide

theorem space_inj {a b : ProtocolRecordKind} (h : a.space = b.space) : a = b := by
  have hall : ∀ a ∈ all, ∀ b ∈ all, a.space = b.space → a = b := by decide
  apply hall a (mem_all a) b (mem_all b) h

end ProtocolRecordKind

def hexDigit (nibble : UInt8) : UInt8 :=
  if nibble < 10 then 48 + nibble else 87 + nibble

def hexEncode (bytes : List UInt8) : List UInt8 :=
  bytes.flatMap fun byte => [hexDigit (byte / 16), hexDigit (byte % 16)]

def hexValue (digit : UInt8) : Option UInt8 :=
  if 48 ≤ digit ∧ digit ≤ 57 then some (digit - 48)
  else if 97 ≤ digit ∧ digit ≤ 102 then some (digit - 87)
  else if 65 ≤ digit ∧ digit ≤ 70 then some (digit - 55)
  else none

def hexDecode : List UInt8 → Option (List UInt8)
  | [] => some []
  | high :: low :: rest => do
    let high ← hexValue high
    let low ← hexValue low
    let rest ← hexDecode rest
    return (high * 16 + low) :: rest
  | [_] => none

theorem length_hexEncode (bytes : List UInt8) : (hexEncode bytes).length = 2 * bytes.length := by
  unfold hexEncode
  induction bytes with
  | nil => rfl
  | cons byte bytes ih =>
    rw [List.flatMap_cons, List.length_append, ih, List.length_cons]
    simp only [List.length_cons, List.length_nil]
    omega

theorem toNat_hexDigit {nibble : UInt8} (h : nibble.toNat < 16)
    : (hexDigit nibble).toNat = if nibble.toNat < 10 then 48 + nibble.toNat else 87 + nibble.toNat := by
  unfold hexDigit
  simp only [UInt8.lt_iff_toNat_lt, UInt8.reduceToNat]
  split
  next hlt =>
    rw [UInt8.toNat_add]
    change (48 + nibble.toNat) % 256 = _
    omega
  next hge =>
    rw [UInt8.toNat_add]
    change (87 + nibble.toNat) % 256 = _
    omega

theorem toNat_halves (byte : UInt8)
    : (byte / 16).toNat = byte.toNat / 16 ∧ (byte % 16).toNat = byte.toNat % 16 ∧ byte.toNat < 256 := by
  exact ⟨UInt8.toNat_div .., UInt8.toNat_mod .., byte.toNat_lt⟩

theorem hexEncode_cons (byte : UInt8) (bytes : List UInt8)
    : hexEncode (byte :: bytes) = hexDigit (byte / 16) :: hexDigit (byte % 16) :: hexEncode bytes := rfl

theorem hexDecode_hexEncode (bytes : List UInt8) : hexDecode (hexEncode bytes) = some bytes := by
  have hdigit : ∀ n : Fin 16, hexValue (hexDigit (UInt8.ofNat n)) = some (UInt8.ofNat n) := by decide
  induction bytes with
  | nil => rfl
  | cons byte bytes ih =>
    have hbyte := toNat_halves byte
    have hhigh := hdigit ⟨(byte / 16).toNat, by omega⟩
    have hlow := hdigit ⟨(byte % 16).toNat, by omega⟩
    rw [UInt8.ofNat_toNat] at hhigh hlow
    have hjoin : byte / 16 * 16 + byte % 16 = byte := by
      apply UInt8.toNat_inj.mp
      rw [UInt8.toNat_add, UInt8.toNat_mul]
      change ((byte / 16).toNat * 16 % 256 + _) % 256 = _
      omega
    simp [hexEncode_cons, hexDecode, hhigh, hlow, ih, hjoin]

theorem hexEncode_inj {a b : List UInt8} (h : hexEncode a = hexEncode b) : a = b := by
  have hdecode := congrArg hexDecode h
  simpa [hexDecode_hexEncode] using hdecode

@[simp]
theorem hexEncode_toList_inj {n : Nat} {a b : ByteVec n} : hexEncode a.toList = hexEncode b.toList ↔ a = b := by
  constructor
  . intro h
    exact ByteVec.ext (hexEncode_inj h)
  . rintro rfl
    rfl

theorem hexEncode_append_inj {a a' b b' separator : List UInt8} (hlength : a.length = a'.length)
    (h : hexEncode a ++ separator ++ hexEncode b = hexEncode a' ++ separator ++ hexEncode b')
    : a = a' ∧ b = b' := by
  rw [List.append_assoc, List.append_assoc] at h
  obtain ⟨ha, hrest⟩ := List.append_inj h (by simp [length_hexEncode, hlength])
  exact ⟨hexEncode_inj ha, hexEncode_inj (List.append_cancel_left hrest)⟩

theorem zero_notMem_hexEncode (bytes : List UInt8) : 0 ∉ hexEncode bytes := by
  have hdigit : ∀ nibble : UInt8, nibble.toNat < 16 → hexDigit nibble ≠ 0 := by
    intro nibble hlt heq
    have htoNat := toNat_hexDigit hlt
    rw [heq] at htoNat
    change 0 = _ at htoNat
    split at htoNat <;> omega
  unfold hexEncode
  rw [List.mem_flatMap]
  rintro ⟨byte, _, hmem⟩
  have hbyte := toNat_halves byte
  simp only [List.mem_cons, List.not_mem_nil, or_false] at hmem
  rcases hmem with hmem | hmem
  . exact hdigit _ (by omega) hmem.symm
  . exact hdigit _ (by omega) hmem.symm

theorem Row.valid_hexEncode {space : String} (hspace : (asciiBytes space).contains 0 = false) (bytes : List UInt8)
    : Row.valid ⟨space, hexEncode bytes⟩ = true := by
  unfold Row.valid
  dsimp only
  rw [hspace, List.contains_eq_mem, decide_eq_false (zero_notMem_hexEncode bytes)]
  rfl

inductive DurableInvariantError where
  | storage (error : StorageError)
  | immutableConflict
  | supplementalJournalTarget
  | emptyJournalBatch
  | duplicateJournalKey
  | conflictingSignature
  | invalidRecoveryKey
  | invalidRecoveryPage
deriving DecidableEq

instance : FromStorageError DurableInvariantError where
  ofStorage := .storage

structure JournalBatchRecord where
  kind : ProtocolRecordKind
  durableKey : List UInt8
  value : List UInt8

inductive JournalBatchOutcome where
  | committed
  | exactRecord
  | preconditionMismatch
deriving DecidableEq

namespace ProtocolJournal

structure Prepared where
  row : Row
  value : List UInt8

def journalRow (kind : ProtocolRecordKind) (durableKey : List UInt8) : Row where
  space := kind.space
  key := hexEncode durableKey

theorem journalRow_inj {kind kind' : ProtocolRecordKind} {a b : List UInt8} (h : journalRow kind a = journalRow kind' b)
    : kind = kind' ∧ a = b := by
  unfold journalRow at h
  rw [Row.mk.injEq] at h
  exact ⟨ProtocolRecordKind.space_inj h.1, hexEncode_inj h.2⟩

def toPrepared (record : JournalBatchRecord) : Prepared :=
  ⟨journalRow record.kind record.durableKey, record.value⟩

def putOperation (record : Prepared) : BatchOperation :=
  .put record.row record.value

def isJournal (row : Row) : Bool :=
  ProtocolRecordKind.all.any fun kind => kind.space = row.space

def prepare (records : List JournalBatchRecord) : Except DurableInvariantError (List Prepared) :=
  go [] records
where
  go (prepared : List Prepared) : List JournalBatchRecord → Except DurableInvariantError (List Prepared)
    | [] => .ok prepared
    | record :: records =>
      if prepared.any (·.row = (toPrepared record).row) then
        .error .duplicateJournalKey
      else
        go (prepared ++ [toPrepared record]) records

def inspect : List Prepared → StoreM DurableInvariantError (List Bool)
  | [] => return []
  | record :: records => do
    match ← StoreM.get record.row with
    | none => return false :: (← inspect records)
    | some existing =>
      if existing = record.value then
        return true :: (← inspect records)
      else
        throw .immutableConflict

def exactCondition (record : Prepared) (isExact : Bool) : BatchCondition :=
  if isExact then .equals record.row record.value else .absent record.row

/-- The retry loop; the source allows one round more than there are records. -/
def attempt (prepared : List Prepared) (conditions : List BatchCondition)
    (operations : List BatchOperation)
    : Nat → StoreM DurableInvariantError JournalBatchOutcome
  | 0 => throw (.storage didNotStabilize)
  | rounds + 1 => do
    let observed ← inspect prepared
    let attemptConditions := conditions ++ List.zipWith exactCondition prepared observed
    if ← StoreM.applyBatchIfAll attemptConditions operations then
      return .committed
    let after ← inspect prepared
    if after = observed then
      return if after.all id then .exactRecord else .preconditionMismatch
    if (List.zip observed after).any fun (wasExact, isExact) => wasExact && !isExact then
      throw .immutableConflict
    attempt prepared conditions operations rounds

def persistRecordsWithConditionsAndBatch (records : List JournalBatchRecord)
    (conditions : List BatchCondition) (supplementalOperations : List BatchOperation)
    : StoreM DurableInvariantError JournalBatchOutcome := do
  if records.isEmpty then
    throw .emptyJournalBatch
  let prepared ← StoreM.ofExcept (prepare records)
  if conditions.any (fun condition => prepared.any (·.row = condition.row))
      || supplementalOperations.any (fun operation => isJournal operation.row) then
    throw .supplementalJournalTarget
  let operations := prepared.map putOperation ++ supplementalOperations
  attempt prepared conditions operations (records.length + 1)

def persistWithConditionsAndBatch (kind : ProtocolRecordKind) (durableKey value : List UInt8)
    (conditions : List BatchCondition) (supplementalOperations : List BatchOperation)
    : StoreM DurableInvariantError JournalBatchOutcome :=
  persistRecordsWithConditionsAndBatch [⟨kind, durableKey, value⟩] conditions supplementalOperations

def persistWithBatch (kind : ProtocolRecordKind) (durableKey value : List UInt8)
    (supplementalOperations : List BatchOperation)
    : StoreM DurableInvariantError Unit := do
  match ← persistWithConditionsAndBatch kind durableKey value [] supplementalOperations with
  | .committed | .exactRecord => return
  | .preconditionMismatch => throw .immutableConflict

def persist (kind : ProtocolRecordKind) (durableKey value : List UInt8)
    : StoreM DurableInvariantError Unit :=
  persistWithBatch kind durableKey value []

def load (kind : ProtocolRecordKind) (durableKey : List UInt8)
    : StoreM DurableInvariantError (Option (List UInt8)) :=
  StoreM.get (journalRow kind durableKey)

end ProtocolJournal

end MeshMine.Storage
