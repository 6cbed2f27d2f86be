import MeshMine.Handoff.Steps
import MeshMine.Share.ReceiptBuilder

/-!
The handoff operations of Core in any interleaving: the journaled capture receipts of every assignment
form one gap-free sequence, and credit follows the accepting receipts.
-/

namespace MeshMine.Share

open MeshMine.Types Codec Storage Handoff
open Storage.ProtocolJournal
open StoreM (Obeys)

section

variable [P : Primitives] {s : Store} {d : Disposition}

theorem ReceiptBuilder.acceptGatewayDurable_obeys {R : Rely Store} {G : Store → Store → Prop}
    (hR : ∀ {s s'}, R.rel s s' → handoffRely.rel s s') (hread : ∀ s, G s s) {builder : ReceiptBuilder}
    {share : ValidatedShare} {manifest : GatewayContextManifestV1} {assignment : GatewayAssignmentV1}
    (hrepresentable : share.share.Representable)
    (hcommit : ∀ before after, R.rel s before → Disposes manifest assignment d before after
      → G before after)
    : Obeys R G (builder.acceptGatewayDurable share manifest assignment d.envelope d.receipt) s
        fun _ _ => True := by
  apply Obeys.bind_ofExcept
  intro _ hderived
  rw [Except.rejectIf_eq_ok] at hderived
  push Not at hderived
  apply Obeys.bind_check
  apply Obeys.bind_ofExcept
  intro _ hdisposition
  rw [Except.rejectIf_eq_ok] at hdisposition
  push Not at hdisposition
  have hcredit : Credit d (acceptedRecords share) := by
    unfold acceptedRecords
    rw [hderived.1, hderived.2.1]
    apply Credit.share share.share hdisposition.1 hrepresentable hdisposition.2.2.2.1
    rw [hdisposition.2.1, hderived.1]
  apply (prepareCaptureDisposition_obeys hR hread).adapt.seq
  intro prepared s₁ hprepared
  apply (persistOutcome_obeys (fun h => (hR h).1) hread ?_).seq
  . intro outcome s₂ _
    split
    . exact Obeys.done
    . exact Obeys.done
    . apply Obeys.throw
    . apply Obeys.bind
      apply Obeys.adapt
      apply Obeys.get hread
      intro _ _ _ _
      split
      . split <;> apply Obeys.throw
      . apply Obeys.throw
    . apply Obeys.throw
  . intro before after hbefore hcommits
    apply hcommit before after (R.trans hprepared.1 hbefore)
    exact disposes_of_commit hR hprepared.2.1 hprepared.2.2 hcredit hbefore hcommits

/-!
### Any number of callers
-/

inductive HandoffCall where
  | contextManifest (manifest : GatewayContextManifestV1) (nowMs : UInt64)
  | assignmentAuthorization (manifest : GatewayContextManifestV1) (assignment : GatewayAssignmentV1)
  | noncreditDisposition (manifest : GatewayContextManifestV1) (assignment : GatewayAssignmentV1)
      (envelope : GatewayCaptureEnvelopeV1) (receipt : GatewayCaptureReceiptV1)
  | acceptGateway (builder : ReceiptBuilder) (share : ValidatedShare)
      (manifest : GatewayContextManifestV1) (assignment : GatewayAssignmentV1)
      (envelope : GatewayCaptureEnvelopeV1) (receipt : GatewayCaptureReceiptV1)
      (hrepresentable : share.share.Representable)
  | assignmentDrain (manifest : GatewayContextManifestV1) (drain : GatewayAssignmentDrainV1)
  | assignmentTransition (manifest : GatewayContextManifestV1) (nextAssignment : GatewayAssignmentV1)
      (transition : GatewayAssignmentTransitionV1)

def ignoreResult {E α : Type} (x : StoreM E α) : Program storeMachine Unit :=
  x.run >>= fun _ => .pure ()

def HandoffCall.program : HandoffCall → Program storeMachine Unit
  | contextManifest manifest nowMs => ignoreResult (persistGatewayContextManifest manifest nowMs)
  | assignmentAuthorization manifest assignment =>
    ignoreResult (persistGatewayAssignmentAuthorization manifest assignment)
  | noncreditDisposition manifest assignment envelope receipt =>
    ignoreResult (persistNoncreditCaptureDisposition manifest assignment envelope receipt)
  | acceptGateway builder share manifest assignment envelope receipt _ =>
    ignoreResult (builder.acceptGatewayDurable share manifest assignment envelope receipt)
  | assignmentDrain manifest drain => ignoreResult (persistGatewayAssignmentDrain manifest drain)
  | assignmentTransition manifest nextAssignment transition =>
    ignoreResult (persistGatewayAssignmentTransition manifest nextAssignment transition)

def HandoffCall.Step : HandoffCall → Store → Store → Prop
  | contextManifest manifest _, s, s' => s' = s ∨ Registers manifest s s'
  | assignmentAuthorization _ assignment, s, s' => s' = s ∨ Authorizes assignment s s'
  | noncreditDisposition manifest assignment envelope receipt, s, s' =>
    s' = s ∨ Disposes manifest assignment ⟨envelope, receipt⟩ s s'
  | acceptGateway _ _ manifest assignment envelope receipt _, s, s' =>
    s' = s ∨ Disposes manifest assignment ⟨envelope, receipt⟩ s s'
  | assignmentDrain _ drain, s, s' => s' = s ∨ Drains drain s s'
  | assignmentTransition _ nextAssignment transition, s, s' =>
    s' = s ∨ Transitions nextAssignment transition s s'

theorem HandoffCall.Step.read (call : HandoffCall) (s : Store) : call.Step s s := by
  cases call <;> exact .inl rfl

theorem HandoffCall.Step.handoffStep {call : HandoffCall} {s' : Store} (h : call.Step s s')
    : HandoffStep s s' := by
  cases call with
  | contextManifest => exact h.elim .read .registers
  | assignmentAuthorization => exact h.elim .read .authorizes
  | noncreditDisposition | acceptGateway => exact h.elim .read .disposes
  | assignmentDrain => exact h.elim .read .drains
  | assignmentTransition => exact h.elim .read .transitions

theorem HandoffCall.contract
    : Pool.Contract (fun _ => handoffRely) HandoffCall.Step HandoffCall.program fun _ _ => True := by
  constructor
  . intro _ _ _
    trivial
  . intro _ _ s s' _ hstep
    exact hstep.handoffStep.rely
  . intro call s
    have hread := HandoffCall.Step.read call
    cases call with
    | contextManifest manifest nowMs =>
      exact (persistGatewayContextManifest_obeys id hread fun _ _ _ h => .inr h).discard
    | assignmentAuthorization manifest assignment =>
      exact (persistGatewayAssignmentAuthorization_obeys id hread fun _ _ _ h => .inr h).discard
    | noncreditDisposition manifest assignment envelope receipt =>
      exact (persistNoncreditCaptureDisposition_obeys (d := ⟨envelope, receipt⟩) id hread
        fun _ _ _ h => .inr h).discard
    | acceptGateway builder share manifest assignment envelope receipt hrepresentable =>
      exact (ReceiptBuilder.acceptGatewayDurable_obeys (d := ⟨envelope, receipt⟩) id hread hrepresentable
        fun _ _ _ h => .inr h).discard
    | assignmentDrain manifest drain =>
      exact (persistGatewayAssignmentDrain_obeys id hread fun _ _ _ h => .inr h).discard
    | assignmentTransition manifest nextAssignment transition =>
      exact (persistGatewayAssignmentTransition_obeys id hread fun _ _ _ h => .inr h).discard

open HandoffCall (program contract)

abbrev HandoffPool (ι : Type) := Pool ι HandoffCall storeMachine Unit

section

variable {ι : Type} [DecidableEq ι] {store : Store} {pool pool' : HandoffPool ι}

theorem HandoffPool.separate (h : Pool.Reaches program (Pool.idle store) pool)
    : Pool.Separate (fun _ => handoffRely) HandoffCall.Step (fun _ _ => True) pool :=
  contract.separate (Pool.separate_idle store)
    (Pool.guardedReaches_of_reaches _ _ (fun _ _ => trivial) h)

theorem HandoffPool.traces (h : Pool.Reaches program (Pool.idle store) pool)
    (h' : Pool.Reaches program pool pool')
    : Relation.ReflTransGen HandoffStep pool.state pool'.state := by
  have htrace := contract.traces (HandoffPool.separate h)
    (Pool.guardedReaches_of_reaches _ _ (fun _ _ => trivial) h')
  refine Relation.ReflTransGen.mono ?_ _ _ htrace
  rintro s s' ⟨call, hstep⟩
  exact hstep.handoffStep

theorem HandoffPool.invariant {I : Store → Prop} (hstep : ∀ s s', I s → HandoffStep s s' → I s')
    (hI : I store) (h : Pool.Reaches program (Pool.idle store) pool)
    : I pool.state := by
  have htrace := HandoffPool.traces .refl h
  generalize pool.state = s at htrace
  induction htrace with
  | refl => exact hI
  | tail _ hlast ih => exact hstep _ _ ih hlast

end

structure Pristine (s : Store) : Prop where
  cursors : ∀ a, s.find (captureCursorRow a) = none
  receipts : ∀ row, row.space = ProtocolRecordKind.gatewayCaptureReceipt.space → s.find row = none
  shares : ∀ row, row.space = ProtocolRecordKind.acceptedShare.space → s.find row = none

theorem Pristine.consistent (h : Pristine s) : Consistent s := by
  refine ⟨fun _ => [], ?_, ?_, ?_, ?_, ?_⟩
  . intro a
    rw [h.cursors a]
    refine ⟨.new a, rfl, rfl, rfl, ?_⟩
    intro d hd
    contradiction
  . intro a i d hd
    contradiction
  . intro a
    exact .nil
  . intro row bytes hrow
    rw [h.receipts row hrow]
    simp
  . intro row bytes hrow hfind
    rw [h.shares row hrow] at hfind
    contradiction

/-!
### What the journal says about one assignment
-/

def Journaled {α : Type} [CanonicalEncode α] (s : Store) (kind : ProtocolRecordKind) (row : Row)
    (object : α) : Prop :=
  row.space = kind.space ∧ s.find row = some (toCanonicalBytes object)

def ReceiptOf (s : Store) (assignmentId : Hash256) (row : Row) (receipt : GatewayCaptureReceiptV1)
    : Prop :=
  Journaled s .gatewayCaptureReceipt row receipt ∧ receipt.assignmentId = assignmentId

structure CapturesInOrder (s : Store) (assignmentId : Hash256) (cursor : GatewayCaptureCursorV1)
    : Prop where
  recorded : decodeCursor assignmentId (s.find (captureCursorRow assignmentId)) = .ok cursor
  wellFormed : ∀ row bytes, row.space = ProtocolRecordKind.gatewayCaptureReceipt.space
    → s.find row = some bytes → ∃ receipt : GatewayCaptureReceiptV1, bytes = toCanonicalBytes receipt
  sequences : ∀ n, (∃ row receipt, ReceiptOf s assignmentId row receipt
      ∧ receipt.receiptSequence.toNat = n) ↔ 1 ≤ n ∧ n < cursor.nextGatewaySequence.toNat
  onePerSequence : ∀ row row' receipt receipt', ReceiptOf s assignmentId row receipt
    → ReceiptOf s assignmentId row' receipt' → receipt.receiptSequence = receipt'.receiptSequence
    → row = row' ∧ receipt = receipt'
  onePerEnvelope : ∀ row row' receipt receipt', ReceiptOf s assignmentId row receipt
    → ReceiptOf s assignmentId row' receipt' → receipt.captureEnvelopeId = receipt'.captureEnvelopeId
    → row = row' ∧ receipt = receipt'
  envelope : ∀ row receipt, ReceiptOf s assignmentId row receipt
    → ∃ envelope : GatewayCaptureEnvelopeV1, objectId envelope = receipt.captureEnvelopeId
      ∧ envelope.assignmentId = assignmentId ∧ envelope.gatewaySequence = receipt.receiptSequence
      ∧ Journaled s .gatewayCaptureEnvelope
        (journalRow .gatewayCaptureEnvelope receipt.captureEnvelopeId.toList) envelope
  observed : ∀ row row' receipt receipt' (envelope envelope' : GatewayCaptureEnvelopeV1),
    ReceiptOf s assignmentId row receipt → ReceiptOf s assignmentId row' receipt'
    → Journaled s .gatewayCaptureEnvelope
      (journalRow .gatewayCaptureEnvelope receipt.captureEnvelopeId.toList) envelope
    → Journaled s .gatewayCaptureEnvelope
      (journalRow .gatewayCaptureEnvelope receipt'.captureEnvelopeId.toList) envelope'
    → receipt.receiptSequence ≤ receipt'.receiptSequence
    → envelope.gatewayReceivedMs ≤ envelope'.gatewayReceivedMs
  accepted : ∀ row receipt, ReceiptOf s assignmentId row receipt
    → receipt.outcome = captureOutcomeAccepted
    → ∃ share : ShareV2, objectId share = receipt.acceptedShareId
      ∧ Journaled s .acceptedShare (journalRow .acceptedShare receipt.acceptedShareId.toList) share
      ∧ s.find (journalRow .acceptedWorkKey share.workKey.toList)
        = some receipt.acceptedShareId.toList
  notNamed : ∀ row receipt, ReceiptOf s assignmentId row receipt
    → receipt.outcome ≠ captureOutcomeAccepted
    → ∀ row' (share : ShareV2), Journaled s .acceptedShare row' share → share.Representable
      → share.localTelemetryHash ≠ some receipt.captureEnvelopeId

structure PlacedAt (s : Store) (ledger : CaptureLedger) (row : Row) (receipt : GatewayCaptureReceiptV1)
    (i : Nat) (d : Disposition) : Prop where
  place : (ledger receipt.assignmentId)[i]? = some d
  entry : EntryOf s receipt.assignmentId i d
  row : row = d.receiptRow
  receipt : receipt = d.receipt

variable {ledger : CaptureLedger} {row : Row} {receipt : GatewayCaptureReceiptV1}

theorem placedAt_of_receiptOf (h : Represents s ledger) (hreceipt : Journaled s .gatewayCaptureReceipt row receipt)
    : ∃ i d, PlacedAt s ledger row receipt i d := by
  obtain ⟨a, d, hmem, hrow, hbytes⟩ := (h.receipts row _ hreceipt.1).mp hreceipt.2
  rw [GatewayCaptureReceiptV1.toCanonicalBytes_inj] at hbytes
  obtain ⟨i, hi⟩ := List.mem_iff_getElem?.mp hmem
  have hentry := h.entries a i d hi
  have ha : a = receipt.assignmentId := by
    rw [← hentry.assignment, ← hentry.linked.assignment, hbytes]
  subst ha
  exact ⟨i, d, hi, hentry, hrow, hbytes⟩

variable {i : Nat}

namespace PlacedAt

variable (h : PlacedAt s ledger row receipt i d)

include h

theorem sequence
    : receipt.receiptSequence.toNat = i + 1 := by
  rw [h.receipt, h.entry.linked.sequence, h.entry.sequence]

theorem envelopeId
    : receipt.captureEnvelopeId = objectId d.envelope := by
  rw [h.receipt, h.entry.linked.envelope]

theorem envelope_eq {envelope : GatewayCaptureEnvelopeV1} (henvelope : Journaled s .gatewayCaptureEnvelope
      (journalRow .gatewayCaptureEnvelope receipt.captureEnvelopeId.toList) envelope)
    : envelope = d.envelope := by
  have hfind := henvelope.2
  rw [h.envelopeId] at hfind
  have hsame := h.entry.envelope
  unfold Disposition.envelopeRow at hsame
  rw [hfind, Option.some.injEq, GatewayCaptureEnvelopeV1.toCanonicalBytes_inj] at hsame
  exact hsame

end PlacedAt

theorem capturesInOrder_of_represents (h : Represents s ledger) (a : Hash256)
    : ∃ cursor, CapturesInOrder s a cursor := by
  obtain ⟨cursor, hdecode, hcursor⟩ := h.cursor a
  refine ⟨cursor, ?_⟩
  constructor
  case recorded => exact hdecode
  case wellFormed =>
    intro row bytes hrow hfind
    obtain ⟨_, d, _, _, hbytes⟩ := (h.receipts row bytes hrow).mp hfind
    exact ⟨d.receipt, hbytes⟩
  case sequences =>
    intro n
    constructor
    . rintro ⟨row, receipt, ⟨hreceipt, rfl⟩, rfl⟩
      obtain ⟨i, d, hplaced⟩ := placedAt_of_receiptOf h hreceipt
      have hi := (List.getElem?_eq_some_iff.mp hplaced.place).1
      rw [hplaced.sequence, hcursor.next]
      omega
    . rintro ⟨hpos, hlt⟩
      rw [hcursor.next] at hlt
      have hi : n - 1 < (ledger a).length := by omega
      obtain ⟨d, hd⟩ : ∃ d, (ledger a)[n - 1]? = some d := ⟨_, List.getElem?_eq_getElem hi⟩
      have hentry := h.entries a _ d hd
      refine ⟨d.receiptRow, d.receipt, ⟨⟨rfl, ?_⟩, ?_⟩, ?_⟩
      . rw [h.receipts _ _ rfl]
        exact ⟨a, d, List.mem_of_getElem? hd, rfl, rfl⟩
      . rw [hentry.linked.assignment, hentry.assignment]
      . rw [hentry.linked.sequence, hentry.sequence]
        omega
  case onePerSequence =>
    rintro row row' receipt receipt' ⟨hreceipt, rfl⟩ ⟨hreceipt', ha⟩ hsequence
    obtain ⟨i, d, hplaced⟩ := placedAt_of_receiptOf h hreceipt
    obtain ⟨i', d', hplaced'⟩ := placedAt_of_receiptOf h hreceipt'
    have hi : i' = i := by
      have hi := hplaced.sequence
      have hi' := hplaced'.sequence
      rw [hsequence] at hi
      omega
    have hplace := hplaced'.place
    rw [ha, hi, hplaced.place, Option.some.injEq] at hplace
    rw [hplaced.row, hplaced'.row, hplaced.receipt, hplaced'.receipt, hplace]
    exact ⟨rfl, rfl⟩
  case onePerEnvelope =>
    rintro row row' receipt receipt' ⟨hreceipt, rfl⟩ ⟨hreceipt', ha⟩ henvelope
    obtain ⟨i, d, hplaced⟩ := placedAt_of_receiptOf h hreceipt
    obtain ⟨i', d', hplaced'⟩ := placedAt_of_receiptOf h hreceipt'
    have hrow : row = row' := by
      rw [hplaced.row, hplaced'.row]
      unfold Disposition.receiptRow
      rw [← hplaced.envelopeId, ← hplaced'.envelopeId, henvelope]
    refine ⟨hrow, ?_⟩
    subst hrow
    have hsame := hreceipt.2
    rw [hreceipt'.2, Option.some.injEq, GatewayCaptureReceiptV1.toCanonicalBytes_inj] at hsame
    exact hsame.symm
  case envelope =>
    rintro row receipt ⟨hreceipt, rfl⟩
    obtain ⟨i, d, hplaced⟩ := placedAt_of_receiptOf h hreceipt
    refine ⟨d.envelope, hplaced.envelopeId.symm, hplaced.entry.assignment, ?_, rfl, ?_⟩
    . rw [hplaced.receipt, hplaced.entry.linked.sequence]
    . rw [hplaced.envelopeId]
      exact hplaced.entry.envelope
  case observed =>
    rintro row row' receipt receipt' envelope envelope' ⟨hreceipt, rfl⟩ ⟨hreceipt', ha⟩ henvelope
      henvelope' hle
    obtain ⟨i, d, hplaced⟩ := placedAt_of_receiptOf h hreceipt
    obtain ⟨i', d', hplaced'⟩ := placedAt_of_receiptOf h hreceipt'
    rw [hplaced.envelope_eq henvelope, hplaced'.envelope_eq henvelope']
    have hordered := h.ordered receipt.assignmentId
    rw [List.pairwise_iff_getElem] at hordered
    have hplace := hplaced'.place
    rw [ha] at hplace
    obtain ⟨hi, hd⟩ := List.getElem?_eq_some_iff.mp hplaced.place
    obtain ⟨hi', hd'⟩ := List.getElem?_eq_some_iff.mp hplace
    rw [UInt64.le_iff_toNat_le, hplaced.sequence, hplaced'.sequence] at hle
    rw [← hd, ← hd']
    cases Nat.lt_or_eq_of_le (Nat.le_of_succ_le_succ hle) with
    | inl hlt => exact hordered i i' hi hi' hlt
    | inr heq =>
      subst heq
      exact UInt64.le_refl _
  case accepted =>
    rintro row receipt ⟨hreceipt, rfl⟩ houtcome
    obtain ⟨i, d, hplaced⟩ := placedAt_of_receiptOf h hreceipt
    rw [hplaced.receipt] at houtcome ⊢
    obtain ⟨share, hcredits⟩ := hplaced.entry.credited houtcome
    rw [hcredits.shareId]
    exact ⟨share, rfl, ⟨rfl, hcredits.recorded⟩, hcredits.workKey⟩
  case notNamed =>
    rintro row receipt ⟨hreceipt, rfl⟩ houtcome row' share hshare hrepresentable htelemetry
    obtain ⟨i, d, hplaced⟩ := placedAt_of_receiptOf h hreceipt
    obtain ⟨a, d', hmem, haccepted, share', hcredits, hbytes⟩ := h.shares row' _ hshare.1 hshare.2
    have heq := ShareV2.toCanonicalBytes_inj hrepresentable hcredits.representable hbytes
    have hid := hcredits.telemetry
    rw [← heq, htelemetry, hplaced.envelopeId, Option.some.injEq] at hid
    -- Both dispositions are of one envelope, so the journal holds one receipt for them.
    have hfind := (h.receipts row (toCanonicalBytes d'.receipt) hreceipt.1).mpr
      ⟨a, d', hmem, by rw [hplaced.row, Disposition.receiptRow, hid]; rfl, rfl⟩
    rw [hreceipt.2, Option.some.injEq, GatewayCaptureReceiptV1.toCanonicalBytes_inj] at hfind
    rw [hfind] at houtcome
    contradiction

theorem HandoffPool.reaches_capturesInOrder {ι : Type} [DecidableEq ι] {store : Store}
    {pool : HandoffPool ι} (hstore : Pristine store)
    (h : Pool.Reaches program (Pool.idle store) pool) (assignmentId : Hash256)
    : ∃ cursor, CapturesInOrder pool.state assignmentId cursor := by
  obtain ⟨ledger, hledger⟩ := HandoffPool.invariant (fun _ _ h hstep => hstep.consistent h)
    hstore.consistent h
  exact capturesInOrder_of_represents hledger assignmentId

end

/-!
### A run with one accepted and one rejected capture
-/

def sampleManifest : GatewayContextManifestV1 :=
  @Handoff.sampleManifest Primitives.fold

def sampleAssignment : GatewayAssignmentV1 :=
  @signedAssignment Primitives.fold unsignedAssignment

def sampleExtraNonce : ByteVec 24 :=
  ⟨List.replicate 4 1 ++ List.replicate 20 0, rfl⟩

def sampleEnvelope (sequence receivedMs : UInt64) : GatewayCaptureEnvelopeV1 :=
  letI := Primitives.fold
  let envelope : GatewayCaptureEnvelopeV1 := {
    coreProtocolVersion := coreV2
    handoffVersion := gatewayHandoffV1
    networkId := 2
    contextManifestId := objectId sampleManifest
    assignmentId := objectId sampleAssignment
    sessionId := .fill 32 1
    gatewayPubkey := gatewayKey
    coreHandoffPubkey := coreKey
    gatewaySequence := sequence
    gatewayConnectionId := .fill 32 10
    gatewayReceivedMs := receivedMs
    ntime := 100
    extraNonce := sampleExtraNonce
    nonce := sequence.toUInt32
    rawShareHash := .fill 32 11
    gatewaySignature := [] }
  { envelope with gatewaySignature := Crypto.signObject gatewayKey 2 envelope }

def sampleGatewayShare (envelope : GatewayCaptureEnvelopeV1) : ValidatedShare :=
  letI := Primitives.fold
  let share := { (default : ShareV2) with
    protocolVersion := coreV2
    networkId := 2
    sessionId := envelope.sessionId
    assignmentId := envelope.assignmentId
    bodyPackageId := sampleAssignment.bodyPackageId
    operatorPubkey := operatorKey
    payoutBucketId := sampleAssignment.payoutBucketId
    nonce := envelope.nonce
    ntime := envelope.ntime
    extraNonce := envelope.extraNonce
    rawShareHash := envelope.rawShareHash
    declaredTarget := .fill 32 255
    localTelemetryHash := some (objectId envelope) }
  ⟨share, objectId share, share.workKey, workForTarget share.declaredTarget⟩

def sampleBuilder : ReceiptBuilder :=
  .new coreV2 2 (.fill 32 1) 0 zeroHash 0 (.zero 64)

def sampleCalls : List HandoffCall :=
  letI := Primitives.fold
  let first := sampleEnvelope 1 10
  let second := sampleEnvelope 2 20
  let share := sampleGatewayShare first
  [ .contextManifest sampleManifest 0,
    .assignmentAuthorization sampleManifest sampleAssignment,
    .acceptGateway sampleBuilder share sampleManifest sampleAssignment first
      (sampleReceipt first 15 captureOutcomeAccepted share.shareId) (Nat.two_pow_pos 64),
    .noncreditDisposition sampleManifest sampleAssignment second
      (sampleReceipt second 25 captureOutcomeRejected zeroHash) ]

def sampleStore : Store :=
  letI := Primitives.fold
  sampleCalls.foldl (fun s call => (call.program.run s).2) ∅

theorem sampleCalls_capturesInOrder
    : letI := Primitives.fold
      ∃ cursor, CapturesInOrder sampleStore (objectId sampleAssignment) cursor
        ∧ cursor.nextGatewaySequence = 3 := by
  let _ := Primitives.fold
  have hempty : Pristine ∅ := ⟨fun _ => rfl, fun _ _ => rfl, fun _ _ => rfl⟩
  have hinOrder : ∀ store,
      Pool.Reaches HandoffCall.program (Pool.idle ∅) (Pool.idle store : HandoffPool Unit)
      → ∃ cursor, CapturesInOrder store (objectId sampleAssignment) cursor := by
    intro store hreaches
    exact HandoffPool.reaches_capturesInOrder hempty hreaches (objectId sampleAssignment)
  have hnext : (decodeCursor (objectId sampleAssignment)
      (sampleStore.find (captureCursorRow (objectId sampleAssignment)))).toOption.any
        (fun cursor => cursor.nextGatewaySequence = 3) = true := by
    decide +kernel
  obtain ⟨cursor, h⟩ := hinOrder sampleStore
    (Pool.reaches_after HandoffCall.program () sampleCalls ∅)
  rw [h.recorded] at hnext
  exact ⟨cursor, h, by simpa [Except.toOption] using hnext⟩

end MeshMine.Share
