import MeshMine.Handoff.CaptureLedger

/-!
What a commit of a handoff operation does to the capture ledger: every commit keeps the store consistent with
some ledger.
-/

namespace MeshMine.Handoff

open MeshMine.Types Codec Storage
open Storage.ProtocolJournal

theorem isJournal_captureCursorRow (a : Hash256) : isJournal (captureCursorRow a) = false := by
  change (ProtocolRecordKind.all.any fun kind => kind.space = gatewayCaptureCursorNamespace) = false
  decide

variable {row : Row}

theorem isJournal_of_space {kind : ProtocolRecordKind} (h : row.space = kind.space)
    : isJournal row = true := by
  unfold isJournal
  rw [List.any_eq_true]
  refine ⟨kind, ProtocolRecordKind.mem_all kind, ?_⟩
  simp [h]

section

variable {records : List JournalBatchRecord} {conditions : List BatchCondition}
  {supplemental : List BatchOperation} {before after : Store}
  (h : CommitsAt (records.map toPrepared) conditions supplemental before after)

include h

theorem find_kind_cases {kind : ProtocolRecordKind} (hrow : row.space = kind.space)
    : (∃ record ∈ records, record.kind = kind ∧ row = (toPrepared record).row)
      ∨ after.find row = before.find row := by
  cases h.find_journal_cases (isJournal_of_space hrow) with
  | inl hmem =>
    obtain ⟨prepared, hmem, heq⟩ := hmem
    obtain ⟨record, hrecord, hprepared⟩ := List.mem_map.mp hmem
    subst hprepared
    refine .inl ⟨record, hrecord, ?_, heq.symm⟩
    apply ProtocolRecordKind.space_inj
    rw [← hrow, ← heq]
    rfl
  | inr hsame => exact .inr hsame

theorem find_of_kinds {kind : ProtocolRecordKind} (hrow : row.space = kind.space)
    (hrecords : ∀ record ∈ records, record.kind ≠ kind)
    : after.find row = before.find row := by
  rcases find_kind_cases h hrow with ⟨record, hmem, hkind, _⟩ | hsame
  . exact absurd hkind (hrecords record hmem)
  . exact hsame

theorem find_captureCursorRow {a : Hash256}
    (hsupplemental : ∀ operation ∈ supplemental, operation.row ≠ captureCursorRow a)
    : after.find (captureCursorRow a) = before.find (captureCursorRow a) := by
  apply h.find_of_notMem _ hsupplemental
  intro record hmem heq
  have := h.wellPrepared.journal record hmem
  rw [heq, isJournal_captureCursorRow] at this
  contradiction

variable
  (hrecords : ∀ record ∈ records, record.kind ≠ .gatewayCaptureReceipt ∧ record.kind ≠ .acceptedShare)

include hrecords

theorem keeps_of_kinds (hcursor : ∀ a cursor, decodeCursor a (before.find (captureCursorRow a)) = .ok cursor
      → ∃ drained, decodeCursor a (after.find (captureCursorRow a))
        = .ok { cursor with drainedThroughSequence := drained })
    : Keeps before after where
  rely := h.rely
  cursor := hcursor
  receipts _ hrow := find_of_kinds h hrow fun record hmem => (hrecords record hmem).1
  shares _ hrow := find_of_kinds h hrow fun record hmem => (hrecords record hmem).2

theorem keeps_of_no_cursor
    (hsupplemental : ∀ operation ∈ supplemental, operation.row.space ≠ gatewayCaptureCursorNamespace)
    : Keeps before after := by
  apply keeps_of_kinds h hrecords
  intro a cursor hdecode
  rw [find_captureCursorRow h]
  . exact ⟨cursor.drainedThroughSequence, hdecode⟩
  . intro operation hmem heq
    apply hsupplemental operation hmem
    rw [heq]
    rfl

end

/-!
### Committing a disposition
-/

variable [P : Primitives]

inductive Credit (d : Disposition) : List JournalBatchRecord → Prop where
  | none (houtcome : d.receipt.outcome ≠ captureOutcomeAccepted) : Credit d []
  | share (share : ShareV2) (houtcome : d.receipt.outcome = captureOutcomeAccepted)
      (hrepresentable : share.Representable)
      (htelemetry : share.localTelemetryHash = some (objectId d.envelope))
      (hshareId : d.receipt.acceptedShareId = objectId share)
      : Credit d [ ⟨.acceptedWorkKey, share.workKey.toList, (objectId share).toList⟩,
          ⟨.acceptedShare, (objectId share).toList, toCanonicalBytes share⟩ ]

abbrev Disposition.records (manifest : GatewayContextManifestV1) (assignment : GatewayAssignmentV1)
    (d : Disposition) (extra : List JournalBatchRecord) : List JournalBatchRecord :=
  dispositionRecords manifest assignment d.envelope d.receipt ++ extra

variable {record : JournalBatchRecord}

theorem Credit.kind {d : Disposition} {extra : List JournalBatchRecord} (h : Credit d extra) (hmem : record ∈ extra)
    : record.kind = .acceptedWorkKey ∨ record.kind = .acceptedShare := by
  cases h with
  | none => contradiction
  | share =>
    simp only [List.mem_cons, List.not_mem_nil, or_false] at hmem
    rcases hmem with rfl | rfl
    . exact .inl rfl
    . exact .inr rfl

inductive Prepares (manifest : GatewayContextManifestV1) (assignment : GatewayAssignmentV1)
    (d : Disposition) (s : Store) : PreparedCaptureDisposition → Prop where
  | retry (hreceipt : s.find d.receiptRow = some (toCanonicalBytes d.receipt))
      : Prepares manifest assignment d s
        ⟨dispositionRecords manifest assignment d.envelope d.receipt, [], [], .exactRetry⟩
  | next {context head : BatchCondition} {existing : Option (List UInt8)}
      {cursor cursor' : GatewayCaptureCursorV1} {decision : CaptureSequenceDecision}
      (hadvances : d.Advances existing decision cursor cursor')
      : Prepares manifest assignment d s
        ⟨dispositionRecords manifest assignment d.envelope d.receipt,
          [context, head, .equals (assignmentStateRow d.envelope.assignmentId) (assignmentStateValue
              assignment.networkId d.envelope.assignmentId assignmentStateActive),
            ⟨d.cursorRow, existing⟩],
          [.put d.cursorRow (toCanonicalBytes cursor')], decision⟩

variable {manifest : GatewayContextManifestV1} {assignment : GatewayAssignmentV1} {d : Disposition}
  {extra : List JournalBatchRecord} {conditions : List BatchCondition}
  {supplemental : List BatchOperation} {before after : Store} {ledger : CaptureLedger}

theorem receiptRow_of_kind (hcredit : Credit d extra) (hmem : record ∈ d.records manifest assignment extra)
    (hkind : record.kind = .gatewayCaptureReceipt)
    : (toPrepared record).row = d.receiptRow := by
  rcases List.mem_append.mp hmem with hmem | hmem
  . simp only [dispositionRecords, journalRecord, List.mem_cons, List.not_mem_nil, or_false] at hmem
    rcases hmem with rfl | rfl | rfl | rfl <;> first | contradiction | rfl
  . rcases hcredit.kind hmem with h | h <;> (rw [hkind] at h; contradiction)

theorem share_of_kind (hcredit : Credit d extra) (hmem : record ∈ d.records manifest assignment extra)
    (hkind : record.kind = .acceptedShare)
    : d.receipt.outcome = captureOutcomeAccepted
      ∧ ∃ share : ShareV2, d.receipt.acceptedShareId = objectId share
        ∧ record = ⟨.acceptedShare, (objectId share).toList, toCanonicalBytes share⟩ := by
  rcases List.mem_append.mp hmem with hmem | hmem
  . simp only [dispositionRecords, journalRecord, List.mem_cons, List.not_mem_nil, or_false] at hmem
    rcases hmem with rfl | rfl | rfl | rfl <;> contradiction
  . cases hcredit with
    | none => contradiction
    | share share houtcome _ _ hshareId =>
      simp only [List.mem_cons, List.not_mem_nil, or_false] at hmem
      rcases hmem with rfl | rfl
      . contradiction
      . exact ⟨houtcome, share, hshareId, rfl⟩

theorem receipt_compatible
    (hcommit : CommitsAt ((d.records manifest assignment extra).map toPrepared) conditions supplemental before after)
    : before.find d.receiptRow = none
      ∨ before.find d.receiptRow = some (toCanonicalBytes d.receipt) := by
  apply hcommit.compatible ⟨d.receiptRow, toCanonicalBytes d.receipt⟩
  simp [dispositionRecords, journalRecord, toPrepared, Disposition.receiptRow]

theorem keeps_of_recorded (h : Represents before ledger) (hcredit : Credit d extra)
    (hcommit : CommitsAt ((d.records manifest assignment extra).map toPrepared) conditions supplemental before after)
    (hreceipt : before.find d.receiptRow = some (toCanonicalBytes d.receipt))
    (hcursor : ∀ a, decodeCursor a (after.find (captureCursorRow a))
      = decodeCursor a (before.find (captureCursorRow a)))
    : Keeps before after where
  rely := hcommit.rely
  cursor a cursor hdecode := by
    rw [hcursor, hdecode]
    exact ⟨cursor.drainedThroughSequence, rfl⟩
  receipts row hrow := by
    cases find_kind_cases hcommit hrow with
    | inl hmem =>
      obtain ⟨record, hmem, hkind, hrow⟩ := hmem
      rw [hrow, receiptRow_of_kind hcredit hmem hkind, hreceipt]
      exact hcommit.rely _ _ (isJournal_journalRow _ _) hreceipt
    | inr hsame => exact hsame
  shares row hrow := by
    cases find_kind_cases hcommit hrow with
    | inl hmem =>
      obtain ⟨record, hmem, hkind, hrow⟩ := hmem
      obtain ⟨houtcome, share, hshareId, rfl⟩ := share_of_kind hcredit hmem hkind
      obtain ⟨a, d', hd', _, hbytes⟩ := (h.receipts _ _ rfl).mp hreceipt
      rw [GatewayCaptureReceiptV1.toCanonicalBytes_inj] at hbytes
      obtain ⟨i, hi⟩ := List.mem_iff_getElem?.mp hd'
      obtain ⟨share', hcredits⟩ := (h.entries a i d' hi).credited (by rw [← hbytes, houtcome])
      have hid : objectId share = objectId share' := by
        rw [← hshareId, hbytes, hcredits.shareId]
      have hrecorded := hcredits.recorded
      rw [← hid] at hrecorded
      have hrow : row = journalRow .acceptedShare (objectId share).toList := hrow
      rw [hrow, hrecorded]
      exact hcommit.rely _ _ (isJournal_journalRow _ _) hrecorded
    | inr hsame => exact hsame

variable {cursor cursor' : GatewayCaptureCursorV1}

theorem recorded_of_exactRetry (h : Represents before ledger) (hlinked : d.Linked)
    (hcompatible : before.find d.receiptRow = none
      ∨ before.find d.receiptRow = some (toCanonicalBytes d.receipt))
    (hadvances : d.Advances (before.find d.cursorRow) .exactRetry cursor cursor')
    : before.find d.receiptRow = some (toCanonicalBytes d.receipt) := by
  obtain ⟨_, hnext, hlast⟩ := GatewayCaptureCursorV1.classify_eq_exactRetry hadvances.classify
  have hnext := UInt64.toNat_of_checkedAdd_eq_some hnext
  obtain ⟨known, hknown, hcursor⟩ := h.cursor d.envelope.assignmentId
  rw [hadvances.decode, Except.ok.injEq] at hknown
  subst hknown
  have hpositive : d.envelope.gatewaySequence.toNat ≠ 0 := by
    intro hzero
    exact hlinked.positive (UInt64.toNat_inj.mp hzero)
  have hne : ledger d.envelope.assignmentId ≠ [] := by
    intro hnil
    have hlength := hcursor.next
    rw [hnil] at hlength
    simp at hlength hnext
    omega
  obtain ⟨henvelope, _⟩ := hcursor.last _ (List.getLast?_eq_some_getLast hne)
  have hfind : before.find d.receiptRow
      = some (toCanonicalBytes ((ledger d.envelope.assignmentId).getLast hne).receipt) := by
    rw [h.receipts _ _ rfl]
    refine ⟨_, _, List.getLast_mem hne, ?_, rfl⟩
    unfold Disposition.receiptRow
    rw [hlast, henvelope]
  cases hcompatible with
  | inl hnone =>
    rw [hnone] at hfind
    contradiction
  | inr hsome => exact hsome

theorem appends_of_new (hlinked : d.Linked) (hcredit : Credit d extra)
    (hcommit : CommitsAt ((d.records manifest assignment extra).map toPrepared) conditions
      [.put d.cursorRow (toCanonicalBytes cursor')] before after)
    (hadvances : d.Advances (before.find d.cursorRow) .new cursor cursor')
    : Appends before after d := by
  have hrecorded : ∀ record ∈ d.records manifest assignment extra,
      after.find (toPrepared record).row = some record.value := by
    intro record hmem
    exact hcommit.recorded (List.mem_map_of_mem hmem)
  have hcredits : ∀ share : ShareV2, share.Representable
      → share.localTelemetryHash = some (objectId d.envelope)
      → d.receipt.acceptedShareId = objectId share
      → extra = [ ⟨.acceptedWorkKey, share.workKey.toList, (objectId share).toList⟩,
          ⟨.acceptedShare, (objectId share).toList, toCanonicalBytes share⟩ ]
      → d.Credits share after := by
    intro share hrepresentable htelemetry hshareId hextra
    refine ⟨hrepresentable, htelemetry, hshareId, ?_, ?_⟩
    . apply hrecorded ⟨.acceptedShare, (objectId share).toList, toCanonicalBytes share⟩
      simp [hextra]
    . apply hrecorded ⟨.acceptedWorkKey, share.workKey.toList, (objectId share).toList⟩
      simp [hextra]
  constructor
  case rely => exact hcommit.rely
  case linked => exact hlinked
  case cursor =>
    refine ⟨cursor, cursor', hadvances, ?_⟩
    rw [hcommit.applied, Store.applyAll_append]
    apply Store.find_apply_put
  case otherCursors =>
    intro a ha
    apply find_captureCursorRow hcommit
    simpa using Ne.symm ha
  case envelope =>
    apply hrecorded (journalRecord .gatewayCaptureEnvelope (objectId d.envelope) d.envelope)
    simp [dispositionRecords]
  case compatible => exact receipt_compatible hcommit
  case receipt =>
    apply hrecorded (journalRecord .gatewayCaptureReceipt (objectId d.envelope) d.receipt)
    simp [dispositionRecords]
  case otherReceipts =>
    intro row hrow hne
    cases find_kind_cases hcommit hrow with
    | inl hmem =>
      obtain ⟨record, hmem, hkind, hrow⟩ := hmem
      rw [receiptRow_of_kind hcredit hmem hkind] at hrow
      contradiction
    | inr hsame => exact hsame
  case credited =>
    intro houtcome
    cases hcredit with
    | none hnot => contradiction
    | share share _ hrepresentable htelemetry hshareId =>
      exact ⟨share, hcredits share hrepresentable htelemetry hshareId rfl⟩
  case shares =>
    intro row hrow
    cases find_kind_cases hcommit hrow with
    | inl hmem =>
      obtain ⟨record, hmem, hkind, hrow⟩ := hmem
      cases hcredit with
      | none hnot =>
        obtain ⟨houtcome, _⟩ := share_of_kind (.none hnot) hmem hkind
        contradiction
      | share share houtcome hrepresentable htelemetry hshareId =>
        right
        refine ⟨houtcome, share, hcredits share hrepresentable htelemetry hshareId rfl, ?_⟩
        obtain ⟨_, share', hshareId', rfl⟩ :=
          share_of_kind (.share share houtcome hrepresentable htelemetry hshareId) hmem hkind
        rw [hrow]
        have hid : objectId share' = objectId share := by
          rw [← hshareId', hshareId]
        apply hrecorded ⟨.acceptedShare, (objectId share').toList, toCanonicalBytes share⟩
        simp [hid]
    | inr hsame => exact .inl hsame

def Consistent (s : Store) : Prop :=
  ∃ ledger, Represents s ledger

theorem Consistent.keeps (h : Consistent before) (hkeeps : Keeps before after) : Consistent after := by
  obtain ⟨ledger, hledger⟩ := h
  exact ⟨ledger, hledger.keeps hkeeps⟩

theorem Consistent.repeats (h : Consistent before) (hcredit : Credit d extra)
    (hcommit : CommitsAt ((d.records manifest assignment extra).map toPrepared) conditions [] before after)
    (hreceipt : before.find d.receiptRow = some (toCanonicalBytes d.receipt))
    : Consistent after := by
  obtain ⟨ledger, hledger⟩ := h
  refine ⟨ledger, hledger.keeps (keeps_of_recorded hledger hcredit hcommit hreceipt ?_)⟩
  intro a
  rw [find_captureCursorRow hcommit]
  intro operation hmem
  contradiction

theorem Consistent.disposes {decision : CaptureSequenceDecision} (h : Consistent before) (hlinked : d.Linked)
    (hcredit : Credit d extra)
    (hcommit : CommitsAt ((d.records manifest assignment extra).map toPrepared) conditions
      [.put d.cursorRow (toCanonicalBytes cursor')] before after)
    (hadvances : d.Advances (before.find d.cursorRow) decision cursor cursor')
    : Consistent after := by
  obtain ⟨ledger, hledger⟩ := h
  cases decision with
  | new => exact ⟨_, hledger.appends (appends_of_new hlinked hcredit hcommit hadvances)⟩
  | exactRetry =>
    have hreceipt := recorded_of_exactRetry hledger hlinked (receipt_compatible hcommit) hadvances
    refine ⟨ledger, hledger.keeps (keeps_of_recorded hledger hcredit hcommit hreceipt ?_)⟩
    intro a
    by_cases ha : a = d.envelope.assignmentId
    . subst ha
      rw [hadvances.decode, hcommit.applied, Store.applyAll_append,
        ← GatewayCaptureCursorV1.advance_of_exactRetry hadvances.classify hadvances.advance]
      change decodeCursor _ ((Store.apply _ (.put _ _)).find _) = _
      rw [Store.find_apply_put, decodeCursor_bytes]
    . rw [find_captureCursorRow hcommit]
      simpa using Ne.symm ha

theorem linked_of_validate {coreReceivedMs observed : UInt64}
    (henvelope : validateCaptureEnvelope manifest assignment d.envelope coreReceivedMs = .ok observed)
    (hreceipt : validateCaptureReceipt d.envelope d.receipt = .ok ())
    : d.Linked ∧ objectId assignment = d.envelope.assignmentId := by
  unfold validateCaptureEnvelope at henvelope
  unfold validateCaptureReceipt at hreceipt
  simp only [Except.bind_unit_eq_ok, Except.rejectIf_eq_ok, not_or, not_not] at henvelope hreceipt
  obtain ⟨_, _, ⟨_, _, _, _, _, _, _, hassignment, _⟩, hpositive, _⟩ := henvelope
  obtain ⟨_, ⟨_, hreceiptAssignment, hid, _, _, _, hsequence⟩, _⟩ := hreceipt
  exact ⟨⟨hid, hreceiptAssignment, hsequence, hpositive⟩, hassignment⟩

end MeshMine.Handoff
