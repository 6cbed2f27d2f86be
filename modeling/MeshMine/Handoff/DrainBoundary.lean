import MeshMine.Handoff.Steps

/-!
Where a drain is on record its assignment is drained at exactly the drain's last sequence, and an operation
whose outcome is on record changes no row.
-/

namespace MeshMine.Handoff

open MeshMine.Types Codec Storage
open Storage.ProtocolJournal

variable [P : Primitives]

def DrainOnRecord (s : Store) (drain : GatewayAssignmentDrainV1) : Prop :=
  s.find (journalRow .gatewayAssignmentDrain drain.assignmentId.toList) = some (toCanonicalBytes drain)

/-- Where a drain is on record, the assignment is drained at its last sequence. -/
structure DrainedAt (s : Store) (drain : GatewayAssignmentDrainV1) : Prop where
  drained : Drained s drain.assignmentId
  cursor : ∃ cursor,
    decodeCursor drain.assignmentId (s.find (captureCursorRow drain.assignmentId)) = .ok cursor
    ∧ drain.lastGatewaySequence.checkedAdd 1 = some cursor.nextGatewaySequence
    ∧ cursor.drainedThroughSequence = some drain.lastGatewaySequence

variable {drain : GatewayAssignmentDrainV1}

omit P in
theorem DrainedAt.rely {s s' : Store} (h : DrainedAt s drain) (hs : handoffRely.rel s s')
    : DrainedAt s' drain := by
  obtain ⟨hstate, hcursor⟩ := hs.2 _ h.drained
  constructor
  . unfold Drained
    rw [hstate]
    exact h.drained
  . rw [hcursor]
    exact h.cursor

def Boundaries (s : Store) : Prop :=
  ∀ a bytes, s.find (journalRow .gatewayAssignmentDrain a.toList) = some bytes
    → ∃ drain : GatewayAssignmentDrainV1, bytes = toCanonicalBytes drain ∧ drain.assignmentId = a
      ∧ DrainedAt s drain

theorem HandoffStep.drain_cases {s s' : Store} (h : HandoffStep s s') (a : Hash256)
    : s'.find (journalRow .gatewayAssignmentDrain a.toList)
        = s.find (journalRow .gatewayAssignmentDrain a.toList)
      ∨ ∃ drain, Drains drain s s' ∧ drain.assignmentId = a := by
  have hspace : (journalRow .gatewayAssignmentDrain a.toList).space
    = ProtocolRecordKind.gatewayAssignmentDrain.space := rfl
  cases h with
  | read h =>
    rw [h]
    exact .inl rfl
  | registers h | authorizes h | transitions h =>
    obtain ⟨_, hcommit⟩ := h.commit
    exact .inl (find_of_kinds hcommit hspace (by simp [journalRecord]))
  | @disposes manifest assignment d h =>
    have hkinds : ∀ extra, Credit d extra
        → ∀ record ∈ d.records manifest assignment extra, record.kind ≠ .gatewayAssignmentDrain := by
      intro extra hcredit record hmem
      rw [List.mem_append] at hmem
      rcases hmem with hmem | hmem
      . revert record
        simp [dispositionRecords, journalRecord]
      . rcases hcredit.kind hmem with hkind | hkind <;> simp [hkind]
    cases h with
    | again _ hcredit _ hcommit | next _ hcredit _ _ hcommit =>
      exact .inl (find_of_kinds hcommit hspace (hkinds _ hcredit))
  | @drains drain h =>
    obtain ⟨_, _, _, _, _, hcommit⟩ := h.commit
    by_cases ha : drain.assignmentId = a
    . exact .inr ⟨drain, h, ha⟩
    . left
      apply hcommit.find_journal_of_notMem (isJournal_journalRow _ _)
      intro record hmem heq
      rw [List.mem_singleton.mp hmem] at heq
      exact ha (ByteVec.ext (journalRow_inj heq).2)

theorem HandoffStep.boundaries {s s' : Store} (hboundaries : Boundaries s) (h : HandoffStep s s')
    : Boundaries s' := by
  intro a bytes hbytes
  rcases h.drain_cases a with hsame | ⟨drain, hdrains, rfl⟩
  . rw [hsame] at hbytes
    obtain ⟨drain, hdrain, ha, hat⟩ := hboundaries a bytes hbytes
    exact ⟨drain, hdrain, ha, hat.rely h.rely⟩
  . have hclosed := hdrains.closed
    obtain ⟨cursor, hcursor, hnext, hdrained⟩ := hclosed.cursor
    rw [hclosed.recorded, Option.some.injEq] at hbytes
    refine ⟨drain, hbytes.symm, rfl, ⟨_, hclosed.state⟩, cursor, ?_, hnext, hdrained⟩
    rw [hcursor, decodeCursor_bytes]

omit P in
theorem Boundaries.drainedAt {s : Store} (h : Boundaries s) (hdrain : DrainOnRecord s drain)
    : DrainedAt s drain := by
  obtain ⟨drain', hbytes, _, hat⟩ := h _ _ hdrain
  rw [GatewayAssignmentDrainV1.toCanonicalBytes_inj.mp hbytes]
  exact hat

/-!
### Retries
-/

def CursorRows (s : Store) : Prop :=
  ∀ a bytes, s.find (captureCursorRow a) = some bytes
    → ∃ cursor : GatewayCaptureCursorV1, bytes = toCanonicalBytes cursor

theorem HandoffStep.cursorRows {s s' : Store} (hrows : CursorRows s) (h : HandoffStep s s')
    : CursorRows s' := by
  intro a bytes hbytes
  rcases h.cases with ⟨_, h⟩ | ⟨_, _, h⟩ | hstep
  . rw [h.find (cursorRow_space a), find_authorizeOperations_cursor] at hbytes
    exact hrows a bytes hbytes
  . rw [h.find (cursorRow_space a), find_authorizeOperations_cursor] at hbytes
    exact hrows a bytes hbytes
  cases hstep _ (cursorRow_space a) (by simp) with
  | same h =>
    rw [h] at hbytes
    exact hrows a bytes hbytes
  | advances _ _ h =>
    rw [h] at hbytes
    exact ⟨_, (Option.some.inj hbytes).symm⟩
  | drains hrow => simp at hrow

variable {s s' : Store} {manifest : GatewayContextManifestV1} {assignment : GatewayAssignmentV1}
  {d : Disposition} {ledger : CaptureLedger}

theorem present_of_recorded {extra : List JournalBatchRecord} {conditions : List BatchCondition}
    {operations : List BatchOperation} (hledger : Represents s ledger)
    (hreceipt : s.find d.receiptRow = some (toCanonicalBytes d.receipt))
    (hadmissible : Admissible manifest assignment d s) (hcredit : Credit d extra)
    (hcommit : CommitsAt ((d.records manifest assignment extra).map toPrepared) conditions operations s s')
    : ∀ record ∈ (d.records manifest assignment extra).map toPrepared, s.find record.row ≠ none := by
  obtain ⟨a, d', hd', hrow, hbytes⟩ := (hledger.receipts _ _ rfl).mp hreceipt
  rw [GatewayCaptureReceiptV1.toCanonicalBytes_inj] at hbytes
  obtain ⟨i, hi⟩ := List.mem_iff_getElem?.mp hd'
  have hentry := hledger.entries a i d' hi
  have hid : objectId d'.envelope = objectId d.envelope := by
    rw [← hentry.linked.envelope, ← hbytes, hadmissible.linked.envelope]
  have henvelope := hentry.envelope
  unfold Disposition.envelopeRow at henvelope
  rw [hid] at henvelope
  unfold Disposition.receiptRow at hreceipt
  rw [List.map_append, List.forall_mem_append]
  constructor
  . simp [dispositionRecords, journalRecord, toPrepared, hadmissible.manifestRecorded,
      hadmissible.assignmentRecorded, henvelope, hreceipt]
  . cases hcredit with
    | none => simp
    | share share houtcome hrepresentable _ hshareId =>
      obtain ⟨share', hcredits⟩ := hentry.credited (by rw [← hbytes, houtcome])
      have hshareId' : objectId share' = objectId share := by
        rw [← hcredits.shareId, ← hbytes, hshareId]
      have hrecorded := hcredits.recorded
      rw [hshareId'] at hrecorded
      have hcompatible := hcommit.compatible
        (toPrepared ⟨.acceptedShare, (objectId share).toList, toCanonicalBytes share⟩)
        (List.mem_map_of_mem (by simp))
      rw [show (toPrepared ⟨.acceptedShare, (objectId share).toList, toCanonicalBytes share⟩).row
        = journalRow .acceptedShare (objectId share).toList from rfl, hrecorded] at hcompatible
      have hsame := Option.some.inj (hcompatible.resolve_left (by simp))
      have hshare : share' = share :=
        ShareV2.toCanonicalBytes_inj hcredits.representable hrepresentable hsame
      have hworkKey := hcredits.workKey
      rw [hshare] at hworkKey
      simp [toPrepared, hrecorded, hworkKey]

/-- A receipt on record stands before the cursor, so the step was an exact retry. -/
theorem cursor_unchanged {cursor cursor' : GatewayCaptureCursorV1} {decision : CaptureSequenceDecision}
    (hledger : Represents s ledger) (hrows : CursorRows s) (hlinked : d.Linked)
    (hreceipt : s.find d.receiptRow = some (toCanonicalBytes d.receipt))
    (hadvances : d.Advances (s.find d.cursorRow) decision cursor cursor')
    : s.find d.cursorRow = some (toCanonicalBytes cursor') := by
  obtain ⟨hdecode, hclassify, hadvance⟩ := hadvances
  cases decision with
  | new =>
    obtain ⟨known, hknown, hcursor⟩ := hledger.cursor d.envelope.assignmentId
    rw [hdecode, Except.ok.injEq] at hknown
    subst hknown
    refine absurd hreceipt (hledger.receipt_fresh hlinked ?_)
    rw [(GatewayCaptureCursorV1.classify_eq_new.mp hclassify).sequence, hcursor.next]
    omega
  | exactRetry =>
    rw [GatewayCaptureCursorV1.advance_of_exactRetry hclassify hadvance]
    cases hfind : s.find d.cursorRow with
    | none =>
      rw [hfind] at hdecode
      injection hdecode with hdecode
      obtain ⟨_, hnext, _⟩ := GatewayCaptureCursorV1.classify_eq_exactRetry hclassify
      have hnext := UInt64.toNat_of_checkedAdd_eq_some hnext
      rw [← hdecode] at hnext
      change 1 = d.envelope.gatewaySequence.toNat + 1 at hnext
      refine absurd (UInt64.toNat_inj.mp ?_) hlinked.positive
      change _ = 0
      omega
    | some bytes =>
      obtain ⟨stored, rfl⟩ := hrows _ _ hfind
      rw [hfind, decodeCursor_bytes, Except.ok.injEq] at hdecode
      rw [hdecode]

theorem Disposes.unchanged (hconsistent : Consistent s) (hrows : CursorRows s) (h : Disposes manifest assignment d s s')
    (hreceipt : s.find d.receiptRow = some (toCanonicalBytes d.receipt)) (row : Row)
    : s'.find row = s.find row := by
  obtain ⟨ledger, hledger⟩ := hconsistent
  cases hrow : isJournal row with
  | true =>
    cases h with
    | again hadmissible hcredit _ hcommit | next hadmissible hcredit _ _ hcommit =>
      exact hcommit.find_journal_of_present hrow
        (present_of_recorded hledger hreceipt hadmissible hcredit hcommit)
  | false =>
    cases h with
    | again _ _ _ hcommit =>
      rw [hcommit.find_of_isJournal_eq_false hrow]
      rfl
    | next hadmissible _ _ hadvances hcommit =>
      rw [hcommit.find_of_isJournal_eq_false hrow]
      by_cases hcursor : row = d.cursorRow
      . subst hcursor
        rw [cursor_unchanged hledger hrows hadmissible.linked hreceipt hadvances]
        exact Store.find_apply_put ..
      . rw [Store.find_applyAll]
        exact if_neg (Ne.symm hcursor)

omit P in
theorem Drains.not_onRecord (hboundaries : Boundaries s) (h : Drains drain s s')
    : ¬ DrainOnRecord s drain := by
  intro hrecord
  obtain ⟨_, hdrained⟩ := (hboundaries.drainedAt hrecord).drained
  have hactive := h.state
  rw [hdrained, Option.some.injEq] at hactive
  exact assignmentStateValue_ne _ _ _ _ hactive.symm

def HandoffUnused (s : Store) : Prop :=
  ∀ row : Row, row.space ∈ handoffSpaces ∨ isJournal row = true → s.find row = none

variable {store : Store}

omit P in
theorem HandoffUnused.boundaries (h : HandoffUnused store) : Boundaries store := by
  intro a bytes hbytes
  rw [h _ (.inr (isJournal_journalRow _ _))] at hbytes
  contradiction

omit P in
theorem HandoffUnused.cursorRows (h : HandoffUnused store) : CursorRows store := by
  intro a bytes hbytes
  rw [h _ (.inl (cursorRow_space a))] at hbytes
  contradiction

end MeshMine.Handoff
