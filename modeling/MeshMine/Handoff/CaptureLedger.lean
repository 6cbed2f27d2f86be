import MeshMine.Handoff.Persistence
import MeshMine.Storage.JournalSafety
import MeshMine.Types.Share

/-!
The capture ledger: for every assignment the captures that Core has disposed of, in the order of their
sequence numbers. A store represents a ledger when its cursor rows and its journal agree with it.
-/

namespace MeshMine.Handoff

open MeshMine.Types Codec Storage
open Storage.ProtocolJournal
open Except (rejectIf_eq_ok bind_unit_eq_ok ok_bind)

structure Disposition where
  envelope : GatewayCaptureEnvelopeV1
  receipt : GatewayCaptureReceiptV1

abbrev CaptureLedger := Hash256 → List Disposition

theorem decode_cursor_bytes (cursor : GatewayCaptureCursorV1)
    : fromCanonicalBytes (toCanonicalBytes cursor) ⟨128, 0⟩ = .ok cursor := by
  apply Decoder.Reads.fromCanonicalBytes
  . unfold toCanonicalBytes CanonicalEncode.encode instCanonicalEncodeGatewayCaptureCursorV1
    simp only [List.append_assoc]
    apply (Decoder.reads_array _).bind
    apply (Decoder.reads_u64 _).bind
    apply (Decoder.reads_array _).bind
    apply (Decoder.reads_u64 _).bind
    apply Decoder.Reads.map (Decoder.reads_option _)
    intro sequence _
    apply Decoder.reads_u64
  . unfold toCanonicalBytes CanonicalEncode.encode instCanonicalEncodeGatewayCaptureCursorV1
    cases h : cursor.drainedThroughSequence <;> simp [Encoder.option, h]

theorem decodeCursor_bytes (assignmentId : Hash256) (cursor : GatewayCaptureCursorV1)
    : decodeCursor assignmentId (some (toCanonicalBytes cursor)) = .ok cursor := by
  unfold decodeCursor
  dsimp only
  rw [decode_cursor_bytes]
  rfl

variable {a : Hash256} {cursor cursor' : GatewayCaptureCursorV1}

namespace GatewayCaptureCursorV1

variable {drain : GatewayAssignmentDrainV1}

theorem applyDrain_eq_ok (h : cursor.applyDrain drain = .ok cursor')
    : cursor' = { cursor with drainedThroughSequence := cursor'.drainedThroughSequence } := by
  unfold applyDrain at h
  rw [bind_unit_eq_ok] at h
  obtain ⟨_, h⟩ := h
  split at h
  . injection h with h
    rw [← h]
  . split at h
    . injection h with h
      rw [← h]
    . contradiction

theorem applyDrain_closes (h : cursor.applyDrain drain = .ok cursor')
    : drain.lastGatewaySequence.checkedAdd 1 = some cursor'.nextGatewaySequence
      ∧ cursor'.drainedThroughSequence = some drain.lastGatewaySequence := by
  unfold applyDrain at h
  rw [bind_unit_eq_ok, rejectIf_eq_ok] at h
  push Not at h
  obtain ⟨⟨_, hnext, _⟩, h⟩ := h
  split at h
  . injection h with h
    subst h
    exact ⟨hnext, rfl⟩
  next existing hexisting =>
    split at h
    next heq =>
      injection h with h
      subst h
      rw [hexisting, heq]
      exact ⟨hnext, rfl⟩
    . contradiction

end GatewayCaptureCursorV1

variable [P : Primitives] {d : Disposition} {s : Store} {s' : Store}

namespace Disposition

def envelopeRow (d : Disposition) : Row :=
  journalRow .gatewayCaptureEnvelope (objectId d.envelope).toList

def receiptRow (d : Disposition) : Row :=
  journalRow .gatewayCaptureReceipt (objectId d.envelope).toList

abbrev cursorRow (d : Disposition) : Row :=
  captureCursorRow d.envelope.assignmentId

/-- The cursor that is read from `existing` takes the envelope. -/
structure Advances (d : Disposition) (existing : Option (List UInt8)) (decision : CaptureSequenceDecision)
    (cursor cursor' : GatewayCaptureCursorV1) : Prop where
  decode : decodeCursor d.envelope.assignmentId existing = .ok cursor
  classify : cursor.classify d.envelope = .ok decision
  advance : cursor.advance d.envelope = .ok cursor'

structure Linked (d : Disposition) : Prop where
  envelope : d.receipt.captureEnvelopeId = objectId d.envelope
  assignment : d.receipt.assignmentId = d.envelope.assignmentId
  sequence : d.receipt.receiptSequence = d.envelope.gatewaySequence
  positive : d.envelope.gatewaySequence ≠ 0

structure Credits (d : Disposition) (share : ShareV2) (s : Store) : Prop where
  representable : share.Representable
  telemetry : share.localTelemetryHash = some (objectId d.envelope)
  shareId : d.receipt.acceptedShareId = objectId share
  recorded : s.find (journalRow .acceptedShare (objectId share).toList) = some (toCanonicalBytes share)
  workKey : s.find (journalRow .acceptedWorkKey share.workKey.toList) = some (objectId share).toList

theorem Credits.rely {share : ShareV2} (h : d.Credits share s) (hs : journalRely.rel s s')
    : d.Credits share s' where
  representable := h.representable
  telemetry := h.telemetry
  shareId := h.shareId
  recorded := hs _ _ (isJournal_journalRow _ _) h.recorded
  workKey := hs _ _ (isJournal_journalRow _ _) h.workKey

end Disposition

structure CursorFor (assignmentId : Hash256) (dispositions : List Disposition)
    (cursor : GatewayCaptureCursorV1) : Prop where
  assignment : cursor.assignmentId = assignmentId
  next : cursor.nextGatewaySequence.toNat = dispositions.length + 1
  last : ∀ d ∈ dispositions.getLast?, cursor.lastEnvelopeId = objectId d.envelope
    ∧ cursor.lastGatewayReceivedMs = d.envelope.gatewayReceivedMs

structure EntryOf (s : Store) (assignmentId : Hash256) (i : Nat) (d : Disposition) : Prop where
  linked : d.Linked
  assignment : d.envelope.assignmentId = assignmentId
  sequence : d.envelope.gatewaySequence.toNat = i + 1
  envelope : s.find d.envelopeRow = some (toCanonicalBytes d.envelope)
  credited : d.receipt.outcome = captureOutcomeAccepted → ∃ share, d.Credits share s

structure Represents (s : Store) (ledger : CaptureLedger) : Prop where
  cursor : ∀ a, ∃ cursor, decodeCursor a (s.find (captureCursorRow a)) = .ok cursor
    ∧ CursorFor a (ledger a) cursor
  entries : ∀ a i d, (ledger a)[i]? = some d → EntryOf s a i d
  ordered : ∀ a, (ledger a).Pairwise fun d d' =>
    d.envelope.gatewayReceivedMs ≤ d'.envelope.gatewayReceivedMs
  receipts : ∀ row bytes, row.space = ProtocolRecordKind.gatewayCaptureReceipt.space
    → (s.find row = some bytes
      ↔ ∃ a, ∃ d ∈ ledger a, row = d.receiptRow ∧ bytes = toCanonicalBytes d.receipt)
  shares : ∀ row bytes, row.space = ProtocolRecordKind.acceptedShare.space → s.find row = some bytes
    → ∃ a, ∃ d ∈ ledger a, d.receipt.outcome = captureOutcomeAccepted
      ∧ ∃ share, d.Credits share s ∧ bytes = toCanonicalBytes share

theorem EntryOf.rely {i : Nat} (h : EntryOf s a i d) (hs : journalRely.rel s s')
    : EntryOf s' a i d where
  linked := h.linked
  assignment := h.assignment
  sequence := h.sequence
  envelope := hs _ _ (isJournal_journalRow _ _) h.envelope
  credited houtcome := by
    obtain ⟨share, hcredits⟩ := h.credited houtcome
    exact ⟨share, hcredits.rely hs⟩

/-!
### The cursor as a summary of the ledger
-/

variable {envelope : GatewayCaptureEnvelopeV1}

namespace GatewayCaptureCursorV1

structure Admits (cursor : GatewayCaptureCursorV1) (envelope : GatewayCaptureEnvelopeV1) : Prop where
  assignment : envelope.assignmentId = cursor.assignmentId
  sequence : envelope.gatewaySequence = cursor.nextGatewaySequence
  notDrained : cursor.drainedThroughSequence = none
  observed : 1 < cursor.nextGatewaySequence → cursor.lastGatewayReceivedMs ≤ envelope.gatewayReceivedMs

theorem classify_eq_new
    : cursor.classify envelope = .ok .new ↔ cursor.Admits envelope := by
  unfold classify
  rw [bind_unit_eq_ok, rejectIf_eq_ok, not_not]
  split
  next hsequence =>
    rw [bind_unit_eq_ok, bind_unit_eq_ok, rejectIf_eq_ok, rejectIf_eq_ok]
    constructor
    . rintro ⟨hassignment, hdrained, hobserved, _⟩
      refine ⟨hassignment, hsequence, by simpa using hdrained, ?_⟩
      intro hnext
      rw [not_and, UInt64.not_lt] at hobserved
      apply hobserved hnext
    . intro h
      refine ⟨h.assignment, by simp [h.notDrained], ?_, rfl⟩
      rw [not_and, UInt64.not_lt]
      apply h.observed
  next hsequence =>
    constructor
    . rintro ⟨_, h⟩
      dsimp only at h
      split at h <;> contradiction
    . intro h
      exact absurd h.sequence hsequence

theorem classify_eq_exactRetry (h : cursor.classify envelope = .ok .exactRetry)
    : envelope.assignmentId = cursor.assignmentId
      ∧ envelope.gatewaySequence.checkedAdd 1 = some cursor.nextGatewaySequence
      ∧ objectId envelope = cursor.lastEnvelopeId := by
  unfold classify at h
  rw [bind_unit_eq_ok, rejectIf_eq_ok, not_not] at h
  obtain ⟨hassignment, h⟩ := h
  split at h
  . rw [bind_unit_eq_ok, bind_unit_eq_ok] at h
    obtain ⟨_, _, h⟩ := h
    contradiction
  . dsimp only at h
    split at h
    next hretry => exact ⟨hassignment, hretry⟩
    . contradiction

theorem advance_of_exactRetry (hclassify : cursor.classify envelope = .ok .exactRetry)
    (h : cursor.advance envelope = .ok cursor')
    : cursor' = cursor := by
  unfold advance at h
  rw [hclassify, ok_bind] at h
  injection h with h
  exact h.symm

theorem advance_of_new (hclassify : cursor.classify envelope = .ok .new) (h : cursor.advance envelope = .ok cursor')
    : cursor'.assignmentId = cursor.assignmentId
      ∧ cursor'.nextGatewaySequence.toNat = cursor.nextGatewaySequence.toNat + 1
      ∧ cursor'.lastEnvelopeId = objectId envelope
      ∧ cursor'.lastGatewayReceivedMs = envelope.gatewayReceivedMs := by
  unfold advance at h
  rw [hclassify, ok_bind] at h
  dsimp only at h
  split at h
  . contradiction
  next next hnext =>
    injection h with h
    subst h
    exact ⟨rfl, UInt64.toNat_of_checkedAdd_eq_some hnext, rfl, rfl⟩

end GatewayCaptureCursorV1

variable {dispositions : List Disposition}

theorem CursorFor.append (h : CursorFor a dispositions cursor) (hclassify : cursor.classify d.envelope = .ok .new)
    (hadvance : cursor.advance d.envelope = .ok cursor')
    : CursorFor a (dispositions ++ [d]) cursor' := by
  obtain ⟨hassignment, hnext, hlast, hms⟩ :=
    GatewayCaptureCursorV1.advance_of_new hclassify hadvance
  constructor
  . rw [hassignment, h.assignment]
  . rw [hnext, h.next, List.length_append, List.length_singleton]
  . intro d' hd'
    rw [List.getLast?_concat, Option.mem_some_iff] at hd'
    subst hd'
    exact ⟨hlast, hms⟩

theorem CursorFor.observed (h : CursorFor a dispositions cursor) (hadmits : cursor.Admits envelope)
    (hordered : dispositions.Pairwise fun d d' =>
      d.envelope.gatewayReceivedMs ≤ d'.envelope.gatewayReceivedMs)
    : ∀ d ∈ dispositions, d.envelope.gatewayReceivedMs ≤ envelope.gatewayReceivedMs := by
  intro d hmem
  have hne : dispositions ≠ [] := List.ne_nil_of_mem hmem
  obtain ⟨first, last, rfl⟩ := List.eq_nil_or_concat dispositions |>.resolve_left hne
  obtain ⟨_, hms⟩ := h.last last (by simp)
  have hlast : last.envelope.gatewayReceivedMs ≤ envelope.gatewayReceivedMs := by
    rw [← hms]
    apply hadmits.observed
    rw [UInt64.lt_iff_toNat_lt, h.next]
    simp
  rw [List.concat_eq_append, List.mem_append, List.mem_singleton] at hmem
  cases hmem with
  | inl hmem =>
    rw [List.concat_eq_append, List.pairwise_append] at hordered
    have := hordered.2.2 d hmem last (List.mem_singleton_self last)
    exact UInt64.le_trans this hlast
  | inr heq =>
    rw [heq]
    exact hlast

/-!
### The two effects of a committed operation
-/

structure Keeps (before after : Store) : Prop where
  rely : journalRely.rel before after
  cursor : ∀ a cursor, decodeCursor a (before.find (captureCursorRow a)) = .ok cursor
    → ∃ drained, decodeCursor a (after.find (captureCursorRow a))
      = .ok { cursor with drainedThroughSequence := drained }
  receipts : ∀ row, row.space = ProtocolRecordKind.gatewayCaptureReceipt.space
    → after.find row = before.find row
  shares : ∀ row, row.space = ProtocolRecordKind.acceptedShare.space
    → after.find row = before.find row

variable {ledger : CaptureLedger} {before after : Store}

theorem Represents.keeps (h : Represents before ledger) (hkeeps : Keeps before after)
    : Represents after ledger where
  cursor a := by
    obtain ⟨cursor, hdecode, hcursor⟩ := h.cursor a
    obtain ⟨drained, hdecode'⟩ := hkeeps.cursor a cursor hdecode
    exact ⟨_, hdecode', hcursor.assignment, hcursor.next, hcursor.last⟩
  entries a i d hd := (h.entries a i d hd).rely hkeeps.rely
  ordered := h.ordered
  receipts row bytes hrow := by
    rw [hkeeps.receipts row hrow]
    apply h.receipts row bytes hrow
  shares row bytes hrow hfind := by
    rw [hkeeps.shares row hrow] at hfind
    obtain ⟨a, d, hmem, houtcome, share, hcredits, hbytes⟩ := h.shares row bytes hrow hfind
    exact ⟨a, d, hmem, houtcome, share, hcredits.rely hkeeps.rely, hbytes⟩

structure Appends (before after : Store) (d : Disposition) : Prop where
  rely : journalRely.rel before after
  linked : d.Linked
  cursor : ∃ cursor cursor', d.Advances (before.find d.cursorRow) .new cursor cursor'
    ∧ after.find d.cursorRow = some (toCanonicalBytes cursor')
  otherCursors : ∀ a, a ≠ d.envelope.assignmentId
    → after.find (captureCursorRow a) = before.find (captureCursorRow a)
  envelope : after.find d.envelopeRow = some (toCanonicalBytes d.envelope)
  compatible : before.find d.receiptRow = none
    ∨ before.find d.receiptRow = some (toCanonicalBytes d.receipt)
  receipt : after.find d.receiptRow = some (toCanonicalBytes d.receipt)
  otherReceipts : ∀ row, row.space = ProtocolRecordKind.gatewayCaptureReceipt.space
    → row ≠ d.receiptRow → after.find row = before.find row
  credited : d.receipt.outcome = captureOutcomeAccepted → ∃ share, d.Credits share after
  shares : ∀ row, row.space = ProtocolRecordKind.acceptedShare.space
    → after.find row = before.find row
      ∨ d.receipt.outcome = captureOutcomeAccepted
        ∧ ∃ share, d.Credits share after ∧ after.find row = some (toCanonicalBytes share)

theorem Represents.receipt_fresh (h : Represents s ledger) (hlinked : d.Linked)
    (hsequence : (ledger d.envelope.assignmentId).length < d.envelope.gatewaySequence.toNat)
    : s.find d.receiptRow ≠ some (toCanonicalBytes d.receipt) := by
  intro hfind
  rw [h.receipts _ _ rfl] at hfind
  obtain ⟨a, d', hmem, hrow, hbytes⟩ := hfind
  rw [GatewayCaptureReceiptV1.toCanonicalBytes_inj] at hbytes
  obtain ⟨i, hi⟩ := List.mem_iff_getElem?.mp hmem
  have hentry := h.entries a i d' hi
  have hassignment : a = d.envelope.assignmentId := by
    rw [← hentry.assignment, ← hentry.linked.assignment, ← hbytes, hlinked.assignment]
  have hnumber := hentry.sequence
  rw [← hentry.linked.sequence, ← hbytes, hlinked.sequence] at hnumber
  rw [hassignment] at hi
  have := (List.getElem?_eq_some_iff.mp hi).1
  omega

theorem Represents.appends (h : Represents before ledger) (happends : Appends before after d)
    : Represents after (Function.update ledger d.envelope.assignmentId
        (ledger d.envelope.assignmentId ++ [d])) := by
  obtain ⟨cursor, cursor', ⟨hdecode, hclassify, hadvance⟩, hafter⟩ := happends.cursor
  obtain ⟨known, hknown, hcursor⟩ := h.cursor d.envelope.assignmentId
  rw [hdecode, Except.ok.injEq] at hknown
  subst hknown
  have hadmits := GatewayCaptureCursorV1.classify_eq_new.mp hclassify
  have hsequence : d.envelope.gatewaySequence.toNat = (ledger d.envelope.assignmentId).length + 1 := by
    rw [hadmits.sequence, hcursor.next]
  have hfresh : before.find d.receiptRow = none :=
    happends.compatible.resolve_right (h.receipt_fresh happends.linked (by omega))
  have hmem : ∀ a d', d' ∈ Function.update ledger d.envelope.assignmentId
        (ledger d.envelope.assignmentId ++ [d]) a
      ↔ d' ∈ ledger a ∨ a = d.envelope.assignmentId ∧ d' = d := by
    intro a d'
    by_cases ha : a = d.envelope.assignmentId
    . subst ha
      simp
    . rw [Function.update_of_ne ha]
      simp [ha]
  constructor
  case cursor =>
    intro a
    by_cases ha : a = d.envelope.assignmentId
    . subst ha
      rw [hafter, Function.update_self, decodeCursor_bytes]
      exact ⟨cursor', rfl, hcursor.append hclassify hadvance⟩
    . rw [happends.otherCursors a ha, Function.update_of_ne ha]
      apply h.cursor a
  case entries =>
    intro a i d' hi
    by_cases ha : a = d.envelope.assignmentId
    . subst ha
      rw [Function.update_self, List.getElem?_append] at hi
      split at hi
      . exact (h.entries _ i d' hi).rely happends.rely
      next hge =>
        have heq : d' = d := List.mem_singleton.mp (List.mem_of_getElem? hi)
        have hlast := (List.getElem?_eq_some_iff.mp hi).1
        rw [List.length_singleton] at hlast
        subst heq
        exact ⟨happends.linked, rfl, by omega, happends.envelope, happends.credited⟩
    . rw [Function.update_of_ne ha] at hi
      exact (h.entries a i d' hi).rely happends.rely
  case ordered =>
    intro a
    by_cases ha : a = d.envelope.assignmentId
    . subst ha
      rw [Function.update_self, List.pairwise_append]
      refine ⟨h.ordered _, List.pairwise_singleton _ _, ?_⟩
      intro d' hd' d'' hd''
      rw [List.mem_singleton.mp hd'']
      apply hcursor.observed hadmits (h.ordered _) d' hd'
    . rw [Function.update_of_ne ha]
      apply h.ordered a
  case receipts =>
    intro row bytes hspace
    by_cases hrow : row = d.receiptRow
    . subst hrow
      rw [happends.receipt]
      constructor
      . intro hbytes
        injection hbytes with hbytes
        exact ⟨_, d, (hmem _ _).mpr (.inr ⟨rfl, rfl⟩), rfl, hbytes.symm⟩
      . rintro ⟨a, d', hd', hrow, hbytes⟩
        cases (hmem a d').mp hd' with
        | inl hold =>
          have := (h.receipts d.receiptRow bytes hspace).mpr ⟨a, d', hold, hrow, hbytes⟩
          rw [hfresh] at this
          contradiction
        | inr hnew => rw [hbytes, hnew.2]
    . rw [happends.otherReceipts row hspace hrow, h.receipts row bytes hspace]
      constructor
      . rintro ⟨a, d', hd', hrest⟩
        exact ⟨a, d', (hmem a d').mpr (.inl hd'), hrest⟩
      . rintro ⟨a, d', hd', hrest⟩
        cases (hmem a d').mp hd' with
        | inl hold => exact ⟨a, d', hold, hrest⟩
        | inr hnew =>
          rw [hnew.2] at hrest
          exact absurd hrest.1 hrow
  case shares =>
    intro row bytes hspace hfind
    cases happends.shares row hspace with
    | inl hsame =>
      rw [hsame] at hfind
      obtain ⟨a, d', hd', houtcome, share, hcredits, hbytes⟩ := h.shares row bytes hspace hfind
      exact ⟨a, d', (hmem a d').mpr (.inl hd'), houtcome, share, hcredits.rely happends.rely, hbytes⟩
    | inr hcredited =>
      obtain ⟨houtcome, share, hcredits, hshare⟩ := hcredited
      rw [hshare, Option.some.injEq] at hfind
      exact ⟨_, d, (hmem _ _).mpr (.inr ⟨rfl, rfl⟩), houtcome, share, hcredits, hfind.symm⟩

end MeshMine.Handoff
