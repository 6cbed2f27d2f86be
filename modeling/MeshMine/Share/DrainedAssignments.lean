import MeshMine.Handoff.DrainBoundary
import MeshMine.Share.CaptureDispositions

/-!
Drains against captures. Both read the cursor and the state of the assignment before they commit; the commit
of either refuses what the other has changed, so the journaled receipts of a drained assignment end exactly at
the drain's last sequence.
-/

namespace MeshMine.Share

open MeshMine.Types Codec Storage Handoff
open Storage.ProtocolJournal
open HandoffCall (program contract)

section

variable [P : Primitives] {s s' : Store}

def HandoffCall.OnRecord : HandoffCall → Store → Prop
  | noncreditDisposition _ _ envelope receipt, s =>
    s.find (Disposition.receiptRow ⟨envelope, receipt⟩) = some (toCanonicalBytes receipt)
  | acceptGateway _ _ _ _ envelope receipt _, s =>
    s.find (Disposition.receiptRow ⟨envelope, receipt⟩) = some (toCanonicalBytes receipt)
  | assignmentDrain _ drain, s => DrainOnRecord s drain
  | contextManifest .., _ | assignmentAuthorization .., _ | assignmentTransition .., _ => False

theorem HandoffCall.Step.unchanged {call : HandoffCall} (hconsistent : Consistent s)
    (hrows : CursorRows s) (hboundaries : Boundaries s) (hstep : call.Step s s')
    (hrecord : call.OnRecord s) (row : Row)
    : s'.find row = s.find row := by
  cases call with
  | contextManifest | assignmentAuthorization | assignmentTransition => contradiction
  | noncreditDisposition | acceptGateway =>
    rcases hstep with rfl | hdisposes
    . rfl
    . exact hdisposes.unchanged hconsistent hrows hrecord row
  | assignmentDrain manifest drain =>
    rcases hstep with rfl | hdrains
    . rfl
    . exact absurd hrecord (hdrains.not_onRecord hboundaries)

/-!
### Any interleaving
-/

omit P in
theorem pristine_of_unused {store : Store} (h : HandoffUnused store) : Pristine store where
  cursors a := h _ (.inl (cursorRow_space a))
  receipts _ hrow := h _ (.inr (isJournal_of_space hrow))
  shares _ hrow := h _ (.inr (isJournal_of_space hrow))

variable {ι : Type} [DecidableEq ι] {store : Store} {pool pool' : HandoffPool ι}

theorem HandoffPool.boundaries (hstore : HandoffUnused store)
    (h : Pool.Reaches program (Pool.idle store) pool)
    : Boundaries pool.state :=
  HandoffPool.invariant (fun _ _ hI hstep => hstep.boundaries hI) hstore.boundaries h

theorem HandoffPool.rely (h : Pool.Reaches program (Pool.idle store) pool)
    (h' : Pool.Reaches program pool pool')
    : handoffRely.rel pool.state pool'.state := by
  have htrace := HandoffPool.traces h h'
  generalize pool'.state = s at htrace
  induction htrace with
  | refl => exact handoffRely.refl _
  | tail _ hstep ih => exact handoffRely.trans ih hstep.rely

variable {row : Row} {receipt : GatewayCaptureReceiptV1}

omit P in
theorem ReceiptOf.rely {a : Hash256} (h : ReceiptOf s a row receipt) (hs : journalRely.rel s s')
    : ReceiptOf s' a row receipt :=
  ⟨⟨h.1.1, hs _ _ (isJournal_of_space h.1.1) h.1.2⟩, h.2⟩

variable {drain : GatewayAssignmentDrainV1}

theorem HandoffPool.receipts_through (hstore : HandoffUnused store)
    (h : Pool.Reaches program (Pool.idle store) pool) (hdrain : DrainOnRecord pool.state drain) (n : Nat)
    : (∃ row receipt, ReceiptOf pool.state drain.assignmentId row receipt
        ∧ receipt.receiptSequence.toNat = n) ↔ 1 ≤ n ∧ n ≤ drain.lastGatewaySequence.toNat := by
  obtain ⟨cursor, horder⟩ := HandoffPool.reaches_capturesInOrder (pristine_of_unused hstore) h drain.assignmentId
  obtain ⟨cursor', hdecode, hnext, _⟩ := ((HandoffPool.boundaries hstore h).drainedAt hdrain).cursor
  have hrecorded := horder.recorded
  rw [hdecode, Except.ok.injEq] at hrecorded
  subst hrecorded
  have hnext : cursor'.nextGatewaySequence.toNat = drain.lastGatewaySequence.toNat + 1 :=
    UInt64.toNat_of_checkedAdd_eq_some hnext
  rw [horder.sequences, hnext]
  omega

theorem HandoffPool.receipts_final (hstore : HandoffUnused store)
    (h : Pool.Reaches program (Pool.idle store) pool) (h' : Pool.Reaches program pool pool')
    (hdrain : DrainOnRecord pool.state drain) (hreceipt : ReceiptOf pool'.state drain.assignmentId row receipt)
    : ReceiptOf pool.state drain.assignmentId row receipt := by
  have hrely := (HandoffPool.rely h h').1
  have hdrain' : DrainOnRecord pool'.state drain := hrely _ _ (isJournal_journalRow _ _) hdrain
  have hsequence := (HandoffPool.receipts_through hstore (h.trans h') hdrain' _).mp ⟨row, receipt, hreceipt, rfl⟩
  obtain ⟨row₀, receipt₀, hreceipt₀, hsame⟩ := (HandoffPool.receipts_through hstore h hdrain _).mpr hsequence
  obtain ⟨_, horder⟩ :=
    HandoffPool.reaches_capturesInOrder (pristine_of_unused hstore) (h.trans h') drain.assignmentId
  obtain ⟨rfl, rfl⟩ := horder.onePerSequence _ _ _ _ (hreceipt₀.rely hrely) hreceipt
    (UInt64.toNat_inj.mp hsame)
  exact hreceipt₀

theorem HandoffPool.reaches_drain_boundary (hstore : HandoffUnused store)
    (h : Pool.Reaches program (Pool.idle store) pool)
    : (∀ drain, DrainOnRecord pool.state drain →
        (∀ n, (∃ row receipt, ReceiptOf pool.state drain.assignmentId row receipt
          ∧ receipt.receiptSequence.toNat = n) ↔ 1 ≤ n ∧ n ≤ drain.lastGatewaySequence.toNat)
        ∧ ∀ pool', Pool.Reaches program pool pool' → ∀ row receipt,
          ReceiptOf pool'.state drain.assignmentId row receipt
          → ReceiptOf pool.state drain.assignmentId row receipt)
      ∧ (∀ a row receipt, ReceiptOf pool.state a row receipt
        → ∀ pool', Pool.Reaches program pool pool' → ∀ drain, DrainOnRecord pool'.state drain
          → drain.assignmentId = a → receipt.receiptSequence.toNat ≤ drain.lastGatewaySequence.toNat)
      ∧ pool.Logged fun call s s' => call.OnRecord s → ∀ row, s'.find row = s.find row := by
  refine ⟨?_, ?_, ?_⟩
  . intro drain hdrain
    refine ⟨HandoffPool.receipts_through hstore h hdrain, ?_⟩
    intro pool' h' row receipt hreceipt
    exact HandoffPool.receipts_final hstore h h' hdrain hreceipt
  . rintro a row receipt hreceipt pool' h' drain hdrain rfl
    exact ((HandoffPool.receipts_through hstore (h.trans h') hdrain _).mp
      ⟨row, receipt, hreceipt.rely (HandoffPool.rely h h').1, rfl⟩).2
  . refine contract.logged (Pool.separate_idle store) (Pool.logged_idle store)
      (Pool.guardedReaches_of_reaches _ _ (fun _ _ => trivial) h) ?_
    intro mid hmid call s' hstep hrecord row
    have hmid := Pool.reaches_of_guardedReaches _ _ hmid
    exact hstep.unchanged
      (HandoffPool.invariant (fun _ _ hI h => h.consistent hI) (pristine_of_unused hstore).consistent hmid)
      (HandoffPool.invariant (fun _ _ hI h => h.cursorRows hI) hstore.cursorRows hmid)
      (HandoffPool.boundaries hstore hmid) hrecord row

end

def sampleDrain : GatewayAssignmentDrainV1 :=
  letI := Primitives.fold
  Handoff.sampleDrain sampleAssignment 2 (objectId (sampleEnvelope 2 20)) 30

def sampleDrainCalls : List HandoffCall :=
  sampleCalls ++ [.assignmentDrain sampleManifest sampleDrain]

def sampleDrainedStore : Store :=
  letI := Primitives.fold
  sampleDrainCalls.foldl (fun s call => (call.program.run s).2) ∅

theorem sampleDrain_boundary
    : letI := Primitives.fold
      ∃ pool : HandoffPool Unit, Pool.Reaches program (Pool.idle ∅) pool
        ∧ DrainOnRecord pool.state sampleDrain
        ∧ ∀ n, (∃ row receipt, ReceiptOf pool.state (objectId sampleAssignment) row receipt
          ∧ receipt.receiptSequence.toNat = n) ↔ 1 ≤ n ∧ n ≤ 2 := by
  let _ := Primitives.fold
  obtain ⟨pool, hstate, hreaches⟩ : ∃ pool : HandoffPool Unit, pool.state = sampleDrainedStore
      ∧ Pool.Reaches program (Pool.idle ∅) pool :=
    ⟨_, Pool.idle_state _, Pool.reaches_after program () sampleDrainCalls ∅⟩
  have hunused : HandoffUnused ∅ := fun _ _ => rfl
  have hdrain : DrainOnRecord pool.state sampleDrain := by
    rw [hstate]
    unfold DrainOnRecord
    decide +kernel
  exact ⟨pool, hreaches, hdrain,
    ((HandoffPool.reaches_drain_boundary hunused hreaches).1 sampleDrain hdrain).1⟩

end MeshMine.Share
