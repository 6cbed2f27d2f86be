import MeshMine.Storage.JournalSafety
import MeshMine.Storage.StoreShared

/-!
The journal's operations under a rely and a guarantee of their own. All that such a call does to the store is
one commit.
-/

namespace MeshMine.Storage.ProtocolJournal

open StoreM (Obeys)

variable {R : Rely Store} {G : Store → Store → Prop} {s : Store}

variable (hR : ∀ {s s'}, R.rel s s' → journalRely.rel s s') (hread : ∀ s, G s s)

include hR hread

theorem persistRecordsWithConditionsAndBatch_obeys {conditions : List BatchCondition}
    {supplemental : List BatchOperation} {records : List JournalBatchRecord}
    (hcommit : ∀ before after, R.rel s before
      → CommitsAt (records.map toPrepared) conditions supplemental before after → G before after)
    : Obeys R G (persistRecordsWithConditionsAndBatch records conditions supplemental) s
        (Settles R (records.map toPrepared) conditions supplemental s) :=
  (persistRecordsWithConditionsAndBatch_follows hR hread quiet_nil hcommit).obeys fun _ _ _ h => h.2

theorem persist_obeys {kind : ProtocolRecordKind} {durableKey value : List UInt8}
    (hcommit : ∀ before after, R.rel s before
      → CommitsAt [⟨journalRow kind durableKey, value⟩] [] [] before after → G before after)
    : Obeys R G (persist kind durableKey value) s
        fun _ s' => s'.find (journalRow kind durableKey) = some value := by
  apply (persistRecordsWithConditionsAndBatch_obeys hR hread hcommit).seq
  intro outcome s' hsettles
  have hrow : outcome ≠ .preconditionMismatch → ∀ s'', R.rel s' s''
      → s''.find (journalRow kind durableKey) = some value := by
    intro hne s'' hs
    apply hR hs _ _ (isJournal_journalRow ..)
    exact hsettles.recorded hne _ (List.mem_singleton_self _)
  cases outcome with
  | committed | exactRecord => exact Obeys.pure (hrow (by simp))
  | preconditionMismatch => apply Obeys.throw

end MeshMine.Storage.ProtocolJournal
