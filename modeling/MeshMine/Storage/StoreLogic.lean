import MeshMine.Data.Except
import MeshMine.Storage.Store

/-!
Rules for store programs that run among other writers. `StoreM.Ensures` is the form in which the
operations of the program are specified: from any state that the others may have led to, every step keeps
to the rely relation, and a result satisfies its postcondition.
-/

namespace MeshMine.Storage.StoreM

variable {E : Type} [FromStorageError E] {α β : Type} {R : Rely Store} {log : List (Store × Store)}
  {s : Store} {G : Store → Store → Prop}

theorem follows_bind {E : Type} {Q : Except E β → List (Store × Store) → Store → Prop}
    {P : Except E α → List (Store × Store) → Store → Prop} {x : StoreM E α} {f : α → StoreM E β}
    (hx : Program.Follows R G P x.run log s)
    (hok : ∀ a log s', P (.ok a) log s' → Program.Follows R G Q (f a).run log s')
    (herror : ∀ e log s', P (.error e) log s' → ∀ s'', R.rel s' s'' → Q (.error e) log s'')
    : Program.Follows R G Q (x >>= f).run log s := by
  rw [ExceptT.run_bind]
  apply hx.bind
  intro answer log s' hP
  cases answer with
  | ok a => exact hok a log s' hP
  | error e => exact herror e log s' hP

variable {Q : Except E β → List (Store × Store) → Store → Prop}

theorem follows_call {op : StoreOp} {f : StoreOp.Res op → StoreM E β}
    (h : ∀ s', R.rel s s' → ∀ answer s'', storeMachine.Answers op s' answer s''
      → G s' s'' ∧ match answer with
        | .ok a => Program.Follows R G Q (f a).run (log ++ [(s', s'')]) s''
        | .error e => ∀ s₃, R.rel s'' s₃ → Q (.error (FromStorageError.ofStorage e)) (log ++ [(s', s'')]) s₃)
    : Program.Follows R G Q (call op >>= f : StoreM E β).run log s := by
  intro s' hs answer s'' hanswer
  obtain ⟨hstep, hrest⟩ := h s' hs answer s'' hanswer
  refine ⟨hstep, ?_⟩
  cases answer with
  | ok a => exact hrest
  | error e => exact hrest

theorem follows_get {row : Row} {f : Option (List UInt8) → StoreM E β} (hread : ∀ s, G s s)
    (hok : ∀ s', R.rel s s' → Program.Follows R G Q (f (s'.find row)).run (log ++ [(s', s')]) s')
    (herror : ∀ e s' s'', e ≠ didNotStabilize → Q (.error (FromStorageError.ofStorage e)) (log ++ [(s', s')]) s'')
    : Program.Follows R G Q (get row >>= f : StoreM E β).run log s := by
  apply follows_call
  intro s' hs answer s'' hanswer
  obtain ⟨rfl, rfl | ⟨e, hfault, rfl⟩⟩ := answers_get hanswer
  . exact ⟨hread s'', hok s'' hs⟩
  . exact ⟨hread s'', fun s₃ _ => herror e s'' s₃ hfault⟩

theorem follows_applyBatchIfAll {conditions : List BatchCondition} {operations : List BatchOperation}
    {f : Bool → StoreM E β} (hread : ∀ s, G s s)
    (happlied : ∀ s', R.rel s s' → (∀ c ∈ conditions, s'.find c.row = c.expected)
      → G s' (s'.applyAll operations) ∧ Program.Follows R G Q (f true).run
        (log ++ [(s', s'.applyAll operations)]) (s'.applyAll operations))
    (hrefused : ∀ s', R.rel s s' → (∃ c ∈ conditions, s'.find c.row ≠ c.expected)
      → Program.Follows R G Q (f false).run (log ++ [(s', s')]) s')
    (herror : ∀ e s' s'', e ≠ didNotStabilize → Q (.error (FromStorageError.ofStorage e)) (log ++ [(s', s')]) s'')
    : Program.Follows R G Q (applyBatchIfAll conditions operations >>= f : StoreM E β).run log s := by
  apply follows_call
  intro s' hs answer s'' hanswer
  obtain ⟨rfl, rfl, hall⟩ | ⟨rfl, ⟨rfl, hsome⟩ | ⟨e, hfault, rfl⟩⟩ := answers_applyBatchIfAll hanswer
  . exact happlied s' hs hall
  . exact ⟨hread s'', hrefused s'' hs hsome⟩
  . exact ⟨hread s'', fun s₃ _ => herror e s'' s₃ hfault⟩

def Ensures {E α : Type} (R : Rely Store) (s₀ : Store) (x : StoreM E α) (Q : α → Store → Prop) : Prop :=
  ∀ log s, R.rel s₀ s → Program.Safe R (fun result _ s' => ∀ a, result = .ok a → Q a s') x.run log s

namespace Ensures

variable {E : Type} {s₀ : Store} {Q : α → Store → Prop} {x : StoreM E α}

theorem mono {Q' : α → Store → Prop} (h : Ensures R s₀ x Q) (hQ : ∀ a s, Q a s → Q' a s)
    : Ensures R s₀ x Q' := by
  intro log s hs
  apply (h log s hs).mono
  intro result log s' hresult a ha
  apply hQ a s' (hresult a ha)

theorem runs {result : Option (Except E α)} {s' : Store} (h : Ensures R s₀ x Q)
    (hruns : Program.Runs R x.run s₀ result s')
    : R.rel s₀ s' ∧ ∀ a, result = some (.ok a) → Q a s' := by
  obtain ⟨hrel, hresult⟩ := (h [] s₀ (R.refl s₀)).runs hruns
  refine ⟨hrel, ?_⟩
  intro a ha
  obtain ⟨log, hQ⟩ := hresult _ ha
  apply hQ a rfl

end Ensures

end MeshMine.Storage.StoreM
