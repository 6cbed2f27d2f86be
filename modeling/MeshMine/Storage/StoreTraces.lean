import MeshMine.Concurrency.Trace
import MeshMine.Data.Except
import MeshMine.Storage.Store

/-!
Rules for store programs that are specified by the transitions which they log.
-/

namespace MeshMine.Storage.StoreM

variable {E : Type} {α β : Type} {T : Store → Store → Prop} {log : List (Store × Store)}

def Leaves (T : Store → Store → Prop) (x : StoreM E α) (log : List (Store × Store))
    (Q : α → List (Store × Store) → Prop) : Prop :=
  Program.Leaves T (fun result log => ∀ a, result = .ok a → Q a log) x.run log

namespace Leaves

variable {Q : α → List (Store × Store) → Prop} {x : StoreM E α}

theorem mono {Q' : α → List (Store × Store) → Prop} (h : Leaves T x log Q) (hQ : ∀ a log, Q a log → Q' a log)
    : Leaves T x log Q' := by
  apply Program.Leaves.mono h
  intro result log hresult a ha
  exact hQ a log (hresult a ha)

theorem pure {a : α} (h : Q a log) : Leaves T (pure a : StoreM E α) log Q := by
  intro b hb
  injection hb with hb
  rw [← hb]
  exact h

theorem throw {e : E} : Leaves T (throw e : StoreM E α) log Q := by
  intro a ha
  contradiction

theorem ite {c : Prop} [Decidable c] {y : StoreM E α} (hthen : c → Leaves T x log Q) (helse : ¬ c → Leaves T y log Q)
    : Leaves T (if c then x else y) log Q := by
  split
  next h => exact hthen h
  next h => exact helse h

variable {Q' : β → List (Store × Store) → Prop} {f : α → StoreM E β}

theorem bind (h : Leaves T x log fun a log => Leaves T (f a) log Q')
    : Leaves T (x >>= f) log Q' := by
  unfold Leaves
  rw [ExceptT.run_bind]
  apply Program.Leaves.bind
  apply Program.Leaves.mono h
  intro result log hresult
  cases result with
  | ok a => exact hresult a rfl
  | error e =>
    intro a ha
    contradiction

theorem throw_bind {e : E}
    : Leaves T ((MonadExcept.throw e : StoreM E α) >>= f) log Q' :=
  bind throw

theorem bind_ofExcept {x : Except E α} (h : ∀ a, x = .ok a → Leaves T (f a) log Q')
    : Leaves T (StoreM.ofExcept x >>= f) log Q' := by
  apply bind
  intro a ha
  exact h a ha

variable [FromStorageError E]

theorem call {op : StoreOp} {Q : StoreOp.Res op → List (Store × Store) → Prop}
    (h : ∀ s answer s', storeMachine.Answers op s answer s'
      → T s s' ∧ ∀ a, answer = .ok a → Q a (log ++ [(s, s')]))
    : Leaves T (StoreM.call op : StoreM E _) log Q := by
  apply Program.Leaves.bind
  intro s answer s' hanswer
  obtain ⟨hstep, hQ⟩ := h s answer s' hanswer
  refine ⟨hstep, ?_⟩
  cases answer with
  | ok a =>
    intro b hb
    injection hb with hb
    rw [← hb]
    exact hQ a rfl
  | error e =>
    intro b hb
    contradiction

theorem get {row : Row} {Q : Option (List UInt8) → List (Store × Store) → Prop} (hread : ∀ s, T s s)
    (h : ∀ s, Q (s.find row) (log ++ [(s, s)]))
    : Leaves T (StoreM.get row : StoreM E _) log Q := by
  apply call
  intro s answer s' hanswer
  obtain ⟨rfl, rfl | ⟨e, _, rfl⟩⟩ := answers_get hanswer
  . refine ⟨hread s', ?_⟩
    rintro a ⟨⟩
    exact h s'
  . refine ⟨hread s', ?_⟩
    intro a ha
    contradiction

theorem bind_get {row : Row} {f : Option (List UInt8) → StoreM E β} (hread : ∀ s, T s s)
    (h : ∀ s, Leaves T (f (s.find row)) (log ++ [(s, s)]) Q')
    : Leaves T (StoreM.get row >>= f) log Q' :=
  bind (get hread h)

theorem applyBatchIfAll {conditions : List BatchCondition} {operations : List BatchOperation}
    {Q : Bool → List (Store × Store) → Prop} (hread : ∀ s, T s s)
    (happlied : ∀ s, (∀ c ∈ conditions, s.find c.row = c.expected)
      → T s (s.applyAll operations) ∧ Q true (log ++ [(s, s.applyAll operations)]))
    (hrefused : ∀ s, Q false (log ++ [(s, s)]))
    : Leaves T (StoreM.applyBatchIfAll conditions operations : StoreM E _) log Q := by
  apply call
  intro s answer s' hanswer
  obtain ⟨rfl, rfl, hall⟩ | ⟨rfl, ⟨rfl, _⟩ | ⟨e, _, rfl⟩⟩ := answers_applyBatchIfAll hanswer
  . refine ⟨(happlied s hall).1, ?_⟩
    rintro a ⟨⟩
    exact (happlied s hall).2
  . refine ⟨hread s', ?_⟩
    rintro a ⟨⟩
    exact hrefused s'
  . refine ⟨hread s', ?_⟩
    intro a ha
    contradiction

end Leaves

end MeshMine.Storage.StoreM
