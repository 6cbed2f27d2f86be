import MeshMine.Concurrency.Guarded
import MeshMine.Storage.StoreLogic
import MeshMine.Storage.StoreSteps

/-!
Rules for store programs whose own steps and whose neighbours' steps are bounded by two different relations.
-/

namespace MeshMine.Storage.StoreM

variable {E : Type} {α β : Type} {R : Rely Store} {G : Store → Store → Prop} {s : Store}

def Obeys (R : Rely Store) (G : Store → Store → Prop) (x : StoreM E α) (s : Store)
    (Q : α → Store → Prop) : Prop :=
  Program.Obeys R G (fun result s' => ∀ a, result = .ok a → Q a s') x.run s

namespace Obeys

variable {Q : α → Store → Prop} {x : StoreM E α}

theorem mono {Q' : α → Store → Prop} (h : Obeys R G x s Q) (hQ : ∀ a s, Q a s → Q' a s)
    : Obeys R G x s Q' := by
  apply Program.Obeys.mono h
  intro result s' hresult a ha
  exact hQ a s' (hresult a ha)

theorem pure {a : α} (h : ∀ s', R.rel s s' → Q a s') : Obeys R G (pure a : StoreM E α) s Q := by
  intro s' hs b hb
  injection hb with hb
  rw [← hb]
  exact h s' hs

theorem throw {e : E} : Obeys R G (throw e : StoreM E α) s Q := by
  intro s' _ a ha
  contradiction

theorem ofExcept {x : Except E α} (h : ∀ a s', x = .ok a → R.rel s s' → Q a s')
    : Obeys R G (ofExcept x) s Q := by
  intro s' hs a ha
  exact h a s' ha hs

theorem done {x : Except E α} : Obeys R G (StoreM.ofExcept x) s fun _ _ => True :=
  ofExcept fun _ _ _ _ => trivial

theorem adapt {E' : Type} {f : E → E'} (h : Obeys R G x s Q)
    : Obeys R G (adapt f x) s Q := by
  apply Program.Obeys.bind
  apply Program.Obeys.mono (Program.Obeys.stable h)
  intro result s' hresult s'' hs a ha
  exact hresult s'' hs a (Except.mapError_eq_ok.mp ha)

variable {Q' : β → Store → Prop}

theorem bind {f : α → StoreM E β} (h : Obeys R G x s (fun a s' => Obeys R G (f a) s' Q'))
    : Obeys R G (x >>= f) s Q' := by
  unfold Obeys
  rw [ExceptT.run_bind]
  apply Program.Obeys.bind
  apply Program.Obeys.mono h
  intro result s' hresult
  cases result with
  | ok a => exact hresult a rfl
  | error e =>
    intro s'' _ a ha
    contradiction

theorem seq {f : α → StoreM E β} (h : Obeys R G x s Q) (hf : ∀ a s', Q a s' → Obeys R G (f a) s' Q')
    : Obeys R G (x >>= f) s Q' :=
  bind (h.mono hf)

theorem rely {s' : Store} (h : Obeys R G x s Q) (hs : R.rel s s')
    : Obeys R G x s' Q :=
  Program.Obeys.rely h hs

theorem ensures (h : Obeys R R.rel x s Q) : Ensures R s x Q := by
  intro log s' hs
  exact Program.Obeys.safe (h.rely hs)

theorem ends (h : Obeys (.still Store) G x s Q) : Ends G x s Q fun _ => True := by
  apply Program.Obeys.always
  apply Program.Obeys.mono h
  intro result s' hresult
  cases result with
  | ok a => exact hresult a rfl
  | error e => trivial

theorem keep {G' : Store → Store → Prop} {K : Store → Prop} (h : Obeys R G x s Q)
    (hR : ∀ s s', R.rel s s' → K s → K s') (hG : ∀ s s', K s → G s s' → K s' ∧ G' s s') (hK : K s)
    : Obeys R G' x s fun a s' => Q a s' ∧ K s' := by
  apply (Program.Obeys.keep h hR hG hK).mono
  intro result s' hresult a ha
  exact ⟨hresult.1 a ha, hresult.2⟩

theorem bind_ofExcept {x : Except E α} {f : α → StoreM E β} (h : ∀ a, x = .ok a → Obeys R G (f a) s Q')
    : Obeys R G (StoreM.ofExcept x >>= f) s Q' := by
  apply bind
  apply ofExcept
  intro a s' ha hs
  exact (h a ha).rely hs

theorem bind_check {x : Except E α} {y : StoreM E β} (h : Obeys R G y s Q')
    : Obeys R G (StoreM.ofExcept x >>= fun _ => y) s Q' :=
  bind_ofExcept fun _ _ => h

theorem discard (h : Obeys R G x s Q)
    : Program.Obeys R G (fun _ _ => True) (x.run >>= fun _ => .pure ()) s := by
  apply Program.Obeys.bind
  apply Program.Obeys.mono h
  intro _ _ _ _ _
  trivial

variable [FromStorageError E]

theorem call {op : StoreOp} {Q : StoreOp.Res op → Store → Prop}
    (h : ∀ s', R.rel s s' → ∀ answer s'', storeMachine.Answers op s' answer s''
      → G s' s'' ∧ ∀ s₃, R.rel s'' s₃ → ∀ a, answer = .ok a → Q a s₃)
    : Obeys R G (StoreM.call op : StoreM E _) s Q := by
  apply Program.Obeys.bind
  intro s' hs answer s'' hanswer
  obtain ⟨hstep, hQ⟩ := h s' hs answer s'' hanswer
  refine ⟨hstep, ?_⟩
  intro s₃ hs₃
  cases answer with
  | ok a =>
    intro s₄ hs₄ b hb
    injection hb with hb
    rw [← hb]
    exact hQ s₄ (R.trans hs₃ hs₄) a rfl
  | error e =>
    intro s₄ _ b hb
    contradiction

theorem get {row : Row} {Q : Option (List UInt8) → Store → Prop} (hread : ∀ s, G s s)
    (h : ∀ s' s'', R.rel s s' → R.rel s' s'' → Q (s'.find row) s'')
    : Obeys R G (StoreM.get row : StoreM E _) s Q := by
  apply call
  intro s' hs answer s'' hanswer
  obtain ⟨rfl, rfl | ⟨e, _, rfl⟩⟩ := answers_get hanswer
  . refine ⟨hread s'', ?_⟩
    rintro s₃ hs₃ a ⟨⟩
    exact h s'' s₃ hs hs₃
  . refine ⟨hread s'', ?_⟩
    intro s₃ _ a ha
    contradiction

theorem bind_get {row : Row} {f : Option (List UInt8) → StoreM E β} (hread : ∀ s, G s s)
    (h : ∀ s', R.rel s s' → Obeys R G (f (s'.find row)) s' Q')
    : Obeys R G (StoreM.get row >>= f) s Q' := by
  apply bind
  apply get hread
  intro s' s'' hs hs'
  exact (h s' hs).rely hs'

theorem applyBatchIfAll {conditions : List BatchCondition} {operations : List BatchOperation}
    {Q : Bool → Store → Prop} (hread : ∀ s, G s s)
    (happlied : ∀ s', R.rel s s' → (∀ c ∈ conditions, s'.find c.row = c.expected)
      → G s' (s'.applyAll operations) ∧ ∀ s'', R.rel (s'.applyAll operations) s'' → Q true s'')
    (hrefused : ∀ s' s'', R.rel s s' → R.rel s' s'' → (∃ c ∈ conditions, s'.find c.row ≠ c.expected)
      → Q false s'')
    : Obeys R G (StoreM.applyBatchIfAll conditions operations : StoreM E _) s Q := by
  apply call
  intro s' hs answer s'' hanswer
  obtain ⟨rfl, rfl, hall⟩ | ⟨rfl, ⟨rfl, hsome⟩ | ⟨e, _, rfl⟩⟩ := answers_applyBatchIfAll hanswer
  . refine ⟨(happlied s' hs hall).1, ?_⟩
    rintro s₃ hs₃ a ⟨⟩
    exact (happlied s' hs hall).2 s₃ hs₃
  . refine ⟨hread s'', ?_⟩
    rintro s₃ hs₃ a ⟨⟩
    exact hrefused s'' s₃ hs hs₃ hsome
  . refine ⟨hread s'', ?_⟩
    intro s₃ _ a ha
    contradiction

end Obeys

end MeshMine.Storage.StoreM
