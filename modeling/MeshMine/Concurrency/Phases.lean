import MeshMine.Concurrency.Guarded

/-!
Runs in phases. In one phase only some of the calls are in flight; `Pool.Obeying` is the invariant that carries what
every thread in flight still keeps to from one phase to the next.
-/

namespace Program

variable {σ ε α : Type} {M : Machine σ ε} {R : Rely σ} {G : σ → σ → Prop} {Q : α → σ → Prop}

theorem obeys_of_forall {x : Program M α} {s : σ} (hG : ∀ s s', G s s') (hQ : ∀ a s, Q a s) : Obeys R G Q x s := by
  induction x generalizing s with
  | pure a => exact fun s' _ => hQ a s'
  | call op k ih => exact fun s' _ answer s'' _ => ⟨hG s' s'', ih answer⟩

theorem Obeys.executes {x : Program M α} {s s' : σ} {visited : List σ} {result : Option α} (h : Obeys R R.rel Q x s)
    (hx : Executes x s visited result s')
    : R.rel s s' ∧ ∀ a, result = some a → Q a s' := by
  induction hx with
  | pure a s =>
    refine ⟨R.refl s, ?_⟩
    rintro _ ⟨⟩
    exact h s (R.refl s)
  | call hanswer _ ih =>
    obtain ⟨hstep, hrest⟩ := h _ (R.refl _) _ _ hanswer
    obtain ⟨hrel, hresult⟩ := ih hrest
    exact ⟨R.trans hstep hrel, hresult⟩
  | crash x s => exact ⟨R.refl s, fun _ h => nomatch h⟩

end Program

namespace Pool

variable {σ ε α ι κ : Type} {M : Machine σ ε} {R : Rely σ} {Q : ι → κ → α → σ → Prop} {P : κ → Prop}
  {pool pool' : Pool ι κ M α}

/-- All threads move the object along `R`, as long as the others do. -/
def Obeying (R : Rely σ) (Q : ι → κ → α → σ → Prop) (pool : Pool ι κ M α) : Prop :=
  ∀ i thread, pool.threads i = some thread → Program.Obeys R R.rel (Q i thread.call) thread.rest pool.state

def Only (P : κ → Prop) (pool : Pool ι κ M α) : Prop :=
  ∀ i thread, pool.threads i = some thread → P thread.call

theorem only_idle (s : σ) : Only P (idle s : Pool ι κ M α) := by
  intro i thread hthread
  contradiction

theorem Obeying.mono {Q' : ι → κ → α → σ → Prop} (h : Obeying R Q pool) (hQ : ∀ i c a s, Q i c a s → Q' i c a s)
    : Obeying R Q' pool :=
  fun i thread hthread => (h i thread hthread).mono (hQ i thread.call)

variable [DecidableEq ι] {program : κ → Program M α}

theorem Obeying.step (h : Obeying R Q pool) (hstep : Step program pool pool')
    (hstart : ∀ i c, pool'.threads i = some ⟨c, program c, []⟩
      → Program.Obeys R R.rel (Q i c) (program c) pool.state)
    : Obeying R Q pool' ∧ R.rel pool.state pool'.state := by
  cases hstep with
  | @start i c hidle => exact ⟨forall_update_some h (hstart i c (Function.update_self ..)), R.refl _⟩
  | @call i c op k log answer s hcall hanswer =>
    obtain ⟨hown, hrest⟩ := h i _ hcall pool.state (R.refl _) answer s hanswer
    refine ⟨forall_update_some ?_ hrest, hown⟩
    intro j thread hthread
    exact (h j thread hthread).rely hown
  | stop => exact ⟨forall_update_none h, R.refl _⟩

variable (program)

abbrev OnlyReaches (P : κ → Prop) : Pool ι κ M α → Pool ι κ M α → Prop :=
  Relation.ReflTransGen fun pool pool' => Step program pool pool' ∧ Only P pool'

variable {program}

theorem Only.update (h : Only P pool) {c : κ} (hc : P c) (s : σ) (i : ι) (x : Program M α) (log : List (σ × σ))
    : Only P ⟨s, Function.update pool.threads i (some ⟨c, x, log⟩)⟩ :=
  forall_update_some h hc

theorem reaches_of_onlyReaches (h : OnlyReaches program P pool pool') : Reaches program pool pool' := by
  refine Relation.ReflTransGen.mono ?_ _ _ h
  intro pool pool' hstep
  exact hstep.1

theorem onlyReaches_start {c : κ} (hc : P c) (h : Only P pool) {i : ι} (hidle : pool.threads i = none)
    : ∃ log, OnlyReaches program P pool
        { state := ((program c).run pool.state).2
          threads := Function.update pool.threads i (some ⟨c, .pure ((program c).run pool.state).1, log⟩) } := by
  have hrun : ∀ (x : Program M α) (s : σ) (log : List (σ × σ)), ∃ log', OnlyReaches program P
      ⟨s, Function.update pool.threads i (some ⟨c, x, log⟩)⟩
      ⟨(x.run s).2, Function.update pool.threads i (some ⟨c, .pure (x.run s).1, log'⟩)⟩ := by
    intro x
    induction x with
    | pure a => exact fun s log => ⟨log, .refl⟩
    | call op k ih =>
      intro s log
      obtain ⟨log', hreaches⟩ := ih (M.exec op s).1 (M.exec op s).2 (log ++ [(s, (M.exec op s).2)])
      refine ⟨log', .head ⟨.call (Function.update_self ..) .exec, ?_⟩ ?_⟩
      . rw [Function.update_idem]
        exact h.update hc _ _ _ _
      . rw [Function.update_idem]
        exact hreaches
  obtain ⟨log, hreaches⟩ := hrun (program c) pool.state []
  exact ⟨log, .head ⟨.start c hidle, h.update hc _ _ _ _⟩ hreaches⟩

theorem onlyReaches_then {c : κ} (next : κ) (hc : P c) (s : σ) {i j : ι} (hne : j ≠ i)
    : ∃ (returned later : Pool ι κ M α) (log : List (σ × σ)), OnlyReaches program P (idle s) returned
        ∧ returned.threads i = some ⟨c, .pure ((program c).run s).1, log⟩ ∧ Reaches program returned later
        ∧ later.state = ((program next).run returned.state).2 := by
  have honly : Only P (idle s : Pool ι κ M α) := only_idle s
  obtain ⟨log, hrun⟩ := @onlyReaches_start _ _ _ _ _ _ _ _ _ program _ hc honly i rfl
  let threads : ι → Option (Thread κ M α) :=
    Function.update (fun _ => none) i (some ⟨c, .pure ((program c).run s).1, log⟩)
  have hreturned : threads i = some ⟨c, .pure ((program c).run s).1, log⟩ := Function.update_self ..
  have hidle : threads j = none := Function.update_of_ne hne ..
  obtain ⟨log', hlater⟩ := reaches_start program next ⟨((program c).run s).2, threads⟩ hidle
  exact ⟨_, _, log, hrun, hreturned, hlater, rfl⟩

theorem reaches_overtaken (n : Nat) (c other : κ) (s : σ) {i j : ι} (hne : j ≠ i)
    : ∃ (middle pool : Pool ι κ M α) (log : List (σ × σ)), Reaches program (idle s) middle
        ∧ middle.threads j = some ⟨other, .pure ((program other).run ((program c).advance n s).2).1, log⟩
        ∧ Reaches program middle pool
        ∧ pool.state = (((program c).advance n s).1.run ((program other).run ((program c).advance n s).2).2).2 := by
  obtain ⟨log, hadvance⟩ := reaches_advance program n c s i
  let waiting : ι → Option (Thread κ M α) :=
    Function.update (fun _ => none) i (some ⟨c, ((program c).advance n s).1, log⟩)
  have hidle : waiting j = none := Function.update_of_ne hne ..
  obtain ⟨log', hother⟩ := reaches_start program other ⟨((program c).advance n s).2, waiting⟩ hidle
  have hmiddle := hadvance.trans hother
  dsimp only [waiting] at hmiddle
  rw [Function.update_comm hne.symm] at hmiddle
  obtain ⟨log'', hrest⟩ := reaches_run program c ((program c).advance n s).1
    ((program other).run ((program c).advance n s).2).2
    (Function.update (fun _ => none) j
      (some ⟨other, .pure ((program other).run ((program c).advance n s).2).1, log'⟩)) i log
  refine ⟨_, _, log', hmiddle, ?_, hrest, rfl⟩
  dsimp only
  rw [Function.update_of_ne hne, Function.update_self]

end Pool
