import MeshMine.Concurrency.Guarded

/-!
A run of a pool as the list of its transitions. `Program.Leaves` specifies a program by the transitions that it
logs, whatever the others do in between; `Pool.Trace.returned` says that each thread's log is a part of the run.
-/

namespace Program

variable {σ ε α β : Type} {M : Machine σ ε} {T : σ → σ → Prop} {Q : α → List (σ × σ) → Prop}

/-- Every call makes a transition of `T`, and a result is returned with a log that satisfies `Q`. -/
def Leaves (T : σ → σ → Prop) (Q : α → List (σ × σ) → Prop) : Program M α → List (σ × σ) → Prop
  | .pure a, log => Q a log
  | .call op k, log =>
    ∀ s answer s', M.Answers op s answer s' → T s s' ∧ Leaves T Q (k answer) (log ++ [(s, s')])

theorem Leaves.mono {Q' : α → List (σ × σ) → Prop} {x : Program M α} {log : List (σ × σ)}
    (h : Leaves T Q x log) (hQ : ∀ a log, Q a log → Q' a log)
    : Leaves T Q' x log := by
  induction x generalizing log with
  | pure a => exact hQ a log h
  | call op k ih =>
    intro s answer s' hanswer
    obtain ⟨hstep, hrest⟩ := h s answer s' hanswer
    exact ⟨hstep, ih answer hrest⟩

theorem Leaves.bind {Q' : β → List (σ × σ) → Prop} {x : Program M α} {f : α → Program M β}
    {log : List (σ × σ)} (h : Leaves T (fun a log => Leaves T Q' (f a) log) x log)
    : Leaves T Q' (x >>= f) log := by
  induction x generalizing log with
  | pure a => exact h
  | call op k ih =>
    intro s answer s' hanswer
    obtain ⟨hstep, hrest⟩ := h s answer s' hanswer
    exact ⟨hstep, ih answer hrest⟩

end Program

namespace Pool

variable {σ ε α ι κ : Type} {M : Machine σ ε} [DecidableEq ι]

/-- The states before and after each step of a run. -/
inductive Trace (program : κ → Program M α) (pool : Pool ι κ M α)
    : List (σ × σ) → Pool ι κ M α → Prop where
  | refl : Trace program pool [] pool
  | step {steps : List (σ × σ)} {mid pool' : Pool ι κ M α} (h : Trace program pool steps mid)
      (hstep : Step program mid pool') : Trace program pool (steps ++ [(mid.state, pool'.state)]) pool'

variable {program : κ → Program M α} {pool mid pool' : Pool ι κ M α} {steps : List (σ × σ)} {s : σ}

theorem exists_trace (h : Reaches program pool pool') : ∃ steps, Trace program pool steps pool' := by
  induction h with
  | refl => exact ⟨[], .refl⟩
  | tail _ hstep ih =>
    obtain ⟨steps, hsteps⟩ := ih
    exact ⟨_, .step hsteps hstep⟩

theorem Trace.trans {steps' : List (σ × σ)} (h : Trace program pool steps mid) (h' : Trace program mid steps' pool')
    : Trace program pool (steps ++ steps') pool' := by
  induction h' with
  | refl =>
    rw [List.append_nil]
    exact h
  | step _ hstep ih =>
    rw [← List.append_assoc]
    exact .step ih hstep

section

variable {R : κ → Rely σ} {G : κ → σ → σ → Prop} {Apart : κ → κ → Prop} {I : List (σ × σ) → σ → Prop}

theorem Contract.trace (hC : Contract R G program Apart) (hApart : ∀ c c', Apart c c')
    (h : Separate R G Apart pool) (htrace : Trace program pool steps pool') (hinit : I [] pool.state)
    (hstep : ∀ steps s s', I steps s → (s' = s ∨ ∃ c, G c s s') → I (steps ++ [(s, s')]) s')
    : I steps pool'.state := by
  suffices Separate R G Apart pool' ∧ I steps pool'.state from this.2
  induction htrace with
  | refl => exact ⟨h, hinit⟩
  | @step steps mid pool' _ hnext ih =>
    obtain ⟨hseparate, hI⟩ := ih
    obtain ⟨hseparate', hstate⟩ := hC.step hseparate (guardedStep_of_step program Apart hApart hnext)
    exact ⟨hseparate', hstep steps _ _ hI hstate⟩

end

variable {T : κ → σ → σ → Prop} {Q : κ → α → List (σ × σ) → Prop}

structure Leaving (T : κ → σ → σ → Prop) (Q : κ → α → List (σ × σ) → Prop) (steps : List (σ × σ))
    (thread : Thread κ M α) : Prop where
  leaves : Program.Leaves (T thread.call) (Q thread.call) thread.rest thread.log
  logged : ∀ transition ∈ thread.log, transition ∈ steps

theorem Leaving.append {thread : Thread κ M α} (h : Leaving T Q steps thread) (transition : σ × σ)
    : Leaving T Q (steps ++ [transition]) thread where
  leaves := h.leaves
  logged other hother := List.mem_append_left _ (h.logged other hother)

section

variable (hprogram : ∀ c, Program.Leaves (T c) (Q c) (program c) [])

include hprogram

theorem Leaving.step (h : ∀ i thread, pool.threads i = some thread → Leaving T Q steps thread)
    (hstep : Step program pool pool')
    : (∀ i thread, pool'.threads i = some thread
        → Leaving T Q (steps ++ [(pool.state, pool'.state)]) thread)
      ∧ (pool'.state = pool.state ∨ ∃ c, T c pool.state pool'.state) := by
  have happend : ∀ transition i thread, pool.threads i = some thread → Leaving T Q (steps ++ [transition]) thread :=
    fun transition i thread hthread => (h i thread hthread).append transition
  cases hstep with
  | start c hidle => exact ⟨forall_update_some (happend _) ⟨hprogram c, by simp⟩, .inl rfl⟩
  | @call i c op k log answer s hcall hanswer =>
    have hown := h i _ hcall
    obtain ⟨hT, hrest⟩ := hown.leaves pool.state answer s hanswer
    refine ⟨forall_update_some (happend _) ⟨hrest, ?_⟩, .inr ⟨c, hT⟩⟩
    intro transition hmem
    rw [List.mem_append] at hmem ⊢
    exact hmem.imp_left (hown.logged transition)
  | stop => exact ⟨forall_update_none (happend _), .inl rfl⟩

theorem Trace.leaving (h : Trace program (idle s) steps pool)
    : ∀ i thread, pool.threads i = some thread → Leaving T Q steps thread := by
  induction h with
  | refl =>
    intro i thread hthread
    contradiction
  | step _ hstep ih => exact (Leaving.step hprogram ih hstep).1

theorem Trace.returned (h : Trace program (idle s) steps pool) {i : ι} {c : κ} {a : α} {log : List (σ × σ)}
    (hthread : pool.threads i = some ⟨c, .pure a, log⟩)
    : Q c a log ∧ ∀ transition ∈ log, transition ∈ steps :=
  ⟨(h.leaving hprogram i _ hthread).leaves, (h.leaving hprogram i _ hthread).logged⟩

end

theorem Trace.invariant {I : List (σ × σ) → σ → Prop}
    (hprogram : ∀ c, Program.Leaves (T c) (fun _ _ => True) (program c) [])
    (h : Trace program (idle s) steps pool) (hinit : I [] s)
    (hI : ∀ steps s s', I steps s → (s' = s ∨ ∃ c, T c s s') → I (steps ++ [(s, s')]) s')
    : I steps pool.state := by
  induction h with
  | refl => exact hinit
  | @step steps mid pool' h hstep ih =>
    exact hI steps _ _ ih (Leaving.step hprogram (h.leaving hprogram) hstep).2

end Pool
