import MeshMine.Concurrency.Program
import Mathlib.Logic.Function.Basic

/-!
A pool of threads that make calls on one shared object, in any interleaving. A call is a program; an
idle thread may start any call, and a thread may stop at any point, which covers a crash between two
operations.

The rule `Pool.Inv.reaches` turns the proof that every call is safe under a rely relation into what
each thread of every reachable pool has done.
-/

structure Thread {σ ε : Type} (κ : Type) (M : Machine σ ε) (α : Type) where
  call : κ
  rest : Program M α
  log : List (σ × σ)

structure Pool {σ ε : Type} (ι κ : Type) (M : Machine σ ε) (α : Type) where
  state : σ
  threads : ι → Option (Thread κ M α)

namespace Pool

variable {σ ε α ι κ : Type} {M : Machine σ ε}

def idle (s : σ) : Pool ι κ M α where
  state := s
  threads _ := none

@[simp] theorem idle_state (s : σ) : (idle s : Pool ι κ M α).state = s := rfl

variable {j : ι}

section

variable [DecidableEq ι] (program : κ → Program M α)

inductive Step : Pool ι κ M α → Pool ι κ M α → Prop where
  | start {pool : Pool ι κ M α} {i : ι} (c : κ) (hidle : pool.threads i = none)
      : Step pool { pool with threads := Function.update pool.threads i (some ⟨c, program c, []⟩) }
  | call {pool : Pool ι κ M α} {i : ι} {c : κ} {op : M.Op}
      {k : Except ε (M.Res op) → Program M α} {log : List (σ × σ)} {answer : Except ε (M.Res op)} {s : σ}
      (hthread : pool.threads i = some ⟨c, .call op k, log⟩)
      (hanswer : M.Answers op pool.state answer s)
      : Step pool
          { state := s
            threads := Function.update pool.threads i
              (some ⟨c, k answer, log ++ [(pool.state, s)]⟩) }
  | stop {pool : Pool ι κ M α} {i : ι}
      : Step pool { pool with threads := Function.update pool.threads i none }

abbrev Reaches : Pool ι κ M α → Pool ι κ M α → Prop :=
  Relation.ReflTransGen (Step program)

theorem reaches_run (c : κ) (x : Program M α) (s : σ) (threads : ι → Option (Thread κ M α)) (i : ι) (log : List (σ × σ))
    : ∃ log', Reaches program ⟨s, Function.update threads i (some ⟨c, x, log⟩)⟩
        ⟨(x.run s).2, Function.update threads i (some ⟨c, .pure (x.run s).1, log'⟩)⟩ := by
  induction x generalizing s log with
  | pure a => exact ⟨log, .refl⟩
  | call op k ih =>
    obtain ⟨log', hreaches⟩ := ih (M.exec op s).1 (M.exec op s).2 (log ++ [(s, (M.exec op s).2)])
    refine ⟨log', .head (.call (Function.update_self ..) .exec) ?_⟩
    rw [Function.update_idem]
    exact hreaches

variable {i : ι}

theorem reaches_start (c : κ) (pool : Pool ι κ M α) (hidle : pool.threads i = none)
    : ∃ log, Reaches program pool
        { state := ((program c).run pool.state).2
          threads := Function.update pool.threads i
            (some ⟨c, .pure ((program c).run pool.state).1, log⟩) } := by
  obtain ⟨log, hreaches⟩ := reaches_run program c (program c) pool.state pool.threads i []
  exact ⟨log, .head (.start c hidle) hreaches⟩

theorem reaches_call (c : κ) (pool : Pool ι κ M α) (hidle : pool.threads i = none)
    : Reaches program pool { pool with state := ((program c).run pool.state).2 } := by
  obtain ⟨log, hreaches⟩ := reaches_start program c pool hidle
  have hstop := hreaches.tail (.stop (i := i))
  dsimp only at hstop
  rw [Function.update_idem, ← hidle, Function.update_eq_self] at hstop
  exact hstop

def after (calls : List κ) (s : σ) : σ :=
  calls.foldl (fun s c => ((program c).run s).2) s

theorem after_nil (s : σ) : after program [] s = s := rfl

theorem reaches_calls (calls : List κ) (pool : Pool ι κ M α) (hidle : pool.threads i = none)
    : Reaches program pool { pool with state := after program calls pool.state } := by
  induction calls generalizing pool with
  | nil => exact .refl
  | cons c calls ih => exact (reaches_call program c pool hidle).trans (ih _ hidle)

theorem reaches_after (i : ι) (calls : List κ) (s : σ)
    : Reaches program (idle s : Pool ι κ M α) (idle (after program calls s)) :=
  reaches_calls program calls (idle s) (i := i) rfl

end

structure Guarantee (R : Rely σ) (I : σ → Prop) (program : κ → Program M α)
    (Q : κ → α → List (σ × σ) → σ → Prop) : Prop where
  preserved : ∀ {s s'}, R.rel s s' → I s → I s'
  safe : ∀ c {s}, I s → Program.Safe R (Q c) (program c) [] s

structure Inv (R : Rely σ) (I : σ → Prop) (Q : κ → α → List (σ × σ) → σ → Prop)
    (s : σ) (pool : Pool ι κ M α) : Prop where
  reached : R.rel s pool.state
  state : I pool.state
  safe : ∀ i thread, pool.threads i = some thread
    → Program.Safe R (Q thread.call) thread.rest thread.log pool.state

variable {R : Rely σ} {I : σ → Prop} {program : κ → Program M α}
  {Q : κ → α → List (σ × σ) → σ → Prop} {s : σ}

theorem inv_idle (hs : I s) : Inv R I Q s (idle s : Pool ι κ M α) := by
  refine ⟨R.refl s, hs, ?_⟩
  intro i thread hthread
  contradiction

variable {pool : Pool ι κ M α}

theorem Inv.returned (hinv : Inv R I Q s pool) {i : ι} {c : κ} {a : α} {log : List (σ × σ)}
    (h : pool.threads i = some ⟨c, .pure a, log⟩)
    : Q c a log pool.state := by
  exact hinv.safe i _ h pool.state (R.refl _)

variable [DecidableEq ι]

theorem update_eq_some {threads : ι → Option (Thread κ M α)} {i : ι} {new : Option (Thread κ M α)}
    {thread : Thread κ M α} (h : Function.update threads i new j = some thread)
    : (j = i ∧ new = some thread) ∨ (j ≠ i ∧ threads j = some thread) := by
  by_cases hj : j = i
  . subst hj
    rw [Function.update_self] at h
    exact .inl ⟨rfl, h⟩
  . rw [Function.update_of_ne hj] at h
    exact .inr ⟨hj, h⟩

section

variable {Φ : ι → Thread κ M α → Prop} {threads : ι → Option (Thread κ M α)} {i : ι}

theorem forall_update_some {new : Thread κ M α} (hold : ∀ j thread, threads j = some thread → Φ j thread)
    (hnew : Φ i new)
    : ∀ j thread, Function.update threads i (some new) j = some thread → Φ j thread := by
  intro j thread h
  rcases update_eq_some h with ⟨rfl, heq⟩ | ⟨_, hother⟩
  . injection heq with heq
    rwa [← heq]
  . exact hold j thread hother

theorem forall_update_none (hold : ∀ j thread, threads j = some thread → Φ j thread)
    : ∀ j thread, Function.update threads i none j = some thread → Φ j thread := by
  intro j thread h
  rcases update_eq_some h with ⟨_, h⟩ | ⟨_, h⟩
  . contradiction
  . exact hold j thread h

end

variable {pool' : Pool ι κ M α}

theorem Inv.step (hG : Guarantee R I program Q) (hinv : Inv R I Q s pool) (hstep : Step program pool pool')
    : Inv R I Q s pool' := by
  cases hstep with
  | start c hidle => exact ⟨hinv.reached, hinv.state, forall_update_some hinv.safe (hG.safe c hinv.state)⟩
  | @call i c op k log answer s' hcall hanswer =>
    have hsafe := hinv.safe i _ hcall
    obtain ⟨hrel, hnext⟩ := hsafe pool.state (R.refl _) answer s' hanswer
    refine ⟨R.trans hinv.reached hrel, hG.preserved hrel hinv.state, forall_update_some ?_ hnext⟩
    intro j thread hthread
    exact (hinv.safe j thread hthread).rely hrel
  | stop => exact ⟨hinv.reached, hinv.state, forall_update_none hinv.safe⟩

theorem Inv.reaches (hG : Guarantee R I program Q) (hinv : Inv R I Q s pool) (h : Reaches program pool pool')
    : Inv R I Q s pool' := by
  induction h with
  | refl => exact hinv
  | tail _ hstep ih => exact ih.step hG hstep

end Pool
