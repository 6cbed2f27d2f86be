import MeshMine.Concurrency.Crash
import MeshMine.Concurrency.Pool

/-!
Pools in which a call starts only beside calls that it is apart from. Each call has its own rely and its own
guarantee: what a call does to the object is within the rely of every call that may run beside it.

`Pool.Contract.traces` turns such an agreement into a path of guaranteed steps for every run of the pool.
-/

/-- Nobody else moves the state. -/
def Rely.still (σ : Type) : Rely σ where
  rel s s' := s' = s
  refl _ := rfl
  trans h h' := h'.trans h

namespace Program

variable {σ ε α β : Type} {M : Machine σ ε} {R : Rely σ} {G : σ → σ → Prop} {Q : α → σ → Prop} {x : Program M α}
  {s : σ}

/-- The others may move the state along `R`; the program's own calls move it along `G`. -/
def Obeys (R : Rely σ) (G : σ → σ → Prop) (Q : α → σ → Prop) : Program M α → σ → Prop
  | .pure a, s => ∀ s', R.rel s s' → Q a s'
  | .call op k, s =>
    ∀ s', R.rel s s' → ∀ answer s'', M.Answers op s' answer s'' → G s' s'' ∧ Obeys R G Q (k answer) s''

theorem Obeys.rely {s' : σ} (h : Obeys R G Q x s) (hs : R.rel s s')
    : Obeys R G Q x s' := by
  cases x with
  | pure _ | call _ _ =>
    intro s'' hs'
    exact h s'' (R.trans hs hs')

theorem Follows.obeys {P : α → List (σ × σ) → σ → Prop} {log : List (σ × σ)}
    (h : Follows R G P x log s) (hQ : ∀ a log s, P a log s → Q a s)
    : Obeys R G Q x s := by
  induction x generalizing s log with
  | pure a =>
    intro s' hs
    exact hQ a log s' (h s' hs)
  | call op k ih =>
    intro s' hs answer s'' hanswer
    obtain ⟨hstep, hrest⟩ := h s' hs answer s'' hanswer
    exact ⟨hstep, ih answer hrest⟩

theorem Obeys.safe {log : List (σ × σ)} (h : Obeys R R.rel Q x s)
    : Safe R (fun a _ s' => Q a s') x log s := by
  induction x generalizing s log with
  | pure a => exact h
  | call op k ih =>
    intro s' hs answer s'' hanswer
    obtain ⟨hstep, hrest⟩ := h s' hs answer s'' hanswer
    exact ⟨hstep, ih answer hrest⟩

theorem Obeys.always (h : Obeys (.still σ) G Q x s)
    : Always G Q x s := by
  induction x generalizing s with
  | pure a => exact h s rfl
  | call op k ih =>
    intro answer s' hanswer
    obtain ⟨hstep, hrest⟩ := h s rfl answer s' hanswer
    exact ⟨hstep, ih answer hrest⟩

theorem Obeys.stable (h : Obeys R G Q x s)
    : Obeys R G (fun a s => ∀ s', R.rel s s' → Q a s') x s := by
  induction x generalizing s with
  | pure a =>
    intro s' hs s'' hs'
    exact h s'' (R.trans hs hs')
  | call op k ih =>
    intro s' hs answer s'' hanswer
    obtain ⟨hstep, hrest⟩ := h s' hs answer s'' hanswer
    exact ⟨hstep, ih answer hrest⟩

theorem Obeys.imp {R' : Rely σ} {G' : σ → σ → Prop} {Q' : α → σ → Prop} (h : Obeys R G Q x s)
    (hR : ∀ s s', R'.rel s s' → R.rel s s') (hG : ∀ s s', G s s' → G' s s') (hQ : ∀ a s, Q a s → Q' a s)
    : Obeys R' G' Q' x s := by
  induction x generalizing s with
  | pure a =>
    intro s' hs
    exact hQ a s' (h s' (hR s s' hs))
  | call op k ih =>
    intro s' hs answer s'' hanswer
    obtain ⟨hstep, hrest⟩ := h s' (hR s s' hs) answer s'' hanswer
    exact ⟨hG s' s'' hstep, ih answer hrest⟩

theorem Obeys.mono {Q' : α → σ → Prop} (h : Obeys R G Q x s) (hQ : ∀ a s, Q a s → Q' a s)
    : Obeys R G Q' x s :=
  h.imp (fun _ _ h => h) (fun _ _ h => h) hQ

theorem Obeys.bind {Q' : β → σ → Prop} {x : Program M α} {f : α → Program M β} {s : σ}
    (h : Obeys R G (fun a s => Obeys R G Q' (f a) s) x s)
    : Obeys R G Q' (x >>= f) s := by
  induction x generalizing s with
  | pure a => exact h s (R.refl s)
  | call op k ih =>
    intro s' hs answer s'' hanswer
    obtain ⟨hstep, hrest⟩ := h s' hs answer s'' hanswer
    exact ⟨hstep, ih answer hrest⟩

theorem Obeys.keep {G' : σ → σ → Prop} {K : σ → Prop} (h : Obeys R G Q x s)
    (hR : ∀ s s', R.rel s s' → K s → K s') (hG : ∀ s s', K s → G s s' → K s' ∧ G' s s') (hK : K s)
    : Obeys R G' (fun a s' => Q a s' ∧ K s') x s := by
  induction x generalizing s with
  | pure a =>
    intro s' hs
    exact ⟨h s' hs, hR s s' hs hK⟩
  | call op k ih =>
    intro s' hs answer s'' hanswer
    obtain ⟨hstep, hrest⟩ := h s' hs answer s'' hanswer
    obtain ⟨hK, hstep⟩ := hG s' s'' (hR s s' hs hK) hstep
    exact ⟨hstep, ih answer hrest hK⟩

end Program

namespace Pool

variable {σ ε α ι κ : Type} {M : Machine σ ε}

section

variable [DecidableEq ι] (program : κ → Program M α) (Apart : κ → κ → Prop)

inductive GuardedStep : Pool ι κ M α → Pool ι κ M α → Prop where
  | start {pool : Pool ι κ M α} {i : ι} (c : κ) (hidle : pool.threads i = none)
      (hapart : ∀ j thread, pool.threads j = some thread → Apart thread.call c)
      : GuardedStep pool
          { pool with threads := Function.update pool.threads i (some ⟨c, program c, []⟩) }
  | call {pool : Pool ι κ M α} {i : ι} {c : κ} {op : M.Op}
      {k : Except ε (M.Res op) → Program M α} {log : List (σ × σ)} {answer : Except ε (M.Res op)} {s : σ}
      (hthread : pool.threads i = some ⟨c, .call op k, log⟩)
      (hanswer : M.Answers op pool.state answer s)
      : GuardedStep pool
          { state := s
            threads := Function.update pool.threads i
              (some ⟨c, k answer, log ++ [(pool.state, s)]⟩) }
  | stop {pool : Pool ι κ M α} {i : ι}
      : GuardedStep pool { pool with threads := Function.update pool.threads i none }

abbrev GuardedReaches : Pool ι κ M α → Pool ι κ M α → Prop :=
  Relation.ReflTransGen (GuardedStep program Apart)

theorem guardedReaches_run (c : κ) (x : Program M α) (s : σ) (threads : ι → Option (Thread κ M α))
    (i : ι) (log : List (σ × σ))
    : GuardedReaches program Apart ⟨s, Function.update threads i (some ⟨c, x, log⟩)⟩
        ⟨(x.run s).2, Function.update threads i none⟩ := by
  induction x generalizing s log with
  | pure a =>
    apply Relation.ReflTransGen.single
    have hstop : GuardedStep program Apart ⟨s, Function.update threads i (some ⟨c, .pure a, log⟩)⟩ _ :=
      .stop (i := i)
    rw [Function.update_idem] at hstop
    exact hstop
  | call op k ih =>
    refine .head (.call (Function.update_self ..) .exec) ?_
    rw [Function.update_idem]
    exact ih _ _ _

theorem guardedReaches_advance (n : Nat) (c : κ) (x : Program M α) (s : σ)
    (threads : ι → Option (Thread κ M α)) (i : ι) (log : List (σ × σ))
    : ∃ log', GuardedReaches program Apart ⟨s, Function.update threads i (some ⟨c, x, log⟩)⟩
        ⟨(x.advance n s).2, Function.update threads i (some ⟨c, (x.advance n s).1, log'⟩)⟩ := by
  induction n generalizing x s log with
  | zero => exact ⟨log, .refl⟩
  | succ n ih =>
    cases x with
    | pure a => exact ⟨log, .refl⟩
    | call op k =>
      obtain ⟨log', hreaches⟩ := ih (k (M.exec op s).1) (M.exec op s).2 (log ++ [(s, (M.exec op s).2)])
      refine ⟨log', .head (.call (Function.update_self ..) .exec) ?_⟩
      rw [Function.update_idem]
      exact hreaches

theorem guardedStep_of_step {pool pool' : Pool ι κ M α} (hApart : ∀ c c', Apart c c') (h : Step program pool pool')
    : GuardedStep program Apart pool pool' := by
  cases h with
  | start c hidle => exact .start c hidle fun _ _ _ => hApart _ _
  | call hthread hanswer => exact .call hthread hanswer
  | stop => exact .stop

theorem guardedReaches_of_reaches {pool pool' : Pool ι κ M α} (hApart : ∀ c c', Apart c c')
    (h : Reaches program pool pool')
    : GuardedReaches program Apart pool pool' := by
  refine Relation.ReflTransGen.mono ?_ _ _ h
  intro pool pool' hstep
  exact guardedStep_of_step program Apart hApart hstep

theorem reaches_of_guardedReaches {pool pool' : Pool ι κ M α} (h : GuardedReaches program Apart pool pool')
    : Reaches program pool pool' := by
  refine Relation.ReflTransGen.mono ?_ _ _ h
  intro pool pool' hstep
  cases hstep with
  | start c hidle _ => exact .start c hidle
  | call hthread hanswer => exact .call hthread hanswer
  | stop => exact .stop

theorem guardedReaches_after (i : ι) (calls : List κ) (s : σ)
    : GuardedReaches program Apart (idle s : Pool ι κ M α) (idle (after program calls s)) := by
  induction calls generalizing s with
  | nil => exact .refl
  | cons c calls ih =>
    apply Relation.ReflTransGen.trans _ (ih _)
    refine .head (.start (i := i) c rfl ?_) ?_
    . intro j thread hthread
      contradiction
    . have hrun := guardedReaches_run program Apart c (program c) s (fun _ : ι => none) i []
      rw [Function.update_eq_self i (fun _ : ι => (none : Option (Thread κ M α)))] at hrun
      exact hrun

theorem reaches_advance (n : Nat) (c : κ) (s : σ) (i : ι)
    : ∃ log, Reaches program (idle s : Pool ι κ M α) ⟨((program c).advance n s).2,
        Function.update (fun _ => none) i (some ⟨c, ((program c).advance n s).1, log⟩)⟩ := by
  obtain ⟨log, hadvance⟩ := guardedReaches_advance program (fun _ _ => True) n c (program c) s (fun _ => none) i []
  exact ⟨log, .head (.start c rfl) (reaches_of_guardedReaches program _ hadvance)⟩

def resumed (n : Nat) (c : κ) (s state : σ) : σ :=
  (((program c).advance n s).1.run state).2

theorem reaches_between (n : Nat) (c : κ) (calls later : List κ) (s : σ) {i j : ι} (hne : j ≠ i)
    : ∃ earlier pool : Pool ι κ M α, Reaches program (idle s) earlier ∧ Reaches program earlier pool
        ∧ earlier.state = after program calls ((program c).advance n s).2
        ∧ pool.state = resumed program n c s (after program later earlier.state) := by
  obtain ⟨log, hadvance⟩ := reaches_advance program n c s i
  let waiting : ι → Option (Thread κ M α) :=
    Function.update (fun _ => none) i (some ⟨c, ((program c).advance n s).1, log⟩)
  have hidle : waiting j = none := Function.update_of_ne hne ..
  have hfirst := reaches_calls program calls ⟨((program c).advance n s).2, waiting⟩ hidle
  have hlater := reaches_calls program later
    ⟨after program calls ((program c).advance n s).2, waiting⟩ hidle
  obtain ⟨log', hrest⟩ := reaches_run program c ((program c).advance n s).1 _ (fun _ => none) i log
  exact ⟨_, _, hadvance.trans hfirst, hlater.trans hrest, rfl, rfl⟩

theorem guardedReaches_beside (n : Nat) {c c' : κ} (hapart : Apart c c') (s : σ) {i j : ι} (hne : j ≠ i)
    : ∃ earlier pool : Pool ι κ M α, GuardedReaches program Apart (idle s) earlier
        ∧ GuardedReaches program Apart earlier pool
        ∧ earlier.state = ((program c').run ((program c).advance n s).2).2
        ∧ pool.state = resumed program n c s earlier.state := by
  have hstart : GuardedStep program Apart (idle s : Pool ι κ M α) _ :=
    .start (i := i) c rfl fun _ _ hthread => nomatch hthread
  obtain ⟨log, hadvance⟩ := guardedReaches_advance program Apart n c (program c) s (fun _ => none) i []
  let waiting : ι → Option (Thread κ M α) :=
    Function.update (fun _ => none) i (some ⟨c, ((program c).advance n s).1, log⟩)
  have hidle : waiting j = none := Function.update_of_ne hne ..
  have hbeside : GuardedStep program Apart ⟨((program c).advance n s).2, waiting⟩ _ :=
    .start c' hidle (forall_update_some (Φ := fun _ thread => Apart thread.call c') (by simp) hapart)
  have hother := (guardedReaches_run program Apart c' (program c') _ waiting j []).head hbeside
  rw [← hidle, Function.update_eq_self] at hother
  exact ⟨_, _, (hadvance.head hstart).trans hother,
    guardedReaches_run program Apart c ((program c).advance n s).1 _ _ i log, rfl, rfl⟩

end

structure Contract (R : κ → Rely σ) (G : κ → σ → σ → Prop) (program : κ → Program M α)
    (Apart : κ → κ → Prop) : Prop where
  symm : ∀ c c', Apart c c' → Apart c' c
  respected : ∀ c c' s s', Apart c c' → G c s s' → (R c').rel s s'
  obeyed : ∀ c s, Program.Obeys (R c) (G c) (fun _ _ => True) (program c) s

theorem Contract.comap {κ' : Type} {R : κ → Rely σ} {G : κ → σ → σ → Prop} {program : κ → Program M α}
    {Apart : κ → κ → Prop} (h : Contract R G program Apart) (f : κ' → κ)
    : Contract (fun c => R (f c)) (fun c => G (f c)) (fun c => program (f c))
        fun c c' => Apart (f c) (f c') where
  symm c c' := h.symm (f c) (f c')
  respected c c' := h.respected (f c) (f c')
  obeyed c := h.obeyed (f c)

structure Separate (R : κ → Rely σ) (G : κ → σ → σ → Prop) (Apart : κ → κ → Prop)
    (pool : Pool ι κ M α) : Prop where
  apart : ∀ i j thread thread', i ≠ j → pool.threads i = some thread → pool.threads j = some thread'
    → Apart thread.call thread'.call
  obeys : ∀ i thread, pool.threads i = some thread
    → Program.Obeys (R thread.call) (G thread.call) (fun _ _ => True) thread.rest pool.state

variable {R : κ → Rely σ} {G : κ → σ → σ → Prop} {program : κ → Program M α} {Apart : κ → κ → Prop}

theorem separate_idle (s : σ) : Separate R G Apart (idle s : Pool ι κ M α) where
  apart := by
    intro i j thread thread' _ hthread
    contradiction
  obeys := by
    intro i thread hthread
    contradiction

variable [DecidableEq ι] {pool pool' : Pool ι κ M α}

theorem Separate.update {i : ι} {new : Option (Thread κ M α)} {s : σ}
    (h : Separate R G Apart pool) (hsymm : ∀ c c', Apart c c' → Apart c' c)
    (hothers : ∀ j thread, j ≠ i → pool.threads j = some thread → (R thread.call).rel pool.state s)
    (hapart : ∀ thread, new = some thread
      → ∀ j other, j ≠ i → pool.threads j = some other → Apart other.call thread.call)
    (hobeys : ∀ thread, new = some thread
      → Program.Obeys (R thread.call) (G thread.call) (fun _ _ => True) thread.rest s)
    : Separate R G Apart ⟨s, Function.update pool.threads i new⟩ where
  apart := by
    intro j k thread thread' hne hthread hthread'
    rcases update_eq_some hthread with ⟨rfl, hnew⟩ | ⟨hj, hold⟩
    . rcases update_eq_some hthread' with ⟨rfl, _⟩ | ⟨hk, hold'⟩
      . exact absurd rfl hne
      . exact hsymm _ _ (hapart thread hnew k thread' hk hold')
    . rcases update_eq_some hthread' with ⟨rfl, hnew'⟩ | ⟨_, hold'⟩
      . exact hapart thread' hnew' j thread hj hold
      . exact h.apart j k thread thread' hne hold hold'
  obeys := by
    intro j thread hthread
    rcases update_eq_some hthread with ⟨_, hnew⟩ | ⟨hj, hold⟩
    . exact hobeys thread hnew
    . exact (h.obeys j thread hold).rely (hothers j thread hj hold)

section

variable (hC : Contract R G program Apart) (h : Separate R G Apart pool)

include hC h

theorem Contract.step (hstep : GuardedStep program Apart pool pool')
    : Separate R G Apart pool' ∧ (pool'.state = pool.state ∨ ∃ c, G c pool.state pool'.state) := by
  cases hstep with
  | @start i c hidle hapart =>
    refine ⟨h.update hC.symm (fun _ thread _ _ => (R thread.call).refl _) ?_ ?_, .inl rfl⟩
    . intro thread hthread j other _ hother
      injection hthread with hthread
      rw [← hthread]
      exact hapart j other hother
    . intro thread hthread
      injection hthread with hthread
      rw [← hthread]
      exact hC.obeyed c pool.state
  | @call i c op k log answer s hcall hanswer =>
    obtain ⟨hown, hrest⟩ := h.obeys i _ hcall pool.state ((R c).refl _) answer s hanswer
    refine ⟨h.update hC.symm ?_ ?_ ?_, .inr ⟨c, hown⟩⟩
    . intro j thread hj hthread
      exact hC.respected c thread.call _ _ (h.apart i j _ thread (Ne.symm hj) hcall hthread) hown
    . intro thread hthread j other hj hother
      have hapart : Apart other.call c := h.apart j i other _ hj hother hcall
      injection hthread with hthread
      rw [← hthread]
      exact hapart
    . intro thread hthread
      injection hthread with hthread
      rw [← hthread]
      exact hrest
  | stop =>
    refine ⟨h.update hC.symm (fun _ thread _ _ => (R thread.call).refl _) ?_ ?_, .inl rfl⟩
    . intro thread hthread
      contradiction
    . intro thread hthread
      contradiction

theorem Contract.separate (hreaches : GuardedReaches program Apart pool pool')
    : Separate R G Apart pool' := by
  induction hreaches with
  | refl => exact h
  | tail _ hstep ih => exact (hC.step ih hstep).1

theorem Contract.traces (hreaches : GuardedReaches program Apart pool pool')
    : Relation.ReflTransGen (fun s s' => ∃ c, G c s s') pool.state pool'.state := by
  induction hreaches with
  | refl => exact .refl
  | tail hprefix hstep ih =>
    rcases (hC.step (hC.separate h hprefix) hstep).2 with hsame | hmoved
    . rw [hsame]
      exact ih
    . exact ih.tail hmoved

end

def Logged (T : κ → σ → σ → Prop) (pool : Pool ι κ M α) : Prop :=
  ∀ i thread, pool.threads i = some thread → ∀ transition ∈ thread.log, T thread.call transition.1 transition.2

omit [DecidableEq ι] in
theorem logged_idle {T : κ → σ → σ → Prop} (s : σ) : Logged T (idle s : Pool ι κ M α) := by
  intro i thread hthread
  contradiction

theorem Contract.logged {T : κ → σ → σ → Prop} (hC : Contract R G program Apart)
    (h : Separate R G Apart pool) (hlogged : Logged T pool)
    (hreaches : GuardedReaches program Apart pool pool')
    (hT : ∀ mid, GuardedReaches program Apart pool mid → ∀ c s, G c mid.state s → T c mid.state s)
    : Logged T pool' := by
  induction hreaches with
  | refl => exact hlogged
  | @tail mid pool' hprefix hstep ih =>
    cases hstep with
    | start c hidle hapart => exact forall_update_some ih (by simp)
    | @call i c op k log answer s hcall hanswer =>
      apply forall_update_some ih
      intro transition hmem
      rw [List.mem_append, List.mem_singleton] at hmem
      rcases hmem with hmem | rfl
      . exact ih i _ hcall transition hmem
      . have hobeys := (hC.separate h hprefix).obeys i _ hcall
        exact hT mid hprefix c s (hobeys mid.state ((R c).refl _) answer s hanswer).1
    | stop => exact forall_update_none ih

end Pool
