import MeshMine.Concurrency.Program
import Mathlib.Data.List.Chain

/-!
Programs that run undisturbed, one after the other, and may crash between any two calls. `Executes` is one
such run with the states it goes through; `Always` says of a program what every single call of it does to
the object, and what holds when it returns.
-/

namespace Program

variable {σ ε α β : Type} {M : Machine σ ε}

/-- The states `visited` are those after the calls made so far; a crash ends the run without a result. -/
inductive Executes : Program M α → σ → List σ → Option α → σ → Prop where
  | pure (a : α) (s : σ) : Executes (.pure a) s [] (some a) s
  | call {op : M.Op} {k : Except ε (M.Res op) → Program M α} {s s' s'' : σ}
      {answer : Except ε (M.Res op)} {visited : List σ} {result : Option α}
      (hanswer : M.Answers op s answer s') (hrest : Executes (k answer) s' visited result s'')
      : Executes (.call op k) s (s' :: visited) result s''
  | crash (x : Program M α) (s : σ) : Executes x s [] none s

def trace : Program M α → σ → List σ
  | .pure _, _ => []
  | .call op k, s => (M.exec op s).2 :: (k (M.exec op s).1).trace (M.exec op s).2

theorem executes_run (x : Program M α) (s : σ)
    : Executes x s (x.trace s) (some (x.run s).1) (x.run s).2 := by
  induction x generalizing s with
  | pure a => exact .pure a s
  | call op k ih => exact .call .exec (ih _ _)

theorem executes_advance (n : Nat) (x : Program M α) (s : σ)
    : ∃ visited, Executes x s visited none (x.advance n s).2 := by
  induction n generalizing x s with
  | zero => exact ⟨[], .crash x s⟩
  | succ n ih =>
    cases x with
    | pure a => exact ⟨[], .crash _ s⟩
    | call op k =>
      obtain ⟨visited, hexecutes⟩ := ih (k (M.exec op s).1) (M.exec op s).2
      exact ⟨_, .call .exec hexecutes⟩

inductive Path (T : σ → σ → Prop) : σ → List σ → σ → Prop where
  | nil (s : σ) : Path T s [] s
  | cons {s s' s'' : σ} {visited : List σ} (hstep : T s s') (hrest : Path T s' visited s'')
      : Path T s (s' :: visited) s''

variable {s s' : σ} {visited : List σ}

theorem Path.append {T : σ → σ → Prop} {s'' : σ} {more : List σ} (h : Path T s visited s') (hmore : Path T s' more s'')
    : Path T s (visited ++ more) s'' := by
  induction h with
  | nil s => exact hmore
  | cons hstep _ ih => exact .cons hstep (ih hmore)

theorem Path.isChain {T : σ → σ → Prop} (h : Path T s visited s')
    : (s :: visited).IsChain T := by
  induction h with
  | nil s => exact .singleton s
  | cons hstep _ ih => exact .cons_cons hstep ih

theorem Path.invariant {T : σ → σ → Prop} {I : List σ → σ → Prop}
    (hI : ∀ seen s s', I seen s → T s s' → I (seen ++ [s']) s') {seen : List σ} (hpath : Path T s visited s')
    (h : I seen s)
    : I (seen ++ visited) s' := by
  induction hpath generalizing seen with
  | nil s => rwa [List.append_nil]
  | cons hstep _ ih =>
    have := ih (hI _ _ _ h hstep)
    rwa [List.append_assoc] at this

theorem Path.preserves {T : σ → σ → Prop} {I : σ → Prop} (hI : ∀ s s', I s → T s s' → I s')
    (hpath : Path T s visited s') (h : I s)
    : I s' := by
  induction hpath with
  | nil => exact h
  | cons hstep _ ih => exact ih (hI _ _ h hstep)

def Always (T : σ → σ → Prop) (Q : α → σ → Prop) : Program M α → σ → Prop
  | .pure a, s => Q a s
  | .call op k, s => ∀ answer s', M.Answers op s answer s' → T s s' ∧ Always T Q (k answer) s'

variable {T : σ → σ → Prop} {Q : α → σ → Prop} {x : Program M α}

theorem Always.mono {T' : σ → σ → Prop} {Q' : α → σ → Prop} (h : Always T Q x s) (hT : ∀ s s', T s s' → T' s s')
    (hQ : ∀ a s, Q a s → Q' a s)
    : Always T' Q' x s := by
  induction x generalizing s with
  | pure a => exact hQ a s h
  | call op k ih =>
    intro answer s' hanswer
    obtain ⟨hstep, hrest⟩ := h answer s' hanswer
    exact ⟨hT s s' hstep, ih answer hrest⟩

theorem Always.bind {Q' : β → σ → Prop} {f : α → Program M β} (h : Always T (fun a s => Always T Q' (f a) s) x s)
    : Always T Q' (x >>= f) s := by
  induction x generalizing s with
  | pure a => exact h
  | call op k ih =>
    intro answer s' hanswer
    obtain ⟨hstep, hrest⟩ := h answer s' hanswer
    exact ⟨hstep, ih answer hrest⟩

theorem Always.seq {Q' : β → σ → Prop} {f : α → Program M β} (h : Always T Q x s)
    (hf : ∀ a s, Q a s → Always T Q' (f a) s)
    : Always T Q' (x >>= f) s :=
  bind (h.mono (fun _ _ h => h) hf)

theorem Always.along {R : σ → σ → Prop} (hrefl : ∀ s, R s s) (htrans : ∀ a b c, R a b → R b c → R a c)
    (hT : ∀ s s', T s s' → R s s') (h : Always T Q x s)
    : Always T (fun a s' => R s s' ∧ Q a s') x s := by
  suffices hgen : ∀ s₀, R s₀ s → Always T (fun a s' => R s₀ s' ∧ Q a s') x s from hgen s (hrefl s)
  induction x generalizing s with
  | pure a =>
    intro s₀ h₀
    exact ⟨h₀, h⟩
  | call op k ih =>
    intro s₀ h₀ answer s' hanswer
    obtain ⟨hstep, hrest⟩ := h answer s' hanswer
    exact ⟨hstep, ih answer hrest s₀ (htrans s₀ s s' h₀ (hT s s' hstep))⟩

theorem Always.executes {result : Option α} (h : Always T Q x s) (hx : Executes x s visited result s')
    : Path T s visited s' ∧ ∀ a, result = some a → Q a s' := by
  induction hx with
  | pure a s =>
    refine ⟨.nil s, ?_⟩
    intro b hb
    injection hb with hb
    rw [← hb]
    exact h
  | call hanswer _ ih =>
    obtain ⟨hstep, hrest⟩ := h _ _ hanswer
    obtain ⟨hpath, hresult⟩ := ih hrest
    exact ⟨.cons hstep hpath, hresult⟩
  | crash x s =>
    refine ⟨.nil s, ?_⟩
    intro a ha
    contradiction

theorem Always.run {R : σ → σ → Prop} (hrefl : ∀ s, R s s) (htrans : ∀ a b c, R a b → R b c → R a c)
    (hT : ∀ s s', T s s' → R s s') (h : Always T Q x s)
    : R s (x.run s).2 :=
  (((h.along hrefl htrans hT).executes (executes_run x s)).2 _ rfl).1

end Program
