import Mathlib.Logic.Relation

/-!
Programs that call the operations of one shared object. Every operation is atomic; what happens
between two calls of a program is up to the other programs that use the object.

`Program.run` runs a program alone. `Program.Safe` is the weakest precondition of a program that runs
among others, when those move the object only along a rely relation.
-/

structure Machine (σ ε : Type) where
  Op : Type
  Res : Op → Type
  exec : (op : Op) → σ → Except ε (Res op) × σ
  Fault : ε → Prop

/-- What a call of `op` in state `s` can answer: its result, or a fault that leaves the state alone. -/
inductive Machine.Answers {σ ε : Type} (M : Machine σ ε) (op : M.Op) (s : σ)
    : Except ε (M.Res op) → σ → Prop where
  | exec : Answers M op s (M.exec op s).1 (M.exec op s).2
  | fault {e : ε} (h : M.Fault e) : Answers M op s (.error e) s

inductive Program {σ ε : Type} (M : Machine σ ε) (α : Type) where
  | pure (a : α)
  | call (op : M.Op) (k : Except ε (M.Res op) → Program M α)

namespace Program

variable {σ ε α β : Type} {M : Machine σ ε}

protected def bind : Program M α → (α → Program M β) → Program M β
  | .pure a, f => f a
  | .call op k, f => .call op fun answer => (k answer).bind f

instance : Monad (Program M) where
  pure := Program.pure
  bind := Program.bind

@[simp]
theorem pure_eq (a : α) : (Pure.pure a : Program M α) = .pure a := rfl

@[simp]
theorem pure_bind (a : α) (f : α → Program M β) : (Program.pure a >>= f) = f a := rfl

@[simp]
theorem call_bind (op : M.Op) (k : Except ε (M.Res op) → Program M α) (f : α → Program M β)
    : (Program.call op k >>= f) = .call op fun answer => k answer >>= f := rfl

theorem bind_pure (x : Program M α) : (x >>= Program.pure) = x := by
  induction x with
  | pure a => rfl
  | call op k ih =>
    rw [call_bind]
    congr 1
    funext answer
    exact ih answer

theorem bind_assoc {γ : Type} (x : Program M α) (f : α → Program M β) (g : β → Program M γ)
    : (x >>= f >>= g) = (x >>= fun a => f a >>= g) := by
  induction x with
  | pure a => rfl
  | call op k ih =>
    rw [call_bind, call_bind, call_bind]
    congr 1
    funext answer
    exact ih answer

instance : LawfulMonad (Program M) :=
  LawfulMonad.mk' (Program M) bind_pure (fun _ _ => rfl) bind_assoc

def perform (op : M.Op) : Program M (Except ε (M.Res op)) :=
  .call op .pure

/-!
### Running alone
-/

def run : Program M α → σ → α × σ
  | .pure a, s => (a, s)
  | .call op k, s => (k (M.exec op s).1).run (M.exec op s).2

@[simp]
theorem run_pure (a : α) (s : σ) : (Program.pure a : Program M α).run s = (a, s) := rfl

@[simp]
theorem run_bind (x : Program M α) (f : α → Program M β) (s : σ)
    : (x >>= f).run s = (f (x.run s).1).run (x.run s).2 := by
  induction x generalizing s with
  | pure a => rfl
  | call op k ih =>
    rw [call_bind]
    exact ih (M.exec op s).1 (M.exec op s).2

def advance : Nat → Program M α → σ → Program M α × σ
  | 0, x, s => (x, s)
  | _ + 1, .pure a, s => (.pure a, s)
  | n + 1, .call op k, s => advance n (k (M.exec op s).1) (M.exec op s).2

/-!
### Running among others
-/

end Program

structure Rely (σ : Type) where
  rel : σ → σ → Prop
  refl : ∀ s, rel s s
  trans : ∀ {a b c}, rel a b → rel b c → rel a c

namespace Program

variable {σ ε α β : Type} {M : Machine σ ε} (R : Rely σ)

/-- The others may move `s` along `R` at any point; then every call of `x` moves the object along `G`, and when `x`
returns, `Q` holds of its result, of the transitions that its calls made (appended to `log`) and of the state. -/
def Follows (G : σ → σ → Prop) (Q : α → List (σ × σ) → σ → Prop) : Program M α → List (σ × σ) → σ → Prop
  | .pure a, log, s => ∀ s', R.rel s s' → Q a log s'
  | .call op k, log, s =>
    ∀ s', R.rel s s' → ∀ answer s'', M.Answers op s' answer s''
      → G s' s'' ∧ Follows G Q (k answer) (log ++ [(s', s'')]) s''

/-- The program's calls move the object along the relation of the others. -/
abbrev Safe (Q : α → List (σ × σ) → σ → Prop) : Program M α → List (σ × σ) → σ → Prop :=
  Follows R R.rel Q

variable {R} {G : σ → σ → Prop} {Q : α → List (σ × σ) → σ → Prop} {log : List (σ × σ)} {s : σ} {x : Program M α}

theorem Follows.rely {s' : σ} (h : Follows R G Q x log s) (hs : R.rel s s')
    : Follows R G Q x log s' := by
  cases x with
  | pure _ | call _ _ =>
    intro s'' hs'
    exact h s'' (R.trans hs hs')

theorem Follows.mono {Q' : α → List (σ × σ) → σ → Prop} (h : Follows R G Q x log s)
    (hQ : ∀ a log s, Q a log s → Q' a log s)
    : Follows R G Q' x log s := by
  induction x generalizing log s with
  | pure a =>
    intro s' hs
    exact hQ a log s' (h s' hs)
  | call op k ih =>
    intro s' hs answer s'' hanswer
    obtain ⟨hstep, hrest⟩ := h s' hs answer s'' hanswer
    exact ⟨hstep, ih answer hrest⟩

theorem Follows.prepend (h : Follows R G Q x log s) (before : List (σ × σ))
    : Follows R G (fun a log' s => ∃ own, log' = before ++ own ∧ Q a own s) x (before ++ log) s := by
  induction x generalizing log s with
  | pure a =>
    intro s' hs
    exact ⟨log, rfl, h s' hs⟩
  | call op k ih =>
    intro s' hs answer s'' hanswer
    obtain ⟨hstep, hrest⟩ := h s' hs answer s'' hanswer
    rw [List.append_assoc]
    exact ⟨hstep, ih answer hrest⟩

theorem Follows.bind {P : α → List (σ × σ) → σ → Prop} {Q : β → List (σ × σ) → σ → Prop}
    {f : α → Program M β} (h : Follows R G P x log s) (hf : ∀ a log s, P a log s → Follows R G Q (f a) log s)
    : Follows R G Q (x >>= f) log s := by
  induction x generalizing log s with
  | pure a => exact hf a log s (h s (R.refl s))
  | call op k ih =>
    intro s' hs answer s'' hanswer
    obtain ⟨hstep, hrest⟩ := h s' hs answer s'' hanswer
    exact ⟨hstep, ih answer hrest⟩

/-- One run of a program among others; a crash at any point ends it without a result. -/
inductive Runs (R : Rely σ) : Program M α → σ → Option α → σ → Prop where
  | pure {a : α} {s s' : σ} (hs : R.rel s s') : Runs R (.pure a) s (some a) s'
  | call {op : M.Op} {k : Except ε (M.Res op) → Program M α} {s s' s'' s''' : σ}
      {answer : Except ε (M.Res op)} {result : Option α} (hs : R.rel s s')
      (hanswer : M.Answers op s' answer s'') (hrest : Runs R (k answer) s'' result s''')
      : Runs R (.call op k) s result s'''
  | crash {x : Program M α} {s s' : σ} (hs : R.rel s s') : Runs R x s none s'

theorem Safe.runs {s' : σ} {result : Option α} (h : Safe R Q x log s) (hruns : Runs R x s result s')
    : R.rel s s' ∧ ∀ a, result = some a → ∃ log', Q a log' s' := by
  induction hruns generalizing log with
  | pure hs =>
    refine ⟨hs, ?_⟩
    intro a ha
    rw [Option.some.injEq] at ha
    subst ha
    exact ⟨log, h _ hs⟩
  | call hs hanswer _ ih =>
    obtain ⟨hrel, hsafe⟩ := h _ hs _ _ hanswer
    obtain ⟨hrest, hresult⟩ := ih hsafe
    exact ⟨R.trans hs (R.trans hrel hrest), hresult⟩
  | crash hs =>
    refine ⟨hs, ?_⟩
    intro a ha
    contradiction

theorem runs_run (x : Program M α) (s : σ) : Runs R x s (some (x.run s).1) (x.run s).2 := by
  induction x generalizing s with
  | pure a => exact .pure (R.refl s)
  | call op k ih => exact .call (R.refl s) .exec (ih _ _)

end Program
