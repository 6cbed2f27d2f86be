import Mathlib.Data.List.Forall2

/-!
Fallible computations taken apart: what a successful one must have gone through.
-/

namespace Except

variable {ε ε' α β : Type}

@[simp]
theorem ok_bind (a : α) (f : α → Except ε β) : ((.ok a : Except ε α) >>= f) = f a := rfl

variable {x : Except ε α} {f : α → Except ε β}

theorem bind_eq_ok_iff {b : β}
    : (x >>= f) = .ok b ↔ ∃ a, x = .ok a ∧ f a = .ok b := by
  cases x with
  | error e => simp [bind, Except.bind]
  | ok a => simp

theorem bind_eq_ok {b : β} (h : (x >>= f) = .ok b)
    : ∃ a, x = .ok a ∧ f a = .ok b :=
  bind_eq_ok_iff.mp h

theorem forall₂_of_mapM_eq_ok {as : List α} {bs : List β} (h : as.mapM f = .ok bs)
    : List.Forall₂ (fun a b => f a = .ok b) as bs := by
  induction as generalizing bs with
  | nil =>
    injection h with h
    rw [← h]
    exact .nil
  | cons a as ih =>
    rw [List.mapM_cons] at h
    obtain ⟨b, hb, h⟩ := bind_eq_ok h
    obtain ⟨bs', hbs, h⟩ := bind_eq_ok h
    injection h with h
    rw [← h]
    exact .cons hb (ih hbs)

theorem map_of_mapM_eq_ok {γ : Type} {g : α → γ} {g' : β → γ} {as : List α} {bs : List β}
    (hf : ∀ a b, f a = .ok b → g' b = g a) (h : as.mapM f = .ok bs)
    : bs.map g' = as.map g := by
  have hall := forall₂_of_mapM_eq_ok h
  clear h
  induction hall with
  | nil => rfl
  | cons hab _ ih => rw [List.map_cons, List.map_cons, hf _ _ hab, ih]

variable {e : ε}

theorem exists_of_mapM_eq_error {as : List α} (h : as.mapM f = .error e)
    : ∃ a ∈ as, f a = .error e := by
  induction as with
  | nil => contradiction
  | cons a as ih =>
    rw [List.mapM_cons] at h
    cases ha : f a with
    | error error =>
      rw [ha] at h
      injection h with h
      exact ⟨a, by simp, h ▸ ha⟩
    | ok b =>
      rw [ha, ok_bind] at h
      cases has : as.mapM f with
      | error error =>
        rw [has] at h
        injection h with h
        obtain ⟨a', hmem, ha'⟩ := ih (h ▸ has)
        exact ⟨a', by simp [hmem], ha'⟩
      | ok bs =>
        rw [has] at h
        contradiction

theorem exists_mapM_eq_ok {as : List α} (h : ∀ a ∈ as, ∃ b, f a = .ok b) : ∃ bs, as.mapM f = .ok bs := by
  cases has : as.mapM f with
  | error error =>
    obtain ⟨a, hmem, ha⟩ := exists_of_mapM_eq_error has
    obtain ⟨b, hb⟩ := h a hmem
    rw [ha] at hb
    contradiction
  | ok bs => exact ⟨bs, rfl⟩

variable {a : α}

theorem mapError_eq_ok {f : ε → ε'}
    : x.mapError f = .ok a ↔ x = .ok a := by
  cases x with
  | error e => simp [Except.mapError]
  | ok b => simp [Except.mapError]

theorem toOption_eq_some : x.toOption = some a ↔ x = .ok a := by
  cases x with
  | error e => simp [Except.toOption]
  | ok b => simp [Except.toOption]

theorem elim_error_eq_ok {x : Option α} (h : x.elim (error e) ok = ok a)
    : x = some a := by
  cases x with
  | none => contradiction
  | some b =>
    injection h with h
    rw [h]

/-- The early return of a failed check. -/
def rejectIf (condition : Prop) [Decidable condition] (error : ε) : Except ε Unit :=
  if condition then .error error else .ok ()

variable {condition : Prop} {error : ε}

theorem rejectIf_of_not [Decidable condition] (h : ¬ condition)
    : rejectIf condition error = .ok () := by
  unfold rejectIf
  rw [if_neg h]

@[simp]
theorem rejectIf_eq_ok [Decidable condition] {u : Unit}
    : rejectIf condition error = .ok u ↔ ¬ condition := by
  unfold rejectIf
  split
  next h => simp [h]
  next h => simp [h]

theorem bind_unit_eq_ok {x : Except ε Unit} {f : Unit → Except ε β} {b : β}
    : (x >>= f) = .ok b ↔ x = .ok () ∧ f () = .ok b := by
  rw [bind_eq_ok_iff]
  constructor
  . rintro ⟨⟨⟩, h⟩
    exact h
  . intro h
    exact ⟨(), h⟩

theorem forM_eq_ok {as : List α} {f : α → Except ε Unit} (h : as.forM f = .ok ()) : ∀ a ∈ as, f a = .ok () := by
  induction as with
  | nil => simp
  | cons a as ih =>
    obtain ⟨ha, h⟩ := bind_unit_eq_ok.mp h
    rw [List.forall_mem_cons]
    exact ⟨ha, ih h⟩

@[simp]
theorem rejectIf_eq_error [Decidable condition] {error' : ε}
    : rejectIf condition error = .error error' ↔ condition ∧ error = error' := by
  unfold rejectIf
  split
  next h => simp [h]
  next h => simp [h]

theorem bind_unit_eq_error {x : Except ε Unit} {f : Unit → Except ε β}
    : (x >>= f) = .error e ↔ x = .error e ∨ x = .ok () ∧ f () = .error e := by
  cases x with
  | error e' =>
    change (Except.error e' : Except ε β) = .error e ↔ _
    simp
  | ok u =>
    rw [ok_bind]
    simp

end Except

/-!
Computations with a state, run one call at a time.
-/

namespace EStateM

variable {ε σ α : Type}

theorem get_bind_apply (f : σ → EStateM ε σ α) (s : σ) : (get >>= f) s = f s s := rfl

theorem set_bind_apply (s' : σ) (f : PUnit → EStateM ε σ α) (s : σ) : (set s' >>= f) s = f ⟨⟩ s' := rfl

theorem modify_bind_apply (g : σ → σ) (f : PUnit → EStateM ε σ α) (s : σ) : (modify g >>= f) s = f ⟨⟩ (g s) := rfl

end EStateM
