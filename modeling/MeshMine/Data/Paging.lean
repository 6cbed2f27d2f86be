import Mathlib.Data.List.Basic

/-!
Reading an ordered collection page by page: every page but the last names the cursor the next one starts after.
-/

namespace Paging

variable {κ ρ ε : Type}

/-- Follows the cursors from `cursor` on; `none` when the pages do not end within that many calls. -/
def collect (fetch : Option κ → Except ε (List ρ × Option κ))
    : Nat → Option κ → Except ε (Option (List (List ρ)))
  | 0, _ => .ok none
  | calls + 1, cursor =>
    match fetch cursor with
    | .error e => .error e
    | .ok (page, none) => .ok (some [page])
    | .ok (page, some key) => (collect fetch calls (some key)).map fun pages => pages.map (page :: ·)

/-!
`At cursor rest` says that `rest` is what lies after the cursor. A page advances when it is the first part
of that, and when it stops early, then at a cursor of its own that what is left lies after.
-/

def Advances (fetch : Option κ → Except ε (List ρ × Option κ)) (At : Option κ → List ρ → Prop)
    (cursor : Option κ) (rest : List ρ) : Prop :=
  ∃ page left next, fetch cursor = .ok (page, next) ∧ rest = page ++ left
    ∧ (next = none ∧ left = [] ∨ ∃ key, next = some key ∧ page ≠ [] ∧ At (some key) left)

theorem collect_of_advances {fetch : Option κ → Except ε (List ρ × Option κ)}
    {At : Option κ → List ρ → Prop} (hadvances : ∀ cursor rest, At cursor rest → Advances fetch At cursor rest)
    {calls : Nat} {cursor : Option κ} {rest : List ρ} (hat : At cursor rest) (hcalls : rest.length < calls)
    : ∃ pages, collect fetch calls cursor = .ok (some pages) ∧ pages.flatten = rest := by
  induction calls generalizing cursor rest with
  | zero => omega
  | succ calls ih =>
    obtain ⟨page, left, next, hfetch, hrest, hnext⟩ := hadvances cursor rest hat
    unfold collect
    rw [hfetch]
    rcases hnext with ⟨rfl, rfl⟩ | ⟨key, rfl, hpage, hat⟩
    . exact ⟨[page], rfl, by simp [hrest]⟩
    . have hlength : left.length < calls := by
        have := List.length_pos_iff.mpr hpage
        rw [hrest, List.length_append] at hcalls
        omega
      obtain ⟨pages, hpages, hflatten⟩ := ih hat hlength
      exact ⟨page :: pages, by simp [hpages, Except.map], by simp [hrest, hflatten]⟩

/-!
### Sorted records
-/

variable [LT κ] [DecidableLT κ] {key : ρ → κ}

def after (key : ρ → κ) (cursor : Option κ) (records : List ρ) : List ρ :=
  records.filter fun record => cursor.all (· < key record)

theorem after_none (records : List ρ) : after key none records = records := by
  simp [after]

theorem after_last [IsTrans κ (· < ·)] [Std.Irrefl fun a b : κ => a < b] {records page left : List ρ}
    {cursor : Option κ} {last : ρ} (hsorted : records.Pairwise (key · < key ·))
    (hrest : after key cursor records = page ++ left) (hlast : page.getLast? = some last)
    : after key (some (key last)) records = left := by
  obtain ⟨before, rfl⟩ := List.getLast?_eq_some_iff.mp hlast
  have hparts : (before ++ [last] ++ left).Pairwise (key · < key ·) := hrest ▸ hsorted.filter _
  have hcursor : ∀ record, key last < key record → cursor.all (· < key record) = true := by
    intro record hlt
    have hmem : last ∈ after key cursor records := by simp [hrest]
    have hlast := (List.mem_filter.mp hmem).2
    cases cursor with
    | none => rfl
    | some cursor =>
      simp only [Option.all_some, decide_eq_true_eq] at hlast ⊢
      exact trans_of (· < ·) hlast hlt
  have hnarrow : after key (some (key last)) records
      = (after key cursor records).filter fun record => decide (key last < key record) := by
    unfold after
    rw [List.filter_filter]
    apply List.filter_congr
    intro record _
    by_cases hlt : key last < key record <;> simp [hlt, hcursor]
  rw [hnarrow, hrest]
  simp only [List.pairwise_append, List.mem_append, List.mem_singleton] at hparts
  obtain ⟨⟨_, _, hbefore⟩, _, hleft⟩ := hparts
  have hnot : ∀ record ∈ before ++ [last], ¬ key last < key record := by
    intro record hmem hlt
    rcases List.mem_append.mp hmem with hmem | hmem
    . exact irrefl_of (· < ·) _ (trans_of (· < ·) hlt (hbefore record hmem last rfl))
    . rw [List.mem_singleton.mp hmem] at hlt
      exact irrefl_of (· < ·) _ hlt
  rw [List.filter_append, List.filter_eq_nil_iff.mpr (by simpa using hnot), List.nil_append,
    List.filter_eq_self]
  intro record hmem
  exact decide_eq_true (hleft last (.inr rfl) record hmem)

end Paging
