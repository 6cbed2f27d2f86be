import MeshMine.Data.Ordered
import Mathlib.Data.List.AList

/-!
Finite maps as association lists: values mapped in place, what is collected from the entries with a
property, lists of values put together, and the entry with the greatest key.
-/

namespace AList

variable {α β γ : Type}

def mapValues (f : α → β → β) (m : AList fun _ : α => β) : AList fun _ : α => β where
  entries := m.entries.map (.map id f)
  nodupKeys := by
    unfold List.NodupKeys List.keys
    rw [List.map_map]
    exact m.nodupKeys

@[simp]
theorem lookup_mapValues [DecidableEq α] (f : α → β → β) (m : AList fun _ : α => β) (a : α)
    : (m.mapValues f).lookup a = (m.lookup a).map (f a) :=
  List.dlookup_map₂ a

def collectWhere [LinearOrder γ] (p : α → β → Bool) (f : α → β → γ) (m : AList fun _ : α => β)
    : SortedList γ :=
  .ofList ((m.entries.filter fun entry => p entry.1 entry.2).map fun entry => f entry.1 entry.2)

variable {m : AList fun _ : α => β}

@[simp]
theorem mem_collectWhere [DecidableEq α] [LinearOrder γ] {p : α → β → Bool} {f : α → β → γ} {c : γ}
    : c ∈ m.collectWhere p f ↔ ∃ a b, m.lookup a = some b ∧ p a b = true ∧ f a b = c := by
  unfold collectWhere
  simp only [SortedList.mem_ofList, List.mem_map, List.mem_filter]
  constructor
  . rintro ⟨⟨a, b⟩, ⟨hmem, hp⟩, rfl⟩
    exact ⟨a, b, mem_lookup_iff.mpr hmem, hp, rfl⟩
  . rintro ⟨a, b, hlookup, hp, rfl⟩
    exact ⟨⟨a, b⟩, ⟨mem_lookup_iff.mp hlookup, hp⟩, rfl⟩

variable {a : α} {b : β}

section

variable [DecidableEq α]

theorem lookup_insert_eq (m : AList fun _ : α => β) (a a' : α) (b : β)
    : (m.insert a b).lookup a' = if a' = a then some b else m.lookup a' := by
  split
  next h =>
    subst h
    exact lookup_insert m
  next h => exact lookup_insert_ne h

theorem lookup_erase_eq (m : AList fun _ : α => β) (a a' : α)
    : (m.erase a).lookup a' = if a' = a then none else m.lookup a' := by
  split
  next h =>
    subst h
    exact lookup_erase a' m
  next h => exact lookup_erase_ne h

theorem lookup_insert_eq_some {a' : α} {b' : β}
    : (m.insert a b).lookup a' = some b' ↔ a' = a ∧ b = b' ∨ a' ≠ a ∧ m.lookup a' = some b' := by
  rw [lookup_insert_eq]
  split <;> simp [*]

theorem lookup_erase_eq_some {a' : α}
    : (m.erase a).lookup a' = some b ↔ a' ≠ a ∧ m.lookup a' = some b := by
  rw [lookup_erase_eq]
  split <;> simp [*]

theorem entries_erase (m : AList fun _ : α => β) (a : α) : (m.erase a).entries = m.entries.kerase a := rfl

theorem perm_entries_of_lookup (h : m.lookup a = some b)
    : m.entries.Perm (⟨a, b⟩ :: (m.erase a).entries) := by
  obtain ⟨b', before, after, _, hentries, herase⟩ := List.exists_of_kerase (mem_keys.mp (lookup_isSome.mp (by
    rw [h]
    rfl)))
  have hb : b' = b := by
    have hmem : (⟨a, b'⟩ : Sigma fun _ : α => β) ∈ m.entries := by
      rw [hentries]
      simp
    rw [Option.mem_def.mp (mem_lookup_iff.mpr hmem), Option.some.injEq] at h
    exact h
  rw [entries_erase, herase, hentries, hb]
  exact List.perm_middle

end

variable [LinearOrder α] [DecidableEq α]

def lastKeyValue (m : AList fun _ : α => β) : Option (α × β) :=
  m.keys.toFinset.last?.bind fun a => (m.lookup a).map fun b => (a, b)

theorem lastKeyValue_eq_some
    : m.lastKeyValue = some (a, b)
      ↔ m.lookup a = some b ∧ ∀ a' b', m.lookup a' = some b' → a' ≤ a := by
  have hmem : ∀ a', a' ∈ m.keys.toFinset ↔ ∃ b', m.lookup a' = some b' := by
    intro a'
    rw [List.mem_toFinset, ← mem_keys, ← lookup_isSome, Option.isSome_iff_exists]
  unfold lastKeyValue
  rw [Option.bind_eq_some_iff]
  simp only [Option.map_eq_some_iff, Prod.mk.injEq, Finset.last?_eq_some, hmem]
  constructor
  . rintro ⟨a', ⟨-, hlast⟩, b', hlookup, rfl, rfl⟩
    exact ⟨hlookup, fun a' b' h => hlast a' ⟨b', h⟩⟩
  . rintro ⟨hlookup, hlast⟩
    exact ⟨a, ⟨⟨b, hlookup⟩, fun a' ⟨b', h⟩ => hlast a' b' h⟩, b, hlookup, rfl, rfl⟩

end AList
