import MeshMine.Data.Bytes
import Mathlib.Data.Finset.Max

/-!
Linear orders on machine words and byte vectors, checked arithmetic on words, and the first and the last
element of an ordered set.
-/

instance uint64LinearOrder : LinearOrder UInt64 where
  le_refl a := UInt64.le_refl a
  le_trans a b c := UInt64.le_trans
  lt_iff_le_not_ge a b := by
    rw [UInt64.lt_iff_toNat_lt, UInt64.le_iff_toNat_le, UInt64.le_iff_toNat_le]
    omega
  le_antisymm a b := UInt64.le_antisymm
  le_total a b := UInt64.le_total a b
  toDecidableLE := inferInstance

instance uint32LinearOrder : LinearOrder UInt32 where
  le_refl a := UInt32.le_refl a
  le_trans a b c := UInt32.le_trans
  lt_iff_le_not_ge a b := by
    rw [UInt32.lt_iff_toNat_lt, UInt32.le_iff_toNat_le, UInt32.le_iff_toNat_le]
    omega
  le_antisymm a b := UInt32.le_antisymm
  le_total a b := UInt32.le_total a b
  toDecidableLE := inferInstance

instance {n : Nat} : LinearOrder (ByteVec n) where
  le_refl a := by
    rw [ByteVec.le_iff_toNat_le]
  le_trans a b c := by
    simp only [ByteVec.le_iff_toNat_le]
    omega
  lt_iff_le_not_ge a b := by
    simp only [ByteVec.le_iff_toNat_le, ByteVec.lt_iff_toNat_lt]
    omega
  le_antisymm a b := by
    simp only [ByteVec.le_iff_toNat_le]
    intro h1 h2
    apply ByteVec.toNat_inj
    omega
  le_total a b := by
    simp only [ByteVec.le_iff_toNat_le]
    omega
  toDecidableLE := inferInstance

/-- A set as the list of its elements in ascending order. -/
structure SortedList (α : Type*) [LT α] where
  toList : List α
  sorted : toList.Pairwise (· < ·)

instance {α : Type*} [LT α] [DecidableEq α] : DecidableEq (SortedList α) := fun a b =>
  decidable_of_iff (a.toList = b.toList) (by
    constructor
    . intro h
      cases a
      cases b
      cases h
      rfl
    . intro h
      rw [h])

namespace SortedList

variable {α : Type*} [LinearOrder α]

def insertList (a : α) : List α → List α
  | [] => [a]
  | b :: bs => if a < b then a :: b :: bs else if a = b then b :: bs else b :: insertList a bs

theorem mem_insertList {a x : α} {bs : List α} (h : x ∈ insertList a bs) : x = a ∨ x ∈ bs := by
  induction bs with
  | nil => exact Or.inl (List.mem_singleton.mp h)
  | cons b bs ih =>
    unfold insertList at h
    split at h
    next => exact List.mem_cons.mp h
    next =>
      split at h
      next => exact Or.inr h
      next =>
        rcases List.mem_cons.mp h with rfl | hmem
        . exact Or.inr (List.mem_cons_self ..)
        . exact (ih hmem).imp_right (List.mem_cons_of_mem _)

theorem mem_insertList_of_mem {a x : α} {bs : List α} (h : x = a ∨ x ∈ bs) : x ∈ insertList a bs := by
  induction bs with
  | nil => simpa [insertList] using h
  | cons b bs ih =>
    unfold insertList
    split
    . simpa using h
    . split
      next heq =>
        rcases h with rfl | h
        . simp [heq]
        . exact h
      . rcases h with rfl | h
        . exact List.mem_cons_of_mem _ (ih (.inl rfl))
        . rcases List.mem_cons.mp h with rfl | h
          . exact List.mem_cons_self ..
          . exact List.mem_cons_of_mem _ (ih (.inr h))

theorem insertList_sorted {a : α} {bs : List α} (h : bs.Pairwise (· < ·))
    : (insertList a bs).Pairwise (· < ·) := by
  induction bs with
  | nil => exact List.pairwise_singleton _ _
  | cons b bs ih =>
    obtain ⟨hhead, htail⟩ := List.pairwise_cons.mp h
    unfold insertList
    split
    next hlt =>
      refine List.pairwise_cons.mpr ⟨?_, h⟩
      intro x hx
      rcases List.mem_cons.mp hx with rfl | hmem
      . exact hlt
      . exact lt_trans hlt (hhead x hmem)
    next hnot =>
      split
      next => exact h
      next hne =>
        refine List.pairwise_cons.mpr ⟨?_, ih htail⟩
        intro x hx
        rcases mem_insertList hx with rfl | hmem
        . exact lt_of_le_of_ne (not_lt.mp hnot) (Ne.symm hne)
        . exact hhead x hmem

def insert (set : SortedList α) (a : α) : SortedList α :=
  ⟨insertList a set.toList, insertList_sorted set.sorted⟩

def empty : SortedList α :=
  ⟨[], List.Pairwise.nil⟩

instance : Membership α (SortedList α) where
  mem set a := a ∈ set.toList

instance (a : α) (set : SortedList α) : Decidable (a ∈ set) :=
  inferInstanceAs (Decidable (a ∈ set.toList))

theorem mem_insert {set : SortedList α} {a x : α} : x ∈ set.insert a ↔ x = a ∨ x ∈ set :=
  ⟨mem_insertList, mem_insertList_of_mem⟩

def ofList : List α → SortedList α
  | [] => empty
  | a :: as => (ofList as).insert a

@[simp]
theorem mem_ofList {as : List α} {x : α} : x ∈ ofList as ↔ x ∈ as := by
  induction as with
  | nil => exact Iff.rfl
  | cons a as ih =>
    unfold ofList
    rw [mem_insert, ih, List.mem_cons]

end SortedList

namespace UInt64

def checkedAdd (a b : UInt64) : Option UInt64 :=
  if a.toNat + b.toNat < 2 ^ 64 then some (a + b) else none

theorem toNat_of_checkedAdd_eq_some {a b c : UInt64} (h : checkedAdd a b = some c)
    : c.toNat = a.toNat + b.toNat := by
  unfold checkedAdd at h
  split at h
  next hlt =>
    injection h with h
    rw [← h, UInt64.toNat_add, Nat.mod_eq_of_lt hlt]
  . contradiction

def checkedAddLength (a : UInt64) (length : Nat) : Option UInt64 :=
  if a.toNat + length < 2 ^ 64 then some (UInt64.ofNat (a.toNat + length)) else none

theorem toNat_of_checkedAddLength_eq_some {a c : UInt64} {length : Nat} (h : checkedAddLength a length = some c)
    : c.toNat = a.toNat + length := by
  unfold checkedAddLength at h
  split at h
  next hlt =>
    injection h with h
    rw [← h]
    apply UInt64.toNat_ofNat_of_lt' hlt
  . contradiction

def absDiff (a b : UInt64) : UInt64 :=
  if a < b then b - a else a - b

end UInt64

namespace Finset

variable {α : Type*} [LinearOrder α]

def first? (s : Finset α) : Option α :=
  if h : s.Nonempty then some (s.min' h) else none

def last? (s : Finset α) : Option α :=
  if h : s.Nonempty then some (s.max' h) else none

theorem last?_eq_some {s : Finset α} {a : α} : s.last? = some a ↔ a ∈ s ∧ ∀ b ∈ s, b ≤ a := by
  unfold last?
  split
  next hs =>
    rw [Option.some.injEq, Finset.max'_eq_iff]
  next hs =>
    rw [Finset.not_nonempty_iff_eq_empty] at hs
    simp [hs]

theorem mem_of_first?_eq_some {s : Finset α} {a : α} (h : s.first? = some a) : a ∈ s := by
  unfold first? at h
  split at h
  next hs =>
    injection h with h
    rw [← h]
    apply Finset.min'_mem
  . contradiction

end Finset
