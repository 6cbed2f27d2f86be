import MeshMine.Concurrency.Program
import MeshMine.Types.Common
import Mathlib.Data.List.AList
import Mathlib.Data.List.Sort

/-!
The durable store (`DurableStore` of `meshmine-storage/src/lib.rs`, as `MemoryStore` implements it): rows
of bytes under a namespace and a key, with conditional multi-row batches that are atomic.

Keys are kept as their UTF-8 bytes, whose lexicographic order is the order of the source's map.
-/

namespace MeshMine.Storage

open MeshMine.Types

inductive StorageError where
  | backend (message : String)
  | readOnly
  | invalidKey
  | scanLimit
  | paginationUnsupported
  | multipleConditionsUnsupported
deriving DecidableEq

structure ScanLimits where
  maximumRecords : Nat
  maximumValueBytes : Nat
  maximumTotalBytes : Nat

structure NamespaceRecord where
  key : List UInt8
  value : List UInt8
deriving DecidableEq

structure NamespacePage where
  records : List NamespaceRecord
  hasMore : Bool

structure Row where
  space : String
  key : List UInt8
deriving DecidableEq

/-- The source's `storage_key` joins both parts with a NUL, which neither part may contain. -/
def Row.valid (row : Row) : Bool :=
  !(asciiBytes row.space).contains 0 && !row.key.contains 0

inductive BatchOperation where
  | put (row : Row) (value : List UInt8)
  | delete (row : Row)

@[simp]
def BatchOperation.row : BatchOperation → Row
  | .put row _ => row
  | .delete row => row

@[simp]
def BatchOperation.result : BatchOperation → Option (List UInt8)
  | .put _ value => some value
  | .delete _ => none

structure BatchCondition where
  row : Row
  expected : Option (List UInt8)

def BatchCondition.absent (row : Row) : BatchCondition :=
  ⟨row, none⟩

def BatchCondition.equals (row : Row) (expected : List UInt8) : BatchCondition :=
  ⟨row, some expected⟩

abbrev Store := AList fun _ : Row => List UInt8

namespace Store

def find (store : Store) (row : Row) : Option (List UInt8) :=
  store.lookup row

def apply (store : Store) : BatchOperation → Store
  | .put row value => store.insert row value
  | .delete row => store.erase row

def applyAll (store : Store) (operations : List BatchOperation) : Store :=
  operations.foldl apply store

def satisfies (store : Store) (condition : BatchCondition) : Bool :=
  store.find condition.row = condition.expected

def get (store : Store) (row : Row) : Except StorageError (Option (List UInt8)) :=
  if row.valid then
    .ok (store.find row)
  else
    .error .invalidKey

def applyBatchIfAll (store : Store) (conditions : List BatchCondition)
    (operations : List BatchOperation)
    : Except StorageError Bool × Store :=
  if conditions.all (·.row.valid) && operations.all (·.row.valid) then
    if conditions.all store.satisfies then
      (.ok true, store.applyAll operations)
    else
      (.ok false, store)
  else
    (.error .invalidKey, store)

def inNamespace (store : Store) (space : String) : List NamespaceRecord :=
  let rows := store.entries.filter (·.1.space = space)
  (rows.map fun entry => NamespaceRecord.mk entry.1.key entry.2).insertionSort
    fun a b => a.key ≤ b.key

/-- The source's `append_scanned_record` for each row in turn; the totals are below `u64::MAX` when the bounds
hold. -/
def withinLimits (limits : ScanLimits) : Nat → Nat → List NamespaceRecord → Bool
  | _, _, [] => true
  | count, total, record :: records =>
    let nextTotal := total + (record.key.length + record.value.length)
    if limits.maximumRecords ≤ count ∨ limits.maximumValueBytes < record.value.length
        ∨ limits.maximumTotalBytes < nextTotal then
      false
    else
      withinLimits limits (count + 1) nextTotal records

def scanNamespace (store : Store) (space : String) (limits : ScanLimits)
    : Except StorageError (List NamespaceRecord) :=
  if (asciiBytes space).contains 0 then
    .error .invalidKey
  else if withinLimits limits 0 0 (store.inNamespace space) then
    .ok (store.inNamespace space)
  else
    .error .scanLimit

/-- The source's `append_page_record` for each row in turn; `count` and `total` are those of the page so far. -/
def pageRecords (limits : ScanLimits) : Nat → Nat → List NamespaceRecord → Except StorageError NamespacePage
  | _, _, [] => .ok ⟨[], false⟩
  | count, total, record :: records =>
    let recordBytes := record.key.length + record.value.length
    if limits.maximumValueBytes < record.value.length ∨ limits.maximumTotalBytes < recordBytes
        ∨ 2 ^ 64 ≤ total + recordBytes then
      .error .scanLimit
    else if limits.maximumRecords ≤ count ∨ limits.maximumTotalBytes < total + recordBytes then
      if count = 0 then .error .scanLimit else .ok ⟨[], true⟩
    else do
      let page ← pageRecords limits (count + 1) (total + recordBytes) records
      return { page with records := record :: page.records }

def scanNamespaceAfter (store : Store) (space : String) (exclusiveCursor : Option (List UInt8))
    (limits : ScanLimits)
    : Except StorageError NamespacePage :=
  if (asciiBytes space).contains 0 ∨ exclusiveCursor.any (·.contains 0) then
    .error .invalidKey
  else
    pageRecords limits 0 0
      ((store.inNamespace space).filter fun record => exclusiveCursor.all (· < record.key))

/-!
### Lookup after an operation
-/

theorem find_apply_put (store : Store) (row : Row) (value : List UInt8)
    : (store.apply (.put row value)).find row = some value := by
  exact AList.lookup_insert store

theorem find_apply_delete (store : Store) (row : Row)
    : (store.apply (.delete row)).find row = none := by
  exact AList.lookup_erase row store

variable {row : Row}

theorem find_apply_of_ne (store : Store) {operation : BatchOperation} (h : row ≠ operation.row)
    : (store.apply operation).find row = store.find row := by
  cases operation with
  | put target value => exact AList.lookup_insert_ne h
  | delete target => exact AList.lookup_erase_ne h

theorem find_apply (store : Store) (operation : BatchOperation) (row : Row)
    : (store.apply operation).find row
      = if operation.row = row then operation.result else store.find row := by
  split
  next h =>
    subst h
    cases operation with
    | put row value => exact find_apply_put store row value
    | delete row => exact find_apply_delete store row
  next h => exact find_apply_of_ne store (Ne.symm h)

theorem find_applyAll (store : Store) (operations : List BatchOperation) (row : Row)
    : (store.applyAll operations).find row
      = operations.foldl (fun found operation => if operation.row = row then operation.result else found)
          (store.find row) := by
  induction operations generalizing store with
  | nil => rfl
  | cons operation operations ih =>
    rw [List.foldl_cons, ← find_apply]
    exact ih (store.apply operation)

theorem applyAll_append (store : Store) (first second : List BatchOperation)
    : store.applyAll (first ++ second) = (store.applyAll first).applyAll second := by
  unfold applyAll
  rw [List.foldl_append]

variable {store : Store}

theorem find_applyAll_of_notMem {operations : List BatchOperation} (h : ∀ operation ∈ operations, operation.row ≠ row)
    : (store.applyAll operations).find row = store.find row := by
  induction operations generalizing store with
  | nil => rfl
  | cons operation operations ih =>
    rw [List.forall_mem_cons] at h
    exact (ih h.2).trans (find_apply_of_ne store (Ne.symm h.1))

/-- The operation that decides a row is the last one of the batch on it. -/
theorem find_applyAll_put {before after : List BatchOperation} {value : List UInt8}
    (h : ∀ operation ∈ after, operation.row ≠ row)
    : (store.applyAll (before ++ .put row value :: after)).find row = some value := by
  rw [applyAll_append]
  have hcons : ∀ s : Store, s.applyAll (.put row value :: after)
      = (s.apply (.put row value)).applyAll after := fun _ => rfl
  rw [hcons, find_applyAll_of_notMem h, find_apply_put]

variable {store' : Store}

theorem find_applyAll_congr (h : store.find row = store'.find row) (operations : List BatchOperation)
    : (store.applyAll operations).find row = (store'.applyAll operations).find row := by
  rw [find_applyAll, find_applyAll, h]

theorem satisfies_iff {condition : BatchCondition}
    : store.satisfies condition = true ↔ store.find condition.row = condition.expected := by
  unfold satisfies
  exact decide_eq_true_iff

variable {space : String}

theorem mem_inNamespace {record : NamespaceRecord}
    : record ∈ store.inNamespace space ↔ store.find ⟨space, record.key⟩ = some record.value := by
  unfold inNamespace
  rw [(List.perm_insertionSort _ _).mem_iff, List.mem_map]
  constructor
  . rintro ⟨⟨row, value⟩, hmem, rfl⟩
    obtain ⟨hentry, hspace⟩ := List.mem_filter.mp hmem
    have hrow : row = ⟨space, row.key⟩ := by
      rw [← of_decide_eq_true hspace]
    rw [hrow] at hentry
    exact AList.mem_lookup_iff.mpr hentry
  . intro hfind
    refine ⟨⟨⟨space, record.key⟩, record.value⟩, List.mem_filter.mpr ⟨?_, ?_⟩, rfl⟩
    . exact AList.mem_lookup_iff.mp hfind
    . exact decide_eq_true rfl

theorem nodup_inNamespace (store : Store) (space : String) : (store.inNamespace space).Nodup := by
  unfold inNamespace
  rw [(List.perm_insertionSort _ _).nodup_iff]
  apply List.Nodup.map_on _ (store.nodupKeys.nodup.filter _)
  intro a ha b hb heq
  have hspace := of_decide_eq_true (List.mem_filter.mp ha).2
  have hspace' := of_decide_eq_true (List.mem_filter.mp hb).2
  obtain ⟨⟨_, _⟩, _⟩ := a
  obtain ⟨⟨_, _⟩, _⟩ := b
  simp_all

theorem perm_inNamespace_of_find (h : ∀ key, store'.find ⟨space, key⟩ = store.find ⟨space, key⟩)
    : (store'.inNamespace space).Perm (store.inNamespace space) := by
  rw [List.perm_ext_iff_of_nodup (nodup_inNamespace _ _) (nodup_inNamespace _ _)]
  intro record
  rw [mem_inNamespace, mem_inNamespace, h]

theorem perm_inNamespace_cons {key value : List UInt8} (habsent : store.find ⟨space, key⟩ = none)
    (hput : store'.find ⟨space, key⟩ = some value)
    (hothers : ∀ other, other ≠ key → store'.find ⟨space, other⟩ = store.find ⟨space, other⟩)
    : (store'.inNamespace space).Perm (⟨key, value⟩ :: store.inNamespace space) := by
  have hfresh : (⟨key, value⟩ : NamespaceRecord) ∉ store.inNamespace space := by
    rw [mem_inNamespace, habsent]
    simp
  rw [List.perm_ext_iff_of_nodup (nodup_inNamespace _ _)
    (List.nodup_cons.mpr ⟨hfresh, nodup_inNamespace _ _⟩)]
  rintro ⟨other, bytes⟩
  rw [List.mem_cons, mem_inNamespace, mem_inNamespace]
  by_cases hkey : other = key
  . subst hkey
    simp [habsent, hput, eq_comm]
  . simp [hothers other hkey, hkey]

end Store

/-!
### Programs over the store
-/

inductive StoreOp where
  | get (row : Row)
  | applyBatchIfAll (conditions : List BatchCondition) (operations : List BatchOperation)
  | scanNamespace (space : String) (limits : ScanLimits)
  | scanNamespaceAfter (space : String) (exclusiveCursor : Option (List UInt8)) (limits : ScanLimits)

def StoreOp.Res : StoreOp → Type
  | .get _ => Option (List UInt8)
  | .applyBatchIfAll _ _ => Bool
  | .scanNamespace _ _ => List NamespaceRecord
  | .scanNamespaceAfter _ _ _ => NamespacePage

def didNotStabilize : StorageError :=
  .backend "immutable journal conditions did not stabilize"

/-- A call may fail for the backend's own reasons, in any way but with the text that only the journal itself raises;
then it has written nothing. -/
def storeMachine : Machine Store StorageError where
  Op := StoreOp
  Res := StoreOp.Res
  exec
    | .get row, store => (store.get row, store)
    | .applyBatchIfAll conditions operations, store => store.applyBatchIfAll conditions operations
    | .scanNamespace space limits, store => (store.scanNamespace space limits, store)
    | .scanNamespaceAfter space cursor limits, store => (store.scanNamespaceAfter space cursor limits, store)
  Fault error := error ≠ didNotStabilize

section

variable {s s' : Store}

theorem answers_get {row : Row} {answer : Except StorageError (storeMachine.Res (.get row))}
    (h : storeMachine.Answers (.get row) s answer s')
    : s' = s ∧ (answer = .ok (s.find row) ∨ ∃ e, e ≠ didNotStabilize ∧ answer = .error e) := by
  cases h with
  | exec =>
    refine ⟨rfl, ?_⟩
    change s.get row = _ ∨ ∃ e, _ ∧ s.get row = _
    unfold Store.get
    split
    . exact .inl rfl
    . exact .inr ⟨.invalidKey, by decide, rfl⟩
  | fault h => exact ⟨rfl, .inr ⟨_, h, rfl⟩⟩

theorem answers_applyBatchIfAll {conditions : List BatchCondition} {operations : List BatchOperation}
    {answer : Except StorageError (storeMachine.Res (.applyBatchIfAll conditions operations))}
    (h : storeMachine.Answers (.applyBatchIfAll conditions operations) s answer s')
    : (answer = .ok true ∧ s' = s.applyAll operations ∧ ∀ c ∈ conditions, s.find c.row = c.expected)
      ∨ s' = s ∧ ((answer = .ok false ∧ ∃ c ∈ conditions, s.find c.row ≠ c.expected)
        ∨ ∃ e, e ≠ didNotStabilize ∧ answer = .error e) := by
  cases h with
  | exec =>
    change ((s.applyBatchIfAll conditions operations).1 = _ ∧ (s.applyBatchIfAll conditions operations).2 = _ ∧ _)
      ∨ (s.applyBatchIfAll conditions operations).2 = _
        ∧ (((s.applyBatchIfAll conditions operations).1 = _ ∧ _)
          ∨ ∃ e, _ ∧ (s.applyBatchIfAll conditions operations).1 = _)
    unfold Store.applyBatchIfAll
    split
    . split
      next hall =>
        left
        refine ⟨rfl, rfl, ?_⟩
        intro condition hmem
        rw [← Store.satisfies_iff]
        exact List.all_eq_true.mp hall condition hmem
      next hall =>
        rw [List.all_eq_true] at hall
        push Not at hall
        obtain ⟨condition, hmem, hcondition⟩ := hall
        refine .inr ⟨rfl, .inl ⟨rfl, condition, hmem, ?_⟩⟩
        rw [ne_eq, ← Store.satisfies_iff]
        exact hcondition
    . exact .inr ⟨rfl, .inr ⟨.invalidKey, by decide, rfl⟩⟩
  | fault h => exact .inr ⟨rfl, .inr ⟨_, h, rfl⟩⟩

end

/-- The trait `From<StorageError>`, which the source's `?` goes through. -/
class FromStorageError (E : Type) where
  ofStorage : StorageError → E

abbrev StoreM (E : Type) := ExceptT E (Program storeMachine)

namespace StoreM

variable {E : Type} [FromStorageError E]

def call (op : StoreOp) : StoreM E (StoreOp.Res op) :=
  ExceptT.mk do
    match ← Program.perform (M := storeMachine) op with
    | .ok answer => return .ok answer
    | .error error => return .error (FromStorageError.ofStorage error)

def ofExcept {E α : Type} (x : Except E α) : StoreM E α :=
  ExceptT.mk (pure x)

def adapt {E E' α : Type} (f : E → E') (x : StoreM E α) : StoreM E' α :=
  ExceptT.mk do
    return (← x.run).mapError f

def get (row : Row) : StoreM E (Option (List UInt8)) :=
  call (.get row)

def applyBatchIfAll (conditions : List BatchCondition) (operations : List BatchOperation)
    : StoreM E Bool :=
  call (.applyBatchIfAll conditions operations)

def scanNamespace (space : String) (limits : ScanLimits) : StoreM E (List NamespaceRecord) :=
  call (.scanNamespace space limits)

def scanNamespaceAfter (space : String) (exclusiveCursor : Option (List UInt8)) (limits : ScanLimits)
    : StoreM E NamespacePage :=
  call (.scanNamespaceAfter space exclusiveCursor limits)

def compareAndSwap (row : Row) (expected : Option (List UInt8)) (value : List UInt8)
    : StoreM E Bool :=
  applyBatchIfAll [⟨row, expected⟩] [.put row value]

def putIfAbsent (row : Row) (value : List UInt8) : StoreM E Bool :=
  compareAndSwap row none value

def delete (row : Row) : StoreM E Unit := do
  let _ ← applyBatchIfAll [] [.delete row]

def applyBatch (operations : List BatchOperation) : StoreM E Unit := do
  let _ ← applyBatchIfAll [] operations

end StoreM

end MeshMine.Storage
