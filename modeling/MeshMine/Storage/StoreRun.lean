import MeshMine.Data.Except
import MeshMine.Storage.Store

/-!
Store programs that run alone and succeed. `StoreM.Yields x s a s'` says that `x`, from `s` on, returns `a`
and leaves `s'`; its rules are equivalences, so that they take a successful run apart and put one together.
-/

namespace MeshMine.Storage.StoreM

variable {E α β : Type} {s s' : Store}

def Yields (x : StoreM E α) (s : Store) (a : α) (s' : Store) : Prop :=
  x.run.run s = (.ok a, s')

variable {x : StoreM E α} {a : α}

theorem exists_yields_of_eq (h : (x.run.run s).1 = .ok a)
    : ∃ s', Yields x s a s' :=
  ⟨_, Prod.ext h rfl⟩

theorem exists_yields (h : (x.run.run s).1.toOption.isSome)
    : ∃ a s', Yields x s a s' := by
  obtain ⟨a, ha⟩ := Option.isSome_iff_exists.mp h
  exact ⟨a, exists_yields_of_eq (Except.toOption_eq_some.mp ha)⟩

@[simp]
theorem yields_pure {b : α} : Yields (pure a : StoreM E α) s b s' ↔ a = b ∧ s' = s := by
  change (Except.ok a, s) = (.ok b, s') ↔ _
  simp [eq_comm]

@[simp]
theorem yields_ofExcept {x : Except E α} : Yields (ofExcept x) s a s' ↔ x = .ok a ∧ s' = s := by
  change (x, s) = (.ok a, s') ↔ _
  simp [eq_comm]

variable {f : α → StoreM E β}

@[simp]
theorem yields_bind {b : β}
    : Yields (x >>= f) s b s' ↔ ∃ a t, Yields x s a t ∧ Yields (f a) t b s' := by
  unfold Yields
  rw [ExceptT.run_bind, Program.run_bind]
  rcases x.run.run s with ⟨result, t⟩
  cases result with
  | ok a => simp
  | error e => simp

theorem run_bind_of_yields (h : Yields x s a s')
    : (x >>= f).run.run s = (f a).run.run s' := by
  unfold Yields at h
  rw [ExceptT.run_bind, Program.run_bind, h]

theorem run_bind_ofExcept {x : Except E α}
    : (ofExcept x >>= f).run.run s = match x with
        | .ok a => (f a).run.run s
        | .error e => (.error e, s) := by
  cases x <;> rfl

@[simp]
theorem yields_adapt {E' : Type} {f : E → E'}
    : Yields (adapt f x) s a s' ↔ Yields x s a s' := by
  unfold Yields adapt
  change (x.run >>= fun result => Program.pure (result.mapError f)).run s = _ ↔ _
  rw [Program.run_bind]
  rcases x.run.run s with ⟨result, t⟩
  cases result with
  | ok a => simp [Except.mapError]
  | error e => simp [Except.mapError]

variable [FromStorageError E]

theorem yields_call {op : StoreOp} {a : StoreOp.Res op}
    : Yields (call op : StoreM E _) s a s'
      ↔ (storeMachine.exec op s).1 = .ok a ∧ (storeMachine.exec op s).2 = s' := by
  unfold Yields
  have hrun : (call op : StoreM E _).run.run s
      = ((storeMachine.exec op s).1.mapError FromStorageError.ofStorage, (storeMachine.exec op s).2) := by
    have hperform : (Program.perform (M := storeMachine) op).run s = storeMachine.exec op s := rfl
    refine (Program.run_bind (Program.perform (M := storeMachine) op) _ s).trans ?_
    rw [hperform]
    cases (storeMachine.exec op s).1 <;> rfl
  rw [hrun]
  refine Prod.mk_inj.trans (and_congr_left fun _ => ?_)
  exact Except.mapError_eq_ok

variable {row : Row}

@[simp]
theorem yields_get {a : Option (List UInt8)}
    : Yields (get row : StoreM E _) s a s' ↔ row.valid ∧ a = s.find row ∧ s' = s := by
  refine yields_call.trans ?_
  change s.get row = .ok a ∧ s = s' ↔ _
  unfold Store.get
  split <;> simp [*, eq_comm]

@[simp]
theorem yields_scanNamespace {space : String} {limits : ScanLimits} {a : List NamespaceRecord}
    : Yields (scanNamespace space limits : StoreM E _) s a s'
      ↔ s.scanNamespace space limits = .ok a ∧ s' = s := by
  refine yields_call.trans ?_
  change _ ∧ s = s' ↔ _
  simp only [eq_comm]
  rfl

variable {conditions : List BatchCondition} {operations : List BatchOperation}

@[simp]
theorem yields_applyBatchIfAll {applied : Bool}
    : Yields (applyBatchIfAll conditions operations : StoreM E _) s applied s'
      ↔ (∀ c ∈ conditions, c.row.valid) ∧ (∀ o ∈ operations, o.row.valid)
        ∧ applied = conditions.all s.satisfies
        ∧ s' = if conditions.all s.satisfies then s.applyAll operations else s := by
  refine yields_call.trans ?_
  change (s.applyBatchIfAll conditions operations).1 = .ok applied
    ∧ (s.applyBatchIfAll conditions operations).2 = s' ↔ _
  unfold Store.applyBatchIfAll
  by_cases hvalid : (conditions.all (·.row.valid) && operations.all (·.row.valid)) = true
  . rw [if_pos hvalid]
    rw [Bool.and_eq_true, List.all_eq_true, List.all_eq_true] at hvalid
    have hrest : (applied = conditions.all s.satisfies
        ∧ s' = if conditions.all s.satisfies then s.applyAll operations else s) ↔ (∀ c ∈ conditions, c.row.valid)
          ∧ (∀ o ∈ operations, o.row.valid) ∧ applied = conditions.all s.satisfies
          ∧ s' = if conditions.all s.satisfies then s.applyAll operations else s :=
      ⟨fun h => ⟨hvalid.1, hvalid.2, h⟩, fun h => h.2.2⟩
    refine Iff.trans ?_ hrest
    split
    next hall => simp [hall, eq_comm]
    next hall => simp [hall, eq_comm]
  . rw [if_neg hvalid]
    rw [Bool.and_eq_true, List.all_eq_true, List.all_eq_true] at hvalid
    constructor
    . rintro ⟨h, _⟩
      contradiction
    . rintro ⟨hconditions, hoperations, _⟩
      exact absurd ⟨hconditions, hoperations⟩ hvalid

@[simp]
theorem yields_putIfAbsent {value : List UInt8} {absent : Bool}
    : Yields (putIfAbsent row value : StoreM E _) s absent s'
      ↔ row.valid ∧ absent = (s.find row).isNone
        ∧ s' = if (s.find row).isNone then s.apply (.put row value) else s := by
  have hall : [(⟨row, none⟩ : BatchCondition)].all s.satisfies = (s.find row).isNone := by
    rw [List.all_cons, List.all_nil, Bool.and_true, Bool.eq_iff_iff, Store.satisfies_iff, Option.isNone_iff_eq_none]
  unfold putIfAbsent compareAndSwap
  rw [yields_applyBatchIfAll, hall]
  simp only [List.forall_mem_singleton, BatchOperation.row]
  tauto

theorem run_bind_get (hvalid : row.valid = true) {f : Option (List UInt8) → StoreM E β}
    : (get row >>= f).run.run s = (f (s.find row)).run.run s :=
  run_bind_of_yields (yields_get.mpr ⟨hvalid, rfl, rfl⟩)

theorem run_bind_applyBatchIfAll (hconditions : ∀ c ∈ conditions, c.row.valid)
    (hoperations : ∀ o ∈ operations, o.row.valid) {f : Bool → StoreM E β}
    : (applyBatchIfAll conditions operations >>= f).run.run s
      = if conditions.all s.satisfies then (f true).run.run (s.applyAll operations)
        else (f false).run.run s := by
  rw [run_bind_of_yields (yields_applyBatchIfAll.mpr ⟨hconditions, hoperations, rfl, rfl⟩)]
  split
  next h => rw [h]
  next h =>
    rw [Bool.not_eq_true] at h
    rw [h]

end MeshMine.Storage.StoreM
