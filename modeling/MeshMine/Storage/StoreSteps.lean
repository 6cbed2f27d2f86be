import MeshMine.Concurrency.Crash
import MeshMine.Storage.Store

/-!
Rules for store programs that run undisturbed. `StoreM.Ends T x s Q F` says that every call of `x` from `s`
on makes a step of `T`, that a result satisfies `Q` and that after an error `F` holds.
-/

namespace MeshMine.Storage.StoreM

variable {E : Type} {α β : Type} {T : Store → Store → Prop} {s : Store}

def Outcome (Q : α → Store → Prop) (F : Store → Prop) : Except E α → Store → Prop
  | .ok a, s => Q a s
  | .error _, s => F s

def Ends (T : Store → Store → Prop) (x : StoreM E α) (s : Store) (Q : α → Store → Prop)
    (F : Store → Prop) : Prop :=
  Program.Always T (Outcome Q F) x.run s

variable {Q : α → Store → Prop} {F : Store → Prop} {x : StoreM E α} {f : α → StoreM E β} {a : α} {Q' : β → Store → Prop}
  {row : Row} {operations : List BatchOperation} {as : List α} {op : StoreOp} {conditions : List BatchCondition}

namespace Ends

theorem mono {Q' : α → Store → Prop} {F' : Store → Prop} (h : Ends T x s Q F) (hQ : ∀ a s, Q a s → Q' a s)
    (hF : ∀ s, F s → F' s)
    : Ends T x s Q' F' := by
  apply Program.Always.mono h (fun _ _ hstep => hstep)
  intro result s' hresult
  cases result with
  | ok a => exact hQ a s' hresult
  | error e => exact hF s' hresult

theorem ite {c : Prop} [Decidable c] {y : StoreM E α} (hthen : c → Ends T x s Q F) (helse : ¬ c → Ends T y s Q F)
    : Ends T (if c then x else y) s Q F := by
  split
  next h => exact hthen h
  next h => exact helse h

theorem ofExcept {x : Except E α} (hok : ∀ a, x = .ok a → Q a s) (herror : F s)
    : Ends T (StoreM.ofExcept x) s Q F := by
  cases x with
  | ok a => exact hok a rfl
  | error e => exact herror

theorem adapt {E' : Type} {f : E → E'} (h : Ends T x s Q F)
    : Ends T (StoreM.adapt f x) s Q F := by
  apply Program.Always.seq h
  intro result s' hresult
  cases result with
  | ok a => exact hresult
  | error e => exact hresult

theorem bind (h : Ends T x s (fun a s' => Ends T (f a) s' Q' F) F)
    : Ends T (x >>= f) s Q' F := by
  unfold Ends
  rw [ExceptT.run_bind]
  apply Program.Always.seq h
  intro result s' hresult
  cases result with
  | ok a => exact hresult
  | error e => exact hresult

theorem seq (h : Ends T x s Q F) (hf : ∀ a s', Q a s' → Ends T (f a) s' Q' F)
    : Ends T (x >>= f) s Q' F :=
  bind (h.mono hf fun _ h => h)

theorem bind_ofExcept {x : Except E α} (hok : ∀ a, x = .ok a → Ends T (f a) s Q' F) (herror : F s)
    : Ends T (StoreM.ofExcept x >>= f) s Q' F := by
  apply bind
  exact ofExcept hok herror

theorem mapM (h : ∀ a ∈ as, ∀ s, Ends T (f a) s (fun _ _ => True) F)
    : Ends T (as.mapM f) s (fun _ _ => True) F := by
  induction as generalizing s with
  | nil => exact trivial
  | cons a as ih =>
    rw [List.mapM_cons]
    rw [List.forall_mem_cons] at h
    apply bind
    apply mono (h.1 s) _ (fun _ h => h)
    intro b s' _
    apply bind
    apply mono (ih h.2) _ (fun _ h => h)
    intro bs s'' _
    exact trivial

variable [FromStorageError E]

theorem call {Q : StoreOp.Res op → Store → Prop} (h : ∀ answer s', storeMachine.Answers op s answer s' → T s s'
      ∧ Outcome Q F answer s')
    : Ends T (StoreM.call op : StoreM E _) s Q F := by
  apply Program.Always.bind
  intro answer s' hanswer
  obtain ⟨hstep, hresult⟩ := h answer s' hanswer
  refine ⟨hstep, ?_⟩
  cases answer with
  | ok a => exact hresult
  | error e => exact hresult

theorem get {Q : Option (List UInt8) → Store → Prop} (hstep : T s s) (hok : Q (s.find row) s) (herror : F s)
    : Ends T (StoreM.get row : StoreM E _) s Q F := by
  apply call
  intro answer s' hanswer
  obtain ⟨rfl, rfl | ⟨e, _, rfl⟩⟩ := answers_get hanswer
  . exact ⟨hstep, hok⟩
  . exact ⟨hstep, herror⟩

theorem bind_get {f : Option (List UInt8) → StoreM E β} (hstep : T s s) (hok : Ends T (f (s.find row)) s Q' F)
    (herror : F s)
    : Ends T (StoreM.get row >>= f) s Q' F := by
  apply bind
  exact get hstep hok herror

variable {space : String} {limits : ScanLimits}

theorem scanNamespace {Q : List NamespaceRecord → Store → Prop} (hstep : T s s) (hok : Q (s.inNamespace space) s)
    (herror : F s)
    : Ends T (StoreM.scanNamespace space limits : StoreM E _) s Q F := by
  apply call
  intro answer s' hanswer
  cases hanswer with
  | exec =>
    refine ⟨hstep, ?_⟩
    change Outcome Q F (s.scanNamespace space limits) s
    unfold Store.scanNamespace
    split
    . exact herror
    . split
      . exact hok
      . exact herror
  | fault => exact ⟨hstep, herror⟩

theorem scanNamespaceAfter {cursor : Option (List UInt8)} {Q : NamespacePage → Store → Prop} (hstep : T s s)
    (hok : ∀ page, s.scanNamespaceAfter space cursor limits = .ok page → Q page s) (herror : F s)
    : Ends T (StoreM.scanNamespaceAfter space cursor limits : StoreM E _) s Q F := by
  apply call
  intro answer s' hanswer
  cases hanswer with
  | exec =>
    refine ⟨hstep, ?_⟩
    change Outcome Q F (s.scanNamespaceAfter space cursor limits) s
    cases hpage : s.scanNamespaceAfter space cursor limits with
    | ok page => exact hok page hpage
    | error e => exact herror
  | fault => exact ⟨hstep, herror⟩

theorem applyBatchIfAll {Q : Bool → Store → Prop} (hstep : T s s)
    (happlied : (∀ c ∈ conditions, s.find c.row = c.expected)
      → T s (s.applyAll operations) ∧ Q true (s.applyAll operations))
    (hrefused : (∃ c ∈ conditions, s.find c.row ≠ c.expected) → Q false s) (herror : F s)
    : Ends T (StoreM.applyBatchIfAll conditions operations : StoreM E _) s Q F := by
  apply call
  intro answer s' hanswer
  obtain ⟨rfl, rfl, hall⟩ | ⟨rfl, ⟨rfl, hsome⟩ | ⟨e, _, rfl⟩⟩ := answers_applyBatchIfAll hanswer
  . exact happlied hall
  . exact ⟨hstep, hrefused hsome⟩
  . exact ⟨hstep, herror⟩

theorem applyBatch {Q : Unit → Store → Prop} (hstep : T s s)
    (happlied : T s (s.applyAll operations) ∧ Q () (s.applyAll operations)) (herror : F s)
    : Ends T (StoreM.applyBatch operations : StoreM E _) s Q F := by
  apply bind
  apply applyBatchIfAll hstep
  . intro _
    exact happlied
  . rintro ⟨_, hmem, _⟩
    contradiction
  . exact herror

end Ends

/-!
The same with the errors told apart: `StoreM.Settles T x s Q F` says that a result satisfies `Q` and an
error `F`.
-/

def Settled (Q : α → Store → Prop) (F : E → Prop) : Except E α → Store → Prop
  | .ok a, s => Q a s
  | .error e, _ => F e

def Settles (T : Store → Store → Prop) (x : StoreM E α) (s : Store) (Q : α → Store → Prop) (F : E → Prop) : Prop :=
  Program.Always T (Settled Q F) x.run s

namespace Settles

variable {F : E → Prop}

theorem mono {Q' : α → Store → Prop} (h : Settles T x s Q F) (hQ : ∀ a s, Q a s → Q' a s)
    : Settles T x s Q' F := by
  apply Program.Always.mono h (fun _ _ hstep => hstep)
  intro result s' hresult
  cases result with
  | ok a => exact hQ a s' hresult
  | error e => exact hresult

theorem pure (h : Q a s) : Settles T (pure a : StoreM E α) s Q F := h

theorem ofExcept {x : Except E α} (hok : ∀ a, x = .ok a → Q a s) (herror : ∀ e, x = .error e → F e)
    : Settles T (StoreM.ofExcept x) s Q F := by
  cases x with
  | ok a => exact hok a rfl
  | error e => exact herror e rfl

theorem bind (h : Settles T x s (fun a s' => Settles T (f a) s' Q' F) F)
    : Settles T (x >>= f) s Q' F := by
  unfold Settles
  rw [ExceptT.run_bind]
  apply Program.Always.seq h
  intro result s' hresult
  cases result with
  | ok a => exact hresult
  | error e => exact hresult

theorem bind_ok {x : Except E α} (hx : x = .ok a) (h : Settles T (f a) s Q' F)
    : Settles T (StoreM.ofExcept x >>= f) s Q' F := by
  rw [hx]
  exact h

variable {I : Store → Prop}

theorem along (h : Settles T x s Q F) (hI : ∀ s s', I s → T s s' → I s') (hs : I s)
    : Settles T x s (fun a s' => I s' ∧ Q a s') F := by
  have halong := Program.Always.along (R := fun s s' => I s → I s') (fun _ => id)
    (fun _ _ _ hab hbc ha => hbc (hab ha)) (fun s s' hstep hs => hI s s' hs hstep) h
  apply Program.Always.mono halong (fun _ _ hstep => hstep)
  intro result s' hresult
  cases result with
  | ok a => exact ⟨hresult.1 hs, hresult.2⟩
  | error e => exact hresult.2

theorem mapM {Q : α → β → Store → Prop} (hI : ∀ s s', I s → T s s' → I s')
    (hQ : ∀ a b s s', Q a b s → T s s' → Q a b s') (h : ∀ a ∈ as, ∀ s, I s → Settles T (f a) s (Q a) F) (hs : I s)
    : Settles T (as.mapM f) s (fun bs s' => I s' ∧ List.Forall₂ (fun a b => Q a b s') as bs) F := by
  induction as generalizing s with
  | nil => exact ⟨hs, .nil⟩
  | cons a as ih =>
    rw [List.mapM_cons]
    rw [List.forall_mem_cons] at h
    apply bind
    apply mono ((h.1 s hs).along hI hs)
    rintro b s' ⟨hs', hb⟩
    apply bind
    apply mono ((ih h.2 hs').along (hQ a b) hb)
    rintro bs s'' ⟨hb, hs'', hbs⟩
    exact ⟨hs'', .cons hb hbs⟩

variable [FromStorageError E] (hF : ∀ e, F (FromStorageError.ofStorage e))

include hF

theorem call {Q : StoreOp.Res op → Store → Prop}
    (h : ∀ answer s', storeMachine.Answers op s answer s' → T s s' ∧ ∀ a, answer = .ok a → Q a s')
    : Settles T (StoreM.call op : StoreM E _) s Q F := by
  apply Program.Always.bind
  intro answer s' hanswer
  obtain ⟨hstep, hresult⟩ := h answer s' hanswer
  refine ⟨hstep, ?_⟩
  cases answer with
  | ok a => exact hresult a rfl
  | error e => exact hF e

theorem get {Q : Option (List UInt8) → Store → Prop} (hstep : T s s) (hok : Q (s.find row) s)
    : Settles T (StoreM.get row : StoreM E _) s Q F := by
  apply call hF
  intro answer s' hanswer
  obtain ⟨rfl, rfl | ⟨e, _, rfl⟩⟩ := answers_get hanswer
  . refine ⟨hstep, ?_⟩
    rintro a ⟨⟩
    exact hok
  . exact ⟨hstep, fun _ h => by contradiction⟩

theorem applyBatchIfAll {Q : Bool → Store → Prop} (hstep : T s s)
    (happlied : (∀ c ∈ conditions, s.find c.row = c.expected)
      → T s (s.applyAll operations) ∧ Q true (s.applyAll operations))
    (hrefused : (∃ c ∈ conditions, s.find c.row ≠ c.expected) → Q false s)
    : Settles T (StoreM.applyBatchIfAll conditions operations : StoreM E _) s Q F := by
  apply call hF
  intro answer s' hanswer
  obtain ⟨rfl, rfl, hall⟩ | ⟨rfl, ⟨rfl, hsome⟩ | ⟨e, _, rfl⟩⟩ := answers_applyBatchIfAll hanswer
  . refine ⟨(happlied hall).1, ?_⟩
    rintro a ⟨⟩
    exact (happlied hall).2
  . refine ⟨hstep, ?_⟩
    rintro a ⟨⟩
    exact hrefused hsome
  . exact ⟨hstep, fun _ h => by contradiction⟩

theorem putIfAbsent {value : List UInt8} {Q : Bool → Store → Prop} (hstep : T s s)
    (habsent : s.find row = none → T s (s.apply (.put row value)) ∧ Q true (s.apply (.put row value)))
    (hpresent : s.find row ≠ none → Q false s)
    : Settles T (StoreM.putIfAbsent row value : StoreM E _) s Q F := by
  apply applyBatchIfAll hF hstep
  . intro hall
    exact habsent (hall _ (List.mem_singleton_self _))
  . rintro ⟨condition, hmem, hne⟩
    rw [List.mem_singleton] at hmem
    subst hmem
    exact hpresent hne

end Settles

end MeshMine.Storage.StoreM
