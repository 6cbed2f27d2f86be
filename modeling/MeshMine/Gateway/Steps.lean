import MeshMine.Gateway.Operations
import MeshMine.Storage.StoreSteps

/-!
What the operations of the gateway do, call by call. The bookkeeping of jobs writes only its own namespaces
and leaves the queue of captures alone; the queue in memory mirrors the capture rows of the store, and
submissions, hand-overs and restarts keep it that way.
-/

namespace MeshMine.Gateway

open Storage
open Except (rejectIf)

namespace GatewayM

variable {α β : Type} {T : Store → Store → Prop} {g : Gateway} {s : Store}

def Outcome (Q : α → Gateway → Store → Prop) (F : Gateway → Store → Prop)
    : Except GatewayError α × Gateway → Store → Prop
  | (.ok a, g), s => Q a g s
  | (.error _, g), s => F g s

def Ends (T : Store → Store → Prop) (x : GatewayM α) (g : Gateway) (s : Store)
    (Q : α → Gateway → Store → Prop) (F : Gateway → Store → Prop) : Prop :=
  Program.Always T (Outcome Q F) (x.run.run g) s

variable {Q : α → Gateway → Store → Prop} {F : Gateway → Store → Prop}

namespace Ends

theorem mono {x : GatewayM α} {T' : Store → Store → Prop} {Q' : α → Gateway → Store → Prop}
    {F' : Gateway → Store → Prop} (h : Ends T x g s Q F) (hT : ∀ s s', T s s' → T' s s')
    (hQ : ∀ a g s, Q a g s → Q' a g s) (hF : ∀ g s, F g s → F' g s)
    : Ends T' x g s Q' F' := by
  apply Program.Always.mono h hT
  rintro ⟨result, g'⟩ s' hresult
  cases result with
  | ok a => exact hQ a g' s' hresult
  | error e => exact hF g' s' hresult

theorem bind {Q' : β → Gateway → Store → Prop} {x : GatewayM α} {f : α → GatewayM β}
    (h : Ends T x g s (fun a g' s' => Ends T (f a) g' s' Q' F) F)
    : Ends T (x >>= f) g s Q' F := by
  unfold Ends
  rw [ExceptT.run_bind, StateT.run_bind]
  apply Program.Always.seq h
  rintro ⟨result, g'⟩ s' hresult
  cases result with
  | ok a => exact hresult
  | error e => exact hresult

theorem ofStore {x : StoreM GatewayError α} (h : StoreM.Ends T x s (fun a s' => Q a g s') (fun s' => F g s'))
    : Ends T (GatewayM.ofStore x) g s Q F := by
  apply Program.Always.seq h
  intro result s' hresult
  cases result with
  | ok a => exact hresult
  | error e => exact hresult

theorem checked {x : Except GatewayError α} (hok : ∀ a, x = .ok a → Q a g s) (herror : F g s)
    : Ends T (GatewayM.checked x) g s Q F := by
  cases x with
  | ok a => exact hok a rfl
  | error e => exact herror

theorem memory {Q : Gateway → Gateway → Store → Prop} (h : Q g g s)
    : Ends T GatewayM.memory g s Q F := h

theorem update {f : Gateway → Gateway} {Q : Unit → Gateway → Store → Prop} (h : Q () (f g) s)
    : Ends T (GatewayM.update f) g s Q F := h

variable {error : GatewayError}

theorem expect {value : Option α} (hok : ∀ a, value = some a → Q a g s) (herror : F g s)
    : Ends T (GatewayM.expect value error) g s Q F := by
  cases value with
  | none => exact herror
  | some a => exact hok a rfl

theorem expect_some {value : Option α} {a : α} (hvalue : value = some a) (h : Q a g s)
    : Ends T (GatewayM.expect value error) g s Q F := by
  rw [hvalue]
  exact h

theorem refuseIf_of_not {condition : Prop} [Decidable condition]
    {Q : Unit → Gateway → Store → Prop} (hnot : ¬ condition) (h : Q () g s)
    : Ends T (GatewayM.refuseIf condition error) g s Q F := by
  unfold GatewayM.refuseIf
  rw [Except.rejectIf_of_not hnot]
  exact h

theorem refuseIf {condition : Prop} [Decidable condition]
    {Q : Unit → Gateway → Store → Prop} (hok : ¬ condition → Q () g s) (herror : F g s)
    : Ends T (GatewayM.refuseIf condition error) g s Q F := by
  apply checked
  . intro u hu
    exact hok (Except.rejectIf_eq_ok.mp hu)
  . exact herror

end Ends

end GatewayM

open GatewayM (Ends)

/-!
### The bookkeeping of jobs
-/

def jobSpaces : List String :=
  [sequenceRow.space, assignmentSpace, assignmentStateSpace, currentAssignmentRow.space,
    (assignmentPrefixPolicyRow 0).space, retiringAssignmentSpace, (retiredJobRow []).space,
    captureTombstoneSpace]

def JobStep (s s' : Store) : Prop :=
  ∀ row : Row, row.space ∉ jobSpaces → s'.find row = s.find row

theorem JobStep.refl (s : Store) : JobStep s s := fun _ _ => rfl

variable {operations : List BatchOperation}

theorem JobStep.applyAll {s : Store} (h : ∀ operation ∈ operations, operation.row.space ∈ jobSpaces)
    : JobStep s (s.applyAll operations) := by
  intro row hrow
  apply Store.find_applyAll_of_notMem
  intro operation hmem heq
  apply hrow
  rw [← heq]
  exact h operation hmem

structure Retains (g g' : Gateway) : Prop where
  forwarded : g'.forwarded = g.forwarded
  pending : ∀ sequence, pendingCaptures g' sequence = pendingCaptures g sequence
  jobs : ∀ id ∈ g'.jobs, id ∈ g.jobs ∨ id.length ≤ 64

theorem Retains.refl (g : Gateway) : Retains g g :=
  ⟨rfl, fun _ => rfl, fun _ h => Or.inl h⟩

theorem Retains.trans {g g' g'' : Gateway} (h : Retains g g') (h' : Retains g' g'')
    : Retains g g'' := by
  refine ⟨h'.forwarded.trans h.forwarded, ?_, ?_⟩
  . intro sequence
    rw [h'.pending, h.pending]
  . intro id hid
    rcases h'.jobs id hid with hmem | hshort
    . exact h.jobs id hmem
    . exact Or.inr hshort

def Bookkeeping {α : Type} (x : GatewayM α) : Prop :=
  ∀ g s, Ends JobStep x g s (fun _ g' _ => Retains g g') (fun g' _ => Retains g g')

namespace Bookkeeping

variable {α β : Type}

theorem seq {x : GatewayM α} {f : α → GatewayM β} (hx : Bookkeeping x) (hf : ∀ a, Bookkeeping (f a))
    : Bookkeeping (x >>= f) := by
  intro g s
  apply Ends.bind
  apply (hx g s).mono (fun _ _ h => h)
  . intro a g' s' hretains
    apply (hf a g' s').mono (fun _ _ h => h)
    . intro _ _ _ h
      exact hretains.trans h
    . intro _ _ h
      exact hretains.trans h
  . intro _ _ h
    exact h

theorem pure (a : α) : Bookkeeping (pure a : GatewayM α) := fun g _ => Retains.refl g

theorem checked (x : Except GatewayError α) : Bookkeeping (GatewayM.checked x) := by
  intro g s
  apply Ends.checked
  . intro _ _
    exact .refl g
  . exact .refl g

theorem refuseIf (condition : Prop) [Decidable condition] (error : GatewayError)
    : Bookkeeping (GatewayM.refuseIf condition error) :=
  checked _

theorem bind_refuseIf {condition : Prop} [Decidable condition] {error : GatewayError} {y : GatewayM α}
    (h : Bookkeeping y)
    : Bookkeeping (GatewayM.refuseIf condition error >>= fun _ => y) :=
  seq (refuseIf condition error) fun _ => h

theorem fail (error : GatewayError) : Bookkeeping (GatewayM.fail error : GatewayM α) :=
  checked _

theorem expect (value : Option α) (error : GatewayError) : Bookkeeping (GatewayM.expect value error) :=
  checked _

theorem memory : Bookkeeping GatewayM.memory := fun g _ => Retains.refl g

theorem update {f : Gateway → Gateway} (h : ∀ g, Retains g (f g)) : Bookkeeping (GatewayM.update f) :=
  fun g _ => h g

theorem get (row : Row) : Bookkeeping (GatewayM.ofStore (StoreM.get row)) := by
  intro g s
  apply Ends.ofStore
  apply StoreM.Ends.get (JobStep.refl s) (Retains.refl g) (Retains.refl g)

theorem applyBatchIfAll (conditions : List BatchCondition)
    (h : ∀ operation ∈ operations, operation.row.space ∈ jobSpaces)
    : Bookkeeping (GatewayM.ofStore (StoreM.applyBatchIfAll conditions operations)) := by
  intro g s
  apply Ends.ofStore
  apply StoreM.Ends.applyBatchIfAll (JobStep.refl s)
  . intro _
    exact ⟨JobStep.applyAll h, Retains.refl g⟩
  . intro _
    exact .refl g
  . exact .refl g

theorem applyBatch (h : ∀ operation ∈ operations, operation.row.space ∈ jobSpaces)
    : Bookkeeping (GatewayM.ofStore (StoreM.applyBatch operations)) := by
  intro g s
  apply Ends.ofStore
  exact StoreM.Ends.applyBatch (JobStep.refl s) ⟨JobStep.applyAll h, Retains.refl g⟩ (Retains.refl g)

theorem forM {γ : Type} {values : List γ} {f : γ → GatewayM Unit} (hf : ∀ c, Bookkeeping (f c))
    : Bookkeeping (values.forM f) := by
  induction values with
  | nil => exact pure ()
  | cons c values ih => exact seq (hf c) fun _ => ih

end Bookkeeping

open Bookkeeping

theorem pushEvent_bookkeeping (event : GatewayEvent) : Bookkeeping (pushEvent event) := by
  apply update
  intro g
  split
  . exact ⟨rfl, fun _ => rfl, fun _ h => Or.inl h⟩
  . exact ⟨rfl, fun _ => rfl, fun _ h => Or.inl h⟩

theorem setJobState_bookkeeping (id : Text) (state : JobState) : Bookkeeping (setJobState id state) := by
  intro g s
  apply Ends.bind
  apply Ends.memory
  apply Ends.bind
  apply Ends.expect
  . rintro ⟨job, previous⟩ hlookup
    apply Ends.update
    refine ⟨rfl, fun _ => rfl, ?_⟩
    intro key hkey
    rcases (AList.mem_insert g.jobs).mp hkey with rfl | hmem
    . exact Or.inl (AList.lookup_isSome.mp (by rw [hlookup]; rfl))
    . exact Or.inl hmem
  . exact .refl g

theorem loadSequenceCandidate_bookkeeping : Bookkeeping (GatewayM.ofStore loadSequenceCandidate) := by
  intro g s
  apply Ends.ofStore
  apply StoreM.Ends.bind
  apply StoreM.Ends.get (JobStep.refl s)
  . apply StoreM.Ends.bind
    apply StoreM.Ends.ofExcept
    . intro current _
      apply StoreM.Ends.bind
      apply StoreM.Ends.ofExcept
      . intro _ _
        exact .refl g
      . exact .refl g
    . exact .refl g
  . exact .refl g

theorem issueJobOperations_space {job : GatewayJob} {nextSequence : UInt64}
    {previous : Option (Text × UInt64 × JobState)}
    : ∀ operation ∈ issueJobOperations job nextSequence previous, operation.row.space ∈ jobSpaces := by
  unfold issueJobOperations
  rw [List.forall_mem_append]
  refine ⟨?_, ?_⟩
  . simp [jobSpaces, assignmentRow, assignmentStateRow, assignmentPrefixPolicyRow]
  . intro operation hmem
    obtain ⟨_, _, rfl⟩ := List.mem_map.mp hmem
    simp [jobSpaces, assignmentStateRow]

theorem length_id_of_validateJob {job : GatewayJob} {enforceHandyTarget : Bool}
    (h : validateJob job enforceHandyTarget = .ok ())
    : job.id.length ≤ 64 := by
  have hreject := (Except.bind_unit_eq_ok.mp h).1
  rw [Except.rejectIf_eq_ok] at hreject
  push Not at hreject
  exact hreject.2.1

theorem issueNewJob_bookkeeping {job : GatewayJob} (hid : job.id.length ≤ 64)
    (transition : Option PreviousJobTransition) (expectedSequence : Option UInt64)
    : Bookkeeping (issueNewJob job transition expectedSequence) := by
  unfold issueNewJob
  apply seq (get _)
  intro retired
  split
  . apply seq (checked _)
    intro _
    exact fail _
  . apply seq memory
    intro gateway
    apply bind_refuseIf
    apply seq (checked _)
    intro previous
    apply seq loadSequenceCandidate_bookkeeping
    rintro ⟨sequenceHead, sequence, nextSequence⟩
    apply bind_refuseIf
    apply seq (get _)
    intro occupied
    apply bind_refuseIf
    apply seq (applyBatchIfAll _ issueJobOperations_space)
    intro applied
    apply bind_refuseIf
    have hinsert : ∀ g : Gateway, Retains g { g with
        jobs := g.jobs.insert job.id ({ job with assignmentSequence := sequence }, .active)
        currentJob := some job.id } := by
      intro g
      refine ⟨rfl, fun _ => rfl, ?_⟩
      intro key hkey
      rcases (AList.mem_insert g.jobs).mp hkey with rfl | hmem
      . exact Or.inr hid
      . exact Or.inl hmem
    have hrest : Bookkeeping (do
        GatewayM.update fun g => { g with
          jobs := g.jobs.insert job.id ({ job with assignmentSequence := sequence }, .active)
          currentJob := some job.id }
        pushEvent (.jobIssued job.id sequence)
        return sequence) := by
      apply seq (update hinsert)
      intro _
      apply seq (pushEvent_bookkeeping _)
      intro _
      exact pure _
    split
    . apply seq (setJobState_bookkeeping _ _)
      intro _
      exact hrest
    . exact hrest

theorem issueJobInternal_bookkeeping (job : GatewayJob) (transition : Option PreviousJobTransition)
    (expectedSequence : Option UInt64)
    : Bookkeeping (issueJobInternal job transition expectedSequence) := by
  intro g s
  apply Ends.bind
  apply Ends.refuseIf
  . intro _
    apply Ends.bind
    apply Ends.memory
    apply Ends.bind
    apply Ends.checked
    . intro _ hvalid
      split
      . exact checked _ g s
      . exact issueNewJob_bookkeeping (length_id_of_validateJob hvalid) _ _ g s
    . exact .refl g
  . exact .refl g

theorem issueAuthorizedJob_bookkeeping [Primitives] (request : AuthorizedGatewayJobRequest)
    : Bookkeeping (issueAuthorizedJob request) := by
  apply seq (checked _)
  intro _
  apply seq (checked _)
  intro _
  exact issueJobInternal_bookkeeping _ _ _

theorem cancelJob_bookkeeping (jobId : Text) (creditCutoffMs submissionEndMs : UInt64)
    : Bookkeeping (cancelJob jobId creditCutoffMs submissionEndMs) := by
  apply seq memory
  intro gateway
  apply seq (expect _ _)
  rintro ⟨job, state⟩
  apply bind_refuseIf
  dsimp only
  split
  . apply bind_refuseIf
    apply seq (applyBatchIfAll _ ?_)
    . intro applied
      apply bind_refuseIf
      apply seq (setJobState_bookkeeping _ _)
      intro _
      apply seq (update ?_)
      . intro _
        exact pushEvent_bookkeeping _
      . intro g
        exact ⟨rfl, fun _ => rfl, fun _ h => Or.inl h⟩
    . simp [jobSpaces, assignmentStateRow]
  . apply bind_refuseIf
    apply seq (get _)
    intro durable
    exact refuseIf _ _
  . exact fail _

theorem closeJob_bookkeeping (id : Text) (sequence : UInt64) (state : JobState)
    : Bookkeeping (closeJob id sequence state) := by
  unfold closeJob
  split
  . apply seq memory
    intro gateway
    apply bind_refuseIf
    apply seq (applyBatchIfAll _ ?_)
    . intro applied
      apply bind_refuseIf
      apply seq (update ?_)
      . intro _
        exact setJobState_bookkeeping _ _
      . intro g
        exact ⟨rfl, fun _ => rfl, fun _ h => Or.inl h⟩
    . simp [jobSpaces, assignmentStateRow]
  . apply seq (applyBatchIfAll _ ?_)
    . intro applied
      apply bind_refuseIf
      exact setJobState_bookkeeping _ _
    . simp [jobSpaces, assignmentStateRow]
  . exact setJobState_bookkeeping _ _

theorem pendingCaptures_erase {g : Gateway} {sequence : UInt64} (h : pendingCaptures g sequence = 0) (other : UInt64)
    : ((g.pendingByAssignment.erase sequence).lookup other).getD 0 = pendingCaptures g other := by
  by_cases heq : other = sequence
  . subst heq
    rw [AList.lookup_erase, h]
    rfl
  . rw [AList.lookup_erase_ne heq]
    rfl

theorem advanceRetirement_bookkeeping (sequence : UInt64) (id : Text)
    : Bookkeeping (advanceRetirement sequence id) := by
  intro g s
  apply Ends.bind
  apply Ends.memory
  apply Ends.bind
  apply Ends.refuseIf
  . intro hpending
    rw [not_not] at hpending
    dsimp only
    split
    . apply Ends.bind
      apply (applyBatch ?_ g s).mono (fun _ _ h => h)
      . intro _ g' s' hretains
        apply Ends.update
        apply hretains.trans
        exact ⟨rfl, fun _ => rfl, fun _ h => Or.inl h⟩
      . intro _ _ h
        exact h
      . intro operation hmem
        obtain ⟨_, _, rfl⟩ := List.mem_map.mp hmem
        simp [jobSpaces, captureTombstoneRow]
    . apply Ends.bind
      apply (applyBatchIfAll _ ?_ g s).mono (fun _ _ h => h)
      . intro applied g' s' hretains
        apply Ends.bind
        apply Ends.refuseIf
        . intro _
          apply Ends.bind
          apply Ends.memory
          apply Ends.bind
          apply Ends.expect
          . intro _ _
            apply Ends.update
            refine hretains.trans ⟨rfl, ?_, ?_⟩
            . intro other
              apply pendingCaptures_erase
              rw [hretains.pending, hpending]
            . intro key hkey
              exact Or.inl (AList.mem_erase.mp hkey).2
          . exact hretains
        . exact hretains
      . intro _ _ h
        exact h
      . simp [jobSpaces, retiredJobRow, assignmentRow, assignmentStateRow,
          retiringAssignmentRow]
  . exact .refl g

theorem retireJob_bookkeeping (sequence : UInt64) (id : Text) : Bookkeeping (retireJob sequence id) := by
  apply seq memory
  intro gateway
  have hupdate : Bookkeeping (do
      GatewayM.update fun g => { g with retiringAssignments := g.retiringAssignments.insert sequence }
      advanceRetirement sequence id) := by
    apply seq (update ?_)
    . intro _
      exact advanceRetirement_bookkeeping sequence id
    . intro g
      exact ⟨rfl, fun _ => rfl, fun _ h => Or.inl h⟩
  split
  . apply seq (applyBatchIfAll _ ?_)
    . intro inserted
      dsimp only
      split
      . apply seq (get _)
        intro existing
        apply bind_refuseIf
        exact hupdate
      . exact hupdate
    . simp [jobSpaces, retiringAssignmentRow]
  . exact advanceRetirement_bookkeeping sequence id

theorem closeExpired_bookkeeping (nowMs : UInt64) : Bookkeeping (closeExpired nowMs) := by
  apply seq memory
  intro gateway
  apply seq (forM fun _ => closeJob_bookkeeping _ _ _)
  intro _
  apply seq memory
  intro gateway
  exact forM fun _ => retireJob_bookkeeping _ _

end MeshMine.Gateway
