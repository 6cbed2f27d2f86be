import MeshMine.Data.Except
import MeshMine.Settlement.Credits

/-!
Which payout plans the canonical chain has paid (`PlanPaymentTracker` of
`meshmine-settlement/src/lib.rs`). A call is an `EStateM` computation, so an error result carries the
tracker that the caller is left with.
-/

namespace MeshMine.Settlement

structure PlanPaymentTracker where
  eligibleSequences : Finset UInt64
  canonicalPayments : List (Hash256 × Option UInt64)
  paidSequences : Finset UInt64
  payableSequences : Finset UInt64

namespace PlanPaymentTracker

abbrev Call (α : Type) := EStateM SettlementError PlanPaymentTracker α

def empty : PlanPaymentTracker where
  eligibleSequences := ∅
  canonicalPayments := []
  paidSequences := ∅
  payableSequences := ∅

variable (tracker : PlanPaymentTracker)

def currentPayable : Option UInt64 :=
  tracker.payableSequences.first?

def addEligible (sequence : UInt64) : Call Unit := do
  let tracker ← get
  set { tracker with eligibleSequences := insert sequence tracker.eligibleSequences }
  if sequence ∉ tracker.eligibleSequences ∧ sequence ∉ tracker.paidSequences then
    modify fun t => { t with payableSequences := insert sequence t.payableSequences }

def invalidateEligible (sequence : UInt64) : Call Unit := do
  modify fun t => { t with eligibleSequences := t.eligibleSequences.erase sequence }
  modify fun t => { t with payableSequences := t.payableSequences.erase sequence }

variable (blockHash : Hash256)

def connectBlock (paidPlan : Option UInt64) : Call Unit := do
  let tracker ← get
  if paidPlan.isSome ∧ paidPlan ≠ tracker.currentPayable then
    throw .ticketCountMismatch
  modify fun t => { t with canonicalPayments := t.canonicalPayments ++ [(blockHash, paidPlan)] }
  if let some sequence := paidPlan then
    modify fun t => { t with paidSequences := insert sequence t.paidSequences }
    modify fun t => { t with payableSequences := t.payableSequences.erase sequence }

def disconnectTip : Call Unit := do
  let tracker ← get
  let some (tipHash, paidPlan) := tracker.canonicalPayments.getLast? | throw .disconnectMismatch
  if tipHash ≠ blockHash then
    throw .disconnectMismatch
  modify fun t => { t with canonicalPayments := t.canonicalPayments.dropLast }
  if let some sequence := paidPlan then
    modify fun t => { t with paidSequences := t.paidSequences.erase sequence }
    if sequence ∈ tracker.eligibleSequences then
      modify fun t => { t with payableSequences := insert sequence t.payableSequences }

inductive Request where
  | addEligible (sequence : UInt64)
  | invalidateEligible (sequence : UInt64)
  | connectBlock (blockHash : Hash256) (paidPlan : Option UInt64)
  | disconnectTip (blockHash : Hash256)

def Request.call : Request → Call Unit
  | .addEligible sequence => PlanPaymentTracker.addEligible sequence
  | .invalidateEligible sequence => PlanPaymentTracker.invalidateEligible sequence
  | .connectBlock blockHash paidPlan => PlanPaymentTracker.connectBlock blockHash paidPlan
  | .disconnectTip blockHash => PlanPaymentTracker.disconnectTip blockHash

def after (request : Request) : PlanPaymentTracker :=
  match request.call tracker with
  | .ok _ tracker' => tracker'
  | .error _ tracker' => tracker'

def run (requests : List Request) : PlanPaymentTracker :=
  requests.foldl after tracker

def paidPlans : List UInt64 :=
  tracker.canonicalPayments.filterMap Prod.snd

structure WellFormed (tracker : PlanPaymentTracker) : Prop where
  paid_eq : tracker.paidSequences = tracker.paidPlans.toFinset
  nodup_paidPlans : tracker.paidPlans.Nodup
  payable_eq : tracker.payableSequences = tracker.eligibleSequences \ tracker.paidSequences

theorem wellFormed_empty : WellFormed empty where
  paid_eq := rfl
  nodup_paidPlans := List.nodup_nil
  payable_eq := rfl

theorem addEligible_eq (sequence : UInt64)
    : addEligible sequence tracker
        =
      .ok () { tracker with
        eligibleSequences := insert sequence tracker.eligibleSequences
        payableSequences :=
          if sequence ∉ tracker.eligibleSequences ∧ sequence ∉ tracker.paidSequences then
            insert sequence tracker.payableSequences
          else
            tracker.payableSequences } := by
  unfold addEligible
  rw [EStateM.get_bind_apply, EStateM.set_bind_apply]
  split <;> rfl

theorem connectBlock_none_eq
    : connectBlock blockHash none tracker
        =
      .ok () { tracker with
        canonicalPayments := tracker.canonicalPayments ++ [(blockHash, none)] } := rfl

theorem connectBlock_some_eq (sequence : UInt64)
    : connectBlock blockHash (some sequence) tracker
        =
      if some sequence = tracker.currentPayable then
        .ok () { tracker with
          canonicalPayments := tracker.canonicalPayments ++ [(blockHash, some sequence)]
          paidSequences := insert sequence tracker.paidSequences
          payableSequences := tracker.payableSequences.erase sequence }
      else
        .error .ticketCountMismatch tracker := by
  unfold connectBlock
  rw [EStateM.get_bind_apply]
  by_cases h : some sequence = tracker.currentPayable
  . rw [if_pos h, if_neg (by simp [h])]
    rfl
  . rw [if_neg h, if_pos ⟨rfl, h⟩]
    rfl

theorem disconnectTip_eq
    : (disconnectTip blockHash tracker = .error .disconnectMismatch tracker)
        ∨ ∃ payments paidPlan,
            tracker.canonicalPayments = payments ++ [(blockHash, paidPlan)]
              ∧ disconnectTip blockHash tracker
                  =
                .ok () (match paidPlan with
                  | none => { tracker with canonicalPayments := payments }
                  | some sequence => { tracker with
                      canonicalPayments := payments
                      paidSequences := tracker.paidSequences.erase sequence
                      payableSequences :=
                        if sequence ∈ tracker.eligibleSequences then
                          insert sequence tracker.payableSequences
                        else
                          tracker.payableSequences }) := by
  unfold disconnectTip
  rw [EStateM.get_bind_apply]
  rcases List.eq_nil_or_concat tracker.canonicalPayments with hnil | ⟨payments, ⟨tipHash, paidPlan⟩, htip⟩
  . left
    rw [hnil]
    rfl
  . rw [List.concat_eq_append] at htip
    rw [htip, List.getLast?_concat]
    by_cases hhash : tipHash = blockHash
    . right
      refine ⟨payments, paidPlan, by rw [hhash], ?_⟩
      dsimp only
      rw [if_neg (by simp [hhash])]
      cases paidPlan with
      | none =>
        rw [EStateM.modify_bind_apply, htip, List.dropLast_concat]
        rfl
      | some sequence =>
        rw [EStateM.modify_bind_apply, htip, List.dropLast_concat]
        dsimp only
        rw [EStateM.modify_bind_apply]
        split <;> rfl
    . left
      dsimp only
      rw [if_pos hhash]
      rfl

variable {tracker : PlanPaymentTracker} {tracker' : PlanPaymentTracker} {blockHash : Hash256}

theorem canonicalPayments_connectBlock {paidPlan : Option UInt64}
    (h : connectBlock blockHash paidPlan tracker = .ok () tracker')
    : tracker'.canonicalPayments = tracker.canonicalPayments ++ [(blockHash, paidPlan)] := by
  cases paidPlan with
  | none =>
    rw [connectBlock_none_eq] at h
    injection h with _ h
    rw [← h]
  | some sequence =>
    rw [connectBlock_some_eq] at h
    split at h
    . injection h with _ h
      rw [← h]
    . contradiction

theorem canonicalPayments_disconnectTip (h : disconnectTip blockHash tracker = .ok () tracker')
    : ∃ paidPlan, tracker.canonicalPayments = tracker'.canonicalPayments ++ [(blockHash, paidPlan)] := by
  rcases disconnectTip_eq tracker blockHash with herror | ⟨payments, paidPlan, htip, hok⟩
  . rw [herror] at h
    contradiction
  . rw [hok] at h
    injection h with _ h
    refine ⟨paidPlan, ?_⟩
    rw [htip, ← h]
    cases paidPlan <;> rfl

theorem call_error_eq (tracker : PlanPaymentTracker) (request : Request)
    : (∃ tracker', request.call tracker = .ok () tracker')
        ∨ ∃ error, request.call tracker = .error error tracker := by
  cases request with
  | addEligible sequence =>
    left
    exact ⟨_, addEligible_eq tracker sequence⟩
  | invalidateEligible sequence =>
    left
    exact ⟨_, rfl⟩
  | connectBlock blockHash paidPlan =>
    cases paidPlan with
    | none =>
      left
      exact ⟨_, connectBlock_none_eq tracker blockHash⟩
    | some sequence =>
      dsimp only [Request.call]
      rw [connectBlock_some_eq]
      split
      . left
        exact ⟨_, rfl⟩
      . right
        exact ⟨_, rfl⟩
  | disconnectTip blockHash =>
    rcases disconnectTip_eq tracker blockHash with herror | ⟨payments, paidPlan, htip, hok⟩
    . right
      exact ⟨_, herror⟩
    . left
      exact ⟨_, hok⟩

namespace WellFormed

variable (h : tracker.WellFormed)

include h

theorem addEligible (sequence : UInt64)
    : (tracker.after (.addEligible sequence)).WellFormed := by
  unfold after
  dsimp only [Request.call]
  rw [addEligible_eq]
  refine ⟨h.paid_eq, h.nodup_paidPlans, ?_⟩
  dsimp only
  rw [h.payable_eq]
  ext other
  split <;> simp only [Finset.mem_insert, Finset.mem_sdiff] <;> grind

theorem invalidateEligible (sequence : UInt64)
    : (tracker.after (.invalidateEligible sequence)).WellFormed := by
  refine ⟨h.paid_eq, h.nodup_paidPlans, ?_⟩
  change tracker.payableSequences.erase sequence
    = tracker.eligibleSequences.erase sequence \ tracker.paidSequences
  rw [h.payable_eq, Finset.erase_sdiff_comm]

/-- The first payable sequence is unpaid, so the block's plan is new to the chain. -/
theorem connectBlock (blockHash : Hash256) (paidPlan : Option UInt64)
    : (tracker.after (.connectBlock blockHash paidPlan)).WellFormed := by
  unfold after
  dsimp only [Request.call]
  cases paidPlan with
  | none =>
    rw [connectBlock_none_eq]
    refine ⟨?_, ?_, h.payable_eq⟩
    . dsimp only [paidPlans]
      rw [List.filterMap_append]
      simpa [paidPlans] using h.paid_eq
    . dsimp only [paidPlans]
      rw [List.filterMap_append]
      simpa [paidPlans] using h.nodup_paidPlans
  | some sequence =>
    rw [connectBlock_some_eq]
    by_cases hpayable : some sequence = tracker.currentPayable
    . rw [if_pos hpayable]
      have hmem := Finset.mem_of_first?_eq_some hpayable.symm
      rw [h.payable_eq, Finset.mem_sdiff, h.paid_eq, List.mem_toFinset] at hmem
      refine ⟨?_, ?_, ?_⟩
      . dsimp only [paidPlans]
        rw [List.filterMap_append, h.paid_eq]
        ext other
        simp [paidPlans]
      . dsimp only [paidPlans]
        rw [List.filterMap_append]
        have := h.nodup_paidPlans.concat hmem.2
        rwa [List.concat_eq_append] at this
      . dsimp only
        rw [h.payable_eq]
        ext other
        simp only [Finset.mem_erase, Finset.mem_sdiff, Finset.mem_insert]
        grind
    . rw [if_neg hpayable]
      exact h

theorem disconnectTip (blockHash : Hash256)
    : (tracker.after (.disconnectTip blockHash)).WellFormed := by
  unfold after
  dsimp only [Request.call]
  rcases disconnectTip_eq tracker blockHash with herror | ⟨payments, paidPlan, htip, hok⟩
  . rw [herror]
    exact h
  . rw [hok]
    have hpaid := h.paid_eq
    have hnodup := h.nodup_paidPlans
    unfold paidPlans at hpaid hnodup
    rw [htip, List.filterMap_append] at hpaid hnodup
    cases paidPlan with
    | none =>
      refine ⟨?_, ?_, h.payable_eq⟩
      . simpa [paidPlans] using hpaid
      . simpa [paidPlans] using hnodup
    | some sequence =>
      have hfresh : sequence ∉ payments.filterMap Prod.snd := by
        intro hmem
        have := List.disjoint_of_nodup_append hnodup hmem
        simp at this
      refine ⟨?_, ?_, ?_⟩
      . dsimp only [paidPlans]
        rw [hpaid]
        ext other
        simp only [Finset.mem_erase, List.mem_toFinset, List.mem_append]
        grind
      . dsimp only [paidPlans]
        exact (List.nodup_append.mp hnodup).1
      . dsimp only
        rw [h.payable_eq]
        ext other
        have : sequence ∈ tracker.paidSequences := by
          rw [hpaid]
          simp
        split <;> simp only [Finset.mem_insert, Finset.mem_sdiff, Finset.mem_erase] <;> grind

theorem after (request : Request)
    : (tracker.after request).WellFormed := by
  cases request with
  | addEligible sequence => exact h.addEligible sequence
  | invalidateEligible sequence => exact h.invalidateEligible sequence
  | connectBlock blockHash paidPlan => exact h.connectBlock blockHash paidPlan
  | disconnectTip blockHash => exact h.disconnectTip blockHash

theorem run (requests : List Request)
    : (tracker.run requests).WellFormed := by
  induction requests generalizing tracker with
  | nil => exact h
  | cons request requests ih => exact ih (h.after request)

end WellFormed

theorem run_empty_accounts_payments (requests : List Request)
    : let tracker := empty.run requests
      tracker.paidSequences = tracker.paidPlans.toFinset
        ∧ tracker.paidPlans.Nodup
        ∧ tracker.payableSequences = tracker.eligibleSequences \ tracker.paidSequences
        ∧ ∀ request : Request,
            (∃ tracker', request.call tracker = .ok () tracker')
              ∨ ∃ error, request.call tracker = .error error tracker := by
  have h := wellFormed_empty.run requests
  exact ⟨h.paid_eq, h.nodup_paidPlans, h.payable_eq, call_error_eq _⟩

theorem run_empty_disconnects_block (requests : List Request) (paidPlan : Option UInt64)
    (hconnect : connectBlock blockHash paidPlan (empty.run requests) = .ok () tracker')
    : disconnectTip blockHash tracker' = .ok () (empty.run requests) := by
  have h := wellFormed_empty.run requests
  generalize empty.run requests = tracker at h hconnect ⊢
  have htip := canonicalPayments_connectBlock hconnect
  unfold disconnectTip
  rw [EStateM.get_bind_apply, htip, List.getLast?_concat]
  dsimp only
  rw [if_neg (not_not.mpr rfl), EStateM.modify_bind_apply, htip, List.dropLast_concat]
  cases paidPlan with
  | none =>
    cases hconnect
    rfl
  | some sequence =>
    rw [connectBlock_some_eq] at hconnect
    split at hconnect
    next hpayable =>
      cases hconnect
      have hmem := Finset.mem_of_first?_eq_some hpayable.symm
      obtain ⟨heligible, hunpaid⟩ := Finset.mem_sdiff.mp (h.payable_eq ▸ hmem)
      dsimp only
      rw [EStateM.modify_bind_apply, if_pos heligible, Finset.erase_insert hunpaid]
      exact congrArg (EStateM.Result.ok () { tracker with payableSequences := · }) (Finset.insert_erase hmem)
    . contradiction

theorem run_empty_disconnects_block_sample
    : disconnectTip (.zero 32) ((empty.run [.addEligible 1]).after (.connectBlock (.zero 32) (some 1)))
      = .ok () (empty.run [.addEligible 1]) :=
  run_empty_disconnects_block [.addEligible 1] (some 1) rfl

end PlanPaymentTracker
end MeshMine.Settlement
