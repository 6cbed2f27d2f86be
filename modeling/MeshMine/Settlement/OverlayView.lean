import MeshMine.Data.KeyedMap
import MeshMine.Settlement.PaymentTracker
import MeshMine.Types.Session

/-!
The view of the canonical chain that parent certificates, mask sessions and payout plans hang on
(`CanonicalOverlayView` and `EntropyPlanTracker` of `meshmine-settlement/src/lib.rs`), and what each call on it
does.

The view, the payment tracker and the plan tracker are separate arguments of the source's calls; here they are
the parts of one state, which an error result carries as well.
-/

namespace MeshMine.Settlement

open MeshMine.Types

structure TrackedParentCertificate where
  parentHeight : UInt32
  parentHash : Hash256
  canonical : Bool
deriving DecidableEq

structure TrackedOverlaySession where
  parentCertificateId : Hash256
  closedForReorg : Bool
deriving DecidableEq

structure TrackedEntropyPlan where
  sequence : UInt64
  entropyBlocks : List (UInt32 × Hash256)
  canonical : Bool

structure ReorgEffects where
  invalidatedParentCertificates : SortedList Hash256
  closedSessions : SortedList Hash256
  invalidatedPlanSequences : SortedList UInt64
  retainShareAndBodyEvidence : Bool
  recomputeCurrentPayablePlan : Bool

structure EntropyPlanTracker where
  plans : AList fun _ : Hash256 => TrackedEntropyPlan

structure CanonicalOverlayView where
  canonicalHeaders : AList fun _ : UInt32 => Hash256
  parentCertificates : AList fun _ : Hash256 => TrackedParentCertificate
  sessions : AList fun _ : Hash256 => TrackedOverlaySession

structure Overlay where
  view : CanonicalOverlayView
  payments : PlanPaymentTracker
  entropy : EntropyPlanTracker

variable {s : Overlay}

namespace Overlay

abbrev Call (α : Type) := EStateM SettlementError Overlay α

def empty : Overlay where
  view := ⟨∅, ∅, ∅⟩
  payments := .empty
  entropy := ⟨∅⟩

variable {α β : Type} {s' : Overlay}

theorem bind_of_ok {x : Call α} {a : α} (h : x s = .ok a s') (f : α → Call β)
    : (x >>= f) s = f a s' := by
  change EStateM.bind x f s = _
  unfold EStateM.bind
  rw [h]

variable {error : SettlementError}

theorem bind_of_error {x : Call α} (h : x s = .error error s') (f : α → Call β)
    : (x >>= f) s = .error error s' := by
  change EStateM.bind x f s = _
  unfold EStateM.bind
  rw [h]

def onPayments {α : Type} (call : PlanPaymentTracker.Call α) : Call α := fun s =>
  match call s.payments with
  | .ok a payments => .ok a { s with payments }
  | .error error payments => .error error { s with payments }

theorem onPayments_ok {call : PlanPaymentTracker.Call α} {a : α} {payments : PlanPaymentTracker}
    (h : call s.payments = .ok a payments)
    : onPayments call s = .ok a { s with payments } := by
  unfold onPayments
  rw [h]

theorem onPayments_error {call : PlanPaymentTracker.Call α} (h : call s.payments = .error error s.payments)
    : onPayments call s = .error error s := by
  unfold onPayments
  rw [h]

end Overlay

namespace EntropyPlanTracker

def entropyBlocks (start : UInt32) : Nat → List Hash256 → Except SettlementError (List (UInt32 × Hash256))
  | _, [] => .ok []
  | offset, hash :: hashes => do
    if 2 ^ 32 ≤ offset then
      throw .arithmeticOverflow
    if 2 ^ 32 ≤ start.toNat + offset then
      throw .arithmeticOverflow
    let blocks ← entropyBlocks start (offset + 1) hashes
    return (start + UInt32.ofNat offset, hash) :: blocks

def register [Primitives] (plan : PayoutPlanV2) : Overlay.Call Unit := do
  let plans := (← get).entropy.plans
  if plan.entropyAnchorCount.toNat ≠ plan.entropyHashes.length ∨ plan.entropyHashes.isEmpty then
    throw .entropyNotDelayed
  match entropyBlocks plan.entropyAnchorStart 0 plan.entropyHashes with
  | .error error => throw error
  | .ok entropyBlocks =>
    let tracked : TrackedEntropyPlan := { sequence := plan.planSequence, entropyBlocks, canonical := true }
    match plans.lookup (objectId plan) with
    | some existing =>
      if existing.sequence ≠ tracked.sequence ∨ existing.entropyBlocks ≠ tracked.entropyBlocks then
        throw .planVerificationMismatch
      modify fun s =>
        { s with entropy.plans := s.entropy.plans.insert (objectId plan) { existing with canonical := true } }
    | none =>
      modify fun s => { s with entropy.plans := s.entropy.plans.insert (objectId plan) tracked }

def uses (height : UInt32) (hash : Hash256) (plan : TrackedEntropyPlan) : Bool :=
  plan.canonical && plan.entropyBlocks.contains (height, hash)

def disconnectEntropyBlock (tracker : EntropyPlanTracker) (height : UInt32) (hash : Hash256)
    : SortedList UInt64 × EntropyPlanTracker :=
  (tracker.plans.collectWhere (fun _ plan => uses height hash plan) fun _ plan => plan.sequence,
    { plans := tracker.plans.mapValues fun _ plan =>
        if uses height hash plan then { plan with canonical := false } else plan })

end EntropyPlanTracker

namespace CanonicalOverlayView

open Overlay

def saturatingSucc (height : UInt32) : UInt32 :=
  if height.toNat + 1 < 2 ^ 32 then height + 1 else height

def connectBlock (height : UInt32) (blockHash : Hash256) (paidPlan : Option UInt64) : Call Unit := do
  let headers := (← get).view.canonicalHeaders
  if headers.lastKeyValue.any fun tip => height ≠ saturatingSucc tip.1 then
    throw .canonicalHeightConflict
  if (headers.lookup height).any fun existing => existing ≠ blockHash then
    throw .canonicalHeightConflict
  onPayments (PlanPaymentTracker.connectBlock blockHash paidPlan)
  modify fun s => { s with view.canonicalHeaders := s.view.canonicalHeaders.insert height blockHash }

def registerParentCertificate [Primitives] (certificate : SessionParentCertificateV2) : Call Unit := do
  let view := (← get).view
  if view.canonicalHeaders.lookup certificate.parentHeight ≠ some certificate.parentHash then
    throw .noncanonicalParentCertificate
  let tracked : TrackedParentCertificate :=
    { parentHeight := certificate.parentHeight, parentHash := certificate.parentHash, canonical := true }
  match view.parentCertificates.lookup (objectId certificate) with
  | some existing =>
    if existing ≠ tracked then
      throw .noncanonicalParentCertificate
  | none =>
    modify fun s =>
      { s with view.parentCertificates := s.view.parentCertificates.insert (objectId certificate) tracked }

def registerSession [Primitives] (session : MaskSessionV2) : Call Unit := do
  let view := (← get).view
  let parent? := (view.parentCertificates.lookup session.parentCertificateId).filter fun parent =>
    parent.canonical && parent.parentHash = session.parentHash
  let some parent := parent? | throw .noncanonicalSessionParent
  if view.canonicalHeaders.lookup parent.parentHeight ≠ some parent.parentHash then
    throw .noncanonicalSessionParent
  let tracked : TrackedOverlaySession :=
    { parentCertificateId := session.parentCertificateId, closedForReorg := false }
  match view.sessions.lookup (objectId session) with
  | some existing =>
    if existing ≠ tracked then
      throw .noncanonicalSessionParent
  | none => modify fun s => { s with view.sessions := s.view.sessions.insert (objectId session) tracked }

def orphaned (height : UInt32) (blockHash : Hash256) (parent : TrackedParentCertificate) : Bool :=
  parent.canonical && parent.parentHeight = height && parent.parentHash = blockHash

variable (view : CanonicalOverlayView)

def invalidateParents (height : UInt32) (blockHash : Hash256) : SortedList Hash256 × CanonicalOverlayView :=
  (view.parentCertificates.collectWhere (fun _ parent => orphaned height blockHash parent) fun id _ => id,
    { view with parentCertificates := view.parentCertificates.mapValues fun _ parent =>
        if orphaned height blockHash parent then { parent with canonical := false } else parent })

def closeSessions (parents : SortedList Hash256) : SortedList Hash256 × CanonicalOverlayView :=
  (view.sessions.collectWhere (fun _ session => session.parentCertificateId ∈ parents) fun id _ => id,
    { view with sessions := view.sessions.mapValues fun _ session =>
        if session.parentCertificateId ∈ parents then { session with closedForReorg := true } else session })

def disconnectTip (height : UInt32) (blockHash : Hash256) : Call ReorgEffects := do
  if (← get).view.canonicalHeaders.lastKeyValue ≠ some (height, blockHash) then
    throw .disconnectMismatch
  onPayments (PlanPaymentTracker.disconnectTip blockHash)
  modify fun s => { s with view.canonicalHeaders := s.view.canonicalHeaders.erase height }
  let (invalidatedPlanSequences, entropy) := (← get).entropy.disconnectEntropyBlock height blockHash
  modify fun s => { s with entropy }
  invalidatedPlanSequences.toList.forM fun sequence =>
    onPayments (PlanPaymentTracker.invalidateEligible sequence)
  let (invalidatedParentCertificates, view) := (← get).view.invalidateParents height blockHash
  let (closedSessions, view) := view.closeSessions invalidatedParentCertificates
  modify fun s => { s with view }
  return {
    invalidatedParentCertificates
    closedSessions
    invalidatedPlanSequences
    retainShareAndBodyEvidence := true
    recomputeCurrentPayablePlan := true
  }

def isParentCanonical (certificateId : Hash256) : Bool :=
  (view.parentCertificates.lookup certificateId).any (·.canonical)

def sessionClosedForReorg (sessionId : Hash256) : Bool :=
  (view.sessions.lookup sessionId).any (·.closedForReorg)

/-!
### What a call can do

A failed call leaves everything as it was.
-/

theorem connectBlock_cases (s : Overlay) (height : UInt32) (blockHash : Hash256) (paidPlan : Option UInt64)
    : (∃ error, connectBlock height blockHash paidPlan s = .error error s)
      ∨ ∃ payments, PlanPaymentTracker.connectBlock blockHash paidPlan s.payments = .ok () payments
          ∧ (∀ tip, s.view.canonicalHeaders.lastKeyValue = some tip → height = saturatingSucc tip.1)
          ∧ connectBlock height blockHash paidPlan s
            = .ok () { s with
                payments
                view.canonicalHeaders := s.view.canonicalHeaders.insert height blockHash } := by
  unfold connectBlock
  rw [EStateM.get_bind_apply]
  split
  . exact .inl ⟨_, rfl⟩
  next hnext =>
    split
    . exact .inl ⟨_, rfl⟩
    rcases PlanPaymentTracker.call_error_eq s.payments (.connectBlock blockHash paidPlan) with
      ⟨payments, hok⟩ | ⟨error, herror⟩
    . refine .inr ⟨payments, hok, ?_, bind_of_ok (onPayments_ok hok) _⟩
      intro tip htip
      simpa [htip] using hnext
    . exact .inl ⟨error, bind_of_error (onPayments_error herror) _⟩

section

variable [P : Primitives]

theorem registerParentCertificate_cases (s : Overlay) (certificate : SessionParentCertificateV2)
    : registerParentCertificate certificate s = .error .noncanonicalParentCertificate s
      ∨ (s.view.canonicalHeaders.lookup certificate.parentHeight = some certificate.parentHash
          ∧ ((s.view.parentCertificates.lookup (objectId certificate)
                = some ⟨certificate.parentHeight, certificate.parentHash, true⟩
              ∧ registerParentCertificate certificate s = .ok () s)
            ∨ (s.view.parentCertificates.lookup (objectId certificate) = none
              ∧ registerParentCertificate certificate s
                = .ok () { s with
                    view.parentCertificates := s.view.parentCertificates.insert (objectId certificate) (
                      ⟨certificate.parentHeight, certificate.parentHash, true⟩) }))) := by
  unfold registerParentCertificate
  rw [EStateM.get_bind_apply]
  split
  . exact .inl rfl
  next hheader =>
    rw [not_not] at hheader
    cases hexisting : s.view.parentCertificates.lookup (objectId certificate) with
    | some existing =>
      dsimp only
      split
      . exact .inl rfl
      next hsame =>
        rw [not_not] at hsame
        exact .inr ⟨hheader, .inl ⟨by rw [hsame], rfl⟩⟩
    | none => exact .inr ⟨hheader, .inr ⟨rfl, rfl⟩⟩

variable {certificate : SessionParentCertificateV2} {parent : TrackedParentCertificate}

/-- The tracked entry is compared as a whole, so that an invalidated certificate is refused for good. -/
theorem registerParentCertificate_tracked
    (htracked : s.view.parentCertificates.lookup (objectId certificate) = some parent)
    (hinvalid : parent.canonical = false)
    : registerParentCertificate certificate s = .error .noncanonicalParentCertificate s := by
  rcases registerParentCertificate_cases s certificate with hcall | ⟨_, ⟨hsame, _⟩ | ⟨hnone, _⟩⟩
  . exact hcall
  . obtain rfl := Option.some.inj (htracked.symm.trans hsame)
    contradiction
  . rw [htracked] at hnone
    contradiction

theorem lookup_parent_registered {s' : Overlay} (h : registerParentCertificate certificate s = .ok () s')
    : s'.view.parentCertificates.lookup (objectId certificate)
      = some ⟨certificate.parentHeight, certificate.parentHash, true⟩ := by
  rcases registerParentCertificate_cases s certificate with hcall | ⟨_, ⟨hsame, hcall⟩ | ⟨_, hcall⟩⟩
  . rw [hcall] at h
    contradiction
  . rw [hcall] at h
    injection h with _ h
    rwa [← h]
  . rw [hcall] at h
    injection h with _ h
    rw [← h]
    exact AList.lookup_insert _

theorem registerSession_tracked {session : MaskSessionV2}
    (htracked : s.view.parentCertificates.lookup session.parentCertificateId = some parent)
    (hinvalid : parent.canonical = false)
    : registerSession session s = .error .noncanonicalSessionParent s := by
  unfold registerSession
  simp only [EStateM.get_bind_apply, htracked, Option.filter, hinvalid, Bool.false_and, Bool.false_eq_true, if_false]
  rfl

theorem registerSession_cases (s : Overlay) (session : MaskSessionV2)
    : (∃ error, registerSession session s = .error error s)
      ∨ ∃ parent, s.view.parentCertificates.lookup session.parentCertificateId = some parent
          ∧ parent.canonical = true ∧ parent.parentHash = session.parentHash
          ∧ s.view.canonicalHeaders.lookup parent.parentHeight = some parent.parentHash
          ∧ ((s.view.sessions.lookup (objectId session) = some ⟨session.parentCertificateId, false⟩
              ∧ registerSession session s = .ok () s)
            ∨ (s.view.sessions.lookup (objectId session) = none
              ∧ registerSession session s
                = .ok () { s with view.sessions :=
                    s.view.sessions.insert (objectId session) ⟨session.parentCertificateId, false⟩ })) := by
  unfold registerSession
  rw [EStateM.get_bind_apply]
  cases hparent : (s.view.parentCertificates.lookup session.parentCertificateId).filter fun parent =>
      parent.canonical && parent.parentHash = session.parentHash with
  | none => exact .inl ⟨_, rfl⟩
  | some parent =>
    rw [Option.filter_eq_some_iff, Bool.and_eq_true, decide_eq_true_eq] at hparent
    obtain ⟨hparent, hcanonical, hhash⟩ := hparent
    dsimp only
    split
    . exact .inl ⟨_, rfl⟩
    next hheader =>
      rw [not_not] at hheader
      cases hexisting : s.view.sessions.lookup (objectId session) with
      | some existing =>
        dsimp only
        split
        . exact .inl ⟨_, rfl⟩
        next hsame =>
          rw [not_not] at hsame
          exact .inr ⟨parent, hparent, hcanonical, hhash, hheader, .inl ⟨by rw [hsame], rfl⟩⟩
      | none => exact .inr ⟨parent, hparent, hcanonical, hhash, hheader, .inr ⟨rfl, rfl⟩⟩

theorem register_cases (s : Overlay) (plan : PayoutPlanV2)
    : (∃ error, EntropyPlanTracker.register plan s = .error error s)
      ∨ ∃ entropy, EntropyPlanTracker.register plan s = .ok () { s with entropy } := by
  unfold EntropyPlanTracker.register
  rw [EStateM.get_bind_apply]
  split
  . exact .inl ⟨_, rfl⟩
  . cases EntropyPlanTracker.entropyBlocks plan.entropyAnchorStart 0 plan.entropyHashes with
    | error error => exact .inl ⟨error, rfl⟩
    | ok entropyBlocks =>
      dsimp only
      cases s.entropy.plans.lookup (objectId plan) with
      | some existing =>
        dsimp only
        split
        . exact .inl ⟨_, rfl⟩
        . exact .inr ⟨_, rfl⟩
      | none => exact .inr ⟨_, rfl⟩

end

theorem forM_invalidateEligible (sequences : List UInt64) (s : Overlay)
    : (sequences.forM fun sequence => onPayments (PlanPaymentTracker.invalidateEligible sequence)) s
        =
      .ok () { s with payments := { s.payments with
        eligibleSequences := s.payments.eligibleSequences \ sequences.toFinset
        payableSequences := s.payments.payableSequences \ sequences.toFinset } } := by
  induction sequences generalizing s with
  | nil => simp [pure, EStateM.pure]
  | cons sequence sequences ih =>
    have hhead : onPayments (PlanPaymentTracker.invalidateEligible sequence) s
        = .ok () { s with payments := { s.payments with
            eligibleSequences := s.payments.eligibleSequences.erase sequence
            payableSequences := s.payments.payableSequences.erase sequence } } := rfl
    refine (bind_of_ok hhead _).trans ?_
    rw [ih, List.toFinset_cons]
    simp only [Finset.sdiff_insert, Finset.erase_sdiff_comm]

def disconnected (s : Overlay) (height : UInt32) (blockHash : Hash256) (payments : PlanPaymentTracker)
    : Overlay :=
  let sequences := (s.entropy.disconnectEntropyBlock height blockHash).1.toList.toFinset
  let view := { s.view with canonicalHeaders := s.view.canonicalHeaders.erase height }
  let parents := view.invalidateParents height blockHash
  { view := (parents.2.closeSessions parents.1).2
    payments := { payments with
      eligibleSequences := payments.eligibleSequences \ sequences
      payableSequences := payments.payableSequences \ sequences }
    entropy := (s.entropy.disconnectEntropyBlock height blockHash).2 }

def reorgEffects (s : Overlay) (height : UInt32) (blockHash : Hash256) : ReorgEffects :=
  let parents := s.view.invalidateParents height blockHash
  { invalidatedParentCertificates := parents.1
    closedSessions := (parents.2.closeSessions parents.1).1
    invalidatedPlanSequences := (s.entropy.disconnectEntropyBlock height blockHash).1
    retainShareAndBodyEvidence := true
    recomputeCurrentPayablePlan := true }

theorem disconnectTip_cases (s : Overlay) (height : UInt32) (blockHash : Hash256)
    : (∃ error, disconnectTip height blockHash s = .error error s)
      ∨ ∃ payments, PlanPaymentTracker.disconnectTip blockHash s.payments = .ok () payments
          ∧ s.view.canonicalHeaders.lastKeyValue = some (height, blockHash)
          ∧ disconnectTip height blockHash s
            = .ok (reorgEffects s height blockHash) (disconnected s height blockHash payments) := by
  unfold disconnectTip
  rw [EStateM.get_bind_apply]
  split
  . exact .inl ⟨_, rfl⟩
  next htip =>
    rw [not_not] at htip
    rcases PlanPaymentTracker.call_error_eq s.payments (.disconnectTip blockHash) with
      ⟨payments, hok⟩ | ⟨error, herror⟩
    . refine .inr ⟨payments, hok, htip, ?_⟩
      refine (bind_of_ok (onPayments_ok hok) _).trans ?_
      refine (bind_of_ok (forM_invalidateEligible _ _) _).trans ?_
      rfl
    . exact .inl ⟨error, bind_of_error (onPayments_error herror) _⟩

end CanonicalOverlayView

end MeshMine.Settlement
