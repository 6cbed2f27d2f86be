import MeshMine.Settlement.OverlayView

/-!
Runs of calls on the canonical overlay view: headers, payments, certificates, sessions and plans stay in step
through every reorganisation, and a certificate whose block was disconnected stays invalid.
-/

namespace MeshMine.Settlement

open MeshMine.Types CanonicalOverlayView

structure Covers (headers : AList fun _ : UInt32 => Hash256) (base : Nat) (hashes : List Hash256) : Prop where
  bounded : base + hashes.length < 2 ^ 32
  lookup_eq : ∀ height, headers.lookup height
    = if base ≤ height.toNat then hashes[height.toNat - base]? else none

variable {height : UInt32}

theorem toNat_saturatingSucc (h : height.toNat + 1 < 2 ^ 32)
    : (saturatingSucc height).toNat = height.toNat + 1 := by
  unfold saturatingSucc
  rw [if_pos h, UInt32.toNat_add]
  change (height.toNat + 1) % 2 ^ 32 = _
  omega

namespace Covers

variable {headers : AList fun _ : UInt32 => Hash256} {base : Nat} {hashes : List Hash256}

theorem lookup_ofNat (h : Covers headers base hashes) {i : Nat} (hi : i < hashes.length)
    : headers.lookup (UInt32.ofNat (base + i)) = hashes[i]? := by
  have hbounded := h.bounded
  have htoNat : (UInt32.ofNat (base + i)).toNat = base + i :=
    UInt32.toNat_ofNat_of_lt' (by unfold UInt32.size; omega)
  rw [h.lookup_eq, htoNat, if_pos (by omega), Nat.add_sub_cancel_left]

variable {hash : Hash256}

theorem lt_of_lookup (h : Covers headers base hashes) (hlookup : headers.lookup height = some hash)
    : base ≤ height.toNat ∧ height.toNat < base + hashes.length := by
  rw [h.lookup_eq] at hlookup
  split at hlookup
  next hle =>
    obtain ⟨hlt, -⟩ := List.getElem?_eq_some_iff.mp hlookup
    omega
  . contradiction

theorem toNat_tip (h : Covers headers base (hashes ++ [hash]))
    : (UInt32.ofNat (base + hashes.length)).toNat = base + hashes.length := by
  have hbounded := h.bounded
  rw [List.length_append] at hbounded
  exact UInt32.toNat_ofNat_of_lt' (by unfold UInt32.size; omega)

theorem lastKeyValue_eq (h : Covers headers base (hashes ++ [hash]))
    : headers.lastKeyValue = some (UInt32.ofNat (base + hashes.length), hash) := by
  rw [AList.lastKeyValue_eq_some]
  refine ⟨?_, ?_⟩
  . rw [h.lookup_ofNat (by simp)]
    simp
  . intro height hash' hlookup
    have hlt := h.lt_of_lookup hlookup
    rw [List.length_append, List.length_singleton] at hlt
    rw [UInt32.le_iff_toNat_le, h.toNat_tip]
    omega

theorem rebase (h : Covers headers base []) {base' : Nat} (hbase : base' + 1 < 2 ^ 32)
    : Covers headers base' [] := by
  refine ⟨?_, ?_⟩
  . rw [List.length_nil]
    omega
  . intro height
    rw [h.lookup_eq]
    simp

/-- The one hash more is at the one height more. -/
theorem getElem?_append_last (hashes : List Hash256) (base : Nat) (hash : Hash256) (n : Nat)
    : (if base ≤ n then (hashes ++ [hash])[n - base]? else none)
      = if n = base + hashes.length then some hash else if base ≤ n then hashes[n - base]? else none := by
  rcases Nat.lt_trichotomy n (base + hashes.length) with hlt | rfl | hgt
  . rw [if_neg hlt.ne]
    split
    . rw [List.getElem?_append_left (by omega)]
    . rfl
  . simp
  . rw [if_neg hgt.ne', List.getElem?_eq_none (by simp; omega), List.getElem?_eq_none (by omega)]

theorem insert_next (h : Covers headers base hashes) (hheight : height.toNat + 1 < 2 ^ 32)
    (hnext : height.toNat = base + hashes.length) (hash : Hash256)
    : Covers (headers.insert height hash) base (hashes ++ [hash]) where
  bounded := by
    rw [List.length_append, List.length_singleton]
    omega
  lookup_eq := by
    intro height'
    rw [getElem?_append_last, ← hnext, AList.lookup_insert_eq, h.lookup_eq]
    simp only [UInt32.toNat_inj]

theorem erase_last (h : Covers headers base (hashes ++ [hash]))
    : Covers (headers.erase (UInt32.ofNat (base + hashes.length))) base hashes where
  bounded := by
    have hbounded := h.bounded
    rw [List.length_append] at hbounded
    omega
  lookup_eq := by
    intro height
    rw [AList.lookup_erase_eq, h.lookup_eq, getElem?_append_last]
    split
    next htip => rw [htip, h.toNat_tip, List.getElem?_eq_none (by omega), ite_self]
    next hne =>
      rw [if_neg]
      rwa [← h.toNat_tip, UInt32.toNat_inj]

theorem connect (h : Covers headers base hashes) (hheight : height.toNat + 1 < 2 ^ 32)
    (hnext : ∀ tip, headers.lastKeyValue = some tip → height = saturatingSucc tip.1) (hash : Hash256)
    : headers.lookup height = none ∧ ∃ base, Covers (headers.insert height hash) base (hashes ++ [hash]) := by
  rcases List.eq_nil_or_concat hashes with rfl | ⟨earlier, last, hconcat⟩
  . refine ⟨?_, _, (h.rebase hheight).insert_next hheight rfl hash⟩
    rw [h.lookup_eq]
    split <;> simp
  . rw [List.concat_eq_append] at hconcat
    subst hconcat
    have hbounded := h.bounded
    have hsucc : height = saturatingSucc (UInt32.ofNat (base + earlier.length)) := hnext _ h.lastKeyValue_eq
    have hsucc := congrArg UInt32.toNat hsucc
    rw [List.length_append, List.length_singleton] at hbounded
    rw [toNat_saturatingSucc (by rw [h.toNat_tip]; omega), h.toNat_tip] at hsucc
    have htip : height.toNat = base + (earlier ++ [last]).length := by
      rw [hsucc, List.length_append, List.length_singleton, Nat.add_assoc]
    refine ⟨?_, base, h.insert_next hheight htip hash⟩
    rw [h.lookup_eq, if_pos (by omega), List.getElem?_eq_none (by omega)]

end Covers

namespace Overlay

def hashes (s : Overlay) : List Hash256 :=
  s.payments.canonicalPayments.map Prod.fst

structure Consistent (s : Overlay) : Prop where
  headers : ∃ base, Covers s.view.canonicalHeaders base s.hashes
  certificates : ∀ id parent, s.view.parentCertificates.lookup id = some parent → parent.canonical = true
    → s.view.canonicalHeaders.lookup parent.parentHeight = some parent.parentHash
  -- A session is open as long as its certificate is canonical.
  sessions : ∀ id session, s.view.sessions.lookup id = some session
    → ∃ parent, s.view.parentCertificates.lookup session.parentCertificateId = some parent
      ∧ parent.canonical = !session.closedForReorg

theorem consistent_empty : Consistent empty where
  headers := ⟨0, by decide, fun height => by simp [empty, hashes, PlanPaymentTracker.empty]⟩
  certificates := by
    intro id parent h
    contradiction
  sessions := by
    intro id session h
    contradiction

inductive Request where
  | connectBlock (height : UInt32) (blockHash : Hash256) (paidPlan : Option UInt64)
  | registerParentCertificate (certificate : SessionParentCertificateV2)
  | registerSession (session : MaskSessionV2)
  | disconnectTip (height : UInt32) (blockHash : Hash256)
  | addEligible (sequence : UInt64)
  | invalidateEligible (sequence : UInt64)
  | registerPlan (plan : PayoutPlanV2)

/-- Heights below `u32::MAX`. -/
def Request.Bounded : Request → Prop
  | .connectBlock height _ _ => height.toNat + 1 < 2 ^ 32
  | _ => True

variable {s : Overlay} {blockHash : Hash256} {payments : PlanPaymentTracker}

theorem Consistent.connectBlock (h : s.Consistent) (hheight : height.toNat + 1 < 2 ^ 32) {paidPlan : Option UInt64}
    (hpayments : PlanPaymentTracker.connectBlock blockHash paidPlan s.payments = .ok () payments)
    (hnext : ∀ tip, s.view.canonicalHeaders.lastKeyValue = some tip → height = saturatingSucc tip.1)
    : Consistent { s with
        payments
        view.canonicalHeaders := s.view.canonicalHeaders.insert height blockHash } := by
  obtain ⟨base, hcovers⟩ := h.headers
  obtain ⟨hfresh, hcovers⟩ := hcovers.connect hheight hnext blockHash
  refine ⟨?_, ?_, h.sessions⟩
  . unfold hashes
    rw [PlanPaymentTracker.canonicalPayments_connectBlock hpayments, List.map_append]
    exact hcovers
  . intro id parent hparent hcanonical
    have hheader := h.certificates id parent hparent hcanonical
    have hne : parent.parentHeight ≠ height := by
      intro heq
      rw [heq, hfresh] at hheader
      contradiction
    dsimp only
    rw [AList.lookup_insert_ne hne, hheader]

variable {id : Hash256}

theorem mem_invalidateParents {view : CanonicalOverlayView}
    : id ∈ (view.invalidateParents height blockHash).1
      ↔ ∃ parent, view.parentCertificates.lookup id = some parent ∧ orphaned height blockHash parent = true := by
  unfold invalidateParents
  rw [AList.mem_collectWhere]
  constructor
  . rintro ⟨_, parent, hparent, horphaned, rfl⟩
    exact ⟨parent, hparent, horphaned⟩
  . rintro ⟨parent, hparent, horphaned⟩
    exact ⟨id, parent, hparent, horphaned, rfl⟩

theorem lookup_parent_disconnected
    : (disconnected s height blockHash payments).view.parentCertificates.lookup id
      = (s.view.parentCertificates.lookup id).map fun parent =>
          if orphaned height blockHash parent then { parent with canonical := false } else parent :=
  AList.lookup_mapValues ..

theorem lookup_session_disconnected
    : (disconnected s height blockHash payments).view.sessions.lookup id
      = (s.view.sessions.lookup id).map fun session =>
          if session.parentCertificateId ∈ (s.view.invalidateParents height blockHash).1 then
            { session with closedForReorg := true }
          else
            session :=
  AList.lookup_mapValues ..

theorem canonical_of_not_orphaned {height : UInt32} {blockHash : Hash256} {parent : TrackedParentCertificate}
    (h : (if orphaned height blockHash parent then { parent with canonical := false } else parent).canonical = true)
    : orphaned height blockHash parent = false ∧ parent.canonical = true := by
  split at h
  . contradiction
  next horphaned => exact ⟨by simpa using horphaned, h⟩

theorem Consistent.disconnectTip (h : s.Consistent)
    (hpayments : PlanPaymentTracker.disconnectTip blockHash s.payments = .ok () payments)
    (htip : s.view.canonicalHeaders.lastKeyValue = some (height, blockHash))
    : Consistent (disconnected s height blockHash payments) where
  headers := by
    obtain ⟨base, hcovers⟩ := h.headers
    obtain ⟨paidPlan, hlast⟩ := PlanPaymentTracker.canonicalPayments_disconnectTip hpayments
    unfold hashes at hcovers
    rw [hlast, List.map_append] at hcovers
    have hheight := hcovers.lastKeyValue_eq
    rw [htip, Option.some.injEq, Prod.mk.injEq] at hheight
    refine ⟨base, ?_⟩
    unfold disconnected
    dsimp only
    rw [hheight.1]
    exact hcovers.erase_last
  certificates := by
    intro id parent hparent hcanonical
    rw [lookup_parent_disconnected, Option.map_eq_some_iff] at hparent
    obtain ⟨parent, hparent, rfl⟩ := hparent
    obtain ⟨horphaned, hcanonical⟩ := canonical_of_not_orphaned hcanonical
    rw [horphaned]
    have hheader := h.certificates id parent hparent hcanonical
    have hne : parent.parentHeight ≠ height := by
      intro heq
      rw [heq, (AList.lastKeyValue_eq_some.mp htip).1, Option.some.injEq] at hheader
      simp [orphaned, hcanonical, heq, hheader] at horphaned
    exact (AList.lookup_erase_ne hne).trans hheader
  sessions := by
    intro id session hsession
    rw [lookup_session_disconnected, Option.map_eq_some_iff] at hsession
    obtain ⟨session, hsession, rfl⟩ := hsession
    obtain ⟨parent, hparent, hopen⟩ := h.sessions id session hsession
    have hid : ∀ b : Bool, (if session.parentCertificateId ∈ (s.view.invalidateParents height blockHash).1 then
        { session with closedForReorg := b } else session).parentCertificateId = session.parentCertificateId := by
      intro b
      split <;> rfl
    rw [hid, lookup_parent_disconnected, hparent]
    refine ⟨_, rfl, ?_⟩
    cases horphaned : orphaned height blockHash parent with
    | true => simp [mem_invalidateParents, hparent, horphaned]
    | false => simpa [mem_invalidateParents, hparent, horphaned] using hopen

variable {requests : List Request}

section

variable [P : Primitives]

def Request.call : Request → Call Unit
  | .connectBlock height blockHash paidPlan => CanonicalOverlayView.connectBlock height blockHash paidPlan
  | .registerParentCertificate certificate => CanonicalOverlayView.registerParentCertificate certificate
  | .registerSession session => CanonicalOverlayView.registerSession session
  | .disconnectTip height blockHash => do
    let _ ← CanonicalOverlayView.disconnectTip height blockHash
  | .addEligible sequence => onPayments (PlanPaymentTracker.addEligible sequence)
  | .invalidateEligible sequence => onPayments (PlanPaymentTracker.invalidateEligible sequence)
  | .registerPlan plan => EntropyPlanTracker.register plan

def after (s : Overlay) (request : Request) : Overlay :=
  match request.call s with
  | .ok _ s' => s'
  | .error _ s' => s'

def run (s : Overlay) (requests : List Request) : Overlay :=
  requests.foldl after s

/-- What a call that succeeds does to the view. -/
inductive Does (s : Overlay) : Request → Overlay → Prop where
  | nothing {request : Request} {s' : Overlay} (hview : s'.view = s.view) (hhashes : s'.hashes = s.hashes)
      : Does s request s'
  | connect {height : UInt32} {blockHash : Hash256} {paidPlan : Option UInt64} {payments : PlanPaymentTracker}
      (hpayments : PlanPaymentTracker.connectBlock blockHash paidPlan s.payments = .ok () payments)
      (hnext : ∀ tip, s.view.canonicalHeaders.lastKeyValue = some tip → height = saturatingSucc tip.1)
      : Does s (.connectBlock height blockHash paidPlan) { s with
          payments
          view.canonicalHeaders := s.view.canonicalHeaders.insert height blockHash }
  | certify {certificate : SessionParentCertificateV2}
      (hheader : s.view.canonicalHeaders.lookup certificate.parentHeight = some certificate.parentHash)
      (hnone : s.view.parentCertificates.lookup (objectId certificate) = none)
      : Does s (.registerParentCertificate certificate) { s with
          view.parentCertificates := s.view.parentCertificates.insert (objectId certificate)
            ⟨certificate.parentHeight, certificate.parentHash, true⟩ }
  | begin {session : MaskSessionV2} {parent : TrackedParentCertificate}
      (hparent : s.view.parentCertificates.lookup session.parentCertificateId = some parent)
      (hcanonical : parent.canonical = true)
      : Does s (.registerSession session) { s with
          view.sessions := s.view.sessions.insert (objectId session) ⟨session.parentCertificateId, false⟩ }
  | disconnect {height : UInt32} {blockHash : Hash256} {payments : PlanPaymentTracker}
      (hpayments : PlanPaymentTracker.disconnectTip blockHash s.payments = .ok () payments)
      (htip : s.view.canonicalHeaders.lastKeyValue = some (height, blockHash))
      : Does s (.disconnectTip height blockHash) (disconnected s height blockHash payments)

theorem call_cases (s : Overlay) (request : Request)
    : (∃ s', request.call s = .ok () s' ∧ Does s request s') ∨ ∃ error, request.call s = .error error s := by
  cases request with
  | connectBlock height blockHash paidPlan =>
    rcases connectBlock_cases s height blockHash paidPlan with herror | ⟨_, hpayments, hnext, hok⟩
    . exact .inr herror
    . exact .inl ⟨_, hok, .connect hpayments hnext⟩
  | registerParentCertificate certificate =>
    rcases registerParentCertificate_cases s certificate with
      herror | ⟨hheader, ⟨_, hok⟩ | ⟨hnone, hok⟩⟩
    . exact .inr ⟨_, herror⟩
    . exact .inl ⟨_, hok, .nothing rfl rfl⟩
    . exact .inl ⟨_, hok, .certify hheader hnone⟩
  | registerSession session =>
    rcases registerSession_cases s session with
      herror | ⟨parent, hparent, hcanonical, _, _, ⟨_, hok⟩ | ⟨_, hok⟩⟩
    . exact .inr herror
    . exact .inl ⟨_, hok, .nothing rfl rfl⟩
    . exact .inl ⟨_, hok, .begin hparent hcanonical⟩
  | disconnectTip height blockHash =>
    rcases disconnectTip_cases s height blockHash with ⟨error, herror⟩ | ⟨_, hpayments, htip, hok⟩
    . exact .inr ⟨error, bind_of_error herror _⟩
    . exact .inl ⟨_, bind_of_ok hok _, .disconnect hpayments htip⟩
  | addEligible sequence =>
    have hok := onPayments_ok (PlanPaymentTracker.addEligible_eq s.payments sequence)
    exact .inl ⟨_, hok, .nothing rfl rfl⟩
  | invalidateEligible sequence => exact .inl ⟨_, rfl, .nothing rfl rfl⟩
  | registerPlan plan =>
    rcases register_cases s plan with herror | ⟨_, hok⟩
    . exact .inr herror
    . exact .inl ⟨_, hok, .nothing rfl rfl⟩

theorem after_cases (s : Overlay) (request : Request) : Does s request (s.after request) := by
  unfold Overlay.after
  rcases call_cases s request with ⟨s', hcall, hdoes⟩ | ⟨error, hcall⟩
  . rw [hcall]
    exact hdoes
  . rw [hcall]
    exact .nothing rfl rfl

theorem Consistent.after (h : s.Consistent) {request : Request} (hbounded : request.Bounded)
    : (s.after request).Consistent := by
  have hdoes := after_cases s request
  generalize s.after request = s' at hdoes
  cases hdoes with
  | nothing hview hhashes =>
    refine ⟨?_, ?_, ?_⟩ <;> simp only [hview, hhashes]
    exacts [h.headers, h.certificates, h.sessions]
  | connect hpayments hnext => exact h.connectBlock hbounded hpayments hnext
  | certify hheader hnone =>
    refine ⟨h.headers, ?_, ?_⟩
    . intro id parent hparent hcanonical
      rcases AList.lookup_insert_eq_some.mp hparent with ⟨_, rfl⟩ | ⟨_, hparent⟩
      . exact hheader
      . exact h.certificates id parent hparent hcanonical
    . intro id session hsession
      obtain ⟨parent, hparent, hopen⟩ := h.sessions id session hsession
      refine ⟨parent, AList.lookup_insert_eq_some.mpr (.inr ⟨?_, hparent⟩), hopen⟩
      rintro heq
      rw [heq, hnone] at hparent
      contradiction
  | begin hparent hcanonical =>
    refine ⟨h.headers, h.certificates, ?_⟩
    intro id tracked htracked
    rcases AList.lookup_insert_eq_some.mp htracked with ⟨_, rfl⟩ | ⟨_, htracked⟩
    . exact ⟨_, hparent, hcanonical⟩
    . exact h.sessions id tracked htracked
  | disconnect hpayments htip => exact h.disconnectTip hpayments htip

theorem Consistent.run (h : s.Consistent) (hbounded : ∀ request ∈ requests, request.Bounded)
    : (s.run requests).Consistent := by
  induction requests generalizing s with
  | nil => exact h
  | cons request requests ih =>
    rw [List.forall_mem_cons] at hbounded
    exact ih (h.after hbounded.1) hbounded.2

omit P in
theorem invalidatedParent_iff (payments : PlanPaymentTracker) (id : Hash256)
    : id ∈ (reorgEffects s height blockHash).invalidatedParentCertificates
      ↔ s.view.isParentCanonical id = true
        ∧ (disconnected s height blockHash payments).view.isParentCanonical id = false := by
  unfold isParentCanonical reorgEffects
  rw [mem_invalidateParents, lookup_parent_disconnected]
  cases s.view.parentCertificates.lookup id with
  | none => simp
  | some parent =>
    cases horphaned : orphaned height blockHash parent with
    | true =>
      have hcanonical : parent.canonical = true := by
        simp only [orphaned, Bool.and_eq_true] at horphaned
        exact horphaned.1.1
      simp [horphaned, hcanonical]
    | false => simp [horphaned]

omit P in
theorem Consistent.closed_iff (h : s.Consistent) (payments : PlanPaymentTracker) (id : Hash256)
    : id ∈ (reorgEffects s height blockHash).closedSessions
      ↔ (∃ session, s.view.sessions.lookup id = some session ∧ session.closedForReorg = false)
        ∧ (disconnected s height blockHash payments).view.sessionClosedForReorg id = true := by
  have hmem : id ∈ (reorgEffects s height blockHash).closedSessions
      ↔ ∃ session, s.view.sessions.lookup id = some session
        ∧ session.parentCertificateId ∈ (s.view.invalidateParents height blockHash).1 := by
    unfold reorgEffects closeSessions
    rw [AList.mem_collectWhere]
    constructor
    . rintro ⟨_, session, hsession, hparent, rfl⟩
      exact ⟨session, hsession, of_decide_eq_true hparent⟩
    . rintro ⟨session, hsession, hparent⟩
      exact ⟨id, session, hsession, decide_eq_true hparent, rfl⟩
  unfold sessionClosedForReorg
  rw [hmem, lookup_session_disconnected]
  cases hsession : s.view.sessions.lookup id with
  | none => simp
  | some session =>
    obtain ⟨parent, hparent, hopen⟩ := h.sessions id session hsession
    by_cases hinvalid : session.parentCertificateId ∈ (s.view.invalidateParents height blockHash).1
    . have hcanonical : parent.canonical = true := by
        obtain ⟨other, hother, horphaned⟩ := mem_invalidateParents.mp hinvalid
        rw [hparent, Option.some.injEq] at hother
        simp only [orphaned, Bool.and_eq_true] at horphaned
        rw [hother]
        exact horphaned.1.1
      rw [hcanonical] at hopen
      simpa [hinvalid] using hopen
    . simp [hinvalid]

omit P in
theorem invalidatedPlan_iff (sequence : UInt64)
    : sequence ∈ (reorgEffects s height blockHash).invalidatedPlanSequences
      ↔ ∃ id plan, s.entropy.plans.lookup id = some plan ∧ plan.canonical = true
          ∧ (height, blockHash) ∈ plan.entropyBlocks ∧ plan.sequence = sequence := by
  unfold reorgEffects EntropyPlanTracker.disconnectEntropyBlock EntropyPlanTracker.uses
  simp only [AList.mem_collectWhere, Bool.and_eq_true, List.contains_iff_mem, and_assoc]

theorem run_empty_consistent (requests : List Request) (hbounded : ∀ request ∈ requests, request.Bounded)
    : let s := empty.run requests
      (∃ base, Covers s.view.canonicalHeaders base s.hashes)
        ∧ (∀ id parent, s.view.parentCertificates.lookup id = some parent → parent.canonical = true
            → s.view.canonicalHeaders.lookup parent.parentHeight = some parent.parentHash)
        ∧ (∀ id session, s.view.sessions.lookup id = some session → session.closedForReorg = false
            → s.view.isParentCanonical session.parentCertificateId = true)
        ∧ (∀ height blockHash effects s',
            disconnectTip height blockHash s = .ok effects s'
              → (∀ id, id ∈ effects.invalidatedParentCertificates
                  ↔ s.view.isParentCanonical id = true ∧ s'.view.isParentCanonical id = false)
                ∧ (∀ id, id ∈ effects.closedSessions
                  ↔ (∃ session, s.view.sessions.lookup id = some session ∧ session.closedForReorg = false)
                    ∧ s'.view.sessionClosedForReorg id = true)
                ∧ (∀ sequence, sequence ∈ effects.invalidatedPlanSequences
                  ↔ ∃ id plan, s.entropy.plans.lookup id = some plan ∧ plan.canonical = true
                      ∧ (height, blockHash) ∈ plan.entropyBlocks ∧ plan.sequence = sequence)
                ∧ ∀ sequence ∈ effects.invalidatedPlanSequences, sequence ∉ s'.payments.payableSequences)
        ∧ ∀ request : Request, (∃ s', request.call s = .ok () s') ∨ ∃ error, request.call s = .error error s := by
  have h := consistent_empty.run hbounded
  refine ⟨h.headers, h.certificates, ?_, ?_, fun request => (call_cases _ request).imp_left ?_⟩
  . intro id session hsession hopen
    obtain ⟨parent, hparent, hcanonical⟩ := h.sessions id session hsession
    unfold isParentCanonical
    rw [hparent, Option.any_some, hcanonical, hopen]
    rfl
  . intro height blockHash effects s' hcall
    rcases disconnectTip_cases (empty.run requests) height blockHash with
      ⟨_, herror⟩ | ⟨payments, -, -, hok⟩
    . rw [hcall] at herror
      contradiction
    . rw [hcall] at hok
      injection hok with heffects hs'
      rw [heffects, hs']
      refine ⟨invalidatedParent_iff payments, h.closed_iff payments, invalidatedPlan_iff, ?_⟩
      intro sequence hmem hpayable
      exact (Finset.mem_sdiff.mp hpayable).2 (List.mem_toFinset.mpr hmem)
  . rintro ⟨s', hcall, _⟩
    exact ⟨s', hcall⟩

end

def sampleHash (byte : UInt8) : Hash256 :=
  .fill 32 byte

def sampleCertificate : SessionParentCertificateV2 :=
  ⟨2, 0, sampleHash 1, 5, .zero 32, 0, 1, .zero 32, .emptyEd25519⟩

/-- The tip at height `5` is left and comes back. -/
def sampleReturn : List Request :=
  [.connectBlock 5 (sampleHash 1) none, .disconnectTip 5 (sampleHash 1),
   .connectBlock 5 (sampleHash 2) none, .disconnectTip 5 (sampleHash 2),
   .connectBlock 5 (sampleHash 1) none]

theorem run_empty_consistent_sampleReturn
    : letI := Primitives.fold
      (∀ request ∈ sampleReturn, request.Bounded)
        ∧ (empty.run sampleReturn).hashes = [sampleHash 1]
        ∧ ∃ base, Covers (empty.run sampleReturn).view.canonicalHeaders base (empty.run sampleReturn).hashes := by
  have hbounded : ∀ request ∈ sampleReturn, request.Bounded := by
    simp [sampleReturn, Request.Bounded]
  have h := run_empty_consistent sampleReturn hbounded (P := .fold)
  refine ⟨hbounded, ?_, h.1⟩
  decide

section

variable [P : Primitives]

/-!
### Coming back to a branch
-/

variable {parent : TrackedParentCertificate} {certificate : SessionParentCertificateV2}

/-- A call leaves the block of a tracked certificate alone, and never makes the certificate canonical again. -/
theorem lookup_parent_after (request : Request) (h : s.view.parentCertificates.lookup id = some parent)
    : ∃ canonical, (s.after request).view.parentCertificates.lookup id = some { parent with canonical }
        ∧ (canonical = true → parent.canonical = true) := by
  have hdoes := after_cases s request
  generalize s.after request = s' at hdoes
  cases hdoes with
  | nothing hview _ =>
    rw [hview]
    exact ⟨parent.canonical, h, fun hcanonical => hcanonical⟩
  | connect | begin => exact ⟨parent.canonical, h, fun hcanonical => hcanonical⟩
  | certify _ hnone =>
    refine ⟨parent.canonical, AList.lookup_insert_eq_some.mpr (.inr ⟨?_, h⟩), fun hcanonical => hcanonical⟩
    rintro rfl
    rw [h] at hnone
    contradiction
  | @disconnect height blockHash =>
    rw [lookup_parent_disconnected, h, Option.map_some]
    split
    . exact ⟨false, rfl, by simp⟩
    . exact ⟨parent.canonical, rfl, fun hcanonical => hcanonical⟩

theorem lookup_parent_run (requests : List Request) (h : s.view.parentCertificates.lookup id = some parent)
    : ∃ canonical, (s.run requests).view.parentCertificates.lookup id = some { parent with canonical }
        ∧ (canonical = true → parent.canonical = true) := by
  induction requests generalizing s parent with
  | nil => exact ⟨parent.canonical, h, fun hcanonical => hcanonical⟩
  | cons request requests ih =>
    obtain ⟨canonical, hafter, hkept⟩ := lookup_parent_after request h
    obtain ⟨canonical', hrun, hkept'⟩ := ih hafter
    exact ⟨canonical', hrun, fun hcanonical => hkept (hkept' hcanonical)⟩

/-- There is no way back for a certificate: once its block has been disconnected, whatever the history before and
after, registering it again is refused, and so is every session on it. -/
theorem run_refuses_certificate {s₁ s₂ : Overlay} {effects : ReorgEffects} (between later : List Request)
    (hregistered : registerParentCertificate certificate s = .ok () s₁)
    (hdisconnected : disconnectTip certificate.parentHeight certificate.parentHash
      (s₁.run between) = .ok effects s₂)
    : registerParentCertificate certificate (s₂.run later)
        = .error .noncanonicalParentCertificate (s₂.run later)
      ∧ (s₂.run later).view.isParentCanonical (objectId certificate) = false
      ∧ ∀ session : MaskSessionV2, session.parentCertificateId = objectId certificate
        → registerSession session (s₂.run later)
          = .error .noncanonicalSessionParent (s₂.run later) := by
  have htracked := lookup_parent_registered hregistered
  obtain ⟨canonical, hbetween, _⟩ := lookup_parent_run between htracked
  -- The flag may have been lost before; it is lost now in any case.
  have hlost : s₂.view.parentCertificates.lookup (objectId certificate)
      = some ⟨certificate.parentHeight, certificate.parentHash, false⟩ := by
    rcases disconnectTip_cases (s₁.run between) certificate.parentHeight certificate.parentHash with
      ⟨error, herror⟩ | ⟨payments, _, _, hok⟩
    . rw [herror] at hdisconnected
      contradiction
    . rw [hok] at hdisconnected
      injection hdisconnected with _ hs₂
      rw [← hs₂, lookup_parent_disconnected, hbetween, Option.map_some]
      cases canonical <;> simp [orphaned]
  obtain ⟨canonical', hlater, hkept⟩ := lookup_parent_run later hlost
  have hfalse : canonical' = false := by simpa using hkept
  subst hfalse
  refine ⟨registerParentCertificate_tracked hlater rfl, by simp [isParentCanonical, hlater], ?_⟩
  intro session hparent
  exact registerSession_tracked (hparent ▸ hlater) rfl

end

/-- The same with the certificate registered before the tip is left. -/
def sampleInvalidated : List Request :=
  [.connectBlock 5 (sampleHash 1) none, .registerParentCertificate sampleCertificate,
   .disconnectTip 5 (sampleHash 1), .connectBlock 5 (sampleHash 1) none]

theorem run_refuses_returned_certificate
    : letI := Primitives.fold
      (empty.run (sampleInvalidated.take 2)).view.isParentCanonical (objectId sampleCertificate) = true
        ∧ (empty.run (sampleInvalidated.take 3)).view.isParentCanonical (objectId sampleCertificate) = false
        ∧ (empty.run sampleInvalidated).view.canonicalHeaders.lookup 5 = some (sampleHash 1)
        ∧ registerParentCertificate sampleCertificate (empty.run sampleInvalidated)
          = .error .noncanonicalParentCertificate (empty.run sampleInvalidated) := by
  have htracked : letI := Primitives.fold
      (empty.run sampleInvalidated).view.parentCertificates.lookup (objectId sampleCertificate)
      = some ⟨5, sampleHash 1, false⟩ := by
    decide +kernel
  refine ⟨by decide +kernel, by decide +kernel, by decide +kernel, ?_⟩
  exact registerParentCertificate_tracked htracked rfl (P := .fold)

theorem run_refuses_certificate_sampleInvalidated
    : letI := Primitives.fold
      (empty.run sampleInvalidated).view.canonicalHeaders.lookup 5 = some (sampleHash 1)
        ∧ registerParentCertificate sampleCertificate (empty.run sampleInvalidated)
          = .error .noncanonicalParentCertificate (empty.run sampleInvalidated) := by
  let _ := Primitives.fold
  have hregistered : registerParentCertificate sampleCertificate
      (empty.run (sampleInvalidated.take 1)) = .ok () (empty.run (sampleInvalidated.take 2)) := rfl
  have hdisconnected : ∃ effects, disconnectTip 5 (sampleHash 1)
      (empty.run (sampleInvalidated.take 2)) = .ok effects (empty.run (sampleInvalidated.take 3)) := ⟨_, rfl⟩
  obtain ⟨effects, hdisconnected⟩ := hdisconnected
  refine ⟨by decide +kernel, ?_⟩
  exact (run_refuses_certificate [] [.connectBlock 5 (sampleHash 1) none] hregistered hdisconnected).1

end Overlay

end MeshMine.Settlement
