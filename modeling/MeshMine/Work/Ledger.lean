import MeshMine.Work.LeasePoints

/-!
The steps that planner calls make on the store, and a ledger of all leases that were ever recorded: the cursor of
an assignment is behind every lease that was cut along it, and an assignment that a device has for itself has one
lease.
-/

namespace MeshMine.Work

open MeshMine.Types Codec Storage

def SignedAssignment.cursorRow (assignmentId : Hash256) : SignedAssignment → Row
  | assignment _ => nonceCursorRow assignmentId
  | gateway _ => extraCursorRow assignmentId

def SignedAssignment.start : SignedAssignment → UInt32
  | assignment value => value.nonceStart
  | gateway value => UInt32.ofNat value.extraNonce2StartBe.toNat

def Aligned : SignedAssignment → CursorState → Prop
  | .assignment value, state => ∀ next, state = .next next → value.nonceStart.toNat ≤ next.toNat
    ∧ (next.toNat - value.nonceStart.toNat) % value.nonceStride.toNat = 0
  | .gateway _, _ => True

theorem cursorRow_inj {signed signed' : SignedAssignment} {id id' : Hash256}
    (h : signed.cursorRow id = signed'.cursorRow id')
    : id = id' := by
  have hkey : ∀ suffix suffix' : List UInt8, suffix.length = 6 → suffix'.length = 6
      → hexEncode id.toList ++ suffix = hexEncode id'.toList ++ suffix' → id = id' := by
    intro suffix suffix' hsuffix hsuffix' heq
    have hlength := congrArg List.length heq
    simp only [List.length_append, hsuffix, hsuffix'] at hlength
    exact ByteVec.ext (hexEncode_inj (List.append_inj_left heq (by omega)))
  have hextra : (asciiBytes ":extra").length = 6 := by decide
  have hnonce : (asciiBytes ":nonce").length = 6 := by decide
  have hkeys := congrArg Row.key h
  cases signed <;> cases signed' <;> exact hkey _ _ (by assumption) (by assumption) hkeys

def ledgerSpaces : List String :=
  [leaseNamespace, cursorNamespace, exclusiveNamespace]

attribute [simp] ledgerSpaces leaseNamespace cursorNamespace exclusiveNamespace exclusiveRow

theorem deviceRow_notMem (deviceId : DeviceId) : (deviceRow deviceId).space ∉ ledgerSpaces := by
  simp [deviceRow, deviceNamespace]

theorem activeLeaseRow_notMem (deviceId : DeviceId) : (activeLeaseRow deviceId).space ∉ ledgerSpaces := by
  simp [activeLeaseRow, activeLeaseNamespace]

variable [P : Primitives]

def LeaseSeen (s : Store) (lease : WorkLease) : Prop :=
  ∃ key bytes, s.find ⟨leaseNamespace, key⟩ = some bytes ∧ decodeLease bytes = .ok lease

structure Records (lease : WorkLease) (before after : Store) : Prop where
  decodes : decodeLease (toCanonicalBytes lease) = .ok lease
  rows : ∀ key, after.find ⟨leaseNamespace, key⟩ = before.find ⟨leaseNamespace, key⟩
    ∨ after.find ⟨leaseNamespace, key⟩ = some (toCanonicalBytes lease)

variable (book : Hash256 → Option SignedAssignment) (ranged : Hash256 → Bool)

omit P in
def Shared (assignmentId : Hash256) : SignedAssignment → Prop
  | .assignment _ => ranged assignmentId = true
  | .gateway _ => True

structure Allocates (lease : WorkLease) (signed : SignedAssignment) (state : CursorState)
    (before after : Store) : Prop where
  booked : book lease.assignmentId = some signed
  shared : Shared ranged lease.assignmentId signed
  records : Records lease before after
  cursor : decodeCursor (before.find (signed.cursorRow lease.assignmentId)) = .ok state
  begins : state.position signed.start = .ok (signed.low lease)
  ordered : signed.low lease ≤ signed.high lease
  stretch : Aligned signed state → Stretch signed lease
  advanced : ∃ state', decodeCursor (after.find (signed.cursorRow lease.assignmentId)) = .ok state'
    ∧ state'.Beyond (signed.high lease) ∧ (Aligned signed state → Aligned signed state')
  others : ∀ row, row.space ∈ ledgerSpaces → row.space ≠ leaseNamespace
    → row ≠ signed.cursorRow lease.assignmentId → after.find row = before.find row

structure Excludes (lease : WorkLease) (value : AssignmentV2) (before after : Store) : Prop where
  booked : book lease.assignmentId = some (.assignment value)
  unshared : ranged lease.assignmentId = false
  records : Records lease before after
  vacant : before.find (exclusiveRow lease.assignmentId) = none
  stretch : Stretch (.assignment value) lease
  taken : after.find (exclusiveRow lease.assignmentId) ≠ none
  others : ∀ row, row.space ∈ ledgerSpaces → row.space ≠ leaseNamespace
    → row ≠ exclusiveRow lease.assignmentId → after.find row = before.find row

inductive PlannerStep (before after : Store) : Prop where
  | other (h : ∀ row, row.space ∈ ledgerSpaces → after.find row = before.find row)
  | allocates {lease : WorkLease} {signed : SignedAssignment} {state : CursorState}
      (h : Allocates book ranged lease signed state before after)
  | excludes {lease : WorkLease} {value : AssignmentV2} (h : Excludes book ranged lease value before after)

/-!
### The ledger
-/

structure Passed (s : Store) (signed : SignedAssignment) (lease : WorkLease) : Prop where
  shared : Shared ranged lease.assignmentId signed
    → ∃ state, decodeCursor (s.find (signed.cursorRow lease.assignmentId)) = .ok state
      ∧ state.Beyond (signed.high lease)
  unshared : ¬ Shared ranged lease.assignmentId signed → s.find (exclusiveRow lease.assignmentId) ≠ none

structure Ledger (s : Store) (issued : List WorkLease) : Prop where
  recorded : ∀ key bytes, s.find ⟨leaseNamespace, key⟩ = some bytes
    → ∃ lease ∈ issued, decodeLease bytes = .ok lease
  passed : ∀ lease ∈ issued, ∃ signed, book lease.assignmentId = some signed ∧ Stretch signed lease
    ∧ Passed ranged s signed lease
  disjoint : issued.Pairwise fun lease lease' => lease.assignmentId = lease'.assignmentId
    → Disjoint lease.points lease'.points
  aligned : ∀ id signed state, book id = some signed
    → decodeCursor (s.find (signed.cursorRow id)) = .ok state → Aligned signed state

variable {book ranged} {before after : Store} {issued : List WorkLease} {lease : WorkLease}

theorem Records.recorded (h : Records lease before after)
    (hrecorded : ∀ key bytes, before.find ⟨leaseNamespace, key⟩ = some bytes
      → ∃ lease ∈ issued, decodeLease bytes = .ok lease)
    : ∀ key bytes, after.find ⟨leaseNamespace, key⟩ = some bytes
      → ∃ other ∈ lease :: issued, decodeLease bytes = .ok other := by
  intro key bytes hbytes
  rcases h.rows key with hsame | hnew
  . rw [hsame] at hbytes
    obtain ⟨other, hmem, hdecode⟩ := hrecorded key bytes hbytes
    exact ⟨other, List.mem_cons_of_mem _ hmem, hdecode⟩
  . rw [hnew] at hbytes
    injection hbytes with hbytes
    refine ⟨lease, List.mem_cons_self .., ?_⟩
    rw [← hbytes]
    exact h.decodes

omit P in
theorem cursorRow_space (signed : SignedAssignment) (id : Hash256)
    : (signed.cursorRow id).space = cursorNamespace := by
  cases signed <;> rfl

omit P in
theorem cursorRow_ne_exclusiveRow (signed : SignedAssignment) (id id' : Hash256)
    : exclusiveRow id ≠ signed.cursorRow id' := by
  intro heq
  have hspace := congrArg Row.space heq
  rw [cursorRow_space] at hspace
  simp at hspace

namespace Ledger

variable (h : Ledger book ranged before issued)

include h

theorem mem_of_leaseSeen (hseen : LeaseSeen before lease)
    : lease ∈ issued := by
  obtain ⟨key, bytes, hbytes, hdecode⟩ := hseen
  obtain ⟨other, hmem, hother⟩ := h.recorded key bytes hbytes
  rw [hdecode] at hother
  injection hother with hother
  rw [hother]
  exact hmem

theorem keeps (hsame : ∀ row, row.space ∈ ledgerSpaces → after.find row = before.find row)
    : Ledger book ranged after issued := by
  have hcursor : ∀ signed id, after.find (SignedAssignment.cursorRow id signed)
      = before.find (signed.cursorRow id) := by
    intro signed id
    apply hsame
    rw [cursorRow_space]
    simp
  constructor
  case recorded =>
    intro key bytes hbytes
    rw [hsame _ (by simp)] at hbytes
    exact h.recorded key bytes hbytes
  case passed =>
    intro lease hmem
    obtain ⟨signed, hsigned, hstretch, hpassed⟩ := h.passed lease hmem
    refine ⟨signed, hsigned, hstretch, ?_, ?_⟩
    . rw [hcursor]
      exact hpassed.shared
    . rw [hsame _ (by simp)]
      exact hpassed.unshared
  case disjoint => exact h.disjoint
  case aligned =>
    intro id signed state hsigned hstate
    rw [hcursor] at hstate
    exact h.aligned id signed state hsigned hstate

theorem allocates {signed : SignedAssignment} {state : CursorState}
    (hstep : Allocates book ranged lease signed state before after)
    : Ledger book ranged after (lease :: issued) := by
  have hstretch := hstep.stretch (h.aligned _ _ _ hstep.booked hstep.cursor)
  obtain ⟨state', hcursor', hbeyond, haligned⟩ := hstep.advanced
  have hother : ∀ id signed', id ≠ lease.assignmentId
      → after.find (SignedAssignment.cursorRow id signed') = before.find (signed'.cursorRow id) := by
    intro id signed' hne
    apply hstep.others
    . rw [cursorRow_space]
      simp
    . rw [cursorRow_space]
      simp
    . exact fun heq => hne (cursorRow_inj heq)
  have hexclusive : ∀ id, after.find (exclusiveRow id) = before.find (exclusiveRow id) := by
    intro id
    apply hstep.others
    . simp
    . simp
    . exact cursorRow_ne_exclusiveRow signed id _
  constructor
  case recorded => exact hstep.records.recorded h.recorded
  case passed =>
    rw [List.forall_mem_cons]
    constructor
    . refine ⟨signed, hstep.booked, hstretch, fun _ => ⟨state', hcursor', hbeyond⟩, ?_⟩
      intro hunshared
      exact absurd hstep.shared hunshared
    . intro other hmem
      obtain ⟨signed', hsigned', hstretch', hpassed⟩ := h.passed other hmem
      refine ⟨signed', hsigned', hstretch', ?_, ?_⟩
      . intro hshared
        by_cases hid : other.assignmentId = lease.assignmentId
        . rw [hid, hstep.booked, Option.some.injEq] at hsigned'
          subst hsigned'
          obtain ⟨old, hold, hpast⟩ := hpassed.shared hshared
          rw [hid, hstep.cursor] at hold
          injection hold with hold
          subst hold
          refine ⟨state', by rw [hid]; exact hcursor', ?_⟩
          -- The new lease begins where the cursor was, so that the cursor has not gone back.
          have hlt := hpast.lt_position hstep.begins
          have hordered := hstep.ordered
          exact hbeyond.mono (by omega)
        . rw [hother _ _ hid]
          exact hpassed.shared hshared
      . rw [hexclusive]
        exact hpassed.unshared
  case disjoint =>
    rw [List.pairwise_cons]
    refine ⟨?_, h.disjoint⟩
    intro other hmem hid
    obtain ⟨signed', hsigned', hstretch', hpassed⟩ := h.passed other hmem
    rw [← hid, hstep.booked, Option.some.injEq] at hsigned'
    subst hsigned'
    have hshared := hstep.shared
    rw [hid] at hshared
    obtain ⟨old, hold, hpast⟩ := hpassed.shared hshared
    rw [← hid, hstep.cursor] at hold
    injection hold with hold
    subst hold
    exact hstretch'.disjoint hstretch (hpast.lt_position hstep.begins)
  case aligned =>
    intro id signed' state₁ hsigned' hstate₁
    by_cases hid : id = lease.assignmentId
    . rw [hid, hstep.booked, Option.some.injEq] at hsigned'
      subst hsigned'
      rw [hid, hcursor'] at hstate₁
      injection hstate₁ with hstate₁
      rw [← hstate₁]
      exact haligned (h.aligned _ _ _ hstep.booked hstep.cursor)
    . rw [hother _ _ hid] at hstate₁
      exact h.aligned id signed' state₁ hsigned' hstate₁

theorem excludes {value : AssignmentV2} (hstep : Excludes book ranged lease value before after)
    : Ledger book ranged after (lease :: issued) := by
  have hcursor : ∀ id signed, after.find (SignedAssignment.cursorRow id signed)
      = before.find (signed.cursorRow id) := by
    intro id signed
    apply hstep.others
    . rw [cursorRow_space]
      simp
    . rw [cursorRow_space]
      simp
    . exact (cursorRow_ne_exclusiveRow signed _ id).symm
  have hunshared : ¬ Shared ranged lease.assignmentId (.assignment value) := by
    simp [Shared, hstep.unshared]
  constructor
  case recorded => exact hstep.records.recorded h.recorded
  case passed =>
    rw [List.forall_mem_cons]
    constructor
    . exact ⟨_, hstep.booked, hstep.stretch, fun hshared => absurd hshared hunshared, fun _ => hstep.taken⟩
    . intro other hmem
      obtain ⟨signed', hsigned', hstretch', hpassed⟩ := h.passed other hmem
      refine ⟨signed', hsigned', hstretch', ?_, ?_⟩
      . rw [hcursor]
        exact hpassed.shared
      . intro hother
        by_cases hrow : exclusiveRow other.assignmentId = exclusiveRow lease.assignmentId
        . rw [hrow]
          exact hstep.taken
        . rw [hstep.others _ (by simp)
            (by simp) hrow]
          exact hpassed.unshared hother
  case disjoint =>
    rw [List.pairwise_cons]
    refine ⟨?_, h.disjoint⟩
    intro other hmem hid
    obtain ⟨signed', hsigned', _, hpassed⟩ := h.passed other hmem
    rw [← hid, hstep.booked, Option.some.injEq] at hsigned'
    subst hsigned'
    have htaken := hpassed.unshared
    rw [← hid] at htaken
    exact absurd hstep.vacant (htaken hunshared)
  case aligned =>
    intro id signed state hsigned hstate
    rw [hcursor] at hstate
    exact h.aligned id signed state hsigned hstate

theorem step (hstep : PlannerStep book ranged before after)
    : ∃ issued', issued ⊆ issued' ∧ Ledger book ranged after issued' := by
  cases hstep with
  | other hsame => exact ⟨issued, List.Subset.refl _, h.keeps hsame⟩
  | allocates hstep => exact ⟨_, List.subset_cons_self .., h.allocates hstep⟩
  | excludes hstep => exact ⟨_, List.subset_cons_self .., h.excludes hstep⟩

theorem disjoint_of_ne {lease' : WorkLease}
    (hlease : lease ∈ issued) (hlease' : lease' ∈ issued) (hne : lease ≠ lease')
    (hid : lease.assignmentId = lease'.assignmentId)
    : Disjoint lease.points lease'.points := by
  have hsymm : Std.Symm fun a b : WorkLease => a.assignmentId = b.assignmentId → Disjoint a.points b.points :=
    ⟨fun a b hab hid => (hab hid.symm).symm⟩
  exact h.disjoint.forall hlease hlease' hne hid

end Ledger

end MeshMine.Work
