import MeshMine.Storage.StoreTraces
import MeshMine.Work.Ledger

/-!
Planner calls in any interleaving. Each call makes steps of the ledger, so that the leases which a run issues are
disjoint as long as the devices on one assignment all go by the same scheme.
-/

namespace MeshMine.Work

open MeshMine.Types Codec Storage
open WorkPlanner
open StoreM (Leaves)
open StoreM.Leaves (applyBatchIfAll bind_get bind_ofExcept throw_bind)

section

variable [P : Primitives] (book : Hash256 → Option SignedAssignment) (ranged : Hash256 → Bool)

/-!
### The steps of a call
-/

theorem PlannerStep.refl (s : Store) : PlannerStep book ranged s s :=
  .other fun _ _ => rfl

theorem PlannerStep.of_rows {operations : List BatchOperation} (s : Store)
    (h : ∀ operation ∈ operations, operation.row.space ∉ ledgerSpaces)
    : PlannerStep book ranged s (s.applyAll operations) := by
  apply PlannerStep.other
  intro row hrow
  apply Store.find_applyAll_of_notMem
  intro operation hmem heq
  rw [← heq] at hrow
  exact h operation hmem hrow

variable {book ranged} {lease : WorkLease}

/-- The batch that issues a lease: `row` is the row of the scheme. -/
def leaseBatch (lease : WorkLease) (deviceId : DeviceId) (row : Row) (value : List UInt8)
    : List BatchOperation :=
  [ .put (leaseRow lease.leaseId.toList) (toCanonicalBytes lease),
    .put (activeLeaseRow deviceId) lease.leaseId.toList,
    .put row value ]

omit P in
theorem find_leaseBatch_row (s : Store) (lease : WorkLease) (deviceId : DeviceId) (row : Row) (value : List UInt8)
    : (s.applyAll (leaseBatch lease deviceId row value)).find row = some value :=
  Store.find_apply_put _ row value

section

variable (s : Store) (deviceId : DeviceId) {row : Row} (value : List UInt8)

omit P in
theorem find_leaseBatch_lease (lease : WorkLease) (hrow : row.space ≠ leaseNamespace)
    : (s.applyAll (leaseBatch lease deviceId row value)).find (leaseRow lease.leaseId.toList)
      = some (toCanonicalBytes lease) := by
  have hactive : activeLeaseRow deviceId ≠ leaseRow lease.leaseId.toList := by
    simp [activeLeaseRow, leaseRow, activeLeaseNamespace]
  have hother : row ≠ leaseRow lease.leaseId.toList := ne_of_apply_ne Row.space hrow
  rw [Store.find_applyAll]
  simp [leaseBatch, hactive, hother]

omit P in
theorem find_leaseBatch_of_ne (lease : WorkLease) {other : Row} (hspace : other.space ∈ ledgerSpaces)
    (hlease : other ≠ leaseRow lease.leaseId.toList) (hrow : other ≠ row)
    : (s.applyAll (leaseBatch lease deviceId row value)).find other = s.find other := by
  have hactive : other ≠ activeLeaseRow deviceId := by
    rintro rfl
    exact activeLeaseRow_notMem deviceId hspace
  apply Store.find_applyAll_of_notMem
  simp [leaseBatch, Ne.symm hlease, Ne.symm hrow, Ne.symm hactive]

theorem records_leaseBatch {lease : WorkLease} (hdecodes : decodeLease (toCanonicalBytes lease) = .ok lease)
    (hrow : row.space ≠ leaseNamespace)
    : Records lease s (s.applyAll (leaseBatch lease deviceId row value)) where
  decodes := hdecodes
  rows key := by
    by_cases hkey : (⟨leaseNamespace, key⟩ : Row) = leaseRow lease.leaseId.toList
    . right
      rw [hkey]
      exact find_leaseBatch_lease s deviceId value lease hrow
    . left
      apply find_leaseBatch_of_ne s deviceId value lease _ hkey
      . intro heq
        apply hrow
        rw [← heq]
      . simp

theorem leaseSeen_leaseBatch {lease : WorkLease} (hdecodes : decodeLease (toCanonicalBytes lease) = .ok lease)
    (hrow : row.space ≠ leaseNamespace)
    : LeaseSeen (s.applyAll (leaseBatch lease deviceId row value)) lease :=
  ⟨_, _, find_leaseBatch_lease s deviceId value lease hrow, hdecodes⟩

omit P in
theorem others_leaseBatch (lease : WorkLease)
    : ∀ other : Row, other.space ∈ ledgerSpaces → other.space ≠ leaseNamespace → other ≠ row
      → (s.applyAll (leaseBatch lease deviceId row value)).find other = s.find other := by
  intro other hspace hlease hrow
  apply find_leaseBatch_of_ne s deviceId value lease hspace _ hrow
  intro heq
  apply hlease
  rw [heq]
  rfl

end

def SeenIn (log : List (Store × Store)) (lease : WorkLease) : Prop :=
  ∃ transition ∈ log, LeaseSeen transition.2 lease

theorem seenIn_append {log : List (Store × Store)} {s s' : Store} (h : LeaseSeen s' lease)
    : SeenIn (log ++ [(s, s')]) lease :=
  ⟨(s, s'), by simp, h⟩

variable {log : List (Store × Store)} {envelope : WorkEnvelope} {capabilities : DeviceCapabilities}
  {edgeTarget : U256} {nowMs : UInt64} {expiresAtMs : Option UInt64}

theorem persistAllocation_leaves (signed : SignedAssignment) {state : CursorState}
    {cursorBefore cursorAfter : Option (List UInt8)} {cursorRow : Row}
    (hrow : cursorRow = signed.cursorRow lease.assignmentId)
    (hdecodes : decodeLease (toCanonicalBytes lease) = .ok lease)
    (hbooked : book lease.assignmentId = some signed) (hshared : Shared ranged lease.assignmentId signed)
    (hcursor : decodeCursor cursorBefore = .ok state)
    (hbegins : state.position signed.start = .ok (signed.low lease))
    (hordered : signed.low lease ≤ signed.high lease) (hstretch : Aligned signed state → Stretch signed lease)
    (hadvanced : ∃ state', decodeCursor (some (cursorAfter.getD encodeExhaustedCursor)) = .ok state'
      ∧ state'.Beyond (signed.high lease) ∧ (Aligned signed state → Aligned signed state'))
    : Leaves (PlannerStep book ranged)
      (persistAllocation cursorRow cursorBefore cursorAfter capabilities lease) log
      (fun _ log => SeenIn log lease) := by
  have hspace : cursorRow.space ≠ leaseNamespace := by
    rw [hrow, cursorRow_space]
    simp
  apply Leaves.bind
  apply applyBatchIfAll (PlannerStep.refl book ranged)
  . intro s hconditions
    have hbefore := hconditions ⟨cursorRow, cursorBefore⟩ (by simp)
    have hallocates : Allocates book ranged lease signed state s (s.applyAll
        (leaseBatch lease capabilities.deviceId cursorRow (cursorAfter.getD encodeExhaustedCursor))) := {
      booked := hbooked
      shared := hshared
      records := records_leaseBatch s capabilities.deviceId _ hdecodes hspace
      cursor := by
        rw [← hrow, hbefore]
        exact hcursor
      begins := hbegins
      ordered := hordered
      stretch := hstretch
      advanced := by
        rw [← hrow, find_leaseBatch_row]
        exact hadvanced
      others := by
        rw [← hrow]
        exact others_leaseBatch s capabilities.deviceId _ lease }
    refine ⟨.allocates hallocates, ?_⟩
    apply Leaves.pure
    exact seenIn_append (leaseSeen_leaseBatch s capabilities.deviceId _ hdecodes hspace)
  . intro s
    exact Leaves.throw

theorem persistExclusive_leaves {value : AssignmentV2} (hid : lease.assignmentId = envelope.assignmentId)
    (hdecodes : decodeLease (toCanonicalBytes lease) = .ok lease)
    (hbooked : book lease.assignmentId = some (.assignment value))
    (hunshared : ranged lease.assignmentId = false) (hstretch : Stretch (.assignment value) lease)
    : Leaves (PlannerStep book ranged) (persistExclusive envelope capabilities lease) log
      (fun _ log => SeenIn log lease) := by
  have hspace : (exclusiveRow lease.assignmentId).space ≠ leaseNamespace := by
    simp
  apply Leaves.bind
  rw [← hid]
  apply applyBatchIfAll (PlannerStep.refl book ranged)
  . intro s hconditions
    have hexcludes : Excludes book ranged lease value s (s.applyAll
        (leaseBatch lease capabilities.deviceId (exclusiveRow lease.assignmentId)
          capabilities.deviceId.toList)) := {
      booked := hbooked
      unshared := hunshared
      records := records_leaseBatch s capabilities.deviceId _ hdecodes hspace
      vacant := hconditions (.absent (exclusiveRow lease.assignmentId)) (by simp)
      stretch := hstretch
      taken := by
        rw [find_leaseBatch_row]
        simp
      others := others_leaseBatch s capabilities.deviceId _ lease }
    refine ⟨.excludes hexcludes, ?_⟩
    apply Leaves.pure
    exact seenIn_append (leaseSeen_leaseBatch s capabilities.deviceId _ hdecodes hspace)
  . intro s
    exact Leaves.throw

variable {planner : WorkPlanner} {generation : UInt64}

theorem allocateExtraNonce_leaves {value : GatewayAssignmentV1}
    (hbooked : book envelope.assignmentId = some (.gateway value))
    (henvelope : WorkEnvelope.fromGatewayAssignment value generation = .ok envelope)
    : Leaves (PlannerStep book ranged)
      (allocateExtraNonce planner envelope capabilities edgeTarget nowMs expiresAtMs) log
      (fun lease log => SeenIn log lease) := by
  obtain ⟨_, hprofile, hrange⟩ := fromGatewayAssignment_eq_ok henvelope
  unfold allocateExtraNonce
  split
  . exact Leaves.throw
  apply bind_ofExcept
  intro start hstart
  apply bind_ofExcept
  intro last hlast
  apply bind_get (PlannerStep.refl book ranged)
  intro s
  apply bind_ofExcept
  intro state hstate
  apply bind_ofExcept
  rintro ⟨cursor, leaseEnd⟩ hnext
  obtain ⟨hposition, hfirst, hordered, hfinal⟩ := nextExtraNonces_eq_ok hnext
  have hlow : envelope.extraNonceStart = gatewayExtraNonce value.extraNoncePrefix value.extraNonce2StartBe :=
    congrArg LeaseRange.extraNonceStart hrange
  have hhigh : envelope.extraNonceEnd = gatewayExtraNonce value.extraNoncePrefix value.extraNonce2EndBe :=
    congrArg LeaseRange.extraNonceEnd hrange
  rw [hlow, extraNonce2_gatewayExtraNonce] at hstart
  rw [hhigh, extraNonce2_gatewayExtraNonce] at hlast
  injection hstart with hstart
  injection hlast with hlast
  rw [← hstart] at hposition
  rw [UInt32.le_iff_toNat_le] at hfirst hordered hfinal
  rw [← hstart, toNat_ofNat_byteVec] at hfirst
  rw [← hlast, toNat_ofNat_byteVec] at hfinal
  rw [hlow, noncePrefixOf_gatewayExtraNonce]
  apply Leaves.bind
  apply Leaves.mono (persistAllocation_leaves (.gateway value) rfl
    (decodeLease_buildLease ..) hbooked trivial hstate ?_ ?_ ?_ ?_)
  . intro _ log hseen
    exact Leaves.pure hseen
  . simpa [SignedAssignment.low, SignedAssignment.start, buildLease] using hposition
  . simpa [SignedAssignment.low, SignedAssignment.high, buildLease] using hordered
  . intro _
    apply stretch_of_extraNonces hprofile rfl rfl
    . exact congrArg (fun range => OnGrid range.nonceStart range.nonceEnd range.nonceStride) hrange
    . rw [ByteVec.le_iff_toNat_le, toNat_u32ToBe]
      exact hfirst
    . rw [ByteVec.le_iff_toNat_le, toNat_u32ToBe]
      exact hfinal
  . obtain ⟨state', hdecode, hbeyond⟩ := CursorState.beyond_afterExtraNonce leaseEnd
    refine ⟨state', hdecode, ?_, fun _ => trivial⟩
    simpa [SignedAssignment.high, buildLease] using hbeyond

omit P in
theorem position_aligned {value : AssignmentV2} {state : CursorState} {first : UInt32}
    (h : Aligned (.assignment value) state) (hposition : state.position value.nonceStart = .ok first.toNat)
    : value.nonceStart.toNat ≤ first.toNat
      ∧ (first.toNat - value.nonceStart.toNat) % value.nonceStride.toNat = 0 := by
  cases state with
  | unset =>
    injection hposition with hposition
    simp [hposition]
  | next next =>
    injection hposition with hposition
    rw [← hposition]
    exact h next rfl
  | exhausted => contradiction

theorem allocateNonce_leaves {value : AssignmentV2} (hbooked : book envelope.assignmentId = some (.assignment value))
    (henvelope : WorkEnvelope.fromAssignment value generation = .ok envelope)
    (huniform : capabilities.supportsNonceRange = ranged envelope.assignmentId)
    : Leaves (PlannerStep book ranged)
      (allocateNonce planner envelope capabilities edgeTarget nowMs expiresAtMs) log
      (fun lease log => SeenIn log lease) := by
  obtain ⟨_, hpositive, _, hprofile, hrange⟩ := fromAssignment_eq_ok henvelope
  have hextra : envelope.extraNonceStart = value.extraNonce := congrArg LeaseRange.extraNonceStart hrange
  have hstart : envelope.nonceStart = value.nonceStart := congrArg LeaseRange.nonceStart hrange
  have hend : envelope.nonceEnd = value.nonceEnd := congrArg LeaseRange.nonceEnd hrange
  have hstride : envelope.nonceStride = value.nonceStride := congrArg LeaseRange.nonceStride hrange
  unfold allocateNonce
  apply Leaves.ite
  . intro _
    exact throw_bind
  intro _
  rw [huniform]
  apply Leaves.ite
  . intro hunshared
    apply Leaves.bind
    apply Leaves.mono (persistExclusive_leaves rfl (decodeLease_buildLease ..) hbooked ?_ ?_)
    . intro _ log hseen
      exact Leaves.pure hseen
    . simpa [buildLease] using hunshared
    . apply stretch_of_nonces hprofile hextra hstride
      . exact hstart.ge
      . exact hend.le
      . simp [buildLease, WorkEnvelope.range, hstart]
  . intro hshared
    apply bind_get (PlannerStep.refl book ranged)
    intro s
    apply bind_ofExcept
    intro state hstate
    apply bind_ofExcept
    rintro ⟨cursor, leaseEnd⟩ hnext
    obtain ⟨hposition, hordered, hfinal, hgrid⟩ := nextNonces_eq_ok hnext
    rw [hstart] at hposition
    rw [hend] at hfinal
    rw [hstride] at hgrid
    apply Leaves.bind
    apply Leaves.mono (persistAllocation_leaves (.assignment value) rfl
      (decodeLease_buildLease ..) hbooked ?_ hstate ?_ ?_ ?_ ?_)
    . intro _ log hseen
      exact Leaves.pure hseen
    . simpa [Shared, buildLease] using hshared
    . exact hposition
    . exact UInt32.le_iff_toNat_le.mp hordered
    . intro haligned
      obtain ⟨hfirst, hfirstGrid⟩ := position_aligned haligned hposition
      exact stretch_of_nonces hprofile hextra hstride (UInt32.le_iff_toNat_le.mpr hfirst) hfinal hfirstGrid
    . rw [hstride]
      obtain ⟨state', hdecode, hbeyond, hvalue⟩ :=
        CursorState.beyond_afterNonce leaseEnd envelope.nonceEnd hpositive
      refine ⟨state', hdecode, hbeyond, ?_⟩
      intro haligned next heq
      obtain ⟨hfirst, hfirstGrid⟩ := position_aligned haligned hposition
      rw [UInt32.le_iff_toNat_le] at hordered
      rw [hvalue next heq]
      refine ⟨by omega, ?_⟩
      have hsplit : leaseEnd.toNat + value.nonceStride.toNat - value.nonceStart.toNat
          = (leaseEnd.toNat - cursor.toNat) + (cursor.toNat - value.nonceStart.toNat)
            + value.nonceStride.toNat := by
        omega
      rw [hsplit, Nat.add_mod_right, Nat.add_mod, hgrid, hfirstGrid]
      simp

theorem retire_leaves {deviceId : DeviceId} {leaseId : List UInt8}
    : Leaves (PlannerStep book ranged) (retire deviceId leaseId) log (fun _ _ => True) := by
  apply applyBatchIfAll (PlannerStep.refl book ranged)
  . intro s _
    refine ⟨PlannerStep.of_rows book ranged s ?_, trivial⟩
    simpa using activeLeaseRow_notMem deviceId
  . intro s
    trivial

theorem complete_leaves {leaseId : List UInt8}
    : Leaves (PlannerStep book ranged) (complete capabilities leaseId) log (fun _ _ => True) := by
  unfold complete
  apply Leaves.ite
  . intro _
    exact throw_bind
  . intro _
    exact retire_leaves

theorem currentLease_leaves
    : Leaves (PlannerStep book ranged) (currentLease envelope capabilities nowMs) log
      (fun current log => ∀ lease, current = some lease → SeenIn log lease) := by
  have hread := PlannerStep.refl book ranged
  unfold currentLease
  apply bind_get hread
  intro s
  split
  . exact Leaves.pure (by simp)
  next existingId _ =>
    apply Leaves.ite
    . intro _
      exact throw_bind
    intro _
    apply bind_get hread
    intro s'
    split
    . exact Leaves.throw
    next bytes hbytes =>
      apply bind_ofExcept
      intro lease hlease
      apply Leaves.ite
      . intro _
        apply Leaves.bind
        apply Leaves.mono retire_leaves
        intro retired log _
        apply Leaves.ite
        . intro _
          exact Leaves.pure (by simp)
        . intro _
          exact throw_bind
      . intro _
        apply Leaves.ite
        . intro _
          apply bind_ofExcept
          intro _ _
          apply Leaves.pure
          intro other hother
          injection hother with hother
          rw [← hother]
          exact seenIn_append ⟨_, bytes, hbytes, Except.mapError_eq_ok.mp hlease⟩
        . intro _
          exact Leaves.throw

theorem registerDevice_leaves
    : Leaves (PlannerStep book ranged) (registerDevice capabilities) log (fun _ _ => True) := by
  have hread := PlannerStep.refl book ranged
  unfold registerDevice
  apply bind_ofExcept
  intro _ _
  apply bind_get hread
  intro s
  apply Leaves.ite
  . intro _
    exact Leaves.pure trivial
  intro _
  apply bind_ofExcept
  intro _ _
  apply Leaves.bind
  apply applyBatchIfAll hread
  . intro s' _
    refine ⟨PlannerStep.of_rows book ranged s' ?_, Leaves.pure trivial⟩
    simpa using deviceRow_notMem capabilities.deviceId
  . intro s'
    apply bind_get hread
    intro s''
    apply Leaves.ite
    . intro _
      exact Leaves.pure trivial
    . intro _
      exact Leaves.throw

theorem allocateWithEdgeTarget_leaves {signed : SignedAssignment}
    (hbooked : book envelope.assignmentId = some signed) (henvelope : signed.envelope generation = .ok envelope)
    (huniform : envelope.kind = .assignmentV2 → capabilities.supportsNonceRange = ranged envelope.assignmentId)
    : Leaves (PlannerStep book ranged)
      (allocateWithEdgeTarget planner envelope capabilities edgeTarget nowMs expiresAtMs) log
      (fun lease log => SeenIn log lease) := by
  unfold allocateWithEdgeTarget
  apply Leaves.ite
  . intro _
    exact throw_bind
  intro _
  apply Leaves.ite
  . intro _
    exact throw_bind
  intro _
  apply Leaves.bind
  apply Leaves.mono registerDevice_leaves
  intro _ log _
  apply Leaves.bind
  apply Leaves.mono currentLease_leaves
  intro current log hcurrent
  split
  next lease => exact Leaves.pure (hcurrent lease rfl)
  next =>
    cases signed with
    | assignment value =>
      obtain ⟨_, _, hkind, _⟩ := fromAssignment_eq_ok henvelope
      rw [hkind]
      exact allocateNonce_leaves hbooked henvelope (huniform hkind)
    | gateway value =>
      obtain ⟨hkind, _⟩ := fromGatewayAssignment_eq_ok henvelope
      rw [hkind]
      exact allocateExtraNonce_leaves hbooked henvelope

/-!
### Calls
-/

inductive PlannerCall where
  | register (capabilities : DeviceCapabilities)
  | allocate (planner : WorkPlanner) (envelope : WorkEnvelope) (capabilities : DeviceCapabilities)
    (edgeTarget : U256) (nowMs : UInt64) (expiresAtMs : Option UInt64)
  | retire (deviceId : DeviceId) (leaseId : List UInt8)
  | complete (capabilities : DeviceCapabilities) (leaseId : List UInt8)

namespace PlannerCall

def program : PlannerCall → Program storeMachine (Option WorkLease)
  | register capabilities => do
    let _ ← (registerDevice capabilities).run
    return none
  | allocate planner envelope capabilities edgeTarget nowMs expiresAtMs => do
    let result ← (allocateWithEdgeTarget planner envelope capabilities edgeTarget nowMs expiresAtMs).run
    return result.toOption
  | retire deviceId leaseId => do
    let _ ← (WorkPlanner.retire deviceId leaseId).run
    return none
  | complete capabilities leaseId => do
    let _ ← (WorkPlanner.complete capabilities leaseId).run
    return none

def Signed (book : Hash256 → Option SignedAssignment) : PlannerCall → Prop
  | allocate _ envelope .. => ∃ signed generation, book envelope.assignmentId = some signed
    ∧ signed.envelope generation = .ok envelope
  | _ => True

omit P in
/-- The devices that work on one assignment can all be told a nonce range, or none of them can. -/
def Uniform (ranged : Hash256 → Bool) : PlannerCall → Prop
  | allocate _ envelope capabilities .. =>
    envelope.kind = .assignmentV2 → capabilities.supportsNonceRange = ranged envelope.assignmentId
  | _ => True

theorem program_leaves {call : PlannerCall} (hsigned : call.Signed book) (huniform : call.Uniform ranged)
    : Program.Leaves (PlannerStep book ranged) (fun result log => ∀ lease, result = some lease
      → SeenIn log lease) call.program log := by
  cases call with
  | register capabilities =>
    apply Program.Leaves.bind
    apply Program.Leaves.mono registerDevice_leaves
    intro _ log _ lease hlease
    contradiction
  | allocate planner envelope capabilities edgeTarget nowMs expiresAtMs =>
    obtain ⟨signed, generation, hbooked, henvelope⟩ := hsigned
    apply Program.Leaves.bind
    apply Program.Leaves.mono (allocateWithEdgeTarget_leaves hbooked henvelope huniform)
    intro result log hresult lease hlease
    exact hresult lease (Except.toOption_eq_some.mp hlease)
  | retire deviceId leaseId =>
    apply Program.Leaves.bind
    apply Program.Leaves.mono retire_leaves
    intro _ log _ lease hlease
    contradiction
  | complete capabilities leaseId =>
    apply Program.Leaves.bind
    apply Program.Leaves.mono complete_leaves
    intro _ log _ lease hlease
    contradiction

end PlannerCall

/-!
### Runs
-/

abbrev PlannerPool (ι : Type) (A : PlannerCall → Prop) :=
  Pool ι {call : PlannerCall // A call} storeMachine (Option WorkLease)

namespace PlannerPool

variable {ι : Type} {A : PlannerCall → Prop}

abbrev Issued (pool : PlannerPool ι A) (lease : WorkLease) : Prop :=
  ∃ i call log, pool.threads i = some ⟨call, .pure (some lease), log⟩

variable [DecidableEq ι]

abbrev Reaches : PlannerPool ι A → PlannerPool ι A → Prop :=
  Pool.Reaches fun call => call.1.program

theorem issued_in_turn (first second : {call : PlannerCall // A call}) {store : Store} {i j : ι} (hne : j ≠ i)
    {lease lease' : WorkLease} (hfirst : (first.1.program.run store).1 = some lease)
    (hsecond : (second.1.program.run (first.1.program.run store).2).1 = some lease')
    : ∃ pool pool' : PlannerPool ι A, Reaches (Pool.idle store) pool ∧ Reaches pool pool'
      ∧ pool.Issued lease ∧ pool'.Issued lease' := by
  obtain ⟨log, hreaches⟩ := Pool.reaches_start (fun call : {call // A call} => call.1.program) first
    (Pool.idle store : PlannerPool ι A) (i := i) rfl
  obtain ⟨log', hreaches'⟩ := Pool.reaches_start (fun call : {call // A call} => call.1.program) second
    ⟨(first.1.program.run store).2,
      Function.update (fun _ => none) i (some ⟨first, .pure (first.1.program.run store).1, log⟩)⟩
    (i := j) (by simp [Function.update_of_ne hne])
  refine ⟨_, _, hreaches, hreaches', ⟨i, first, log, ?_⟩, ⟨j, second, log', ?_⟩⟩
  . simp [hfirst]
  . simp [hsecond]

def Guarded (book : Hash256 → Option SignedAssignment) (ranged : Hash256 → Bool) (call : PlannerCall) : Prop :=
  call.Signed book ∧ call.Uniform ranged

variable {store : Store} {pool pool' : PlannerPool ι (Guarded book ranged)} {steps : List (Store × Store)}

theorem ledger (hstore : ∀ row : Row, row.space ∈ ledgerSpaces → store.find row = none)
    (h : Pool.Trace (fun call => call.1.program) (Pool.idle store) steps pool)
    : ∃ issued, Ledger book ranged pool.state issued ∧ ∀ lease, SeenIn steps lease → lease ∈ issued := by
  apply Pool.Trace.invariant (T := fun _ => PlannerStep book ranged)
    (I := fun steps s => ∃ issued, Ledger book ranged s issued ∧ ∀ lease, SeenIn steps lease → lease ∈ issued)
    (fun call => (PlannerCall.program_leaves call.2.1 call.2.2).mono fun _ _ _ => trivial) h
  . refine ⟨[], ?_, by simp [SeenIn]⟩
    constructor
    case recorded =>
      intro key bytes hbytes
      rw [hstore _ (by simp)] at hbytes
      contradiction
    case passed => simp
    case disjoint => exact .nil
    case aligned =>
      intro id signed state _ hstate
      rw [hstore _ (by rw [cursorRow_space]; simp)] at hstate
      injection hstate with hstate
      subst hstate
      cases signed <;> simp [Aligned]
  . rintro steps s s' ⟨issued, hledger, hseen⟩ hstep
    have hplanner : PlannerStep book ranged s s' := by
      rcases hstep with rfl | ⟨_, hstep⟩
      . exact .refl book ranged _
      . exact hstep
    obtain ⟨issued', hsubset, hledger'⟩ := hledger.step hplanner
    refine ⟨issued', hledger', ?_⟩
    rintro lease ⟨transition, hmem, htransition⟩
    rw [List.mem_append, List.mem_singleton] at hmem
    rcases hmem with hmem | rfl
    . exact hsubset (hseen lease ⟨transition, hmem, htransition⟩)
    . exact hledger'.mem_of_leaseSeen htransition

theorem seenIn_of_issued (h : Pool.Trace (fun call => call.1.program) (Pool.idle store) steps pool)
    (hissued : pool.Issued lease)
    : SeenIn steps lease := by
  obtain ⟨i, call, log, hthread⟩ := hissued
  obtain ⟨hseen, hlogged⟩ := h.returned (T := fun _ => PlannerStep book ranged)
    (fun call => PlannerCall.program_leaves call.2.1 call.2.2) hthread
  obtain ⟨transition, hmem, htransition⟩ := hseen lease rfl
  exact ⟨transition, hlogged transition hmem, htransition⟩

theorem issued_disjoint {lease' : WorkLease} (hstore : ∀ row : Row, row.space ∈ ledgerSpaces → store.find row = none)
    (h : Reaches (Pool.idle store) pool) (h' : Reaches pool pool') (hissued : pool.Issued lease)
    (hissued' : pool'.Issued lease')
    : (∀ issued ∈ [lease, lease'], ∃ signed, book issued.assignmentId = some signed
        ∧ issued.points ⊆ signed.points)
      ∧ (lease ≠ lease' → lease.assignmentId = lease'.assignmentId → Disjoint lease.points lease'.points) := by
  obtain ⟨steps, hsteps⟩ := Pool.exists_trace h
  obtain ⟨steps', hsteps'⟩ := Pool.exists_trace h'
  have hrun := hsteps.trans hsteps'
  obtain ⟨issued, hledger, hseen⟩ := ledger hstore hrun
  have hmem : lease ∈ issued := by
    obtain ⟨transition, hmem, htransition⟩ := seenIn_of_issued hsteps hissued
    exact hseen lease ⟨transition, List.mem_append_left _ hmem, htransition⟩
  have hmem' : lease' ∈ issued := hseen lease' (seenIn_of_issued hrun hissued')
  have hwithin : ∀ lease ∈ issued, ∃ signed, book lease.assignmentId = some signed
      ∧ lease.points ⊆ signed.points := by
    intro lease hlease
    obtain ⟨signed, hbooked, hstretch, _⟩ := hledger.passed lease hlease
    exact ⟨signed, hbooked, hstretch.within⟩
  constructor
  . simp only [List.forall_mem_cons]
    exact ⟨hwithin lease hmem, hwithin lease' hmem', by simp⟩
  . exact hledger.disjoint_of_ne hmem hmem'

end PlannerPool

end

def samplePlanner : WorkPlanner where
  limits := ⟨16, 4, 1000⟩
  extraNonceValues := by decide
  nonceValues := by decide
  leaseMs := by decide

def sampleNonceAssignment : AssignmentV2 :=
  { (default : AssignmentV2) with
    protocolVersion := 2
    networkId := 2
    workerIdHash := .fill 32 5
    assignmentSequence := 1
    ntime := 100
    extraNonce := .fill 24 7
    nonceEnd := 9
    nonceStride := 1
    edgeTarget := .fill 32 255
    captureTarget := .fill 32 1 }

variable (deviceId : UInt8) (supportsNonceRange : Bool)

def sampleCapabilities : DeviceCapabilities :=
  { (default : DeviceCapabilities) with
    deviceId := .fill 32 deviceId
    supportsNonceRange
    maximumJobRateHz := 1
    preferredBatchSize := 4 }

def sampleBook (id : Hash256) : Option SignedAssignment :=
  letI := Primitives.fold
  if id = objectId sampleNonceAssignment then some (.assignment sampleNonceAssignment) else none

def sampleEnvelope : WorkEnvelope where
  kind := .assignmentV2
  assignmentId :=
    letI := Primitives.fold
    objectId sampleNonceAssignment
  assignmentSequence := 1
  jobGeneration := 1
  workerIdHash := sampleNonceAssignment.workerIdHash
  ntime := 100
  extraNonceProfile := 0
  extraNonceStart := sampleNonceAssignment.extraNonce
  extraNonceEnd := sampleNonceAssignment.extraNonce
  nonceStart := 0
  nonceEnd := 9
  nonceStride := 1
  edgeTarget := sampleNonceAssignment.edgeTarget
  captureTarget := sampleNonceAssignment.captureTarget
  telemetryLevel := 0

def sampleAllocation : PlannerCall :=
  .allocate samplePlanner sampleEnvelope (sampleCapabilities deviceId supportsNonceRange)
    sampleNonceAssignment.edgeTarget 0 none

def sampleLease (nonceStart nonceEnd : UInt32) : WorkLease :=
  letI := Primitives.fold
  buildLease sampleEnvelope (sampleCapabilities deviceId supportsNonceRange)
    { sampleEnvelope.range with nonceStart, nonceEnd } sampleNonceAssignment.edgeTarget 0 none

theorem sampleAllocation_leases
    : letI := Primitives.fold
      ((sampleAllocation 1 false).program.run ∅).1 = some (sampleLease 1 false 0 9)
      ∧ ((sampleAllocation 2 true).program.run ((sampleAllocation 1 false).program.run ∅).2).1
        = some (sampleLease 2 true 0 3)
      ∧ sampleLease 1 false 0 9 ≠ sampleLease 2 true 0 3
      ∧ ((sampleAllocation 1 true).program.run ∅).1 = some (sampleLease 1 true 0 3)
      ∧ ((sampleAllocation 2 true).program.run ((sampleAllocation 1 true).program.run ∅).2).1
        = some (sampleLease 2 true 4 7)
      ∧ sampleLease 1 true 0 3 ≠ sampleLease 2 true 4 7 := by
  decide +kernel

theorem sampleAllocation_signed
    : letI := Primitives.fold
      (sampleAllocation deviceId supportsNonceRange).Signed sampleBook := by
  refine ⟨.assignment sampleNonceAssignment, 1, ?_, ?_⟩
  . exact if_pos rfl
  . decide +kernel

/-- The first device cannot be told a range and takes the whole assignment, the second one takes a part of it. -/
theorem sampleAllocations_overlap
    : letI := Primitives.fold
      ∃ (pool pool' : PlannerPool Bool (PlannerCall.Signed sampleBook)) (lease lease' : WorkLease),
        PlannerPool.Reaches (Pool.idle ∅) pool ∧ PlannerPool.Reaches pool pool' ∧ pool.Issued lease
        ∧ pool'.Issued lease' ∧ lease ≠ lease' ∧ lease.assignmentId = lease'.assignmentId
        ∧ ¬ Disjoint lease.points lease'.points := by
  obtain ⟨hfirst, hsecond, hne, _⟩ := sampleAllocation_leases
  obtain ⟨pool, pool', hreaches, hreaches', hissued, hissued'⟩ := PlannerPool.issued_in_turn (P := .fold)
    ⟨_, sampleAllocation_signed 1 false⟩ ⟨_, sampleAllocation_signed 2 true⟩ (i := true) (j := false) (by decide)
    hfirst hsecond
  refine ⟨pool, pool', _, _, hreaches, hreaches', hissued, hissued', hne, rfl, ?_⟩
  rw [Set.not_disjoint_iff]
  exact ⟨(sampleNonceAssignment.extraNonce, 0), ⟨by decide, by decide, by decide, by decide⟩,
    by decide, by decide, by decide, by decide⟩

theorem sampleAllocations_disjoint
    : letI := Primitives.fold
      ∃ (pool pool' : PlannerPool Bool (PlannerPool.Guarded sampleBook fun _ => true)) (lease lease' : WorkLease),
        PlannerPool.Reaches (Pool.idle ∅) pool ∧ PlannerPool.Reaches pool pool' ∧ pool.Issued lease
        ∧ pool'.Issued lease' ∧ lease ≠ lease' ∧ lease.assignmentId = lease'.assignmentId
        ∧ (∀ issued ∈ [lease, lease'], ∃ signed, sampleBook issued.assignmentId = some signed
          ∧ issued.points ⊆ signed.points)
        ∧ Disjoint lease.points lease'.points := by
  obtain ⟨_, _, _, hfirst, hsecond, hne⟩ := sampleAllocation_leases
  obtain ⟨pool, pool', hreaches, hreaches', hissued, hissued'⟩ := PlannerPool.issued_in_turn (P := .fold)
    (A := PlannerPool.Guarded (P := .fold) sampleBook fun _ => true)
    ⟨_, sampleAllocation_signed 1 true, fun _ => rfl⟩ ⟨_, sampleAllocation_signed 2 true, fun _ => rfl⟩
    (i := true) (j := false) (by decide) hfirst hsecond
  obtain ⟨hwithin, hdisjoint⟩ := PlannerPool.issued_disjoint (P := .fold) (fun _ _ => rfl) hreaches hreaches'
    hissued hissued'
  exact ⟨pool, pool', _, _, hreaches, hreaches', hissued, hissued', hne, rfl, hwithin, hdisjoint hne rfl⟩

end MeshMine.Work
