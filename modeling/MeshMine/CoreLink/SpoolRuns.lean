import MeshMine.CoreLink.OperatorRuns
import Mathlib.Algebra.BigOperators.Group.List.Basic

/-!
Several clients of one spool at once. The number of an envelope, the envelope and the capacity are written in
one batch under conditions on all three, so the counters are exact in every interleaving. The receipt of a
capture is looked up before, and its row is not among the conditions.
-/

namespace MeshMine.CoreLink

open MeshMine.Types Codec Hns Gateway Storage
open Except (rejectIf)
open StoreM (Obeys)
open StoreM.Obeys (bind_ofExcept bind_get)

@[simp]
def spoolSpaces : List String :=
  [envelopeSpace, receiptSpace, "core-link-capture-sequence/v1", "core-link-capture-capacity/v1"]

section

variable [P : Primitives]

/-- What a call for a capture may do to the spool; `key` is the work key of the capture. -/
inductive SpoolStep (key : Option Hash256) (s s' : Store) : Prop where
  | internal (hsame : ∀ row : Row, row.space ∈ spoolSpaces → s'.find row = s.find row)
  | allocate {workKey : Hash256} {envelope : GatewayCaptureEnvelopeV1}
      {capacity next : OperatorCaptureCapacityV1} (hkey : key = some workKey)
      (hreceipt : s.find (spoolReceiptRow workKey) = none)
      (habsent : s.find (spoolEnvelopeRow workKey) = none)
      (hnext : envelope.gatewaySequence.toNat = headSequence s envelope.assignmentId + 1)
      (hcapacity : readCapacity s = .ok capacity)
      (hreserve : capacity.reserve (toCanonicalBytes envelope).length = .ok next)
      (hcommit : s' = s.applyAll (prepareOperations workKey envelope next))
  | record {workKey : Hash256} {envelopeBytes : List UInt8} {receipt : GatewayCaptureReceiptV1}
      {capacity next : OperatorCaptureCapacityV1} (hkey : key = some workKey)
      (henvelope : s.find (spoolEnvelopeRow workKey) = some envelopeBytes)
      (hcapacity : readCapacity s = .ok capacity)
      (hrelease : capacity.release envelopeBytes.length = .ok next)
      (hcommit : s' = s.applyAll (recordOperations workKey receipt next))

def spoolRely (key : Option Hash256) : Rely Store where
  rel s s' := ∀ workKey, key = some workKey
    → s'.find (spoolEnvelopeRow workKey) = s.find (spoolEnvelopeRow workKey)
      ∧ s'.find (spoolReceiptRow workKey) = s.find (spoolReceiptRow workKey)
  refl _ _ _ := ⟨rfl, rfl⟩
  trans h h' workKey hkey :=
    ⟨(h' workKey hkey).1.trans (h workKey hkey).1, (h' workKey hkey).2.trans (h workKey hkey).2⟩

variable {key : Option Hash256} {workKey : Hash256} {s s' : Store}

theorem SpoolStep.read (s : Store) : SpoolStep key s s := .internal fun _ _ => rfl

/-!
### Calls apart
-/

inductive SpoolCall where
  | acknowledgeOffer (client : OperatorCoreLinkClient) (bundle : CoreAssignmentBundleV1)
      (acceptedAtMs : UInt64)
  | submitCapture (client : OperatorCoreLinkClient)
      (answer : GatewayCaptureEnvelopeV1 → Except ClientError GatewayCaptureReceiptV1)
      (capture : ForwardedCapture)

def SpoolCall.program : SpoolCall → Program storeMachine Unit
  | .acknowledgeOffer client bundle acceptedAtMs => do
    let _ ← (client.acknowledgeOffer bundle acceptedAtMs).run
  | .submitCapture client answer capture => do
    let _ ← (client.submitCapture answer capture).run

def SpoolCall.captureKey : SpoolCall → Option Hash256
  | .acknowledgeOffer .. => none
  | .submitCapture _ _ capture => some (captureWorkKey capture)

def SpoolCall.Apart (call call' : SpoolCall) : Prop :=
  ∀ workKey, call.captureKey = some workKey → call'.captureKey ≠ some workKey

variable {capacity : OperatorCaptureCapacityV1}

theorem SpoolStep.rely {other : Option Hash256} (h : SpoolStep key s s')
    (hapart : ∀ workKey, key = some workKey → other ≠ some workKey)
    : (spoolRely other).rel s s' := by
  intro workKey hother
  cases h with
  | internal hsame =>
    exact ⟨hsame _ (by simp),
      hsame _ (by simp)⟩
  | @allocate target envelope _ next hkey _ _ _ _ _ hcommit =>
    have hne : workKey ≠ target := by
      rintro rfl
      exact hapart workKey hkey hother
    rw [hcommit]
    simp [prepareOperations, Store.find_applyAll, hne.symm]
  | @record target _ receipt _ next hkey _ _ _ hcommit =>
    have hne : workKey ≠ target := by
      rintro rfl
      exact hapart workKey hkey hother
    rw [hcommit]
    simp [recordOperations, Store.find_applyAll, hne.symm]

theorem SpoolCall.contract
    : Pool.Contract (fun call : SpoolCall => spoolRely call.captureKey)
        (fun call => SpoolStep call.captureKey) SpoolCall.program SpoolCall.Apart where
  symm call call' hapart workKey hkey hkey' := hapart workKey hkey' hkey
  respected call call' s s' hapart hstep := hstep.rely hapart
  obeyed call s := by
    cases call with
    | acknowledgeOffer client bundle acceptedAtMs =>
      apply Obeys.discard
      apply acknowledgeOffer_obeys SpoolStep.read
      intro s operations hrows
      refine .internal fun row hspace => Store.find_applyAll_of_notMem ?_
      rintro operation hmem rfl
      obtain ⟨hcapture, hcapacity⟩ := hrows operation hmem
      simp only [captureSpaces, List.mem_cons, not_or] at hcapture
      simp only [captureCapacityRow] at hcapacity
      simp only [spoolSpaces, List.mem_cons, hcapture, hcapacity, or_self] at hspace
    | submitCapture client answer capture =>
      apply Obeys.discard
      apply submitCapture_obeys SpoolStep.read
      . intro s s' hs
        exact (hs _ rfl).2
      . intro s' envelope capacity next _ h
        exact .allocate rfl h.receipt h.absent h.sequence h.read h.reserve rfl
      . intro s' bytes receipt capacity next henvelope hcapacity hrelease
        exact .record rfl henvelope hcapacity hrelease rfl

/-!
### What a step keeps
-/

/-- The capacity row counts the envelope rows; it is missing as long as there has been none. -/
structure Exact (s : Store) (capacity : OperatorCaptureCapacityV1) : Prop where
  read : readCapacity s = .ok capacity
  records : capacity.pendingRecords.toNat = (s.inNamespace envelopeSpace).length
  bytes : capacity.pendingBytes.toNat = ((s.inNamespace envelopeSpace).map (·.value.length)).sum

omit P in
theorem decodeCaptureCapacity_bytes (h : capacity.fits = true)
    : decodeCaptureCapacity (encodeCaptureCapacity capacity) = .ok capacity := by
  have hlength : ∀ value : UInt64, (u64Bytes value).length = 8 := fun value => Encoder.length_u64 value
  have hread : ∀ value : UInt64, UInt64.ofNat (Bytes.ofLE (u64Bytes value)) = value :=
    fun value => Encoder.ofLE_u64 value
  unfold decodeCaptureCapacity encodeCaptureCapacity
  rw [List.take_left' (hlength _), List.drop_left' (hlength _), hread, hread]
  simp [hlength, h, rejectIf]

omit P in
theorem Exact.unique {capacity' : OperatorCaptureCapacityV1} (h : Exact s capacity)
    (hread : readCapacity s = .ok capacity')
    : capacity' = capacity := by
  rw [h.read] at hread
  injection hread with hread
  exact hread.symm

omit P in
theorem Exact.internal (h : Exact s capacity) (hsame : ∀ row : Row, row.space ∈ spoolSpaces → s'.find row = s.find row)
    : Exact s' capacity := by
  have hperm : (s'.inNamespace envelopeSpace).Perm (s.inNamespace envelopeSpace) := by
    apply Store.perm_inNamespace_of_find
    intro key
    apply hsame
    simp
  constructor
  . rw [← h.read]
    unfold readCapacity
    rw [hsame _ (by simp)]
  . rw [hperm.length_eq, h.records]
  . rw [(hperm.map _).sum_eq, h.bytes]

omit P in
theorem readCapacity_of_find (hfits : capacity.fits = true)
    (h : s.find captureCapacityRow = some (encodeCaptureCapacity capacity))
    : readCapacity s = .ok capacity := by
  unfold readCapacity
  rw [h]
  exact decodeCaptureCapacity_bytes hfits

variable {next : OperatorCaptureCapacityV1} {length : Nat}

omit P in
theorem reserve_eq_ok (h : capacity.reserve length = .ok next)
    : next.fits = true ∧ next.pendingRecords.toNat = capacity.pendingRecords.toNat + 1
      ∧ next.pendingBytes.toNat = capacity.pendingBytes.toNat + length := by
  unfold OperatorCaptureCapacityV1.reserve at h
  split at h
  next records bytes hrecords hbytes =>
    dsimp only at h
    split at h
    next hfits =>
      injection h with h
      rw [← h]
      exact ⟨hfits, UInt64.toNat_of_checkedAdd_eq_some hrecords,
        UInt64.toNat_of_checkedAddLength_eq_some hbytes⟩
    next => contradiction
  next => contradiction

omit P in
theorem release_eq_ok (hfits : capacity.fits = true) (h : capacity.release length = .ok next)
    : next.fits = true ∧ next.pendingRecords.toNat + 1 = capacity.pendingRecords.toNat
      ∧ next.pendingBytes.toNat + length = capacity.pendingBytes.toNat := by
  unfold OperatorCaptureCapacityV1.release at h
  split at h
  . contradiction
  next henough =>
    push Not at henough
    obtain ⟨hrecords, hbytes⟩ := henough
    injection h with h
    have hone : (1 : UInt64) ≤ capacity.pendingRecords := by
      rw [UInt64.le_iff_toNat_le]
      have hne : capacity.pendingRecords.toNat ≠ 0 := fun h => hrecords (UInt64.toNat_inj.mp h)
      exact Nat.one_le_iff_ne_zero.mpr hne
    have hlength : (UInt64.ofNat length).toNat = length :=
      UInt64.toNat_ofNat_of_lt' (Nat.lt_of_le_of_lt hbytes capacity.pendingBytes.toNat_lt)
    have hsub : next.pendingRecords.toNat = capacity.pendingRecords.toNat - 1 := by
      rw [← h]
      exact UInt64.toNat_sub_of_le _ _ hone
    have hsub' : next.pendingBytes.toNat = capacity.pendingBytes.toNat - length := by
      rw [← h]
      change (capacity.pendingBytes - UInt64.ofNat length).toNat = _
      rw [UInt64.toNat_sub_of_le, hlength]
      rw [UInt64.le_iff_toNat_le, hlength]
      exact hbytes
    rw [UInt64.le_iff_toNat_le] at hone
    change 1 ≤ capacity.pendingRecords.toNat at hone
    simp only [OperatorCaptureCapacityV1.fits, Bool.and_eq_true, decide_eq_true_eq] at hfits ⊢
    omega

omit P in
theorem fits_of_readCapacity (h : readCapacity s = .ok capacity)
    : capacity.fits = true := by
  unfold readCapacity at h
  cases hfind : s.find captureCapacityRow with
  | none =>
    rw [hfind] at h
    injection h with h
    rw [← h]
    decide
  | some bytes =>
    rw [hfind] at h
    change decodeCaptureCapacity bytes = .ok capacity at h
    obtain ⟨_, h⟩ := Except.bind_unit_eq_ok.mp h
    obtain ⟨hfits, h⟩ := Except.bind_unit_eq_ok.mp h
    injection h with h
    rw [Except.rejectIf_eq_ok, not_not] at hfits
    rw [← h]
    exact hfits

theorem Exact.allocate {workKey : Hash256} (h : Exact s capacity) (habsent : s.find (spoolEnvelopeRow workKey) = none)
    (hreserve : capacity.reserve (toCanonicalBytes envelope).length = .ok next)
    : Exact (s.applyAll (prepareOperations workKey envelope next)) next := by
  obtain ⟨hfits, hrecords, hbytes⟩ := reserve_eq_ok hreserve
  have hperm := Store.perm_inNamespace_cons habsent (find_prepare workKey envelope next s) (by
    intro key hkey
    simp [prepareOperations, Store.find_applyAll, hkey.symm])
  constructor
  . apply readCapacity_of_find hfits
    simp [prepareOperations, Store.find_applyAll]
  . rw [hperm.length_eq, List.length_cons, hrecords, h.records]
  . rw [(hperm.map _).sum_eq, List.map_cons, List.sum_cons, hbytes, h.bytes, Nat.add_comm]

omit P in
theorem Exact.record {workKey : Hash256} {envelopeBytes : List UInt8} (h : Exact s capacity)
    (henvelope : s.find (spoolEnvelopeRow workKey) = some envelopeBytes)
    (hrelease : capacity.release envelopeBytes.length = .ok next)
    : Exact (s.applyAll (recordOperations workKey receipt next)) next := by
  obtain ⟨hfits, hrecords, hbytes⟩ := release_eq_ok (fits_of_readCapacity h.read) hrelease
  have hperm := Store.perm_inNamespace_cons (find_record workKey receipt next s).1 henvelope (by
    intro key hkey
    simp [recordOperations, Store.find_applyAll, hkey.symm])
  have hlength := hperm.length_eq
  have hsum := (hperm.map (·.value.length)).sum_eq
  rw [List.length_cons] at hlength
  rw [List.map_cons, List.sum_cons] at hsum
  have hrecords' := h.records
  have hbytes' := h.bytes
  constructor
  . apply readCapacity_of_find hfits
    simp [recordOperations, Store.find_applyAll]
  . omega
  . dsimp only at hsum
    omega

def Numbered (s : Store) : Prop :=
  ∀ workKey bytes, s.find (spoolEnvelopeRow workKey) = some bytes
    → ∃ envelope : GatewayCaptureEnvelopeV1, bytes = toCanonicalBytes envelope
      ∧ 1 ≤ envelope.gatewaySequence.toNat
      ∧ envelope.gatewaySequence.toNat ≤ headSequence s envelope.assignmentId

def Holds (s : Store) (workKey : Hash256) (envelope : GatewayCaptureEnvelopeV1) : Prop :=
  s.find (spoolEnvelopeRow workKey) = some (toCanonicalBytes envelope)

theorem SpoolStep.head_cases (h : SpoolStep key s s') (assignmentId : Hash256)
    : headSequence s' assignmentId = headSequence s assignmentId
      ∨ headSequence s' assignmentId = headSequence s assignmentId + 1
        ∧ ∃ workKey envelope, Holds s' workKey envelope ∧ envelope.assignmentId = assignmentId
          ∧ envelope.gatewaySequence.toNat = headSequence s' assignmentId := by
  cases h with
  | internal hsame =>
    left
    exact headSequence_congr (hsame _ (by simp))
  | @allocate workKey envelope _ next _ _ _ hnext _ _ hcommit =>
    rw [hcommit]
    by_cases ha : assignmentId = envelope.assignmentId
    . right
      rw [ha, headSequence_prepare]
      exact ⟨hnext, workKey, envelope, find_prepare workKey envelope next s, rfl, rfl⟩
    . left
      apply headSequence_congr
      simp [prepareOperations, Store.find_applyAll, Ne.symm ha]
  | @record workKey _ receipt _ next _ _ _ _ hcommit =>
    left
    rw [hcommit]
    apply headSequence_congr
    simp [recordOperations, Store.find_applyAll]

theorem SpoolStep.headSequence_le (h : SpoolStep key s s') (assignmentId : Hash256)
    : headSequence s assignmentId ≤ headSequence s' assignmentId := by
  rcases h.head_cases assignmentId with hsame | ⟨hnext, _⟩ <;> omega

variable {bytes : List UInt8}

theorem SpoolStep.envelope_cases {target : Hash256} (h : SpoolStep key s s')
    (hfind : s'.find (spoolEnvelopeRow target) = some bytes)
    : s.find (spoolEnvelopeRow target) = some bytes
      ∨ s.find (spoolReceiptRow target) = none ∧ s.find (spoolEnvelopeRow target) = none
        ∧ ∃ envelope : GatewayCaptureEnvelopeV1, bytes = toCanonicalBytes envelope
          ∧ envelope.gatewaySequence.toNat = headSequence s envelope.assignmentId + 1
          ∧ headSequence s' envelope.assignmentId = envelope.gatewaySequence.toNat := by
  cases h with
  | internal hsame =>
    left
    rwa [hsame _ (by simp)] at hfind
  | @allocate workKey envelope _ next _ hreceipt habsent hnext _ _ hcommit =>
    by_cases hkey : target = workKey
    . right
      rw [hkey, hcommit, find_prepare] at hfind
      injection hfind with hfind
      rw [hkey, hcommit]
      exact ⟨hreceipt, habsent, envelope, hfind.symm, hnext, headSequence_prepare workKey envelope next s⟩
    . left
      simpa [hcommit, prepareOperations, Store.find_applyAll, Ne.symm hkey] using hfind
  | @record workKey _ receipt _ next _ _ _ _ hcommit =>
    left
    by_cases hkey : target = workKey
    . rw [hkey, hcommit, (find_record ..).1] at hfind
      contradiction
    . simpa [hcommit, recordOperations, Store.find_applyAll, Ne.symm hkey] using hfind

theorem Numbered.step (h : Numbered s) (hstep : SpoolStep key s s') : Numbered s' := by
  intro workKey bytes hfind
  rcases hstep.envelope_cases hfind with hold | ⟨_, _, envelope, hbytes, hnext, hhead⟩
  . obtain ⟨envelope, hbytes, hpos, hle⟩ := h workKey bytes hold
    exact ⟨envelope, hbytes, hpos, hle.trans (hstep.headSequence_le _)⟩
  . exact ⟨envelope, hbytes, by omega, by omega⟩

theorem Exact.step (h : Exact s capacity) (hstep : SpoolStep key s s')
    : ∃ capacity', Exact s' capacity' := by
  cases hstep with
  | internal hsame => exact ⟨capacity, h.internal hsame⟩
  | allocate _ _ habsent _ hcapacity hreserve hcommit =>
    obtain rfl := h.unique hcapacity
    rw [hcommit]
    exact ⟨_, h.allocate habsent hreserve⟩
  | record _ henvelope hcapacity hrelease hcommit =>
    obtain rfl := h.unique hcapacity
    rw [hcommit]
    exact ⟨_, h.record henvelope hrelease⟩

/-- The envelope of a work key stays, until its receipt takes its place for good. -/
def Kept (s : Store) (workKey : Hash256) (bytes : List UInt8) : Prop :=
  s.find (spoolEnvelopeRow workKey) = some bytes
    ∨ (s.find (spoolReceiptRow workKey)).isSome ∧ s.find (spoolEnvelopeRow workKey) = none

theorem Kept.step (h : Kept s workKey bytes) (hstep : SpoolStep key s s')
    : Kept s' workKey bytes := by
  by_cases hkey : key = some workKey
  . cases hstep with
    | internal hsame =>
      unfold Kept
      rwa [hsame _ (by simp),
        hsame _ (by simp)]
    | allocate hkey' hreceipt habsent _ _ _ _ =>
      obtain rfl := Option.some.inj (hkey.symm.trans hkey')
      rcases h with henvelope | ⟨hrecorded, _⟩
      . rw [habsent] at henvelope
        contradiction
      . rw [hreceipt] at hrecorded
        contradiction
    | @record _ _ receipt _ next hkey' _ _ _ hcommit =>
      obtain rfl := Option.some.inj (hkey.symm.trans hkey')
      right
      rw [hcommit]
      refine ⟨?_, (find_record workKey receipt next s).1⟩
      simp [recordOperations, Store.find_applyAll]
  . have hrely : (spoolRely (some workKey)).rel s s' := by
      apply hstep.rely
      rintro other hother heq
      exact hkey (hother.trans heq.symm)
    unfold Kept
    rwa [(hrely workKey rfl).1, (hrely workKey rfl).2]

/-!
### Runs
-/

def SpoolUnused (s : Store) : Prop :=
  ∀ row : Row, row.space ∈ spoolSpaces → s.find row = none

abbrev SpoolPool (ι : Type) := Pool ι SpoolCall storeMachine Unit

variable {ι : Type} [DecidableEq ι]

abbrev SpoolPool.Reaches (pool pool' : SpoolPool ι) : Prop :=
  Pool.GuardedReaches SpoolCall.program SpoolCall.Apart pool pool'

/-- Some state on the way to `pool` has held an envelope with this number. -/
def SpoolPool.Assigned (store : Store) (pool : SpoolPool ι) (assignmentId : Hash256) (n : Nat) : Prop :=
  ∃ earlier : SpoolPool ι, SpoolPool.Reaches (Pool.idle store) earlier ∧ earlier.Reaches pool
    ∧ ∃ workKey envelope, Holds earlier.state workKey envelope ∧ envelope.assignmentId = assignmentId
      ∧ envelope.gatewaySequence.toNat = n

variable {store : Store} {pool : SpoolPool ι} {earlier : SpoolPool ι}

theorem SpoolPool.Reaches.trace (hstart : SpoolPool.Reaches (Pool.idle store) earlier) (h : earlier.Reaches pool)
    : Relation.ReflTransGen (fun s s' => ∃ call : SpoolCall, SpoolStep call.captureKey s s')
        earlier.state pool.state := by
  exact SpoolCall.contract.traces (SpoolCall.contract.separate (Pool.separate_idle store) hstart) h

theorem SpoolPool.Reaches.keeps {I : Store → Prop} (hI : ∀ key s s', I s → SpoolStep key s s' → I s')
    (hstart : SpoolPool.Reaches (Pool.idle store) earlier) (h : earlier.Reaches pool) (hearlier : I earlier.state)
    : I pool.state := by
  have htrace := hstart.trace h
  generalize pool.state = s at htrace
  induction htrace with
  | refl => exact hearlier
  | tail _ hstep ih =>
    obtain ⟨call, hstep⟩ := hstep
    exact hI _ _ _ ih hstep

omit P in
theorem SpoolUnused.headSequence (h : SpoolUnused store) (assignmentId : Hash256)
    : headSequence store assignmentId = 0 := by
  unfold CoreLink.headSequence
  rw [h _ (by simp)]

omit P in
theorem SpoolUnused.exact (h : SpoolUnused store) : Exact store ⟨0, 0⟩ := by
  have hempty : store.inNamespace envelopeSpace = [] := by
    apply List.eq_nil_iff_forall_not_mem.mpr
    intro record hmem
    rw [Store.mem_inNamespace, h _ (by simp)] at hmem
    contradiction
  constructor
  . unfold readCapacity
    rw [h _ (by simp)]
    rfl
  . rw [hempty]
    rfl
  . rw [hempty]
    rfl

omit P in
theorem SpoolUnused.numbered (h : SpoolUnused store) : Numbered store := by
  intro workKey bytes hfind
  rw [h _ (by simp)] at hfind
  contradiction

theorem SpoolPool.Reaches.assigned (hstore : SpoolUnused store)
    (h : SpoolPool.Reaches (Pool.idle store) pool) (assignmentId : Hash256) (n : Nat)
    : pool.Assigned store assignmentId n ↔ 1 ≤ n ∧ n ≤ headSequence pool.state assignmentId := by
  constructor
  . rintro ⟨earlier, hstart, hrest, workKey, envelope, hholds, hassignment, rfl⟩
    have hnumbered : Numbered earlier.state :=
      SpoolPool.Reaches.keeps (I := Numbered) (fun _ _ _ h hstep => h.step hstep) .refl hstart
        hstore.numbered
    obtain ⟨envelope', hbytes, hpos, hle⟩ := hnumbered workKey _ hholds
    obtain rfl := GatewayCaptureEnvelopeV1.toCanonicalBytes_inj.mp hbytes
    refine ⟨hpos, ?_⟩
    have hgrown : headSequence earlier.state assignmentId ≤ headSequence pool.state assignmentId :=
      SpoolPool.Reaches.keeps (I := fun s => headSequence earlier.state assignmentId
        ≤ headSequence s assignmentId) (fun _ _ _ h hstep => h.trans (hstep.headSequence_le _)) hstart hrest
        (Nat.le_refl _)
    rw [hassignment] at hle
    omega
  . rintro ⟨hpos, hle⟩
    -- The number was given out by the step that has raised the head to it.
    induction h with
    | refl =>
      change n ≤ headSequence store assignmentId at hle
      rw [hstore.headSequence] at hle
      omega
    | @tail previous next hstart hstep ih =>
      by_cases hearlier : n ≤ headSequence previous.state assignmentId
      . obtain ⟨earlier, hreached, hrest, hholds⟩ := ih hearlier
        exact ⟨earlier, hreached, hrest.tail hstep, hholds⟩
      . have hseparate := SpoolCall.contract.separate (Pool.separate_idle store) hstart
        rcases (SpoolCall.contract.step hseparate hstep).2 with hsame | ⟨call, hmoved⟩
        . rw [hsame] at hle
          exact absurd hle hearlier
        . rcases hmoved.head_cases assignmentId with hsame | ⟨hnext, workKey, envelope, hholds, ha, hn⟩
          . rw [hsame] at hle
            exact absurd hle hearlier
          . refine ⟨next, hstart.tail hstep, .refl, workKey, envelope, hholds, ha, ?_⟩
            omega

theorem SpoolPool.Reaches.assigns_once (hstore : SpoolUnused store) (h : SpoolPool.Reaches (Pool.idle store) pool)
    : (∃ capacity, Exact pool.state capacity)
      ∧ (∀ assignmentId n, pool.Assigned store assignmentId n
        ↔ 1 ≤ n ∧ n ≤ headSequence pool.state assignmentId)
      ∧ ∀ earlier : SpoolPool ι, SpoolPool.Reaches (Pool.idle store) earlier → earlier.Reaches pool
        → ∀ workKey envelope envelope', Holds earlier.state workKey envelope
          → Holds pool.state workKey envelope'
          → envelope'.gatewaySequence = envelope.gatewaySequence := by
  refine ⟨?_, h.assigned hstore, ?_⟩
  . apply SpoolPool.Reaches.keeps (I := fun s => ∃ capacity, Exact s capacity) _ .refl h
      ⟨_, hstore.exact⟩
    rintro key s s' ⟨capacity, hexact⟩ hstep
    exact hexact.step hstep
  . intro earlier hstart hrest workKey envelope envelope' hholds hholds'
    have hkept : Kept pool.state workKey (toCanonicalBytes envelope) :=
      SpoolPool.Reaches.keeps (I := fun s => Kept s workKey (toCanonicalBytes envelope))
        (fun _ _ _ h hstep => h.step hstep) hstart hrest (.inl hholds)
    rcases hkept with hsame | ⟨_, hnone⟩
    . unfold Holds at hholds'
      rw [hsame, Option.some.injEq] at hholds'
      rw [GatewayCaptureEnvelopeV1.toCanonicalBytes_inj.mp hholds']
    . unfold Holds at hholds'
      rw [hnone] at hholds'
      contradiction

end

open SpoolCall (program)

def sampleUnanswered (nonce : UInt32) (receivedMs : UInt64) : SpoolCall :=
  .submitCapture sampleClient (fun _ => .error .exchange) (sampleCapture nonce receivedMs)

def sampleAnswered : SpoolCall :=
  .submitCapture sampleClient (fun envelope => .ok (sampleReceipt envelope)) (sampleCapture 0 10)

def sampleOffered : Store :=
  letI := lowHashes
  Pool.after program [.acknowledgeOffer sampleClient sampleBundle 10] ∅

/-- A client has found no receipt of the capture. -/
def sampleLookedUp : Store :=
  letI := lowHashes
  ((sampleUnanswered 0 10).program.advance 1 sampleOffered).2

/-- A second client prepares an envelope of the same capture and fails to reach Core. -/
def samplePrepared : Store :=
  letI := lowHashes
  Pool.after program [sampleUnanswered 0 10] sampleLookedUp

/-- The second client tries again and records the receipt; then the first one goes on. -/
def sampleNumberedAgain : Store :=
  letI := lowHashes
  Pool.resumed program 1 (sampleUnanswered 0 10) sampleOffered
    (Pool.after program [sampleAnswered] samplePrepared)

/-- The second client has submitted another capture. -/
def sampleBeside : Store :=
  letI := lowHashes
  ((sampleUnanswered 1 20).program.run sampleLookedUp).2

def sampleNumberedBoth : Store :=
  letI := lowHashes
  Pool.resumed program 1 (sampleUnanswered 0 10) sampleOffered sampleBeside

theorem sampleSpool_states
    : letI := lowHashes
      (Holds samplePrepared (captureWorkKey (sampleCapture 0 10)) (sampleEnvelope 0 10 1)
        ∧ Holds sampleNumberedAgain (captureWorkKey (sampleCapture 0 10)) (sampleEnvelope 0 10 2))
      ∧ Holds sampleBeside (captureWorkKey (sampleCapture 1 20)) (sampleEnvelope 1 20 1)
      ∧ Holds sampleNumberedBoth (captureWorkKey (sampleCapture 0 10)) (sampleEnvelope 0 10 2)
      ∧ headSequence sampleNumberedBoth (objectId sampleBundle.assignment) = 2
      ∧ captureWorkKey (sampleCapture 0 10) ≠ captureWorkKey (sampleCapture 1 20) := by
  unfold Holds
  decide +kernel

theorem sampleOverlap_assigns_twice
    : letI := lowHashes
      ∃ earlier pool : SpoolPool Bool,
        Pool.Reaches program (Pool.idle ∅) earlier
        ∧ Pool.Reaches program earlier pool
        ∧ ∃ workKey envelope envelope', Holds earlier.state workKey envelope
          ∧ Holds pool.state workKey envelope'
          ∧ envelope.gatewaySequence = 1 ∧ envelope'.gatewaySequence = 2 := by
  let _ := lowHashes
  have hoffered : Pool.Reaches program (Pool.idle ∅ : SpoolPool Bool) (Pool.idle sampleOffered) :=
    Pool.reaches_after program false [.acknowledgeOffer sampleClient sampleBundle 10] ∅
  obtain ⟨earlier, pool, hearlier, hpool, hprepared, hagain⟩ := Pool.reaches_between program 1
    (sampleUnanswered 0 10) [sampleUnanswered 0 10] [sampleAnswered] sampleOffered Bool.false_ne_true
  refine ⟨earlier, pool, hoffered.trans hearlier, hpool, captureWorkKey (sampleCapture 0 10),
    sampleEnvelope 0 10 1, sampleEnvelope 0 10 2, ?_, ?_, rfl, rfl⟩
  . rw [hprepared]
    exact sampleSpool_states.1.1
  . rw [hagain, hprepared]
    exact sampleSpool_states.1.2

theorem sampleSpool_assigns_once
    : letI := lowHashes
      ∃ earlier pool : SpoolPool Bool, SpoolPool.Reaches (Pool.idle ∅) earlier ∧ earlier.Reaches pool
        ∧ Holds earlier.state (captureWorkKey (sampleCapture 1 20)) (sampleEnvelope 1 20 1)
        ∧ Holds pool.state (captureWorkKey (sampleCapture 0 10)) (sampleEnvelope 0 10 2)
        ∧ (∃ capacity, Exact pool.state capacity)
        ∧ (∀ n, pool.Assigned ∅ (objectId sampleBundle.assignment) n ↔ 1 ≤ n ∧ n ≤ 2)
        ∧ ∀ envelope, Holds pool.state (captureWorkKey (sampleCapture 1 20)) envelope
          → envelope.gatewaySequence = 1 := by
  let _ := lowHashes
  have hunused : SpoolUnused ∅ := fun _ _ => rfl
  obtain ⟨_, hbeside, hboth, hhead, hne⟩ := sampleSpool_states
  have hoffered : SpoolPool.Reaches (Pool.idle ∅ : SpoolPool Bool) (Pool.idle sampleOffered) :=
    Pool.guardedReaches_after program SpoolCall.Apart false
      [.acknowledgeOffer sampleClient sampleBundle 10] ∅
  have hapart : SpoolCall.Apart (sampleUnanswered 0 10) (sampleUnanswered 1 20) := by
    intro workKey hkey hkey'
    exact hne ((Option.some.inj hkey).trans (Option.some.inj hkey').symm)
  obtain ⟨earlier, pool, hearlier, hpool, hstate, hstate'⟩ :=
    Pool.guardedReaches_beside program _ 1 hapart sampleOffered Bool.false_ne_true
  rw [hstate] at hstate'
  replace hstate : earlier.state = sampleBeside := hstate
  replace hstate' : pool.state = sampleNumberedBoth := hstate'
  rw [← hstate] at hbeside
  rw [← hstate'] at hboth hhead
  have hstart := hoffered.trans hearlier
  obtain ⟨hexact, hassigned, honce⟩ := SpoolPool.Reaches.assigns_once hunused (hstart.trans hpool)
  refine ⟨earlier, pool, hstart, hpool, hbeside, hboth, hexact, ?_, ?_⟩
  . intro n
    rw [hassigned, hhead]
  . intro envelope henvelope
    exact honce earlier hstart hpool _ _ _ hbeside henvelope

end MeshMine.CoreLink
