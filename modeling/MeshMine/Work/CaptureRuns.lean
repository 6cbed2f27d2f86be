import MeshMine.Storage.StoreRun
import MeshMine.Storage.StoreSteps
import MeshMine.Work.Coordinator

/-!
Captures over whole runs: events and retries one after the other, with a crash between any two store calls. A
capture that was spooled once is either pending or has a tombstone from then on.
-/

namespace MeshMine.Work

open Codec Storage
open StoreM (Ends)
open StoreM.Ends (bind_ofExcept bind_get)

def Pending (s : Store) (captureId : Hash256) : Prop :=
  s.find (captureRow captureId) ≠ none

def Tombstoned (s : Store) (captureId : Hash256) : Prop :=
  s.find (captureTombstoneRow captureId) ≠ none

def Spooled (s : Store) (captureId : Hash256) : Prop :=
  Pending s captureId ∨ Tombstoned s captureId

def SpooledOnce (s : Store) (captureId : Hash256) : Prop :=
  Xor (Pending s captureId) (Tombstoned s captureId)

def NoneTwice (s : Store) : Prop :=
  ∀ captureId, ¬ (Pending s captureId ∧ Tombstoned s captureId)

/-- No capture is lost, and none comes to be in both namespaces. -/
structure CaptureStep (s s' : Store) : Prop where
  noneTwice : NoneTwice s → NoneTwice s'
  spooled : ∀ captureId, Spooled s captureId → Spooled s' captureId

theorem CaptureStep.refl (s : Store) : CaptureStep s s :=
  ⟨id, fun _ => id⟩

theorem CaptureStep.trans {a b c : Store} (h : CaptureStep a b) (h' : CaptureStep b c) : CaptureStep a c where
  noneTwice hnone := h'.noneTwice (h.noneTwice hnone)
  spooled captureId hspooled := h'.spooled captureId (h.spooled captureId hspooled)

theorem NoneTwice.spooledOnce {s : Store} {captureId : Hash256} (h : NoneTwice s) (hspooled : Spooled s captureId)
    : SpooledOnce s captureId := by
  have hnot := h captureId
  unfold SpooledOnce Xor
  unfold Spooled at hspooled
  tauto

variable {captureId other : Hash256}

@[simp]
theorem captureRow_ne
    : captureRow captureId ≠ captureTombstoneRow other ∧ captureTombstoneRow captureId ≠ captureRow other := by
  simp [captureRow, captureTombstoneRow, captureNamespace, captureTombstoneNamespace]

@[simp]
theorem captureRow_inj : captureRow captureId = captureRow other ↔ captureId = other := by
  simp [captureRow]

@[simp]
theorem captureTombstoneRow_inj : captureTombstoneRow captureId = captureTombstoneRow other ↔ captureId = other := by
  simp [captureTombstoneRow]

variable {s' : Store}

theorem spooled_congr {s : Store} (hpending : s'.find (captureRow other) = s.find (captureRow other))
    (htombstone : s'.find (captureTombstoneRow other) = s.find (captureTombstoneRow other))
    : Spooled s' other ↔ Spooled s other := by
  unfold Spooled Pending Tombstoned
  rw [hpending, htombstone]

theorem CaptureStep.of_spooledOnce {s : Store} (captureId : Hash256)
    (hpending : ∀ other, other ≠ captureId → s'.find (captureRow other) = s.find (captureRow other))
    (htombstone : ∀ other, other ≠ captureId
      → s'.find (captureTombstoneRow other) = s.find (captureTombstoneRow other)) (hone : SpooledOnce s' captureId)
    : CaptureStep s s' := by
  constructor
  . intro h other
    by_cases heq : other = captureId
    . subst heq
      rintro ⟨hpending', htombstone'⟩
      rcases hone with ⟨_, hnot⟩ | ⟨_, hnot⟩
      . exact hnot htombstone'
      . exact hnot hpending'
    . unfold Pending Tombstoned
      rw [hpending other heq, htombstone other heq]
      exact h other
  . intro other h
    by_cases heq : other = captureId
    . subst heq
      exact hone.or
    . exact (spooled_congr (hpending other heq) (htombstone other heq)).mpr h

def SameCaptures (s s' : Store) : Prop :=
  ∀ captureId, s'.find (captureRow captureId) = s.find (captureRow captureId)
    ∧ s'.find (captureTombstoneRow captureId) = s.find (captureTombstoneRow captureId)

theorem SameCaptures.refl (s : Store) : SameCaptures s s :=
  fun _ => ⟨rfl, rfl⟩

theorem SameCaptures.trans {a b c : Store} (h : SameCaptures a b) (h' : SameCaptures b c) : SameCaptures a c :=
  fun captureId => ⟨(h' captureId).1.trans (h captureId).1, (h' captureId).2.trans (h captureId).2⟩

theorem SameCaptures.step {s : Store} (h : SameCaptures s s') : CaptureStep s s' := by
  constructor
  . intro hnone captureId
    unfold Pending Tombstoned
    rw [(h captureId).1, (h captureId).2]
    exact hnone captureId
  . intro captureId
    exact (spooled_congr (h captureId).1 (h captureId).2).mpr

section

variable {s : Store}

theorem captureStep_delete (h : Tombstoned s captureId)
    : CaptureStep s (s.applyAll [.delete (captureRow captureId)]) := by
  apply CaptureStep.of_spooledOnce captureId
  . intro other hne
    simp [Store.find_applyAll, Ne.symm hne]
  . intro other hne
    simp [Store.find_applyAll]
  . right
    simpa [Pending, Tombstoned, Store.find_applyAll] using h

theorem captureStep_spool (bytes : List UInt8) (h : ¬ Tombstoned s captureId)
    : CaptureStep s (s.applyAll [.put (captureRow captureId) bytes]) := by
  apply CaptureStep.of_spooledOnce captureId
  . intro other hne
    simp [Store.find_applyAll, Ne.symm hne]
  . intro other hne
    simp [Store.find_applyAll]
  . left
    simpa [Pending, Tombstoned, Store.find_applyAll] using h

theorem captureStep_admitted (downstreamId : Hash256)
    : CaptureStep s (s.applyAll
        [.put (captureTombstoneRow captureId) downstreamId.toList, .delete (captureRow captureId)]) := by
  apply CaptureStep.of_spooledOnce captureId
  . intro other hne
    simp [Store.find_applyAll, Ne.symm hne]
  . intro other hne
    simp [Store.find_applyAll, Ne.symm hne]
  . right
    simp [Pending, Tombstoned, Store.find_applyAll]

end

/-!
### The steps of a call
-/

section

variable [P : Primitives] {s : Store} {sink : CaptureSink} {backends : Backends} {deviceId : DeviceId}
  {record : CaptureRecord} {bytes : List UInt8}

omit P in
theorem admitSpooled_ends
    : Ends CaptureStep (admitSpooled sink record bytes) s (fun _ _ => True) (fun _ => True) := by
  apply bind_ofExcept _ trivial
  intro downstreamId _
  apply Ends.bind
  apply Ends.applyBatchIfAll (.refl s) _ _ trivial
  . intro _
    exact ⟨captureStep_admitted downstreamId, trivial⟩
  . intro _
    trivial

omit P in
theorem spoolCapture_ends
    : Ends CaptureStep (spoolCapture sink record) s (fun _ _ => True) (fun _ => True) := by
  apply bind_get (.refl s) _ trivial
  apply Ends.ite
  . intro _
    trivial
  intro htombstone
  have hnot : ¬ Tombstoned s record.captureId := by
    simpa [Tombstoned] using htombstone
  apply Ends.bind
  apply Ends.applyBatchIfAll (.refl s) _ _ trivial
  . intro _
    exact ⟨captureStep_spool _ hnot, admitSpooled_ends⟩
  . intro _
    apply bind_get (.refl s) _ trivial
    apply Ends.ite
    . intro _
      trivial
    . intro _
      exact admitSpooled_ends

variable {report : CaptureReport}

theorem processCapture_ends
    : Ends CaptureStep (processCapture sink backends deviceId report) s (fun _ _ => True)
      (fun _ => True) := by
  apply bind_ofExcept _ trivial
  intro record _
  cases record with
  | none => trivial
  | some record => exact spoolCapture_ends

theorem retryCapture_ends {value : List UInt8}
    : Ends CaptureStep (retryCapture sink value) s (fun _ _ => True) (fun _ => True) := by
  apply bind_ofExcept _ trivial
  intro capture _
  apply bind_get (.refl s) _ trivial
  split
  next downstreamId htombstone =>
    have htombstoned : Tombstoned s capture.captureId := by
      simp [Tombstoned, htombstone]
    apply Ends.ite
    . intro _
      trivial
    intro _
    apply Ends.bind
    apply Ends.bind
    apply Ends.applyBatchIfAll (.refl s) _ _ trivial
    . intro _
      exact ⟨captureStep_delete htombstoned, trivial⟩
    . intro _
      trivial
  next => exact admitSpooled_ends

theorem retryPendingCaptures_ends {maximum : Nat}
    : Ends CaptureStep (retryPendingCaptures sink maximum) s (fun _ _ => True) (fun _ => True) := by
  apply Ends.ite
  . intro _
    trivial
  intro _
  apply Ends.bind
  apply Ends.scanNamespaceAfter (.refl s) _ trivial
  intro page _
  apply Ends.mapM
  intro record _ s
  exact retryCapture_ends

variable {leaseId : List UInt8}

omit P in
theorem retire_ends
    : Ends SameCaptures (WorkPlanner.retire deviceId leaseId) s (fun _ _ => True) (fun _ => True) := by
  apply Ends.applyBatchIfAll (.refl s) _ _ trivial
  . intro _
    refine ⟨?_, trivial⟩
    intro captureId
    constructor <;> apply Store.find_applyAll_of_notMem <;>
      simp [activeLeaseRow, activeLeaseNamespace, captureRow, captureTombstoneRow, captureNamespace,
        captureTombstoneNamespace]
  . intro _
    trivial

omit P in
theorem complete_ends {capabilities : DeviceCapabilities}
    : Ends SameCaptures (WorkPlanner.complete capabilities leaseId) s (fun _ _ => True)
      (fun _ => True) := by
  apply Ends.ite
  . intro _
    trivial
  . intro _
    exact retire_ends

variable {event : DeviceEvent}

omit P in
def DeviceEvent.endsLease : DeviceEvent → Bool
  | .rangeCompleted _ _ => true
  | .disconnected => true
  | _ => false

omit P in
def Inactive (backends : Backends) (deviceId : DeviceId) : Prop :=
  ∀ slot, backends.lookup deviceId = some slot → slot.activeGeneration = none

omit P in
theorem inactive_clearSlot (slot : BackendSlot) : Inactive (clearSlot backends deviceId slot) deviceId := by
  simp [Inactive, clearSlot]

theorem processEvent_endsLease (h : event.endsLease = true)
    : Ends SameCaptures (processEvent sink backends deviceId event) s (fun result _ => Inactive result.2 deviceId)
      (fun _ => True) := by
  cases event with
  | rangeCompleted generation leaseId =>
    apply bind_ofExcept _ trivial
    intro slot _
    apply bind_ofExcept _ trivial
    intro _ _
    apply bind_ofExcept _ trivial
    rintro ⟨lease, _⟩ _
    apply bind_ofExcept _ trivial
    intro _ _
    apply Ends.seq (Ends.adapt complete_ends)
    intro _ _ _
    exact inactive_clearSlot slot
  | disconnected =>
    simp only [processEvent]
    split
    . trivial
    next slot _ =>
      split
      . apply Ends.seq (Ends.adapt retire_ends)
        intro _ _ _
        exact inactive_clearSlot slot
      . exact inactive_clearSlot slot
  | _ => contradiction

theorem processEvent_ends
    : Ends CaptureStep (processEvent sink backends deviceId event) s (fun _ _ => True)
      (fun _ => True) := by
  by_cases hevent : event.endsLease = true
  . have hends : Ends CaptureStep (processEvent sink backends deviceId event) s
        (fun result _ => Inactive result.2 deviceId) (fun _ => True) :=
      Program.Always.mono (processEvent_endsLease hevent) (fun _ _ => SameCaptures.step) (fun _ _ h => h)
    exact hends.mono (fun _ _ _ => trivial) (fun _ h => h)
  cases event with
  | capture report =>
    apply Ends.seq processCapture_ends
    intro _ _ _
    trivial
  | rangeCompleted generation leaseId => exact absurd rfl hevent
  | disconnected => exact absurd rfl hevent
  | _ =>
    apply bind_ofExcept _ trivial
    intro _ _
    trivial

/-!
### Runs
-/

/-- The memory of the process is that of the moment; a restart loses it. -/
inductive CaptureCall where
  | event (sink : CaptureSink) (backends : Backends) (deviceId : DeviceId) (event : DeviceEvent)
  | retry (sink : CaptureSink) (maximum : Nat)

def CaptureCall.program : CaptureCall → Program storeMachine Unit
  | .event sink backends deviceId delivered => do
    let _ ← (processEvent sink backends deviceId delivered).run
  | .retry sink maximum => do
    let _ ← (retryPendingCaptures sink maximum).run

/-- Calls one after the other, with the states after each store call; any call may end in a crash. -/
inductive CaptureRun (store : Store) : List Store → Store → Prop where
  | start : CaptureRun store [] store
  | call {visited more : List Store} {s s' : Store} (call : CaptureCall) {result : Option Unit}
      (h : CaptureRun store visited s) (hcall : call.program.Executes s more result s')
      : CaptureRun store (visited ++ more) s'

variable {store : Store} {visited : List Store}

theorem CaptureCall.always (call : CaptureCall) (s : Store)
    : Program.Always CaptureStep (fun _ _ => True) call.program s := by
  cases call with
  | event sink backends deviceId event =>
    exact Program.Always.seq processEvent_ends fun _ _ _ => trivial
  | retry sink maximum =>
    exact Program.Always.seq retryPendingCaptures_ends fun _ _ _ => trivial

theorem CaptureRun.path (h : CaptureRun store visited s) : Program.Path CaptureStep store visited s := by
  induction h with
  | start => exact .nil store
  | call call _ hcall ih => exact ih.append ((call.always _).executes hcall).1

theorem CaptureRun.spooledOnce (h : CaptureRun store visited s) (hstore : NoneTwice store)
    : (∀ state ∈ store :: visited, ∀ captureId, Spooled state captureId → SpooledOnce state captureId)
      ∧ (store :: visited).Pairwise fun earlier later =>
        ∀ captureId, Spooled earlier captureId → SpooledOnce later captureId := by
  have htrans : IsTrans Store CaptureStep := ⟨fun _ _ _ => CaptureStep.trans⟩
  have hsteps := List.isChain_iff_pairwise.mp h.path.isChain
  have hnone : ∀ state ∈ store :: visited, NoneTwice state := by
    rw [List.pairwise_cons] at hsteps
    rw [List.forall_mem_cons]
    exact ⟨hstore, fun state hmem => (hsteps.1 state hmem).noneTwice hstore⟩
  constructor
  . intro state hmem captureId
    exact (hnone state hmem).spooledOnce
  . apply List.Pairwise.imp_of_mem _ hsteps
    intro earlier later _ hlater hstep captureId hspooled
    exact (hnone later hlater).spooledOnce (hstep.spooled captureId hspooled)

/-!
### The result of a report
-/

omit P in
theorem valid_captureRow (captureId : Hash256) : (captureRow captureId).valid = true :=
  Row.valid_hexEncode (by decide) _

omit P in
theorem valid_captureTombstoneRow (captureId : Hash256) : (captureTombstoneRow captureId).valid = true :=
  Row.valid_hexEncode (by decide) _

omit P in
theorem admitSpooled_run (h : s.find (captureRow record.captureId) = some bytes)
    : (admitSpooled sink record bytes).run.run s = match sink record with
        | .ok downstreamId => (.ok (.durablyAdmitted record.captureId downstreamId), s.applyAll
          [ .put (captureTombstoneRow record.captureId) downstreamId.toList,
            .delete (captureRow record.captureId) ])
        | .error message => (.error (.downstream message), s) := by
  unfold admitSpooled
  rw [StoreM.run_bind_ofExcept]
  cases sink record with
  | error message => rfl
  | ok downstreamId =>
    dsimp only [Except.mapError]
    rw [StoreM.run_bind_applyBatchIfAll, if_pos]
    . rfl
    . simp [Store.satisfies, BatchCondition.equals, h]
    . simp [BatchCondition.equals, valid_captureRow]
    . simp [valid_captureRow, valid_captureTombstoneRow]

omit P in
theorem spoolCapture_run_tombstoned (h : Tombstoned s record.captureId)
    : (spoolCapture sink record).run.run s = (.ok (.duplicate record.captureId), s) := by
  unfold spoolCapture
  rw [StoreM.run_bind_get (valid_captureTombstoneRow _)]
  have hsome := Option.ne_none_iff_isSome.mp h
  rw [if_pos hsome]
  rfl

omit P in
theorem spoolCapture_run_absent (h : ¬ Tombstoned s record.captureId) (hpending : ¬ Pending s record.captureId)
    : (spoolCapture sink record).run.run s
      = (admitSpooled sink record (toCanonicalBytes record)).run.run
          (s.applyAll [.put (captureRow record.captureId) (toCanonicalBytes record)]) := by
  unfold Tombstoned at h
  unfold Pending at hpending
  rw [not_not] at h hpending
  unfold spoolCapture
  rw [StoreM.run_bind_get (valid_captureTombstoneRow _), h]
  dsimp only [Option.isSome]
  rw [if_neg (by simp)]
  unfold StoreM.compareAndSwap
  rw [StoreM.run_bind_applyBatchIfAll, if_pos]
  . rfl
  . simp [Store.satisfies, hpending]
  . simp [valid_captureRow]
  . simp [valid_captureRow]

omit P in
theorem spoolCapture_run_pending (h : ¬ Tombstoned s record.captureId)
    (hpending : s.find (captureRow record.captureId) = some bytes)
    : (spoolCapture sink record).run.run s
      = if bytes = toCanonicalBytes record then (admitSpooled sink record bytes).run.run s
        else (.error .corruptState, s) := by
  unfold Tombstoned at h
  rw [not_not] at h
  unfold spoolCapture
  rw [StoreM.run_bind_get (valid_captureTombstoneRow _), h]
  dsimp only [Option.isSome]
  rw [if_neg (by simp)]
  unfold StoreM.compareAndSwap
  rw [StoreM.run_bind_applyBatchIfAll, if_neg]
  . change (StoreM.get (captureRow record.captureId) >>= _).run.run s = _
    rw [StoreM.run_bind_get (valid_captureRow _), hpending]
    by_cases heq : bytes = toCanonicalBytes record
    . rw [if_neg (by simpa using heq), if_pos heq, heq]
    . rw [if_pos (by simpa using heq), if_neg heq]
      rfl
  . simp [Store.satisfies, hpending]
  . simp [valid_captureRow]
  . simp [valid_captureRow]

theorem processCapture_eq (h : checkCapture backends deviceId report = .ok (some record))
    : processCapture sink backends deviceId report = spoolCapture sink record := by
  unfold processCapture
  rw [h]
  rfl

/-- What comes of a report whose record is `record`: the sink is asked unless there is a tombstone. -/
def Answered (sink : CaptureSink) (record : CaptureRecord) (s : Store)
    (result : Except CoordinatorError CaptureOutcome) : Prop :=
  (Tombstoned s record.captureId ∧ result = .ok (.duplicate record.captureId))
  ∨ (¬ Tombstoned s record.captureId
    ∧ ((∃ downstreamId, sink record = .ok downstreamId
        ∧ result = .ok (.durablyAdmitted record.captureId downstreamId))
      ∨ ∃ message, sink record = .error message ∧ result = .error (.downstream message)))

omit P in
theorem answered_of_admitSpooled (h : ¬ Tombstoned s record.captureId)
    (hpending : s'.find (captureRow record.captureId) = some bytes)
    : Answered sink record s ((admitSpooled sink record bytes).run.run s').1 := by
  right
  refine ⟨h, ?_⟩
  rw [admitSpooled_run hpending]
  cases hsink : sink record with
  | ok downstreamId => exact .inl ⟨downstreamId, rfl, rfl⟩
  | error message => exact .inr ⟨message, rfl, rfl⟩

omit P in
theorem spoolCapture_answered
    (h : ∀ bytes, s.find (captureRow record.captureId) = some bytes → bytes = toCanonicalBytes record)
    : Answered sink record s ((spoolCapture sink record).run.run s).1 := by
  by_cases htombstoned : Tombstoned s record.captureId
  . rw [spoolCapture_run_tombstoned htombstoned]
    exact .inl ⟨htombstoned, rfl⟩
  cases hpending : s.find (captureRow record.captureId) with
  | none =>
    rw [spoolCapture_run_absent htombstoned (not_not.mpr hpending)]
    apply answered_of_admitSpooled htombstoned
    simp [Store.find_applyAll]
  | some bytes =>
    rw [spoolCapture_run_pending htombstoned hpending, if_pos (h bytes hpending)]
    exact answered_of_admitSpooled htombstoned hpending

theorem CaptureRun.answered (h : CaptureRun store visited s) (hstore : ∀ captureId, ¬ Spooled store captureId)
    : (∀ state ∈ store :: visited, ∀ captureId, Spooled state captureId → SpooledOnce state captureId)
      ∧ ((store :: visited).Pairwise fun earlier later =>
        ∀ captureId, Spooled earlier captureId → SpooledOnce later captureId)
      ∧ ∀ sink backends deviceId report record,
        checkCapture backends deviceId report = .ok (some record)
        → (∀ bytes, s.find (captureRow record.captureId) = some bytes → bytes = toCanonicalBytes record)
        → Answered sink record s ((processCapture sink backends deviceId report).run.run s).1 := by
  have hnone : NoneTwice store := by
    intro captureId hboth
    exact hstore captureId (.inl hboth.1)
  obtain ⟨hstates, hpairs⟩ := h.spooledOnce hnone
  refine ⟨hstates, hpairs, ?_⟩
  intro sink backends deviceId report record hcheck hpending
  rw [processCapture_eq hcheck]
  exact spoolCapture_answered hpending

end

def sampleCaptureLease : WorkLease :=
  { (default : WorkLease) with
    protocolVersion := workProtocolVersion
    leaseId := .fill 32 1
    assignmentId := .fill 32 2
    jobGeneration := 1
    deviceId := .fill 32 3
    nonceEnd := 9
    nonceStride := 1
    edgeTarget := .fill 32 255
    captureTarget := .fill 32 255 }

def sampleDeviceJob : PreparedDeviceJob :=
  { (default : PreparedDeviceJob) with
    protocolVersion := workProtocolVersion
    jobId := .fill 32 5
    assignmentId := .fill 32 2
    leaseId := .fill 32 1
    generation := 1
    ntime := 100
    nonceEnd := 9
    nonceStride := 1
    edgeTarget := .fill 32 255
    captureTarget := .fill 32 255 }

def sampleSlot : BackendSlot where
  capabilities := { (default : DeviceCapabilities) with
    deviceId := .fill 32 3, maximumJobRateHz := 1, preferredBatchSize := 4 }
  prepared := some (sampleCaptureLease, sampleDeviceJob)
  activeGeneration := some 1

def sampleBackends : Backends :=
  AList.insert (.fill 32 3) sampleSlot ∅

def sampleReport (receivedAtMs : UInt64) : CaptureReport :=
  letI := Primitives.fold
  let report : CaptureReport := {
    generation := 1
    nonce := 5
    ntime := 100
    extraNonce := .zero 24
    rawShareHash := .zero 32
    receivedAtMs }
  { report with rawShareHash := (report.header sampleDeviceJob).shareHash }

def sampleRecord (receivedAtMs : UInt64) : CaptureRecord :=
  letI := Primitives.fold
  (sampleReport receivedAtMs).record (.fill 32 3) sampleCaptureLease

def sampleSpoolCall : CaptureCall :=
  .event (fun _ => .error "offline") sampleBackends (.fill 32 3) (.capture (sampleReport 1))

theorem checkCapture_sampleReport
    : letI := Primitives.fold
      checkCapture sampleBackends (.fill 32 3) (sampleReport 1) = .ok (some (sampleRecord 1))
      ∧ checkCapture sampleBackends (.fill 32 3) (sampleReport 2) = .ok (some (sampleRecord 2))
      ∧ (sampleSpoolCall.program.run ∅).2.find (captureRow (sampleRecord 1).captureId)
        = some (toCanonicalBytes (sampleRecord 1))
      ∧ (sampleRecord 2).captureId = (sampleRecord 1).captureId
      ∧ ((processCapture (fun _ => .ok (.fill 32 12)) sampleBackends (.fill 32 3) (sampleReport 2)).run.run
        (sampleSpoolCall.program.run ∅).2).1 = .error .corruptState := by
  decide +kernel

theorem sampleSpoolCall_run
    : letI := Primitives.fold
      CaptureRun ∅ ([] ++ sampleSpoolCall.program.trace ∅) (sampleSpoolCall.program.run ∅).2 :=
  CaptureRun.call (P := .fold) sampleSpoolCall (CaptureRun.start (P := .fold)) (Program.executes_run _ _)

/-- The sink was offline for the first report; the second one of the same work came a millisecond later. -/
theorem sampleSpool_corruptState
    : letI := Primitives.fold
      ∃ visited s, CaptureRun ∅ visited s ∧ Pending s (sampleRecord 1).captureId
        ∧ checkCapture sampleBackends (.fill 32 3) (sampleReport 2) = .ok (some (sampleRecord 2))
        ∧ (sampleRecord 2).captureId = (sampleRecord 1).captureId
        ∧ ((processCapture (fun _ => .ok (.fill 32 12)) sampleBackends (.fill 32 3) (sampleReport 2)).run.run s).1
          = .error .corruptState := by
  obtain ⟨_, hcheck, hpending, hid, hresult⟩ := checkCapture_sampleReport
  refine ⟨_, _, sampleSpoolCall_run, ?_, hcheck, hid, hresult⟩
  unfold Pending
  rw [hpending]
  exact Option.some_ne_none _

theorem sampleSpool_answered
    : letI := Primitives.fold
      ∃ visited s, CaptureRun ∅ visited s
        ∧ s.find (captureRow (sampleRecord 1).captureId) = some (toCanonicalBytes (sampleRecord 1))
        ∧ (∀ state ∈ ∅ :: visited, ∀ captureId, Spooled state captureId → SpooledOnce state captureId)
        ∧ Answered (fun _ => .ok (.fill 32 12)) (sampleRecord 1) s
          ((processCapture (fun _ => .ok (.fill 32 12)) sampleBackends (.fill 32 3) (sampleReport 1)).run.run
            s).1 := by
  obtain ⟨hcheck, _, hpending, _⟩ := checkCapture_sampleReport
  have hempty : ∀ captureId, ¬ Spooled ∅ captureId := by
    rintro captureId (h | h) <;> exact h rfl
  obtain ⟨visited, s, hrun, hstate⟩ : letI := Primitives.fold
      ∃ visited s, CaptureRun ∅ visited s ∧ s.find (captureRow (sampleRecord 1).captureId)
        = some (toCanonicalBytes (sampleRecord 1)) :=
    ⟨_, _, sampleSpoolCall_run, hpending⟩
  obtain ⟨honce, _, hanswered⟩ := CaptureRun.answered (P := .fold) hrun hempty
  refine ⟨visited, s, hrun, hstate, honce, hanswered _ _ _ _ _ hcheck ?_⟩
  intro bytes hbytes
  rw [hstate, Option.some.injEq] at hbytes
  exact hbytes.symm

end MeshMine.Work
