import MeshMine.Work.CaptureRuns

/-!
Polling a device. The backend gives its events up before they are processed, so that a capture is kept only if the
loop over the batch gets to it with its lease still active.
-/

namespace MeshMine.Work

open Codec Storage

/-!
### Spooling one capture
-/

def SameExcept (captureId : Hash256) (s s' : Store) : Prop :=
  ∀ other, other ≠ captureId → s'.find (captureRow other) = s.find (captureRow other)
    ∧ s'.find (captureTombstoneRow other) = s.find (captureTombstoneRow other)

/-- A record is settled if its capture has a tombstone, or if no other record of the capture is pending and the sink
admits it. The captures in `settled` have got their tombstone since. -/
def Settles (sink : CaptureSink) (s : Store) (settled : List Hash256) (record : CaptureRecord) : Prop :=
  Tombstoned s record.captureId ∨ record.captureId ∈ settled
    ∨ (∀ bytes, s.find (captureRow record.captureId) = some bytes → bytes = toCanonicalBytes record)
      ∧ (sink record).toOption.isSome

structure SpoolsTo (captureId : Hash256) (s : Store) (ok : Prop) (s' : Store) : Prop where
  others : SameExcept captureId s s'
  spooled : Spooled s' captureId
  tombstoned : ok → Tombstoned s' captureId

theorem SpoolsTo.spooled_iff {captureId : Hash256} {s s' : Store} {ok : Prop} (h : SpoolsTo captureId s ok s')
    (other : Hash256)
    : Spooled s' other ↔ Spooled s other ∨ other = captureId := by
  by_cases heq : other = captureId
  . simp [heq, h.spooled]
  . simp [heq, spooled_congr (h.others other heq).1 (h.others other heq).2]

section

variable {s : Store} {sink : CaptureSink} {record : CaptureRecord}

theorem admitSpooled_spoolsTo {bytes : List UInt8} (h : s.find (captureRow record.captureId) = some bytes)
    : SpoolsTo record.captureId s (sink record).toOption.isSome ((admitSpooled sink record bytes).run.run s).2
      ∧ ((admitSpooled sink record bytes).run.run s).1.toOption.isSome = (sink record).toOption.isSome := by
  rw [admitSpooled_run h]
  cases sink record with
  | ok downstreamId =>
    refine ⟨⟨?_, .inr ?_, fun _ => ?_⟩, rfl⟩
    . intro other hne
      simp [Store.find_applyAll, Ne.symm hne]
    . simp [Tombstoned, Store.find_applyAll]
    . simp [Tombstoned, Store.find_applyAll]
  | error message => exact ⟨⟨fun _ _ => ⟨rfl, rfl⟩, .inl (by simp [Pending, h]), nofun⟩, rfl⟩

theorem spoolCapture_spoolsTo (record : CaptureRecord)
    : SpoolsTo record.captureId s (Settles sink s [] record) ((spoolCapture sink record).run.run s).2
      ∧ (((spoolCapture sink record).run.run s).1.toOption.isSome ↔ Settles sink s [] record) := by
  by_cases htombstoned : Tombstoned s record.captureId
  . rw [spoolCapture_run_tombstoned htombstoned]
    exact ⟨⟨fun _ _ => ⟨rfl, rfl⟩, .inr htombstoned, fun _ => htombstoned⟩, iff_of_true rfl (.inl htombstoned)⟩
  cases hpending : s.find (captureRow record.captureId) with
  | none =>
    have hsettles : Settles sink s [] record ↔ (sink record).toOption.isSome := by
      simp [Settles, htombstoned, hpending]
    rw [spoolCapture_run_absent htombstoned (not_not.mpr hpending), hsettles]
    obtain ⟨hspools, hok⟩ := @admitSpooled_spoolsTo (s.applyAll [.put (captureRow record.captureId)
      (toCanonicalBytes record)]) sink record (toCanonicalBytes record) (by simp [Store.find_applyAll])
    refine ⟨⟨?_, hspools.spooled, hspools.tombstoned⟩, by rw [hok]⟩
    intro other hne
    rw [(hspools.others other hne).1, (hspools.others other hne).2]
    simp [Store.find_applyAll, Ne.symm hne]
  | some bytes =>
    have hsettles : Settles sink s [] record ↔ bytes = toCanonicalBytes record ∧ (sink record).toOption.isSome := by
      simp [Settles, htombstoned, hpending]
    rw [spoolCapture_run_pending htombstoned hpending, hsettles]
    by_cases heq : bytes = toCanonicalBytes record
    . obtain ⟨hspools, hok⟩ := @admitSpooled_spoolsTo s sink record bytes hpending
      rw [if_pos heq, hok]
      exact ⟨⟨hspools.others, hspools.spooled, fun h => hspools.tombstoned h.2⟩, fun h => ⟨heq, h⟩, And.right⟩
    . rw [if_neg heq]
      exact ⟨⟨fun _ _ => ⟨rfl, rfl⟩, .inl (by simp [Pending, hpending]), fun h => absurd h.1 heq⟩,
        iff_of_false Bool.false_ne_true fun h => heq h.1⟩

end

/-!
### The captures of a batch
-/

/-- The captures in `settled` have been settled since `start`, and nothing else has happened to captures. -/
structure SettledSince (start : Store) (settled : List Hash256) (s : Store) : Prop where
  tombstoned : ∀ captureId, Tombstoned s captureId ↔ Tombstoned start captureId ∨ captureId ∈ settled
  pending : ∀ captureId ∉ settled, s.find (captureRow captureId) = start.find (captureRow captureId)

section

variable {start s s' : Store} {settled : List Hash256} {captureId : Hash256}

theorem SettledSince.insert (h : SettledSince start settled s) (hsame : SameExcept captureId s s')
    (htombstoned : Tombstoned s' captureId)
    : SettledSince start (captureId :: settled) s' := by
  constructor
  . intro other
    by_cases heq : other = captureId
    . subst heq
      simp [htombstoned]
    . have : Tombstoned s' other ↔ Tombstoned s other := by
        unfold Tombstoned
        rw [(hsame other heq).2]
      simp [this, h.tombstoned, heq]
  . intro other hnotMem
    rw [List.mem_cons, not_or] at hnotMem
    rw [(hsame other hnotMem.1).1, h.pending other hnotMem.2]

theorem SettledSince.spooled (h : SettledSince start settled s) (hnotMem : captureId ∉ settled)
    : Spooled s captureId ↔ Spooled start captureId := by
  unfold Spooled Pending
  rw [h.tombstoned, h.pending captureId hnotMem, or_iff_left hnotMem]

theorem SettledSince.settles {sink : CaptureSink} (h : SettledSince start settled s) (record : CaptureRecord)
    : Settles sink s [] record ↔ Settles sink start settled record := by
  unfold Settles
  rw [h.tombstoned]
  by_cases hmem : record.captureId ∈ settled
  . simp [hmem]
  . simp [hmem, h.pending record.captureId hmem]

end

section

variable [P : Primitives] (sink : CaptureSink) (backends : Backends) (deviceId : DeviceId) (s : Store)

def DeviceEvent.captureIds : DeviceEvent → List Hash256
  | .capture report => ((checkCapture backends deviceId report).toOption.join.map CaptureRecord.captureId).toList
  | _ => []

/-- The event is processed without an error and leaves the lease active. -/
def DeviceEvent.Passes (settled : List Hash256) : DeviceEvent → Prop
  | .jobAcknowledged generation => (requireActive backends deviceId generation).toOption.isSome
  | .capture report => match checkCapture backends deviceId report with
    | .error _ => False
    | .ok none => True
    | .ok (some record) => Settles sink s settled record
  | .rangeCompleted _ _ => False
  | .telemetry generation => (requireActive backends deviceId generation).toOption.isSome
  | .disconnected => False

def AllPass : List Hash256 → List DeviceEvent → Prop
  | _, [] => True
  | settled, event :: events =>
    event.Passes sink backends deviceId s settled ∧ AllPass (event.captureIds backends deviceId ++ settled) events

variable {sink backends deviceId s} {start s' : Store} {settled : List Hash256} {captureId : Hash256}
  {event : DeviceEvent} {events : List DeviceEvent} {outcome : Option CaptureOutcome} {backends' : Backends}

theorem processEvents_run_error {error : CoordinatorError}
    (h : (processEvent sink backends deviceId event).run.run s = (.error error, s'))
    : (processEvents sink deviceId backends (event :: events)).run s = ((.error error, backends), s') := by
  unfold processEvents
  rw [Program.run_bind, h]
  rfl

theorem processEvents_run_ok (h : StoreM.Yields (processEvent sink backends deviceId event) s (outcome, backends') s')
    : ((processEvents sink deviceId backends (event :: events)).run s).2
      = ((processEvents sink deviceId backends' events).run s').2 := by
  unfold StoreM.Yields at h
  conv => lhs; unfold processEvents
  rw [Program.run_bind, h]
  dsimp only
  rw [Program.run_bind]
  rfl

theorem processEvents_always_cons {T : Store → Store → Prop} {I : Backends → Prop}
    (hevent : StoreM.Ends T (processEvent sink backends deviceId event) s (fun result _ => I result.2) (fun _ => True))
    (hrest : ∀ backends s, I backends
      → Program.Always T (fun _ _ => True) (processEvents sink deviceId backends events) s)
    : Program.Always T (fun _ _ => True) (processEvents sink deviceId backends (event :: events)) s := by
  apply Program.Always.seq hevent
  intro result s' hresult
  cases result with
  | error error => trivial
  | ok result =>
    exact Program.Always.seq (hrest result.2 s' hresult) fun _ _ _ => trivial

theorem processEvents_always (events : List DeviceEvent) (backends : Backends) (s : Store)
    : Program.Always CaptureStep (fun _ _ => True) (processEvents sink deviceId backends events) s := by
  induction events generalizing backends s with
  | nil => trivial
  | cons event events ih =>
    exact processEvents_always_cons (I := fun _ => True) processEvent_ends fun backends s _ => ih backends s

omit P in
theorem Inactive.requireActive (h : Inactive backends deviceId) (generation : UInt64)
    : ∃ error, requireActive backends deviceId generation = .error error := by
  unfold Work.requireActive
  cases hlookup : backends.lookup deviceId with
  | none => exact ⟨_, rfl⟩
  | some slot => exact ⟨_, if_pos (by simp [h slot hlookup])⟩

theorem Inactive.checkCapture (h : Inactive backends deviceId) (report : CaptureReport)
    : ∃ error, checkCapture backends deviceId report = .error error := by
  obtain ⟨error, herror⟩ := h.requireActive report.generation
  unfold Work.checkCapture
  rw [herror]
  exact ⟨error, rfl⟩

/-- Once the lease has ended, no event of the batch brings a capture. -/
theorem processEvents_inactive (events : List DeviceEvent) (h : Inactive backends deviceId) (s : Store)
    : Program.Always SameCaptures (fun _ _ => True) (processEvents sink deviceId backends events) s := by
  induction events generalizing backends s with
  | nil => trivial
  | cons event events ih =>
    have hends : StoreM.Ends SameCaptures (processEvent sink backends deviceId event) s
        (fun result _ => Inactive result.2 deviceId) (fun _ => True) := by
      by_cases hevent : event.endsLease = true
      . exact processEvent_endsLease hevent
      cases event with
      | capture report =>
        obtain ⟨error, herror⟩ := h.checkCapture report
        simp only [processEvent, processCapture, herror]
        trivial
      | jobAcknowledged generation | telemetry generation =>
        obtain ⟨error, herror⟩ := h.requireActive generation
        simp only [processEvent, herror]
        trivial
      | rangeCompleted | disconnected => exact absurd rfl hevent
    exact processEvents_always_cons hends fun backends s h => ih h s

theorem processEvent_of_not_endsLease (h : SettledSince start settled s) (hevent : event.endsLease = false)
    : event.Passes sink backends deviceId start settled
        ∧ (∃ outcome s', StoreM.Yields (processEvent sink backends deviceId event) s (outcome, backends) s'
          ∧ SettledSince start (event.captureIds backends deviceId ++ settled) s')
      ∨ ¬ event.Passes sink backends deviceId start settled
        ∧ ∃ error s', (processEvent sink backends deviceId event).run.run s = (.error error, s')
          ∧ ∀ captureId, Spooled s' captureId
            ↔ Spooled s captureId ∨ captureId ∈ event.captureIds backends deviceId := by
  cases event with
  | jobAcknowledged generation | telemetry generation =>
    simp only [DeviceEvent.Passes, processEvent, DeviceEvent.captureIds]
    cases requireActive backends deviceId generation with
    | ok slot => exact .inl ⟨rfl, none, s, rfl, h⟩
    | error error => exact .inr ⟨Bool.false_ne_true, error, s, rfl, by simp⟩
  | capture report =>
    simp only [DeviceEvent.Passes, processEvent, DeviceEvent.captureIds]
    cases hcheck : checkCapture backends deviceId report with
    | error error =>
      simp only [processCapture, hcheck]
      exact .inr ⟨not_false, error, s, rfl, by simp [Except.toOption]⟩
    | ok record =>
      cases record with
      | none =>
        simp only [processCapture, hcheck]
        exact .inl ⟨trivial, _, s, rfl, h⟩
      | some record =>
        obtain ⟨hspools, hok⟩ := @spoolCapture_spoolsTo s sink record
        rw [h.settles record] at hspools hok
        rw [processCapture_eq hcheck]
        rcases hrun : (spoolCapture sink record).run.run s with ⟨result, s'⟩
        rw [hrun] at hspools hok
        cases result with
        | ok outcome =>
          have hsettles := hok.mp rfl
          refine .inl ⟨hsettles, some outcome, s', ?_, h.insert hspools.others (hspools.tombstoned hsettles)⟩
          exact StoreM.yields_bind.mpr ⟨outcome, s', hrun, StoreM.yields_pure.mpr ⟨rfl, rfl⟩⟩
        | error error =>
          refine .inr ⟨fun hsettles => absurd (hok.mpr hsettles) Bool.false_ne_true, error, s', ?_, ?_⟩
          . rw [ExceptT.run_bind, Program.run_bind, hrun]
            rfl
          . simp [hspools.spooled_iff, Except.toOption]
  | rangeCompleted | disconnected => contradiction

theorem exists_split_cons
    : (∃ before bringing after, event :: events = before ++ bringing :: after
        ∧ captureId ∈ bringing.captureIds backends deviceId ∧ AllPass sink backends deviceId s settled before)
      ↔ captureId ∈ event.captureIds backends deviceId
        ∨ event.Passes sink backends deviceId s settled
          ∧ ∃ before bringing after, events = before ++ bringing :: after
            ∧ captureId ∈ bringing.captureIds backends deviceId
            ∧ AllPass sink backends deviceId s (event.captureIds backends deviceId ++ settled) before := by
  constructor
  . rintro ⟨before, bringing, after, heq, hmem, hpass⟩
    cases before with
    | nil =>
      injection heq with heq _
      exact .inl (heq ▸ hmem)
    | cons first before =>
      injection heq with hfirst heq
      subst hfirst
      exact .inr ⟨hpass.1, before, bringing, after, heq, hmem, hpass.2⟩
  . rintro (hmem | ⟨hpasses, before, bringing, after, rfl, hmem, hpass⟩)
    . exact ⟨[], event, events, rfl, hmem, trivial⟩
    . exact ⟨event :: before, bringing, after, rfl, hmem, hpasses, hpass⟩

theorem processEvents_spooled (h : SettledSince start settled s) (hnotMem : captureId ∉ settled)
    : Spooled ((processEvents sink deviceId backends events).run s).2 captureId
      ↔ Spooled start captureId ∨ ∃ before bringing after, events = before ++ bringing :: after
        ∧ captureId ∈ bringing.captureIds backends deviceId ∧ AllPass sink backends deviceId start settled before := by
  induction events generalizing settled s with
  | nil => simpa [processEvents] using h.spooled hnotMem
  | cons event events ih =>
    rw [exists_split_cons]
    by_cases hends : event.endsLease = true
    . have hsame := Program.Always.run (R := SameCaptures) .refl (fun _ _ _ => .trans) (fun _ _ h => h)
        (processEvents_always_cons (@processEvent_endsLease _ s sink backends deviceId event hends)
          fun backends s h => @processEvents_inactive _ sink backends deviceId events h s)
      have hnothing : event.captureIds backends deviceId = []
          ∧ ¬ event.Passes sink backends deviceId start settled := by
        cases event with
        | rangeCompleted | disconnected => exact ⟨rfl, not_false⟩
        | _ => contradiction
      rw [spooled_congr (hsame captureId).1 (hsame captureId).2, h.spooled hnotMem]
      simp [hnothing]
    rw [Bool.not_eq_true] at hends
    rcases processEvent_of_not_endsLease h hends with ⟨hpasses, outcome, s', hyields, hsettled⟩
      | ⟨hpasses, error, s', hrun, hspooled⟩
    . rw [processEvents_run_ok hyields]
      by_cases hmem : captureId ∈ event.captureIds backends deviceId
      . have hstep := Program.Always.run (R := CaptureStep) .refl (fun _ _ _ => .trans) (fun _ _ h => h)
          (@processEvents_always _ sink deviceId events backends s')
        apply iff_of_true (hstep.spooled captureId (.inr ?_)) (.inr (.inl hmem))
        rw [hsettled.tombstoned]
        simp [hmem]
      . rw [ih hsettled (by simp [hmem, hnotMem])]
        simp [hmem, hpasses]
    . rw [processEvents_run_error hrun, hspooled, h.spooled hnotMem]
      simp [hpasses]

/-- A capture is spooled when the call returns exactly if it was before, or if the backend's answer is good and
fits, and the batch brings the capture behind events that all pass. -/
theorem pollDevice_spooled {maximumEventsPerPoll : Nat} {polled : Except BackendError Unit}
    : Spooled ((pollDevice sink maximumEventsPerPoll backends deviceId events polled).run s).2 captureId
      ↔ Spooled s captureId ∨ polled = .ok () ∧ events.length ≤ maximumEventsPerPoll
        ∧ ∃ before bringing after, events = before ++ bringing :: after
          ∧ captureId ∈ bringing.captureIds backends deviceId ∧ AllPass sink backends deviceId s [] before := by
  have hstart : SettledSince s [] s := ⟨by simp, by simp⟩
  unfold pollDevice
  split
  next hlookup =>
    have hinactive : Inactive backends deviceId := by simp [Inactive, hlookup]
    apply (or_iff_left _).symm
    rintro ⟨_, _, before, bringing, after, _, hmem, _⟩
    cases bringing with
    | capture report =>
      obtain ⟨error, herror⟩ := hinactive.checkCapture report
      simp [DeviceEvent.captureIds, herror, Except.toOption] at hmem
    | _ => contradiction
  next => simp
  next =>
    split
    next hlength => simp [Nat.not_le.mpr hlength]
    next hlength => simp [processEvents_spooled hstart, Nat.not_lt.mp hlength]

end

def samplePoll (sink : CaptureSink) (events : List DeviceEvent)
    : (Except CoordinatorError (List CaptureOutcome) × Backends) × Store :=
  (@pollDevice .fold sink 4096 sampleBackends (.fill 32 3) events (.ok ())).run ∅

/-- The acknowledgement is of another generation: the capture behind it is gone from the backend and nowhere spooled. -/
theorem samplePoll_drops_capture
    : letI := Primitives.fold
      let result := samplePoll (fun _ => .ok (.fill 32 12)) [.jobAcknowledged 0, .capture (sampleReport 1)]
      checkCapture sampleBackends (.fill 32 3) (sampleReport 1) = .ok (some (sampleRecord 1))
      ∧ result.1.1 = .error .staleGeneration ∧ ¬ Spooled result.2 (sampleRecord 1).captureId := by
  refine ⟨checkCapture_sampleReport.1, rfl, ?_⟩
  rintro (h | h)
  . exact h rfl
  . exact h rfl

theorem samplePoll_spooled
    : Spooled (samplePoll (fun _ => .error "offline") [.jobAcknowledged 1, .capture (sampleReport 1), .disconnected]).2
        (sampleRecord 1).captureId := by
  have hmem : letI := Primitives.fold
      (sampleRecord 1).captureId ∈ (DeviceEvent.capture (sampleReport 1)).captureIds sampleBackends (.fill 32 3) := by
    simp [DeviceEvent.captureIds, checkCapture_sampleReport.1, Except.toOption]
  exact (pollDevice_spooled (P := .fold)).mpr (.inr ⟨rfl, by decide, [.jobAcknowledged 1], _, [.disconnected], rfl,
    hmem, rfl, trivial⟩)

end MeshMine.Work
