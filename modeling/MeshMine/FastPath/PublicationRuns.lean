import MeshMine.FastPath.AttemptSteps

/-!
Publications one after the other over one durable store (`DurableBlockPublisher::publish` of
`meshmine-fast-path/src/lib.rs`), with the tasks of a publication interleaved in any order and a crash between
any two steps.
-/

namespace MeshMine.FastPath

open MeshMine.Types Codec Storage

/-!
### The publisher
-/

inductive TaskPhase where
  | ready
  | waiting
  | answered (attempt : AttemptResult)

structure Task where
  target : TargetId
  start : AttemptStart
  phase : TaskPhase

structure Fanout where
  intent : BlockPublicationIntent
  reports : List TargetPublicationReport
  running : List Task
  firstError : Option PublicationError

inductive Activity where
  | idle
  | preparing (intent : BlockPublicationIntent)
      (rest : Program storeMachine (Except PublicationError (List PreparedTarget)))
  | fanout (state : Fanout)

structure System where
  store : Store
  activity : Activity

/-- What happens at the publisher's interface; `internal` is everything else. -/
inductive Event where
  | called (intent : BlockPublicationIntent)
  | internal
  | submitted (intent : BlockPublicationIntent) (target : TargetId) (sequence : UInt16)
  | returned (intent : BlockPublicationIntent) (result : Except PublicationError PublicationFanoutReport)
  | crashed

def Fanout.spawn (intent : BlockPublicationIntent) (prepared : List PreparedTarget) : Fanout where
  intent := intent
  reports := prepared.filterMap fun
    | .existing report => some report
    | .submit .. => none
  running := prepared.filterMap fun
    | .existing _ => none
    | .submit target start => some ⟨target, start, .ready⟩
  firstError := none

def attemptResult (start : AttemptStart) (completedUnixMs attemptElapsedUs : UInt64)
    (result : PublicationTargetResult)
    : AttemptResult where
  intentId := start.intentId
  targetIdHash := start.targetIdHash
  sequence := start.sequence
  completedUnixMs := completedUnixMs
  attemptElapsedUs := attemptElapsedUs
  result := result

def submittedReport (task : Task) (attempt : AttemptResult) : TargetPublicationReport where
  targetId := task.target
  attemptSequence := task.start.sequence
  result := attempt.result
  submittedThisRun := true
  attemptsExhausted := false
  attemptElapsedUs := attempt.attemptElapsedUs

namespace Fanout

def withRunning (fanout : Fanout) (running : List Task) : Fanout :=
  { fanout with running }

/-- A task ended; of several errors the first one is kept. -/
def join (fanout : Fanout) (running : List Task) : Except PublicationError TargetPublicationReport → Fanout
  | .ok report => { fanout with running, reports := fanout.reports ++ [report] }
  | .error e => { fanout with running, firstError := fanout.firstError.or (some e) }

end Fanout

/-- How a task ends without having written its result: its target panics, the clock is before the epoch, or the
blocking task is lost. -/
inductive Stops : TaskPhase → PublicationError → Prop where
  | panicked : Stops .waiting .targetTaskStopped
  | clock : Stops .waiting .clock
  | lost (attempt : AttemptResult) : Stops (.answered attempt) .blockingTask

variable {phase : TaskPhase} {e : PublicationError}

theorem Stops.ne_malformed (h : Stops phase e)
    : e ≠ .malformedDurableState := by
  cases h <;> simp

theorem mem_of_phase_ne {before after : List Task} {task pending : Task} (hphase : task.phase ≠ .ready)
    (hpending : pending.phase = .ready) (hmem : pending ∈ before ++ task :: after)
    : pending ∈ before ∨ pending ∈ after := by
  rw [List.mem_append, List.mem_cons] at hmem
  rcases hmem with hmem | rfl | hmem
  . exact .inl hmem
  . contradiction
  . exact .inr hmem

variable {α β : Type}

theorem exists_of_mem_left {R : α → β → Prop} {as : List α} {bs : List β} (h : List.Forall₂ R as bs) {a : α}
    (ha : a ∈ as)
    : ∃ b ∈ bs, R a b := by
  induction h with
  | nil => contradiction
  | cons hab _ ih =>
    rcases List.mem_cons.mp ha with rfl | ha
    . exact ⟨_, List.mem_cons_self .., hab⟩
    . obtain ⟨b, hb, hab⟩ := ih ha
      exact ⟨b, List.mem_cons_of_mem _ hb, hab⟩

theorem exists_of_mem_right {R : α → β → Prop} {as : List α} {bs : List β} (h : List.Forall₂ R as bs) {b : β}
    (hb : b ∈ bs)
    : ∃ a ∈ as, R a b :=
  exists_of_mem_left (R := flip R) h.flip hb

variable {report : TargetPublicationReport} {prepared : List PreparedTarget} {intent : BlockPublicationIntent}

theorem Fanout.mem_reports_spawn
    : report ∈ (Fanout.spawn intent prepared).reports ↔ .existing report ∈ prepared := by
  unfold Fanout.spawn
  rw [List.mem_filterMap]
  constructor
  . rintro ⟨p, hmem, hp⟩
    cases p with
    | submit target start => contradiction
    | existing other =>
      injection hp with hp
      rwa [← hp]
  . intro hmem
    exact ⟨_, hmem, rfl⟩

theorem Fanout.mem_running_spawn {task : Task}
    : task ∈ (Fanout.spawn intent prepared).running
      ↔ .submit task.target task.start ∈ prepared ∧ task.phase = .ready := by
  unfold Fanout.spawn
  rw [List.mem_filterMap]
  constructor
  . rintro ⟨p, hmem, hp⟩
    cases p with
    | submit target start =>
      injection hp with hp
      rw [← hp]
      exact ⟨hmem, rfl⟩
    | existing other => contradiction
  . rintro ⟨hmem, hphase⟩
    refine ⟨_, hmem, ?_⟩
    rw [← hphase]

section

variable [P : Primitives]

def Fanout.result (fanout : Fanout) : Except PublicationError PublicationFanoutReport :=
  match fanout.firstError with
  | some e => .error e
  | none => .ok (fanoutReport (objectId fanout.intent) fanout.reports)

/-- One step of a publisher that publishes only `intents`, to targets among `targets`. -/
inductive Step (intents : Set BlockPublicationIntent) (targets : Set TargetId) : System → Event → System → Prop where
  | call {s : Store} {configured publisher : List TargetId} (hnew : newPublisher configured = .ok publisher)
      (hconfigured : ∀ target ∈ publisher, target ∈ targets) {intent : BlockPublicationIntent}
      (hintent : intent ∈ intents) (clock : Option UInt64)
      : Step intents targets ⟨s, .idle⟩ (.called intent)
          ⟨s, .preparing intent (preparePublication publisher clock intent).run⟩
  | prepare {s s' : Store} {intent : BlockPublicationIntent} {op : storeMachine.Op}
      {k : Except StorageError (storeMachine.Res op)
        → Program storeMachine (Except PublicationError (List PreparedTarget))}
      {answer : Except StorageError (storeMachine.Res op)} (hanswer : storeMachine.Answers op s answer s')
      : Step intents targets ⟨s, .preparing intent (.call op k)⟩ .internal ⟨s', .preparing intent (k answer)⟩
  | refuse {s : Store} {intent : BlockPublicationIntent} {e : PublicationError}
      : Step intents targets ⟨s, .preparing intent (.pure (.error e))⟩ (.returned intent (.error e)) ⟨s, .idle⟩
  | spawn {s : Store} {intent : BlockPublicationIntent} {prepared : List PreparedTarget}
      : Step intents targets ⟨s, .preparing intent (.pure (.ok prepared))⟩ .internal
          ⟨s, .fanout (.spawn intent prepared)⟩
  | submit {s : Store} {fanout : Fanout} {before after : List Task} {task : Task}
      (hrunning : fanout.running = before ++ task :: after) (hphase : task.phase = .ready)
      : Step intents targets ⟨s, .fanout fanout⟩ (.submitted fanout.intent task.target task.start.sequence)
          ⟨s, .fanout (fanout.withRunning (before ++ { task with phase := .waiting } :: after))⟩
  | answer {s : Store} {fanout : Fanout} {before after : List Task} {task : Task}
      (hrunning : fanout.running = before ++ task :: after) (hphase : task.phase = .waiting)
      (completedUnixMs attemptElapsedUs : UInt64) (result : PublicationTargetResult)
      : Step intents targets ⟨s, .fanout fanout⟩ .internal
          ⟨s, .fanout (fanout.withRunning (before ++ { task with
            phase := .answered (attemptResult task.start completedUnixMs attemptElapsedUs result) } :: after))⟩
  | stop {s : Store} {fanout : Fanout} {before after : List Task} {task : Task} {e : PublicationError}
      (hrunning : fanout.running = before ++ task :: after) (hstops : Stops task.phase e)
      : Step intents targets ⟨s, .fanout fanout⟩ .internal ⟨s, .fanout (fanout.join (before ++ after) (.error e))⟩
  | commit {s s' : Store} {fanout : Fanout} {before after : List Task} {task : Task} {attempt : AttemptResult}
      {visited : List Store} {outcome : Except PublicationError Unit}
      (hrunning : fanout.running = before ++ task :: after) (hphase : task.phase = .answered attempt)
      (hexecutes : (persistAttemptResult task.start attempt).run.Executes s visited (some outcome) s')
      : Step intents targets ⟨s, .fanout fanout⟩ .internal
          ⟨s', .fanout (fanout.join (before ++ after) (outcome.map fun _ => submittedReport task attempt))⟩
  | finish {s : Store} {fanout : Fanout} (hrunning : fanout.running = [])
      : Step intents targets ⟨s, .fanout fanout⟩ (.returned fanout.intent fanout.result) ⟨s, .idle⟩
  | crash {s : System} : Step intents targets s .crashed ⟨s.store, .idle⟩

inductive Run (intents : Set BlockPublicationIntent) (targets : Set TargetId) (s : System)
    : List Event → System → Prop where
  | nil : Run intents targets s [] s
  | step {events : List Event} {s' s'' : System} {event : Event} (hrun : Run intents targets s events s')
      (hstep : Step intents targets s' event s'')
      : Run intents targets s (events ++ [event]) s''

/-!
### What holds in every state
-/

def Reports (s : Store) (i : Hash256) (report : TargetPublicationReport) : Prop :=
  ∃ result, Finished s i (targetHash report.targetId) result ∧ report.attemptSequence = result.sequence
    ∧ report.result = result.result ∧ report.attemptElapsedUs = result.attemptElapsedUs

def TaskPhase.BoundTo (phase : TaskPhase) (start : AttemptStart) : Prop :=
  ∀ attempt, phase = .answered attempt → attempt.intentId = start.intentId
    ∧ attempt.targetIdHash = start.targetIdHash ∧ attempt.sequence = start.sequence

structure Fanout.Inv (s : Store) (fanout : Fanout) : Prop where
  intent : s.find (intentRow (objectId fanout.intent)) = some (toCanonicalBytes fanout.intent)
  sorted : fanout.intent.targetIds.Pairwise (· < ·)
  hashes : Set.InjOn targetHash {target | target ∈ fanout.intent.targetIds}
  heads : ∀ target ∈ fanout.intent.targetIds, (s.find (headRow (objectId fanout.intent) (targetHash target))).isSome
  accounted : ∃ failed : List TargetId,
    (fanout.reports.map (·.targetId) ++ (fanout.running.map (·.target) ++ failed)).Perm fanout.intent.targetIds
      ∧ (fanout.firstError = none → failed = [])
  reports : ∀ report ∈ fanout.reports, Reports s (objectId fanout.intent) report
  tasks : ∀ task ∈ fanout.running, Unfinished s (objectId fanout.intent) (targetHash task.target) task.start
    ∧ task.phase.BoundTo task.start
  error : fanout.firstError ≠ some .malformedDurableState

def Activity.Inv (intents : Set BlockPublicationIntent) (targets : Set TargetId) (s : Store) : Activity → Prop
  | .idle => True
  | .preparing intent rest =>
    Program.Always (Prepares intents)
      (StoreM.Settled (fun prepared s => AllPrepared intent prepared s ∧ ∀ target ∈ intent.targetIds, target ∈ targets)
        (· ≠ .malformedDurableState)) rest s
  | .fanout state => state.Inv s

structure System.Inv (intents : Set BlockPublicationIntent) (targets : Set TargetId) (s : System) : Prop where
  consistent : Consistent s.store
  intentsHold : IntentsHold intents s.store
  activity : s.activity.Inv intents targets s.store

variable {intents : Set BlockPublicationIntent} {targets : Set TargetId}

theorem Reports.find_result {s : Store} {i : Hash256} (h : Reports s i report)
    : ∃ result, s.find (resultRow i (targetHash report.targetId) report.attemptSequence) = some (encodeResult result)
      ∧ result.result = report.result ∧ result.attemptElapsedUs = report.attemptElapsedUs := by
  obtain ⟨result, hfinished, hsequence, hresult, helapsed⟩ := h
  refine ⟨result, ?_, hresult.symm, helapsed.symm⟩
  rw [hsequence]
  exact hfinished.find_result

variable {visited : List Store}

namespace Fanout

variable {s s' : Store} {fanout : Fanout} {before after : List Task} {task : Task} (h : fanout.Inv s)

include h

theorem Inv.nodup {failed : List TargetId}
    (hperm : (fanout.reports.map (·.targetId) ++ (fanout.running.map (·.target) ++ failed)).Perm
      fanout.intent.targetIds)
    : (fanout.reports.map (·.targetId) ++ (fanout.running.map (·.target) ++ failed)).Nodup := by
  rw [hperm.nodup_iff]
  apply List.Pairwise.imp _ h.sorted
  rintro a _ hlt rfl
  exact List.lt_irrefl a hlt

theorem Inv.mem_of_running {other : Task} (hmem : other ∈ fanout.running)
    : other.target ∈ fanout.intent.targetIds := by
  obtain ⟨failed, hperm, _⟩ := h.accounted
  rw [← hperm.mem_iff]
  have := List.mem_map_of_mem (f := (·.target)) hmem
  simp [this]

theorem Inv.mem_of_reports (hmem : report ∈ fanout.reports)
    : report.targetId ∈ fanout.intent.targetIds := by
  obtain ⟨failed, hperm, _⟩ := h.accounted
  rw [← hperm.mem_iff]
  have := List.mem_map_of_mem (f := (·.targetId)) hmem
  simp [this]

theorem Inv.targetHash_ne {target target' : TargetId} (hmem : target ∈ fanout.intent.targetIds)
    (hmem' : target' ∈ fanout.intent.targetIds) (hne : target ≠ target') (i : Hash256)
    : ¬ (i = i ∧ targetHash target = targetHash target') := by
  rintro ⟨_, heq⟩
  exact hne (h.hashes hmem hmem' heq)

variable (hrunning : fanout.running = before ++ task :: after)

include hrunning

theorem Inv.others
    : (∀ other ∈ before ++ after, task.target ≠ other.target)
      ∧ ∀ report ∈ fanout.reports, task.target ≠ report.targetId := by
  obtain ⟨failed, hperm, _⟩ := h.accounted
  have hnodup := h.nodup hperm
  rw [hrunning, List.map_append, List.map_cons] at hnodup
  simp only [List.nodup_append, List.nodup_cons, List.mem_append, List.mem_cons, List.mem_map] at hnodup
  grind

theorem Inv.withRunning (hphase : phase.BoundTo task.start)
    : (fanout.withRunning (before ++ { task with phase } :: after)).Inv s := by
  obtain ⟨failed, hperm, hfailed⟩ := h.accounted
  refine { h with accounted := ⟨failed, ?_, hfailed⟩, tasks := ?_ }
  . rw [hrunning] at hperm
    simpa [Fanout.withRunning] using hperm
  . have htasks := h.tasks
    simp only [hrunning, Fanout.withRunning, List.mem_append, List.mem_cons] at htasks ⊢
    rintro other (hbefore | rfl | hafter)
    . exact htasks other (.inl hbefore)
    . exact ⟨(htasks task (.inr (.inl rfl))).1, hphase⟩
    . exact htasks other (.inr (.inr hafter))

theorem Inv.join (hintent : s'.find (intentRow (objectId fanout.intent)) = some (toCanonicalBytes fanout.intent))
    (hheads : ∀ target ∈ fanout.intent.targetIds,
      (s'.find (headRow (objectId fanout.intent) (targetHash target))).isSome)
    (hreports : ∀ report ∈ fanout.reports, Reports s' (objectId fanout.intent) report)
    (htasks : ∀ other ∈ before ++ after, Unfinished s' (objectId fanout.intent) (targetHash other.target) other.start
      ∧ other.phase.BoundTo other.start)
    {outcome : Except PublicationError TargetPublicationReport}
    (hok : ∀ report, outcome = .ok report
      → report.targetId = task.target ∧ Reports s' (objectId fanout.intent) report)
    (herror : ∀ e, outcome = .error e → e ≠ .malformedDurableState)
    : (fanout.join (before ++ after) outcome).Inv s' := by
  obtain ⟨failed, hperm, hfailed⟩ := h.accounted
  cases outcome with
  | ok report =>
    obtain ⟨htarget, hreport⟩ := hok report rfl
    refine ⟨hintent, h.sorted, h.hashes, hheads, ⟨failed, ?_, hfailed⟩, ?_, htasks, h.error⟩
    . apply List.Perm.trans _ hperm
      rw [hrunning, List.perm_iff_count]
      intro target
      simp only [Fanout.join, List.map_append, List.map_cons, List.map_nil, List.count_append, List.count_cons,
        List.count_nil, htarget]
      omega
    . intro other hother
      simp only [Fanout.join, List.mem_append, List.mem_singleton] at hother
      rcases hother with hother | rfl
      . exact hreports other hother
      . exact hreport
  | error e =>
    have he := herror e rfl
    refine ⟨hintent, h.sorted, h.hashes, hheads, ⟨task.target :: failed, ?_, ?_⟩, hreports, htasks, ?_⟩
    . apply List.Perm.trans _ hperm
      rw [hrunning, List.perm_iff_count]
      intro target
      simp only [Fanout.join, List.map_append, List.map_cons, List.count_append, List.count_cons]
      omega
    . simp [Fanout.join]
    . have hfirst := h.error
      cases heq : fanout.firstError with
      | none => simpa [Fanout.join, heq] using he
      | some first => simpa [Fanout.join, heq] using hfirst

theorem Inv.stop (he : e ≠ .malformedDurableState)
    : (fanout.join (before ++ after) (.error e)).Inv s := by
  apply h.join hrunning h.intent h.heads h.reports
  . intro other hother
    apply h.tasks
    rw [hrunning]
    grind
  . nofun
  . rintro _ ⟨⟩
    exact he

theorem Inv.commits (hcommits : Commits (objectId fanout.intent) (targetHash task.target) s s')
    : (∀ report ∈ fanout.reports, Reports s' (objectId fanout.intent) report)
      ∧ ∀ other ∈ before ++ after, Unfinished s' (objectId fanout.intent) (targetHash other.target) other.start
        ∧ other.phase.BoundTo other.start := by
  obtain ⟨htasks, hreports⟩ := h.others hrunning
  have hmem : task.target ∈ fanout.intent.targetIds := h.mem_of_running (by simp [hrunning])
  constructor
  . intro report hreport
    obtain ⟨result, hfinished, hrest⟩ := h.reports report hreport
    have hne := h.targetHash_ne hmem (h.mem_of_reports hreport) (hreports report hreport) (objectId fanout.intent)
    exact ⟨result, hcommits.finished_of_ne hne hfinished, hrest⟩
  . intro other hother
    have hother' : other ∈ fanout.running := by
      rw [hrunning]
      grind
    have hne := h.targetHash_ne hmem (h.mem_of_running hother') (htasks other hother) (objectId fanout.intent)
    obtain ⟨hunfinished, hbound⟩ := h.tasks other hother'
    exact ⟨hcommits.unfinished_of_ne hne hunfinished, hbound⟩

theorem Inv.commit {attempt : AttemptResult} (hphase : task.phase = .answered attempt)
    {outcome : Except PublicationError Unit}
    (hexecutes : (persistAttemptResult task.start attempt).run.Executes s visited (some outcome) s')
    : Commits (objectId fanout.intent) (targetHash task.target) s s'
      ∧ (fanout.join (before ++ after) (outcome.map fun _ => submittedReport task attempt)).Inv s' := by
  obtain ⟨hunfinished, hbound⟩ := h.tasks task (by simp [hrunning])
  obtain ⟨hintent, htarget, hsequence⟩ := hbound attempt hphase
  obtain ⟨hpath, houtcome⟩ := (persistAttemptResult_settles hunfinished hintent htarget hsequence).executes hexecutes
  have houtcome := houtcome outcome rfl
  have hcommits := commits_of_path hpath
  obtain ⟨hreports, htasks⟩ := h.commits hrunning hcommits
  refine ⟨hcommits, h.join hrunning ?_ ?_ hreports htasks ?_ ?_⟩
  . rw [hcommits.find_intentRow, h.intent]
  . intro target hmem
    exact hcommits.isSome_find_headRow (h.heads target hmem)
  . intro report hreport
    cases outcome with
    | ok _ =>
      injection hreport with hreport
      subst hreport
      exact ⟨rfl, attempt, houtcome, hsequence.symm, rfl, rfl⟩
    | error e => contradiction
  . intro e he
    cases outcome with
    | ok _ => contradiction
    | error e' =>
      injection he with he
      subst he
      exact houtcome

end Fanout

/-!
### Steps
-/

section

variable {s s' : Store} {i : Hash256} {intent : BlockPublicationIntent} {prepared : List PreparedTarget}

theorem Fanout.perm_spawn {targetIds : List TargetId}
    (h : List.Forall₂ (fun targetId p => PreparedFor i targetId p s) targetIds prepared)
    : ((Fanout.spawn intent prepared).reports.map (·.targetId)
        ++ (Fanout.spawn intent prepared).running.map (·.target)).Perm targetIds := by
  induction h with
  | nil => exact .refl _
  | @cons targetId p targetIds prepared hp _ ih =>
    cases p with
    | submit target start =>
      obtain ⟨rfl, _⟩ := hp
      exact List.perm_middle.trans (ih.cons _)
    | existing report =>
      obtain ⟨result, rfl, _⟩ := hp
      exact ih.cons _

theorem AllPrepared.spawn (h : AllPrepared intent prepared s) (hhashes : targets.InjOn targetHash)
    (htargets : ∀ target ∈ intent.targetIds, target ∈ targets)
    : (Fanout.spawn intent prepared).Inv s where
  intent := h.durable
  sorted := by
    have hvalid := h.valid
    unfold validateIntent at hvalid
    rw [Except.bind_unit_eq_ok] at hvalid
    exact (sorted_of_validateTargetIds hvalid.2).2
  hashes := hhashes.mono htargets
  heads := by
    intro target hmem
    obtain ⟨p, _, hp⟩ := exists_of_mem_left h.targets hmem
    cases p with
    | submit target' start =>
      change (s.find (headRow (objectId intent) (targetHash target))).isSome
      rw [hp.2.find_head]
      rfl
    | existing report =>
      obtain ⟨result, _, hfinished, _⟩ := hp
      obtain ⟨_, _, _, _, hhead⟩ := hfinished.find_head
      change (s.find (headRow (objectId intent) (targetHash target))).isSome
      rw [hhead]
      rfl
  accounted := by
    refine ⟨[], ?_, fun _ => rfl⟩
    rw [List.append_nil]
    exact Fanout.perm_spawn h.targets
  reports := by
    intro report hreport
    obtain ⟨target, _, result, rfl, hfinished, _⟩ :=
      exists_of_mem_right h.targets (Fanout.mem_reports_spawn.mp hreport)
    exact ⟨result, hfinished, rfl, rfl, rfl⟩
  tasks := by
    intro task htask
    obtain ⟨hmem, hphase⟩ := Fanout.mem_running_spawn.mp htask
    obtain ⟨target, _, htarget, hunfinished⟩ := exists_of_mem_right h.targets hmem
    rw [← htarget] at hunfinished
    refine ⟨hunfinished, ?_⟩
    intro attempt hattempt
    rw [hphase] at hattempt
    contradiction
  error := by simp [Fanout.spawn]

end

variable {event : Event}

theorem System.Inv.step {s s' : System} (hids : intents.InjOn objectId) (hhashes : targets.InjOn targetHash)
    (h : s.Inv intents targets) (hstep : Step intents targets s event s')
    : Grows s.store s'.store ∧ s'.Inv intents targets := by
  obtain ⟨hconsistent, hintents, hactivity⟩ := h
  cases hstep with
  | @call s configured publisher hnew hconfigured intent hintent clock =>
    refine ⟨.refl _, hconsistent, hintents, ?_⟩
    apply StoreM.Settles.mono (preparePublication_settles hintent hconsistent hintents publisher clock)
    rintro prepared s' ⟨hprepared, rfl⟩
    exact ⟨hprepared, hconfigured⟩
  | @prepare s s' intent op k answer hanswer =>
    obtain ⟨hprepares, hrest⟩ := hactivity answer s' hanswer
    exact ⟨hprepares.grows, hprepares.grows.consistent hconsistent, hprepares.intentsHold hids hintents, hrest⟩
  | refuse | finish | crash => exact ⟨.refl _, hconsistent, hintents, trivial⟩
  | spawn => exact ⟨.refl _, hconsistent, hintents, hactivity.1.spawn hhashes hactivity.2⟩
  | submit hrunning hphase =>
    refine ⟨.refl _, hconsistent, hintents, hactivity.withRunning hrunning ?_⟩
    intro attempt hattempt
    contradiction
  | answer hrunning hphase completedUnixMs attemptElapsedUs result =>
    refine ⟨.refl _, hconsistent, hintents, hactivity.withRunning hrunning ?_⟩
    intro attempt hattempt
    injection hattempt with hattempt
    subst hattempt
    exact ⟨rfl, rfl, rfl⟩
  | stop hrunning hstops => exact ⟨.refl _, hconsistent, hintents, hactivity.stop hrunning hstops.ne_malformed⟩
  | commit hrunning hphase hexecutes =>
    obtain ⟨hcommits, hinv⟩ := hactivity.commit hrunning hphase hexecutes
    refine ⟨hcommits.grows, hcommits.grows.consistent hconsistent, ?_, hinv⟩
    intro intent hintent bytes hfind
    apply hintents intent hintent
    rwa [← hcommits.find_intentRow]

/-!
### What a caller can rely on
-/

def Started (s : Store) (intent : BlockPublicationIntent) (target : TargetId) (n : UInt16) : Prop :=
  (s.find (startRow (objectId intent) (targetHash target) n)).isSome

def HasResult (s : Store) (intent : BlockPublicationIntent) (target : TargetId) (n : UInt16) (result : AttemptResult)
    : Prop :=
  s.find (resultRow (objectId intent) (targetHash target) n) = some (encodeResult result)

def Untouched (s : Store) : Prop :=
  ∀ i t n, s.find (intentRow i) = none ∧ s.find (headRow i t) = none ∧ s.find (startRow i t n) = none
    ∧ s.find (resultRow i t n) = none

/-- The attempts are numbered `1..k`, and all of them but the last have a retryable result. -/
def InOrder (s : Store) (intent : BlockPublicationIntent) (target : TargetId) : Prop :=
  ∃ k, k ≤ maxPublicationAttemptsPerTarget.toNat
    ∧ (∀ n, Started s intent target n ↔ 1 ≤ n.toNat ∧ n.toNat ≤ k)
    ∧ ∀ n, 1 ≤ n.toNat → n.toNat < k → ∃ result, HasResult s intent target n result
      ∧ result.result.kind = .retryable

/-- A submission goes to a target without a terminal result, under the attempt that is started and has none. -/
structure SubmissionSound (s : Store) (intent : BlockPublicationIntent) (target : TargetId) (n : UInt16)
    : Prop where
  known : target ∈ intent.targetIds
  durable : s.find (intentRow (objectId intent)) = some (toCanonicalBytes intent)
  heads : ∀ other ∈ intent.targetIds, (s.find (headRow (objectId intent) (targetHash other))).isSome
  retryable : ∀ m result, HasResult s intent target m result → result.result.kind = .retryable
  started : Started s intent target n
  unfinished : s.find (resultRow (objectId intent) (targetHash target) n) = none

/-- A report has the last result of every target of the intent, in the order of the intent. -/
structure ReportSound (s : Store) (intent : BlockPublicationIntent) (report : PublicationFanoutReport) : Prop where
  intentId : report.intentId = objectId intent
  targets : report.targets.map (·.targetId) = intent.targetIds
  results : ∀ entry ∈ report.targets, ∃ result, HasResult s intent entry.targetId entry.attemptSequence result
    ∧ result.result = entry.result ∧ result.attemptElapsedUs = entry.attemptElapsedUs
  last : ∀ entry ∈ report.targets, ∀ n, Started s intent entry.targetId n
    → n.toNat ≤ entry.attemptSequence.toNat
  accepted : ∀ target, report.firstAcceptedTarget = some target
    → ∃ entry ∈ report.targets, entry.targetId = target ∧ entry.result.kind.isSuccess = true
  refused : report.firstAcceptedTarget = none → ∀ entry ∈ report.targets, entry.result.kind.isSuccess = false

structure StepSound (s : System) (event : Event) (s' : System) : Prop where
  intents : ∀ i bytes, s.store.find (intentRow i) = some bytes → s'.store.find (intentRow i) = some bytes
  starts : ∀ i t n bytes, s.store.find (startRow i t n) = some bytes → s'.store.find (startRow i t n) = some bytes
  results : ∀ i t n bytes, s.store.find (resultRow i t n) = some bytes → s'.store.find (resultRow i t n) = some bytes
  inOrder : ∀ intent target (m n : UInt16), ¬ Started s.store intent target n → Started s'.store intent target n
    → 1 ≤ m.toNat → m.toNat + 1 = n.toNat
    → ∃ result, HasResult s.store intent target m result ∧ result.result.kind = .retryable
  submission : ∀ intent target n, event = .submitted intent target n → SubmissionSound s.store intent target n
  report : ∀ intent report, event = .returned intent (.ok report) → ReportSound s.store intent report
  error : ∀ intent e, event = .returned intent (.error e) → e ≠ .malformedDurableState

variable {s : Store}

theorem Untouched.inv (h : Untouched s) : (System.mk s .idle).Inv intents targets where
  consistent i t := by
    refine ⟨.empty, ?_, ?_, ?_⟩
    . intro n
      rw [(h i t n).2.2.1, Option.map_eq_none_iff.mpr]
      simp [← Option.not_isSome_iff_eq_none, isSome_numbered, Attempts.empty]
      omega
    . intro n
      rw [(h i t n).2.2.2, Option.map_eq_none_iff.mpr]
      simp [← Option.not_isSome_iff_eq_none, isSome_numbered, Attempts.empty]
      omega
    . rw [(h i t 0).2.1]
      rfl
  intentsHold intent _ bytes hfind := by
    rw [(h _ (objectId intent) 0).1] at hfind
    contradiction
  activity := trivial

theorem Consistent.inOrder (h : Consistent s) (intent : BlockPublicationIntent) (target : TargetId)
    : InOrder s intent target := by
  obtain ⟨attempts, hrecords⟩ := h (objectId intent) (targetHash target)
  refine ⟨attempts.starts.length, attempts.limit, ?_, ?_⟩
  . intro n
    unfold Started
    rw [hrecords.starts, Option.isSome_map, isSome_numbered]
  . intro n hpos hlt
    have hsome : (numbered attempts.results n).isSome := by
      have := attempts.starts_le
      rw [isSome_numbered]
      omega
    obtain ⟨result, hresult⟩ := Option.isSome_iff_exists.mp hsome
    obtain ⟨k, hk, hget⟩ := numbered_eq_some.mp hresult
    refine ⟨result, ?_, attempts.retried k result hget (by omega)⟩
    unfold HasResult
    rw [hrecords.results, hresult]
    rfl

variable {t : Hash256} {result : AttemptResult} {i : Hash256} {start : AttemptStart}

theorem Unfinished.retryable (h : Unfinished s i t start)
    {m : UInt16} (hresult : s.find (resultRow i t m) = some (encodeResult result))
    : result.result.kind = .retryable := by
  obtain ⟨attempts, hrecords, hlt, _⟩ := h
  rw [hrecords.results, Option.map_eq_some_iff] at hresult
  obtain ⟨other, hother, heq⟩ := hresult
  rw [encodeResult_inj heq] at hother
  obtain ⟨k, _, hget⟩ := numbered_eq_some.mp hother
  have := (List.getElem?_eq_some_iff.mp hget).1
  exact attempts.retried k result hget (by omega)

variable {n : UInt16}

theorem Finished.last (h : Finished s i t result) (hstarted : (s.find (startRow i t n)).isSome)
    : n.toNat ≤ result.sequence.toNat := by
  obtain ⟨attempts, hrecords, heq, hlast⟩ := h
  have hsequence := (Attempts.sequence_of_getLast?_results hlast).2.2
  rw [hrecords.starts, Option.isSome_map, isSome_numbered] at hstarted
  omega

instance : Std.Total fun left right : TargetPublicationReport => left.targetId ≤ right.targetId where
  total left right := List.le_total left.targetId right.targetId

instance : IsTrans TargetPublicationReport fun left right => left.targetId ≤ right.targetId where
  trans _ _ _ := List.le_trans

theorem Fanout.Inv.reportSound {fanout : Fanout} (h : fanout.Inv s) (hrunning : fanout.running = [])
    {report : PublicationFanoutReport} (hresult : fanout.result = .ok report)
    : ReportSound s fanout.intent report := by
  unfold Fanout.result at hresult
  split at hresult
  next => contradiction
  next hnone =>
    injection hresult with hresult
    subst hresult
    obtain ⟨failed, hperm, hfailed⟩ := h.accounted
    rw [hrunning, hfailed hnone, List.map_nil, List.append_nil, List.append_nil] at hperm
    let order := fun left right : TargetPublicationReport => left.targetId ≤ right.targetId
    have hsort := List.perm_insertionSort order fanout.reports
    have hreports : ∀ entry ∈ fanout.reports.insertionSort order, Reports s (objectId fanout.intent) entry := by
      intro entry hentry
      exact h.reports entry (hsort.mem_iff.mp hentry)
    refine ⟨rfl, ?_, fun entry hentry => (hreports entry hentry).find_result, ?_, ?_, ?_⟩
    . apply List.Perm.eq_of_pairwise (fun _ _ _ _ => List.le_antisymm) _ _ ((hsort.map _).trans hperm)
      . exact List.pairwise_map.mpr (List.pairwise_insertionSort order _)
      . exact h.sorted.imp List.le_of_lt
    . intro entry hentry n hstarted
      obtain ⟨result, hfinished, hsequence, _⟩ := hreports entry hentry
      rw [hsequence]
      exact hfinished.last hstarted
    . intro target htarget
      obtain ⟨entry, hentry, htarget⟩ := Option.map_eq_some_iff.mp htarget
      obtain ⟨hmem, hsuccess⟩ := mem_of_firstAccepted hentry
      exact ⟨entry, hmem, htarget, hsuccess⟩
    . intro hfirst entry hentry
      exact isSuccess_eq_false_of_firstAccepted (Option.map_eq_none_iff.mp hfirst) hentry

theorem Fanout.Inv.submissionSound {fanout : Fanout} (h : fanout.Inv s) {task : Task} (htask : task ∈ fanout.running)
    : SubmissionSound s fanout.intent task.target task.start.sequence := by
  have hunfinished := (h.tasks task htask).1
  refine ⟨h.mem_of_running htask, h.intent, h.heads, fun _ _ => hunfinished.retryable, ?_, hunfinished.find_result⟩
  unfold Started
  rw [hunfinished.find_start]
  rfl

theorem System.Inv.sound {s s' : System} (hids : intents.InjOn objectId) (hhashes : targets.InjOn targetHash)
    (h : s.Inv intents targets) (hstep : Step intents targets s event s')
    : StepSound s event s' := by
  have hgrows := (h.step hids hhashes hstep).1
  have hconsistent := h.consistent
  have hactivity := h.activity
  refine ⟨fun _ _ => hgrows.intents, fun _ _ _ _ => hgrows.find_startRow hconsistent,
    fun _ _ _ _ => hgrows.find_resultRow hconsistent, ?_, ?_, ?_, ?_⟩
  . intro intent target m n habsent hstarted hm hn
    exact hgrows.retryable_of_started hconsistent (Option.not_isSome_iff_eq_none.mp habsent) hstarted hm hn
  . intro intent target n hevent
    cases hstep with
    | submit hrunning hphase =>
      injection hevent with hintent htarget hn
      subst hintent htarget hn
      apply hactivity.submissionSound
      simp [hrunning]
    | _ => contradiction
  . intro intent report hevent
    cases hstep with
    | finish hrunning =>
      injection hevent with hintent hresult
      subst hintent
      exact hactivity.reportSound hrunning hresult
    | refuse =>
      injection hevent with _ hresult
      contradiction
    | _ => contradiction
  . intro intent e hevent
    cases hstep with
    | refuse =>
      injection hevent with _ he
      injection he with he
      subst he
      exact hactivity
    | @finish _ fanout hrunning =>
      injection hevent with _ hresult
      rintro rfl
      apply hactivity.error
      unfold Fanout.result at hresult
      split at hresult
      next first hfirst =>
        injection hresult with hresult
        rw [hfirst, hresult]
      next => contradiction
    | _ => contradiction

/-!
### Attempts that a crash left unfinished
-/

theorem Unfinished.unique {other : AttemptStart} (h : Unfinished s i t start) (hother : Unfinished s i t other)
    : other = start := by
  obtain ⟨attempts, hrecords, _, hlast⟩ := h
  obtain ⟨attempts', hrecords', _, hlast'⟩ := hother
  rw [← hrecords.unique hrecords', hlast] at hlast'
  injection hlast' with hlast'
  exact hlast'.symm

theorem Unfinished.not_finished (h : Unfinished s i t start)
    : ¬ Finished s i t result := by
  rintro ⟨attempts', hrecords', heq, _⟩
  obtain ⟨attempts, hrecords, hlt, _⟩ := h
  rw [hrecords.unique hrecords'] at hlt
  omega

theorem Consistent.unfinished (h : Consistent s)
    (hstarted : (s.find (startRow i t n)).isSome) (hresult : s.find (resultRow i t n) = none)
    : ∃ start, Unfinished s i t start ∧ start.sequence = n := by
  obtain ⟨attempts, hrecords⟩ := h i t
  have hle := attempts.starts_le
  have hnone : ¬ (numbered attempts.results n).isSome := by
    rw [hrecords.results, Option.map_eq_none_iff] at hresult
    simp [hresult]
  rw [hrecords.starts, Option.isSome_map] at hstarted
  rw [isSome_numbered] at hstarted hnone
  have hne : attempts.starts ≠ [] := by
    rw [← List.length_pos_iff]
    omega
  have hlast := List.getLast?_eq_some_getLast hne
  have hsequence := (Attempts.sequence_of_getLast?_starts hlast).2.2
  exact ⟨_, ⟨attempts, hrecords, by omega, hlast⟩, UInt16.toNat_inj.mp (by omega)⟩

def Event.Within : Event → Prop
  | .internal => True
  | .submitted .. => True
  | _ => False

/-- During a call: the attempt is still to be submitted, it was submitted, or the call fails. -/
def Pending (intent : BlockPublicationIntent) (target : TargetId) (start : AttemptStart) (events : List Event)
    (s : System) : Prop :=
  match s.activity with
  | .idle => False
  | .preparing current _ => current = intent ∧ Unfinished s.store (objectId intent) (targetHash target) start
  | .fanout fanout => fanout.intent = intent
    ∧ (.submitted intent target start.sequence ∈ events ∨ fanout.firstError ≠ none
      ∨ ∃ task ∈ fanout.running, task.target = target ∧ task.start = start ∧ task.phase = .ready)

section

variable {intent : BlockPublicationIntent} {target : TargetId} {start : AttemptStart} {events : List Event}
  {s s' : System}

theorem pending_spawn {prepared : List PreparedTarget} {store : Store} (h : AllPrepared intent prepared store)
    (htarget : target ∈ intent.targetIds)
    (hunfinished : Unfinished store (objectId intent) (targetHash target) start)
    : ∃ task ∈ (Fanout.spawn intent prepared).running, task.target = target ∧ task.start = start
      ∧ task.phase = .ready := by
  obtain ⟨p, hmem, hp⟩ := exists_of_mem_left h.targets htarget
  cases p with
  | submit target' other =>
    obtain ⟨rfl, hother⟩ := hp
    rw [hunfinished.unique hother] at hmem
    exact ⟨⟨_, start, .ready⟩, Fanout.mem_running_spawn.mpr ⟨hmem, rfl⟩, rfl, rfl, rfl⟩
  | existing report =>
    obtain ⟨result, _, hfinished, _⟩ := hp
    exact absurd hfinished hunfinished.not_finished

theorem Pending.carry {fanout fanout' : Fanout} {store store' : Store}
    (h : Pending intent target start events ⟨store, .fanout fanout⟩) (hintent : fanout'.intent = fanout.intent)
    (herror : fanout'.firstError = fanout.firstError)
    (hready : ∀ task ∈ fanout.running, task.phase = .ready → task ∈ fanout'.running)
    : Pending intent target start (events ++ [event]) ⟨store', .fanout fanout'⟩ := by
  obtain ⟨rfl, hevent | hfailed | ⟨pending, hmem, hpending⟩⟩ := h
  . exact ⟨hintent, .inl (by simp [hevent])⟩
  . exact ⟨hintent, .inr (.inl (by rwa [herror]))⟩
  . exact ⟨hintent, .inr (.inr ⟨pending, hready pending hmem hpending.2.2, hpending⟩)⟩

theorem Pending.step (hinv : s.Inv intents targets) (htarget : target ∈ intent.targetIds)
    (h : Pending intent target start events s) (hstep : Step intents targets s event s') (hwithin : event.Within)
    : Pending intent target start (events ++ [event]) s' := by
  have hactivity := hinv.activity
  cases hstep with
  | call | refuse | finish | crash => contradiction
  | prepare hanswer =>
    obtain ⟨hprepares, _⟩ := hactivity _ _ hanswer
    exact ⟨h.1, hprepares.unfinished h.2⟩
  | spawn =>
    obtain ⟨rfl, hunfinished⟩ := h
    exact ⟨rfl, .inr (.inr (pending_spawn hactivity.1 htarget hunfinished))⟩
  | @submit _ fanout before after task hrunning hphase =>
    obtain ⟨rfl, hevent | herror | ⟨pending, hmem, hpending⟩⟩ := h
    . exact ⟨rfl, .inl (by simp [hevent])⟩
    . exact ⟨rfl, .inr (.inl herror)⟩
    . rw [hrunning, List.mem_append, List.mem_cons] at hmem
      rcases hmem with hmem | rfl | hmem
      . exact ⟨rfl, .inr (.inr ⟨pending, by simp [Fanout.withRunning, hmem], hpending⟩)⟩
      . obtain ⟨rfl, rfl, _⟩ := hpending
        exact ⟨rfl, .inl (by simp)⟩
      . exact ⟨rfl, .inr (.inr ⟨pending, by simp [Fanout.withRunning, hmem], hpending⟩)⟩
  | answer hrunning hphase =>
    refine h.carry (by rfl) (by rfl) ?_
    intro pending hmem hready
    rw [hrunning] at hmem
    rcases mem_of_phase_ne (by simp [hphase]) hready hmem with hmem | hmem <;> simp [Fanout.withRunning, hmem]
  | stop hrunning hstops => exact ⟨h.1, .inr (.inl (by simp [Fanout.join]))⟩
  | @commit _ _ _ _ _ _ _ _ outcome hrunning hphase hexecutes =>
    cases outcome with
    | error e => exact ⟨h.1, .inr (.inl (by simp [Fanout.join, Except.map]))⟩
    | ok _ =>
      refine h.carry (by rfl) (by rfl) ?_
      intro pending hmem hready
      rw [hrunning] at hmem
      simpa [Fanout.join, Except.map] using mem_of_phase_ne (by simp [hphase]) hready hmem

theorem Run.trans {s'' : System} {events' : List Event} (h : Run intents targets s events s')
    (h' : Run intents targets s' events' s'')
    : Run intents targets s (events ++ events') s'' := by
  induction h' with
  | nil => rwa [List.append_nil]
  | step _ hstep ih =>
    rw [← List.append_assoc]
    exact .step ih hstep

variable (hids : intents.InjOn objectId) (hhashes : targets.InjOn targetHash)

include hids hhashes

theorem System.Inv.run (h : s.Inv intents targets) (hrun : Run intents targets s events s')
    : s'.Inv intents targets := by
  induction hrun with
  | nil => exact h
  | step _ hstep ih => exact (ih.step hids hhashes hstep).2

theorem Pending.run (hinv : s.Inv intents targets) (htarget : target ∈ intent.targetIds)
    (h : Pending intent target start [] s)
    (hrun : Run intents targets s events s') (hwithin : ∀ event ∈ events, event.Within)
    : Pending intent target start events s' := by
  induction hrun with
  | nil => exact h
  | step hrun hstep ih =>
    simp only [List.mem_append, List.mem_singleton] at hwithin
    apply Pending.step (hinv.run hids hhashes hrun) htarget _ hstep (hwithin _ (.inr rfl))
    exact ih fun event hevent => hwithin event (.inl hevent)

theorem resubmitted_of_unfinished {s₁ s₂ s₃ : System} (hinv : s.Inv intents targets)
    (hcall : Step intents targets s (.called intent) s₁) (hrun : Run intents targets s₁ events s₂)
    (hwithin : ∀ event ∈ events, event.Within)
    {report : PublicationFanoutReport} (hreturn : Step intents targets s₂ (.returned intent (.ok report)) s₃)
    (htarget : target ∈ intent.targetIds) (hstarted : Started s.store intent target n)
    (hresult : s.store.find (resultRow (objectId intent) (targetHash target) n) = none)
    : .submitted intent target n ∈ events := by
  obtain ⟨start, hunfinished, rfl⟩ := hinv.consistent.unfinished hstarted hresult
  have hinv₁ := (hinv.step hids hhashes hcall).2
  have hpending : Pending intent target start [] s₁ := by
    cases hcall with
    | call => exact ⟨rfl, hunfinished⟩
  have hpending := hpending.run hids hhashes hinv₁ htarget hrun hwithin
  generalize hevent : Event.returned intent (.ok report) = event at hreturn
  cases hreturn with
  | finish hrunning =>
    injection hevent with _ hok
    obtain ⟨_, hsubmitted | herror | ⟨task, hmem, _⟩⟩ := hpending
    . exact hsubmitted
    . obtain ⟨e, he⟩ := Option.ne_none_iff_exists'.mp herror
      unfold Fanout.result at hok
      rw [he] at hok
      contradiction
    . rw [hrunning] at hmem
      contradiction
  | refuse =>
    injection hevent with _ hok
    contradiction
  | _ => contradiction

end

theorem publications_sound (hids : intents.InjOn objectId) (hhashes : targets.InjOn targetHash) {store : Store}
    (huntouched : Untouched store) {events : List Event} {s : System}
    (hrun : Run intents targets ⟨store, .idle⟩ events s)
    : (∀ intent target, InOrder s.store intent target)
      ∧ (∀ event s', Step intents targets s event s' → StepSound s event s')
      ∧ ∀ intent s₁ events s₂ report s₃, Step intents targets s (.called intent) s₁
        → Run intents targets s₁ events s₂ → (∀ event ∈ events, event.Within)
        → Step intents targets s₂ (.returned intent (.ok report)) s₃
        → ∀ target ∈ intent.targetIds, ∀ n, Started s.store intent target n
          → s.store.find (resultRow (objectId intent) (targetHash target) n) = none
          → .submitted intent target n ∈ events := by
  have hinv := huntouched.inv.run hids hhashes hrun
  refine ⟨hinv.consistent.inOrder, fun _ _ => hinv.sound hids hhashes, ?_⟩
  intro intent s₁ call s₂ report s₃ hcall hrun hwithin hreturn target htarget n hstarted hresult
  exact resubmitted_of_unfinished hids hhashes hinv hcall hrun hwithin hreturn htarget hstarted hresult

theorem run_of_executes {s s' : Store} {intent : BlockPublicationIntent}
    {rest : Program storeMachine (Except PublicationError (List PreparedTarget))}
    {result : Except PublicationError (List PreparedTarget)} (h : rest.Executes s visited (some result) s')
    : ∃ events, (∀ event ∈ events, event.Within)
      ∧ Run intents targets ⟨s, .preparing intent rest⟩ events ⟨s', .preparing intent (.pure result)⟩ := by
  generalize hresult : some result = outcome at h
  induction h with
  | pure a s =>
    injection hresult with hresult
    rw [hresult]
    exact ⟨[], nofun, .nil⟩
  | call hanswer _ ih =>
    obtain ⟨events, hwithin, hrun⟩ := ih hresult
    refine ⟨_, ?_, Run.trans (.step .nil (.prepare hanswer)) hrun⟩
    exact List.forall_mem_cons.mpr ⟨trivial, hwithin⟩
  | crash => contradiction

end

def sampleTarget : TargetId := asciiBytes "node-a"

def sampleIntent : BlockPublicationIntent where
  version := 1
  networkId := 0
  winnerShareId := ⟨List.replicate 32 1, rfl⟩
  blockHash := ⟨List.replicate 32 2, rfl⟩
  payloadHash := @publicationPayloadHash Primitives.fold [7]
  payload := [7]
  targetIds := [sampleTarget]

/-- A publication as far as its preparation goes. -/
def samplePreparation (s : Store) : Except PublicationError (List PreparedTarget) × Store :=
  (@preparePublication Primitives.fold [sampleTarget] (some 5) sampleIntent).run.run s

def sampleStart : AttemptStart where
  intentId := @objectId _ Primitives.fold _ sampleIntent
  targetIdHash := @targetHash Primitives.fold sampleTarget
  sequence := 1
  startedUnixMs := 5

def sampleAttempt : AttemptResult :=
  attemptResult sampleStart 7 2 ⟨.accepted, 0, .zero 32⟩

def sampleFanout (phase : TaskPhase) : Fanout :=
  ⟨sampleIntent, [], [⟨sampleTarget, sampleStart, phase⟩], none⟩

def sampleFinished : Fanout :=
  ⟨sampleIntent, [submittedReport ⟨sampleTarget, sampleStart, .ready⟩ sampleAttempt], [], none⟩

def sampleCrashed : Store :=
  (samplePreparation ∅).2

def samplePrepared : Store :=
  (samplePreparation sampleCrashed).2

def sampleCommit : Except PublicationError Unit × Store :=
  (@persistAttemptResult Primitives.fold sampleStart sampleAttempt).run.run samplePrepared

theorem samplePublications_states
    : letI := Primitives.fold
      (samplePreparation ∅).1 = .ok [.submit sampleTarget sampleStart]
        ∧ (samplePreparation sampleCrashed).1 = .ok [.submit sampleTarget sampleStart]
        ∧ sampleCommit.1 = .ok ()
        ∧ (sampleCrashed.find (startRow (objectId sampleIntent) (targetHash sampleTarget) 1)).isSome
        ∧ sampleCrashed.find (resultRow (objectId sampleIntent) (targetHash sampleTarget) 1) = none := by
  decide +kernel

/-- The first publication crashes before it submits anything, the second one finishes its attempt. -/
theorem publications_sound_sample
    : letI := Primitives.fold
      ∃ events later s report, Run {sampleIntent} {sampleTarget} ⟨∅, .idle⟩ events ⟨sampleCrashed, .idle⟩
        ∧ Run {sampleIntent} {sampleTarget} ⟨sampleCrashed, .idle⟩ later s
        ∧ .submitted sampleIntent sampleTarget 1 ∈ later
        ∧ (∀ intent target, InOrder s.store intent target)
        ∧ Step {sampleIntent} {sampleTarget} s (.returned sampleIntent (.ok report)) ⟨s.store, .idle⟩
        ∧ ReportSound s.store sampleIntent report := by
  let P := Primitives.fold
  obtain ⟨hfirst, hsecond, hcommit, hstarted, hresult⟩ := samplePublications_states
  have hnew : newPublisher [sampleTarget] = .ok [sampleTarget] := by decide
  have huntouched : Untouched ∅ := by
    intro i t n
    simp [Store.find]
  have hcall : ∀ s, Step {sampleIntent} {sampleTarget} ⟨s, .idle⟩ (.called sampleIntent) ⟨s, .preparing sampleIntent
      (preparePublication [sampleTarget] (some 5) sampleIntent).run⟩ :=
    fun _ => .call hnew (by simp) (Set.mem_singleton _) (some 5)
  have hprepare : ∀ s, (samplePreparation s).1 = .ok [.submit sampleTarget sampleStart]
      → ∃ events, (∀ event ∈ events, event.Within) ∧ Run {sampleIntent} {sampleTarget} ⟨s, .preparing sampleIntent
        (preparePublication [sampleTarget] (some 5) sampleIntent).run⟩ events
        ⟨(samplePreparation s).2, .preparing sampleIntent (.pure (.ok [.submit sampleTarget sampleStart]))⟩ := by
    intro s hs
    rw [← hs]
    exact run_of_executes (Program.executes_run _ s)
  obtain ⟨events, _, hevents⟩ := hprepare ∅ hfirst
  obtain ⟨later, hwithin, hlater⟩ := hprepare sampleCrashed hsecond
  change Run _ _ _ _ ⟨sampleCrashed, _⟩ at hevents
  have hcrash := ((Run.step .nil (hcall ∅)).trans hevents).step .crash
  -- the projections are reduced by hand: unification would evaluate the sample
  dsimp only at hcrash
  have hrunning : ∀ phase, (sampleFanout phase).running = [] ++ ⟨sampleTarget, sampleStart, phase⟩ :: [] :=
    fun _ => rfl
  have hexecutes := Program.executes_run (persistAttemptResult sampleStart sampleAttempt).run samplePrepared
  change Program.Executes _ _ _ (some sampleCommit.1) sampleCommit.2 at hexecutes
  rw [hcommit] at hexecutes
  generalize sampleCommit.2 = final at hexecutes
  have hlater : Run {sampleIntent} {sampleTarget} _ _ ⟨final, .fanout sampleFinished⟩ :=
    (((hlater.step .spawn).step (.submit (hrunning .ready) rfl)).step
      (.answer (hrunning .waiting) rfl 7 2 ⟨.accepted, 0, .zero 32⟩)).step
      (.commit (hrunning (.answered sampleAttempt)) rfl hexecutes)
  have hreturn : Step {sampleIntent} {sampleTarget} ⟨final, .fanout sampleFinished⟩
      (.returned sampleIntent sampleFinished.result) ⟨final, .idle⟩ := .finish rfl
  have hrun := (Run.step .nil (hcall sampleCrashed)).trans hlater
  obtain ⟨_, _, hresubmits⟩ := publications_sound (by simp) (by simp) huntouched hcrash
  dsimp only at hresubmits
  obtain ⟨hinOrder, hsound, _⟩ := publications_sound (by simp) (by simp) huntouched (hcrash.trans hrun)
  refine ⟨_, _, _, _, hcrash, hrun, ?_, hinOrder, hreturn, (hsound _ _ hreturn).report _ _ rfl⟩
  apply List.mem_append_right
  have hmem : sampleTarget ∈ sampleIntent.targetIds := List.mem_singleton_self _
  apply hresubmits _ _ _ _ _ _ (hcall sampleCrashed) hlater _ hreturn sampleTarget hmem 1 hstarted hresult
  simpa [or_imp, forall_and, Event.Within] using hwithin

end MeshMine.FastPath
