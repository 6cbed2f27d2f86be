import MeshMine.Settlement.SnapshotRefinement

/-!
Every accumulator that a run can hold. The calls are given once more as the source executes them: a
subtraction below zero or an `expect` on nothing panics, and an error leaves behind whatever has been
written until then.
-/

namespace MeshMine.Settlement

open MeshMine.Types WeightedWindow
open Except (bind_eq_ok ok_bind)
open ClosedSessionCredits (creditCount payloadBytes totalWork)

namespace SnapshotAccumulator

/-- A subtraction below zero panics: `none`. -/
def subtract (a b : Nat) : Option Nat :=
  if b ≤ a then some (a - b) else none

@[simp]
theorem subtract_of_le {a b : Nat} (h : b ≤ a) : subtract a b = some (a - b) :=
  if_pos h

section

variable (size : Nat)

/-- The pruning loop of `retention_projection` with checked subtractions. -/
def checkedRetention (self : SnapshotAccumulator)
    : List ClosedSessionCredits → RetentionProjection → Option (Except SettlementError RetentionProjection)
  | [], projection => some (.ok projection)
  | oldSession :: sessions, projection => do
    let workWithoutOldest ← subtract projection.retainedWork oldSession.totalWork
    if workWithoutOldest < self.pplnsWindowWork then
      return .ok projection
    let retainedSessions ← subtract projection.retainedSessions 1
    match sessionBucketCreditCount oldSession with
    | .error error => return .error error
    | .ok count =>
      let retainedBucketCredits ← subtract projection.retainedBucketCredits count
      match sessionPayloadBytes size oldSession with
      | .error error => return .error error
      | .ok bytes =>
        let retainedPayloadBytes ← subtract projection.retainedPayloadBytes bytes
        checkedRetention self sessions
          { pruneCount := projection.pruneCount + 1
            retainedWork := workWithoutOldest
            retainedSessions
            retainedBucketCredits
            retainedPayloadBytes }

/-- The source's `prune_retained_prefix`, with the `expect` and the saturating sum. -/
def checkedPrune (self : SnapshotAccumulator) : List ClosedSessionCredits → Option SnapshotAccumulator
  | [] => some self
  | oldest :: sessions => do
    let workWithoutOldest ← subtract self.retainedWork oldest.totalWork
    if workWithoutOldest < self.pplnsWindowWork then
      return self
    let retainedBucketCredits ← subtract self.retainedBucketCredits
      (min (oldest.work.length + oldest.service.length) (2 ^ 64 - 1))
    let bytes ← (sessionPayloadBytes size oldest).toOption
    let retainedPayloadBytes ← subtract self.retainedPayloadBytes bytes
    checkedPrune
      { self with
        retainedWork := workWithoutOldest
        retainedBucketCredits
        retainedPayloadBytes
        closedSessions := sessions }
      sessions

end

variable {sessions : List ClosedSessionCredits} {oldest : ClosedSessionCredits} {size : Nat}

theorem checkedRetention_eq (self : SnapshotAccumulator) (sessions newest : List ClosedSessionCredits) (pruned : Nat)
    : checkedRetention size self sessions (projectionOf size pruned (sessions ++ newest))
        =
      some (retentionProjection.go size self sessions (projectionOf size pruned (sessions ++ newest))) := by
  induction sessions generalizing pruned with
  | nil => rfl
  | cons oldest sessions ih =>
    rw [List.cons_append, retentionProjection.go_cons]
    unfold checkedRetention
    simp only [projectionOf, work, total_cons, List.length_cons, Nat.le_add_right, Nat.le_add_left,
      subtract_of_le, Nat.add_sub_cancel_left, Nat.add_sub_cancel, Option.bind_eq_bind, Option.bind_some]
    split
    . rfl
    . cases hcount : sessionBucketCreditCount oldest with
      | error error => rfl
      | ok count =>
        obtain ⟨rfl, _⟩ := sessionBucketCreditCount_eq_ok.mp hcount
        simp only [Nat.le_add_right, subtract_of_le, Nat.add_sub_cancel_left, Option.bind_some, ok_bind]
        cases hbytes : sessionPayloadBytes size oldest with
        | error error => rfl
        | ok bytes =>
          obtain ⟨rfl, _⟩ := sessionPayloadBytes_eq_ok.mp hbytes
          simp only [Nat.le_add_right, subtract_of_le, Nat.add_sub_cancel_left, Option.bind_some, ok_bind]
          exact ih (pruned + 1)

def dropOldest (size : Nat) (self : SnapshotAccumulator) (oldest : ClosedSessionCredits)
    (sessions : List ClosedSessionCredits) : SnapshotAccumulator :=
  { self with
    retainedWork := self.retainedWork - oldest.totalWork
    retainedBucketCredits := self.retainedBucketCredits - oldest.creditCount
    retainedPayloadBytes := self.retainedPayloadBytes - oldest.payloadBytes size
    closedSessions := sessions }

variable {self : SnapshotAccumulator}

section

variable (h : Counts size self) (hsessions : self.closedSessions = oldest :: sessions)

include h hsessions

theorem Counts.dropOldest
    : Counts size (self.dropOldest size oldest sessions) := by
  obtain ⟨hwork, hcredits, hpayload, hcreditsLt, hpayloadLt⟩ := h
  rw [hsessions] at hwork hcredits hpayload
  unfold work at hwork
  rw [total_cons] at hwork hcredits hpayload
  constructor <;> simp only [SnapshotAccumulator.dropOldest, work] <;> omega

theorem Counts.sessionPayloadBytes_eq
    : sessionPayloadBytes size oldest = .ok (oldest.payloadBytes size) := by
  have hcredits := h.credits_eq
  have hpayload := h.payload_eq
  have hcreditsLt := h.credits_lt
  have hpayloadLt := h.payload_lt
  rw [hsessions, total_cons] at hcredits hpayload
  exact sessionPayloadBytes_eq_ok.mpr ⟨rfl, by omega, by omega⟩

theorem pruneRetainedPrefix.go_cons
    : go size self (oldest :: sessions)
        =
      if self.retainedWork - oldest.totalWork < self.pplnsWindowWork then
        self
      else
        go size (self.dropOldest size oldest sessions) sessions := by
  conv => lhs; unfold go
  rw [h.sessionPayloadBytes_eq hsessions]
  rfl

end

theorem checkedPrune_eq (h : Counts size self) (hsessions : self.closedSessions = sessions)
    : checkedPrune size self sessions = some (pruneRetainedPrefix.go size self sessions) := by
  induction sessions generalizing self with
  | nil => rfl
  | cons oldest sessions ih =>
    have hwork := h.work_eq
    have hcredits := h.credits_eq
    have hpayload := h.payload_eq
    have hcreditsLt := h.credits_lt
    unfold work at hwork
    rw [hsessions, total_cons] at hwork hcredits hpayload
    have hcount : min (oldest.work.length + oldest.service.length) (2 ^ 64 - 1) = oldest.creditCount := by
      unfold creditCount at hcredits ⊢
      omega
    rw [pruneRetainedPrefix.go_cons h hsessions]
    unfold checkedPrune
    rw [hcount, h.sessionPayloadBytes_eq hsessions, subtract_of_le (by omega), subtract_of_le (by omega),
      Except.toOption]
    simp only [Option.bind_eq_bind, Option.bind_some]
    split
    . rfl
    . rw [subtract_of_le (by omega), Option.bind_some]
      exact ih (h.dropOldest hsessions) rfl

theorem Counts.prune (h : Counts size self) (hsessions : self.closedSessions = sessions)
    : let pruned := pruneRetainedPrefix.go size self sessions
      let kept := sessions.drop
        (deadPrefix totalWork self.pplnsWindowWork sessions self.retainedWork)
      Counts size pruned
        ∧ pruned = { self with
            closedSessions := kept
            retainedWork := pruned.retainedWork
            retainedBucketCredits := pruned.retainedBucketCredits
            retainedPayloadBytes := pruned.retainedPayloadBytes } := by
  induction sessions generalizing self with
  | nil =>
    refine ⟨h, ?_⟩
    unfold pruneRetainedPrefix.go
    rw [List.drop_nil, ← hsessions]
  | cons oldest sessions ih =>
    rw [pruneRetainedPrefix.go_cons h hsessions]
    unfold deadPrefix
    split
    . refine ⟨h, ?_⟩
      rw [List.drop_zero, ← hsessions]
    . rw [List.drop_succ_cons]
      exact ih (h.dropOldest hsessions) rfl

theorem restoreSessions_eq_ok {base : SnapshotAccumulator} (h : restoreSessions size base sessions = .ok self)
    (hcounts : Counts size base)
    : Counts size self
        ∧ (∀ session ∈ sessions, session.totalWork ≠ 0)
        ∧ self = { base with
            closedSessions := base.closedSessions ++ sessions
            retainedWork := self.retainedWork
            retainedBucketCredits := self.retainedBucketCredits
            retainedPayloadBytes := self.retainedPayloadBytes } := by
  induction sessions generalizing base with
  | nil =>
    injection h with h
    subst h
    simp [hcounts]
  | cons session sessions ih =>
    unfold restoreSessions at h
    split at h
    . contradiction
    next hwork =>
      obtain ⟨count, hcount, h⟩ := bind_eq_ok h
      obtain ⟨credits, hcredits, h⟩ := bind_eq_ok h
      obtain ⟨bytes, hbytes, h⟩ := bind_eq_ok h
      obtain ⟨payload, hpayload, h⟩ := bind_eq_ok h
      rw [sessionBucketCreditCount_eq_ok] at hcount
      rw [sessionPayloadBytes_eq_ok] at hbytes
      rw [checkedAdd_eq_ok] at hcredits hpayload
      have hnext := ih h ⟨?_, ?_, ?_, ?_, ?_⟩
      . obtain ⟨hself, hworks, heq⟩ := hnext
        refine ⟨hself, ?_, ?_⟩
        . simpa using ⟨hwork, hworks⟩
        . rw [heq]
          simp
      . simp [work, hcounts.work_eq]
      . simp [hcounts.credits_eq, hcredits.1, hcount.1]
      . simp [hcounts.payload_eq, hpayload.1, hbytes.1]
      . dsimp only
        omega
      . dsimp only
        omega

/-!
### The calls as they are executed
-/

/-- An error keeps the accumulator as it has been written so far; `none` is a panic. -/
abbrev Mutation (α : Type) := ExceptT SettlementError (StateT SnapshotAccumulator Option) α

namespace Mutation

variable {α β : Type}

def check (x : Except SettlementError α) : Mutation α :=
  ExceptT.mk (pure x)

def expect (x : Option α) : Mutation α :=
  ExceptT.mk (StateT.lift (x.map .ok))

def outcome (x : Mutation α) (self : SnapshotAccumulator)
    : Option (Except SettlementError α × SnapshotAccumulator) :=
  x.run.run self

theorem outcome_bind (x : Mutation α) (f : α → Mutation β) (self : SnapshotAccumulator)
    : (x >>= f).outcome self
        =
      (x.outcome self).bind fun result =>
        match result with
        | (.ok a, self') => (f a).outcome self'
        | (.error error, self') => some (.error error, self') := by
  unfold outcome
  rw [ExceptT.run_bind, StateT.run_bind]
  congr 1
  funext result
  obtain ⟨a | a, self'⟩ := result <;> rfl

@[simp]
theorem outcome_check_bind (x : Except SettlementError α) (f : α → Mutation β) (self : SnapshotAccumulator)
    : (check x >>= f).outcome self
        =
      match x with
      | .ok a => (f a).outcome self
      | .error error => some (.error error, self) := by
  rw [outcome_bind]
  cases x <;> rfl

@[simp]
theorem outcome_expect_some_bind (a : α) (f : α → Mutation β) (self : SnapshotAccumulator)
    : (expect (some a) >>= f).outcome self = (f a).outcome self := by
  rw [outcome_bind]
  rfl

@[simp]
theorem outcome_get_bind (f : SnapshotAccumulator → Mutation β) (self : SnapshotAccumulator)
    : ((get : Mutation SnapshotAccumulator) >>= f).outcome self = (f self).outcome self := by
  rw [outcome_bind]
  rfl

@[simp]
theorem outcome_modify_bind (g : SnapshotAccumulator → SnapshotAccumulator) (f : PUnit → Mutation β)
    (self : SnapshotAccumulator)
    : ((modify g : Mutation PUnit) >>= f).outcome self = (f ⟨⟩).outcome (g self) := by
  rw [outcome_bind]
  rfl

end Mutation

open Mutation (check expect)

def popFront : Nat → Mutation Unit
  | 0 => return
  | count + 1 => do
    let self ← get
    let sessions ← expect self.closedSessions.tail?
    modify fun accumulator => { accumulator with closedSessions := sessions }
    popFront count

theorem outcome_popFront {count : Nat} (h : count ≤ self.closedSessions.length)
    : (popFront count).outcome self
        = some (.ok (), { self with closedSessions := self.closedSessions.drop count }) := by
  induction count generalizing self with
  | zero => rfl
  | succ count ih =>
    cases hsessions : self.closedSessions with
    | nil => simp [hsessions] at h
    | cons oldest sessions =>
      rw [hsessions, List.length_cons] at h
      unfold popFront
      simp only [Mutation.outcome_get_bind, hsessions, List.tail?_cons, Mutation.outcome_expect_some_bind,
        Mutation.outcome_modify_bind, List.drop_succ_cons]
      apply ih
      dsimp only
      omega

section

variable (size : Nat)

def checkedRetentionProjection (self : SnapshotAccumulator) (session : ClosedSessionCredits)
    : Option (Except SettlementError RetentionProjection) :=
  match startingProjection with
  | .error error => some (.error error)
  | .ok projection => checkedRetention size self self.closedSessions projection
where
  startingProjection : Except SettlementError RetentionProjection := do
    let retainedSessions ← checkedAdd self.closedSessions.length 1
    let count ← sessionBucketCreditCount session
    let retainedBucketCredits ← checkedAdd self.retainedBucketCredits count
    let bytes ← sessionPayloadBytes size session
    let retainedPayloadBytes ← checkedAdd self.retainedPayloadBytes bytes
    return {
      pruneCount := 0
      retainedWork := self.retainedWork + session.totalWork
      retainedSessions
      retainedBucketCredits
      retainedPayloadBytes }

variable [P : Primitives]

def mutateClosedSession (session : ClosedSessionCredits) (signerSet : SignatureSet)
    : Mutation (Option PayoutSnapshotV2) := do
  let self ← get
  check (Except.rejectIf (session.totalWork = 0) .emptySessionWork)
  let projection ← expect (checkedRetentionProjection size self session)
  let projection ← check projection
  check (ensureRetentionLimits self.limits projection.retainedSessions projection.retainedBucketCredits
    projection.retainedPayloadBytes)
  let prospectiveNewWork := self.newWorkSinceSnapshot + session.totalWork
  let snapshot ← check (
    if prospectiveNewWork < self.snapshotStepWork then
      .ok none
    else
      (buildSnapshot self.context self.closedSessions session signerSet).map some)
  modify fun accumulator => { accumulator with closedSessions := accumulator.closedSessions ++ [session] }
  popFront projection.pruneCount
  modify fun accumulator => { accumulator with retainedWork := projection.retainedWork }
  modify fun accumulator => { accumulator with retainedBucketCredits := projection.retainedBucketCredits }
  modify fun accumulator => { accumulator with retainedPayloadBytes := projection.retainedPayloadBytes }
  match snapshot with
  | some snapshot =>
    modify fun accumulator => { accumulator with previousSnapshotId := objectId snapshot }
    modify fun accumulator => { accumulator with nextSequence := accumulator.nextSequence + 1 }
    modify fun accumulator => { accumulator with newWorkSinceSnapshot := 0 }
  | none => modify fun accumulator => { accumulator with newWorkSinceSnapshot := prospectiveNewWork }
  return snapshot

end

theorem checkedRetentionProjection_eq (h : Counts size self) (session : ClosedSessionCredits)
    : checkedRetentionProjection size self session
        = some (retentionProjection size self session session.totalWork) := by
  have hsplit : retentionProjection size self session session.totalWork
      = checkedRetentionProjection.startingProjection size self session
        >>= retentionProjection.go size self self.closedSessions := by
    unfold retentionProjection checkedRetentionProjection.startingProjection
    simp only [bind_assoc, pure_bind]
  rw [hsplit]
  unfold checkedRetentionProjection
  cases hstart : checkedRetentionProjection.startingProjection size self session with
  | error error => rfl
  | ok projection =>
    have hprojection : projection = projectionOf size 0 (self.closedSessions ++ [session]) := by
      unfold checkedRetentionProjection.startingProjection at hstart
      obtain ⟨sessions, hsessions, hstart⟩ := bind_eq_ok hstart
      obtain ⟨count, hcount, hstart⟩ := bind_eq_ok hstart
      obtain ⟨credits, hcredits, hstart⟩ := bind_eq_ok hstart
      obtain ⟨bytes, hbytes, hstart⟩ := bind_eq_ok hstart
      obtain ⟨payload, hpayload, hstart⟩ := bind_eq_ok hstart
      rw [checkedAdd_eq_ok] at hsessions hcredits hpayload
      rw [sessionBucketCreditCount_eq_ok] at hcount
      rw [sessionPayloadBytes_eq_ok] at hbytes
      injection hstart with hstart
      rw [← hstart]
      simp [projectionOf, work, h.work_eq, h.credits_eq, h.payload_eq, hsessions.1, hcredits.1, hpayload.1,
        hcount.1, hbytes.1]
    dsimp only
    rw [hprojection, checkedRetention_eq]
    rfl

theorem retentionProjection_pruneCount_le (h : Counts size self) {session : ClosedSessionCredits}
    {projection : RetentionProjection}
    (hprojection : retentionProjection size self session session.totalWork = .ok projection)
    : projection.pruneCount ≤ (self.closedSessions ++ [session]).length := by
  rw [(retentionProjection_eq h hprojection).1]
  have hle := deadPrefix_le_length totalWork self.pplnsWindowWork
    self.closedSessions (work (self.closedSessions ++ [session]))
  simp only [projectionOf, List.length_append]
  omega

section

variable [P : Primitives]

theorem outcome_mutateClosedSession (h : Counts size self) (session : ClosedSessionCredits) (signerSet : SignatureSet)
    : (mutateClosedSession size session signerSet).outcome self
        =
      some (match addClosedSession size self session signerSet with
        | .ok (snapshot, self') => (.ok snapshot, self')
        | .error error => (.error error, self)) := by
  unfold mutateClosedSession addClosedSession
  rw [Mutation.outcome_get_bind]
  by_cases hwork : session.totalWork = 0
  . simp only [hwork, Except.rejectIf, if_true, Mutation.outcome_check_bind]
    rfl
  . rw [Mutation.outcome_check_bind, Except.rejectIf_of_not hwork, if_neg hwork]
    dsimp only
    rw [checkedRetentionProjection_eq h, Mutation.outcome_expect_some_bind, Mutation.outcome_check_bind]
    cases hprojection : retentionProjection size self session session.totalWork with
    | error error => rfl
    | ok projection =>
      rw [ok_bind]
      dsimp only
      rw [Mutation.outcome_check_bind]
      cases ensureRetentionLimits self.limits projection.retainedSessions projection.retainedBucketCredits
        projection.retainedPayloadBytes with
      | error error => rfl
      | ok _ =>
        have hle := retentionProjection_pruneCount_le h hprojection
        rw [ok_bind]
        dsimp only
        rw [Mutation.outcome_check_bind]
        by_cases hlt : self.newWorkSinceSnapshot + session.totalWork < self.snapshotStepWork
        . rw [if_pos hlt, if_pos hlt]
          dsimp only
          rw [Mutation.outcome_modify_bind, Mutation.outcome_bind, outcome_popFront hle]
          rfl
        . rw [if_neg hlt, if_neg hlt]
          cases buildSnapshot self.context self.closedSessions session signerSet with
          | error error => rfl
          | ok snapshot =>
            simp only [Except.map, ok_bind]
            rw [Mutation.outcome_modify_bind, Mutation.outcome_bind, outcome_popFront hle]
            rfl

end

/-!
### Restored accumulators
-/

/-- As `from_checkpoint`, with the panics of its pruning loop. -/
def checkedFromCheckpoint (size : Nat) (checkpoint : SnapshotAccumulatorCheckpoint)
    (limits : SnapshotAccumulatorLimits) : Option (Except SettlementError SnapshotAccumulator) :=
  match restored size checkpoint limits with
  | .error error => some (.error error)
  | .ok accumulator => do
    let accumulator ← checkedPrune size accumulator accumulator.closedSessions
    return do
      ensureRetentionLimits accumulator.limits accumulator.closedSessions.length
        accumulator.retainedBucketCredits accumulator.retainedPayloadBytes
      return { accumulator with newWorkSinceSnapshot := checkpoint.newWorkSinceSnapshot.toNat }

variable {limits : SnapshotAccumulatorLimits}

theorem restored_eq_ok {checkpoint : SnapshotAccumulatorCheckpoint} (h : restored size checkpoint limits = .ok self)
    : Counts size self
        ∧ self.closedSessions = checkpoint.closedSessions
        ∧ self.pplnsWindowWork = checkpoint.pplnsWindowWork.toNat
        ∧ (∀ session ∈ checkpoint.closedSessions, session.totalWork ≠ 0)
        ∧ Configured self.snapshotStepWork self.pplnsWindowWork self.limits
        ∧ checkpoint.newWorkSinceSnapshot.toNat < self.snapshotStepWork
        ∧ (checkpoint.closedSessions = [] → checkpoint.newWorkSinceSnapshot.toNat = 0) := by
  unfold restored at h
  obtain ⟨base, hbase, h⟩ := bind_eq_ok h
  have hinv : Inv size base := inv_newWithLimits hbase
  obtain ⟨hconfigured, rfl⟩ := newWithLimits_eq_ok hbase
  dsimp only at h
  split at h
  . contradiction
  next hvalid =>
    rw [not_or, Nat.not_le, List.isEmpty_iff, not_and, not_not] at hvalid
    obtain ⟨hcounts, hworks, heq⟩ := restoreSessions_eq_ok h hinv.toCounts
    rw [heq]
    exact ⟨heq ▸ hcounts, rfl, rfl, hworks, hconfigured, hvalid.1, hvalid.2⟩

theorem checkedFromCheckpoint_eq (checkpoint : SnapshotAccumulatorCheckpoint) (limits : SnapshotAccumulatorLimits)
    : checkedFromCheckpoint size checkpoint limits = some (fromCheckpoint size checkpoint limits) := by
  unfold checkedFromCheckpoint fromCheckpoint
  cases h : restored size checkpoint limits with
  | error error => rfl
  | ok accumulator =>
    dsimp only
    rw [checkedPrune_eq (restored_eq_ok h).1 rfl]
    rfl

theorem inv_fromCheckpoint {checkpoint : SnapshotAccumulatorCheckpoint}
    (h : fromCheckpoint size checkpoint limits = .ok self)
    : Inv size self := by
  obtain ⟨accumulator, hrestored, h⟩ := bind_eq_ok h
  obtain ⟨⟨⟩, hlimits, h⟩ := bind_eq_ok h
  injection h with h
  obtain ⟨hcounts, hsessions, -, hworks, hconfigured, hnewWork, hzero⟩ := restored_eq_ok hrestored
  obtain ⟨hpruned, heq⟩ := hcounts.prune rfl
  have hwork : accumulator.retainedWork = total totalWork accumulator.closedSessions :=
    hcounts.work_eq
  have htight : Tight totalWork _ _ :=
    tight_drop_deadPrefix accumulator.closedSessions [] (by simp) hconfigured.window_pos
  have hnil : accumulator.closedSessions.drop (deadPrefix totalWork
      accumulator.pplnsWindowWork accumulator.closedSessions _) = [] → _ :=
    eq_nil_of_drop_deadPrefix hconfigured.window_pos
  rw [List.append_nil, List.append_nil] at htight
  rw [← hwork] at htight hnil
  change Counts size (pruneRetainedPrefix size accumulator) at hpruned
  change pruneRetainedPrefix size accumulator = _ at heq
  generalize pruneRetainedPrefix size accumulator = pruned at *
  rw [← h]
  constructor
  case toCounts =>
    exact ⟨hpruned.work_eq, hpruned.credits_eq, hpruned.payload_eq, hpruned.credits_lt, hpruned.payload_lt⟩
  case configured => rw [heq]; exact hconfigured
  case newWork_lt => rw [heq]; exact hnewWork
  case newWork_eq_zero =>
    rw [heq]
    intro hkept
    exact hzero (hsessions ▸ hnil hkept)
  case work_ne_zero =>
    rw [heq]
    intro session hmem
    exact hworks session (hsessions ▸ List.mem_of_mem_drop hmem)
  case tight => rw [heq]; exact htight
  case within_limits => exact hlimits

theorem ensureRetentionLimits_eq_ok {sessions credits bytes : Nat}
    (h : ensureRetentionLimits limits sessions credits bytes = .ok ())
    : sessions ≤ limits.maxRetainedSessions ∧ credits ≤ limits.maxRetainedBucketCredits
        ∧ bytes ≤ limits.maxRetainedPayloadBytes := by
  unfold ensureRetentionLimits at h
  split at h
  . contradiction
  . split at h
    . contradiction
    . split at h
      . contradiction
      . omega

/-!
### Runs
-/

section

variable [P : Primitives]

/-- A call counts whether it succeeds or not. -/
inductive Held (size : Nat) : SnapshotAccumulator → Prop where
  | new {networkId : UInt8} {firstSequence : UInt64} {previousSnapshotId committee : Hash256}
      {step window : U512} {limits : SnapshotAccumulatorLimits} {self : SnapshotAccumulator}
      (h : newWithLimits networkId firstSequence previousSnapshotId step window committee limits = .ok self)
      : Held size self
  | restored {checkpoint : SnapshotAccumulatorCheckpoint} {limits : SnapshotAccumulatorLimits}
      {self : SnapshotAccumulator} (h : fromCheckpoint size checkpoint limits = .ok self)
      : Held size self
  | called {self self' : SnapshotAccumulator} {session : ClosedSessionCredits} {signerSet : SignatureSet}
      {result : Except SettlementError (Option PayoutSnapshotV2)} (hself : Held size self)
      (h : (mutateClosedSession size session signerSet).outcome self = some (result, self'))
      : Held size self'

theorem Held.inv (h : Held size self) : Inv size self := by
  induction h with
  | new h => exact inv_newWithLimits h
  | restored h => exact inv_fromCheckpoint h
  | @called self self' session signerSet result hself h ih =>
    rw [outcome_mutateClosedSession ih.toCounts, Option.some.injEq] at h
    cases hadd : addClosedSession size self session signerSet with
    | error error =>
      rw [hadd] at h
      have hself' : self = self' := congrArg Prod.snd h
      rwa [← hself']
    | ok added =>
      rw [hadd] at h
      have hself' : added.2 = self' := congrArg Prod.snd h
      rw [← hself']
      exact ih.addClosedSession hadd

theorem Held.accounts_retention {self : SnapshotAccumulator} (h : Held size self)
    : self.retainedWork = total totalWork self.closedSessions
        ∧ self.retainedBucketCredits = total creditCount self.closedSessions
        ∧ self.retainedPayloadBytes = total (payloadBytes size) self.closedSessions
        ∧ (∀ oldest newer, self.closedSessions = oldest :: newer
            → total totalWork newer < self.pplnsWindowWork)
        ∧ self.newWorkSinceSnapshot < self.snapshotStepWork
        ∧ self.closedSessions.length ≤ self.limits.maxRetainedSessions
        ∧ self.retainedBucketCredits ≤ self.limits.maxRetainedBucketCredits
        ∧ self.retainedPayloadBytes ≤ self.limits.maxRetainedPayloadBytes
        ∧ (∃ checkpoint, self.checkpoint = .ok checkpoint
            ∧ fromCheckpoint size checkpoint self.limits = .ok self)
        ∧ (∀ checkpoint limits, (checkedFromCheckpoint size checkpoint limits).isSome)
        ∧ ∀ session signerSet, ∃ result self',
            (mutateClosedSession size session signerSet).outcome self = some (result, self')
              ∧ ∀ error, result = .error error → self' = self := by
  have hinv := h.inv
  obtain ⟨hsessions, hcredits, hbytes⟩ := ensureRetentionLimits_eq_ok hinv.within_limits
  refine ⟨hinv.work_eq, hinv.credits_eq, hinv.payload_eq, hinv.tight,
    hinv.newWork_lt, hsessions, hcredits, hbytes, ?_, ?_, ?_⟩
  . exact bind_eq_ok (restart_eq hinv)
  . intro checkpoint limits
    rw [checkedFromCheckpoint_eq]
    rfl
  . intro session signerSet
    rw [outcome_mutateClosedSession hinv.toCounts]
    cases addClosedSession size self session signerSet with
    | error error => exact ⟨_, _, rfl, fun _ _ => rfl⟩
    | ok added =>
      refine ⟨_, _, rfl, ?_⟩
      intro error herror
      contradiction

def afterSession (size : Nat) (self : SnapshotAccumulator) (session : ClosedSessionCredits)
    : SnapshotAccumulator :=
  ((mutateClosedSession size session .emptyEd25519).outcome self).elim self Prod.snd

theorem Held.afterSession (h : Held size self) (session : ClosedSessionCredits)
    : Held size (self.afterSession size session) := by
  unfold SnapshotAccumulator.afterSession
  cases houtcome : (mutateClosedSession size session .emptyEd25519).outcome self with
  | none => exact h
  | some outcome => exact h.called houtcome

def Linked (sequence : UInt64) (previousId : Hash256) : List PayoutSnapshotV2 → Prop
  | [] => True
  | snapshot :: snapshots =>
    snapshot.snapshotSequence = sequence ∧ snapshot.previousSnapshotId = previousId ∧ sequence.toNat + 1 ≠ 2 ^ 64
      ∧ Linked (sequence + 1) (objectId snapshot) snapshots

theorem Held.run_linked (h : Held size self) (events : List Event)
    : Linked self.nextSequence self.previousSnapshotId (run size self events).snapshots.reduceOption := by
  replace h := h.inv
  induction events generalizing self with
  | nil => trivial
  | cons event events ih =>
    cases event with
    | restart =>
      unfold run
      rw [restart_eq h]
      exact ih h
    | addClosedSession session signerSet =>
      unfold run
      cases hadd : addClosedSession size self session signerSet with
      | error => exact ih h
      | ok added =>
        obtain ⟨snapshot, self'⟩ := added
        have hlinked := ih (h.addClosedSession hadd)
        obtain ⟨-, -, -, -, ⟨-, rfl, rfl⟩ | ⟨-, closed, hclosed, rfl, rfl⟩⟩ := addClosedSession_eq_ok h hadd
        . exact hlinked
        unfold buildSnapshot at hclosed
        dsimp only at hclosed
        split at hclosed
        . contradiction
        next hlast =>
          iterate 4 obtain ⟨_, _, hclosed⟩ := bind_eq_ok hclosed
          cases hclosed
          exact ⟨rfl, rfl, hlast, hlinked⟩

end

theorem Held.run_linked_sample
    : letI := Primitives.fold
      ∃ self, (run 200 self sampleEvents).snapshots.reduceOption.length = 4
        ∧ ∀ events, Linked self.nextSequence self.previousSnapshotId (run 200 self events).snapshots.reduceOption := by
  let _ := Primitives.fold
  have hnew : Held 200 sampleStart := .new newWithLimits_sampleStart
  exact ⟨_, by decide +kernel, hnew.run_linked⟩

/-- The window of `3` needs the last two sessions of work `2`. -/
theorem Held.accounts_retention_sample
    : letI := Primitives.fold
      ∃ self : SnapshotAccumulator, self.closedSessions = [sampleSession 2, sampleSession 3]
        ∧ self.retainedWork = total totalWork self.closedSessions := by
  let _ := Primitives.fold
  have hnew : Held 200 sampleStart := .new newWithLimits_sampleStart
  have h := ((hnew.afterSession (sampleSession 1)).afterSession (sampleSession 2)).afterSession (sampleSession 3)
  refine ⟨_, ?_, h.accounts_retention.1⟩
  decide +kernel

end SnapshotAccumulator
end MeshMine.Settlement
