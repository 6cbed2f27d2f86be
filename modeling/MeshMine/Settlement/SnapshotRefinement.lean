import MeshMine.Data.Except
import MeshMine.Settlement.Snapshot

/-!
Pruning and restarts do not show: the accumulator that drops sessions no later window can reach, and
that may be rebuilt from its checkpoint at any point, returns what the accumulator with the full
history returns.
-/

namespace MeshMine.Settlement

open MeshMine.Types WeightedWindow
open Except (bind_eq_ok)

variable {n : Nat} {a b : Nat}

theorem checkedAdd_eq_ok : checkedAdd a b = .ok n ↔ n = a + b ∧ a + b < 2 ^ 64 := by
  unfold checkedAdd
  split <;> grind

theorem checkedMul_eq_ok : checkedMul a b = .ok n ↔ n = a * b ∧ a * b < 2 ^ 64 := by
  unfold checkedMul
  split <;> grind

theorem bigToU512_eq_ok {value : Nat} (h : value < 2 ^ (8 * 64))
    : ∃ word, bigToU512 value = .ok word ∧ word.toNat = value := by
  unfold bigToU512
  have hbits := Bytes.bitLength_le_iff.mpr h
  rw [if_neg (Nat.not_lt.mpr hbits)]
  refine ⟨_, rfl, ?_⟩
  unfold ByteVec.toNat
  rw [Bytes.ofBE_toBE]
  exact Nat.mod_eq_of_lt h

namespace ClosedSessionCredits

def creditCount (session : ClosedSessionCredits) : Nat :=
  session.work.length + session.service.length

def payloadBytes (sizeOfBucketCredit : Nat) (session : ClosedSessionCredits) : Nat :=
  session.creditCount * sizeOfBucketCredit
    + ((session.work ++ session.service).map fun credit =>
        credit.bucket.hnsAddressHash.length + credit.bucket.signature.length).sum

end ClosedSessionCredits

variable {session : ClosedSessionCredits}

theorem sessionBucketCreditCount_eq_ok
    : sessionBucketCreditCount session = .ok n
        ↔ n = session.creditCount ∧ session.creditCount < 2 ^ 64 := by
  exact checkedAdd_eq_ok

theorem sessionPayloadBytes.go_eq_ok {total : Nat} {credits : List BucketCredit} (htotal : total < 2 ^ 64)
    : go total credits = .ok n
        ↔ n = total + (credits.map fun credit =>
                credit.bucket.hnsAddressHash.length + credit.bucket.signature.length).sum
            ∧ n < 2 ^ 64 := by
  induction credits generalizing total with
  | nil =>
    simp only [go, List.map_nil, List.sum_nil, Nat.add_zero]
    constructor
    . intro h
      injection h with h
      omega
    . intro ⟨h, _⟩
      rw [h]
      rfl
  | cons credit credits ih =>
    simp only [go, List.map_cons, List.sum_cons]
    constructor
    . intro h
      obtain ⟨address, haddress, h⟩ := bind_eq_ok h
      obtain ⟨both, hboth, h⟩ := bind_eq_ok h
      rw [checkedAdd_eq_ok] at haddress hboth
      rw [ih (by omega)] at h
      omega
    . intro h
      have haddress := checkedAdd_eq_ok (a := total) (b := credit.bucket.hnsAddressHash.length).mpr
        ⟨rfl, by omega⟩
      have hboth := checkedAdd_eq_ok (a := total + credit.bucket.hnsAddressHash.length)
        (b := credit.bucket.signature.length).mpr ⟨rfl, by omega⟩
      rw [haddress]
      change (checkedAdd _ _ >>= _) = _
      rw [hboth]
      change go _ _ = _
      rw [ih (by omega)]
      omega

theorem sessionPayloadBytes_eq_ok {size : Nat}
    : sessionPayloadBytes size session = .ok n
        ↔ n = session.payloadBytes size
            ∧ session.creditCount < 2 ^ 64
            ∧ session.payloadBytes size < 2 ^ 64 := by
  unfold sessionPayloadBytes ClosedSessionCredits.payloadBytes ClosedSessionCredits.creditCount
  constructor
  . intro h
    obtain ⟨credits, hcredits, h⟩ := bind_eq_ok h
    obtain ⟨total, htotal, h⟩ := bind_eq_ok h
    rw [checkedAdd_eq_ok] at hcredits
    rw [checkedMul_eq_ok, hcredits.1] at htotal
    rw [sessionPayloadBytes.go_eq_ok (by omega), htotal.1] at h
    omega
  . intro ⟨hn, hcount, hbytes⟩
    rw [checkedAdd_eq_ok.mpr ⟨rfl, hcount⟩]
    change (checkedMul _ _ >>= _) = _
    rw [checkedMul_eq_ok.mpr ⟨rfl, by omega⟩]
    change sessionPayloadBytes.go _ _ = _
    rw [sessionPayloadBytes.go_eq_ok (by omega)]
    omega

namespace SnapshotAccumulator

open ClosedSessionCredits (creditCount payloadBytes totalWork)

section

variable {size : Nat}

abbrev work (sessions : List ClosedSessionCredits) : Nat :=
  total totalWork sessions

def projectionOf (size pruneCount : Nat) (sessions : List ClosedSessionCredits)
    : RetentionProjection where
  pruneCount
  retainedWork := work sessions
  retainedSessions := sessions.length
  retainedBucketCredits := total creditCount sessions
  retainedPayloadBytes := total (payloadBytes size) sessions

/-- Without the oldest session the totals are those of the others. -/
theorem retentionProjection.go_cons (self : SnapshotAccumulator) (oldest : ClosedSessionCredits)
    (sessions rest : List ClosedSessionCredits) (pruned : Nat)
    : go size self (oldest :: sessions) (projectionOf size pruned (oldest :: rest))
        =
      if work rest < self.pplnsWindowWork then
        .ok (projectionOf size pruned (oldest :: rest))
      else
        sessionBucketCreditCount oldest >>= fun _ => sessionPayloadBytes size oldest >>= fun _ =>
          go size self sessions (projectionOf size (pruned + 1) rest) := by
  rw [go]
  simp only [projectionOf, work, total_cons, List.length_cons, Nat.add_sub_cancel_left, Nat.add_sub_cancel]
  split
  . rfl
  . cases hcount : sessionBucketCreditCount oldest with
    | error error => rfl
    | ok count =>
      cases hbytes : sessionPayloadBytes size oldest with
      | error error => rfl
      | ok bytes =>
        obtain ⟨rfl, _⟩ := sessionBucketCreditCount_eq_ok.mp hcount
        obtain ⟨rfl, _⟩ := sessionPayloadBytes_eq_ok.mp hbytes
        simp only [Except.ok_bind, Nat.add_sub_cancel_left]

theorem retentionProjection.go_eq (self : SnapshotAccumulator)
    (sessions newest : List ClosedSessionCredits) (pruned : Nat) (projection : RetentionProjection)
    (h : go size self sessions (projectionOf size pruned (sessions ++ newest)) = .ok projection)
    : let count := deadPrefix totalWork self.pplnsWindowWork sessions
        (work (sessions ++ newest))
      projection = projectionOf size (pruned + count) (sessions.drop count ++ newest) := by
  induction sessions generalizing pruned with
  | nil =>
    injection h with h
    rw [← h]
    rfl
  | cons oldest sessions ih =>
    have hwork : work (oldest :: sessions ++ newest) - oldest.totalWork = work (sessions ++ newest) := by
      simp [work]
    rw [List.cons_append, go_cons] at h
    dsimp only
    unfold deadPrefix
    rw [hwork]
    split at h
    next hlt =>
      injection h with h
      rw [if_pos hlt, ← h]
      rfl
    next hge =>
      obtain ⟨_, _, h⟩ := bind_eq_ok h
      obtain ⟨_, _, h⟩ := bind_eq_ok h
      rw [if_neg hge, List.drop_succ_cons, Nat.add_comm _ 1, ← Nat.add_assoc]
      exact ih (pruned + 1) h

variable {self : SnapshotAccumulator}

structure Counts (size : Nat) (accumulator : SnapshotAccumulator) : Prop where
  work_eq : accumulator.retainedWork = work accumulator.closedSessions
  credits_eq : accumulator.retainedBucketCredits = total creditCount accumulator.closedSessions
  payload_eq : accumulator.retainedPayloadBytes
    = total (payloadBytes size) accumulator.closedSessions
  credits_lt : accumulator.retainedBucketCredits < 2 ^ 64
  payload_lt : accumulator.retainedPayloadBytes < 2 ^ 64

theorem retentionProjection_eq {projection : RetentionProjection} (hcounts : Counts size self)
    (h : retentionProjection size self session session.totalWork = .ok projection)
    : let count := deadPrefix totalWork self.pplnsWindowWork self.closedSessions
        (work (self.closedSessions ++ [session]))
      projection = projectionOf size count (self.closedSessions.drop count ++ [session])
        ∧ total creditCount (self.closedSessions ++ [session]) < 2 ^ 64
        ∧ total (payloadBytes size) (self.closedSessions ++ [session]) < 2 ^ 64 := by
  unfold retentionProjection at h
  obtain ⟨sessions, hsessions, h⟩ := bind_eq_ok h
  obtain ⟨count, hcount, h⟩ := bind_eq_ok h
  obtain ⟨credits', hcredits', h⟩ := bind_eq_ok h
  obtain ⟨bytes, hbytesNew, h⟩ := bind_eq_ok h
  obtain ⟨bytes', hbytes', h⟩ := bind_eq_ok h
  rw [checkedAdd_eq_ok] at hsessions hcredits' hbytes'
  rw [sessionBucketCreditCount_eq_ok] at hcount
  rw [sessionPayloadBytes_eq_ok] at hbytesNew
  have hstart : RetentionProjection.mk 0 (self.retainedWork + session.totalWork) sessions credits' bytes'
      = projectionOf size 0 (self.closedSessions ++ [session]) := by
    simp [projectionOf, work, hcounts.work_eq, hsessions.1, hcredits'.1, hbytes'.1, hcount.1, hbytesNew.1,
      hcounts.credits_eq, hcounts.payload_eq]
  rw [hstart] at h
  have hgo := retentionProjection.go_eq self self.closedSessions [session] 0 projection h
  dsimp only at hgo ⊢
  rw [Nat.zero_add] at hgo
  obtain ⟨-, hcredits, hbytes, -⟩ := hcounts
  refine ⟨hgo, ?_, ?_⟩
  . simp only [total_append, total_cons, total_nil]
    omega
  . simp only [total_append, total_cons, total_nil]
    omega

structure Configured (step window : Nat) (limits : SnapshotAccumulatorLimits) : Prop where
  step_pos : 0 < step
  step_lt : step < 2 ^ (8 * 64)
  window_pos : 0 < window
  window_lt : window < 2 ^ (8 * 64)
  limits_pos : ¬ (limits.maxRetainedSessions = 0 ∨ limits.maxRetainedBucketCredits = 0
    ∨ limits.maxRetainedPayloadBytes = 0)

structure Inv (size : Nat) (accumulator : SnapshotAccumulator) : Prop extends Counts size accumulator where
  configured : Configured accumulator.snapshotStepWork accumulator.pplnsWindowWork accumulator.limits
  newWork_lt : accumulator.newWorkSinceSnapshot < accumulator.snapshotStepWork
  newWork_eq_zero : accumulator.closedSessions = [] → accumulator.newWorkSinceSnapshot = 0
  work_ne_zero : ∀ session ∈ accumulator.closedSessions, session.totalWork ≠ 0
  tight : Tight totalWork accumulator.pplnsWindowWork accumulator.closedSessions
  within_limits : ensureRetentionLimits accumulator.limits accumulator.closedSessions.length
    accumulator.retainedBucketCredits accumulator.retainedPayloadBytes = .ok ()

variable {previousSnapshotId : Hash256} {networkId : UInt8} {firstSequence : UInt64} {committee : Hash256}
  {step window : U512} {limits : SnapshotAccumulatorLimits}

theorem newWithLimits_eq_ok
    (h : newWithLimits networkId firstSequence previousSnapshotId step window committee limits = .ok self)
    : Configured step.toNat window.toNat limits
        ∧ self = ⟨networkId, firstSequence, previousSnapshotId, step.toNat, window.toNat, committee,
            [], 0, 0, 0, 0, limits⟩ := by
  unfold newWithLimits at h
  split at h
  . contradiction
  next hthreshold =>
    split at h
    . contradiction
    next hlimits =>
      injection h with h
      rw [not_or] at hthreshold
      exact ⟨⟨Nat.pos_of_ne_zero hthreshold.1, step.toNat_lt, Nat.pos_of_ne_zero hthreshold.2, window.toNat_lt,
        hlimits⟩, h.symm⟩

theorem inv_newWithLimits
    (h : newWithLimits networkId firstSequence previousSnapshotId step window committee limits = .ok self)
    : Inv size self := by
  obtain ⟨hconfigured, rfl⟩ := newWithLimits_eq_ok h
  constructor
  case configured => exact hconfigured
  case newWork_lt => exact hconfigured.step_pos
  case tight =>
    intro oldest newer hnil
    contradiction
  case toCounts => constructor <;> simp
  all_goals simp [ensureRetentionLimits]

theorem restoreSessions_eq (size : Nat) (base : SnapshotAccumulator) (sessions : List ClosedSessionCredits)
    (hwork : ∀ session ∈ sessions, session.totalWork ≠ 0)
    (hcredits : base.retainedBucketCredits + total creditCount sessions < 2 ^ 64)
    (hbytes : base.retainedPayloadBytes + total (payloadBytes size) sessions < 2 ^ 64)
    : restoreSessions size base sessions
        =
      .ok { base with
        retainedWork := base.retainedWork + work sessions
        retainedBucketCredits :=
          base.retainedBucketCredits + total creditCount sessions
        retainedPayloadBytes :=
          base.retainedPayloadBytes + total (payloadBytes size) sessions
        closedSessions := base.closedSessions ++ sessions } := by
  induction sessions generalizing base with
  | nil => simp [restoreSessions]
  | cons session sessions ih =>
    rw [total_cons] at hcredits hbytes
    have hcount : sessionBucketCreditCount session = .ok session.creditCount :=
      sessionBucketCreditCount_eq_ok.mpr ⟨rfl, by omega⟩
    have hcredits' : checkedAdd base.retainedBucketCredits session.creditCount
        = .ok (base.retainedBucketCredits + session.creditCount) :=
      checkedAdd_eq_ok.mpr ⟨rfl, by omega⟩
    have hpayload : sessionPayloadBytes size session = .ok (session.payloadBytes size) :=
      sessionPayloadBytes_eq_ok.mpr ⟨rfl, by omega, by omega⟩
    have hbytes' : checkedAdd base.retainedPayloadBytes (session.payloadBytes size)
        = .ok (base.retainedPayloadBytes + session.payloadBytes size) :=
      checkedAdd_eq_ok.mpr ⟨rfl, by omega⟩
    unfold restoreSessions
    rw [if_neg (hwork session (by simp))]
    simp only [hcount, hcredits', hpayload, hbytes', bind, Except.bind]
    rw [ih]
    . simp [work, Nat.add_assoc]
    . intro other hother
      exact hwork other (by simp [hother])
    . dsimp only
      omega
    . dsimp only
      omega

theorem pruneRetainedPrefix_eq_self (hwork : self.retainedWork = work self.closedSessions)
    (htight : Tight totalWork self.pplnsWindowWork self.closedSessions)
    : pruneRetainedPrefix size self = self := by
  unfold pruneRetainedPrefix
  cases hsessions : self.closedSessions with
  | nil => rfl
  | cons oldest newer =>
    have hlt := htight oldest newer hsessions
    unfold pruneRetainedPrefix.go
    rw [hwork, hsessions, if_pos]
    simpa [work] using hlt

def restart (size : Nat) (self : SnapshotAccumulator) : Except SettlementError SnapshotAccumulator := do
  let checkpoint ← self.checkpoint
  fromCheckpoint size checkpoint self.limits

theorem restart_eq (hinv : Inv size self) : self.restart size = .ok self := by
  obtain ⟨step, hstep, hstepNat⟩ := bigToU512_eq_ok hinv.configured.step_lt
  obtain ⟨window, hwindow, hwindowNat⟩ := bigToU512_eq_ok hinv.configured.window_lt
  obtain ⟨newWork, hnewWork, hnewWorkNat⟩ := bigToU512_eq_ok (Nat.lt_trans hinv.newWork_lt hinv.configured.step_lt)
  have hcheckpoint : self.checkpoint = .ok ⟨self.networkId, self.nextSequence, self.previousSnapshotId,
      step, window, self.settlementCommitteeId, self.closedSessions, newWork⟩ := by
    unfold checkpoint
    rw [if_neg (Nat.not_le.mpr hinv.newWork_lt)]
    simp only [hstep, hwindow, hnewWork, bind, Except.bind]
    rfl
  have hnew : newWithLimits self.networkId self.nextSequence self.previousSnapshotId step window
      self.settlementCommitteeId self.limits = .ok ⟨self.networkId, self.nextSequence,
        self.previousSnapshotId, self.snapshotStepWork, self.pplnsWindowWork,
        self.settlementCommitteeId, [], 0, 0, 0, 0, self.limits⟩ := by
    obtain ⟨hstepPos, -, hwindowPos, -, hlimits⟩ := hinv.configured
    unfold newWithLimits
    rw [if_neg (by omega), if_neg hlimits, hstepNat, hwindowNat]
  have hrestored := restoreSessions_eq size ⟨self.networkId, self.nextSequence,
    self.previousSnapshotId, self.snapshotStepWork, self.pplnsWindowWork,
    self.settlementCommitteeId, [], 0, 0, 0, 0, self.limits⟩ self.closedSessions hinv.work_ne_zero
    (by simpa [← hinv.credits_eq] using hinv.credits_lt)
    (by simpa [← hinv.payload_eq] using hinv.payload_lt)
  simp only [List.nil_append, Nat.zero_add, ← hinv.work_eq, ← hinv.credits_eq,
    ← hinv.payload_eq] at hrestored
  have hpruned : pruneRetainedPrefix size { self with newWorkSinceSnapshot := 0 }
      = { self with newWorkSinceSnapshot := 0 } :=
    pruneRetainedPrefix_eq_self hinv.work_eq hinv.tight
  have hvalid : ¬ (self.snapshotStepWork ≤ self.newWorkSinceSnapshot
      ∨ (self.closedSessions.isEmpty ∧ self.newWorkSinceSnapshot ≠ 0)) := by
    have hlt := hinv.newWork_lt
    have hzero := hinv.newWork_eq_zero
    rw [List.isEmpty_iff]
    rintro (hle | ⟨hnil, hne⟩)
    . omega
    . exact hne (hzero hnil)
  unfold restart
  rw [hcheckpoint]
  change fromCheckpoint size _ _ = _
  unfold fromCheckpoint restored
  simp only [hnew, hnewWorkNat, bind, Except.bind]
  rw [if_neg hvalid]
  simp only [hrestored]
  simp only [hpruned, hinv.within_limits]
  rfl

def kept (self : SnapshotAccumulator) (session : ClosedSessionCredits) : List ClosedSessionCredits :=
  let count := deadPrefix totalWork self.pplnsWindowWork self.closedSessions
    (work (self.closedSessions ++ [session]))
  self.closedSessions.drop count ++ [session]

def withKept (size : Nat) (self : SnapshotAccumulator) (session : ClosedSessionCredits)
    : SnapshotAccumulator :=
  { self with
    closedSessions := self.kept session
    retainedWork := work (self.kept session)
    retainedBucketCredits := total creditCount (self.kept session)
    retainedPayloadBytes := total (payloadBytes size) (self.kept session) }

theorem kept_suffix (self : SnapshotAccumulator) (session : ClosedSessionCredits)
    : ∃ dropped,
        self.closedSessions ++ [session] = dropped ++ self.kept session
          ∧ (dropped = [] ∨ self.pplnsWindowWork ≤ work (self.kept session)) := by
  unfold kept
  dsimp only
  generalize hcount : deadPrefix _ _ _ _ = count
  refine ⟨self.closedSessions.take count, ?_, ?_⟩
  . rw [← List.append_assoc, List.take_append_drop]
  . have hreach := deadPrefix_reaches totalWork self.pplnsWindowWork
      self.closedSessions [session]
    dsimp only at hreach
    rw [hcount] at hreach
    rcases hreach with hzero | hreach
    . left
      rw [hzero, List.take_zero]
    . right
      exact hreach

theorem simulates_history {dropped history : List ClosedSessionCredits}
    (hhistory : history = dropped ++ self.closedSessions)
    (hdropped : dropped = [] ∨ self.pplnsWindowWork ≤ work self.closedSessions) (session : ClosedSessionCredits)
    : ∃ dropped',
        history ++ [session] = dropped' ++ self.kept session
          ∧ (dropped' = [] ∨ self.pplnsWindowWork ≤ work (self.kept session)) := by
  obtain ⟨pruned, hsuffix, hpruned⟩ := kept_suffix self session
  refine ⟨dropped ++ pruned, ?_, ?_⟩
  . rw [hhistory, List.append_assoc, hsuffix, List.append_assoc]
  . rcases hpruned with rfl | hreach
    . rcases hdropped with rfl | hreach
      . left
        rfl
      . right
        rw [List.nil_append] at hsuffix
        rw [← hsuffix]
        unfold work at hreach ⊢
        rw [total_append]
        exact Nat.le_trans hreach (Nat.le_add_right _ _)
    . right
      exact hreach

theorem Inv.withKept {nextSequence : UInt64} {newWork : Nat} (hinv : Inv size self) (hwork : session.totalWork ≠ 0)
    (hcredits : total creditCount (self.closedSessions ++ [session]) < 2 ^ 64)
    (hbytes : total (payloadBytes size) (self.closedSessions ++ [session]) < 2 ^ 64)
    (hlimits : ensureRetentionLimits self.limits (self.kept session).length
      (total creditCount (self.kept session))
      (total (payloadBytes size) (self.kept session)) = .ok ())
    (hnewWork : newWork < self.snapshotStepWork)
    : Inv size { self.withKept size session with
        previousSnapshotId
        nextSequence
        newWorkSinceSnapshot := newWork } := by
  obtain ⟨dropped, hsuffix, -⟩ := kept_suffix self session
  rw [hsuffix, total_append] at hcredits hbytes
  constructor
  case configured => exact hinv.configured
  case newWork_lt => exact hnewWork
  case newWork_eq_zero =>
    intro hnil
    simp [SnapshotAccumulator.withKept, kept] at hnil
  case work_ne_zero =>
    intro other hother
    have hmem : other ∈ self.closedSessions ++ [session] := by
      rw [hsuffix]
      exact List.mem_append_right dropped hother
    rcases List.mem_append.mp hmem with hold | hnew
    . exact hinv.work_ne_zero other hold
    . rw [List.mem_singleton] at hnew
      rwa [hnew]
  case toCounts =>
    exact ⟨rfl, rfl, rfl, Nat.lt_of_le_of_lt (Nat.le_add_left _ _) hcredits,
      Nat.lt_of_le_of_lt (Nat.le_add_left _ _) hbytes⟩
  case tight => exact tight_drop_deadPrefix self.closedSessions [session] (by simp) hinv.configured.window_pos
  case within_limits => exact hlimits

variable [P : Primitives] {self' : SnapshotAccumulator} {signerSet : SignatureSet} {snapshot : Option PayoutSnapshotV2}

theorem addClosedSession_eq_ok (hinv : Inv size self)
    (h : addClosedSession size self session signerSet = .ok (snapshot, self'))
    : session.totalWork ≠ 0
        ∧ total creditCount (self.closedSessions ++ [session]) < 2 ^ 64
        ∧ total (payloadBytes size) (self.closedSessions ++ [session]) < 2 ^ 64
        ∧ ensureRetentionLimits self.limits (self.kept session).length
            (total creditCount (self.kept session))
            (total (payloadBytes size) (self.kept session)) = .ok ()
        ∧ ((self.newWorkSinceSnapshot + session.totalWork < self.snapshotStepWork
              ∧ snapshot = none
              ∧ self' = { self.withKept size session with
                  newWorkSinceSnapshot := self.newWorkSinceSnapshot + session.totalWork })
            ∨ (¬ self.newWorkSinceSnapshot + session.totalWork < self.snapshotStepWork
              ∧ ∃ closed,
                  buildSnapshot self.context self.closedSessions session signerSet = .ok closed
                    ∧ snapshot = some closed
                    ∧ self' = { self.withKept size session with
                        previousSnapshotId := objectId closed
                        nextSequence := self.nextSequence + 1
                        newWorkSinceSnapshot := 0 })) := by
  unfold addClosedSession at h
  dsimp only at h
  split at h
  . contradiction
  next hwork =>
    obtain ⟨projection, hprojection, h⟩ := bind_eq_ok h
    obtain ⟨hprojection, hcredits, hbytes⟩ := retentionProjection_eq hinv.toCounts hprojection
    obtain ⟨⟨⟩, hlimits, h⟩ := bind_eq_ok h
    have hle := deadPrefix_le_length totalWork self.pplnsWindowWork
      self.closedSessions (work (self.closedSessions ++ [session]))
    have hdrop : (self.closedSessions ++ [session]).drop projection.pruneCount = self.kept session := by
      rw [hprojection]
      exact List.drop_append_of_le_length hle
    rw [hdrop] at h
    rw [hprojection] at h hlimits
    refine ⟨hwork, hcredits, hbytes, hlimits, ?_⟩
    split at h
    next hlt =>
      left
      injection h with h
      injection h with hnone hself
      exact ⟨hlt, hnone.symm, hself.symm⟩
    next hge =>
      right
      obtain ⟨closed, hclosed, h⟩ := bind_eq_ok h
      injection h with h
      injection h with hsome hself
      exact ⟨hge, closed, hclosed, hsome.symm, hself.symm⟩

theorem Inv.addClosedSession (hinv : Inv size self)
    (h : addClosedSession size self session signerSet = .ok (snapshot, self'))
    : Inv size self' := by
  obtain ⟨hwork, hcredits, hbytes, hlimits, hcases⟩ := addClosedSession_eq_ok hinv h
  rcases hcases with ⟨hlt, -, rfl⟩ | ⟨-, closed, -, -, rfl⟩
  . exact hinv.withKept hwork hcredits hbytes hlimits hlt
  . exact hinv.withKept hwork hcredits hbytes hlimits hinv.configured.step_pos

theorem buildSnapshot_append (context : SnapshotContext) (dropped retained : List ClosedSessionCredits)
    (session : ClosedSessionCredits) (signerSet : SignatureSet)
    (h : dropped = [] ∨ context.pplnsWindowWork ≤ work retained)
    : buildSnapshot context (dropped ++ retained) session signerSet
        =
      buildSnapshot context retained session signerSet := by
  rcases h with rfl | hreach
  . rfl
  . unfold buildSnapshot
    rw [List.append_assoc, select_append]
    . simp
    . rw [total_append]
      exact Nat.le_trans hreach (Nat.le_add_right _ _)

/-- The reference remembers what the accumulator dropped, and no window reaches into that part. -/
structure Simulates (accumulator : SnapshotAccumulator) (reference : ReferenceAccumulator) : Prop where
  context_eq : reference.context = accumulator.context
  step_eq : reference.snapshotStepWork = accumulator.snapshotStepWork
  newWork_eq : reference.newWorkSinceSnapshot = accumulator.newWorkSinceSnapshot
  history_eq : ∃ dropped,
    reference.history = dropped ++ accumulator.closedSessions
      ∧ (dropped = [] ∨ accumulator.pplnsWindowWork ≤ work accumulator.closedSessions)

variable {reference : ReferenceAccumulator}

theorem Simulates.addClosedSession (hinv : Inv size self) (hsim : Simulates self reference)
    (h : addClosedSession size self session signerSet = .ok (snapshot, self'))
    : ∃ reference',
        reference.addClosedSession session signerSet = .ok (snapshot, reference')
          ∧ Simulates self' reference' := by
  obtain ⟨hwork, -, -, -, hcases⟩ := addClosedSession_eq_ok hinv h
  obtain ⟨dropped, hhistory, hdropped⟩ := hsim.history_eq
  have hhistory' := simulates_history hhistory hdropped session
  have hcontext := hsim.context_eq
  unfold ReferenceAccumulator.addClosedSession
  rw [if_neg hwork, hsim.newWork_eq, hsim.step_eq]
  rcases hcases with ⟨hlt, rfl, rfl⟩ | ⟨hge, closed, hclosed, rfl, rfl⟩
  . rw [if_pos hlt]
    exact ⟨_, rfl, hcontext, rfl, rfl, hhistory'⟩
  . have hbuild : buildSnapshot reference.context reference.history session signerSet = .ok closed := by
      rw [hcontext, hhistory, buildSnapshot_append _ _ _ _ _ hdropped, hclosed]
    rw [if_neg hge, hbuild]
    refine ⟨_, rfl, ?_, rfl, rfl, hhistory'⟩
    simp only [ReferenceAccumulator.context, SnapshotAccumulator.context,
      SnapshotContext.mk.injEq] at hcontext ⊢
    obtain ⟨hnetwork, hsequence, -, hwindow, hcommittee⟩ := hcontext
    exact ⟨hnetwork, by rw [hsequence], trivial, hwindow, hcommittee⟩

inductive Event where
  | addClosedSession (session : ClosedSessionCredits) (signerSet : SignatureSet)
  | restart

/-- What the callers of one accumulator saw: the sessions it accepted, what it returned for each of them, and the
errors of restarts that did not come back. -/
structure Observed where
  accepted : List (ClosedSessionCredits × SignatureSet)
  snapshots : List (Option PayoutSnapshotV2)
  failedRestarts : List SettlementError

def run (size : Nat) (self : SnapshotAccumulator) : List Event → Observed
  | [] => ⟨[], [], []⟩
  | .addClosedSession session signerSet :: events =>
    match addClosedSession size self session signerSet with
    | .error _ => run size self events
    | .ok (snapshot, self) =>
      let observed := run size self events
      { observed with
        accepted := (session, signerSet) :: observed.accepted
        snapshots := snapshot :: observed.snapshots }
  | .restart :: events =>
    match self.restart size with
    | .error error => ⟨[], [], [error]⟩
    | .ok self => run size self events

theorem run_eq_feed (hinv : Inv size self) (hsim : Simulates self reference) (events : List Event)
    : (run size self events).failedRestarts = []
        ∧ reference.feed (run size self events).accepted = .ok (run size self events).snapshots := by
  induction events generalizing self reference with
  | nil => exact ⟨rfl, rfl⟩
  | cons event events ih =>
    cases event with
    | addClosedSession session signerSet =>
      unfold run
      cases h : addClosedSession size self session signerSet with
      | error error => exact ih hinv hsim
      | ok result =>
        obtain ⟨snapshot, self'⟩ := result
        obtain ⟨reference', hreference, hsim'⟩ := hsim.addClosedSession hinv h
        obtain ⟨hrestarts, hfeed⟩ := ih (hinv.addClosedSession h) hsim'
        refine ⟨hrestarts, ?_⟩
        dsimp only
        unfold ReferenceAccumulator.feed
        simp only [hreference, bind, Except.bind]
        rw [hfeed]
        rfl
    | restart =>
      unfold run
      rw [restart_eq hinv]
      exact ih hinv hsim

theorem run_refines_reference (size : Nat) (networkId : UInt8) (firstSequence : UInt64)
    (previousSnapshotId : Hash256) (snapshotStepWork pplnsWindowWork : U512)
    (settlementCommitteeId : Hash256) (limits : SnapshotAccumulatorLimits)
    (accumulator : SnapshotAccumulator)
    (h : newWithLimits networkId firstSequence previousSnapshotId snapshotStepWork pplnsWindowWork
      settlementCommitteeId limits = .ok accumulator)
    (events : List Event)
    : let observed := run size accumulator events
      let reference := ReferenceAccumulator.new networkId firstSequence previousSnapshotId
        snapshotStepWork pplnsWindowWork settlementCommitteeId
      observed.failedRestarts = []
        ∧ reference.feed observed.accepted = .ok observed.snapshots := by
  apply run_eq_feed (inv_newWithLimits h)
  obtain ⟨-, rfl⟩ := newWithLimits_eq_ok h
  exact ⟨rfl, rfl, rfl, [], rfl, .inl rfl⟩

end

/-- Sessions of work `2` under a window of `3`: the third one makes the first unreachable. -/
def sampleSession (id : UInt8) : ClosedSessionCredits where
  sessionCloseId := .fill 32 id
  closeAnchorHeight := 7
  work := [⟨⟨2, 0, .zero 32, 1, 0, List.replicate 20 9, 0, none, []⟩,
    ⟨List.replicate 63 0 ++ [2], by simp⟩⟩]
  service := []

def sampleEvents : List Event :=
  [.addClosedSession (sampleSession 1) .emptyEd25519,
   .restart,
   .addClosedSession (sampleSession 2) .emptyEd25519,
   .addClosedSession (sampleSession 3) .emptyEd25519,
   .restart,
   .addClosedSession (sampleSession 4) .emptyEd25519]

def sampleWord (byte : UInt8) : U512 :=
  ⟨List.replicate 63 0 ++ [byte], by simp⟩

def sampleStart : SnapshotAccumulator :=
  ⟨0, 1, .zero 32, 2, 3, .zero 32, [], 0, 0, 0, 0, .default⟩

theorem newWithLimits_sampleStart
    : newWithLimits 0 1 (.zero 32) (sampleWord 2) (sampleWord 3) (.zero 32) .default = .ok sampleStart := by
  decide +kernel

theorem run_refines_reference_sampleEvents
    : ∃ accumulator,
        newWithLimits 0 1 (.zero 32) (sampleWord 2) (sampleWord 3) (.zero 32) ⟨8, 8, 4096⟩
            = .ok accumulator
          ∧ (run 200 accumulator sampleEvents (P := .fold)).accepted.length = 4
          ∧ (ReferenceAccumulator.new 0 1 (.zero 32) (sampleWord 2) (sampleWord 3) (.zero 32)).feed
                (run 200 accumulator sampleEvents (P := .fold)).accepted (P := .fold)
              =
            .ok (run 200 accumulator sampleEvents (P := .fold)).snapshots := by
  refine ⟨⟨0, 1, .zero 32, 2, 3, .zero 32, [], 0, 0, 0, 0, ⟨8, 8, 4096⟩⟩, ?_, ?_, ?_⟩
  . decide +kernel
  . decide +kernel
  . apply (run_refines_reference 200 0 1 (.zero 32) (sampleWord 2) (sampleWord 3) (.zero 32)
      ⟨8, 8, 4096⟩ _ _ sampleEvents (P := .fold)).2
    decide +kernel

end SnapshotAccumulator

end MeshMine.Settlement
