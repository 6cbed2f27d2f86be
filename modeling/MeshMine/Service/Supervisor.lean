import Mathlib.Data.List.Infix
import Mathlib.Data.UInt

/-!
The supervisor of an operator's service (`meshmine-service/src/supervisor.rs`): samples of the service's health move it
between its modes.
-/

namespace MeshMine.Service

inductive ServiceMode where
  | bootstrapping
  | mining
  | degraded
  | fallback
  | draining
  | stopped
deriving DecidableEq

inductive HealthReason where
  | none
  | noCurrentJob
  | jobNotStarted
  | jobExpired
  | captureBacklog
  | gatewayUnavailable
  | receiptStoreUnavailable
  | credentialUnavailable
  | coreLinkUnavailable
  | assignmentDrainPending
  | authorizationFailureLimit
  | operatorShutdown
deriving DecidableEq

inductive SupervisorError where
  | invalidPolicy

structure SupervisorPolicy where
  unhealthySamplesBeforeFallback : UInt32
  healthySamplesBeforeRestore : UInt32
  minimumFallbackHoldMs : UInt64
  captureBacklogSoftLimit : Nat
  captureBacklogHardLimit : Nat

def SupervisorPolicy.default : SupervisorPolicy :=
  ⟨3, 5, 15000, 10000, 90000⟩

variable (policy : SupervisorPolicy)

def SupervisorPolicy.validate : Except SupervisorError SupervisorPolicy :=
  if policy.unhealthySamplesBeforeFallback = 0 ∨ policy.healthySamplesBeforeRestore = 0
      ∨ policy.captureBacklogSoftLimit = 0 ∨ policy.captureBacklogHardLimit ≤ policy.captureBacklogSoftLimit then
    .error .invalidPolicy
  else
    .ok policy

structure HealthSample where
  nowMs : UInt64
  gatewayAvailable : Bool
  receiptStoreAvailable : Bool
  credentialsAvailable : Bool
  coreLinkAvailable : Bool
  drainPending : Bool
  authorizationFailureLimit : Bool
  currentJobId : Option String
  jobIssuedMs : Option UInt64
  assignmentEndMs : Option UInt64
  pendingCaptures : Nat
  shutdownRequested : Bool

def criticalReason (sample : HealthSample) (policy : SupervisorPolicy) : HealthReason :=
  if sample.authorizationFailureLimit then .authorizationFailureLimit
  else if ¬ sample.gatewayAvailable then .gatewayUnavailable
  else if ¬ sample.receiptStoreAvailable then .receiptStoreUnavailable
  else if ¬ sample.credentialsAvailable then .credentialUnavailable
  else if ¬ sample.coreLinkAvailable then .coreLinkUnavailable
  else if policy.captureBacklogHardLimit ≤ sample.pendingCaptures then .captureBacklog
  else match sample.currentJobId, sample.jobIssuedMs, sample.assignmentEndMs with
  | some _, some issuedMs, some assignmentEndMs =>
    if sample.nowMs < issuedMs then .jobNotStarted
    else if assignmentEndMs < sample.nowMs then .jobExpired
    else .none
  | _, _, _ => .noCurrentJob

structure ModeTransition where
  source : ServiceMode
  target : ServiceMode
  reason : HealthReason
  sequence : Nat
  changedAtMs : UInt64

structure Supervisor where
  policy : SupervisorPolicy
  mode : ServiceMode
  reason : HealthReason
  transitionSequence : Nat
  changedAtMs : UInt64
  sampledAtMs : UInt64
  consecutiveHealthy : Nat
  consecutiveUnhealthy : Nat
  currentJobId : Option String
  pendingCaptures : Nat

namespace Supervisor

def new (nowMs : UInt64) : Except SupervisorError Supervisor := do
  let policy ← policy.validate
  return {
    policy
    mode := .bootstrapping
    reason := .noCurrentJob
    transitionSequence := 0
    changedAtMs := nowMs
    sampledAtMs := nowMs
    consecutiveHealthy := 0
    consecutiveUnhealthy := 0
    currentJobId := none
    pendingCaptures := 0 }

variable (s : Supervisor)

def transition (mode : ServiceMode) (reason : HealthReason) (nowMs : UInt64)
    : Supervisor × Option ModeTransition :=
  if s.mode = mode ∧ s.reason = reason then
    (s, none)
  else
    let sequence := min (s.transitionSequence + 1) (2 ^ 64 - 1)
    ({ s with mode, reason, changedAtMs := nowMs, transitionSequence := sequence },
      some ⟨s.mode, mode, reason, sequence, nowMs⟩)

def beginDraining (nowMs : UInt64) : Supervisor × Option ModeTransition :=
  s.transition .draining .operatorShutdown nowMs

def stop (nowMs : UInt64) : Supervisor × Option ModeTransition :=
  s.transition .stopped .operatorShutdown nowMs

def count (healthy : Prop) [Decidable healthy] : Supervisor :=
  if healthy then
    { s with consecutiveHealthy := min (s.consecutiveHealthy + 1) (2 ^ 32 - 1), consecutiveUnhealthy := 0 }
  else
    { s with consecutiveHealthy := 0, consecutiveUnhealthy := min (s.consecutiveUnhealthy + 1) (2 ^ 32 - 1) }

/-- The end of `sample`: the counters include the sample, which is healthy if it has no critical reason. -/
def judge (critical : HealthReason) (nowMs : UInt64) : Supervisor × Option ModeTransition :=
  let healthy := critical = .none
  let restored := healthy ∧ s.policy.healthySamplesBeforeRestore.toNat ≤ s.consecutiveHealthy
  let failed := ¬ healthy ∧ s.policy.unhealthySamplesBeforeFallback.toNat ≤ s.consecutiveUnhealthy
  match s.mode with
  | .bootstrapping =>
    if healthy then s.transition .mining .none nowMs
    else if failed then s.transition .fallback critical nowMs
    else ({ s with reason := critical }, none)
  | .mining | .degraded =>
    if failed then s.transition .fallback critical nowMs
    else if healthy ∧ s.policy.captureBacklogSoftLimit ≤ s.pendingCaptures then
      s.transition .degraded .captureBacklog nowMs
    else if healthy ∧ s.mode = .degraded then s.transition .mining .none nowMs
    else ({ s with reason := critical }, none)
  | .fallback =>
    if restored ∧ s.policy.minimumFallbackHoldMs.toNat ≤ nowMs.toNat - s.changedAtMs.toNat then
      s.transition .mining .none nowMs
    else if healthy then (s, none)
    else ({ s with reason := critical }, none)
  | .draining =>
    if restored then s.transition .mining .none nowMs
    else if failed then s.transition .fallback critical nowMs
    else ({ s with reason := critical }, none)
  | .stopped => (s, none)

def observe (sample : HealthSample) : Supervisor :=
  { s with
    sampledAtMs := sample.nowMs
    currentJobId := sample.currentJobId
    pendingCaptures := sample.pendingCaptures }

def sample (s : Supervisor) (sample : HealthSample) : Supervisor × Option ModeTransition :=
  let s := s.observe sample
  if sample.shutdownRequested then
    s.beginDraining sample.nowMs
  else if s.mode = .stopped then
    (s, none)
  else if sample.drainPending then
    s.transition .draining .assignmentDrainPending sample.nowMs
  else if s.mode = .draining ∧ s.reason = .operatorShutdown then
    (s, none)
  else
    let critical := criticalReason sample s.policy
    (s.count (critical = .none)).judge critical sample.nowMs

end Supervisor

/-!
### Shutting down
-/

inductive Call where
  | sample (health : HealthSample)
  | beginDraining (nowMs : UInt64)
  | stop (nowMs : UInt64)

def Call.RequestsShutdown : Call → Prop
  | .sample health => health.shutdownRequested
  | .beginDraining _ => True
  | .stop _ => False

def Call.RequestsDrain : Call → Prop
  | .sample health => health.drainPending ∧ ¬ health.shutdownRequested
  | _ => False

namespace Supervisor

def serve (s : Supervisor) : Call → Supervisor
  | .sample health => (s.sample health).1
  | .beginDraining nowMs => (s.beginDraining nowMs).1
  | .stop nowMs => (s.stop nowMs).1

def run (s : Supervisor) (calls : List Call) : Supervisor :=
  calls.foldl serve s

def ShuttingDown (s : Supervisor) : Prop :=
  s.mode = .stopped ∨ s.mode = .draining ∧ s.reason = .operatorShutdown

variable {s : Supervisor}

theorem transition_spec (s : Supervisor) (mode : ServiceMode) (reason : HealthReason) (nowMs : UInt64)
    : (s.transition mode reason nowMs).1.mode = mode ∧ (s.transition mode reason nowMs).1.reason = reason := by
  unfold transition
  split
  . assumption
  . exact ⟨rfl, rfl⟩

theorem serve_stopped {call : Call} (hs : s.mode = .stopped) (hcall : ¬ call.RequestsShutdown)
    : (s.serve call).mode = .stopped := by
  cases call with
  | sample health =>
    unfold serve Supervisor.sample
    dsimp only
    rw [if_neg (by exact hcall), if_pos (by exact hs)]
    exact hs
  | beginDraining nowMs => exact absurd trivial hcall
  | stop nowMs => exact (transition_spec ..).1

theorem ShuttingDown.serve {call : Call} (hs : s.ShuttingDown) (hcall : ¬ call.RequestsDrain)
    : (s.serve call).ShuttingDown := by
  cases call with
  | sample health =>
    unfold Supervisor.serve Supervisor.sample
    dsimp only
    split
    . exact .inr (transition_spec ..)
    next hshutdown =>
      split
      . exact hs
      next hrunning =>
        rw [if_neg fun hdrain => hcall ⟨hdrain, hshutdown⟩, if_pos (by exact hs.resolve_left hrunning)]
        exact hs
  | beginDraining nowMs => exact .inr (transition_spec ..)
  | stop nowMs => exact .inl (transition_spec ..).1

theorem ShuttingDown.mode_ne (hs : s.ShuttingDown) : s.mode ≠ .mining ∧ s.mode ≠ .fallback := by
  rcases hs with h | ⟨h, _⟩ <;> simp [h]

theorem run_stays_down (s : Supervisor) (calls : List Call)
    : (s.mode = .stopped → (∀ call ∈ calls, ¬ call.RequestsShutdown) → (s.run calls).mode = .stopped)
      ∧ (s.mode = .draining → s.reason = .operatorShutdown → (∀ call ∈ calls, ¬ call.RequestsDrain)
        → (s.run calls).mode ≠ .mining ∧ (s.run calls).mode ≠ .fallback) := by
  constructor
  . intro hs hcalls
    exact List.foldlRecOn (motive := fun s => s.mode = .stopped) calls serve hs fun s hs call hmem =>
      serve_stopped hs (hcalls call hmem)
  . intro hmode hreason hcalls
    have hdown : (s.run calls).ShuttingDown :=
      List.foldlRecOn calls serve (.inr ⟨hmode, hreason⟩) fun s hs call hmem => hs.serve (hcalls call hmem)
    exact hdown.mode_ne

end Supervisor

def sampleHealth (nowMs : UInt64) : HealthSample where
  nowMs
  gatewayAvailable := true
  receiptStoreAvailable := true
  credentialsAvailable := true
  coreLinkAvailable := true
  drainPending := false
  authorizationFailureLimit := false
  currentJobId := some "job"
  jobIssuedMs := some 0
  assignmentEndMs := some 60000
  pendingCaptures := 0
  shutdownRequested := false

def sampleSupervisor : Supervisor :=
  (Supervisor.new .default 0).toOption.get rfl

def healthySamples : List Call :=
  [1, 2, 3, 4, 5].map fun nowMs => .sample (sampleHealth nowMs)

theorem run_stays_down_sample
    : ((sampleSupervisor.run [.stop 0]).run healthySamples).mode = .stopped
      ∧ ((sampleSupervisor.run [.beginDraining 0]).run healthySamples).mode ≠ .mining := by
  have hcalls : ∀ call ∈ healthySamples, ¬ call.RequestsShutdown ∧ ¬ call.RequestsDrain := by
    simp [healthySamples, sampleHealth, Call.RequestsShutdown, Call.RequestsDrain]
  obtain ⟨hstopped, _⟩ := Supervisor.run_stays_down (sampleSupervisor.run [.stop 0]) healthySamples
  obtain ⟨_, hdraining⟩ := Supervisor.run_stays_down (sampleSupervisor.run [.beginDraining 0]) healthySamples
  exact ⟨hstopped rfl fun call hmem => (hcalls call hmem).1,
    (hdraining rfl rfl fun call hmem => (hcalls call hmem).2).1⟩

/-- Another request to shut down revives a stopped supervisor, and a pending drain takes the place of the shutdown. -/
theorem run_revives
    : (sampleSupervisor.run [.stop 0]).mode = .stopped
      ∧ (sampleSupervisor.run [.stop 0, .sample { sampleHealth 1 with shutdownRequested := true }]).mode = .draining
      ∧ (sampleSupervisor.run [.beginDraining 0]).reason = .operatorShutdown
      ∧ (sampleSupervisor.run ([.beginDraining 0, .sample { sampleHealth 0 with drainPending := true }]
        ++ healthySamples)).mode = .mining := by
  decide

/-!
### Holding the fallback
-/

namespace Supervisor

def samples (s : Supervisor) (healths : List HealthSample) : Supervisor :=
  healths.foldl (fun s health => (s.sample health).1) s

theorem samples_concat (s : Supervisor) (healths : List HealthSample) (health : HealthSample)
    : s.samples (healths ++ [health]) = ((s.samples healths).sample health).1 := by
  unfold samples
  rw [List.foldl_append, List.foldl_cons, List.foldl_nil]

variable {s : Supervisor} {health : HealthSample}

theorem count_mode (s : Supervisor) (healthy : Prop) [Decidable healthy] : (s.count healthy).mode = s.mode := by
  unfold count
  split <;> rfl

theorem judge_fallback {critical : HealthReason} {nowMs : UInt64} (hmode : s.mode ≠ .fallback)
    (h : (s.judge critical nowMs).1.mode = .fallback)
    : critical ≠ .none ∧ s.judge critical nowMs = s.transition .fallback critical nowMs := by
  unfold judge at h ⊢
  cases hm : s.mode with
  | fallback => contradiction
  | stopped => simp_all
  | _ =>
    simp only [hm] at h ⊢
    split_ifs at h ⊢ <;> simp_all [transition_spec]

theorem sample_fallback (hmode : s.mode ≠ .fallback) (h : (s.sample health).1.mode = .fallback)
    : (s.sample health).1.policy = s.policy ∧ (s.sample health).1.changedAtMs = health.nowMs
      ∧ (s.sample health).1.consecutiveHealthy = 0 := by
  unfold sample at h ⊢
  dsimp only at h ⊢
  split_ifs at h ⊢
  . simp [beginDraining, transition_spec] at h
  . exact absurd h hmode
  . simp [transition_spec] at h
  . exact absurd h hmode
  . have hcounted := (count_mode (s.observe health)
      (criticalReason health (s.observe health).policy = .none)).trans_ne hmode
    obtain ⟨hcritical, heq⟩ := judge_fallback hcounted h
    rw [heq]
    unfold transition
    rw [if_neg fun hsame => hcounted hsame.1]
    unfold count
    rw [if_neg hcritical]
    exact ⟨rfl, rfl, rfl⟩

def HealthyFor (n : Nat) (healths : List HealthSample) : Prop :=
  ∃ recent, recent <:+ healths ∧ n ≤ recent.length ∧ ∀ health ∈ recent, criticalReason health policy = .none

/-- The state after the samples `healths`, which are those since the service fell back. -/
structure Held (policy : SupervisorPolicy) (sinceMs : UInt64) (healths : List HealthSample) (s : Supervisor)
    : Prop where
  policy_eq : s.policy = policy
  mode : s.mode = .fallback
  changedAtMs : s.changedAtMs = sinceMs
  healthy : HealthyFor policy s.consecutiveHealthy healths

theorem Held.sample {policy : SupervisorPolicy} {sinceMs : UInt64} {healths : List HealthSample}
    (h : Held policy sinceMs healths s) (hdrain : ¬ (Call.sample health).RequestsDrain)
    : Held policy sinceMs (healths ++ [health]) (s.sample health).1
      ∨ (s.sample health).1.ShuttingDown
      ∨ (s.sample health).1.mode = .mining
        ∧ policy.minimumFallbackHoldMs.toNat ≤ health.nowMs.toNat - sinceMs.toNat
        ∧ HealthyFor policy policy.healthySamplesBeforeRestore.toNat (healths ++ [health]) := by
  obtain ⟨recent, hrecent, hlength, hhealthy⟩ := h.healthy
  have hmode : (s.observe health).mode = .fallback := h.mode
  have hpolicy : (s.observe health).policy = policy := h.policy_eq
  unfold Supervisor.sample
  dsimp only
  by_cases hshutdown : health.shutdownRequested
  . rw [if_pos hshutdown]
    exact .inr (.inl (.inr (transition_spec ..)))
  rw [if_neg hshutdown, if_neg (by simp [hmode]), if_neg fun h => hdrain ⟨h, hshutdown⟩, if_neg (by simp [hmode]),
    hpolicy]
  by_cases hcritical : criticalReason health policy = .none
  . have hcount : HealthyFor policy (min (s.consecutiveHealthy + 1) (2 ^ 32 - 1)) (healths ++ [health]) := by
      refine ⟨recent ++ [health], List.suffix_append_self_iff.mpr hrecent, ?_, ?_⟩
      . rw [List.length_append, List.length_singleton]
        omega
      . rw [List.forall_mem_append, List.forall_mem_singleton]
        exact ⟨hhealthy, hcritical⟩
    unfold count judge
    simp only [if_pos hcritical, hmode, hpolicy]
    split_ifs with hreleased
    . obtain ⟨⟨_, hrestored⟩, hheld⟩ := hreleased
      obtain ⟨recent', hsuffix, hlength', hhealthy'⟩ := hcount
      exact .inr (.inr ⟨(transition_spec ..).1, h.changedAtMs ▸ hheld, recent', hsuffix, hrestored.trans hlength',
        hhealthy'⟩)
    . exact .inl ⟨rfl, rfl, h.changedAtMs, hcount⟩
  . unfold count judge
    simp only [hmode, hcritical, false_and, if_false]
    exact .inl ⟨hpolicy, rfl, h.changedAtMs, [], List.nil_suffix, le_rfl, by simp⟩

theorem fallback_held {first last : HealthSample} {healths : List HealthSample} (hmode : s.mode ≠ .fallback)
    (hfallback : (s.sample first).1.mode = .fallback)
    (htimes : (first :: healths ++ [last]).Pairwise fun a b => a.nowMs ≤ b.nowMs)
    (hundrained : ∀ health ∈ healths ++ [last], ¬ (Call.sample health).RequestsDrain)
    (hearlier : ∀ earlier, earlier <+: healths → ((s.sample first).1.samples earlier).mode ≠ .mining)
    (hmining : ((s.sample first).1.samples (healths ++ [last])).mode = .mining)
    : first.nowMs.toNat + s.policy.minimumFallbackHoldMs.toNat ≤ last.nowMs.toNat
      ∧ HealthyFor s.policy s.policy.healthySamplesBeforeRestore.toNat (healths ++ [last]) := by
  have hheld : ∀ earlier, earlier <+: healths
      → Held s.policy first.nowMs earlier ((s.sample first).1.samples earlier)
        ∨ ((s.sample first).1.samples earlier).ShuttingDown := by
    intro earlier
    induction earlier using List.reverseRecOn with
    | nil =>
      intro _
      obtain ⟨hpolicy, hchanged, hcount⟩ := sample_fallback hmode hfallback
      exact .inl ⟨hpolicy, hfallback, hchanged, [], List.nil_suffix, hcount.le, by simp⟩
    | append_singleton earlier health ih =>
      intro hbegins
      have hdrain := hundrained health (List.mem_append_left _ (hbegins.subset (by simp)))
      have hnot := hearlier _ hbegins
      rw [samples_concat] at hnot ⊢
      rcases ih ((List.prefix_append _ _).trans hbegins) with hheld | hdown
      . rcases hheld.sample hdrain with hheld | hdown | ⟨hmining, _⟩
        . exact .inl hheld
        . exact .inr hdown
        . contradiction
      . exact .inr (hdown.serve hdrain)
  have hmem : last ∈ healths ++ [last] := by simp
  have hdrain := hundrained last hmem
  rw [samples_concat] at hmining
  rcases hheld healths List.prefix_rfl with hheld | hdown
  . rcases hheld.sample hdrain with hheld | hdown | ⟨_, hhold, hhealthy⟩
    . rw [hheld.mode] at hmining
      contradiction
    . exact absurd hmining hdown.mode_ne.1
    . have hle : first.nowMs.toNat ≤ last.nowMs.toNat := List.rel_of_pairwise_cons htimes hmem
      exact ⟨by omega, hhealthy⟩
  . exact absurd hmining (hdown.serve hdrain).mode_ne.1

end Supervisor

def sampleOutage (nowMs : UInt64) : HealthSample :=
  { sampleHealth nowMs with gatewayAvailable := false }

def samplePolicy : SupervisorPolicy :=
  { SupervisorPolicy.default with unhealthySamplesBeforeFallback := 1, healthySamplesBeforeRestore := 1 }

def sampleStarted : Supervisor :=
  (Supervisor.new samplePolicy 0).toOption.get rfl

theorem fallback_held_sample
    : ((sampleStarted.sample (sampleOutage 1)).1.samples [sampleHealth 2, sampleHealth 15001]).mode = .mining
      ∧ 1 + samplePolicy.minimumFallbackHoldMs.toNat ≤ 15001 := by
  have hearlier : ∀ earlier, earlier <+: [sampleHealth 2]
      → ((sampleStarted.sample (sampleOutage 1)).1.samples earlier).mode ≠ .mining := by
    intro earlier hbegins
    rcases List.prefix_cons_iff.mp hbegins with rfl | ⟨rest, rfl, hrest⟩
    . decide
    . rw [List.prefix_nil.mp hrest]
      decide
  have hmining : ((sampleStarted.sample (sampleOutage 1)).1.samples ([sampleHealth 2] ++ [sampleHealth 15001])).mode
      = .mining := by
    decide
  refine ⟨hmining, ?_⟩
  exact (Supervisor.fallback_held (s := sampleStarted) (by decide) (by decide) (by decide)
    (by simp [Call.RequestsDrain, sampleHealth]) hearlier hmining).1

/-- A drain that is pending for one sample ends the fallback at once. -/
theorem fallback_not_held
    : (sampleStarted.sample (sampleOutage 1)).1.mode = .fallback
      ∧ ((sampleStarted.sample (sampleOutage 1)).1.samples
        [{ sampleHealth 2 with drainPending := true }, sampleHealth 3]).mode = .mining
      ∧ 3 < 1 + samplePolicy.minimumFallbackHoldMs.toNat := by
  decide

end MeshMine.Service
