import MeshMine.CoreLink.OperatorSteps

/-!
Runs of one operator: a gateway and its link to Core over one durable store. The calls come in any order,
each runs to its end or dies between two store calls, and a restart reopens the gateway from the store.

Core's answers and the miners' submissions are arguments of the calls, hence arbitrary. A call runs
undisturbed: the next one starts when it has ended.
-/

namespace MeshMine.CoreLink

open MeshMine.Types Codec Gateway Storage

inductive OperatorCall where
  | openGateway (enforceHandyTarget : Bool)
  | issueJob (job : GatewayJob) (transition : Option PreviousJobTransition)
  | issueAuthorizedJob (request : AuthorizedGatewayJobRequest)
  | cancelJob (jobId : Text) (creditCutoffMs submissionEndMs : UInt64)
  | closeExpired (nowMs : UInt64)
  | submit (noncePrefix : ByteVec 4) (telemetryLevel : TelemetryLevel) (submission : HandySubmission)
      (receivedMs : UInt64)
  | drainCaptures (answer : GatewayCaptureEnvelopeV1 → Except ClientError GatewayCaptureReceiptV1)
      (maximum : Nat)
  | acknowledgeOffer (bundle : CoreAssignmentBundleV1) (acceptedAtMs : UInt64)
  | completeDrain (required : Option DrainRequiredV1) (current next : CoreAssignmentBundleV1)
      (drainedMs : UInt64)
      (answer : GatewayAssignmentDrainV1 → GatewayAssignmentTransitionV1
        → Except ClientError CoreAssignmentDrainReceiptV1)

structure CallResult where
  gateway : Option Gateway
  sent : Option GatewayAssignmentDrainV1

def onGateway {α : Type} (x : GatewayM α) : Option Gateway → Program storeMachine CallResult
  | none => return ⟨none, none⟩
  | some gateway => do
    let (_, gateway) ← x.run.run gateway
    return ⟨some gateway, none⟩

section

variable [P : Primitives]

def OperatorCall.program (client : OperatorCoreLinkClient)
    : OperatorCall → Option Gateway → Program storeMachine CallResult
  | .openGateway enforceHandyTarget, _ => do
    let opened ← (openWithTargetPolicy enforceHandyTarget).run
    return ⟨opened.toOption, none⟩
  | .issueJob job transition, gateway => onGateway (issueJobWithTransition job transition) gateway
  | .issueAuthorizedJob request, gateway => onGateway (Gateway.issueAuthorizedJob request) gateway
  | .cancelJob jobId creditCutoffMs submissionEndMs, gateway =>
    onGateway (Gateway.cancelJob jobId creditCutoffMs submissionEndMs) gateway
  | .closeExpired nowMs, gateway => onGateway (Gateway.closeExpired nowMs) gateway
  | .submit noncePrefix telemetryLevel submission receivedMs, gateway =>
    onGateway (Gateway.submit noncePrefix telemetryLevel submission receivedMs) gateway
  | .drainCaptures answer maximum, gateway =>
    onGateway (drainCapturesDurably (client.submitCapture answer) maximum) gateway
  | .acknowledgeOffer bundle acceptedAtMs, gateway => do
    let _ ← (client.acknowledgeOffer bundle acceptedAtMs).run
    return ⟨gateway, none⟩
  -- Both objects go out once they are durable, whatever the exchange then brings.
  | .completeDrain required current next drainedMs answer, gateway => do
    match ← (client.prepareDrain required current next drainedMs).run with
    | .error _ => return ⟨gateway, none⟩
    | .ok (drain, transition) =>
      let _ ← (StoreM.ofExcept (client.settleDrain current drain (answer drain transition))).run
      return ⟨gateway, some drain⟩

/-- The `history` holds every store of the run, the current one last; `clock` is the time of the last submission, and
each drain sent comes with the history up to its sending. -/
structure Operator where
  store : Store
  gateway : Option Gateway
  clock : UInt64
  history : List Store
  sent : List (GatewayAssignmentDrainV1 × List Store)

def Operator.start (store : Store) : Operator :=
  ⟨store, none, 0, [store], []⟩

def OperatorCall.clock : OperatorCall → UInt64 → UInt64
  | .submit _ _ _ receivedMs, _ => receivedMs
  | _, now => now

inductive Operator.Step (client : OperatorCoreLinkClient) (o : Operator) (call : OperatorCall)
    : Operator → Prop where
  | returned {visited : List Store} {result : CallResult} {store : Store}
      (h : (call.program client o.gateway).Executes o.store visited (some result) store)
      : Step client o call {
          store
          gateway := result.gateway
          clock := call.clock o.clock
          history := o.history ++ visited
          sent := o.sent ++ (result.sent.map (·, o.history ++ visited)).toList }
  | crashed {visited : List Store} {store : Store}
      (h : (call.program client o.gateway).Executes o.store visited none store)
      : Step client o call {
          store
          gateway := none
          clock := call.clock o.clock
          history := o.history ++ visited
          sent := o.sent }

/-- The runs all of whose calls meet a condition. -/
inductive Operator.Runs (client : OperatorCoreLinkClient) (Condition : Operator → OperatorCall → Prop)
    : Operator → Operator → Prop where
  | refl (o : Operator) : Runs client Condition o o
  | step {o o' o'' : Operator} {call : OperatorCall} (h : Runs client Condition o o')
      (hcall : Condition o' call) (hstep : Operator.Step client o' call o'')
      : Runs client Condition o o''

/-!
### What a call does
-/

/-- The time of the last submission, the call itself included, is `now`. -/
def Permits (now : UInt64) (Front : Store → ForwardedCapture → Prop) (Ready : Store → Hash256 → Prop)
    (s : Store)
    : OperatorEvent → Prop
  | .accept capture => capture.receivedMs = now
  | .prepare capture _ => Front s capture
  | .drain assignmentId => Ready s assignmentId
  | _ => True

structure Returns (Ready : Store → Hash256 → Prop) (s : Store) (result : CallResult) (s' : Store)
    : Prop where
  mirrors : ∀ g, result.gateway = some g → Mirrors g s'
  sent : ∀ drain, result.sent = some drain → Ready s drain.assignmentId ∧ Clear s drain.assignmentId
    ∧ Frame [operatorDrainRow drain.assignmentId] s s'

variable {client : OperatorCoreLinkClient} {now : UInt64}
  {Front : Store → ForwardedCapture → Prop} {Ready : Store → Hash256 → Prop}
  {gateway : Option Gateway} {s : Store}

theorem onGateway_returns {α : Type} {x : GatewayM α} {T : Store → Store → Prop}
    (h : ∀ g, gateway = some g → GatewayM.Ends T x g s (fun _ g' s' => Mirrors g' s') Mirrors)
    : Program.Always T (Returns Ready s) (onGateway x gateway) s := by
  cases gateway with
  | none =>
    refine ⟨?_, ?_⟩
    . intro g hg
      contradiction
    . intro drain hdrain
      contradiction
  | some g =>
    apply Program.Always.seq (h g rfl)
    rintro ⟨result, g'⟩ s' hresult
    refine ⟨?_, ?_⟩
    . intro g'' hg
      injection hg with hg
      rw [← hg]
      cases result with
      | ok a => exact hresult
      | error e => exact hresult
    . intro drain hdrain
      contradiction

def Admits (Allowed : ForwardedCapture → List ForwardedCapture → Prop) (Front : Store → ForwardedCapture → Prop)
    : Prop :=
  ∀ g s c rest, Mirrors g s → g.forwarded = c :: rest → Allowed c rest → Front s c

variable {Allowed : ForwardedCapture → List ForwardedCapture → Prop}

theorem drainCaptures_ends {answer : GatewayCaptureEnvelopeV1 → Except ClientError GatewayCaptureReceiptV1}
    (hfront : Admits Allowed Front) {g : Gateway} (h : Mirrors g s) {maximum : Nat}
    (hhanded : Handed Allowed maximum g.forwarded)
    : GatewayM.Ends (OperatorStep (Permits now Front Ready))
        (drainCapturesDurably (client.submitCapture answer) maximum) g s
        (fun _ g' s' => Mirrors g' s') Mirrors := by
  apply drainCapturesDurably.go_ends _ _ maximum _ h hhanded
  . intro s s'
    exact OperatorStep.of_jobStep fun _ => trivial
  . intro g s c rest hmirrors hqueue hallowed
    have hqueued := hmirrors.stored c (by rw [hqueue]; exact List.mem_cons_self ..)
    have hfront := hfront g s c rest hmirrors hqueue hallowed
    apply (sameQueue_of_ofLink (submitCapture_ends (fun _ => ⟨trivial, trivial⟩)
      (fun _ => ⟨hfront, trivial⟩) (fun _ => ⟨trivial, trivial⟩) hqueued)).mono
    . rintro _ s' ⟨hsame, hreceipt⟩
      exact ⟨hmirrors.sameRows hsame, OperatorStep.acknowledge trivial hreceipt⟩
    . intro s' hsame
      exact hmirrors.sameRows hsame

def OperatorCall.Meets (Allowed : ForwardedCapture → List ForwardedCapture → Prop)
    (Ready : Store → Hash256 → Prop) (gateway : Option Gateway) (s : Store)
    : OperatorCall → Prop
  | .drainCaptures _ maximum => ∀ g, gateway = some g → Handed Allowed maximum g.forwarded
  | .completeDrain _ current _ _ _ => Ready s (objectId current.assignment)
  | _ => True

variable {call : OperatorCall}

theorem OperatorCall.returns (hfront : Admits Allowed Front) (hcall : call.Meets Allowed Ready gateway s)
    (h : ∀ g, gateway = some g → Mirrors g s)
    : Program.Always (OperatorStep (Permits (call.clock now) Front Ready)) (Returns Ready s)
        (call.program client gateway) s := by
  have hinternal : ∀ s, Permits (call.clock now) Front Ready s .internal := fun _ => trivial
  have hjob : ∀ s s', JobStep s s' → OperatorStep (Permits (call.clock now) Front Ready) s s' :=
    fun _ _ => OperatorStep.of_jobStep hinternal
  have hbookkeeping : ∀ {α : Type} {x : GatewayM α}, Bookkeeping x → Program.Always
      (OperatorStep (Permits (call.clock now) Front Ready)) (Returns Ready s) (onGateway x gateway) s := by
    intro α x hx
    apply onGateway_returns
    intro g hg
    exact hx.ends hjob (h g hg)
  cases call with
  | openGateway enforceHandyTarget =>
    apply Program.Always.seq (openWithTargetPolicy_ends hjob enforceHandyTarget s)
    intro result s' hresult
    refine ⟨?_, ?_⟩
    . intro g hg
      rw [Except.toOption_eq_some] at hg
      rw [hg] at hresult
      exact hresult
    . intro drain hdrain
      contradiction
  | issueJob job transition => exact hbookkeeping (issueJobInternal_bookkeeping job transition none)
  | issueAuthorizedJob request => exact hbookkeeping (issueAuthorizedJob_bookkeeping request)
  | cancelJob jobId creditCutoffMs submissionEndMs =>
    exact hbookkeeping (cancelJob_bookkeeping jobId creditCutoffMs submissionEndMs)
  | closeExpired nowMs => exact hbookkeeping (closeExpired_bookkeeping nowMs)
  | submit noncePrefix telemetryLevel submission receivedMs =>
    apply onGateway_returns
    intro g hg
    apply submit_ends hjob (h g hg)
    intro capture hreceived hshort habsent
    exact OperatorStep.accept hreceived hshort habsent
  | drainCaptures answer maximum =>
    apply onGateway_returns
    intro g hg
    exact drainCaptures_ends hfront (h g hg) (hcall g hg)
  | acknowledgeOffer bundle acceptedAtMs =>
    apply Program.Always.seq (sameQueue_of_ofLink
      (acknowledgeOffer_ends (fun _ => ⟨trivial, trivial⟩)))
    intro result s' hresult
    refine ⟨?_, ?_⟩
    . intro g hg
      apply (h g hg).sameRows
      cases result with
      | ok u => exact hresult.1
      | error e => exact hresult
    . intro drain hdrain
      contradiction
  | completeDrain required current next drainedMs answer =>
    apply Program.Always.seq (sameQueue_of_ofLink
      (prepareDrain_ends (fun _ => ⟨trivial, trivial⟩) ⟨hcall, trivial⟩))
    intro result s' hresult
    cases result with
    | error e =>
      refine ⟨?_, ?_⟩
      . intro g hg
        exact (h g hg).sameRows hresult
      . intro drain hdrain
        contradiction
    | ok prepared =>
      obtain ⟨hqueue, hassignment, hclear, hframe⟩ := hresult
      refine ⟨?_, ?_⟩
      . intro g hg
        exact (h g hg).sameRows hqueue
      . intro drain hdrain
        injection hdrain with hdrain
        rw [← hdrain, hassignment]
        exact ⟨hcall, hclear, hframe⟩

/-!
### What a run keeps
-/

/-- Here `I` is about the time of the last submission, the stores so far and the current one; `J` is about a drain and
the stores up to its sending. -/
structure Operator.Keeps (I : UInt64 → List Store → Store → Prop)
    (J : GatewayAssignmentDrainV1 → List Store → Prop) (o : Operator) : Prop where
  mirrors : ∀ g, o.gateway = some g → Mirrors g o.store
  stores : I o.clock o.history o.store
  sent : ∀ sending ∈ o.sent, J sending.1 sending.2

variable {o o' : Operator} {Condition : Operator → OperatorCall → Prop}

section

variable {I : UInt64 → List Store → Store → Prop} {J : GatewayAssignmentDrainV1 → List Store → Prop}
  (hfront : Admits Allowed Front)
  (hstep : ∀ now seen s s', I now seen s → OperatorStep (Permits now Front Ready) s s'
    → I now (seen ++ [s']) s')
  (hsent : ∀ now seen s s' drain, I now seen s' → Ready s drain.assignmentId
    → Clear s drain.assignmentId → Frame [operatorDrainRow drain.assignmentId] s s' → J drain seen)

include hfront hstep hsent

theorem Operator.Step.keeps (hcall : call.Meets Allowed Ready o.gateway o.store)
    (hclock : ∀ seen s, I o.clock seen s → I (call.clock o.clock) seen s) (h : o.Keeps I J)
    (hstepped : Operator.Step client o call o')
    : o'.Keeps I J := by
  have hreturns : Program.Always (OperatorStep (Permits (call.clock o.clock) Front Ready))
      (Returns Ready o.store) (call.program client o.gateway) o.store :=
    OperatorCall.returns hfront hcall h.mirrors
  have hstores := hclock _ _ h.stores
  cases hstepped with
  | returned hexecutes =>
    obtain ⟨hpath, hresult⟩ := hreturns.executes hexecutes
    have hresult := hresult _ rfl
    have hstores := hpath.invariant (hstep _) hstores
    refine ⟨hresult.mirrors, hstores, ?_⟩
    intro sending hmem
    rcases List.mem_append.mp hmem with hold | hnew
    . exact h.sent sending hold
    . rw [Option.mem_toList, Option.map_eq_some_iff] at hnew
      obtain ⟨drain, hdrain, rfl⟩ := hnew
      obtain ⟨hready, hclear, hframe⟩ := hresult.sent drain hdrain
      exact hsent _ _ _ _ drain hstores hready hclear hframe
  | crashed hexecutes =>
    obtain ⟨hpath, _⟩ := hreturns.executes hexecutes
    refine ⟨?_, hpath.invariant (hstep _) hstores, h.sent⟩
    intro g hg
    contradiction

theorem Operator.Runs.keeps (hmeets : ∀ o call, Condition o call → call.Meets Allowed Ready o.gateway o.store)
    (hclock : ∀ o call seen s, Condition o call → I o.clock seen s → I (call.clock o.clock) seen s) (h : o.Keeps I J)
    (hruns : Operator.Runs client Condition o o')
    : o'.Keeps I J := by
  induction hruns with
  | refl => exact h
  | step _ hcondition hstepped ih =>
    exact hstepped.keeps hfront hstep hsent (hmeets _ _ hcondition)
      (fun seen s => hclock _ _ seen s hcondition) ih

end

/-!
### Calls made one after the other
-/

def Operator.next (client : OperatorCoreLinkClient) (o : Operator) (call : OperatorCall) : Operator :=
  let x := call.program client o.gateway
  let result := (x.run o.store).1
  let history := o.history ++ x.trace o.store
  { store := (x.run o.store).2
    gateway := result.gateway
    clock := call.clock o.clock
    history
    sent := o.sent ++ (result.sent.map (·, history)).toList }

theorem Operator.Runs.next (h : Operator.Runs client Condition o o') (hcall : Condition o' call)
    : Operator.Runs client Condition o (o'.next client call) := by
  exact h.step hcall (.returned (Program.executes_run _ _))

def InTime : UInt64 → List OperatorCall → Prop
  | _, [] => True
  | now, call :: calls => now ≤ call.clock now ∧ InTime (call.clock now) calls

theorem Operator.Runs.calls {calls : List OperatorCall} (h : Operator.Runs client Condition o o')
    (hcondition : ∀ o, ∀ call ∈ calls, o.clock ≤ call.clock o.clock → Condition o call)
    (htime : InTime o'.clock calls)
    : Operator.Runs client Condition o (calls.foldl (·.next client) o') := by
  induction calls generalizing o' with
  | nil => exact h
  | cons call calls ih =>
    have hcall := hcondition o' call (List.mem_cons_self ..) htime.1
    apply ih (h.next hcall)
    . intro o call hmem
      exact hcondition o call (List.mem_cons_of_mem _ hmem)
    . exact htime.2

end

/-!
### A run with three captures
-/

def sampleClient : OperatorCoreLinkClient :=
  ⟨⟨2, Handoff.gatewayKey, Handoff.coreKey, .fill 32 16⟩, Handoff.coreKey⟩

def sampleSubmission (nonce : UInt32) : HandySubmission :=
  letI := lowHashes
  { username := asciiBytes "miner"
    jobId := gatewayAssignmentJobId sampleBundle.assignment
    extraNonce2 := .fill 4 0
    ntime := 100
    nonce }

def sampleSubmit (nonce : UInt32) (receivedMs : UInt64) : OperatorCall :=
  .submit (.fill 4 1) .stockAsic (sampleSubmission nonce) receivedMs

def sampleJob : GatewayJob :=
  letI := lowHashes
  sampleBundle.gatewayJob.toOption.get (by decide +kernel)

def sampleDrain (maximum : Nat) : OperatorCall :=
  .drainCaptures (fun envelope => .ok (sampleReceipt envelope)) maximum

def sampleSubmissions : List OperatorCall :=
  [.openGateway true, .acknowledgeOffer sampleBundle 10, .issueJob sampleJob none,
    sampleSubmit 0 10, sampleSubmit 1 20, sampleSubmit 2 30]

def sampleCapture (nonce : UInt32) (receivedMs : UInt64) : ForwardedCapture :=
  letI := lowHashes
  let minerHeader := minerHeaderOf sampleJob (.fill 4 1) (sampleSubmission nonce)
  { username := asciiBytes "miner"
    jobId := gatewayAssignmentJobId sampleBundle.assignment
    assignmentSequence := 1
    minerHeader
    rawShareHash := minerHeader.shareHash
    receivedMs
    creditEligible := true
    telemetryLevel := .stockAsic }

def sampleEnvelope (nonce : UInt32) (receivedMs sequence : UInt64) : GatewayCaptureEnvelopeV1 :=
  letI := lowHashes
  sampleClient.spool.signedEnvelope sampleBundle (sampleCapture nonce receivedMs) sequence

def sampleAccepted : Operator :=
  letI := lowHashes
  sampleSubmissions.foldl (·.next sampleClient) (Operator.start ∅)

/-- The first capture has left the queue, and the last one has taken its place at the front. -/
def sampleFirst : Operator :=
  letI := lowHashes
  sampleAccepted.next sampleClient (sampleDrain 1)

def sampleAll : Operator :=
  letI := lowHashes
  sampleFirst.next sampleClient (sampleDrain 2)

def sampleCompleteDrain : OperatorCall :=
  letI := lowHashes
  .completeDrain (some ⟨objectId sampleBundle.assignment, objectId sampleNextBundle,
    objectId sampleNextBundle.assignment⟩) sampleBundle sampleNextBundle 1500 (fun _ _ => .error .exchange)

theorem sampleAccepted_runs {Condition : Operator → OperatorCall → Prop}
    (hcondition : ∀ o, ∀ call ∈ sampleSubmissions, o.clock ≤ call.clock o.clock → Condition o call)
    : letI := lowHashes
      Operator.Runs sampleClient Condition (Operator.start ∅) sampleAccepted := by
  let _ := lowHashes
  apply Operator.Runs.calls (.refl _) hcondition
  simp only [sampleSubmissions, sampleSubmit, Operator.start, InTime, OperatorCall.clock]
  decide

theorem sampleSubmissions_meet {Allowed : ForwardedCapture → List ForwardedCapture → Prop}
    {Ready : Store → Hash256 → Prop} {o : Operator} {call : OperatorCall} (hmem : call ∈ sampleSubmissions)
    : letI := lowHashes
      call.Meets Allowed Ready o.gateway o.store := by
  simp only [sampleSubmissions, List.mem_cons, List.not_mem_nil, or_false] at hmem
  rcases hmem with rfl | rfl | rfl | rfl | rfl | rfl <;> trivial

theorem sampleRun_states
    : letI := lowHashes
      sampleAccepted.gateway.map (·.forwarded)
          = some [sampleCapture 0 10, sampleCapture 1 20, sampleCapture 2 30]
        ∧ (∃ s ∈ sampleFirst.history, s.find (spoolEnvelopeRow (captureWorkKey (sampleCapture 0 10)))
          = some (toCanonicalBytes (sampleEnvelope 0 10 1)))
        ∧ (∃ s ∈ sampleAll.history, s.find (spoolEnvelopeRow (captureWorkKey (sampleCapture 2 30)))
          = some (toCanonicalBytes (sampleEnvelope 2 30 2)))
        ∧ (∃ s ∈ sampleAll.history, s.find (spoolEnvelopeRow (captureWorkKey (sampleCapture 1 20)))
          = some (toCanonicalBytes (sampleEnvelope 1 20 3)))
        ∧ sampleAll.store.inNamespace captureSpace = []
        ∧ (∃ sending ∈ (sampleFirst.next sampleClient sampleCompleteDrain).sent,
          sending.1.assignmentId = objectId sampleBundle.assignment
          ∧ ∃ s ∈ sending.2.getLast?, s.find (captureRow (captureWorkKey (sampleCapture 1 20)))
              = some (encodeDurableCapture (sampleCapture 1 20))
            ∧ s.find (spoolReceiptRow (captureWorkKey (sampleCapture 1 20))) = none)
        ∧ ∃ sending ∈ (sampleAll.next sampleClient sampleCompleteDrain).sent,
          sending.1.assignmentId = objectId sampleBundle.assignment := by
  decide +kernel

end MeshMine.CoreLink
