import MeshMine.CoreLink.OperatorRuns
import MeshMine.Storage.StoreRun

/-!
Retrying a drain. The drain and the transition are written in one batch and are immutable afterwards, so a
later call has to build the same bytes again; the drain carries the clock of the call that built it.
-/

namespace MeshMine.CoreLink

open MeshMine.Types Codec Storage
open Except (rejectIf)
open StoreM (Ends Yields)

variable {head : GatewaySequenceHeadV1}

namespace OperatorCaptureSpool

variable {s s' : Store} {assignmentId : Hash256} {total : Nat}

theorem countPending_reads {records : List NamespaceRecord} {pending : Nat}
    (h : Yields (countPending assignmentId records pending) s total s')
    : s' = s := by
  induction records generalizing pending with
  | nil => simp_all [countPending]
  | cons record records ih =>
    simp only [countPending, StoreM.yields_bind, StoreM.yields_get] at h
    obtain ⟨receipt, t, ⟨_, _, rfl⟩, h⟩ := h
    split at h
    . exact ih h
    . simp only [StoreM.yields_bind, StoreM.yields_ofExcept] at h
      obtain ⟨_, _, ⟨_, rfl⟩, h⟩ := h
      exact ih h

theorem pendingForAssignment_reads (h : Yields (pendingForAssignment assignmentId) s total s')
    : s' = s := by
  simp only [pendingForAssignment, StoreM.yields_bind, StoreM.yields_scanNamespace] at h
  obtain ⟨_, _, ⟨_, rfl⟩, h⟩ := h
  exact countPending_reads h

theorem sequenceHead_yields
    : Yields (sequenceHead assignmentId) s head s'
      ↔ (captureSequenceRow assignmentId).valid ∧ (s.find (captureSequenceRow assignmentId)).elim
          (.ok (.initial assignmentId)) decodeSequenceHead = .ok head ∧ s' = s := by
  simp only [sequenceHead, StoreM.yields_bind, StoreM.yields_get, StoreM.yields_ofExcept]
  constructor
  . rintro ⟨_, _, ⟨hvalid, rfl, rfl⟩, h⟩
    exact ⟨hvalid, h⟩
  . rintro ⟨hvalid, h⟩
    exact ⟨_, _, ⟨hvalid, rfl, rfl⟩, h⟩

def drainOperations (drain : GatewayAssignmentDrainV1) (transition : GatewayAssignmentTransitionV1)
    : List BatchOperation :=
  [.put (operatorDrainRow drain.assignmentId) (toCanonicalBytes drain),
    .put (operatorTransitionRow transition.previousAssignmentId) (toCanonicalBytes transition)]

/-- Both rows hold these objects, or neither holds anything. -/
inductive Agrees (s : Store) (drain : GatewayAssignmentDrainV1)
    (transition : GatewayAssignmentTransitionV1) : Store → Prop where
  | present (hdrain : s.find (operatorDrainRow drain.assignmentId) = some (toCanonicalBytes drain))
      (htransition : s.find (operatorTransitionRow transition.previousAssignmentId)
        = some (toCanonicalBytes transition))
      : Agrees s drain transition s
  | absent (hdrain : s.find (operatorDrainRow drain.assignmentId) = none)
      (htransition : s.find (operatorTransitionRow transition.previousAssignmentId) = none)
      : Agrees s drain transition (s.applyAll (drainOperations drain transition))

variable {drain : GatewayAssignmentDrainV1} {transition : GatewayAssignmentTransitionV1}

def recordedDrain (s : Store) (assignmentId : Hash256) : Option (List UInt8) × Option (List UInt8) :=
  (s.find (operatorDrainRow assignmentId), s.find (operatorTransitionRow assignmentId))

theorem Agrees.recorded (h : Agrees s drain transition s') (hdrain : drain.assignmentId = assignmentId)
    (htransition : transition.previousAssignmentId = assignmentId)
    : recordedDrain s' assignmentId = (some (toCanonicalBytes drain), some (toCanonicalBytes transition))
      ∧ (s' = s ∨ recordedDrain s assignmentId = (none, none)) := by
  subst hdrain
  cases h with
  | present hpresent hpresent' =>
    rw [htransition] at hpresent'
    exact ⟨Prod.ext hpresent hpresent', .inl rfl⟩
  | absent habsent habsent' =>
    rw [htransition] at habsent'
    refine ⟨?_, .inr (Prod.ext habsent habsent')⟩
    simp [recordedDrain, drainOperations, Store.find_applyAll, htransition]

theorem persistDrainAndTransition_yields
    : Yields (persistDrainAndTransition drain transition) s () s'
      ↔ (operatorDrainRow drain.assignmentId).valid
        ∧ (operatorTransitionRow transition.previousAssignmentId).valid
        ∧ Agrees s drain transition s' := by
  have hfresh : ∀ existingDrain existingTransition : Option (List UInt8),
      ¬ (existingDrain.isSome = true ∨ existingTransition.isSome = true)
        ↔ existingDrain = none ∧ existingTransition = none := by
    simp
  simp only [persistDrainAndTransition, StoreM.yields_bind, StoreM.yields_get]
  constructor
  . rintro ⟨_, _, ⟨hdrain, rfl, rfl⟩, _, _, ⟨htransition, rfl, rfl⟩, h⟩
    refine ⟨hdrain, htransition, ?_⟩
    split at h
    next hpresent =>
      simp only [StoreM.yields_pure, true_and] at h
      rw [h]
      exact .present hpresent.1 hpresent.2
    next =>
      simp only [StoreM.yields_bind, StoreM.yields_ofExcept, Except.rejectIf_eq_ok, hfresh,
        StoreM.yields_applyBatchIfAll] at h
      obtain ⟨_, _, ⟨hnone, rfl⟩, applied, _, ⟨_, _, happlied, rfl⟩, hcommitted, rfl⟩ := h
      rw [Bool.not_eq_false] at hcommitted
      rw [if_pos (happlied ▸ hcommitted)]
      exact .absent hnone.1 hnone.2
  . rintro ⟨hdrain, htransition, h⟩
    refine ⟨_, _, ⟨hdrain, rfl, rfl⟩, _, _, ⟨htransition, rfl, rfl⟩, ?_⟩
    cases h with
    | present hpresent hpresent' =>
      rw [if_pos ⟨hpresent, hpresent'⟩]
      simp
    | absent habsent habsent' =>
      have hall : [BatchCondition.absent (operatorDrainRow drain.assignmentId),
          .absent (operatorTransitionRow transition.previousAssignmentId)].all s.satisfies = true := by
        simpa [Store.satisfies, BatchCondition.absent] using ⟨habsent, habsent'⟩
      rw [habsent, habsent', if_neg (by simp)]
      simp only [StoreM.yields_bind, StoreM.yields_ofExcept, Except.rejectIf_eq_ok,
        StoreM.yields_applyBatchIfAll]
      refine ⟨(), s, by simp, true, _, ⟨?_, ?_, hall.symm, rfl⟩, by simp, ?_⟩
      . simpa [BatchCondition.absent] using ⟨hdrain, htransition⟩
      . simpa using ⟨hdrain, htransition⟩
      . rw [if_pos hall]
        rfl

end OperatorCaptureSpool

open OperatorCaptureSpool

section

variable [P : Primitives] {client : OperatorCoreLinkClient} {required : Option DrainRequiredV1}
  {current next : CoreAssignmentBundleV1} {drainedMs : UInt64} {drain : GatewayAssignmentDrainV1}
  {transition : GatewayAssignmentTransitionV1} {s s' : Store}

def DrainRequiredV1.Names (required : DrainRequiredV1) (current next : CoreAssignmentBundleV1) : Prop :=
  required.currentAssignmentId = objectId current.assignment ∧ required.nextBundleId = objectId next
    ∧ required.nextAssignmentId = objectId next.assignment

theorem prepareDrain_yields
    : Yields (client.prepareDrain required current next drainedMs) s (drain, transition) s'
      ↔ (∃ r, required = some r ∧ r.Names current next)
        ∧ Yields (pendingForAssignment (objectId current.assignment)) s 0 s
        ∧ ∃ head, Yields (sequenceHead (objectId current.assignment)) s head s
          ∧ buildDrainAndTransition current next head client.spool.gatewaySigningKey drainedMs
            = .ok (drain, transition)
          ∧ Yields (persistDrainAndTransition drain transition) s () s' := by
  simp only [OperatorCoreLinkClient.prepareDrain, StoreM.yields_bind, StoreM.yields_ofExcept,
    StoreM.yields_adapt, StoreM.yields_pure, Except.rejectIf_eq_ok, Except.mapError_eq_ok]
  constructor
  . rintro ⟨r, _, ⟨hrequired, rfl⟩, _, _, ⟨hnames, rfl⟩, pending, _, hpending, _, _, ⟨hzero, rfl⟩,
      head, _, hhead, ⟨drain', transition'⟩, _, ⟨hbuild, rfl⟩, _, _, hpersist, hresult, rfl⟩
    obtain rfl := pendingForAssignment_reads hpending
    obtain rfl := (sequenceHead_yields.mp hhead).2.2
    injection hresult with hdrain htransition
    subst hdrain htransition
    push Not at hnames hzero
    subst hzero
    refine ⟨⟨r, Except.elim_error_eq_ok hrequired, hnames⟩, hpending, head, hhead, hbuild, hpersist⟩
  . rintro ⟨⟨r, rfl, hnames⟩, hpending, head, hhead, hbuild, hpersist⟩
    refine ⟨r, s, ⟨rfl, rfl⟩, (), s, ⟨?_, rfl⟩, 0, s, hpending, (), s, ⟨by simp, rfl⟩, head, s, hhead,
      (drain, transition), s, ⟨hbuild, rfl⟩, (), s', hpersist, rfl, rfl⟩
    push Not
    exact hnames

theorem buildDrainAndTransition_eq_ok {gatewaySigningKey : ByteVec 32}
    (h : buildDrainAndTransition current next head gatewaySigningKey drainedMs = .ok (drain, transition))
    : drain.assignmentId = objectId current.assignment
      ∧ transition.previousAssignmentId = objectId current.assignment
      ∧ head = ⟨drain.assignmentId, drain.lastGatewaySequence, drain.finalCaptureEnvelopeId⟩
      ∧ drainedMs = drain.drainedMs
      ∧ ∀ (head' : GatewaySequenceHeadV1) (drainedMs' : UInt64), head'.assignmentId = objectId current.assignment
        → ∃ drain' transition', buildDrainAndTransition current next head' gatewaySigningKey drainedMs'
          = .ok (drain', transition') := by
  obtain ⟨replacement, hreplacement, h⟩ := Except.bind_eq_ok h
  obtain ⟨hlinked, h⟩ := Except.bind_unit_eq_ok.mp h
  rw [Except.rejectIf_eq_ok, not_or, not_not, not_not] at hlinked
  injection h with h
  injection h with hdrain htransition
  subst hdrain htransition
  refine ⟨rfl, rfl, by rw [← hlinked.2], rfl, ?_⟩
  intro head' drainedMs' hhead'
  unfold buildDrainAndTransition
  rw [hreplacement, Except.ok_bind, Except.rejectIf_of_not (by simp [hlinked.1, hhead'])]
  exact ⟨_, _, rfl⟩

variable {result : Option (Except ClientError (GatewayAssignmentDrainV1 × GatewayAssignmentTransitionV1))}
  {visited : List Store} {s₁ : Store}

section

variable (hdue : Yields (client.prepareDrain required current next drainedMs) s (drain, transition) s')
  (hexecutes : (client.prepareDrain required current next drainedMs).run.Executes s visited result s₁)

include hdue hexecutes

theorem prepareDrain_crash
    : s₁ = s ∨ s₁ = s' := by
  obtain ⟨_, _, head, hhead, hbuild, hpersist⟩ := prepareDrain_yields.mp hdue
  have hread : ∀ t : Store, t = t ∨ t = s ∧ t = s' := fun t => .inl rfl
  have hends : Ends (fun t t' => t' = t ∨ t = s ∧ t' = s')
      (client.prepareDrain required current next drainedMs) s (fun _ _ => True) (fun _ => True) := by
    apply Ends.bind_ofExcept _ trivial
    intro r _
    apply Ends.bind_ofExcept _ trivial
    intro _ _
    apply (pendingForAssignment_ends (hread s)).adapt.seq
    rintro pending _ ⟨rfl, _⟩
    apply Ends.bind_ofExcept _ trivial
    intro _ _
    apply Ends.bind
    apply Ends.adapt
    apply Ends.bind_get (hread _) _ trivial
    apply Ends.ofExcept _ trivial
    intro head' hhead'
    rw [(sequenceHead_yields.mp hhead).2.1] at hhead'
    injection hhead' with hhead'
    subst hhead'
    apply Ends.bind_ofExcept _ trivial
    intro built hbuilt
    rw [Except.mapError_eq_ok, hbuild] at hbuilt
    injection hbuilt with hbuilt
    subst hbuilt
    apply Ends.bind
    apply Ends.adapt
    apply Ends.bind_get (hread _) _ trivial
    apply Ends.bind_get (hread _) _ trivial
    split
    . trivial
    next hdiffer =>
      apply Ends.bind_ofExcept _ trivial
      intro _ _
      apply Ends.bind
      apply Ends.applyBatchIfAll (hread _) _ _ trivial
      . intro _
        refine ⟨.inr ⟨rfl, ?_⟩, Ends.ofExcept (fun _ _ => trivial) trivial⟩
        obtain ⟨_, _, hagrees⟩ := persistDrainAndTransition_yields.mp hpersist
        cases hagrees with
        | present hpresent hpresent' => exact absurd ⟨hpresent, hpresent'⟩ hdiffer
        | absent => rfl
      . intro _
        exact Ends.ofExcept (fun _ _ => trivial) trivial
  apply (hends.executes hexecutes).1.preserves _ (.inl rfl)
  rintro t t' h (rfl | ⟨_, rfl⟩)
  . exact h
  . exact .inr rfl

theorem prepareDrain_left
    : recordedDrain s₁ (objectId current.assignment)
        = (some (toCanonicalBytes drain), some (toCanonicalBytes transition))
      ∨ recordedDrain s₁ (objectId current.assignment) = (none, none) := by
  obtain ⟨_, _, head, _, hbuild, hpersist⟩ := prepareDrain_yields.mp hdue
  obtain ⟨hassignment, hprevious, _⟩ := buildDrainAndTransition_eq_ok hbuild
  obtain ⟨_, _, hagrees⟩ := persistDrainAndTransition_yields.mp hpersist
  obtain ⟨hrecorded, hbefore⟩ := hagrees.recorded hassignment hprevious
  rcases prepareDrain_crash hdue hexecutes with rfl | rfl
  . rcases hbefore with rfl | hnone
    . exact .inl hrecorded
    . exact .inr hnone
  . exact .inl hrecorded

end

variable {s₂ s₃ : Store} {drainedMs' : UInt64} {drain' : GatewayAssignmentDrainV1}
  {transition' : GatewayAssignmentTransitionV1}

theorem prepareDrain_again (hbuild : buildDrainAndTransition current next head client.spool.gatewaySigningKey drainedMs
      = .ok (drain, transition))
    (hleft : recordedDrain s₂ (objectId current.assignment)
        = (some (toCanonicalBytes drain), some (toCanonicalBytes transition))
      ∨ recordedDrain s₂ (objectId current.assignment) = (none, none))
    (h : Yields (client.prepareDrain required current next drainedMs') s₂ (drain', transition') s₃)
    : recordedDrain s₃ (objectId current.assignment)
        = (some (toCanonicalBytes drain'), some (toCanonicalBytes transition'))
      ∧ (recordedDrain s₂ (objectId current.assignment) = (none, none)
        ∨ drain' = drain ∧ transition' = transition) := by
  obtain ⟨_, _, head', _, hbuild', hpersist'⟩ := prepareDrain_yields.mp h
  obtain ⟨_, _, hhead, hclock, _⟩ := buildDrainAndTransition_eq_ok hbuild
  obtain ⟨hassignment', hprevious', hhead', hclock', _⟩ := buildDrainAndTransition_eq_ok hbuild'
  obtain ⟨_, _, hagrees⟩ := persistDrainAndTransition_yields.mp hpersist'
  obtain ⟨hrecorded, hbefore⟩ := hagrees.recorded hassignment' hprevious'
  refine ⟨hrecorded, ?_⟩
  rcases hbefore with rfl | hnone
  . apply hleft.symm.imp_right
    intro hsame
    rw [hrecorded, Prod.mk.injEq, Option.some.injEq] at hsame
    obtain rfl := GatewayAssignmentDrainV1.toCanonicalBytes_inj.mp hsame.1
    -- The drain carries all that the builder takes from the head and the clock.
    rw [hhead', hclock', ← hhead, ← hclock, hbuild] at hbuild'
    injection hbuild' with hbuild'
    injection hbuild' with _ htransition
    exact ⟨rfl, htransition.symm⟩
  . exact .inl hnone

/-- However far a first call came, a later one gets to send exactly if no capture is pending and, once the drain is
on record, the clock and the sequence head are those of the first call. What it sends is what is on record. -/
theorem completeDrain_retry
    (hdue : Yields (client.prepareDrain required current next drainedMs) s (drain, transition) s')
    (hexecutes : (client.prepareDrain required current next drainedMs).run.Executes s visited result s₁)
    (hkept : recordedDrain s₂ (objectId current.assignment) = recordedDrain s₁ (objectId current.assignment))
    : ((∃ sent s₃, Yields (client.prepareDrain required current next drainedMs') s₂ sent s₃)
        ↔ Yields (pendingForAssignment (objectId current.assignment)) s₂ 0 s₂
          ∧ ∃ head, Yields (sequenceHead (objectId current.assignment)) s₂ head s₂
            ∧ head.assignmentId = objectId current.assignment
            ∧ (recordedDrain s₁ (objectId current.assignment) = (none, none)
              ∨ drainedMs' = drainedMs ∧ Yields (sequenceHead (objectId current.assignment)) s head s))
      ∧ ∀ drain' transition' s₃,
        Yields (client.prepareDrain required current next drainedMs') s₂ (drain', transition') s₃
        → recordedDrain s₃ (objectId current.assignment)
            = (some (toCanonicalBytes drain'), some (toCanonicalBytes transition'))
          ∧ (recordedDrain s₁ (objectId current.assignment) = (none, none)
            ∨ drain' = drain ∧ transition' = transition) := by
  obtain ⟨hrequired, _, head, hsequence, hbuild, hpersist⟩ := prepareDrain_yields.mp hdue
  obtain ⟨hassignment, hprevious, hhead, hclock, hrebuild⟩ := buildDrainAndTransition_eq_ok hbuild
  obtain ⟨hvalid, hvalid', _⟩ := persistDrainAndTransition_yields.mp hpersist
  rw [hassignment] at hvalid
  rw [hprevious] at hvalid'
  have hleft := prepareDrain_left hdue hexecutes
  rw [← hkept] at hleft ⊢
  refine ⟨⟨?_, ?_⟩, fun _ _ _ => prepareDrain_again hbuild hleft⟩
  . rintro ⟨⟨drain', transition'⟩, s₃, h⟩
    obtain ⟨_, hpending, head', hsequence', hbuild', _⟩ := prepareDrain_yields.mp h
    obtain ⟨hassignment', _, hhead', hclock', _⟩ := buildDrainAndTransition_eq_ok hbuild'
    refine ⟨hpending, head', hsequence', by rw [hhead', hassignment'], ?_⟩
    apply (prepareDrain_again hbuild hleft h).2.imp_right
    rintro ⟨rfl, _⟩
    refine ⟨hclock'.trans hclock.symm, ?_⟩
    rwa [hhead', ← hhead]
  . rintro ⟨hpending, head', hsequence', hassigned, hsame⟩
    obtain ⟨drain', transition', hbuild'⟩ := hrebuild head' drainedMs' hassigned
    obtain ⟨hassignment', hprevious', _⟩ := buildDrainAndTransition_eq_ok hbuild'
    have hagrees : ∃ s₃, Agrees s₂ drain' transition' s₃ := by
      rcases hleft with hpresent | habsent
      . obtain ⟨rfl, hsequence''⟩ := hsame.resolve_left (fun h => nomatch hpresent.symm.trans h)
        obtain rfl : head' = head := by
          rw [sequenceHead_yields] at hsequence hsequence''
          exact Except.ok.inj (hsequence''.2.1.symm.trans hsequence.2.1)
        rw [hbuild] at hbuild'
        cases hbuild'
        obtain ⟨hpresent, hpresent'⟩ := Prod.mk.inj hpresent
        exact ⟨s₂, .present (by rw [hassignment, hpresent]) (by rw [hprevious, hpresent'])⟩
      . obtain ⟨habsent, habsent'⟩ := Prod.mk.inj habsent
        exact ⟨_, .absent (by rw [hassignment', habsent]) (by rw [hprevious', habsent'])⟩
    obtain ⟨s₃, hagrees⟩ := hagrees
    refine ⟨(drain', transition'), s₃, prepareDrain_yields.mpr ⟨hrequired, hpending, head', hsequence', hbuild', ?_⟩⟩
    rw [persistDrainAndTransition_yields, hassignment', hprevious']
    exact ⟨hvalid, hvalid', hagrees⟩

end

def samplePrepareDrain (drainedMs : UInt64)
    : StoreM ClientError (GatewayAssignmentDrainV1 × GatewayAssignmentTransitionV1) :=
  letI := lowHashes
  sampleClient.prepareDrain (some ⟨objectId sampleBundle.assignment, objectId sampleNextBundle,
    objectId sampleNextBundle.assignment⟩) sampleBundle sampleNextBundle drainedMs

theorem samplePrepareDrain_yields
    : letI := lowHashes
      let assignmentId := objectId sampleBundle.assignment
      ∃ sent s', Yields (samplePrepareDrain 1500) ∅ sent s'
        ∧ ((samplePrepareDrain 1501).run.run s').1 = .error (.spool .conflict)
        ∧ s'.find (captureSequenceRow assignmentId) = none
        ∧ (s'.find (operatorDrainRow assignmentId)).isSome
        ∧ ((OperatorCaptureSpool.pendingForAssignment assignmentId).run.run s').1 = .ok 0 := by
  let _ := lowHashes
  let assignmentId := objectId sampleBundle.assignment
  have hstate : let s₁ := ((samplePrepareDrain 1500).run.run ∅).2
      ((samplePrepareDrain 1500).run.run ∅).1.toOption.isSome
        ∧ ((samplePrepareDrain 1501).run.run s₁).1 = .error (.spool .conflict)
        ∧ s₁.find (captureSequenceRow assignmentId) = none
        ∧ (s₁.find (operatorDrainRow assignmentId)).isSome
        ∧ ((OperatorCaptureSpool.pendingForAssignment assignmentId).run.run s₁).1 = .ok 0 := by
    decide +kernel
  obtain ⟨sent, s', hyields⟩ := StoreM.exists_yields hstate.1
  rw [hyields] at hstate
  exact ⟨sent, s', hyields, hstate.2⟩

/-- The first call is done and its answer lost. -/
theorem samplePrepareDrain_conflict
    : ∃ visited drain transition s₁,
        (samplePrepareDrain 1500).run.Executes ∅ visited (some (.ok (drain, transition))) s₁
        ∧ ((samplePrepareDrain 1501).run.run s₁).1 = .error (.spool .conflict) := by
  obtain ⟨⟨drain, transition⟩, s', hyields, hconflict, _⟩ := samplePrepareDrain_yields
  have hexecutes := Program.executes_run (samplePrepareDrain 1500).run ∅
  rw [hyields] at hexecutes
  exact ⟨_, drain, transition, s', hexecutes, hconflict⟩

theorem samplePrepareDrain_retry
    : ∃ sent s', Yields (samplePrepareDrain 1500) ∅ sent s'
        ∧ ∃ s₃, Yields (samplePrepareDrain 1500) s' sent s₃ := by
  let _ := lowHashes
  obtain ⟨⟨drain, transition⟩, s', hyields, _, hsequence, hpersisted, hpending⟩ :=
    samplePrepareDrain_yields
  have hexecutes := Program.executes_run (samplePrepareDrain 1500).run ∅
  rw [hyields] at hexecutes
  obtain ⟨t, hpending⟩ := StoreM.exists_yields_of_eq hpending
  rw [OperatorCaptureSpool.pendingForAssignment_reads hpending] at hpending
  obtain ⟨_, _, head, hhead, hbuild, _⟩ := prepareDrain_yields.mp hyields
  obtain ⟨hassignment, _, hhead', _⟩ := buildDrainAndTransition_eq_ok hbuild
  have hsame : Yields (sequenceHead (objectId sampleBundle.assignment)) s' head s' := by
    rw [sequenceHead_yields] at hhead ⊢
    rw [hsequence]
    exact ⟨hhead.1, hhead.2.1, rfl⟩
  obtain ⟨hiff, hsent⟩ := completeDrain_retry hyields hexecutes rfl
  obtain ⟨⟨drain', transition'⟩, s₃, hretry⟩ := hiff.mpr
    ⟨hpending, head, hsame, by rw [hhead', hassignment], .inr ⟨rfl, hhead⟩⟩
  rcases (hsent drain' transition' s₃ hretry).2 with hnone | ⟨rfl, rfl⟩
  . rw [(Prod.mk.inj hnone).1] at hpersisted
    exact absurd hpersisted Bool.false_ne_true
  . exact ⟨(drain', transition'), s', hyields, s₃, hretry⟩

end MeshMine.CoreLink
