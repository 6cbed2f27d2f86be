import MeshMine.Handoff.AssignmentHistory
import MeshMine.Share.DrainedAssignments

/-!
The handoff operations of Core in any interleaving: the assignments of every gateway follow one another, each
started by a journaled transition from its drained predecessor.
-/

namespace MeshMine.Share

open MeshMine.Types Storage Handoff
open Storage.ProtocolJournal

section

variable [P : Primitives]

structure AssignmentsInOrder (s : Store) (n : UInt8) (k : PublicKey) (history : List GatewayAssignmentV1)
    : Prop where
  head : s.find (assignmentHeadRow n k) = history.getLast?.map headBytes
  entries : ∀ i a, history[i]? = some a → a.networkId = n ∧ a.gatewayPubkey = k
    ∧ a.assignmentSequence.toNat = i + 1 ∧ AssignmentOnRecord s a
  -- Whatever assignment of this gateway has a state is in the history; the active one is its last entry.
  known : ∀ id bytes, s.find (assignmentStateRow id) = some bytes
    → ∃ a, objectId a = id ∧ AssignmentOnRecord s a
      ∧ (bytes = stateBytes a assignmentStateActive ∨ bytes = stateBytes a assignmentStateDrained)
      ∧ (a.networkId = n → a.gatewayPubkey = k
        → a ∈ history ∧ (bytes = stateBytes a assignmentStateActive → history.getLast? = some a))
  transitions : ∀ i previous next, history[i]? = some previous → history[i + 1]? = some next
    → s.find (assignmentStateRow (objectId previous)) = some (stateBytes previous assignmentStateDrained)
      ∧ ∃ (transition : GatewayAssignmentTransitionV1) (drain : GatewayAssignmentDrainV1),
        Journaled s .gatewayAssignmentTransition
          (journalRow .gatewayAssignmentTransition (objectId previous).toList) transition
        ∧ transition.previousAssignmentId = objectId previous
        ∧ transition.nextAssignmentId = objectId next
        ∧ drain.assignmentId = objectId previous ∧ DrainOnRecord s drain
        ∧ transition.previousAssignmentLastGatewaySequence = drain.lastGatewaySequence

theorem assignmentsInOrder_of_follows {s : Store} {history : AssignmentHistory} (h : Follows s history)
    (hboundaries : Boundaries s) (hrecorded : DrainsRecorded s) (n : UInt8) (k : PublicKey)
    : AssignmentsInOrder s n k (history n k) where
  head := h.head n k
  entries := by
    intro i a ha
    have hentry := h.entries n k i a ha
    exact ⟨hentry.network, hentry.gateway, hentry.sequence, hentry.recorded⟩
  known := by
    intro id bytes hbytes
    obtain ⟨n', k', a, hmem, rfl, hstatus⟩ := h.states id bytes hbytes
    obtain ⟨i, hi⟩ := List.mem_iff_getElem?.mp hmem
    have hentry := h.entries n' k' i a hi
    refine ⟨a, rfl, hentry.recorded, hstatus, ?_⟩
    rintro rfl rfl
    rw [hentry.network, hentry.gateway]
    refine ⟨hmem, ?_⟩
    rintro rfl
    -- An entry with a successor is drained.
    have hlast : (history n' k').length = i + 1 := by
      have hlt := (List.getElem?_eq_some_iff.mp hi).1
      by_contra hne
      obtain ⟨next, hnext⟩ : ∃ next, (history n' k')[i + 1]? = some next :=
        ⟨_, List.getElem?_eq_getElem (by omega)⟩
      have hdrained := (h.links n' k' i a next hi hnext).state
      rw [hbytes, Option.some.injEq] at hdrained
      exact assignmentStateValue_ne _ _ _ _ hdrained
    rw [List.getLast?_eq_getElem?, hlast]
    exact hi
  transitions := by
    intro i previous next hprevious hnext
    have hlink := h.links n k i previous next hprevious hnext
    obtain ⟨transition, hjournaled, hfrom, hto, cursor, hdecode, hcutoff⟩ := hlink.transition
    obtain ⟨drain, hid, hdrain⟩ := hrecorded _ ⟨_, hlink.state⟩
    obtain ⟨cursor', hdecode', _, hthrough⟩ := (hboundaries.drainedAt hdrain).cursor
    rw [hid, hdecode, Except.ok.injEq] at hdecode'
    subst hdecode'
    rw [hthrough, Option.some.injEq] at hcutoff
    exact ⟨hlink.state, transition, drain, ⟨rfl, hjournaled⟩, hfrom, hto, hid, hdrain, hcutoff.symm⟩

variable {ι : Type} [DecidableEq ι] {store : Store} {pool : HandoffPool ι}

theorem HandoffPool.drainsRecorded (hstore : HandoffUnused store)
    (h : Pool.Reaches HandoffCall.program (Pool.idle store) pool)
    : DrainsRecorded pool.state := by
  apply HandoffPool.invariant (fun _ _ hI hstep => hstep.drainsRecorded hI) _ h
  rintro a ⟨_, hdrained⟩
  rw [hstore _ (.inl (stateRow_space a))] at hdrained
  contradiction

theorem follows_of_trace {s s' : Store} {history : AssignmentHistory}
    (htrace : Relation.ReflTransGen HandoffStep s s') (h : Follows s history)
    : ∃ history', Follows s' history' ∧ ∀ n k, history n k <+: history' n k := by
  induction htrace with
  | refl => exact ⟨history, h, fun _ _ => List.prefix_refl _⟩
  | tail _ hstep ih =>
    obtain ⟨history₁, hfollows₁, hprefix₁⟩ := ih
    obtain ⟨history₂, hfollows₂, hprefix₂⟩ := hstep.follows hfollows₁
    exact ⟨history₂, hfollows₂, fun n k => (hprefix₁ n k).trans (hprefix₂ n k)⟩

theorem HandoffPool.reaches_assignmentsInOrder (hstore : HandoffUnused store)
    (h : Pool.Reaches HandoffCall.program (Pool.idle store) pool) (n : UInt8) (k : PublicKey)
    : ∃ history, AssignmentsInOrder pool.state n k history
      ∧ ∀ pool', Pool.Reaches HandoffCall.program pool pool'
        → ∃ history', AssignmentsInOrder pool'.state n k history' ∧ history <+: history' := by
  obtain ⟨history, hfollows, _⟩ := follows_of_trace (HandoffPool.traces .refl h) hstore.follows
  refine ⟨history n k, assignmentsInOrder_of_follows hfollows (HandoffPool.boundaries hstore h)
    (HandoffPool.drainsRecorded hstore h) n k, ?_⟩
  intro pool' h'
  obtain ⟨history', hfollows', hprefix⟩ := follows_of_trace (HandoffPool.traces h h') hfollows
  exact ⟨history' n k, assignmentsInOrder_of_follows hfollows' (HandoffPool.boundaries hstore (h.trans h'))
    (HandoffPool.drainsRecorded hstore (h.trans h')) n k, hprefix n k⟩

end

def sampleNextAssignment : GatewayAssignmentV1 :=
  @signedAssignment Primitives.fold { unsignedAssignment with assignmentSequence := 2 }

def sampleTransition : GatewayAssignmentTransitionV1 :=
  @Handoff.sampleTransition Primitives.fold sampleAssignment sampleNextAssignment 2 30

def sampleReplacementCalls : List HandoffCall :=
  sampleDrainCalls ++ [.assignmentTransition sampleManifest sampleNextAssignment sampleTransition]

def sampleReplacedStore : Store :=
  letI := Primitives.fold
  sampleReplacementCalls.foldl (fun s call => (call.program.run s).2) ∅

theorem sampleTransition_assignmentsInOrder
    : letI := Primitives.fold
      ∃ pool : HandoffPool Unit, Pool.Reaches HandoffCall.program (Pool.idle ∅) pool
        ∧ ∃ history, AssignmentsInOrder pool.state 2 gatewayKey history
          ∧ history.getLast?.map headBytes = some (headBytes sampleNextAssignment) := by
  let _ := Primitives.fold
  obtain ⟨pool, hstate, hreaches⟩ : ∃ pool : HandoffPool Unit, pool.state = sampleReplacedStore
      ∧ Pool.Reaches HandoffCall.program (Pool.idle ∅) pool :=
    ⟨_, Pool.idle_state _, Pool.reaches_after HandoffCall.program () sampleReplacementCalls ∅⟩
  have hunused : HandoffUnused ∅ := fun _ _ => rfl
  have hhead : pool.state.find (assignmentHeadRow 2 gatewayKey)
      = some (headBytes sampleNextAssignment) := by
    rw [hstate]
    decide +kernel
  obtain ⟨history, horder, _⟩ := HandoffPool.reaches_assignmentsInOrder hunused hreaches 2 gatewayKey
  exact ⟨pool, hreaches, history, horder, horder.head.symm.trans hhead⟩

end MeshMine.Share
