import MeshMine.Handoff.DrainBoundary

/-!
The assignments of a gateway, one after the other. A store follows a history when the assignment head of every
gateway names the last entry, every entry but the last is drained, and a journaled transition leads from each
entry to the next one.
-/

namespace MeshMine.Handoff

open MeshMine.Types Codec Storage
open Storage.ProtocolJournal

variable {current : SequenceHeadV1}

theorem decodeSequenceHead_encode {magic : ByteVec 4} {networkId : UInt8} {head : SequenceHeadV1}
    (h : decodeSequenceHead magic networkId (encodeSequenceHead magic head) = .ok current)
    : current = head := by
  have hread : Decoder.fromCanonicalBytes decodeSequenceHead.decoder (encodeSequenceHead magic head) ⟨64, 0⟩
      = .ok (magic, head) := by
    apply Decoder.Reads.fromCanonicalBytes
    . unfold encodeSequenceHead
      simp only [List.append_assoc]
      apply (Decoder.reads_array _).bind
      apply (Decoder.reads_u8 _).bind
      apply (Decoder.reads_u64 _).bind
      apply Decoder.Reads.map (Decoder.reads_array _)
    . simp [encodeSequenceHead]
  unfold decodeSequenceHead at h
  rw [hread] at h
  simp only [Except.mapError, Except.ok_bind, Except.bind_unit_eq_ok] at h
  obtain ⟨_, _, h⟩ := h
  injection h with h
  exact h.symm

variable {n : UInt8}

theorem networkId_of_stateValue {n' : UInt8} {a a' : Hash256} {status status' : UInt8}
    (h : assignmentStateValue n a status = assignmentStateValue n' a' status')
    : n = n' := by
  simp only [assignmentStateValue, List.append_assoc, Encoder.fixed_append_inj, Encoder.u8_append_inj] at h
  exact h.2.1

variable [P : Primitives]

def headBytes (assignment : GatewayAssignmentV1) : List UInt8 :=
  encodeSequenceHead assignmentHeadMagic
    ⟨assignment.networkId, assignment.assignmentSequence, objectId assignment⟩

def stateBytes (assignment : GatewayAssignmentV1) (status : UInt8) : List UInt8 :=
  assignmentStateValue assignment.networkId (objectId assignment) status

def AssignmentOnRecord (s : Store) (assignment : GatewayAssignmentV1) : Prop :=
  s.find (journalRow .gatewayAssignment (objectId assignment).toList) = some (toCanonicalBytes assignment)

variable {s : Store} {a : GatewayAssignmentV1}

theorem AssignmentOnRecord.eq {b : GatewayAssignmentV1} (ha : AssignmentOnRecord s a) (hb : AssignmentOnRecord s b)
    (h : objectId a = objectId b)
    : a = b := by
  unfold AssignmentOnRecord at ha hb
  rw [h, hb, Option.some.injEq] at ha
  exact (GatewayAssignmentV1.toCanonicalBytes_inj.mp ha).symm

structure Succeeds (s : Store) (previous next : GatewayAssignmentV1) : Prop where
  state : s.find (assignmentStateRow (objectId previous)) = some (stateBytes previous assignmentStateDrained)
  transition : ∃ transition : GatewayAssignmentTransitionV1,
    s.find (journalRow .gatewayAssignmentTransition (objectId previous).toList)
      = some (toCanonicalBytes transition)
    ∧ transition.previousAssignmentId = objectId previous ∧ transition.nextAssignmentId = objectId next
    ∧ ∃ cursor, decodeCursor (objectId previous) (s.find (captureCursorRow (objectId previous))) = .ok cursor
      ∧ cursor.drainedThroughSequence = some transition.previousAssignmentLastGatewaySequence

variable {next : GatewayAssignmentV1} {s' : Store}

theorem Succeeds.rely {previous : GatewayAssignmentV1} (h : Succeeds s previous next) (hs : handoffRely.rel s s')
    : Succeeds s' previous next := by
  obtain ⟨hstate, hcursor⟩ := hs.2 _ ⟨_, h.state⟩
  obtain ⟨transition, hrecorded, hprevious, hnext, hdrained⟩ := h.transition
  constructor
  . rw [hstate]
    exact h.state
  . refine ⟨transition, hs.1 _ _ (isJournal_journalRow _ _) hrecorded, hprevious, hnext, ?_⟩
    rw [hcursor]
    exact hdrained

abbrev AssignmentHistory := UInt8 → PublicKey → List GatewayAssignmentV1

structure EntryAt (s : Store) (n : UInt8) (k : PublicKey) (i : Nat) (a : GatewayAssignmentV1) : Prop where
  network : a.networkId = n
  gateway : a.gatewayPubkey = k
  sequence : a.assignmentSequence.toNat = i + 1
  recorded : AssignmentOnRecord s a

def AssignmentHistory.Knows (history : AssignmentHistory) (id : Hash256) (bytes : List UInt8) : Prop :=
  ∃ n k, ∃ a ∈ history n k, objectId a = id
    ∧ (bytes = stateBytes a assignmentStateActive ∨ bytes = stateBytes a assignmentStateDrained)

structure Follows (s : Store) (history : AssignmentHistory) : Prop where
  head : ∀ n k, s.find (assignmentHeadRow n k) = (history n k).getLast?.map headBytes
  entries : ∀ n k i a, (history n k)[i]? = some a → EntryAt s n k i a
  links : ∀ n k i previous next, (history n k)[i]? = some previous → (history n k)[i + 1]? = some next
    → Succeeds s previous next
  states : ∀ id bytes, s.find (assignmentStateRow id) = some bytes → history.Knows id bytes

variable {k : PublicKey}

theorem EntryAt.rely {i : Nat} (h : EntryAt s n k i a) (hs : journalRely.rel s s')
    : EntryAt s' n k i a :=
  ⟨h.network, h.gateway, h.sequence, hs _ _ (isJournal_journalRow _ _) h.recorded⟩

variable {before after : Store} {history : AssignmentHistory}

theorem Follows.keeps (h : Follows before history) (hs : handoffRely.rel before after)
    (hheads : ∀ n k, after.find (assignmentHeadRow n k) = before.find (assignmentHeadRow n k))
    (hstates : ∀ id bytes, after.find (assignmentStateRow id) = some bytes
      → before.find (assignmentStateRow id) = some bytes ∨ history.Knows id bytes)
    : Follows after history where
  head n k := by rw [hheads, h.head]
  entries n k i a ha := (h.entries n k i a ha).rely hs.1
  links n k i previous next hprevious hnext := (h.links n k i previous next hprevious hnext).rely hs
  states id bytes hbytes := (hstates id bytes hbytes).elim (h.states id bytes) fun hknows => hknows

def AssignmentHistory.add (history : AssignmentHistory) (next : GatewayAssignmentV1) : AssignmentHistory :=
  fun n k =>
    if n = next.networkId ∧ k = next.gatewayPubkey then history n k ++ [next] else history n k

omit P in
theorem AssignmentHistory.prefix_add (history : AssignmentHistory) (next : GatewayAssignmentV1) (n : UInt8)
    (k : PublicKey)
    : history n k <+: history.add next n k := by
  unfold add
  split
  . exact List.prefix_append _ _
  . exact List.prefix_refl _

variable {bytes : List UInt8}

theorem AssignmentHistory.Knows.add {id : Hash256} (h : history.Knows id bytes) (next : GatewayAssignmentV1)
    : (history.add next).Knows id bytes := by
  obtain ⟨n, k, a, hmem, hrest⟩ := h
  exact ⟨n, k, a, (history.prefix_add next n k).subset hmem, hrest⟩

theorem Follows.add (h : Follows before history) (hs : handoffRely.rel before after)
    (hafter : ∀ row : Row, row.space ∈ handoffSpaces
      → after.find row = (before.applyAll (authorizeOperations next)).find row)
    (hrecorded : AssignmentOnRecord after next)
    (hsequence : next.assignmentSequence.toNat = (history next.networkId next.gatewayPubkey).length + 1)
    (hlink : ∀ previous, (history next.networkId next.gatewayPubkey).getLast? = some previous
      → Succeeds after previous next)
    : Follows after (history.add next) where
  head := by
    intro n k
    rw [hafter _ (headRow_space n k), find_authorizeOperations_head]
    unfold AssignmentHistory.add
    split
    . simp [headBytes]
    . rw [h.head]
  entries := by
    intro n k i a ha
    unfold AssignmentHistory.add at ha
    split at ha
    next hkey =>
      rw [List.getElem?_append] at ha
      split at ha
      . exact (h.entries n k i a ha).rely hs.1
      next hge =>
        have hlast := (List.getElem?_eq_some_iff.mp ha).1
        have heq := List.mem_singleton.mp (List.mem_of_getElem? ha)
        rw [List.length_singleton] at hlast
        subst heq
        rw [hkey.1, hkey.2] at hlast hge
        exact ⟨hkey.1.symm, hkey.2.symm, by omega, hrecorded⟩
    . exact (h.entries n k i a ha).rely hs.1
  links := by
    intro n k i previous next' hprevious hnext
    unfold AssignmentHistory.add at hprevious hnext
    split at hprevious
    next hkey =>
      rw [if_pos hkey] at hnext
      rw [List.getElem?_append] at hnext
      split at hnext
      next hlt =>
        rw [List.getElem?_append_left (by omega)] at hprevious
        exact (h.links n k i previous next' hprevious hnext).rely hs
      next hge =>
        have hlast := (List.getElem?_eq_some_iff.mp hnext).1
        have heq := List.mem_singleton.mp (List.mem_of_getElem? hnext)
        rw [List.length_singleton] at hlast
        subst heq
        rw [List.getElem?_append_left (by omega)] at hprevious
        apply hlink
        rw [← hkey.1, ← hkey.2, List.getLast?_eq_getElem?]
        have hi : (history n k).length - 1 = i := by omega
        rw [hi, hprevious]
    next hkey =>
      rw [if_neg hkey] at hnext
      exact (h.links n k i previous next' hprevious hnext).rely hs
  states := by
    intro id bytes hbytes
    rw [hafter _ (stateRow_space id), find_authorizeOperations_state] at hbytes
    split at hbytes
    next heq =>
      injection hbytes with hbytes
      refine ⟨next.networkId, next.gatewayPubkey, next, ?_, heq.symm, .inl hbytes.symm⟩
      simp [AssignmentHistory.add]
    . exact (h.states id bytes hbytes).add next

theorem Follows.last_of_head (h : Follows before history) (hbytes : before.find (assignmentHeadRow n k) = some bytes)
    (hcurrent : decodeSequenceHead assignmentHeadMagic n bytes = .ok current)
    : ∃ last, (history n k).getLast? = some last ∧ AssignmentOnRecord before last
      ∧ current.objectId = objectId last
      ∧ last.assignmentSequence.toNat = (history n k).length := by
  rw [h.head, Option.map_eq_some_iff] at hbytes
  obtain ⟨last, hlast, rfl⟩ := hbytes
  have hplace := hlast
  rw [List.getLast?_eq_getElem?] at hplace
  have hentry := h.entries n k _ last hplace
  have hlength := (List.getElem?_eq_some_iff.mp hplace).1
  refine ⟨last, hlast, hentry.recorded, ?_, ?_⟩
  . rw [decodeSequenceHead_encode hcurrent]
  . rw [hentry.sequence]
    omega

variable {assignment : GatewayAssignmentV1}

theorem Follows.again (h : Follows before history) (hs : handoffRely.rel before after)
    (hafter : ∀ row : Row, row.space ∈ handoffSpaces
      → after.find row = (before.applyAll (authorizeOperations assignment)).find row)
    (hlast : (history assignment.networkId assignment.gatewayPubkey).getLast? = some assignment)
    : Follows after history := by
  apply h.keeps hs
  . intro n k
    rw [hafter _ (headRow_space n k), find_authorizeOperations_head]
    split
    next hkey =>
      rw [h.head, hkey.1, hkey.2, hlast]
      rfl
    . rfl
  . intro id bytes hbytes
    rw [hafter _ (stateRow_space id), find_authorizeOperations_state] at hbytes
    split at hbytes
    next heq =>
      injection hbytes with hbytes
      exact .inr ⟨_, _, assignment, List.mem_of_getLast? hlast, heq.symm, .inl hbytes.symm⟩
    . exact .inl hbytes

theorem Follows.authorizes (h : Follows before history) (hstep : Authorizes assignment before after)
    : ∃ history', Follows after history' ∧ ∀ n k, history n k <+: history' n k := by
  obtain ⟨_, hcommit⟩ := hstep.commit
  have hrecorded : AssignmentOnRecord after assignment := hcommit.recorded (List.mem_singleton_self _)
  have hs := (HandoffStep.authorizes hstep).rely
  have hchecked := hstep.checked
  unfold persistGatewayAssignmentAuthorization.checkSequence at hchecked
  cases hhead : before.find (assignmentHeadRow assignment.networkId assignment.gatewayPubkey) with
  | none =>
    rw [hhead, Except.rejectIf_eq_ok, not_not] at hchecked
    have hempty : history assignment.networkId assignment.gatewayPubkey = [] := by
      rw [h.head, Option.map_eq_none_iff] at hhead
      exact List.getLast?_eq_none_iff.mp hhead
    refine ⟨history.add assignment, h.add hs (fun _ => hstep.find) hrecorded ?_ ?_,
      history.prefix_add assignment⟩
    . rw [hchecked, hempty]
      rfl
    . intro previous hprevious
      rw [hempty] at hprevious
      contradiction
  | some bytes =>
    rw [hhead] at hchecked
    obtain ⟨current, hcurrent, hchecked⟩ := Except.bind_eq_ok hchecked
    rw [Except.rejectIf_eq_ok] at hchecked
    push Not at hchecked
    obtain ⟨last, hlast, honRecord, hobject, _⟩ := h.last_of_head hhead hcurrent
    have heq : last = assignment :=
      AssignmentOnRecord.eq (hs.1 _ _ (isJournal_journalRow _ _) honRecord) hrecorded
        (hobject.symm.trans hchecked.1)
    rw [heq] at hlast
    exact ⟨history, h.again hs (fun _ => hstep.find) hlast, fun _ _ => List.prefix_refl _⟩

theorem Follows.transitions {transition : GatewayAssignmentTransitionV1} (h : Follows before history)
    (hstep : Transitions next transition before after)
    : ∃ history', Follows after history' ∧ ∀ n k, history n k <+: history' n k := by
  obtain ⟨_, hcommit⟩ := hstep.commit
  obtain ⟨previous, hprecedes, bytes, current, hhead, hcurrent, hid⟩ := hstep.precedes
  have hs := (HandoffStep.transitions hstep).rely
  obtain ⟨last, hlast, honRecord, hobject, hlength⟩ := h.last_of_head hhead hcurrent
  have heq : last = previous := honRecord.eq hprecedes.recorded (hobject.symm.trans hid)
  subst heq
  have hsequence : next.assignmentSequence.toNat = last.assignmentSequence.toNat + 1 :=
    UInt64.toNat_of_checkedAdd_eq_some hprecedes.sequence
  refine ⟨history.add next, h.add hs (fun _ => hstep.find) ?_ (by omega) ?_, history.prefix_add next⟩
  . exact hcommit.recorded (List.mem_cons_self ..)
  . intro other hother
    rw [hlast, Option.some.injEq] at hother
    subst hother
    obtain ⟨hstate, hcursor⟩ := hs.2 (objectId last) ⟨_, hprecedes.state⟩
    constructor
    . rw [hstate]
      exact hprecedes.state
    . refine ⟨transition, ?_, hprecedes.previousId.symm, hprecedes.nextId, ?_⟩
      . rw [hprecedes.previousId]
        exact hcommit.recorded (List.mem_cons_of_mem _ (List.mem_cons_self ..))
      . rw [hcursor]
        exact hprecedes.cursor

theorem HandoffStep.follows (hstep : HandoffStep before after) (h : Follows before history)
    : ∃ history', Follows after history' ∧ ∀ n k, history n k <+: history' n k := by
  rcases hstep.cases with ⟨_, hauthorizes⟩ | ⟨_, _, htransitions⟩ | hrows
  . exact h.authorizes hauthorizes
  . exact h.transitions htransitions
  refine ⟨history, h.keeps hstep.rely ?_ ?_, fun _ _ => List.prefix_refl _⟩
  . intro n k
    cases hrows _ (headRow_space n k) (by simp) with
    | same hsame => exact hsame
    | advances hrow => simp at hrow
    | drains hrow => simp at hrow
  . intro id bytes hbytes
    cases hrows _ (stateRow_space id) (by simp) with
    | same hsame => exact .inl (hsame.symm.trans hbytes)
    | advances hrow => simp at hrow
    | drains hrow hdrains =>
      obtain rfl : id = _ := by simpa using hrow
      rw [hdrains.closed.state, Option.some.injEq] at hbytes
      obtain ⟨n, k, a, hmem, hid, hactive | hdrained⟩ := h.states _ _ hdrains.state
      . refine .inr ⟨n, k, a, hmem, hid, .inr ?_⟩
        rw [← hbytes]
        unfold stateBytes at hactive ⊢
        rw [hid, networkId_of_stateValue hactive]
      . exact absurd hdrained (assignmentStateValue_ne _ _ _ _)

omit P in
theorem HandoffUnused.follows [Primitives] {store : Store} (h : HandoffUnused store)
    : Follows store fun _ _ => [] := by
  constructor
  . intro n k
    exact h _ (.inl (headRow_space n k))
  . intro n k i a ha
    contradiction
  . intro n k i previous next hprevious
    contradiction
  . intro id bytes hbytes
    rw [h _ (.inl (stateRow_space id))] at hbytes
    contradiction

def DrainsRecorded (s : Store) : Prop :=
  ∀ a, Drained s a → ∃ drain : GatewayAssignmentDrainV1, drain.assignmentId = a ∧ DrainOnRecord s drain

theorem HandoffStep.drainsRecorded (h : DrainsRecorded before) (hstep : HandoffStep before after)
    : DrainsRecorded after := by
  have hs := hstep.rely
  intro a hdrained
  by_cases hbefore : Drained before a
  . obtain ⟨drain, ha, hrecorded⟩ := h a hbefore
    exact ⟨drain, ha, hs.1 _ _ (isJournal_journalRow _ _) hrecorded⟩
  obtain ⟨networkId, hdrained⟩ := hdrained
  have hauthorized : ∀ assignment : GatewayAssignmentV1,
      (before.applyAll (authorizeOperations assignment)).find (assignmentStateRow a)
        ≠ some (assignmentStateValue networkId a assignmentStateDrained) := by
    intro assignment heq
    rw [find_authorizeOperations_state] at heq
    split at heq
    . exact assignmentStateValue_ne _ _ _ _ (Option.some.inj heq)
    . exact hbefore ⟨networkId, heq⟩
  rcases hstep.cases with ⟨_, h⟩ | ⟨_, _, h⟩ | hrows
  . exact absurd ((h.find (stateRow_space a)).symm.trans hdrained) (hauthorized _)
  . exact absurd ((h.find (stateRow_space a)).symm.trans hdrained) (hauthorized _)
  cases hrows _ (stateRow_space a) (by simp) with
  | same hsame => exact absurd ⟨networkId, hsame.symm.trans hdrained⟩ hbefore
  | advances hrow => simp at hrow
  | drains hrow hdrains =>
    obtain rfl : a = _ := by simpa using hrow
    exact ⟨_, rfl, hdrains.closed.recorded⟩

end MeshMine.Handoff
