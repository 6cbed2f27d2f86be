import MeshMine.CoreLink.CaptureOrder

/-!
The boundary that a drain draws. The client refuses to drain an assignment while the spool holds an envelope
of it without a receipt; a capture that is still in the gateway's queue has no envelope yet.
-/

namespace MeshMine.CoreLink

open MeshMine.Types Codec Gateway Storage

section

variable [P : Primitives]

def Settled (seen : List Store) (s : Store) (assignmentId : Hash256) : Prop :=
  ∀ t ∈ seen, ∀ capture : ForwardedCapture,
    t.find (captureRow (captureWorkKey capture)) = some (encodeDurableCapture capture)
    → capture.jobId = hexEncode assignmentId.toList
    → (s.find (spoolReceiptRow (captureWorkKey capture))).isSome

def DrainsSettled (history : List Store) : Prop :=
  ∀ before t t' after, history = before ++ t :: t' :: after
    → ∀ assignmentId, t'.find (operatorDrainRow assignmentId) ≠ t.find (operatorDrainRow assignmentId)
    → Settled (before ++ [t]) t assignmentId

def Spooled (s : Store) (assignmentId : Hash256) : Prop :=
  ∀ capture : ForwardedCapture,
    s.find (captureRow (captureWorkKey capture)) = some (encodeDurableCapture capture)
    → capture.jobId = hexEncode assignmentId.toList
    → (s.find (spoolEnvelopeRow (captureWorkKey capture))).isSome
      ∨ (s.find (spoolReceiptRow (captureWorkKey capture))).isSome

/-- The capture that an envelope without a receipt was made from. -/
structure PendingFor (s : Store) (workKey : Hash256) (bytes : List UInt8) (capture : ForwardedCapture)
    (envelope : GatewayCaptureEnvelopeV1) : Prop where
  key : captureWorkKey capture = workKey
  queued : s.find (captureRow workKey) = some (encodeDurableCapture capture)
  encoded : bytes = toCanonicalBytes envelope
  carries : Carries envelope capture

structure Covered (seen : List Store) (s : Store) : Prop where
  last : seen.getLast? = some s
  accepted : ∀ t ∈ seen, ∀ workKey bytes, t.find (captureRow workKey) = some bytes
    → s.find (captureRow workKey) = some bytes ∨ (s.find (spoolReceiptRow workKey)).isSome
  pending : ∀ workKey bytes, s.find (spoolEnvelopeRow workKey) = some bytes
    → s.find (spoolReceiptRow workKey) = none
    → ∃ capture envelope, PendingFor s workKey bytes capture envelope
  drains : DrainsSettled seen

variable {s s' : Store} {seen : List Store} {assignmentId : Hash256}

theorem Covered.settled (h : Covered seen s) (hspooled : Spooled s assignmentId) (hclear : Clear s assignmentId)
    : Settled seen s assignmentId := by
  intro t hmem capture hrow hjob
  cases h.accepted t hmem _ _ hrow with
  | inr hreceipt => exact hreceipt
  | inl hqueued =>
    by_contra hnone
    rw [Bool.not_eq_true, Option.isSome_eq_false_iff, Option.isNone_iff_eq_none] at hnone
    obtain henvelope | hreceipt := hspooled capture hqueued hjob
    . obtain ⟨bytes, hbytes⟩ := Option.isSome_iff_exists.mp henvelope
      obtain ⟨found, envelope, hpending⟩ := h.pending _ _ hbytes hnone
      -- The envelope in hand is this capture's own, hence one of the assignment.
      have hcapture : found = capture := by
        have hsame := hpending.queued
        rw [hqueued, Option.some.injEq] at hsame
        apply (encodeDurableCapture_inj _ _ hsame).symm
        . rw [hjob, length_hexEncode, assignmentId.length_toList]
        . rw [hpending.carries.assignment, length_hexEncode, envelope.assignmentId.length_toList]
      have hassignment : envelope.assignmentId = assignmentId := by
        apply ByteVec.ext
        apply hexEncode_inj
        rw [← hpending.carries.assignment, hcapture, hjob]
      obtain ⟨decoded, hdecode, hne⟩ := hclear _ _ hbytes hnone
      rw [hpending.encoded, GatewayCaptureEnvelopeV1.decode_toCanonicalBytes hpending.carries.signature
        (by decide), Except.ok.injEq] at hdecode
      rw [← hdecode] at hne
      exact hne hassignment
    . rw [hnone] at hreceipt
      contradiction

theorem DrainsSettled.append (h : DrainsSettled seen) (hlast : seen.getLast? = some s) (hstep : ∀ assignmentId,
      s'.find (operatorDrainRow assignmentId) ≠ s.find (operatorDrainRow assignmentId)
      → Settled seen s assignmentId)
    : DrainsSettled (seen ++ [s']) := by
  intro before t t' after heq assignmentId hne
  cases after using List.reverseRecOn with
  | nil =>
    have hsplit : seen ++ [s'] = (before ++ [t]) ++ [t'] := by
      rw [heq, List.append_assoc, List.singleton_append]
    obtain ⟨hseen, hs'⟩ := List.append_inj' hsplit rfl
    injection hs' with hs'
    rw [hseen, List.getLast?_concat, Option.some.injEq] at hlast
    rw [← hs', hlast] at hne
    rw [← hseen, hlast]
    exact hstep assignmentId hne
  | append_singleton after last =>
    have hsplit : seen ++ [s'] = (before ++ t :: t' :: after) ++ [last] := by
      rw [heq, List.append_assoc, List.cons_append, List.cons_append]
    obtain ⟨hseen, _⟩ := List.append_inj' hsplit rfl
    exact h before t t' after hseen assignmentId hne

variable {rows : List Row}

omit P in
theorem Frame.find_drainRow (h : Frame rows s s') (hrow : operatorDrainRow assignmentId ∉ rows)
    : s'.find (operatorDrainRow assignmentId) = s.find (operatorDrainRow assignmentId) := by
  apply h _ _ hrow
  simp

/-- A capture leaves the queue with its receipt on record, and an envelope comes with its capture. -/
theorem Covered.of_frame (h : Covered seen s) (hframe : Frame rows s s')
    (hcapture : ∀ workKey, captureRow workKey ∈ rows
      → s.find (captureRow workKey) = none ∨ (s.find (spoolReceiptRow workKey)).isSome)
    (hreceipt : ∀ workKey, spoolReceiptRow workKey ∈ rows → (s'.find (spoolReceiptRow workKey)).isSome)
    (henvelope : ∀ workKey bytes, spoolEnvelopeRow workKey ∈ rows
      → s'.find (spoolEnvelopeRow workKey) = some bytes → s'.find (spoolReceiptRow workKey) = none
      → ∃ capture envelope, PendingFor s' workKey bytes capture envelope)
    (hdrain : ∀ assignmentId, operatorDrainRow assignmentId ∈ rows → Settled seen s assignmentId)
    : Covered (seen ++ [s']) s' := by
  have hreceipts : ∀ workKey, (s.find (spoolReceiptRow workKey)).isSome
      → (s'.find (spoolReceiptRow workKey)).isSome := by
    intro workKey hsome
    by_cases hmem : spoolReceiptRow workKey ∈ rows
    . exact hreceipt workKey hmem
    . rwa [hframe (spoolReceiptRow workKey) (by simp) hmem]
  have hcaptures : ∀ workKey bytes, s.find (captureRow workKey) = some bytes
      → s'.find (captureRow workKey) = some bytes ∨ (s'.find (spoolReceiptRow workKey)).isSome := by
    intro workKey bytes hfind
    by_cases hmem : captureRow workKey ∈ rows
    . rcases hcapture workKey hmem with hnone | hsome
      . rw [hnone] at hfind
        contradiction
      . exact .inr (hreceipts workKey hsome)
    . exact .inl (by rw [hframe (captureRow workKey) (by simp) hmem, hfind])
  constructor
  case last => exact List.getLast?_concat
  case accepted =>
    intro t hmem workKey bytes hfind
    rcases List.mem_append.mp hmem with hold | hlast
    . cases h.accepted t hold workKey bytes hfind with
      | inl hqueued => exact hcaptures workKey bytes hqueued
      | inr hreceipt => exact .inr (hreceipts workKey hreceipt)
    . rw [List.mem_singleton.mp hlast] at hfind
      exact .inl hfind
  case pending =>
    intro workKey bytes hfind hnone
    by_cases hmem : spoolEnvelopeRow workKey ∈ rows
    . exact henvelope workKey bytes hmem hfind hnone
    . have hunset : ¬ (s'.find (spoolReceiptRow workKey)).isSome := by
        rw [hnone]
        exact Bool.false_ne_true
      have hnone' : s.find (spoolReceiptRow workKey) = none := by
        by_contra hsome
        exact hunset (hreceipts workKey (Option.isSome_iff_ne_none.mpr hsome))
      rw [hframe (spoolEnvelopeRow workKey) (by simp) hmem] at hfind
      obtain ⟨capture, envelope, hpending⟩ := h.pending workKey bytes hfind hnone'
      refine ⟨capture, envelope, { hpending with queued := ?_ }⟩
      exact (hcaptures workKey _ hpending.queued).resolve_right hunset
  case drains =>
    apply h.drains.append h.last
    intro assignmentId hne
    apply hdrain
    by_contra hmem
    exact hne (hframe.find_drainRow hmem)

variable {workKey : Hash256} {capture : ForwardedCapture}

theorem Covered.prepare {envelope : GatewayCaptureEnvelopeV1} (h : Covered seen s)
    (hnumbers : Numbers capture envelope s s')
    : Covered (seen ++ [s']) s' := by
  apply h.of_frame hnumbers.frame (by simp) (by simp) _ (by simp)
  intro workKey bytes hmem hfind _
  obtain rfl : workKey = captureWorkKey capture := by simpa using hmem
  rw [hnumbers.put, Option.some.injEq] at hfind
  refine ⟨capture, envelope, rfl, ?_, hfind.symm, hnumbers.carries⟩
  rw [hnumbers.frame (captureRow _) (by simp) (by simp), hnumbers.queued]

theorem Covered.step {now : UInt64} {Front : Store → ForwardedCapture → Prop} (h : Covered seen s)
    (hstep : OperatorStep (Permits now Front Spooled) s s')
    : Covered (seen ++ [s']) s' := by
  obtain ⟨event, hpermits, hhappens⟩ := hstep
  cases hhappens with
  | internal hframe => exact h.of_frame hframe (by simp) (by simp) (by simp) (by simp)
  | @accept capture haccepts =>
    apply h.of_frame haccepts.frame _ (by simp) (by simp) (by simp)
    intro workKey hmem
    obtain rfl : workKey = captureWorkKey capture := by simpa using hmem
    exact .inl haccepts.absent
  | prepare hnumbers => exact h.prepare hnumbers
  | @record workKey hframe hput hdelete =>
    apply h.of_frame hframe (by simp) _ _ (by simp)
    . intro other hmem
      obtain rfl : other = workKey := by simpa using hmem
      exact hput
    . intro other bytes hmem hfind
      obtain rfl : other = workKey := by simpa using hmem
      rw [hdelete] at hfind
      contradiction
  | @acknowledge capture hreceipt hframe _ =>
    apply h.of_frame hframe _ (by simp) (by simp) (by simp)
    intro workKey hmem
    obtain rfl : workKey = captureWorkKey capture := by simpa using hmem
    exact .inr hreceipt
  | @drain assignmentId hclear hframe =>
    apply h.of_frame hframe (by simp) (by simp) (by simp)
    intro other hmem
    obtain rfl : other = assignmentId := by simpa using hmem
    exact h.settled hpermits hclear

theorem Covered.sent (h : Covered seen s') (hspooled : Spooled s assignmentId) (hclear : Clear s assignmentId)
    (hframe : Frame [operatorDrainRow assignmentId] s s')
    : Settled seen s' assignmentId := by
  apply h.settled
  . intro capture hrow hjob
    rw [hframe (captureRow _) (by simp) (by simp)] at hrow
    rw [hframe (spoolEnvelopeRow _) (by simp) (by simp), hframe (spoolReceiptRow _) (by simp) (by simp)]
    exact hspooled capture hrow hjob
  . intro key bytes hfind hnone
    rw [hframe _ (by simp) (by simp)] at hfind hnone
    exact hclear key bytes hfind hnone

/-!
### Runs that empty the queue into the spool first
-/

def DrainsSpooled (o : Operator) (call : OperatorCall) : Prop :=
  call.Meets (fun _ _ => True) Spooled o.gateway o.store

theorem covered_start (h : Unused s) : Covered [s] s where
  last := rfl
  accepted := by
    intro t hmem workKey bytes hfind
    rw [List.mem_singleton.mp hmem] at hfind
    exact .inl hfind
  pending := by
    intro workKey bytes hfind
    rw [h _ (by simp)] at hfind
    contradiction
  drains := by
    intro before t t' after heq
    have hlength := congrArg List.length heq
    simp only [List.length_append, List.length_cons, List.length_nil] at hlength
    omega

theorem Operator.Runs.drains_settled {client : OperatorCoreLinkClient} {store : Store} {o : Operator}
    (hstore : Unused store) (hruns : Operator.Runs client DrainsSpooled (Operator.start store) o)
    : DrainsSettled o.history
      ∧ ∀ drain seen, (drain, seen) ∈ o.sent
        → ∃ s, seen.getLast? = some s ∧ Settled seen s drain.assignmentId := by
  have hkeeps : o.Keeps (fun _ seen s => Covered seen s)
      (fun drain seen => ∃ s, seen.getLast? = some s ∧ Settled seen s drain.assignmentId) := by
    have hfront : Admits (fun _ _ => True) (fun _ _ => True) := fun _ _ _ _ _ _ _ => trivial
    have hstep : ∀ (now : UInt64) seen s s', Covered seen s
        → OperatorStep (Permits now (fun _ _ => True) Spooled) s s' → Covered (seen ++ [s']) s' := by
      intro now seen s s' h hstep
      exact h.step hstep
    apply hruns.keeps hfront hstep
    . intro now seen s s' drain h hspooled hclear hframe
      exact ⟨s', h.last, h.sent hspooled hclear hframe⟩
    . intro o call hcall
      exact hcall
    . intro o call seen s _ h
      exact h
    . refine ⟨?_, covered_start hstore, ?_⟩
      . intro g hg
        contradiction
      . intro sending hmem
        contradiction
  exact ⟨hkeeps.stores.drains, fun drain seen hmem => hkeeps.sent (drain, seen) hmem⟩

end

theorem sampleAll_drains_settled
    : letI := lowHashes
      ∃ drain seen s, (drain, seen) ∈ (sampleAll.next sampleClient sampleCompleteDrain).sent
        ∧ drain.assignmentId = objectId sampleBundle.assignment
        ∧ seen.getLast? = some s ∧ Settled seen s (objectId sampleBundle.assignment) := by
  let _ := lowHashes
  have hunused : Unused ∅ := fun _ _ => rfl
  obtain ⟨_, _, _, _, hempty, _, ⟨drain, seen⟩, hsent, hassignment⟩ := sampleRun_states
  have hruns : Operator.Runs sampleClient DrainsSpooled (Operator.start ∅)
      (sampleAll.next sampleClient sampleCompleteDrain) := by
    apply Operator.Runs.next
    . apply Operator.Runs.next
      . apply Operator.Runs.next
        . exact sampleAccepted_runs fun o call hmem _ => sampleSubmissions_meet hmem
        . intro g _
          exact Handed.of_forall (fun _ _ => trivial) _ _
      . intro g _
        exact Handed.of_forall (fun _ _ => trivial) _ _
    . -- No capture is left in the queue.
      intro capture hrow _
      have hmem : (⟨hexEncode (captureWorkKey capture).toList, encodeDurableCapture capture⟩
          : NamespaceRecord) ∈ sampleAll.store.inNamespace captureSpace :=
        Store.mem_inNamespace.mpr hrow
      rw [hempty] at hmem
      exact absurd hmem List.not_mem_nil
  obtain ⟨s, hlast, hsettled⟩ := (Operator.Runs.drains_settled hunused hruns).2 drain seen hsent
  exact ⟨drain, seen, s, hsent, hassignment, hlast, hassignment ▸ hsettled⟩

theorem sampleFirst_drains_unsettled
    : letI := lowHashes
      Operator.Runs sampleClient (fun _ _ => True) (Operator.start ∅)
          (sampleFirst.next sampleClient sampleCompleteDrain)
        ∧ ∃ drain seen s, (drain, seen) ∈ (sampleFirst.next sampleClient sampleCompleteDrain).sent
          ∧ seen.getLast? = some s ∧ ¬ Settled seen s drain.assignmentId := by
  let _ := lowHashes
  constructor
  . apply Operator.Runs.next _ trivial
    apply Operator.Runs.next _ trivial
    exact sampleAccepted_runs fun _ _ _ _ => trivial
  . obtain ⟨_, _, _, _, _, ⟨⟨drain, seen⟩, hsent, hassignment, s, hlast, hqueued, hreceipt⟩, _⟩ :=
      sampleRun_states
    refine ⟨drain, seen, s, hsent, hlast, ?_⟩
    intro hsettled
    have hjob : (sampleCapture 1 20).jobId = hexEncode drain.assignmentId.toList := by
      rw [show drain.assignmentId = objectId sampleBundle.assignment from hassignment]
      rfl
    have hrecorded := hsettled s (List.mem_of_getLast? hlast) _ hqueued hjob
    rw [hreceipt] at hrecorded
    exact absurd hrecorded Bool.false_ne_true

end MeshMine.CoreLink
