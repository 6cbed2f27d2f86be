import MeshMine.Gateway.Steps

/-!
The queue of captures. While the gateway runs, its memory mirrors the capture rows of the store; the
front of the queue is what the next hand-over takes, and removing it moves the last capture to the front.
-/

namespace MeshMine.Gateway

open Storage
open Except (rejectIf bind_eq_ok bind_unit_eq_ok)
open GatewayM (Ends)
open StoreM.Ends (bind_ofExcept bind_get)
open GatewayM.Ends (checked expect expect_some memory ofStore refuseIf refuseIf_of_not update)

/-!
### Removal by swapping
-/

variable {α : Type}

theorem swapRemove_zero_perm (value : α) (rest : List α)
    : (swapRemove (value :: rest) 0).Perm rest := by
  unfold swapRemove
  cases rest using List.reverseRecOn with
  | nil => exact List.Perm.refl _
  | append_singleton rest last =>
    have hlast : (value :: (rest ++ [last])).getLast? = some last := by
      rw [← List.cons_append, List.getLast?_concat]
    rw [hlast]
    dsimp only
    rw [List.set_cons_zero, ← List.cons_append, List.dropLast_concat]
    exact List.perm_append_singleton last rest |>.symm

/-- What holds of the captures that the next hand-overs take, each with those still behind it. -/
def Handed (P : ForwardedCapture → List ForwardedCapture → Prop)
    : Nat → List ForwardedCapture → Prop
  | 0, _ => True
  | _ + 1, [] => True
  | n + 1, capture :: rest => P capture rest ∧ Handed P n (swapRemove (capture :: rest) 0)

theorem Handed.of_forall {P : ForwardedCapture → List ForwardedCapture → Prop} (h : ∀ c rest, P c rest)
    (n : Nat) (queue : List ForwardedCapture)
    : Handed P n queue := by
  induction n generalizing queue with
  | zero => exact trivial
  | succ n ih =>
    cases queue with
    | nil => exact trivial
    | cons capture rest => exact ⟨h capture rest, ih _⟩

variable [P : Primitives]

/-!
### The mirror
-/

structure Mirrors (g : Gateway) (s : Store) : Prop where
  nodup : (g.forwarded.map captureWorkKey).Nodup
  stored : ∀ c ∈ g.forwarded, s.find (captureRow (captureWorkKey c)) = some (encodeDurableCapture c)
  complete : ∀ row value, row.space = captureSpace → s.find row = some value
    → ∃ c ∈ g.forwarded, row = captureRow (captureWorkKey c)
  pending : ∀ sequence,
    pendingCaptures g sequence = g.forwarded.countP (·.assignmentSequence = sequence)
  shortJobs : ∀ id ∈ g.jobs, id.length ≤ 64
  shortCaptures : ∀ c ∈ g.forwarded, c.jobId.length ≤ 64

variable {g g' : Gateway} {s s' : Store}

theorem Mirrors.retains (h : Mirrors g s) (hg : Retains g g') : Mirrors g' s where
  nodup := by
    rw [hg.forwarded]
    exact h.nodup
  stored := by
    rw [hg.forwarded]
    exact h.stored
  complete := by
    rw [hg.forwarded]
    exact h.complete
  pending := by
    intro sequence
    rw [hg.forwarded, hg.pending]
    exact h.pending sequence
  shortJobs := by
    intro id hid
    exact (hg.jobs id hid).elim (h.shortJobs id) (fun hshort => hshort)
  shortCaptures := by
    rw [hg.forwarded]
    exact h.shortCaptures

theorem Mirrors.sameRows (h : Mirrors g s) (hrows : ∀ row : Row, row.space = captureSpace → s'.find row = s.find row)
    : Mirrors g s' where
  nodup := h.nodup
  stored := by
    intro c hc
    rw [hrows _ rfl]
    exact h.stored c hc
  complete := by
    intro row value hspace hfind
    rw [hrows row hspace] at hfind
    exact h.complete row value hspace hfind
  pending := h.pending
  shortJobs := h.shortJobs
  shortCaptures := h.shortCaptures

omit P in
theorem JobStep.captureRows (h : JobStep s s') (row : Row) (hrow : row.space = captureSpace)
    : s'.find row = s.find row := by
  apply h
  rw [hrow]
  decide

/-!
### Submissions
-/

def acceptOperations (capture : ForwardedCapture) : List BatchOperation :=
  [.put (captureRow (captureWorkKey capture)) (encodeDurableCapture capture)]

theorem find_accept (capture : ForwardedCapture) (s : Store)
    : (s.applyAll (acceptOperations capture)).find (captureRow (captureWorkKey capture))
        =
      some (encodeDurableCapture capture) :=
  Store.find_apply_put s _ _

variable {capture : ForwardedCapture} {row : Row}

theorem find_accept_of_ne (h : row ≠ captureRow (captureWorkKey capture)) (s : Store)
    : (s.applyAll (acceptOperations capture)).find row = s.find row := by
  rw [Store.find_applyAll]
  exact if_neg h.symm

theorem pendingCaptures_recordCapture (capture : ForwardedCapture) (sequence : UInt64)
    : pendingCaptures (recordCapture capture g) sequence
        =
      pendingCaptures g sequence + if capture.assignmentSequence = sequence then 1 else 0 := by
  unfold pendingCaptures recordCapture
  dsimp only
  by_cases heq : capture.assignmentSequence = sequence
  . subst heq
    rw [AList.lookup_insert, if_pos rfl]
    rfl
  . rw [AList.lookup_insert_ne (Ne.symm heq), if_neg heq, Nat.add_zero]

theorem Mirrors.accept (h : Mirrors g s) (habsent : s.find (captureRow (captureWorkKey capture)) = none)
    (hshort : capture.jobId.length ≤ 64)
    : Mirrors (recordCapture capture g) (s.applyAll (acceptOperations capture)) where
  nodup := by
    change ((g.forwarded ++ [capture]).map captureWorkKey).Nodup
    rw [List.map_append, List.map_singleton, List.nodup_append_comm, List.singleton_append,
      List.nodup_cons]
    refine ⟨?_, h.nodup⟩
    intro hmem
    obtain ⟨c, hc, hkey⟩ := List.mem_map.mp hmem
    have hstored := h.stored c hc
    rw [hkey, habsent] at hstored
    contradiction
  stored := by
    intro c hc
    rcases List.mem_append.mp hc with hold | hnew
    . rw [find_accept_of_ne]
      . exact h.stored c hold
      . intro hrow
        have hstored := h.stored c hold
        rw [hrow, habsent] at hstored
        contradiction
    . rw [List.mem_singleton.mp hnew]
      exact find_accept capture s
  complete := by
    intro row value hspace hfind
    by_cases hrow : row = captureRow (captureWorkKey capture)
    . exact ⟨capture, List.mem_append.mpr (Or.inr (List.mem_singleton.mpr rfl)), hrow⟩
    . rw [find_accept_of_ne hrow] at hfind
      obtain ⟨c, hc, heq⟩ := h.complete row value hspace hfind
      exact ⟨c, List.mem_append.mpr (Or.inl hc), heq⟩
  pending := by
    intro sequence
    rw [pendingCaptures_recordCapture, h.pending]
    change _ = (g.forwarded ++ [capture]).countP _
    rw [List.countP_append, List.countP_singleton]
    simp only [decide_eq_true_eq]
  shortJobs := h.shortJobs
  shortCaptures := by
    intro c hc
    rcases List.mem_append.mp hc with hold | hnew
    . exact h.shortCaptures c hold
    . rw [List.mem_singleton.mp hnew]
      exact hshort

omit P in
theorem JobStep.trans {a b c : Store} (h : JobStep a b) (h' : JobStep b c) : JobStep a c := by
  intro row hrow
  rw [h' row hrow, h row hrow]

theorem Bookkeeping.ends {x : GatewayM α} (hx : Bookkeeping x) {T : Store → Store → Prop}
    (hT : ∀ s s', JobStep s s' → T s s') (h : Mirrors g s)
    : Ends T x g s (fun _ g' s' => Mirrors g' s') Mirrors := by
  have halong := Program.Always.along JobStep.refl (fun _ _ _ => JobStep.trans)
    (fun _ _ hstep => hstep) (hx g s)
  apply Program.Always.mono halong hT
  rintro ⟨result, g'⟩ s' ⟨hstep, hresult⟩
  have hmirrors : ∀ hretains : Retains g g', Mirrors g' s' := fun hretains =>
    (h.retains hretains).sameRows hstep.captureRows
  cases result with
  | ok a => exact hmirrors hresult
  | error e => exact hmirrors hresult

omit P in
theorem reject_bookkeeping (jobId : Text) (reason : String) (error : GatewayError)
    : Bookkeeping (reject jobId reason error : GatewayM α) := by
  apply Bookkeeping.seq (pushEvent_bookkeeping _)
  intro _
  exact Bookkeeping.fail _

variable {T : Store → Store → Prop} (hT : ∀ s s', JobStep s s' → T s s')

include hT

theorem submit_ends {noncePrefix : ByteVec 4} {telemetryLevel : TelemetryLevel}
    {submission : HandySubmission} {receivedMs : UInt64} (h : Mirrors g s)
    (haccept : ∀ capture : ForwardedCapture, capture.receivedMs = receivedMs
      → capture.jobId.length ≤ 64 → s.find (captureRow (captureWorkKey capture)) = none
      → T s (s.applyAll (acceptOperations capture)))
    : Ends T (submit noncePrefix telemetryLevel submission receivedMs) g s
        (fun _ g' s' => Mirrors g' s') Mirrors := by
  have hreject : ∀ {α : Type} (jobId : Text) (reason : String) (error : GatewayError),
      Ends T (reject jobId reason error : GatewayM α) g s
        (fun _ g' s' => Mirrors g' s') Mirrors :=
    fun jobId reason error => (reject_bookkeeping jobId reason error).ends hT h
  apply Ends.bind
  apply memory
  apply Ends.bind
  apply expect
  . rintro ⟨job, state⟩ hlookup
    have hshort : submission.jobId.length ≤ 64 :=
      h.shortJobs _ (AList.lookup_isSome.mp (by rw [hlookup]; rfl))
    dsimp only
    split
    . exact hreject _ _ _
    split
    . exact hreject _ _ _
    split
    . exact hreject _ _ _
    split
    . exact hreject _ _ _
    split
    . exact hreject _ _ _
    split
    . exact hreject _ _ _
    apply Ends.bind
    apply ofStore
    apply StoreM.Ends.applyBatchIfAll (hT s s (JobStep.refl s))
    . intro hall
      have habsent := hall _ (List.mem_singleton.mpr rfl)
      refine ⟨haccept _ rfl hshort habsent, ?_⟩
      rw [if_neg (by decide)]
      apply Ends.bind
      apply update
      apply Ends.bind
      apply ((pushEvent_bookkeeping _).ends hT (h.accept habsent hshort)).mono (fun _ _ h => h)
      . intro _ _ _ hmirrors
        exact hmirrors
      . intro _ _ hmirrors
        exact hmirrors
    . intro _
      rw [if_pos rfl]
      exact hreject _ _ _
    . exact h
  . exact h

omit hT

/-!
### Acknowledgments
-/

def acknowledgeOperations (capture : ForwardedCapture) : List BatchOperation :=
  [.put (captureTombstoneRow (captureWorkKey capture))
      (encodeCaptureTombstone capture.assignmentSequence),
    .delete (captureRow (captureWorkKey capture))]

theorem find_acknowledge (capture : ForwardedCapture) (s : Store)
    : (s.applyAll (acknowledgeOperations capture)).find (captureRow (captureWorkKey capture))
        =
      none :=
  Store.find_apply_delete _ _

theorem find_acknowledge_of_ne (htombstone : row ≠ captureTombstoneRow (captureWorkKey capture))
    (hrow : row ≠ captureRow (captureWorkKey capture)) (s : Store)
    : (s.applyAll (acknowledgeOperations capture)).find row = s.find row := by
  rw [Store.find_applyAll]
  exact (if_neg hrow.symm).trans (if_neg htombstone.symm)

omit P in
theorem ne_captureTombstoneRow (h : row.space = captureSpace) (key : Hash256)
    : row ≠ captureTombstoneRow key := by
  intro heq
  rw [heq] at h
  change captureTombstoneSpace = captureSpace at h
  revert h
  decide

omit P in
theorem pendingCaptures_releaseCapture {sequence : UInt64} {pending : Nat}
    (h : g.pendingByAssignment.lookup sequence = some pending) (hpending : pending ≠ 0)
    (other : UInt64)
    : pendingCaptures (releaseCapture sequence pending g) other
        + (if sequence = other then 1 else 0)
        =
      pendingCaptures g other := by
  unfold pendingCaptures releaseCapture
  dsimp only
  by_cases heq : sequence = other
  . subst heq
    rw [h, if_pos rfl]
    split
    next hone =>
      rw [AList.lookup_erase, hone]
      rfl
    next =>
      rw [AList.lookup_insert]
      change pending - 1 + 1 = pending
      omega
  . rw [if_neg heq, Nat.add_zero]
    split
    . rw [AList.lookup_erase_ne (Ne.symm heq)]
    . rw [AList.lookup_insert_ne (Ne.symm heq)]

variable {rest : List ForwardedCapture}

section

variable (h : Mirrors g s) (hqueue : g.forwarded = capture :: rest)

include h hqueue

/-- Work keys are distinct, so the index found for the front's key is the front's. -/
theorem Mirrors.index_eq_zero {found : ForwardedCapture} {index : Nat} (hfound : g.forwarded[index]? = some found)
    (hkey : captureWorkKey found = captureWorkKey capture)
    : index = 0 ∧ found = capture := by
  have hnodup := h.nodup
  rw [hqueue] at hnodup hfound
  rw [List.map_cons, List.nodup_cons] at hnodup
  cases index with
  | zero =>
    rw [List.getElem?_cons_zero] at hfound
    injection hfound with hfound
    exact ⟨rfl, hfound.symm⟩
  | succ index =>
    rw [List.getElem?_cons_succ] at hfound
    have hmem : captureWorkKey found ∈ rest.map captureWorkKey :=
      List.mem_map_of_mem (List.mem_of_getElem? hfound)
    rw [hkey] at hmem
    exact absurd hmem hnodup.1

theorem Mirrors.pending_front
    : ∃ pending, g.pendingByAssignment.lookup capture.assignmentSequence = some pending
        ∧ ¬ pending = 0 := by
  have hcount := h.pending capture.assignmentSequence
  rw [hqueue, List.countP_cons_of_pos (by simp)] at hcount
  unfold pendingCaptures at hcount
  cases hlookup : g.pendingByAssignment.lookup capture.assignmentSequence with
  | none =>
    rw [hlookup] at hcount
    contradiction
  | some pending =>
    rw [hlookup] at hcount
    change pending = _ + 1 at hcount
    exact ⟨pending, rfl, by omega⟩

theorem Mirrors.acknowledge (hforwarded : g'.forwarded.Perm rest) (hjobs : g'.jobs = g.jobs)
    (hpending : ∀ other, pendingCaptures g' other
      + (if capture.assignmentSequence = other then 1 else 0) = pendingCaptures g other)
    : Mirrors g' (s.applyAll (acknowledgeOperations capture)) := by
  have hnodup := h.nodup
  rw [hqueue, List.map_cons, List.nodup_cons] at hnodup
  have hmem : ∀ c ∈ g'.forwarded, c ∈ g.forwarded := by
    intro c hc
    rw [hqueue]
    exact List.mem_cons_of_mem _ (hforwarded.mem_iff.mp hc)
  refine ⟨?_, ?_, ?_, ?_, ?_, ?_⟩
  . rw [(hforwarded.map captureWorkKey).nodup_iff]
    exact hnodup.2
  . intro c hc
    rw [find_acknowledge_of_ne (ne_captureTombstoneRow rfl _)]
    . exact h.stored c (hmem c hc)
    . intro hrow
      apply hnodup.1
      rw [show captureWorkKey capture = captureWorkKey c by simpa [captureRow] using hrow.symm]
      exact List.mem_map_of_mem (hforwarded.mem_iff.mp hc)
  . intro row value hspace hfind
    by_cases hrow : row = captureRow (captureWorkKey capture)
    . rw [hrow, find_acknowledge] at hfind
      contradiction
    . rw [find_acknowledge_of_ne (ne_captureTombstoneRow hspace _) hrow] at hfind
      obtain ⟨c, hc, heq⟩ := h.complete row value hspace hfind
      rw [hqueue] at hc
      rcases List.mem_cons.mp hc with rfl | hc
      . exact absurd heq hrow
      . exact ⟨c, hforwarded.mem_iff.mpr hc, heq⟩
  . intro sequence
    have hsum := hpending sequence
    have hcount := h.pending sequence
    rw [hqueue, List.countP_cons] at hcount
    rw [hforwarded.countP_eq]
    simp only [decide_eq_true_eq] at hcount
    omega
  . rw [hjobs]
    exact h.shortJobs
  . intro c hc
    exact h.shortCaptures c (hmem c hc)

include hT

theorem acknowledgeCapture_ends (hstep : T s (s.applyAll (acknowledgeOperations capture)))
    : Ends T (acknowledgeCapture (captureWorkKey capture)) g s
        (fun acknowledged g' s' => Mirrors g' s'
          ∧ (acknowledged = true → g'.forwarded = swapRemove g.forwarded 0))
        Mirrors := by
  have hread := hT s s (JobStep.refl s)
  apply Ends.bind
  apply memory
  split
  . apply Ends.bind
    apply refuseIf
    . intro _
      apply Ends.bind
      apply ofStore
      apply StoreM.Ends.get hread
      . apply Ends.bind
        apply expect
        . intro bytes _
          apply Ends.bind
          apply checked
          . intro sequence _
            apply Ends.bind
            apply refuseIf
            . intro _
              exact ⟨h, fun hfalse => absurd hfalse (by decide)⟩
            . exact h
          . exact h
        . exact h
      . exact h
    . exact h
  . apply Ends.bind
    apply expect
    . intro found hfound
      apply Ends.bind
      apply refuseIf
      . intro hkey
        obtain ⟨rfl, rfl⟩ := h.index_eq_zero hqueue hfound (not_not.mp hkey)
        obtain ⟨pending, hpending, hpos⟩ := h.pending_front hqueue
        apply Ends.bind
        apply ofStore
        apply StoreM.Ends.applyBatch hread
        . refine ⟨hstep, ?_⟩
          apply Ends.bind
          apply update
          apply Ends.bind
          apply expect_some hpending
          apply Ends.bind
          apply refuseIf_of_not hpos
          apply Ends.bind
          apply update
          apply Ends.bind
          apply update
          refine ⟨?_, fun _ => rfl⟩
          apply h.acknowledge hqueue
          . change (swapRemove g.forwarded 0).Perm rest
            rw [hqueue]
            exact swapRemove_zero_perm found rest
          . rfl
          . intro other
            exact pendingCaptures_releaseCapture hpending hpos other
        . exact h
      . exact h
    . exact h

end

include hT

/-!
### Hand-overs
-/

theorem drainCapturesDurably.go_ends {E : Type} {admitCapture : ForwardedCapture → StoreM E Hash256}
    {Allowed : ForwardedCapture → List ForwardedCapture → Prop}
    (hconsume : ∀ g s c rest, Mirrors g s → g.forwarded = c :: rest → Allowed c rest
      → StoreM.Ends T (admitCapture c) s
        (fun _ s' => Mirrors g s' ∧ T s' (s'.applyAll (acknowledgeOperations c))) (Mirrors g))
    (maximum : Nat) (report : CaptureDrainReport) (h : Mirrors g s)
    (hhanded : Handed Allowed maximum g.forwarded)
    : Ends T (go admitCapture maximum report) g s (fun _ g' s' => Mirrors g' s') Mirrors := by
  induction maximum generalizing g s report with
  | zero => exact h
  | succ maximum ih =>
    apply Ends.bind
    apply memory
    split
    . exact h
    next capture rest hqueue =>
      rw [hqueue] at hhanded
      apply Ends.bind
      apply ofStore
      apply StoreM.Ends.adapt
      apply (hconsume g s capture rest h hqueue hhanded.1).mono
      . intro _ s' hconsumed
        apply Ends.bind
        apply (acknowledgeCapture_ends hT hconsumed.1 hqueue hconsumed.2).mono (fun _ _ h => h)
        . intro acknowledged g' s'' hacknowledged
          apply Ends.bind
          apply refuseIf
          . intro htrue
            apply ih _ hacknowledged.1
            rw [hacknowledged.2 (Bool.eq_true_of_not_eq_false htrue), hqueue]
            exact hhanded.2
          . exact hacknowledged.1
        . intro _ _ hmirrors
          exact hmirrors
      . intro _ hmirrors
        exact hmirrors

omit hT

/-!
### Restarts
-/

omit P in
theorem eq_hexEncode_of_fixedHashKey {value : List UInt8} {key : Hash256} (h : fixedHashKey value = .ok key)
    : value = hexEncode key.toList := by
  unfold fixedHashKey at h
  split at h
  . contradiction
  . split at h
    . split at h
      next heq =>
        injection h with h
        rw [← h]
        exact heq.symm
      . contradiction
    . contradiction

structure Recovers (jobs : Jobs) (records : List NamespaceRecord) (before after : RecoveredCaptures)
    (captures : List ForwardedCapture) : Prop where
  forwarded : after.forwarded = before.forwarded ++ captures
  fresh : ∀ c ∈ captures, captureWorkKey c ∉ before.seenWork
  nodup : (captures.map captureWorkKey).Nodup
  recorded : ∀ c ∈ captures, ⟨hexEncode (captureWorkKey c).toList, encodeDurableCapture c⟩ ∈ records
  complete : ∀ record ∈ records, ∃ c ∈ captures, record.key = hexEncode (captureWorkKey c).toList
  known : ∀ c ∈ captures, c.jobId ∈ jobs
  pending : ∀ sequence, (after.pendingByAssignment.lookup sequence).getD 0
    = (before.pendingByAssignment.lookup sequence).getD 0
      + captures.countP (·.assignmentSequence = sequence)

variable {jobs : Jobs}

theorem mem_of_validateRecoveredCapture (h : validateRecoveredCapture capture jobs = .ok ())
    : capture.jobId ∈ jobs := by
  have hmatch := (bind_unit_eq_ok.mp h).2
  split at hmatch
  . contradiction
  next job state hlookup =>
    exact AList.lookup_isSome.mp (by rw [hlookup]; rfl)

variable {records : List NamespaceRecord}

theorem recoverCaptures_recovers {before after : RecoveredCaptures}
    (h : recoverCaptures jobs records before = .ok after)
    : ∃ captures, Recovers jobs records before after captures := by
  induction records generalizing before with
  | nil =>
    injection h with h
    subst h
    refine ⟨[], ⟨(List.append_nil _).symm, ?_, List.nodup_nil, ?_, ?_, ?_, fun _ => rfl⟩⟩
    . intro c hc
      contradiction
    . intro c hc
      contradiction
    . intro record hrecord
      contradiction
    . intro c hc
      contradiction
  | cons record records ih =>
    obtain ⟨_, h⟩ := bind_unit_eq_ok.mp h
    obtain ⟨workKey, hkey, h⟩ := bind_eq_ok h
    obtain ⟨capture, hdecode, h⟩ := bind_eq_ok h
    obtain ⟨hvalid, h⟩ := bind_unit_eq_ok.mp h
    obtain ⟨hfresh, h⟩ := bind_unit_eq_ok.mp h
    rw [Except.rejectIf_eq_ok, not_or, not_not] at hfresh
    obtain ⟨rfl, hfresh⟩ := hfresh
    obtain ⟨captures, hrest⟩ := ih h
    have hrecord : record = ⟨hexEncode (captureWorkKey capture).toList, encodeDurableCapture capture⟩ := by
      cases record
      rw [NamespaceRecord.mk.injEq]
      exact ⟨eq_hexEncode_of_fixedHashKey hkey, (encodeDurableCapture_of_decode hdecode).symm⟩
    refine ⟨capture :: captures, ⟨?_, ?_, ?_, ?_, ?_, ?_, ?_⟩⟩
    . rw [hrest.forwarded, List.append_assoc, List.singleton_append]
    . intro c hc
      rcases List.mem_cons.mp hc with rfl | hc
      . exact hfresh
      . intro hmem
        exact hrest.fresh c hc (List.mem_append_left _ hmem)
    . rw [List.map_cons, List.nodup_cons]
      refine ⟨?_, hrest.nodup⟩
      intro hmem
      obtain ⟨c, hc, hsame⟩ := List.mem_map.mp hmem
      apply hrest.fresh c hc
      rw [hsame]
      exact List.mem_append_right _ (List.mem_singleton.mpr rfl)
    . intro c hc
      rcases List.mem_cons.mp hc with rfl | hc
      . rw [hrecord]
        exact List.mem_cons_self ..
      . exact List.mem_cons_of_mem _ (hrest.recorded c hc)
    . intro other hother
      rcases List.mem_cons.mp hother with rfl | hother
      . exact ⟨capture, List.mem_cons_self .., by rw [hrecord]⟩
      . obtain ⟨c, hc, heq⟩ := hrest.complete other hother
        exact ⟨c, List.mem_cons_of_mem _ hc, heq⟩
    . intro c hc
      rcases List.mem_cons.mp hc with rfl | hc
      . exact mem_of_validateRecoveredCapture hvalid
      . exact hrest.known c hc
    . intro sequence
      rw [hrest.pending, List.countP_cons]
      by_cases heq : capture.assignmentSequence = sequence
      . subst heq
        rw [AList.lookup_insert]
        simp only [Option.getD_some, decide_true, if_true]
        omega
      . rw [AList.lookup_insert_ne (Ne.symm heq)]
        simp [heq]

variable {enforce : Bool}

omit P in
theorem recoverJobs_short {before after : RecoveredJobs}
    (h : recoverJobs enforce records before = .ok after) (hbefore : ∀ id ∈ before.jobs, id.length ≤ 64)
    : ∀ id ∈ after.jobs, id.length ≤ 64 := by
  induction records generalizing before with
  | nil =>
    injection h with h
    rwa [← h]
  | cons record records ih =>
    obtain ⟨sequence, _, h⟩ := bind_eq_ok h
    obtain ⟨job, _, h⟩ := bind_eq_ok h
    obtain ⟨hvalid, h⟩ := bind_unit_eq_ok.mp h
    split at h
    . contradiction
    . obtain ⟨_, h⟩ := bind_unit_eq_ok.mp h
      obtain ⟨_, h⟩ := bind_unit_eq_ok.mp h
      apply ih h
      intro id hid
      rcases (AList.mem_insert _).mp hid with rfl | hmem
      . exact length_id_of_validateJob hvalid
      . exact hbefore id hmem

theorem Recovers.mirrors {seenWork : List Hash256} {captures : RecoveredCaptures} {queue : List ForwardedCapture}
    (h : Recovers jobs (s.inNamespace captureSpace) ⟨seenWork, [], ∅⟩ captures queue)
    (hforwarded : g.forwarded.Perm captures.forwarded) (hjobs : g.jobs = jobs)
    (hpending : g.pendingByAssignment = captures.pendingByAssignment) (hshort : ∀ id ∈ jobs, id.length ≤ 64)
    : Mirrors g s := by
  have hqueue : g.forwarded.Perm queue := by
    have := h.forwarded
    rw [List.nil_append] at this
    rwa [this] at hforwarded
  refine ⟨?_, ?_, ?_, ?_, ?_, ?_⟩
  . rw [(hqueue.map captureWorkKey).nodup_iff]
    exact h.nodup
  . intro c hc
    exact Store.mem_inNamespace.mp (h.recorded c (hqueue.mem_iff.mp hc))
  . rintro ⟨space, key⟩ value rfl hfind
    obtain ⟨c, hc, hkey⟩ := h.complete ⟨key, value⟩ (Store.mem_inNamespace.mpr hfind)
    exact ⟨c, hqueue.mem_iff.mpr hc, congrArg (Row.mk captureSpace) hkey⟩
  . intro sequence
    rw [hqueue.countP_eq]
    unfold pendingCaptures
    rw [hpending, h.pending sequence]
    exact Nat.zero_add _
  . rw [hjobs]
    exact hshort
  . intro c hc
    exact hshort _ (h.known c (hqueue.mem_iff.mp hc))

include hT

omit P in
theorem installFormat_ends (s : Store)
    : StoreM.Ends T installFormat s (fun _ _ => True) (fun _ => True) := by
  apply StoreM.Ends.bind
  apply StoreM.Ends.applyBatchIfAll (hT s s (JobStep.refl s))
  . intro _
    refine ⟨hT _ _ (JobStep.applyAll ?_), ?_⟩
    . simp [jobSpaces, currentAssignmentFormatRow, currentAssignmentRow]
    . exact StoreM.Ends.ofExcept (fun _ _ => trivial) trivial
  . intro _
    exact StoreM.Ends.ofExcept (fun _ _ => trivial) trivial
  . exact trivial

theorem recoverQueue_ends {currentJob : Option Text} (hshort : ∀ id ∈ jobs, id.length ≤ 64) (s : Store)
    : StoreM.Ends T (recoverQueue enforce jobs currentJob) s Mirrors (fun _ => True) := by
  have hread := hT s s (JobStep.refl s)
  apply StoreM.Ends.bind
  refine StoreM.Ends.scanNamespace hread ?_ trivial
  refine bind_ofExcept ?_ trivial
  intro retiringAssignments _
  apply StoreM.Ends.bind
  refine StoreM.Ends.scanNamespace hread ?_ trivial
  refine bind_ofExcept ?_ trivial
  intro tombstones _
  apply StoreM.Ends.bind
  refine StoreM.Ends.scanNamespace hread ?_ trivial
  refine bind_ofExcept ?_ trivial
  intro captures hcaptures
  refine bind_ofExcept ?_ trivial
  intro _ _
  obtain ⟨queue, hqueue⟩ := recoverCaptures_recovers hcaptures
  exact hqueue.mirrors (List.perm_insertionSort _ _) rfl rfl hshort

theorem openWithTargetPolicy_ends (enforceHandyTarget : Bool) (s : Store)
    : StoreM.Ends T (openWithTargetPolicy enforceHandyTarget) s Mirrors (fun _ => True) := by
  have hread := hT s s (JobStep.refl s)
  refine bind_get hread ?_ trivial
  refine bind_ofExcept ?_ trivial
  intro _ _
  refine bind_get hread ?_ trivial
  refine bind_ofExcept ?_ trivial
  intro durableHeadSequence _
  apply StoreM.Ends.bind
  refine StoreM.Ends.scanNamespace hread ?_ trivial
  refine bind_ofExcept ?_ trivial
  intro states _
  apply StoreM.Ends.bind
  refine StoreM.Ends.scanNamespace hread ?_ trivial
  refine bind_ofExcept ?_ trivial
  intro recovered hrecovered
  have hshort : ∀ id ∈ recovered.jobs, id.length ≤ 64 := by
    apply recoverJobs_short hrecovered
    intro id hid
    exact absurd hid (AList.notMem_empty id)
  refine bind_ofExcept ?_ trivial
  intro _ _
  refine bind_ofExcept ?_ trivial
  intro currentJob _
  dsimp only
  split
  . refine bind_ofExcept ?_ trivial
    intro _ _
    apply StoreM.Ends.bind
    apply (installFormat_ends hT s).mono
    . intro _ s' _
      exact recoverQueue_ends hT hshort s'
    . intro _ h
      exact h
  . exact recoverQueue_ends hT hshort s

end MeshMine.Gateway
