import MeshMine.FastPath.Attempts

/-!
The writes of the publisher as steps of the attempt histories: what the preparation of a publication and the
commit of an answer do to the store.
-/

namespace MeshMine.FastPath

open MeshMine.Types Codec Storage
open StoreM (Settles)
open StoreM.Settles (applyBatchIfAll bind_ok putIfAbsent)

theorem ofStorage_ne_malformed (e : StorageError)
    : (FromStorageError.ofStorage e : PublicationError) ≠ .malformedDurableState := by
  nofun

theorem validateHeadBinding_eq_ok {head : AttemptHead} {i t : Hash256} (hintent : head.intentId = i)
    (htarget : head.targetIdHash = t) (hpos : 1 ≤ head.sequence.toNat)
    (hlimit : head.sequence.toNat ≤ maxPublicationAttemptsPerTarget.toNat)
    (hstate : head.state = headStarted ∨ head.state = headCompleted)
    : validateHeadBinding head i t = .ok () := by
  apply Except.rejectIf_of_not
  have hne : head.sequence ≠ 0 := by
    intro h
    simp [h] at hpos
  have hle : ¬ maxPublicationAttemptsPerTarget < head.sequence := by
    rw [UInt16.lt_iff_toNat_lt]
    omega
  simp [hintent, htarget, hne, hle, hstate]

variable [P : Primitives]

structure Grows (s s' : Store) : Prop where
  histories : ∀ {i t : Hash256} {before : Attempts i t}, Records s before
    → ∃ after, Records s' after ∧ before.Next after
  intents : ∀ {id : Hash256} {bytes : List UInt8}, s.find (intentRow id) = some bytes
    → s'.find (intentRow id) = some bytes

theorem Grows.refl (s : Store) : Grows s s where
  histories hrecords := ⟨_, hrecords, .inl rfl⟩
  intents hfind := hfind

theorem Grows.consistent {s s' : Store} (h : Grows s s') (hs : Consistent s) : Consistent s' := by
  intro i t
  obtain ⟨before, hbefore⟩ := hs i t
  obtain ⟨after, hafter, _⟩ := h.histories hbefore
  exact ⟨after, hafter⟩

/-!
### Writes before the targets are called
-/

inductive Prepares (intents : Set BlockPublicationIntent) (s : Store) : Store → Prop where
  | nothing : Prepares intents s s
  | intent {intent : BlockPublicationIntent} (hmem : intent ∈ intents)
      (habsent : s.find (intentRow (objectId intent)) = none)
      : Prepares intents s (s.apply (.put (intentRow (objectId intent)) (toCanonicalBytes intent)))
  | start {i t : Hash256} {attempts : Attempts i t} {start : AttemptStart} (hrecords : Records s attempts)
      (hstart : attempts.Startable start)
      : Prepares intents s (s.applyAll (startBatch start))

def IntentsHold (intents : Set BlockPublicationIntent) (s : Store) : Prop :=
  ∀ intent ∈ intents, ∀ bytes, s.find (intentRow (objectId intent)) = some bytes → bytes = toCanonicalBytes intent

variable {start : AttemptStart} {result : AttemptResult} {bytes : List UInt8}

namespace Prepares

variable {intents : Set BlockPublicationIntent} {s s' : Store}

variable (h : Prepares intents s s')

include h

theorem records {i t : Hash256} {attempts : Attempts i t} (hrecords : Records s attempts)
    : Records s' attempts
      ∨ ∃ (start : AttemptStart) (hstart : attempts.Startable start), Records s' (attempts.start start hstart) := by
  cases h with
  | nothing => exact .inl hrecords
  | intent _ _ => exact .inl (hrecords.putIntent _ _)
  | @start i' t' before start hbefore hstart =>
    by_cases heq : i' = i ∧ t' = t
    . obtain ⟨rfl, rfl⟩ := heq
      obtain rfl := hbefore.unique hrecords
      exact .inr ⟨start, hstart, hbefore.start hstart⟩
    . left
      apply hrecords.startBatch_of_ne
      rwa [hstart.intentId, hstart.targetIdHash]

theorem unfinished {i t : Hash256} (hunfinished : Unfinished s i t start)
    : Unfinished s' i t start := by
  obtain ⟨attempts, hrecords, hlt, hlast⟩ := hunfinished
  rcases h.records hrecords with hsame | ⟨_, hstart, _⟩
  . exact ⟨attempts, hsame, hlt, hlast⟩
  . have := hstart.closed
    omega

theorem concluded {i t : Hash256} (hconcluded : Concluded s i t result)
    : Concluded s' i t result := by
  obtain ⟨⟨attempts, hrecords, heq, hlast⟩, hend⟩ := hconcluded
  refine ⟨⟨attempts, ?_, heq, hlast⟩, hend⟩
  rcases h.records hrecords with hsame | ⟨_, hstart, _⟩
  . exact hsame
  . have hretryable := hstart.retryable result hlast
    have hsequence := (Attempts.sequence_of_getLast?_results hlast).2.2
    have hlimit := hstart.limit
    rw [hretryable, UInt16.le_iff_toNat_le] at hend
    simp only [PublicationResultKind.isTerminal, Bool.false_eq_true, false_or] at hend
    omega

theorem find_intentRow {id : Hash256} (hfind : s.find (intentRow id) = some bytes)
    : s'.find (intentRow id) = some bytes := by
  cases h with
  | nothing => exact hfind
  | @intent intent _ habsent =>
    rw [Store.find_apply_of_ne, hfind]
    intro hrow
    change intentRow id = intentRow (objectId intent) at hrow
    rw [← hrow, hfind] at habsent
    contradiction
  | start _ _ =>
    rw [find_startBatch, hfind]
    simp

theorem grows : Grows s s' where
  histories hrecords := by
    rcases h.records hrecords with hsame | ⟨start, hstart, hafter⟩
    . exact ⟨_, hsame, .inl rfl⟩
    . exact ⟨_, hafter, .inr (.inl ⟨start, hstart, rfl⟩)⟩
  intents hfind := h.find_intentRow hfind

theorem intentsHold (hids : intents.InjOn objectId) (hs : IntentsHold intents s)
    : IntentsHold intents s' := by
  intro other hother bytes hfind
  cases h with
  | nothing => exact hs other hother bytes hfind
  | @intent intent hmem habsent =>
    rw [Store.find_apply] at hfind
    split at hfind
    next hrow =>
      change intentRow (objectId intent) = intentRow (objectId other) at hrow
      rw [intentRow_inj] at hrow
      rw [← hids hmem hother hrow]
      exact (Option.some.inj hfind).symm
    next => exact hs other hother bytes hfind
  | start _ _ =>
    rw [find_startBatch, if_neg (by simp), if_neg (by simp)] at hfind
    exact hs other hother bytes hfind

end Prepares

variable {intents : Set BlockPublicationIntent} {s : Store} {i t : Hash256} {intent : BlockPublicationIntent}

theorem persistIntent_settles (hmem : intent ∈ intents) (hs : IntentsHold intents s)
    : Settles (Prepares intents) (persistIntent intent) s
        (fun _ s' => s'.find (intentRow (objectId intent)) = some (toCanonicalBytes intent))
        (· ≠ .malformedDurableState) := by
  unfold persistIntent
  apply Settles.bind
  apply putIfAbsent ofStorage_ne_malformed .nothing
  . intro habsent
    exact ⟨.intent hmem habsent, Store.find_apply_put ..⟩
  . intro hpresent
    obtain ⟨bytes, hfind⟩ := Option.ne_none_iff_exists'.mp hpresent
    have hbytes := hs intent hmem bytes hfind
    rw [hbytes] at hfind
    apply Settles.bind
    apply Settles.get ofStorage_ne_malformed .nothing
    rw [hfind, Except.rejectIf_of_not (by simp)]
    exact Settles.pure hfind

theorem persistAttemptStart_settles {attempts : Attempts i t} (hrecords : Records s attempts)
    (hstart : attempts.Startable start) {expected : Option (List UInt8)} (hexpected : s.find (headRow i t) = expected)
    : Settles (Prepares intents) (persistAttemptStart (headRow i t) expected start) s
        (fun _ s' => Unfinished s' i t start) (· ≠ .malformedDurableState) := by
  have hafter : Unfinished (s.applyAll (startBatch start)) i t start := by
    refine ⟨attempts.start start hstart, hrecords.start hstart, ?_, ?_⟩
    . have := hstart.closed
      simp only [Attempts.start, List.length_append, List.length_singleton]
      omega
    . simp [Attempts.start]
  have hbatch : [.put (startRow start.intentId start.targetIdHash start.sequence) (encodeStart start),
      .put (headRow i t) (encodeHead (startedHead start))] = startBatch start := by
    rw [← hstart.intentId, ← hstart.targetIdHash]
    rfl
  unfold persistAttemptStart
  rw [hbatch]
  apply Settles.bind
  apply applyBatchIfAll ofStorage_ne_malformed .nothing
  . intro _
    exact ⟨.start hrecords hstart, hafter⟩
  . rintro ⟨condition, hmem, hne⟩
    rw [List.mem_singleton] at hmem
    rw [hmem] at hne
    exact absurd hexpected hne

theorem loadAttemptStart_settles (h : Unfinished s i t start)
    : Settles (Prepares intents) (loadAttemptStart (startedHead start)) s
        (fun loaded s' => loaded = start ∧ s' = s) (· ≠ .malformedDurableState) := by
  obtain ⟨hintent, htarget, _⟩ := h.bound
  unfold loadAttemptStart
  apply Settles.bind
  apply Settles.get ofStorage_ne_malformed .nothing
  have hfind : s.find (startRow (startedHead start).intentId (startedHead start).targetIdHash
      (startedHead start).sequence) = some (encodeStart start) := by
    rw [← h.find_start, ← hintent, ← htarget]
    rfl
  rw [hfind]
  apply bind_ok (Except.rejectIf_of_not (by simp [startedHead]))
  apply bind_ok (decodeStart_encodeStart start)
  apply bind_ok (Except.rejectIf_of_not (by simp [startedHead]))
  exact Settles.pure ⟨rfl, rfl⟩

theorem loadAttemptResult_settles (h : Finished s i t result) (hintent : start.intentId = i)
    (htarget : start.targetIdHash = t) (hsequence : start.sequence = result.sequence)
    : Settles (Prepares intents) (loadAttemptResult (completedHead start result)) s
        (fun loaded s' => loaded = result ∧ s' = s) (· ≠ .malformedDurableState) := by
  obtain ⟨hresult, hresultTarget, _⟩ := h.bound
  unfold loadAttemptResult
  apply Settles.bind
  apply Settles.get ofStorage_ne_malformed .nothing
  have hfind : s.find (resultRow (completedHead start result).intentId (completedHead start result).targetIdHash
      (completedHead start result).sequence) = some (encodeResult result) := by
    rw [← h.find_result, ← hintent, ← htarget, ← hsequence]
    rfl
  rw [hfind]
  apply bind_ok (Except.rejectIf_of_not (by simp [completedHead]))
  apply bind_ok (decodeResult_encodeResult result)
  apply bind_ok (Except.rejectIf_of_not
    (by simp [completedHead, hresult, hresultTarget, hintent, htarget, hsequence]))
  exact Settles.pure ⟨rfl, rfl⟩

def PreparedFor (i : Hash256) (targetId : TargetId) (prepared : PreparedTarget) (s : Store) : Prop :=
  match prepared with
  | .submit target start => target = targetId ∧ Unfinished s i (targetHash targetId) start
  | .existing report =>
    ∃ result, report = existingReport targetId result ∧ Concluded s i (targetHash targetId) result

theorem PreparedFor.prepares {s' : Store} {targetId : TargetId} {prepared : PreparedTarget}
    (h : PreparedFor i targetId prepared s) (hstep : Prepares intents s s')
    : PreparedFor i targetId prepared s' := by
  cases prepared with
  | submit target start => exact ⟨h.1, hstep.unfinished h.2⟩
  | existing report =>
    obtain ⟨result, hreport, hconcluded⟩ := h
    exact ⟨result, hreport, hstep.concluded hconcluded⟩

theorem startable_next (h : Finished s i t result)
    (hretry : ¬ (result.result.kind.isTerminal = true ∨ maxPublicationAttemptsPerTarget ≤ result.sequence))
    (nowMs : UInt64)
    : ∃ next, checkedNext result.sequence = .ok next
      ∧ ∃ attempts : Attempts i t, Records s attempts ∧ attempts.Startable ⟨i, t, next, nowMs⟩ := by
  rw [not_or, UInt16.le_iff_toNat_le, Nat.not_le] at hretry
  obtain ⟨hterminal, hlimit⟩ := hretry
  obtain ⟨attempts, hrecords, heq, hlast⟩ := h
  have hsequence := (Attempts.sequence_of_getLast?_results hlast).2.2
  have hsixteen : maxPublicationAttemptsPerTarget.toNat = 16 := rfl
  have hnext : (result.sequence + 1).toNat = result.sequence.toNat + 1 := by
    rw [UInt16.toNat_add]
    change (result.sequence.toNat + 1) % 65536 = _
    omega
  refine ⟨result.sequence + 1, if_pos (by omega), attempts, hrecords, rfl, rfl, ?_, heq, ?_, by omega⟩
  . rw [hnext]
    omega
  . intro other hother
    rw [hlast, Option.mem_def, Option.some.injEq] at hother
    subst hother
    cases hkind : result.result.kind with
    | retryable => rfl
    | _ => simp [hkind, PublicationResultKind.isTerminal] at hterminal

theorem prepareTarget_settles (hs : Consistent s) (nowMs : UInt64) (targetId : TargetId)
    : Settles (Prepares intents) (prepareTarget i nowMs targetId) s (PreparedFor i targetId)
        (· ≠ .malformedDurableState) := by
  unfold prepareTarget
  apply Settles.bind
  apply Settles.get ofStorage_ne_malformed .nothing
  rcases hs.cases i (targetHash targetId) with ⟨attempts, hrecords, hempty⟩ | ⟨start, hstart⟩ | ⟨result, hresult⟩
  . -- The first attempt.
    have hnone : s.find (headRow i (targetHash targetId)) = none := by
      rw [hrecords.head]
      simp [Attempts.head, hempty]
    have hresults : attempts.results = [] := by
      have := attempts.results_le
      rw [hempty, List.length_nil] at this
      exact List.length_eq_zero_iff.mp (by omega)
    rw [hnone]
    apply Settles.bind
    apply Settles.mono (persistAttemptStart_settles hrecords _ hnone)
    . intro _ s' hafter
      exact ⟨rfl, hafter⟩
    . constructor <;> simp [hempty, hresults]
      decide
  . -- An attempt that has no result yet.
    obtain ⟨hintent, htarget, hpos, hlimit⟩ := hstart.bound
    rw [hstart.find_head]
    apply bind_ok (decodeHead_encodeHead _)
    apply bind_ok (validateHeadBinding_eq_ok hintent htarget hpos hlimit (.inl rfl))
    have hstate : (startedHead start).state = headStarted := rfl
    rw [if_pos hstate]
    apply Settles.bind
    apply Settles.mono (loadAttemptStart_settles hstart)
    rintro _ _ ⟨rfl, rfl⟩
    exact ⟨rfl, hstart⟩
  . obtain ⟨_, _, hpos, hlimit⟩ := hresult.bound
    obtain ⟨start, hintent, htarget, hsequence, hhead⟩ := hresult.find_head
    rw [hhead]
    apply bind_ok (decodeHead_encodeHead _)
    apply bind_ok (validateHeadBinding_eq_ok hintent htarget (by rwa [← hsequence] at hpos)
      (by rwa [← hsequence] at hlimit) (.inr rfl))
    have hstate : (completedHead start result).state = headCompleted := rfl
    rw [if_neg (by simp [completedHead, headCompleted, headStarted]), if_pos hstate]
    apply Settles.bind
    apply Settles.mono (loadAttemptResult_settles hresult hintent htarget hsequence)
    rintro _ _ ⟨rfl, rfl⟩
    split
    next hend => exact ⟨_, rfl, hresult, hend⟩
    next hretry =>
      obtain ⟨next, hchecked, hstartable⟩ := startable_next hresult hretry nowMs
      obtain ⟨attempts, hrecords, hstartable⟩ := hstartable
      apply bind_ok hchecked
      apply Settles.bind
      apply Settles.mono (persistAttemptStart_settles hrecords hstartable hhead)
      intro _ s' hafter
      exact ⟨rfl, hafter⟩

theorem validateIntent_ne_malformed {e : PublicationError} (h : validateIntent intent = .error e)
    : e ≠ .malformedDurableState := by
  have hids : ∀ targetIds previous, validateTargetIds previous targetIds = .error e → e ≠ .malformedDurableState := by
    intro targetIds
    induction targetIds with
    | nil => simp [validateTargetIds]
    | cons targetId targetIds ih =>
      intro previous h
      simp only [validateTargetIds, validateTargetId, Except.bind_unit_eq_error, Except.rejectIf_eq_error] at h
      rcases h with ⟨_, rfl⟩ | ⟨_, ⟨_, rfl⟩ | ⟨_, h⟩⟩
      . simp
      . simp
      . exact ih _ h
  simp only [validateIntent, Except.bind_unit_eq_error, Except.rejectIf_eq_error] at h
  rcases h with ⟨_, rfl⟩ | ⟨_, h⟩
  . simp
  . exact hids _ _ h

structure AllPrepared (intent : BlockPublicationIntent) (prepared : List PreparedTarget) (s : Store) : Prop where
  valid : validateIntent intent = .ok ()
  durable : s.find (intentRow (objectId intent)) = some (toCanonicalBytes intent)
  targets : List.Forall₂ (fun targetId p => PreparedFor (objectId intent) targetId p s) intent.targetIds prepared

theorem preparePublication_settles (hmem : intent ∈ intents) (hs : Consistent s) (hintents : IntentsHold intents s)
    (targets : List TargetId) (clock : Option UInt64)
    : Settles (Prepares intents) (preparePublication targets clock intent) s
        (fun prepared s' => AllPrepared intent prepared s' ∧ targets = intent.targetIds)
        (· ≠ .malformedDurableState) := by
  unfold preparePublication
  apply Settles.bind
  apply Settles.ofExcept _ (fun _ h => validateIntent_ne_malformed h)
  intro _ hvalid
  apply Settles.bind
  apply Settles.ofExcept _ (by simp)
  intro _ htargets
  rw [Except.rejectIf_eq_ok, not_not] at htargets
  subst htargets
  apply Settles.bind
  apply Settles.mono ((persistIntent_settles hmem hintents).along (fun _ _ h hstep => hstep.grows.consistent h) hs)
  rintro _ s₁ ⟨hs₁, hintent⟩
  apply Settles.bind
  apply Settles.ofExcept
  . intro nowMs _
    have hprepared := Settles.mapM (T := Prepares intents) (Q := PreparedFor (objectId intent))
      (fun _ _ h hstep => hstep.grows.consistent h) (fun _ _ _ _ h hstep => h.prepares hstep)
      (fun targetId (_ : targetId ∈ intent.targetIds) s h => prepareTarget_settles h nowMs targetId) hs₁
    apply Settles.mono (hprepared.along (fun _ _ h hstep => hstep.find_intentRow h) hintent)
    rintro prepared s' ⟨hintent, _, hall⟩
    exact ⟨⟨hvalid, hintent, hall⟩, rfl⟩
  . cases clock <;> simp

/-!
### The write after a target answered
-/

inductive Commits (i t : Hash256) (s : Store) : Store → Prop where
  | nothing : Commits i t s s
  | finish {attempts : Attempts i t} {start : AttemptStart} {result : AttemptResult} (hrecords : Records s attempts)
      (hstart : attempts.starts.getLast? = some start) (hresult : attempts.Finishable result)
      : Commits i t s (s.applyAll (resultBatch start result))

variable {i' t' : Hash256}

namespace Commits

variable {s' : Store}

theorem records (h : Commits i t s s') {attempts : Attempts i t} (hrecords : Records s attempts)
    : Records s' attempts
      ∨ ∃ (result : AttemptResult) (hresult : attempts.Finishable result),
          Records s' (attempts.finish result hresult) := by
  cases h with
  | nothing => exact .inl hrecords
  | finish hbefore hstart hresult =>
    obtain rfl := hbefore.unique hrecords
    exact .inr ⟨_, hresult, hbefore.finish hstart hresult⟩

theorem records_of_ne (h : Commits i t s s') (hne : ¬ (i = i' ∧ t = t')) {attempts : Attempts i' t'}
    (hrecords : Records s attempts)
    : Records s' attempts := by
  cases h with
  | nothing => exact hrecords
  | finish hbefore hstart hresult =>
    obtain ⟨hintent, htarget, _⟩ := Attempts.sequence_of_getLast?_starts hstart
    apply hrecords.resultBatch_of_ne
    rwa [hintent, htarget]

theorem find_intentRow (h : Commits i t s s') (id : Hash256)
    : s'.find (intentRow id) = s.find (intentRow id) := by
  cases h with
  | nothing => rfl
  | finish _ _ _ =>
    rw [find_resultBatch, if_neg (by simp), if_neg (by simp)]

theorem grows (h : Commits i t s s') : Grows s s' where
  histories {i' t' _} hrecords := by
    by_cases heq : i = i' ∧ t = t'
    . obtain ⟨rfl, rfl⟩ := heq
      rcases h.records hrecords with hsame | ⟨result, hresult, hafter⟩
      . exact ⟨_, hsame, .inl rfl⟩
      . exact ⟨_, hafter, .inr (.inr ⟨result, hresult, rfl⟩)⟩
    . exact ⟨_, h.records_of_ne heq hrecords, .inl rfl⟩
  intents {id _} hfind := by
    rw [h.find_intentRow id, hfind]

end Commits

theorem persistAttemptResult_settles (h : Unfinished s i t start) (hintent : result.intentId = start.intentId)
    (htarget : result.targetIdHash = start.targetIdHash) (hsequence : result.sequence = start.sequence)
    : Settles (fun before after => before = s ∧ Commits i t before after) (persistAttemptResult start result) s
        (fun _ s' => Finished s' i t result) (· ≠ .malformedDurableState) := by
  have hhead := h.find_head
  obtain ⟨attempts, hrecords, hlt, hlast⟩ := h
  obtain ⟨hi, ht, hlength⟩ := Attempts.sequence_of_getLast?_starts hlast
  have hfinishable : attempts.Finishable result :=
    ⟨hintent.trans hi, htarget.trans ht, by rw [hsequence, hlength], hlt⟩
  have hafter : Finished (s.applyAll (resultBatch start result)) i t result := by
    refine ⟨_, hrecords.finish hlast hfinishable, ?_, by simp [Attempts.finish]⟩
    have := attempts.starts_le
    simp only [Attempts.finish, List.length_append, List.length_singleton]
    omega
  unfold persistAttemptResult
  apply bind_ok (Except.rejectIf_of_not (by simp [hintent, htarget, hsequence]))
  apply Settles.bind
  apply applyBatchIfAll ofStorage_ne_malformed ⟨rfl, .nothing⟩
  . intro _
    exact ⟨⟨rfl, .finish hrecords hlast hfinishable⟩, hafter⟩
  . rintro ⟨condition, hmem, hne⟩
    rw [List.mem_singleton] at hmem
    rw [hmem, hi, ht] at hne
    exact absurd hhead hne

theorem commits_of_path {origin s' : Store} {visited : List Store}
    (h : Program.Path (fun before after => before = origin ∧ Commits i t before after) s visited s')
    : Commits i t s s' := by
  induction h with
  | nil => exact .nothing
  | cons hstep hrest ih =>
    cases hrest with
    | nil => exact hstep.2
    | cons hnext _ =>
      rw [hstep.1, ← hnext.1]
      exact ih

theorem Commits.unfinished_of_ne {s' : Store} (h : Commits i t s s') (hne : ¬ (i = i' ∧ t = t'))
    (hunfinished : Unfinished s i' t' start)
    : Unfinished s' i' t' start := by
  obtain ⟨attempts, hrecords, hrest⟩ := hunfinished
  exact ⟨attempts, h.records_of_ne hne hrecords, hrest⟩

theorem Commits.finished_of_ne {s' : Store} (h : Commits i t s s') (hne : ¬ (i = i' ∧ t = t'))
    (hfinished : Finished s i' t' result)
    : Finished s' i' t' result := by
  obtain ⟨attempts, hrecords, hrest⟩ := hfinished
  exact ⟨attempts, h.records_of_ne hne hrecords, hrest⟩

theorem Commits.isSome_find_headRow {s' : Store} (h : Commits i t s s') (hsome : (s.find (headRow i' t')).isSome)
    : (s'.find (headRow i' t')).isSome := by
  cases h with
  | nothing => exact hsome
  | finish _ _ _ =>
    rw [find_resultBatch]
    split
    . rfl
    . simpa using hsome

/-!
### Any write
-/

namespace Grows

variable {s' : Store} {n : UInt16}

theorem find_startRow (h : Grows s s') (hs : Consistent s) (hfind : s.find (startRow i t n) = some bytes)
    : s'.find (startRow i t n) = some bytes := by
  obtain ⟨before, hbefore⟩ := hs i t
  obtain ⟨after, hafter, hnext⟩ := h.histories hbefore
  rw [hbefore.starts, Option.map_eq_some_iff] at hfind
  obtain ⟨start, hstart, rfl⟩ := hfind
  rw [hafter.starts, numbered_of_isPrefix hstart hnext.isPrefix.1]
  rfl

theorem find_resultRow (h : Grows s s') (hs : Consistent s) (hfind : s.find (resultRow i t n) = some bytes)
    : s'.find (resultRow i t n) = some bytes := by
  obtain ⟨before, hbefore⟩ := hs i t
  obtain ⟨after, hafter, hnext⟩ := h.histories hbefore
  rw [hbefore.results, Option.map_eq_some_iff] at hfind
  obtain ⟨result, hresult, rfl⟩ := hfind
  rw [hafter.results, numbered_of_isPrefix hresult hnext.isPrefix.2]
  rfl

theorem retryable_of_started (h : Grows s s') (hs : Consistent s) (habsent : s.find (startRow i t n) = none)
    (hstarted : (s'.find (startRow i t n)).isSome) {m : UInt16} (hm : 1 ≤ m.toNat) (hn : m.toNat + 1 = n.toNat)
    : ∃ result, s.find (resultRow i t m) = some (encodeResult result) ∧ result.result.kind = .retryable := by
  obtain ⟨before, hbefore⟩ := hs i t
  obtain ⟨after, hafter, hnext⟩ := h.histories hbefore
  rw [hbefore.starts, Option.map_eq_none_iff] at habsent
  rw [hafter.starts, Option.isSome_map] at hstarted
  have hbeyond : ¬ (numbered before.starts n).isSome := by simp [habsent]
  rw [isSome_numbered] at hstarted hbeyond
  rcases hnext with rfl | ⟨start, hstart, rfl⟩ | ⟨_, _, rfl⟩
  . exact absurd hstarted hbeyond
  . simp only [Attempts.start, List.length_append, List.length_singleton] at hstarted
    have hclosed := hstart.closed
    have hsome : (numbered before.results m).isSome := by
      rw [isSome_numbered]
      omega
    obtain ⟨result, hresult⟩ := Option.isSome_iff_exists.mp hsome
    obtain ⟨k, _, hget⟩ := numbered_eq_some.mp hresult
    refine ⟨result, ?_, Attempts.retryable_of_startable hstart hget⟩
    rw [hbefore.results, hresult]
    rfl
  . exact absurd hstarted hbeyond

end Grows

end MeshMine.FastPath
