import MeshMine.Share.ReceiptChain

/-!
Receipt builders of one session, run one after another over one journal, with restarts, crashes and
replayed shares.
-/

namespace MeshMine.Share

open MeshMine.Types Storage
open Storage.ProtocolJournal

section

variable [P : Primitives]

structure ReceiptRun where
  store : Store
  builder : Option ReceiptBuilder
  batches : List ReceiptBatchV2

namespace ReceiptRun

def shareIds (run : ReceiptRun) : List Hash256 :=
  run.batches.flatMap (·.acceptedShareIds)

def workKeys (run : ReceiptRun) : List Hash256 :=
  run.batches.flatMap (·.acceptedWorkKeys)

def initial (store : Store) : ReceiptRun :=
  ⟨store, none, []⟩

/-- The builder that a call leaves: a crash loses it, and a failed call leaves it as it was. -/
def afterAccept (builder : ReceiptBuilder)
    : Option (Except ShareError ReceiptBuilder) → Option ReceiptBuilder
  | none => none
  | some (.ok builder') => some builder'
  | some (.error _) => some builder

/-- The relation `Allowed` says which shares may be offered to the current builder. -/
inductive Step (session : Session) (Allowed : ReceiptRun → ValidatedShare → Prop)
    : ReceiptRun → ReceiptRun → Prop where
  | start {run : ReceiptRun} {builder : ReceiptBuilder}
      (h : session.continueFrom run.batches = some builder)
      : Step session Allowed run { run with builder := some builder }
  | accept {run : ReceiptRun} {builder : ReceiptBuilder} {share : ValidatedShare}
      {result : Option (Except ShareError ReceiptBuilder)} {store : Store}
      (hbuilder : run.builder = some builder) (hderived : share.Derived) (hallowed : Allowed run share)
      (h : Program.Runs journalRely (builder.acceptDurable share).run run.store result store)
      : Step session Allowed run { run with store, builder := afterAccept builder result }
  | finalize {run : ReceiptRun} {builder : ReceiptBuilder} {signerSet : SignatureSet}
      {batch : ReceiptBatchV2} (hbuilder : run.builder = some builder)
      (h : builder.finalize signerSet = .ok batch)
      : Step session Allowed run { run with builder := none, batches := run.batches ++ [batch] }

abbrev Reaches (session : Session) (Allowed : ReceiptRun → ValidatedShare → Prop) :=
  Relation.ReflTransGen (Step session Allowed)

def Uncredited (run : ReceiptRun) (share : ValidatedShare) : Prop :=
  share.shareId ∉ run.shareIds

end ReceiptRun

/-!
### Every run
-/

namespace ReceiptRun

structure Inv (session : Session) (run : ReceiptRun) : Prop where
  chained : Chained session run.batches
  credited : Credited run.store run.batches
  builder : ∀ builder, run.builder = some builder
    → BuilderInv session run.store run.batches builder

theorem inv_initial (session : Session) (store : Store) : Inv session (initial store) := by
  refine ⟨.nil, ?_, ?_⟩
  . intro workKey hmem
    contradiction
  . intro builder h
    contradiction

variable {session : Session} {run : ReceiptRun} {builder : ReceiptBuilder} {store : Store}

theorem Inv.accept {share : ValidatedShare} {result : Option (Except ShareError ReceiptBuilder)}
    (hinv : Inv session run) (hbuilder : run.builder = some builder) (hderived : share.Derived)
    (huncredited : run.Uncredited share)
    (h : Program.Runs journalRely (builder.acceptDurable share).run run.store result store)
    : Inv session { run with store, builder := afterAccept builder result } := by
  obtain ⟨hs, hresult⟩ := (ReceiptBuilder.acceptDurable_obeys builder share run.store).ensures.runs h
  have hold := hinv.builder builder hbuilder
  have hrecorded : ∀ other ∈ builder.accepted, other.Recorded store := by
    intro other hmem
    apply (hold.recorded other hmem).rely hs
  refine ⟨hinv.chained, hinv.credited.rely hs, ?_⟩
  intro builder' hbuilder'
  unfold afterAccept at hbuilder'
  dsimp only at hbuilder'
  split at hbuilder'
  . contradiction
  next accepted =>
    rw [Option.some.injEq] at hbuilder'
    subst hbuilder'
    obtain ⟨hwith, hfresh, hshare⟩ := hresult accepted rfl
    subst hwith
    have hmem : ∀ other ∈ (builder.withShare share).accepted, other ∈ builder.accepted ∨ other = share := by
      intro other hother
      simpa [ReceiptBuilder.withShare] using hother
    constructor
    case continues => exact ⟨hold.continues.1, hold.continues.2, hold.continues.3, hold.continues.4,
      hold.continues.5, hold.continues.6, hold.continues.7⟩
    case distinct =>
      unfold ReceiptBuilder.withShare
      rw [List.pairwise_append]
      refine ⟨hold.distinct, List.pairwise_singleton _ _, ?_⟩
      intro other hother new hnew
      rw [List.mem_singleton] at hnew
      rw [hnew]
      apply hfresh other hother
    case derived =>
      intro other hother
      cases hmem other hother with
      | inl hother => apply hold.derived other hother
      | inr heq => rwa [heq]
    case recorded =>
      intro other hother
      cases hmem other hother with
      | inl hother => apply hrecorded other hother
      | inr heq => rwa [heq]
    case uncredited =>
      intro other hother
      cases hmem other hother with
      | inl hother => apply hold.uncredited other hother
      | inr heq =>
        rw [heq]
        exact huncredited
  . rw [Option.some.injEq] at hbuilder'
    subst hbuilder'
    exact ⟨hold.continues, hold.distinct, hold.derived, hrecorded, hold.uncredited⟩

theorem Inv.finalize {signerSet : SignatureSet} {batch : ReceiptBatchV2} (hinv : Inv session run)
    (hbuilder : run.builder = some builder) (h : builder.finalize signerSet = .ok batch)
    : Inv session { run with builder := none, batches := run.batches ++ [batch] } := by
  have hold := hinv.builder builder hbuilder
  have hbatch := (ReceiptBuilder.finalizes_of_finalize h).1
  refine ⟨.snoc hinv.chained (hold.extends hinv.credited hinv.chained hbatch), ?_, ?_⟩
  . intro workKey hmem
    simp only [List.flatMap_append, List.flatMap_singleton, List.mem_append] at hmem ⊢
    cases hmem with
    | inl hmem =>
      obtain ⟨shareId, hshare, hfind⟩ := hinv.credited workKey hmem
      exact ⟨shareId, .inl hshare, hfind⟩
    | inr hmem =>
      rw [hbatch.workKeys, List.mem_map] at hmem
      obtain ⟨share, hshare, hkey⟩ := hmem
      refine ⟨share.shareId, .inr ?_, ?_⟩
      . rw [hbatch.shareIds, List.mem_map]
        exact ⟨share, hshare, rfl⟩
      . rw [ReceiptBuilder.mem_entries] at hshare
        rw [← hkey]
        exact (hold.recorded share hshare).workKey
  . intro builder' hnone
    contradiction

variable {run' : ReceiptRun}

theorem Inv.step (hinv : Inv session run) (hstep : Step session Uncredited run run')
    : Inv session run' := by
  cases hstep with
  | start h =>
    refine ⟨hinv.chained, hinv.credited, ?_⟩
    intro builder hbuilder
    rw [Option.some.injEq] at hbuilder
    subst hbuilder
    obtain ⟨hcontinues, hempty⟩ := continues_of_continueFrom hinv.chained h
    constructor
    case continues => exact hcontinues
    all_goals simp [hempty]
  | accept hbuilder hderived hallowed h => exact hinv.accept hbuilder hderived hallowed h
  | finalize hbuilder h => exact hinv.finalize hbuilder h

theorem inv_of_reaches (h : Reaches session Uncredited (initial store) run)
    : Inv session run := by
  induction h with
  | refl => exact inv_initial session store
  | tail _ hstep ih => exact ih.step hstep

theorem reaches_credits_once {session : Session} {store : Store} {run : ReceiptRun}
    (h : Reaches session Uncredited (initial store) run)
    : run.shareIds.Nodup ∧ run.workKeys.Nodup
      ∧ ∀ roster : CommitteeRoster, roster.role = .receipt → run.batches ≠ []
        → (∀ batch ∈ run.batches, roster.verify batch.signerSet batch = .ok ())
        → ∃ summary, verifyReceiptChain run.batches roster = .ok summary := by
  have hchained := (inv_of_reaches h).chained
  refine ⟨hchained.nodup.1, hchained.nodup.2, ?_⟩
  intro roster hrole hne hsigned
  exact verifyReceiptChain_of_chained hchained hne hrole hsigned

/-!
### Undisturbed runs
-/

inductive Event where
  | start
  | accept (share : ValidatedShare)
  | finalize (sign : ReceiptBatchV2 → SignatureSet)

def exec (session : Session) (allowed : ReceiptRun → ValidatedShare → Bool) (run : ReceiptRun)
    : Event → Option ReceiptRun
  | .start => do
    let builder ← session.continueFrom run.batches
    return { run with builder := some builder }
  | .accept share => do
    let builder ← run.builder
    let answer := (builder.acceptDurable share).run.run run.store
    if (share.shareId = objectId share.share ∧ share.workKey = share.share.workKey)
        ∧ allowed run share then
      some { run with store := answer.2, builder := afterAccept builder (some answer.1) }
    else
      none
  | .finalize sign => do
    let builder ← run.builder
    let unsigned ← (builder.finalize .emptyEd25519).toOption
    let batch ← (builder.finalize (sign unsigned)).toOption
    return { run with builder := none, batches := run.batches ++ [batch] }

variable {allowed : ReceiptRun → ValidatedShare → Bool}

theorem step_of_exec {event : Event} (h : exec session allowed run event = some run')
    : Step session (fun run share => allowed run share = true) run run' := by
  cases event with
  | start =>
    simp only [exec, Option.bind_eq_bind, Option.bind_eq_some_iff, Option.pure_def,
      Option.some.injEq] at h
    obtain ⟨builder, hbuilder, h⟩ := h
    subst h
    exact .start hbuilder
  | accept share =>
    simp only [exec, Option.bind_eq_bind, Option.bind_eq_some_iff, Option.ite_none_right_eq_some,
      Option.some.injEq] at h
    obtain ⟨builder, hbuilder, ⟨⟨hshareId, hworkKey⟩, hallowed⟩, h⟩ := h
    subst h
    exact .accept hbuilder ⟨hshareId, hworkKey⟩ hallowed (Program.runs_run _ _)
  | finalize sign =>
    simp only [exec, Option.bind_eq_bind, Option.bind_eq_some_iff, Option.pure_def,
      Except.toOption_eq_some, Option.some.injEq] at h
    obtain ⟨builder, hbuilder, unsigned, _, batch, hbatch, h⟩ := h
    subst h
    exact .finalize hbuilder hbatch

theorem reaches_of_exec {events : List Event} (h : events.foldlM (exec session allowed) run = some run')
    : Reaches session (fun run share => allowed run share = true) run run' := by
  induction events generalizing run with
  | nil =>
    injection h with h
    rw [h]
  | cons event events ih =>
    rw [List.foldlM_cons, Option.bind_eq_bind, Option.bind_eq_some_iff] at h
    obtain ⟨next, hnext, h⟩ := h
    exact .head (step_of_exec hnext) (ih h)

end ReceiptRun

end

/-!
### A replayed share
-/

namespace ReceiptRun

open ReceiptBuilder (sampleShare)

def sampleSession : Session := ⟨coreV2, 2, .fill 32 1⟩

def sampleKey : ByteVec 32 := .fill 32 7

def sampleRoster : CommitteeRoster where
  protocolVersion := coreV2
  networkId := 2
  role := .receipt
  epoch := 1
  threshold := 1
  members := ⟨[sampleKey], List.pairwise_singleton _ _⟩

def sampleSign (batch : ReceiptBatchV2) : SignatureSet :=
  letI := Primitives.fold
  ⟨ed25519Suite, [Crypto.signCertificate sampleKey 2 batch]⟩

/-- A share that is final in the first batch is offered to the second builder again. -/
def replayEvents : List Event :=
  [.start, .accept (sampleShare 1), .finalize sampleSign,
    .start, .accept (sampleShare 1), .finalize sampleSign]

def replayedRun : Option ReceiptRun :=
  letI := Primitives.fold
  replayEvents.foldlM (exec sampleSession fun _ _ => true) (initial ∅)

instance (run : ReceiptRun) (share : ValidatedShare) : Decidable (Uncredited run share) :=
  inferInstanceAs (Decidable (share.shareId ∉ run.shareIds))

/-- A share that was accepted but not final when its builder was lost may be offered again. -/
def restartEvents : List Event :=
  [.start, .accept (sampleShare 1), .start, .accept (sampleShare 1), .accept (sampleShare 2),
    .finalize sampleSign, .start, .accept (sampleShare 3), .finalize sampleSign]

def restartedRun : Option ReceiptRun :=
  letI := Primitives.fold
  restartEvents.foldlM (exec sampleSession fun run share => Uncredited run share) (initial ∅)

theorem sampleRuns_verified
    : letI := Primitives.fold
      (replayedRun.any fun run => ¬ run.shareIds.Nodup ∧ ¬ run.workKeys.Nodup
        ∧ (∀ batch ∈ run.batches, sampleRoster.verify batch.signerSet batch = .ok ())
        ∧ verifyReceiptChain run.batches sampleRoster = .error .invalidReceiptChain) = true
      ∧ (restartedRun.any fun run => run.shareIds.length = 3 ∧ run.batches ≠ []
        ∧ ∀ batch ∈ run.batches, sampleRoster.verify batch.signerSet batch = .ok ()) = true := by
  decide +kernel

theorem replayed_share_credited_twice
    : letI := Primitives.fold
      ∃ run, Reaches sampleSession (fun _ _ => True) (initial ∅) run
        ∧ ¬ run.shareIds.Nodup ∧ ¬ run.workKeys.Nodup
        ∧ (∀ batch ∈ run.batches, sampleRoster.verify batch.signerSet batch = .ok ())
        ∧ verifyReceiptChain run.batches sampleRoster = .error .invalidReceiptChain := by
  let _ := Primitives.fold
  obtain ⟨run, hrun, hcredited⟩ := (Option.any_eq_true _ _).mp sampleRuns_verified.1
  have hreaches := reaches_of_exec hrun
  simp only [eq_self] at hreaches
  exact ⟨run, hreaches, of_decide_eq_true hcredited⟩

theorem restarted_run_credits_once
    : letI := Primitives.fold
      ∃ run, Reaches sampleSession Uncredited (initial ∅) run ∧ run.shareIds.length = 3
        ∧ run.shareIds.Nodup ∧ run.workKeys.Nodup
        ∧ ∃ summary, verifyReceiptChain run.batches sampleRoster = .ok summary := by
  let _ := Primitives.fold
  obtain ⟨run, hrun, hsigned⟩ := (Option.any_eq_true _ _).mp sampleRuns_verified.2
  obtain ⟨hlength, hne, hsigned⟩ := of_decide_eq_true hsigned
  have hreaches := reaches_of_exec hrun
  simp only [decide_eq_true_eq] at hreaches
  obtain ⟨hshareIds, hworkKeys, hverify⟩ := reaches_credits_once hreaches
  exact ⟨run, hreaches, hlength, hshareIds, hworkKeys, hverify sampleRoster rfl hne hsigned⟩

end ReceiptRun

end MeshMine.Share
