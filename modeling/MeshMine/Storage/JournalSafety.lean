import MeshMine.Concurrency.Pool
import MeshMine.Storage.Journal
import MeshMine.Storage.StoreLogic

/-!
The journal among concurrent writers: a journal row never changes once it is written, a committed call
takes effect in one step, and every other call writes nothing.
-/

namespace MeshMine.Storage.ProtocolJournal

def Quiet (log : List (Store × Store)) : Prop :=
  ∀ transition ∈ log, transition.1 = transition.2

theorem quiet_nil : Quiet [] := by
  intro transition hmem
  contradiction

variable {log : List (Store × Store)}

theorem Quiet.append (h : Quiet log) (s : Store)
    : Quiet (log ++ [(s, s)]) := by
  intro transition hmem
  rw [List.mem_append, List.mem_singleton] at hmem
  cases hmem with
  | inl hmem => apply h transition hmem
  | inr heq => rw [heq]

def journalRely : Rely Store where
  rel s s' := ∀ row value, isJournal row = true → s.find row = some value
    → s'.find row = some value
  refl _ _ _ _ h := h
  trans h1 h2 row value hrow h := h2 row value hrow (h1 row value hrow h)

theorem isJournal_journalRow (kind : ProtocolRecordKind) (durableKey : List UInt8)
    : isJournal (journalRow kind durableKey) = true := by
  unfold isJournal
  rw [List.any_eq_true]
  refine ⟨kind, ProtocolRecordKind.mem_all kind, ?_⟩
  simp [journalRow]

/-!
### What preparing and inspecting establish
-/

structure WellPrepared (prepared : List Prepared) : Prop where
  journal : ∀ record ∈ prepared, isJournal record.row = true
  nodup : (prepared.map Prepared.row).Nodup

variable {records : List JournalBatchRecord} {prepared : List Prepared}

theorem prepare_go_ok {acc : List Prepared} (hacc : WellPrepared acc) (h : prepare.go acc records = .ok prepared)
    : prepared = acc ++ records.map toPrepared ∧ WellPrepared prepared := by
  induction records generalizing acc with
  | nil =>
    unfold prepare.go at h
    injection h with h
    subst h
    simp [hacc]
  | cons record records ih =>
    unfold prepare.go at h
    split at h
    . contradiction
    next hfresh =>
      have hnext : WellPrepared (acc ++ [toPrepared record]) := by
        constructor
        . intro other hmem
          rw [List.mem_append, List.mem_singleton] at hmem
          cases hmem with
          | inl hmem => apply hacc.journal other hmem
          | inr heq =>
            rw [heq]
            apply isJournal_journalRow
        . rw [List.map_append, List.nodup_append]
          simp only [List.any_eq_true, decide_eq_true_eq, not_exists, not_and] at hfresh
          refine ⟨hacc.nodup, by simp, ?_⟩
          intro row hrow row' hrow'
          simp only [List.map_cons, List.map_nil, List.mem_singleton] at hrow'
          rw [List.mem_map] at hrow
          obtain ⟨other, hother, hrow⟩ := hrow
          rw [← hrow, hrow']
          apply hfresh other hother
      have := ih hnext h
      simpa using this

theorem prepare_ok (h : prepare records = .ok prepared)
    : prepared = records.map toPrepared ∧ WellPrepared prepared := by
  have hnil : WellPrepared [] := by
    constructor
    . simp
    . simp
  have := prepare_go_ok hnil h
  simpa using this

theorem prepare_ne_storage {error : StorageError}
    : prepare records ≠ .error (.storage error) := by
  unfold prepare
  generalize [] = acc
  induction records generalizing acc with
  | nil =>
    unfold prepare.go
    intro h
    contradiction
  | cons record records ih =>
    unfold prepare.go
    split
    . intro h
      injection h with h
      contradiction
    . apply ih

abbrev Known (s : Store) (prepared : List Prepared) (exact : List Bool) : Prop :=
  List.Forall₂ (fun record isExact => isExact = true → s.find record.row = some record.value)
    prepared exact

variable {s : Store} {exact : List Bool} {s' : Store}

theorem Known.rely (hprepared : ∀ record ∈ prepared, isJournal record.row = true)
    (h : Known s prepared exact) (hs : journalRely.rel s s')
    : Known s' prepared exact := by
  induction h with
  | nil => apply List.Forall₂.nil
  | cons hhead _ ih =>
    apply List.Forall₂.cons
    . intro hexact
      apply hs
      . apply hprepared
        apply List.mem_cons_self
      . apply hhead hexact
    . apply ih
      intro record hmem
      apply hprepared
      apply List.mem_cons_of_mem _ hmem

theorem known_replicate (s : Store) (prepared : List Prepared)
    : Known s prepared (List.replicate prepared.length false) := by
  induction prepared with
  | nil => apply List.Forall₂.nil
  | cons record prepared ih =>
    apply List.Forall₂.cons
    . intro h
      contradiction
    . apply ih

abbrev Noticed (s : Store) (prepared : List Prepared) (exact : List Bool) : Prop :=
  List.Forall₂ (fun record isExact => s.find record.row ≠ none → isExact = true) prepared exact

theorem Noticed.earlier (h : Noticed s' prepared exact) (hprepared : ∀ record ∈ prepared, isJournal record.row = true)
    (hs : journalRely.rel s s')
    : Noticed s prepared exact := by
  induction h with
  | nil => exact .nil
  | cons hhead _ ih =>
    rw [List.forall_mem_cons] at hprepared
    refine .cons ?_ (ih hprepared.2)
    intro hpresent
    obtain ⟨value, hvalue⟩ := Option.ne_none_iff_exists'.mp hpresent
    apply hhead
    rw [hs _ _ hprepared.1 hvalue]
    simp

theorem Known.le {known : List Bool} (h : Known s prepared known) (hnoticed : Noticed s prepared exact)
    : List.Forall₂ (· ≤ ·) known exact := by
  induction h generalizing exact with
  | nil =>
    cases hnoticed
    exact .nil
  | @cons record isKnown _ _ hhead _ ih =>
    cases hnoticed with
    | cons hpresent htail =>
      refine .cons ?_ (ih htail)
      intro hknown
      apply hpresent
      rw [hhead hknown]
      simp

def Inspected (R : Rely Store) (prepared : List Prepared) (s : Store)
    (result : Except DurableInvariantError (List Bool)) (log : List (Store × Store)) (s' : Store) : Prop :=
  Quiet log ∧ match result with
    | .ok exact => R.rel s s' ∧ Known s' prepared exact ∧ Noticed s prepared exact
    | .error error => error ≠ .storage didNotStabilize

section

variable {R : Rely Store} {G : Store → Store → Prop} (hR : ∀ {s s'}, R.rel s s' → journalRely.rel s s')
  (hread : ∀ s, G s s)

include hR hread

theorem inspect_follows (hprepared : ∀ record ∈ prepared, isJournal record.row = true) (hlog : Quiet log)
    : Program.Follows R G (Inspected R prepared s) (inspect prepared).run log s := by
  induction prepared generalizing log s with
  | nil =>
    intro s₁ hs₁
    exact ⟨hlog, hs₁, .nil, .nil⟩
  | cons record prepared ih =>
    rw [List.forall_mem_cons] at hprepared
    -- The rest of the loop, once the flag of the first record is decided.
    have hrest : ∀ (isExact : Bool) log s₁, R.rel s s₁ → Quiet log
        → (isExact = true → s₁.find record.row = some record.value)
        → (s.find record.row ≠ none → isExact = true)
        → Program.Follows R G (Inspected R (record :: prepared) s)
          (inspect prepared >>= fun exact => pure (isExact :: exact)).run log s₁ := by
      intro isExact log s₁ hs₁ hlog hexact hpresent
      apply StoreM.follows_bind (ih hprepared.2 hlog)
      . rintro exact log s₂ ⟨hquiet, hs₂, hknown, hnoticed⟩ s₃ hs₃
        refine ⟨hquiet, R.trans hs₁ (R.trans hs₂ hs₃), .cons ?_ (hknown.rely hprepared.2 (hR hs₃)),
          .cons hpresent (hnoticed.earlier hprepared.2 (hR hs₁))⟩
        intro h
        exact hR (R.trans hs₂ hs₃) _ _ hprepared.1 (hexact h)
      . intro error log s₂ hinspected _ _
        exact hinspected
    unfold inspect
    apply StoreM.follows_get hread
    . intro s₁ hs₁
      have hquiet := hlog.append s₁
      split
      next hnone =>
        apply hrest false _ s₁ hs₁ hquiet
        . intro h
          contradiction
        . intro hpresent
          obtain ⟨value, hvalue⟩ := Option.ne_none_iff_exists'.mp hpresent
          rw [hR hs₁ _ _ hprepared.1 hvalue] at hnone
          contradiction
      next existing hexisting =>
        split
        next heq =>
          apply hrest true _ s₁ hs₁ hquiet
          . intro _
            rw [hexisting, heq]
          . intro _
            rfl
        . intro s₂ _
          exact ⟨hquiet, by simp⟩
    . intro error s₁ s₂ hfault
      refine ⟨hlog.append s₁, ?_⟩
      intro h
      injection h with h
      contradiction

end

/-!
### The committing step
-/

variable {record : Prepared}

theorem exactCondition_mem_zipWith (hlength : prepared.length = exact.length) (hmem : record ∈ prepared)
    : ∃ isExact, exactCondition record isExact ∈ List.zipWith exactCondition prepared exact := by
  induction prepared generalizing exact with
  | nil => contradiction
  | cons first prepared ih =>
    cases exact with
    | nil => contradiction
    | cons isExact exact =>
      rw [List.zipWith_cons_cons]
      rw [List.mem_cons] at hmem
      cases hmem with
      | inl heq =>
        refine ⟨isExact, ?_⟩
        rw [heq]
        apply List.mem_cons_self
      | inr hmem =>
        obtain ⟨isExact', hmem'⟩ := ih (by simpa using hlength) hmem
        exact ⟨isExact', List.mem_cons_of_mem _ hmem'⟩

/-- Where the conditions of an attempt hold, a requested row is free or holds the requested bytes. -/
theorem compatible_of_conditions (hlength : prepared.length = exact.length)
    (hconditions : ∀ c ∈ List.zipWith exactCondition prepared exact, s.find c.row = c.expected)
    (hmem : record ∈ prepared)
    : s.find record.row = none ∨ s.find record.row = some record.value := by
  obtain ⟨isExact, hzip⟩ := exactCondition_mem_zipWith hlength hmem
  have hcondition := hconditions _ hzip
  cases isExact with
  | true =>
    right
    simpa [exactCondition, BatchCondition.equals] using hcondition
  | false =>
    left
    simpa [exactCondition, BatchCondition.absent] using hcondition

theorem conditions_of_known (hknown : Known s prepared exact) (hnoticed : Noticed s prepared exact)
    : ∀ c ∈ List.zipWith exactCondition prepared exact, s.find c.row = c.expected := by
  induction hknown with
  | nil => simp
  | @cons record isExact _ _ hhead _ ih =>
    obtain ⟨hpresent, hnoticed⟩ := List.forall₂_cons.mp hnoticed
    rw [List.zipWith_cons_cons, List.forall_mem_cons]
    refine ⟨?_, ih hnoticed⟩
    cases isExact with
    | true => exact hhead rfl
    | false =>
      by_contra hfound
      exact absurd (hpresent hfound) Bool.false_ne_true

structure CommitsAt (prepared : List Prepared) (conditions : List BatchCondition)
    (supplemental : List BatchOperation) (before after : Store) : Prop where
  wellPrepared : WellPrepared prepared
  supplementalRows : ∀ operation ∈ supplemental, isJournal operation.row = false
  conditions : ∀ condition ∈ conditions, before.find condition.row = condition.expected
  compatible : ∀ record ∈ prepared, before.find record.row = none
    ∨ before.find record.row = some record.value
  applied : after = before.applyAll (prepared.map putOperation ++ supplemental)

namespace CommitsAt

variable {prepared : List Prepared} {conditions : List BatchCondition}
  {supplemental : List BatchOperation} {before after : Store}

theorem of_conditions (hprepared : WellPrepared prepared)
    (hsupplemental : ∀ operation ∈ supplemental, isJournal operation.row = false)
    (hlength : prepared.length = exact.length)
    (hconditions : ∀ c ∈ conditions ++ List.zipWith exactCondition prepared exact, before.find c.row = c.expected)
    : CommitsAt prepared conditions supplemental before
        (before.applyAll (prepared.map putOperation ++ supplemental)) := by
  rw [List.forall_mem_append] at hconditions
  exact ⟨hprepared, hsupplemental, hconditions.1, fun _ => compatible_of_conditions hlength hconditions.2, rfl⟩

variable (h : CommitsAt prepared conditions supplemental before after)

include h

theorem recorded (hmem : record ∈ prepared)
    : after.find record.row = some record.value := by
  have hjournal := h.wellPrepared.journal record hmem
  have hnodup := h.wellPrepared.nodup
  rw [h.applied]
  obtain ⟨first, last, hsplit⟩ := List.append_of_mem hmem
  rw [hsplit, List.map_append, List.map_cons, List.append_assoc, List.cons_append]
  apply Store.find_applyAll_put
  intro operation hop heq
  rw [List.mem_append] at hop
  cases hop with
  | inl hop =>
    rw [List.mem_map] at hop
    obtain ⟨other, hother, hop⟩ := hop
    rw [hsplit, List.map_append, List.map_cons, List.nodup_append, List.nodup_cons] at hnodup
    apply hnodup.2.1.1
    rw [List.mem_map]
    refine ⟨other, hother, ?_⟩
    rw [← heq, ← hop]
    rfl
  | inr hop =>
    have := h.supplementalRows operation hop
    rw [heq, hjournal] at this
    contradiction

variable {row : Row}

theorem find_of_notMem (hrecords : ∀ record ∈ prepared, record.row ≠ row)
    (hsupplemental : ∀ operation ∈ supplemental, operation.row ≠ row)
    : after.find row = before.find row := by
  rw [h.applied]
  apply Store.find_applyAll_of_notMem
  intro operation hop
  rw [List.mem_append, List.mem_map] at hop
  cases hop with
  | inl hop =>
    obtain ⟨record, hrecord, hop⟩ := hop
    rw [← hop]
    apply hrecords record hrecord
  | inr hop => apply hsupplemental operation hop

theorem find_journal_of_notMem (hrow : isJournal row = true) (hrecords : ∀ record ∈ prepared, record.row ≠ row)
    : after.find row = before.find row := by
  apply h.find_of_notMem hrecords
  intro operation hop heq
  have := h.supplementalRows operation hop
  rw [heq, hrow] at this
  contradiction

theorem find_of_isJournal_eq_false (hrow : isJournal row = false)
    : after.find row = (before.applyAll supplemental).find row := by
  rw [h.applied, Store.applyAll_append]
  apply Store.find_applyAll_congr
  apply Store.find_applyAll_of_notMem
  intro operation hop heq
  rw [List.mem_map] at hop
  obtain ⟨record, hrecord, rfl⟩ := hop
  have := h.wellPrepared.journal record hrecord
  change isJournal (putOperation record).row = true at this
  rw [heq, hrow] at this
  contradiction

theorem find_journal_cases (hrow : isJournal row = true)
    : (∃ record ∈ prepared, record.row = row) ∨ after.find row = before.find row := by
  by_cases hmem : ∃ record ∈ prepared, record.row = row
  . exact .inl hmem
  . push Not at hmem
    exact .inr (h.find_journal_of_notMem hrow hmem)

theorem find_journal_of_present (hrow : isJournal row = true)
    (hpresent : ∀ record ∈ prepared, before.find record.row ≠ none)
    : after.find row = before.find row := by
  rcases h.find_journal_cases hrow with ⟨record, hmem, rfl⟩ | hsame
  . rw [h.recorded hmem, (h.compatible record hmem).resolve_left (hpresent record hmem)]
  . exact hsame

theorem rely
    : journalRely.rel before after := by
  intro row value hrow hfind
  cases h.find_journal_cases hrow with
  | inl hmem =>
    obtain ⟨record, hmem, heq⟩ := hmem
    subst heq
    rw [h.recorded hmem, ← hfind]
    cases h.compatible record hmem with
    | inl hnone =>
      rw [hnone] at hfind
      contradiction
    | inr hsome => rw [hsome]
  | inr hsame => rw [hsame, hfind]

end CommitsAt

/-!
### The retry loop
-/

variable {observed : List Bool}

theorem count_le_of_le {after : List Bool} (h : List.Forall₂ (· ≤ ·) observed after)
    : observed.count true ≤ after.count true := by
  induction h with
  | nil => apply le_rfl
  | cons hle _ ih =>
    rw [List.count_cons, List.count_cons]
    revert hle
    rename_i was is _ _ _
    cases was <;> cases is <;> simp <;> omega

theorem count_lt_of_le_of_ne {after : List Bool} (h : List.Forall₂ (· ≤ ·) observed after) (hne : after ≠ observed)
    : observed.count true < after.count true := by
  induction h with
  | nil => contradiction
  | @cons was is observed after hle htail ih =>
    have hcount := count_le_of_le htail
    rw [List.count_cons, List.count_cons]
    cases was <;> cases is
    . simp at hne ⊢
      apply ih hne
    . simp
      omega
    . contradiction
    . simp at hne ⊢
      apply ih hne

theorem any_lost_eq_false {after : List Bool} (h : List.Forall₂ (· ≤ ·) observed after)
    : ((List.zip observed after).any fun (wasExact, isExact) => wasExact && !isExact) = false := by
  induction h with
  | nil => rfl
  | @cons was is observed after hle htail ih =>
    rw [List.zip_cons_cons, List.any_cons, ih]
    revert hle
    cases was <;> cases is <;> simp

def Returned (prepared : List Prepared) (conditions : List BatchCondition)
    (supplemental : List BatchOperation) (result : Except DurableInvariantError JournalBatchOutcome)
    (log : List (Store × Store)) (s : Store) : Prop :=
  match result with
  | .ok .committed => (∃ own before after, log = own ++ [(before, after)] ∧ Quiet own
      ∧ CommitsAt prepared conditions supplemental before after)
    ∧ ∀ record ∈ prepared, s.find record.row = some record.value
  | .ok .exactRecord => Quiet log ∧ ∀ record ∈ prepared, s.find record.row = some record.value
  | .ok .preconditionMismatch => Quiet log
  | .error error => Quiet log ∧ error ≠ .storage didNotStabilize

/-- What an outcome says: the commit, or a condition of the caller that did not hold. -/
structure Settles (R : Rely Store) (prepared : List Prepared) (conditions : List BatchCondition)
    (supplemental : List BatchOperation) (s : Store) (outcome : JournalBatchOutcome) (s' : Store)
    : Prop where
  committed : outcome = .committed → ∃ before after, R.rel s before
    ∧ CommitsAt prepared conditions supplemental before after ∧ R.rel after s'
  refused : outcome ≠ .committed → R.rel s s' ∧ ∃ c ∈ conditions, ∃ t, R.rel s t ∧ t.find c.row ≠ c.expected
  recorded : outcome ≠ .preconditionMismatch → ∀ record ∈ prepared, s'.find record.row = some record.value

def Answered (R : Rely Store) (prepared : List Prepared) (conditions : List BatchCondition)
    (supplemental : List BatchOperation) (s : Store) (result : Except DurableInvariantError JournalBatchOutcome)
    (log : List (Store × Store)) (s' : Store) : Prop :=
  Returned prepared conditions supplemental result log s'
    ∧ ∀ outcome, result = .ok outcome → Settles R prepared conditions supplemental s outcome s'

theorem Known.of_all (h : Known s prepared exact) (hall : exact.all id = true)
    : ∀ record ∈ prepared, s.find record.row = some record.value := by
  induction h with
  | nil => simp
  | cons hhead _ ih =>
    rw [List.all_cons, Bool.and_eq_true] at hall
    rw [List.forall_mem_cons]
    exact ⟨hhead hall.1, ih hall.2⟩

section

variable {R : Rely Store} {G : Store → Store → Prop} (hR : ∀ {s s'}, R.rel s s' → journalRely.rel s s')
  (hread : ∀ s, G s s)

include hR hread

variable {conditions : List BatchCondition} {supplemental : List BatchOperation}

theorem attempt_follows {s₀ : Store} {known : List Bool} {rounds : Nat}
    (hs₀ : R.rel s₀ s) (hprepared : WellPrepared prepared)
    (hsupplemental : ∀ operation ∈ supplemental, isJournal operation.row = false)
    (hcommit : ∀ before after, R.rel s₀ before
      → CommitsAt prepared conditions supplemental before after → G before after)
    (hknown : Known s prepared known) (hrounds : prepared.length < known.count true + rounds) (hlog : Quiet log)
    : Program.Follows R G (Answered R prepared conditions supplemental s₀)
        (attempt prepared conditions (prepared.map putOperation ++ supplemental) rounds).run log s := by
  induction rounds generalizing known log s with
  | zero =>
    have hcount := List.count_le_length (a := true) (l := known)
    have hlength := hknown.length_eq
    omega
  | succ rounds ih =>
    unfold attempt
    apply StoreM.follows_bind (inspect_follows hR hread hprepared.journal hlog)
    . rintro observed log s₁ ⟨hquiet, hs₁, hobserved, hseen⟩
      apply StoreM.follows_applyBatchIfAll hread
      . intro s₂ hs₂ hconditions
        have hcommits := CommitsAt.of_conditions hprepared hsupplemental hobserved.length_eq hconditions
        have hreached := R.trans hs₀ (R.trans hs₁ hs₂)
        refine ⟨hcommit _ _ hreached hcommits, ?_⟩
        intro s₃ hs₃
        have hrecorded : ∀ record ∈ prepared, s₃.find record.row = some record.value := by
          intro record hmem
          exact hR hs₃ _ _ (hprepared.journal record hmem) (hcommits.recorded hmem)
        refine ⟨⟨⟨log, s₂, _, rfl, hquiet, hcommits⟩, hrecorded⟩, ?_⟩
        rintro _ ⟨⟩
        exact ⟨fun _ => ⟨s₂, _, hreached, hcommits, hs₃⟩, fun h => absurd rfl h, fun _ => hrecorded⟩
      . intro s₂ hs₂ hrefused
        have hreached := R.trans hs₀ (R.trans hs₁ hs₂)
        have hkept := hobserved.rely hprepared.journal (hR hs₂)
        apply StoreM.follows_bind (inspect_follows hR hread hprepared.journal (hquiet.append s₂))
        . rintro after log s₃ ⟨hquiet, hs₃, hafter, hnoticed⟩
          dsimp only
          split
          next hsame =>
            intro s₄ hs₄
            -- The records were as observed, so that it was one of the caller's conditions that failed.
            have hfailed : ∃ c ∈ conditions, s₂.find c.row ≠ c.expected := by
              obtain ⟨c, hmem, hne⟩ := hrefused
              rcases List.mem_append.mp hmem with hmem | hmem
              . exact ⟨c, hmem, hne⟩
              . rw [hsame] at hnoticed
                exact absurd (conditions_of_known hkept hnoticed c hmem) hne
            obtain ⟨c, hmem, hne⟩ := hfailed
            have hrecorded := (hafter.rely hprepared.journal (hR hs₄)).of_all
            have hsettles : ∀ outcome, outcome ≠ .committed → (outcome ≠ .preconditionMismatch → after.all id = true)
                → Settles R prepared conditions supplemental s₀ outcome s₄ := by
              intro outcome hcommitted hall
              exact ⟨fun h => absurd h hcommitted,
                fun _ => ⟨R.trans hreached (R.trans hs₃ hs₄), c, hmem, s₂, hreached, hne⟩,
                fun h => hrecorded (hall h)⟩
            split
            next hall =>
              refine ⟨⟨hquiet, hrecorded hall⟩, ?_⟩
              rintro _ ⟨⟩
              exact hsettles _ (by simp) fun _ => hall
            . refine ⟨hquiet, ?_⟩
              rintro _ ⟨⟩
              exact hsettles _ (by simp) fun h => absurd rfl h
          next hne =>
            have hles := hkept.le hnoticed
            rw [any_lost_eq_false hles]
            have hmore := count_lt_of_le_of_ne hles hne
            have hcount := count_le_of_le (hknown.le hseen)
            apply ih (R.trans hreached hs₃) hafter _ hquiet
            omega
        . intro error log s₃ hinspected _ _
          exact ⟨hinspected, by simp⟩
      . intro error s₂ s₃ hfault
        refine ⟨⟨hquiet.append s₂, ?_⟩, by simp⟩
        intro h
        injection h with h
        contradiction
    . intro error log s₁ hinspected _ _
      exact ⟨hinspected, by simp⟩

theorem persistRecordsWithConditionsAndBatch_follows (hlog : Quiet log) (hcommit : ∀ before after, R.rel s before
      → CommitsAt (records.map toPrepared) conditions supplemental before after → G before after)
    : Program.Follows R G (Answered R (records.map toPrepared) conditions supplemental s)
        (persistRecordsWithConditionsAndBatch records conditions supplemental).run log s := by
  have hfails : ∀ {error : DurableInvariantError} {s'}, error ≠ .storage didNotStabilize
      → Answered R (records.map toPrepared) conditions supplemental s (.error error) log s' :=
    fun herror => ⟨⟨hlog, herror⟩, by simp⟩
  unfold persistRecordsWithConditionsAndBatch
  split
  . intro _ _
    exact hfails (by simp)
  . cases hprepare : prepare records with
    | error error =>
      intro _ _
      apply hfails
      rintro rfl
      exact prepare_ne_storage hprepare
    | ok prepared =>
      obtain ⟨rfl, hprepared⟩ := prepare_ok hprepare
      change Program.Follows R G _ (ite _ _ _ : StoreM _ _).run _ _
      split
      . intro _ _
        exact hfails (by simp)
      next htargets =>
        simp only [Bool.or_eq_true, not_or, List.any_eq_true, not_exists, not_and,
          Bool.not_eq_true] at htargets
        apply attempt_follows hR hread (R.refl s) hprepared htargets.2 hcommit (known_replicate s _) _ hlog
        rw [List.length_map]
        omega

end

/-!
### Any number of writers
-/

def StoreOp.writesJournal : StoreOp → Bool
  | .applyBatchIfAll _ operations => operations.any fun operation => isJournal operation.row
  | _ => false

/-- A program that writes to journal rows only through the journal. -/
inductive Disciplined : {α : Type} → Program storeMachine α → Prop where
  | pure {α : Type} (a : α) : Disciplined (.pure a)
  | call {α : Type} (op : StoreOp) (k : Except StorageError op.Res → Program storeMachine α)
      (hop : StoreOp.writesJournal op = false) (hk : ∀ answer, Disciplined (k answer))
      : Disciplined (.call (M := storeMachine) op k)
  | persist {α : Type} (records : List JournalBatchRecord) (conditions : List BatchCondition)
      (supplemental : List BatchOperation)
      (k : Except DurableInvariantError JournalBatchOutcome → Program storeMachine α)
      (hk : ∀ result, Disciplined (k result))
      : Disciplined ((persistRecordsWithConditionsAndBatch records conditions supplemental).run >>= k)

theorem rely_of_writesJournal {op : StoreOp} {answer : Except StorageError (storeMachine.Res op)}
    (hop : StoreOp.writesJournal op = false) (h : storeMachine.Answers op s answer s')
    : journalRely.rel s s' := by
  cases op with
  | applyBatchIfAll conditions operations =>
    obtain ⟨_, rfl, _⟩ | ⟨rfl, _⟩ := answers_applyBatchIfAll h
    . intro row value hrow hfind
      rw [Store.find_applyAll_of_notMem, hfind]
      intro operation hmem hsame
      unfold StoreOp.writesJournal at hop
      rw [List.any_eq_false] at hop
      apply hop operation hmem
      rw [hsame, hrow]
    . apply journalRely.refl
  | _ => cases h <;> apply journalRely.refl

theorem persistRecords_safe (records : List JournalBatchRecord) (conditions : List BatchCondition)
    (supplemental : List BatchOperation) (s : Store)
    : Program.Safe journalRely (Returned (records.map toPrepared) conditions supplemental)
        (persistRecordsWithConditionsAndBatch records conditions supplemental).run [] s := by
  apply (persistRecordsWithConditionsAndBatch_follows id journalRely.refl quiet_nil ?_).mono
  . intro _ _ _ h
    exact h.1
  . intro before after _ hcommits
    exact hcommits.rely

theorem Disciplined.safe {α : Type} {x : Program storeMachine α} (h : Disciplined x)
    : Program.Safe journalRely (fun _ _ _ => True) x log s := by
  induction h generalizing log s with
  | pure a =>
    intro _ _
    trivial
  | call op k hop _ ih =>
    intro s' _ answer s'' hanswer
    exact ⟨rely_of_writesJournal hop hanswer, ih answer⟩
  | persist records conditions supplemental k _ ih =>
    have hsafe := (persistRecords_safe records conditions supplemental s).prepend log
    rw [List.append_nil] at hsafe
    apply hsafe.bind
    intro result log' s' _
    exact ih result

inductive JournalCall where
  | persistRecords (records : List JournalBatchRecord) (conditions : List BatchCondition)
      (supplemental : List BatchOperation)
  | other (program : Program storeMachine (Except DurableInvariantError JournalBatchOutcome))
      (h : Disciplined program)

def JournalCall.program
    : JournalCall → Program storeMachine (Except DurableInvariantError JournalBatchOutcome)
  | persistRecords records conditions supplemental =>
    (persistRecordsWithConditionsAndBatch records conditions supplemental).run
  | other program _ => program

def JournalCall.Spec (result : Except DurableInvariantError JournalBatchOutcome)
    (log : List (Store × Store)) (s : Store) : JournalCall → Prop
  | persistRecords records conditions supplemental =>
    Returned (records.map toPrepared) conditions supplemental result log s
  | other _ _ => True

theorem JournalCall.guarantee
    : Pool.Guarantee journalRely (fun _ => True) JournalCall.program
        (fun call result log s => call.Spec result log s) := by
  constructor
  . intro s s' _ _
    trivial
  . intro call s _
    cases call with
    | persistRecords records conditions supplemental =>
      apply persistRecords_safe
    | other program h =>
      apply h.safe.mono
      intro _ _ _ _
      trivial

abbrev JournalPool (ι : Type) :=
  Pool ι JournalCall storeMachine (Except DurableInvariantError JournalBatchOutcome)

theorem JournalPool.reaches_linearizes {ι : Type} [DecidableEq ι] {store : Store}
    {pool : JournalPool ι} (h : Pool.Reaches JournalCall.program (Pool.idle store) pool)
    : (∀ pool', Pool.Reaches JournalCall.program pool pool'
        → ∀ row value, isJournal row = true → pool.state.find row = some value
          → pool'.state.find row = some value)
      ∧ ∀ i records conditions supplemental result log,
          pool.threads i = some ⟨.persistRecords records conditions supplemental, .pure result, log⟩
          → Returned (records.map toPrepared) conditions supplemental result log pool.state := by
  have hinv := (Pool.inv_idle (R := journalRely) trivial).reaches JournalCall.guarantee h
  constructor
  . intro pool' h'
    have hlater : Pool.Inv journalRely (fun _ => True)
        (fun call result log s => JournalCall.Spec result log s call) pool.state pool :=
      ⟨journalRely.refl _, trivial, hinv.safe⟩
    exact (hlater.reaches JournalCall.guarantee h').reached
  . intro i records conditions supplemental result log hthread
    exact hinv.returned hthread

/-- A first record whose supplemental operation moves a cursor that must still be absent. -/
def sampleRecords : List JournalBatchRecord := [⟨.payoutBucket, [1], [2]⟩]

def sampleCursor : Row := ⟨"cursor", [97]⟩

def sampleCall : JournalCall :=
  .persistRecords sampleRecords [.absent sampleCursor] [.put sampleCursor [3]]

theorem JournalPool.reaches_linearizes_sampleCall
    : ∃ (pool : JournalPool Unit) (log : List (Store × Store)),
        Pool.Reaches JournalCall.program (Pool.idle ∅) pool
        ∧ pool.threads () = some ⟨sampleCall, .pure (.ok .committed), log⟩
        ∧ Returned (sampleRecords.map toPrepared) [.absent sampleCursor] [.put sampleCursor [3]]
          (.ok .committed) log pool.state := by
  have hrun : (sampleCall.program.run ∅).1 = .ok .committed := by
    decide
  obtain ⟨log, hreaches⟩ := Pool.reaches_start JournalCall.program sampleCall
    (Pool.idle ∅ : JournalPool Unit) (i := ()) rfl
  change Pool.Reaches _ _ ⟨_, Function.update _ _ (some ⟨_, .pure (sampleCall.program.run ∅).1, _⟩)⟩
    at hreaches
  rw [hrun] at hreaches
  have hthread := Function.update_self () (some ⟨sampleCall, .pure (.ok .committed), log⟩)
    (Pool.idle ∅ : JournalPool Unit).threads
  refine ⟨_, log, hreaches, hthread, ?_⟩
  exact (JournalPool.reaches_linearizes hreaches).2 () sampleRecords _ _ _ log hthread

end MeshMine.Storage.ProtocolJournal
