import MeshMine.Share.Receipts
import MeshMine.Storage.JournalShared

/-!
The receipt builder: what a durable acceptance leaves in the store, and what `finalize` makes of the
accepted shares.
-/

namespace MeshMine.Share

open MeshMine.Types Codec Storage Handoff
open Storage.ProtocolJournal
open StoreM (Obeys)

structure ValidatedShare.Recorded (share : ValidatedShare) (s : Store) : Prop where
  workKey : s.find (journalRow .acceptedWorkKey share.workKey.toList) = some share.shareId.toList
  share : s.find (journalRow .acceptedShare share.shareId.toList) = some (toCanonicalBytes share.share)

variable {share : ValidatedShare} {s : Store}

theorem ValidatedShare.Recorded.rely {s' : Store} (h : share.Recorded s) (hs : journalRely.rel s s')
    : share.Recorded s' := by
  constructor
  . apply hs _ _ (isJournal_journalRow _ _) h.workKey
  . apply hs _ _ (isJournal_journalRow _ _) h.share

variable {builder : ReceiptBuilder}

namespace ReceiptBuilder

variable {R : Rely Store} {records : List JournalBatchRecord} {conditions : List BatchCondition}
  {operations : List BatchOperation}

theorem persistOutcome_obeys {G : Store → Store → Prop} (hR : ∀ {s s'}, R.rel s s' → journalRely.rel s s')
    (hread : ∀ s, G s s) (hcommit : ∀ before after, R.rel s before
      → CommitsAt (records.map toPrepared) conditions operations before after → G before after)
    : Obeys R G (persistOutcome records conditions operations) s fun result s' =>
        ∀ outcome, result = .ok outcome → outcome ≠ .preconditionMismatch
          → ∀ record ∈ records.map toPrepared, s'.find record.row = some record.value := by
  apply Program.Obeys.bind
  apply Program.Obeys.mono (Program.Obeys.stable (persistRecordsWithConditionsAndBatch_obeys hR hread hcommit))
  rintro result s' hresult s'' hs _ ⟨⟩ outcome houtcome
  exact (hresult s'' hs outcome houtcome).recorded

theorem checkNew_eq_ok
    : builder.checkNew share = .ok () ↔ share.share.sessionId = builder.sessionId
        ∧ ∀ other ∈ builder.accepted, other.workKey ≠ share.workKey := by
  unfold checkNew
  rw [Except.bind_unit_eq_ok, Except.rejectIf_eq_ok, Except.rejectIf_eq_ok]
  push Not
  rfl

def withShare (builder : ReceiptBuilder) (share : ValidatedShare) : ReceiptBuilder :=
  { builder with accepted := builder.accepted ++ [share] }

structure Accepts (builder : ReceiptBuilder) (share : ValidatedShare) (builder' : ReceiptBuilder)
    (s : Store) : Prop where
  result : builder' = builder.withShare share
  fresh : ∀ other ∈ builder.accepted, other.workKey ≠ share.workKey
  recorded : share.Recorded s

theorem accept_eq_ok {builder' : ReceiptBuilder}
    : builder.accept share = .ok builder' ↔ (share.share.sessionId = builder.sessionId
        ∧ ∀ other ∈ builder.accepted, other.workKey ≠ share.workKey) ∧ builder.withShare share = builder' := by
  unfold accept
  rw [Except.bind_unit_eq_ok, checkNew_eq_ok]
  change _ ∧ Except.ok (builder.withShare share) = _ ↔ _
  rw [Except.ok.injEq]

theorem acceptDurable_obeys (builder : ReceiptBuilder) (share : ValidatedShare) (s₀ : Store)
    : Obeys journalRely journalRely.rel (builder.acceptDurable share) s₀ (builder.Accepts share) := by
  apply Obeys.bind_check
  apply (persistOutcome_obeys id journalRely.refl fun _ _ _ hcommit => hcommit.rely).seq
  intro outcome s houtcome
  have haccept : (∀ record ∈ (acceptedRecords share).map toPrepared,
        s.find record.row = some record.value)
      → Obeys journalRely journalRely.rel (StoreM.ofExcept (builder.accept share)) s (builder.Accepts share) := by
    intro hrecords
    apply Obeys.ofExcept
    intro builder' s' hresult hs'
    obtain ⟨⟨_, hfresh⟩, hbuilder⟩ := accept_eq_ok.mp hresult
    refine ⟨hbuilder.symm, hfresh, ValidatedShare.Recorded.rely ?_ hs'⟩
    constructor
    . apply hrecords ⟨journalRow .acceptedWorkKey share.workKey.toList, share.shareId.toList⟩
      apply List.mem_cons_self
    . apply hrecords ⟨journalRow .acceptedShare share.shareId.toList, toCanonicalBytes share.share⟩
      apply List.mem_cons_of_mem
      apply List.mem_cons_self
  split
  . apply haccept
    apply houtcome _ rfl
    simp
  . apply haccept
    apply houtcome _ rfl
    simp
  . apply Obeys.throw
  . apply Obeys.throw
  . apply Obeys.throw

instance : Std.Total entryLe where
  total a b := by
    unfold entryLe
    rcases lt_trichotomy a.workKey b.workKey with h | h | h
    . simp [h]
    . simp [h, le_total]
    . simp [h]

instance : IsTrans ValidatedShare entryLe where
  trans a b c := by
    unfold entryLe
    rintro (hab | ⟨hab, hle⟩) (hbc | ⟨hbc, hle'⟩)
    . exact .inl (lt_trans hab hbc)
    . exact .inl (hbc ▸ hab)
    . exact .inl (hab ▸ hbc)
    . exact .inr ⟨hab.trans hbc, le_trans hle hle'⟩

def entries (builder : ReceiptBuilder) : List ValidatedShare :=
  builder.accepted.insertionSort entryLe

theorem mem_entries
    : share ∈ builder.entries ↔ share ∈ builder.accepted := by
  unfold entries
  exact List.mem_insertionSort entryLe

theorem entries_sorted (h : builder.accepted.Pairwise fun a b => a.workKey ≠ b.workKey)
    : builder.entries.Pairwise fun a b => a.workKey < b.workKey := by
  have hne : builder.entries.Pairwise fun a b => a.workKey ≠ b.workKey := by
    apply (List.perm_insertionSort entryLe builder.accepted).symm.pairwise h
    intro a b hab
    exact hab.symm
  have hle : builder.entries.Pairwise entryLe := List.pairwise_insertionSort entryLe _
  apply hle.imp₂ _ hne
  intro a b hab hkeys
  unfold entryLe at hab
  simpa [hkeys] using hab

theorem entries_of_perm {other : ReceiptBuilder} (hperm : builder.accepted.Perm other.accepted)
    (h : builder.accepted.Pairwise fun a b => a.workKey ≠ b.workKey)
    : builder.entries = other.entries := by
  have hother : other.accepted.Pairwise fun a b => a.workKey ≠ b.workKey :=
    hperm.pairwise h fun hab => hab.symm
  apply List.Perm.eq_of_pairwise _ (entries_sorted h) (entries_sorted hother)
  . exact (List.perm_insertionSort entryLe _).trans (hperm.trans (List.perm_insertionSort entryLe _).symm)
  . intro a b _ _ hab hba
    exact absurd hab (lt_asymm hba)

theorem unsorted_map_eq_false {shares : List ValidatedShare} (h : shares.Pairwise fun a b => a.workKey < b.workKey)
    : ReceiptBatchV2.unsorted (shares.map (·.workKey)) (shares.map (·.shareId)) = false := by
  induction shares with
  | nil => rfl
  | cons a shares ih =>
    cases shares with
    | nil => rfl
    | cons b shares =>
      rw [List.pairwise_cons] at h
      have hab := h.1 b (List.mem_cons_self ..)
      have htail := ih h.2
      simp only [List.map_cons] at htail ⊢
      unfold ReceiptBatchV2.unsorted
      rw [htail, Bool.or_false, decide_eq_false_iff_not]
      rintro (hlt | ⟨heq, _⟩)
      . exact lt_asymm hab hlt
      . exact absurd heq (ne_of_gt hab)

end ReceiptBuilder

section

variable [P : Primitives]

structure ValidatedShare.Derived (share : ValidatedShare) : Prop where
  shareId : share.shareId = objectId share.share
  workKey : share.workKey = share.share.workKey

theorem ValidatedShare.workKey_eq_of_recorded {a b : ValidatedShare} (ha : a.Derived) (hb : b.Derived)
    (hra : a.Recorded s) (hrb : b.Recorded s) (h : a.shareId = b.shareId)
    : a.workKey = b.workKey := by
  have hbytes := hra.share
  rw [h, hrb.share, Option.some.injEq] at hbytes
  rw [ha.workKey, hb.workKey]
  apply ShareV2.workKey_eq_of_bytes hbytes.symm

namespace ReceiptBuilder

structure Finalizes (builder : ReceiptBuilder) (batch : ReceiptBatchV2) : Prop where
  protocolVersion : batch.protocolVersion = builder.protocolVersion
  networkId : batch.networkId = builder.networkId
  sessionId : batch.sessionId = builder.sessionId
  batchSequence : batch.batchSequence = builder.batchSequence
  previousBatchId : batch.previousBatchId = builder.previousBatchId
  shareIds : batch.acceptedShareIds = builder.entries.map (·.shareId)
  workKeys : batch.acceptedWorkKeys = builder.entries.map (·.workKey)
  creditedWork : batch.creditedWork = builder.entries.map (·.creditedWork)
  merkleRoot : batch.shareMerkleRoot = Hns.merkleRoot batch.acceptedShareIds
  shareCount : batch.cumulativeShareCount.toNat
    = builder.previousShareCount.toNat + builder.entries.length
  work : batch.cumulativeCreditedWork.toNat
    = builder.previousWork.toNat + (batch.creditedWork.map ByteVec.toNat).sum

variable {signerSet : SignatureSet} {batch : ReceiptBatchV2}

theorem finalizes_of_finalize (h : builder.finalize signerSet = .ok batch)
    : builder.Finalizes batch ∧ batch.signerSet = signerSet := by
  unfold finalize at h
  rw [Except.bind_unit_eq_ok, Except.rejectIf_eq_ok] at h
  obtain ⟨hbits, h⟩ := h
  split at h
  . contradiction
  next count hcount =>
    injection h with h
    subst h
    refine ⟨⟨rfl, rfl, rfl, rfl, rfl, rfl, rfl, rfl, rfl, ?_, ?_⟩, rfl⟩
    . exact UInt64.toNat_of_checkedAddLength_eq_some hcount
    . apply toNat_biguintToU512
      rw [Bytes.length_toMinimalBE]
      omega

/-- The two sums that `finalize` checks do not depend on the order of the entries. -/
theorem exists_finalize_iff
    : (∃ batch, builder.finalize signerSet = .ok batch)
      ↔ builder.previousWork.toNat + (builder.accepted.map (·.creditedWork.toNat)).sum < 2 ^ 512
        ∧ builder.previousShareCount.toNat + builder.accepted.length < 2 ^ 64 := by
  have hperm := List.perm_insertionSort entryLe builder.accepted
  have hsum := (hperm.map (·.creditedWork.toNat)).sum_nat
  unfold finalize UInt64.checkedAddLength
  simp only [Except.bind_unit_eq_ok, Except.rejectIf_eq_ok, Nat.not_lt, Bytes.bitLength_le_iff, List.map_map,
    Function.comp_def, hsum, hperm.length_eq, exists_and_left]
  apply and_congr_right'
  split_ifs with hcount
  . exact iff_of_true ⟨_, rfl⟩ hcount
  . refine iff_of_false ?_ hcount
    rintro ⟨_, h⟩
    cases h

theorem Finalizes.validateEntries (h : builder.Finalizes batch)
    (hdistinct : builder.accepted.Pairwise fun a b => a.workKey ≠ b.workKey)
    (horder : batch.signerSet.validateOrder = .ok ())
    : batch.validateEntries = .ok () := by
  rw [ReceiptBatchV2.validateEntries_eq_ok, h.workKeys, h.shareIds, h.creditedWork]
  exact ⟨by simp, unsorted_map_eq_false (entries_sorted hdistinct), horder⟩

def withShares (builder : ReceiptBuilder) (shares : List ValidatedShare) : ReceiptBuilder :=
  { builder with accepted := builder.accepted ++ shares }

omit P in
theorem foldlM_accept_eq_ok {builder' : ReceiptBuilder} {shares : List ValidatedShare}
    : shares.foldlM accept builder = .ok builder' ↔ builder' = builder.withShares shares
        ∧ (∀ share ∈ shares, share.share.sessionId = builder.sessionId)
        ∧ (shares.Pairwise fun a b => a.workKey ≠ b.workKey)
        ∧ ∀ other ∈ builder.accepted, ∀ share ∈ shares, other.workKey ≠ share.workKey := by
  induction shares generalizing builder with
  | nil =>
    change Except.ok builder = _ ↔ _
    simp [withShares, eq_comm]
  | cons share shares ih =>
    rw [List.foldlM_cons, Except.bind_eq_ok_iff]
    simp only [accept_eq_ok, ih]
    simp only [List.forall_mem_cons, List.pairwise_cons]
    grind [withShare, withShares]

theorem finalize_of_perm {builder : ReceiptBuilder} {signerSet : SignatureSet}
    {shares shares' : List ValidatedShare} (hnew : builder.accepted = [])
    (hsession : ∀ share ∈ shares, share.share.sessionId = builder.sessionId)
    (hdistinct : shares.Pairwise fun a b => a.workKey ≠ b.workKey) (hperm : shares.Perm shares')
    (horder : signerSet.validateOrder = .ok ())
    : ∃ first second, shares.foldlM accept builder = .ok first ∧ shares'.foldlM accept builder = .ok second
      ∧ first.finalize signerSet = second.finalize signerSet
      ∧ (∀ batch, first.finalize signerSet = .ok batch
        → batch.validateEntries = .ok () ∧ batch.acceptedShareIds.length = shares.length)
      ∧ ((∃ batch, first.finalize signerSet = .ok batch)
        ↔ builder.previousWork.toNat + (shares.map (·.creditedWork.toNat)).sum < 2 ^ 512
          ∧ builder.previousShareCount.toNat + shares.length < 2 ^ 64) := by
  have haccepted : ∀ shares : List ValidatedShare, (builder.withShares shares).accepted = shares := by
    intro shares
    simp [withShares, hnew]
  have hentries : (builder.withShares shares).entries = (builder.withShares shares').entries := by
    apply entries_of_perm
    . rwa [haccepted, haccepted]
    . rwa [haccepted]
  refine ⟨_, _, foldlM_accept_eq_ok.mpr ⟨rfl, hsession, hdistinct, by simp [hnew]⟩,
    foldlM_accept_eq_ok.mpr ⟨rfl, ?_, hperm.pairwise hdistinct fun hab => hab.symm, by simp [hnew]⟩, ?_, ?_, ?_⟩
  . intro share hmem
    exact hsession share (hperm.mem_iff.mpr hmem)
  . unfold entries at hentries
    unfold finalize
    rw [hentries]
    rfl
  . intro batch hbatch
    obtain ⟨hfinalizes, hsigners⟩ := finalizes_of_finalize hbatch
    refine ⟨hfinalizes.validateEntries (by rwa [haccepted]) (hsigners ▸ horder), ?_⟩
    rw [hfinalizes.shareIds, List.length_map, entries, List.length_insertionSort, haccepted]
  . rw [exists_finalize_iff, haccepted]
    rfl

end ReceiptBuilder

end

namespace ReceiptBuilder

def sampleShareV2 (nonce : UInt32) : ShareV2 :=
  { (default : ShareV2) with
    protocolVersion := coreV2
    networkId := 2
    sessionId := .fill 32 1
    nonce
    declaredTarget := .fill 32 255 }

def sampleShare (nonce : UInt32) : ValidatedShare :=
  letI := Primitives.fold
  ⟨sampleShareV2 nonce, objectId (sampleShareV2 nonce), (sampleShareV2 nonce).workKey,
    workForTarget (.fill 32 255)⟩

def sampleStart : ReceiptBuilder :=
  new coreV2 2 (.fill 32 1) 0 zeroHash 0 (.zero 64)

theorem finalize_of_perm_sample
    : letI := Primitives.fold
      ∃ first second, [sampleShare 1, sampleShare 2].foldlM accept sampleStart = .ok first
        ∧ [sampleShare 2, sampleShare 1].foldlM accept sampleStart = .ok second
        ∧ ∃ batch, first.finalize .emptyEd25519 = .ok batch ∧ second.finalize .emptyEd25519 = .ok batch
          ∧ batch.validateEntries = .ok () ∧ batch.acceptedShareIds.length = 2 := by
  let _ := Primitives.fold
  have hnew : sampleStart.accepted = [] := rfl
  have horder : SignatureSet.emptyEd25519.validateOrder = .ok () := by decide
  obtain ⟨first, second, hfirst, hsecond, heq, hvalid, hreturns⟩ :=
    finalize_of_perm hnew (by decide +kernel) (by decide +kernel) (.swap (sampleShare 2) (sampleShare 1) []) horder
  obtain ⟨batch, hbatch⟩ := hreturns.mpr (by decide +kernel)
  exact ⟨first, second, hfirst, hsecond, batch, hbatch, heq ▸ hbatch, hvalid batch hbatch⟩

end ReceiptBuilder

end MeshMine.Share
