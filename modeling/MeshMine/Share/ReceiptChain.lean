import MeshMine.Share.ReceiptBuilder

/-!
Chains of receipt batches: each batch extends the ones before it, `verifyReceiptChain` accepts such a
chain, and a builder whose shares are not credited yet finalizes a batch that extends it.
-/

namespace MeshMine.Share

open MeshMine.Types Storage Handoff
open Storage.ProtocolJournal

theorem repeats_eq_false {seen entries : List Hash256} (h : (seen ++ entries).Nodup)
    : repeats seen entries = false := by
  induction entries generalizing seen with
  | nil => rfl
  | cons entry entries ih =>
    unfold repeats
    have hperm : (entry :: (seen ++ entries)).Nodup := List.perm_middle.nodup_iff.mp h
    rw [ih (by rwa [List.cons_append]), Bool.or_false, List.contains_eq_mem, decide_eq_false_iff_not]
    intro hmem
    rw [List.nodup_cons] at hperm
    apply hperm.1
    apply List.mem_append_left _ hmem

def Credited (store : Store) (batches : List ReceiptBatchV2) : Prop :=
  ∀ workKey ∈ batches.flatMap (·.acceptedWorkKeys),
    ∃ shareId ∈ batches.flatMap (·.acceptedShareIds),
      store.find (journalRow .acceptedWorkKey workKey.toList) = some shareId.toList

variable {batches : List ReceiptBatchV2} {store : Store}

theorem Credited.rely {store' : Store} (h : Credited store batches) (hs : journalRely.rel store store')
    : Credited store' batches := by
  intro workKey hmem
  obtain ⟨shareId, hshare, hfind⟩ := h workKey hmem
  exact ⟨shareId, hshare, hs _ _ (isJournal_journalRow _ _) hfind⟩

variable [P : Primitives]

structure Session where
  protocolVersion : UInt16
  networkId : UInt8
  sessionId : Hash256

def Session.continueFrom (session : Session) (batches : List ReceiptBatchV2) : Option ReceiptBuilder :=
  match batches.getLast? with
  | none => some (.new session.protocolVersion session.networkId session.sessionId 0 zeroHash 0
    (ByteVec.zero 64))
  | some batch =>
    match batch.batchSequence.checkedAdd 1 with
    | none => none
    | some sequence => some (.new session.protocolVersion session.networkId session.sessionId sequence
      (objectId batch) batch.cumulativeShareCount batch.cumulativeCreditedWork)

/-- What a batch adds to the batches before it, its signatures apart. -/
structure Extends (session : Session) (before : List ReceiptBatchV2) (batch : ReceiptBatchV2)
    : Prop where
  protocolVersion : batch.protocolVersion = session.protocolVersion
  networkId : batch.networkId = session.networkId
  sessionId : batch.sessionId = session.sessionId
  first : before = [] → batch.batchSequence = 0 ∧ batch.previousBatchId = zeroHash
  link : invalidLink before.getLast? batch = false
  workKeysLength : batch.acceptedWorkKeys.length = batch.acceptedShareIds.length
  creditedWorkLength : batch.creditedWork.length = batch.acceptedShareIds.length
  sorted : ReceiptBatchV2.unsorted batch.acceptedWorkKeys batch.acceptedShareIds = false
  merkleRoot : batch.shareMerkleRoot = Hns.merkleRoot batch.acceptedShareIds
  shareIds : (before.flatMap (·.acceptedShareIds) ++ batch.acceptedShareIds).Nodup
  workKeys : (before.flatMap (·.acceptedWorkKeys) ++ batch.acceptedWorkKeys).Nodup
  shareCount : batch.cumulativeShareCount.toNat
    = (before.flatMap (·.acceptedShareIds) ++ batch.acceptedShareIds).length
  work : batch.cumulativeCreditedWork.toNat
    = ((before.flatMap (·.creditedWork) ++ batch.creditedWork).map ByteVec.toNat).sum

inductive Chained (session : Session) : List ReceiptBatchV2 → Prop where
  | nil : Chained session []
  | snoc {before : List ReceiptBatchV2} {batch : ReceiptBatchV2} (hbefore : Chained session before)
      (hbatch : Extends session before batch)
      : Chained session (before ++ [batch])

def chainState (batches : List ReceiptBatchV2) : ReceiptChainState where
  shareIds := batches.flatMap (·.acceptedShareIds)
  workKeys := batches.flatMap (·.acceptedWorkKeys)
  cumulativeWork := ((batches.flatMap (·.creditedWork)).map ByteVec.toNat).sum
  previous := batches.getLast?

variable {roster : CommitteeRoster} {batch : ReceiptBatchV2}

theorem validateOrder_of_verify (h : roster.verify batch.signerSet batch = .ok ())
    : batch.signerSet.validateOrder = .ok () := by
  unfold CommitteeRoster.verify Crypto.verifyCertificate at h
  simp only [Except.bind_unit_eq_ok, Except.mapError_eq_ok] at h
  exact h.2.1.2.1

variable {session : Session} {before : List ReceiptBatchV2}

theorem validateEntries_of_extends (hbatch : Extends session before batch)
    (horder : batch.signerSet.validateOrder = .ok ())
    : batch.validateEntries = .ok () := by
  unfold ReceiptBatchV2.validateEntries
  simp only [hbatch.workKeysLength, hbatch.creditedWorkLength, ne_eq, not_true_eq_false, or_self,
    if_false, hbatch.sorted, Bool.false_eq_true]
  exact horder

variable {first : ReceiptBatchV2}

theorem verifyReceiptBatch_of_extends (hbatch : Extends session before batch)
    (hfirst : first.protocolVersion = session.protocolVersion ∧ first.networkId = session.networkId
      ∧ first.sessionId = session.sessionId) (hsigned : roster.verify batch.signerSet batch = .ok ())
    : verifyReceiptBatch roster first (chainState before) batch
        = .ok (chainState (before ++ [batch])) := by
  have hentries := validateEntries_of_extends hbatch (validateOrder_of_verify hsigned)
  have hcount : batch.cumulativeShareCount = UInt64.ofNat
      (before.flatMap (·.acceptedShareIds) ++ batch.acceptedShareIds).length := by
    rw [← hbatch.shareCount, UInt64.ofNat_toNat]
  have hwork := hbatch.work
  rw [List.map_append, List.sum_append] at hwork
  unfold verifyReceiptBatch chainState
  simp only [hentries, hsigned, hbatch.protocolVersion, hbatch.networkId, hbatch.sessionId, hfirst.1,
    hfirst.2.1, hfirst.2.2, hbatch.merkleRoot, hbatch.link, repeats_eq_false hbatch.shareIds,
    repeats_eq_false hbatch.workKeys, hcount, hwork]
  simp [Except.rejectIf, Except.mapError, bind, Except.bind, pure, Except.pure]

theorem foldlM_verifyReceiptBatch (hbatches : Chained session batches)
    (hfirst : first.protocolVersion = session.protocolVersion ∧ first.networkId = session.networkId
      ∧ first.sessionId = session.sessionId)
    (hsigned : ∀ batch ∈ batches, roster.verify batch.signerSet batch = .ok ())
    : batches.foldlM (verifyReceiptBatch roster first) .initial = .ok (chainState batches) := by
  induction hbatches with
  | nil => rfl
  | snoc hbefore hbatch ih =>
    rw [List.foldlM_append, ih]
    . change verifyReceiptBatch roster first _ _ >>= _ = _
      rw [verifyReceiptBatch_of_extends hbatch hfirst]
      . rfl
      . apply hsigned
        apply List.mem_append_right
        apply List.mem_singleton_self
    . intro batch hmem
      apply hsigned
      apply List.mem_append_left _ hmem

theorem Chained.head (h : Chained session batches)
    : ∀ first ∈ batches.head?, Extends session [] first := by
  induction h with
  | nil => simp
  | @snoc before batch _ hbatch ih =>
    cases before with
    | nil =>
      intro first hfirst
      rw [List.nil_append, List.head?_cons, Option.mem_some_iff] at hfirst
      rwa [← hfirst]
    | cons other before => exact ih

theorem Chained.last (h : Chained session batches)
    : ∀ last ∈ batches.getLast?,
        last.cumulativeShareCount.toNat = (batches.flatMap (·.acceptedShareIds)).length
        ∧ last.cumulativeCreditedWork.toNat = (chainState batches).cumulativeWork := by
  intro last hlast
  cases h with
  | nil => contradiction
  | snoc _ hbatch =>
    rw [List.getLast?_concat, Option.mem_some_iff] at hlast
    rw [← hlast, hbatch.shareCount, hbatch.work]
    simp [chainState]

theorem Chained.nodup (h : Chained session batches)
    : (batches.flatMap (·.acceptedShareIds)).Nodup
      ∧ (batches.flatMap (·.acceptedWorkKeys)).Nodup := by
  cases h with
  | nil => simp
  | snoc _ hbatch =>
    rw [List.flatMap_append, List.flatMap_append, List.flatMap_singleton, List.flatMap_singleton]
    exact ⟨hbatch.shareIds, hbatch.workKeys⟩

theorem verifyReceiptChain_of_chained (hbatches : Chained session batches) (hne : batches ≠ [])
    (hrole : roster.role = .receipt) (hsigned : ∀ batch ∈ batches, roster.verify batch.signerSet batch = .ok ())
    : ∃ summary, verifyReceiptChain batches roster = .ok summary := by
  cases batches with
  | nil => contradiction
  | cons first rest =>
    have hfirst := hbatches.head first rfl
    have hfold := foldlM_verifyReceiptBatch hbatches
      ⟨hfirst.protocolVersion, hfirst.networkId, hfirst.sessionId⟩ hsigned
    have hwork := (hbatches.last _ List.getLast?_cons).2
    have hbits : ¬ 512 < Bytes.bitLength (chainState (first :: rest)).cumulativeWork := by
      rw [← hwork, Nat.not_lt, show 512 = 8 * 64 from rfl, Bytes.bitLength_le_iff]
      apply ByteVec.toNat_lt
    obtain ⟨hsequence, hprevious⟩ := hfirst.first rfl
    unfold verifyReceiptChain
    dsimp only
    rw [Except.rejectIf_of_not (by simp [hrole]),
      Except.rejectIf_of_not (by simp [hsequence, hprevious]), Except.ok_bind, Except.ok_bind, hfold,
      Except.ok_bind, Except.rejectIf_of_not hbits]
    exact ⟨_, rfl⟩

/-!
### A finalized batch extends the chain
-/

structure Continues (session : Session) (batches : List ReceiptBatchV2) (builder : ReceiptBuilder)
    : Prop where
  protocolVersion : builder.protocolVersion = session.protocolVersion
  networkId : builder.networkId = session.networkId
  sessionId : builder.sessionId = session.sessionId
  first : batches = [] → builder.batchSequence = 0 ∧ builder.previousBatchId = zeroHash
  link : ∀ last ∈ batches.getLast?, last.batchSequence.checkedAdd 1 = some builder.batchSequence
    ∧ builder.previousBatchId = objectId last
  shareCount : builder.previousShareCount.toNat = (batches.flatMap (·.acceptedShareIds)).length
  work : builder.previousWork.toNat = (chainState batches).cumulativeWork

variable {builder : ReceiptBuilder}

theorem continues_of_continueFrom (hbatches : Chained session batches) (h : session.continueFrom batches = some builder)
    : Continues session batches builder ∧ builder.accepted = [] := by
  unfold Session.continueFrom at h
  split at h
  next hlast =>
    rw [List.getLast?_eq_none_iff] at hlast
    subst hlast
    injection h with h
    subst h
    refine ⟨⟨rfl, rfl, rfl, fun _ => ⟨rfl, rfl⟩, ?_, rfl, ?_⟩, rfl⟩
    . intro last hlast
      contradiction
    . exact Bytes.ofBE_replicate_zero 64
  next last hlast =>
    split at h
    . contradiction
    next sequence hsequence =>
      injection h with h
      subst h
      obtain ⟨hcount, hwork⟩ := hbatches.last last hlast
      refine ⟨⟨rfl, rfl, rfl, ?_, ?_, hcount, hwork⟩, rfl⟩
      . intro hnil
        subst hnil
        contradiction
      . intro last' hlast'
        rw [hlast, Option.mem_some_iff] at hlast'
        subst hlast'
        exact ⟨hsequence, rfl⟩

/-- What holds of the builder at work while every share it is offered is uncredited. -/
structure BuilderInv (session : Session) (store : Store) (batches : List ReceiptBatchV2)
    (builder : ReceiptBuilder) : Prop where
  continues : Continues session batches builder
  distinct : builder.accepted.Pairwise fun a b => a.workKey ≠ b.workKey
  derived : ∀ share ∈ builder.accepted, share.Derived
  recorded : ∀ share ∈ builder.accepted, share.Recorded store
  uncredited : ∀ share ∈ builder.accepted, share.shareId ∉ batches.flatMap (·.acceptedShareIds)

variable (h : BuilderInv session store batches builder)

include h

theorem BuilderInv.workKeys_notMem (hcredited : Credited store batches) {share : ValidatedShare}
    (hmem : share ∈ builder.accepted)
    : share.workKey ∉ batches.flatMap (·.acceptedWorkKeys) := by
  intro hkey
  obtain ⟨shareId, hshare, hfind⟩ := hcredited share.workKey hkey
  rw [(h.recorded share hmem).workKey, Option.some.injEq] at hfind
  apply h.uncredited share hmem
  rwa [ByteVec.ext hfind]

theorem BuilderInv.shareIds_distinct
    : (builder.entries.map (·.shareId)).Nodup := by
  have hdistinct := ReceiptBuilder.entries_sorted h.distinct
  rw [List.nodup_iff_pairwise_ne, List.pairwise_map]
  apply hdistinct.imp_of_mem
  intro a b ha hb hlt heq
  rw [ReceiptBuilder.mem_entries] at ha hb
  have hkeys := ValidatedShare.workKey_eq_of_recorded (h.derived a ha) (h.derived b hb)
    (h.recorded a ha) (h.recorded b hb) heq
  rw [hkeys] at hlt
  exact lt_irrefl _ hlt

theorem BuilderInv.extends (hcredited : Credited store batches) (hbatches : Chained session batches)
    (hbatch : builder.Finalizes batch)
    : Extends session batches batch := by
  have hsorted := ReceiptBuilder.entries_sorted h.distinct
  obtain ⟨hshareIds, hworkKeys⟩ := hbatches.nodup
  constructor
  case protocolVersion => rw [hbatch.protocolVersion, h.continues.protocolVersion]
  case networkId => rw [hbatch.networkId, h.continues.networkId]
  case sessionId => rw [hbatch.sessionId, h.continues.sessionId]
  case first =>
    rw [hbatch.batchSequence, hbatch.previousBatchId]
    apply h.continues.first
  case link =>
    have hlink := h.continues.link
    unfold invalidLink
    split
    . rfl
    next last hlast =>
      obtain ⟨hsequence, hprevious⟩ := hlink last hlast
      simp [hbatch.batchSequence, hbatch.previousBatchId, hsequence, hprevious]
  case workKeysLength => simp [hbatch.workKeys, hbatch.shareIds]
  case creditedWorkLength => simp [hbatch.creditedWork, hbatch.shareIds]
  case sorted =>
    rw [hbatch.workKeys, hbatch.shareIds]
    apply ReceiptBuilder.unsorted_map_eq_false hsorted
  case merkleRoot => apply hbatch.merkleRoot
  case shareIds =>
    rw [List.nodup_append, hbatch.shareIds]
    refine ⟨hshareIds, h.shareIds_distinct, ?_⟩
    intro id hid id' hid' heq
    rw [List.mem_map] at hid'
    obtain ⟨share, hshare, hid'⟩ := hid'
    rw [ReceiptBuilder.mem_entries] at hshare
    apply h.uncredited share hshare
    rwa [hid', ← heq]
  case workKeys =>
    have hdistinct : (builder.entries.map (·.workKey)).Nodup := by
      rw [List.nodup_iff_pairwise_ne, List.pairwise_map]
      apply hsorted.imp
      intro a b hlt
      exact ne_of_lt hlt
    rw [List.nodup_append, hbatch.workKeys]
    refine ⟨hworkKeys, hdistinct, ?_⟩
    intro key hkey key' hkey' heq
    rw [List.mem_map] at hkey'
    obtain ⟨share, hshare, hkey'⟩ := hkey'
    rw [ReceiptBuilder.mem_entries] at hshare
    apply h.workKeys_notMem hcredited hshare
    rwa [hkey', ← heq]
  case shareCount =>
    rw [hbatch.shareCount, h.continues.shareCount, hbatch.shareIds, List.length_append, List.length_map]
  case work =>
    rw [hbatch.work, h.continues.work, List.map_append, List.sum_append]
    rfl

end MeshMine.Share
