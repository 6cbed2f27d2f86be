import MeshMine.Settlement.SnapshotCredits
import MeshMine.Storage.JournalShared
import MeshMine.Types.PayoutCodec

/-!
Which emitted snapshots the object decoder reads back (`add_closed_session_durable` of
`meshmine-settlement/src/lib.rs` writes their encoding to the journal). The retention limits bound the credits
that an accumulator keeps, the decoder bounds buckets, addresses and signers.
-/

namespace MeshMine.Settlement

open MeshMine.Types Codec Storage
open StoreM (Ensures Obeys)

variable {session : ClosedSessionCredits}

section

variable [P : Primitives]

/-!
### The buckets of an aggregate
-/

variable {credits : List BucketCredit} {totals : BucketTotals}

def bucketIds (credits : List BucketCredit) : List Hash256 :=
  credits.map fun credit => objectId credit.bucket

theorem Totals.length_le (h : Totals credits totals)
    : totals.length ≤ (bucketIds credits).toFinset.card := by
  have hnodup : (totals.map (·.1)).Nodup := List.pairwise_map.mpr (h.sorted.imp ne_of_lt)
  rw [← List.length_map, ← List.toFinset_card_of_nodup hnodup]
  apply Finset.card_le_card
  intro id hid
  rw [List.mem_toFinset, List.mem_map] at hid
  obtain ⟨entry, hmem, rfl⟩ := hid
  obtain ⟨credit, hcredit, -, hentry⟩ := h.source entry hmem
  rw [List.mem_toFinset, ← hentry]
  exact List.mem_map_of_mem hcredit

structure Leaves {α : Type} (bucketId : α → Hash256) (address : α → List UInt8)
    (credits : List BucketCredit) (leaves : List α) : Prop where
  sorted : (leaves.map bucketId).Pairwise (· < ·)
  length_le : leaves.length ≤ (bucketIds credits).toFinset.card
  credited : ∀ leaf ∈ leaves, ∃ credit ∈ credits, address leaf = credit.bucket.hnsAddressHash

theorem Totals.leaves {α : Type} {bucketId : α → Hash256} {address : α → List UInt8} {amount : α → Nat}
    {leaves : List α} (h : Totals credits totals)
    (hleaves : (leaves.map fun leaf => (bucketId leaf, address leaf, amount leaf))
      = totals.map fun entry => (entry.1, entry.2.1.hnsAddressHash, entry.2.2))
    : Leaves bucketId address credits leaves where
  sorted := by
    have hids : leaves.map bucketId = totals.map (·.1) := by
      simpa [Function.comp_def] using congrArg (List.map (·.1)) hleaves
    rw [hids]
    exact List.pairwise_map.mpr h.sorted
  length_le := by
    have hlength := congrArg List.length hleaves
    rw [List.length_map, List.length_map] at hlength
    rw [hlength]
    exact h.length_le
  credited := by
    intro leaf hmem
    have hmem := List.mem_map_of_mem (f := fun leaf => (bucketId leaf, address leaf, amount leaf)) hmem
    rw [hleaves, List.mem_map] at hmem
    obtain ⟨entry, hentry, heq⟩ := hmem
    simp only [Prod.mk.injEq] at heq
    obtain ⟨credit, hcredit, hbucket, -⟩ := h.source entry hentry
    exact ⟨credit, hcredit, by rw [← heq.2.1, hbucket]⟩

variable {sessions : List ClosedSessionCredits}

/-!
### Snapshots within the decoder's bounds
-/

/-- The sessions that a snapshot pays fit the bounds of the object decoder. -/
structure DecodableWindow (window : List ClosedSessionCredits) : Prop where
  work_le : (bucketIds (window.flatMap (·.work))).toFinset.card ≤ maxBuckets
  service_le : (bucketIds (window.flatMap (·.service))).toFinset.card ≤ maxBuckets
  address_le : ∀ session ∈ window, ∀ credit ∈ session.work ++ session.service,
    credit.bucket.hnsAddressHash.length ≤ maxAddressHashBytes

def SnapshotContext.window (context : SnapshotContext) (sessions : List ClosedSessionCredits)
    (session : ClosedSessionCredits) : List ClosedSessionCredits :=
  (WeightedWindow.select ClosedSessionCredits.totalWork context.pplnsWindowWork (sessions ++ [session])).1

variable {signerSet : SignatureSet}

theorem buildSnapshot_wellFormed {context : SnapshotContext} {snapshot : PayoutSnapshotV2}
    (h : buildSnapshot context sessions session signerSet = .ok snapshot)
    (hwindow : DecodableWindow (context.window sessions session)) (hsigners : signerSet.WellFormed)
    : snapshot.WellFormed ∧ snapshot.signerSet = signerSet := by
  unfold buildSnapshot at h
  by_cases hsequence : context.nextSequence.toNat + 1 = 2 ^ 64
  . rw [if_pos hsequence] at h
    contradiction
  rw [if_neg hsequence] at h
  obtain ⟨work, hwork, h⟩ := Except.bind_eq_ok h
  obtain ⟨service, hservice, h⟩ := Except.bind_eq_ok h
  obtain ⟨target, -, h⟩ := Except.bind_eq_ok h
  obtain ⟨actual, -, h⟩ := Except.bind_eq_ok h
  injection h with h
  obtain ⟨_, hworkTotals, hworkLeaves⟩ := aggregateWork_eq_ok hwork
  obtain ⟨_, hserviceTotals, hserviceLeaves⟩ := aggregateService_eq_ok hservice
  have hwork := hworkTotals.leaves hworkLeaves
  have hservice := hserviceTotals.leaves hserviceLeaves
  rw [← h]
  refine ⟨⟨hwork.sorted, hservice.sorted, hwork.length_le.trans hwindow.work_le,
    hservice.length_le.trans hwindow.service_le, ?_, ?_, hsigners⟩, rfl⟩
  . intro leaf hmem
    obtain ⟨credit, hcredit, haddress⟩ := hwork.credited leaf hmem
    obtain ⟨session, hsession, hcredit⟩ := List.mem_flatMap.mp hcredit
    rw [haddress]
    exact hwindow.address_le session hsession credit (List.mem_append_left _ hcredit)
  . intro leaf hmem
    obtain ⟨credit, hcredit, haddress⟩ := hservice.credited leaf hmem
    obtain ⟨session, hsession, hcredit⟩ := List.mem_flatMap.mp hcredit
    rw [haddress]
    exact hwindow.address_le session hsession credit (List.mem_append_right _ hcredit)

namespace SnapshotAccumulator

variable {size : Nat}

/-- On an error the accumulator stays as it was: the staged copy is dropped. -/
def addClosedSessionDurable (size : Nat) (self : SnapshotAccumulator) (session : ClosedSessionCredits)
    (signerSet : SignatureSet)
    : StoreM SettlementError (Option PayoutSnapshotV2 × SnapshotAccumulator) := do
  let (snapshot, staged) ← StoreM.ofExcept (addClosedSession size self session signerSet)
  match snapshot with
  | none => return (none, staged)
  | some snapshot => do
    StoreM.adapt .durable
      (ProtocolJournal.persist .payoutSnapshot (objectId snapshot).toList (toCanonicalBytes snapshot))
    return (some snapshot, staged)

theorem addClosedSessionDurable_obeys {self : SnapshotAccumulator} (store : Store)
    : Obeys ProtocolJournal.journalRely ProtocolJournal.journalRely.rel
        (addClosedSessionDurable size self session signerSet) store fun result s =>
          addClosedSession size self session signerSet = .ok result
          ∧ ∀ snapshot, result.1 = some snapshot
            → s.find (ProtocolJournal.journalRow .payoutSnapshot (objectId snapshot).toList)
              = some (toCanonicalBytes snapshot) := by
  apply Obeys.bind_ofExcept
  rintro ⟨emitted, staged⟩ hadd
  cases emitted with
  | none =>
    apply Obeys.pure
    intro s _
    exact ⟨hadd, by simp⟩
  | some snapshot =>
    apply Obeys.bind
    apply Obeys.mono
    . apply Obeys.adapt
      apply ProtocolJournal.persist_obeys id ProtocolJournal.journalRely.refl
      intro before after _ hcommits
      exact hcommits.rely
    . intro _ s hrow
      apply Obeys.pure
      intro s' hs'
      refine ⟨hadd, ?_⟩
      rintro _ ⟨⟩
      exact hs' _ _ (ProtocolJournal.isJournal_journalRow ..) hrow

theorem addClosedSession_of_outcome {self self' : SnapshotAccumulator} (h : Held size self)
    {emitted : Option PayoutSnapshotV2}
    (houtcome : (mutateClosedSession size session signerSet).outcome self = some (.ok emitted, self'))
    : addClosedSession size self session signerSet = .ok (emitted, self') := by
  rw [outcome_mutateClosedSession h.inv.toCounts, Option.some.injEq] at houtcome
  cases hadd : addClosedSession size self session signerSet with
  | error error =>
    rw [hadd] at houtcome
    simp at houtcome
  | ok added =>
    rw [hadd] at houtcome
    simp only [Prod.mk.injEq, Except.ok.injEq] at houtcome
    rw [← houtcome.1, ← houtcome.2]

theorem Held.decodes_snapshot {self self' : SnapshotAccumulator} (h : Held size self)
    {session : ClosedSessionCredits} {signerSet : SignatureSet} {snapshot : PayoutSnapshotV2}
    (hemitted : (mutateClosedSession size session signerSet).outcome self = some (.ok (some snapshot), self'))
    (hwindow : DecodableWindow (self.context.window self.closedSessions session))
    (hsigners : signerSet.WellFormed) {limits : DecodeLimits}
    (hbytes : (toCanonicalBytes snapshot).length ≤ limits.maxObjectBytes)
    (hwork : snapshot.workBuckets.length ≤ limits.maxVectorItems)
    (hservice : snapshot.serviceBuckets.length ≤ limits.maxVectorItems)
    (hcount : signerSet.signatures.length ≤ limits.maxVectorItems)
    : fromCanonicalBytes (toCanonicalBytes snapshot) limits = .ok snapshot
      ∧ ∀ store, Ensures ProtocolJournal.journalRely store
          (addClosedSessionDurable size self session signerSet)
          fun result s => result = (some snapshot, self')
            ∧ ∃ value, s.find (ProtocolJournal.journalRow .payoutSnapshot (objectId snapshot).toList) = some value
              ∧ fromCanonicalBytes value limits = .ok snapshot := by
  have hadd := addClosedSession_of_outcome h hemitted
  obtain ⟨-, -, -, -, hcases⟩ := addClosedSession_eq_ok h.inv hadd
  rcases hcases with ⟨-, hnone, -⟩ | ⟨-, closed, hclosed, hsome, -⟩
  . simp at hnone
  . rw [Option.some.injEq] at hsome
    rw [← hsome] at hclosed
    obtain ⟨hformed, hset⟩ := buildSnapshot_wellFormed hclosed hwindow hsigners
    rw [← hset] at hcount
    have hdecode := PayoutSnapshotV2.decode_toCanonicalBytes hformed hbytes hwork hservice hcount
    refine ⟨hdecode, ?_⟩
    intro store
    apply (addClosedSessionDurable_obeys store).ensures.mono
    rintro result s ⟨hresult, hrow⟩
    rw [hadd, Except.ok.injEq] at hresult
    subst hresult
    exact ⟨rfl, _, hrow snapshot rfl, hdecode⟩

end SnapshotAccumulator

end

namespace SnapshotAccumulator

def sampleEmitted [Primitives] (session : ClosedSessionCredits)
    : Option (Except SettlementError (Option PayoutSnapshotV2) × SnapshotAccumulator) :=
  (mutateClosedSession 200 session .emptyEd25519).outcome sampleStart

def sampleSnapshot [Primitives] (session : ClosedSessionCredits) : Option PayoutSnapshotV2 :=
  match sampleEmitted session with
  | some (.ok snapshot, _) => snapshot
  | _ => none

theorem exists_sampleEmitted [Primitives] {p : PayoutSnapshotV2 → Prop} [DecidablePred p]
    (h : (sampleSnapshot session).any (fun snapshot => p snapshot) = true)
    : ∃ snapshot self', sampleEmitted session = some (.ok (some snapshot), self') ∧ p snapshot := by
  unfold sampleSnapshot at h
  split at h
  next snapshot self' hemitted =>
    obtain ⟨snapshot, rfl, hp⟩ := (Option.any_eq_true _ _).mp h
    exact ⟨snapshot, self', hemitted, of_decide_eq_true hp⟩
  . contradiction

theorem Held.decodes_snapshot_sample
    : letI := Primitives.fold
      ∃ snapshot self', sampleEmitted (sampleSession 1) = some (.ok (some snapshot), self')
        ∧ fromCanonicalBytes (toCanonicalBytes snapshot) .default = .ok snapshot := by
  let _ := Primitives.fold
  have hsample : (sampleSnapshot (sampleSession 1)).any (fun snapshot =>
      snapshot.workBuckets.length ≤ 1 ∧ snapshot.serviceBuckets.length ≤ 1
        ∧ (toCanonicalBytes snapshot).length ≤ 1000) = true := by
    decide +kernel
  obtain ⟨snapshot, self', hemitted, hwork, hservice, hbytes⟩ := exists_sampleEmitted hsample
  refine ⟨snapshot, self', hemitted, ?_⟩
  have hwindow : DecodableWindow (sampleStart.context.window sampleStart.closedSessions (sampleSession 1)) := by
    constructor <;> decide +kernel
  have hheld : Held 200 sampleStart := .new newWithLimits_sampleStart
  apply (hheld.decodes_snapshot hemitted hwindow _ _ _ _ _).1
  . exact ⟨rfl, by decide, by simp [SignatureSet.emptyEd25519]⟩
  . exact hbytes.trans (by decide)
  . exact hwork.trans (by decide)
  . exact hservice.trans (by decide)
  . decide

/-- A closed session that credits a bucket whose address hash has one byte more than the decoder allows. -/
def longAddressSession : ClosedSessionCredits where
  sessionCloseId := .zero 32
  closeAnchorHeight := 7
  work := [⟨⟨2, 0, .zero 32, 1, 0, List.replicate 65 9, 0, none, []⟩, sampleWord 2⟩]
  service := []

theorem emits_undecodable_snapshot
    : letI := Primitives.fold
      Held 200 sampleStart ∧ sampleStart.limits = .default
        ∧ ∃ snapshot self', sampleEmitted longAddressSession = some (.ok (some snapshot), self')
          ∧ (toCanonicalBytes snapshot).length ≤ DecodeLimits.default.maxObjectBytes
          ∧ snapshot.workBuckets.length ≤ DecodeLimits.default.maxVectorItems
          ∧ snapshot.serviceBuckets.length ≤ DecodeLimits.default.maxVectorItems
          ∧ ((addClosedSessionDurable 200 sampleStart longAddressSession .emptyEd25519).run.run ∅).2.find
              (ProtocolJournal.journalRow .payoutSnapshot (objectId snapshot).toList)
            = some (toCanonicalBytes snapshot)
          ∧ (fromCanonicalBytes (toCanonicalBytes snapshot) .default : Except CodecError PayoutSnapshotV2)
            = .error (.lengthLimit 65 64) := by
  let _ := Primitives.fold
  exact ⟨.new newWithLimits_sampleStart, rfl, exists_sampleEmitted (by decide +kernel)⟩

end SnapshotAccumulator
end MeshMine.Settlement
