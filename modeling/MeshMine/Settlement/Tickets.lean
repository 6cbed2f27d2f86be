import MeshMine.Data.WeightedDraw
import MeshMine.Settlement.SnapshotCredits

/-!
Payout tickets (`meshmine-settlement/src/lib.rs`): each ticket of a plan is drawn among the buckets of a snapshot,
with the credits as weights.
-/

namespace MeshMine.Settlement

open Codec MeshMine.Types WeightedDraw

def ticketDomain : String := "meshmine/payout-ticket/v2"

/-!
### Selection
-/

def totalWeight (buckets : List (Hash256 × Nat)) : Nat :=
  (buckets.map (·.2)).sum

/-- The largest multiple of the weight that the candidates reach. -/
def ticketLimit (total : Nat) : Nat :=
  2 ^ 512 / total * total

section

variable [P : Primitives]

def ticketCandidate (seed : Hash256) (ticketClass : UInt8) (ticketIndex : UInt16) (counter : UInt64) : Nat :=
  (P.blake2b512 (Encoder.bytes (asciiBytes ticketDomain) ++ Encoder.fixed seed ++ Encoder.u8 ticketClass
    ++ Encoder.u16 ticketIndex ++ Encoder.u64 counter)).toNat

end

/-- The number `left` counts the values that the counter still has, the present one included: none are left when
`checked_add` has failed. -/
def drawResidue (candidate : UInt64 → Nat) (limit total : Nat)
    : Nat → Nat → Except SettlementError (Nat × UInt64)
  | 0, _ => .error .arithmeticOverflow
  | left + 1, counter =>
    let drawn := candidate (UInt64.ofNat counter)
    if drawn < limit then
      .ok (drawn % total, UInt64.ofNat counter)
    else
      drawResidue candidate limit total left (counter + 1)

def selectTicket (candidate : UInt64 → Nat) (limit total : Nat) (cumulative : List Nat)
    (buckets : List (Hash256 × Nat)) : Except SettlementError (Hash256 × UInt64) := do
  let (residue, counter) ← drawResidue candidate limit total (2 ^ 64) 0
  let winnerIndex := partitionPoint (fun upper => upper ≤ residue) cumulative
  match buckets[winnerIndex]? with
  | none => throw .arithmeticOverflow
  | some (bucket, _) => return (bucket, counter)

section

variable [P : Primitives]

def selectWeighted (seed : Hash256) (ticketClass : UInt8) (count : UInt16) (buckets : List (Hash256 × Nat))
    : Except SettlementError (List Hash256 × List UInt64) := do
  if count = 0 then
    return ([], [])
  if buckets.isEmpty ∧ 0 < count then
    throw .emptyTicketClass
  let total := totalWeight buckets
  if total = 0 ∧ 0 < count then
    throw .zeroTicketWeight
  let tickets ← (List.range count.toNat).mapM fun ticketIndex =>
    selectTicket (ticketCandidate seed ticketClass (UInt16.ofNat ticketIndex)) (ticketLimit total) total
      (cumulative 0 (buckets.map (·.2))) buckets
  return (tickets.map (·.1), tickets.map (·.2))

end

variable {total limit left counter residue : Nat} {candidate : UInt64 → Nat}

theorem drawResidue_eq_ok {word : UInt64} (hleft : counter + left ≤ 2 ^ 64)
    (h : drawResidue candidate limit total left counter = .ok (residue, word))
    : counter ≤ word.toNat
        ∧ residue = candidate word % total
        ∧ candidate word < limit
        ∧ ∀ earlier : UInt64, counter ≤ earlier.toNat → earlier < word → limit ≤ candidate earlier := by
  induction left generalizing counter with
  | zero => contradiction
  | succ left ih =>
    have htoNat : (UInt64.ofNat counter).toNat = counter := by
      rw [UInt64.toNat_ofNat', Nat.mod_eq_of_lt (by omega)]
    unfold drawResidue at h
    dsimp only at h
    split at h
    next hlt =>
      injection h with h
      injection h with hresidue hword
      subst hword
      refine ⟨by omega, hresidue.symm, hlt, ?_⟩
      intro earlier hle hless
      rw [UInt64.lt_iff_toNat_lt] at hless
      omega
    next hge =>
      obtain ⟨hle, hresidue, hlt, hearlier⟩ := ih (by omega) h
      refine ⟨by omega, hresidue, hlt, ?_⟩
      intro earlier hcounter hless
      by_cases heq : earlier.toNat = counter
      . rw [← UInt64.toNat_inj.mp (heq.trans htoNat.symm)] at hge
        omega
      . exact hearlier earlier (by omega) hless

theorem drawResidue_eq_error {error : SettlementError} (hleft : counter + left = 2 ^ 64)
    (h : drawResidue candidate limit total left counter = .error error)
    : error = .arithmeticOverflow ∧ ∀ word : UInt64, counter ≤ word.toNat → limit ≤ candidate word := by
  induction left generalizing counter with
  | zero =>
    injection h with h
    refine ⟨h.symm, ?_⟩
    intro word hle
    have := word.toNat_lt
    omega
  | succ left ih =>
    have htoNat : (UInt64.ofNat counter).toNat = counter := by
      rw [UInt64.toNat_ofNat', Nat.mod_eq_of_lt (by omega)]
    unfold drawResidue at h
    dsimp only at h
    split at h
    . contradiction
    next hge =>
      obtain ⟨herror, hall⟩ := ih (by omega) h
      refine ⟨herror, ?_⟩
      intro word hle
      by_cases heq : word.toNat = counter
      . rw [← UInt64.toNat_inj.mp (heq.trans htoNat.symm)] at hge
        omega
      . exact hall word (by omega)

structure Won (candidate : UInt64 → Nat) (buckets : List (Hash256 × Nat)) (winner : Hash256) (counter : UInt64)
    : Prop where
  accepted : candidate counter < ticketLimit (totalWeight buckets)
  first : ∀ earlier < counter, ticketLimit (totalWeight buckets) ≤ candidate earlier
  interval : ∃ i weight,
    buckets[i]? = some (winner, weight)
      ∧ 0 < weight
      ∧ Falls (buckets.map (·.2)) i (candidate counter % totalWeight buckets)

variable {buckets : List (Hash256 × Nat)}

theorem exists_bucket (h : residue < totalWeight buckets)
    : ∃ winner weight,
        buckets[entryAt (buckets.map (·.2)) residue]? = some (winner, weight)
          ∧ 0 < weight
          ∧ Falls (buckets.map (·.2)) (entryAt (buckets.map (·.2)) residue) residue := by
  have hfalls := falls_entryAt h
  have hlt := hfalls.lt_length
  rw [List.length_map] at hlt
  refine ⟨_, _, List.getElem?_eq_getElem hlt, ?_, hfalls⟩
  apply hfalls.weight_pos
  rw [List.getElem?_map, List.getElem?_eq_getElem hlt]
  rfl

theorem selectTicket_cases (candidate : UInt64 → Nat) (hpos : 0 < totalWeight buckets)
    : match selectTicket candidate (ticketLimit (totalWeight buckets)) (totalWeight buckets)
        (cumulative 0 (buckets.map (·.2))) buckets with
      | .ok (winner, counter) => Won candidate buckets winner counter
      | .error error =>
        error = .arithmeticOverflow ∧ ∀ counter, ticketLimit (totalWeight buckets) ≤ candidate counter := by
  unfold selectTicket
  cases hdraw : drawResidue candidate (ticketLimit (totalWeight buckets)) (totalWeight buckets) (2 ^ 64) 0 with
  | error error =>
    obtain ⟨herror, hall⟩ := drawResidue_eq_error (by omega) hdraw
    exact ⟨herror, fun counter => hall counter (Nat.zero_le _)⟩
  | ok drawn =>
    obtain ⟨residue, counter⟩ := drawn
    obtain ⟨-, hresidue, haccepted, hearlier⟩ := drawResidue_eq_ok (by omega) hdraw
    have hlt : residue < totalWeight buckets := hresidue ▸ Nat.mod_lt _ hpos
    obtain ⟨winner, weight, hbucket, hweight, hfalls⟩ := exists_bucket hlt
    have hentry : partitionPoint (fun upper => upper ≤ residue) (cumulative 0 (buckets.map (·.2)))
        = entryAt (buckets.map (·.2)) residue := rfl
    simp only [Except.ok_bind, hentry, hbucket]
    exact ⟨haccepted, fun earlier hless => hearlier earlier (Nat.zero_le _) hless,
      _, weight, hbucket, hweight, hresidue ▸ hfalls⟩

section

variable [P : Primitives]

/-- A winner for every ticket; only a ticket that rejects every counter's candidate fails. -/
def SelectsAll (seed : Hash256) (ticketClass : UInt8) (count : UInt16) (buckets : List (Hash256 × Nat))
    : Except SettlementError (List Hash256 × List UInt64) → Prop
  | .ok (winners, counters) =>
    winners.length = count.toNat
      ∧ counters.length = count.toNat
      ∧ ∀ ticketIndex winner counter,
          winners[ticketIndex]? = some winner → counters[ticketIndex]? = some counter
            → Won (ticketCandidate seed ticketClass (UInt16.ofNat ticketIndex)) buckets winner counter
  | .error error =>
    error = .arithmeticOverflow
      ∧ ∃ ticketIndex < count.toNat, ∀ counter,
          ticketLimit (totalWeight buckets) ≤ ticketCandidate seed ticketClass (UInt16.ofNat ticketIndex) counter

theorem selectsAll_selectWeighted (seed : Hash256) (ticketClass : UInt8) (count : UInt16)
    (hpos : 0 < totalWeight buckets)
    : SelectsAll seed ticketClass count buckets (selectWeighted seed ticketClass count buckets) := by
  have hbuckets : buckets.isEmpty = false := by
    cases buckets with
    | nil => simp [totalWeight] at hpos
    | cons => rfl
  unfold selectWeighted
  by_cases hzero : count = 0
  . rw [if_pos hzero, hzero]
    refine ⟨rfl, rfl, ?_⟩
    simp
  simp only [hzero, hbuckets, Nat.ne_of_gt hpos, if_false, false_and, Bool.false_eq_true]
  cases hselect : (List.range count.toNat).mapM fun ticketIndex =>
    selectTicket (ticketCandidate seed ticketClass (UInt16.ofNat ticketIndex)) (ticketLimit (totalWeight buckets))
      (totalWeight buckets) (cumulative 0 (buckets.map (·.2))) buckets with
  | error error =>
    obtain ⟨ticketIndex, hmem, herror⟩ := Except.exists_of_mapM_eq_error hselect
    have hcases := selectTicket_cases (ticketCandidate seed ticketClass (UInt16.ofNat ticketIndex)) hpos
    rw [herror] at hcases
    exact ⟨hcases.1, ticketIndex, List.mem_range.mp hmem, hcases.2⟩
  | ok tickets =>
    have hall := Except.forall₂_of_mapM_eq_ok hselect
    have hlength := hall.length_eq
    rw [List.length_range] at hlength
    refine ⟨by simp [hlength], by simp [hlength], ?_⟩
    intro ticketIndex winner counter hwinner hcounter
    rw [List.getElem?_map, Option.map_eq_some_iff] at hwinner hcounter
    obtain ⟨ticket, hticket, hfst⟩ := hwinner
    obtain ⟨other, hother, hsnd⟩ := hcounter
    rw [hticket] at hother
    injection hother with hother
    obtain ⟨hlt, hget⟩ := List.getElem?_eq_some_iff.mp hticket
    have hselected := hall.get (i := ticketIndex) (by simp; omega) hlt
    have hcases := selectTicket_cases (ticketCandidate seed ticketClass (UInt16.ofNat ticketIndex)) hpos
    simp only [List.get_eq_getElem, List.getElem_range, hget] at hselected
    rw [hselected] at hcases
    rwa [← hfst, ← hsnd, ← hother]

theorem selectWeighted_proportional (seed : Hash256) (ticketClass : UInt8) (count : UInt16)
    (buckets : List (Hash256 × Nat)) (hpos : 0 < totalWeight buckets)
    : SelectsAll seed ticketClass count buckets (selectWeighted seed ticketClass count buckets)
      ∧ (∀ residue < totalWeight buckets,
          (buckets[partitionPoint (fun upper => upper ≤ residue) (cumulative 0 (buckets.map (·.2)))]?).isSome)
      ∧ ∀ i winner weight, buckets[i]? = some (winner, weight)
          → ((Finset.range (2 ^ 512)).filter fun candidate =>
              candidate < ticketLimit (totalWeight buckets)
                ∧ partitionPoint (fun upper => upper ≤ candidate % totalWeight buckets)
                    (cumulative 0 (buckets.map (·.2))) = i).card
            = 2 ^ 512 / totalWeight buckets * weight := by
  refine ⟨selectsAll_selectWeighted seed ticketClass count hpos, ?_, ?_⟩
  . intro residue hlt
    obtain ⟨winner, weight, hbucket, -⟩ := exists_bucket hlt
    exact Option.isSome_iff_exists.mpr ⟨_, hbucket⟩
  . intro i winner weight hbucket
    apply card_entryAt hpos
    rw [List.getElem?_map, hbucket]
    rfl

end

def sampleBuckets : List (Hash256 × Nat) :=
  [(.zero 32, 0), (.fill 32 1, 3)]

theorem selectWeighted_proportional_sampleBuckets
    : letI := Primitives.fold
      0 < totalWeight sampleBuckets
        ∧ ∃ winners counters,
            selectWeighted (.zero 32) 0 2 sampleBuckets = .ok (winners, counters) ∧ winners.length = 2 := by
  let P := Primitives.fold
  have hpos : 0 < totalWeight sampleBuckets := by decide
  refine ⟨hpos, ?_⟩
  have hcases := selectWeighted_proportional (.zero 32) 0 2 sampleBuckets hpos
  have hok : (selectWeighted (.zero 32) 0 2 sampleBuckets).toOption.isSome := by decide +kernel
  generalize selectWeighted (.zero 32) 0 2 sampleBuckets = outcome at hcases hok ⊢
  match outcome with
  | .ok (winners, counters) => exact ⟨winners, counters, rfl, hcases.1.1⟩

/-!
### The classes of an emitted snapshot
-/

theorem ticketLimit_ne_zero_iff (hpos : 0 < total) : ticketLimit total ≠ 0 ↔ total ≤ 2 ^ 512 := by
  unfold ticketLimit
  rw [Nat.mul_ne_zero_iff, ← Nat.pos_iff_ne_zero, Nat.div_pos_iff]
  omega

def workWeight (snapshot : PayoutSnapshotV2) : Nat :=
  totalWeight (snapshot.workBuckets.map fun bucket => (bucket.bucketId, bucket.creditedWork.toNat))

def serviceWeight (snapshot : PayoutSnapshotV2) : Nat :=
  totalWeight (snapshot.serviceBuckets.map fun bucket => (bucket.bucketId, bucket.certifiedServiceCredit.toNat))

namespace SnapshotAccumulator

theorem emitted_classes_drawable [P : Primitives] {size : Nat} {self self' : SnapshotAccumulator}
    {history : List ClosedSessionCredits} (hself : Accepted size self history) {session : ClosedSessionCredits}
    {signerSet : SignatureSet} {snapshot : PayoutSnapshotV2}
    (h : addClosedSession size self session signerSet = .ok (some snapshot, self'))
    (hservice : sumCredits ((self.closedSessions ++ [session]).flatMap (·.service)) ≤ 2 ^ 512)
    : (0 < workWeight snapshot → ticketLimit (workWeight snapshot) ≠ 0)
      ∧ (0 < serviceWeight snapshot → ticketLimit (serviceWeight snapshot) ≠ 0) := by
  obtain ⟨hinv, -⟩ := hself.retained
  obtain ⟨-, -, -, -, hcases⟩ := addClosedSession_eq_ok hinv h
  rcases hcases with ⟨-, hnone, -⟩ | ⟨-, closed, hclosed, hsome, -⟩
  . simp at hnone
  . injection hsome with hsome
    subst hsome
    have hconserves := conserves_buildSnapshot hinv.configured.window_pos hclosed
    have hpos : 0 < self.context.pplnsWindowWork := hinv.configured.window_pos
    have hsuffix : (WeightedWindow.select ClosedSessionCredits.totalWork self.context.pplnsWindowWork
        (self.closedSessions ++ [session])).1 <:+ self.closedSessions ++ [session] := by
      rcases WeightedWindow.select_cases ClosedSessionCredits.totalWork (self.closedSessions ++ [session]) hpos with
        ⟨_, heq⟩ | ⟨_, hsuffix, _⟩
      . rw [heq]
      . exact hsuffix
    obtain ⟨older, heq⟩ := hsuffix
    rw [← heq, List.flatMap_append, sumCredits_append] at hservice
    constructor
    . intro hpos
      rw [ticketLimit_ne_zero_iff hpos]
      simp only [workWeight, totalWeight, List.map_map, Function.comp_def]
      rw [hconserves.window]
      have hlt := ByteVec.toNat_lt snapshot.actualWorkInWindow
      rw [show 8 * 64 = 512 from rfl] at hlt
      exact hlt.le
    . intro hpos
      rw [ticketLimit_ne_zero_iff hpos]
      simp only [serviceWeight, totalWeight, List.map_map, Function.comp_def]
      rw [hconserves.service.sum]
      exact Nat.le_trans (Nat.le_add_left ..) hservice

def serviceSession (byte : UInt8) : ClosedSessionCredits :=
  let bucket (id : UInt8) : PayoutBucketV2 := ⟨2, 0, .fill 32 id, 1, 0, List.replicate 20 9, 0, none, []⟩
  { sampleSession 1 with service := [⟨bucket 1, .fill 64 byte⟩, ⟨bucket 2, .fill 64 byte⟩] }

/-- Two service credits that fit 512 bits each, but not together. -/
def heavyServiceSession : ClosedSessionCredits :=
  serviceSession 255

theorem emitted_classes_drawable_serviceSession
    : letI := Primitives.fold
      ∃ snapshot self', addClosedSession 200 sampleStart (serviceSession 127) .emptyEd25519 = .ok (some snapshot, self')
        ∧ 0 < workWeight snapshot ∧ ticketLimit (workWeight snapshot) ≠ 0
        ∧ 0 < serviceWeight snapshot ∧ ticketLimit (serviceWeight snapshot) ≠ 0 := by
  let P := Primitives.fold
  obtain ⟨snapshot, self', hadd, htest⟩ := exists_emitted
    (addClosedSession 200 sampleStart (serviceSession 127) .emptyEd25519)
    (fun snapshot => 0 < workWeight snapshot ∧ 0 < serviceWeight snapshot) (by decide +kernel)
  obtain ⟨hwork, hservice⟩ := of_decide_eq_true htest
  have hdrawable := emitted_classes_drawable (.new newWithLimits_sampleStart) hadd (by decide +kernel)
  exact ⟨snapshot, self', hadd, hwork, hdrawable.1 hwork, hservice, hdrawable.2 hservice⟩

theorem heavyServiceSession_undrawable
    : letI := Primitives.fold
      ∃ snapshot self', Accepted 200 sampleStart []
        ∧ addClosedSession 200 sampleStart heavyServiceSession .emptyEd25519 = .ok (some snapshot, self')
        ∧ 0 < serviceWeight snapshot ∧ ticketLimit (serviceWeight snapshot) = 0 := by
  let P := Primitives.fold
  obtain ⟨snapshot, self', hadd, htest⟩ := exists_emitted
    (addClosedSession 200 sampleStart heavyServiceSession .emptyEd25519)
    (fun snapshot => 0 < serviceWeight snapshot ∧ ticketLimit (serviceWeight snapshot) = 0) (by decide +kernel)
  exact ⟨snapshot, self', .new newWithLimits_sampleStart, hadd, of_decide_eq_true htest⟩

end SnapshotAccumulator

end MeshMine.Settlement
