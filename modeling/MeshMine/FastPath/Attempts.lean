import MeshMine.FastPath.Publication

/-!
The attempts at one target of one intent: a history of starts and results that grows by one start or one result
at a time, the rows that record it, and where a target stands.
-/

namespace MeshMine.FastPath

open Storage

/-- The entry for sequence number `n`; numbers count from 1. -/
def numbered {α : Type} (as : List α) (n : UInt16) : Option α :=
  match n.toNat with
  | 0 => none
  | k + 1 => as[k]?

variable {n : UInt16} {α : Type} {as : List α}

theorem numbered_eq_some {a : α}
    : numbered as n = some a ↔ ∃ k, n.toNat = k + 1 ∧ as[k]? = some a := by
  unfold numbered
  cases n.toNat with
  | zero => simp
  | succ k => simp

theorem isSome_numbered
    : (numbered as n).isSome ↔ 1 ≤ n.toNat ∧ n.toNat ≤ as.length := by
  unfold numbered
  cases n.toNat with
  | zero => simp
  | succ k =>
    simp only [isSome_getElem?]
    omega

theorem numbered_concat {a : α} {last : UInt16} (h : last.toNat = as.length + 1) (n : UInt16)
    : numbered (as ++ [a]) n = if last = n then some a else numbered as n := by
  have hlast : last = n ↔ n.toNat = as.length + 1 := by
    rw [← UInt16.toNat_inj, h, eq_comm]
  simp only [hlast]
  unfold numbered
  cases n.toNat with
  | zero => simp
  | succ k =>
    simp only [Nat.succ_inj]
    split
    next hk => simp [hk]
    next hk =>
      rw [List.getElem?_append]
      split
      next => rfl
      next hge => rw [List.getElem?_eq_none (by simp; omega), List.getElem?_eq_none (by omega)]

theorem numbered_of_isPrefix {bs : List α} {a : α} (h : numbered as n = some a) (hbs : as <+: bs)
    : numbered bs n = some a := by
  obtain ⟨k, hk, hget⟩ := numbered_eq_some.mp h
  obtain ⟨rest, rfl⟩ := hbs
  have hlt := (List.getElem?_eq_some_iff.mp hget).1
  exact numbered_eq_some.mpr ⟨k, hk, by rw [List.getElem?_append_left hlt, hget]⟩

theorem eq_of_numbered_eq {bs : List α} (has : as.length < 65535) (hbs : bs.length < 65535)
    (h : ∀ n, numbered as n = numbered bs n)
    : as = bs := by
  apply List.ext_getElem?
  intro k
  by_cases hk : k < 65535
  . have hn := h (UInt16.ofNat (k + 1))
    have htoNat : (UInt16.ofNat (k + 1)).toNat = k + 1 := UInt16.toNat_ofNat_of_lt' (by unfold UInt16.size; omega)
    unfold numbered at hn
    rwa [htoNat] at hn
  . rw [List.getElem?_eq_none (by omega), List.getElem?_eq_none (by omega)]

theorem exists_of_getLast? {a : α} (h : as.getLast? = some a)
    : ∃ k, as.length = k + 1 ∧ as[k]? = some a := by
  rw [List.getLast?_eq_getElem?] at h
  have hlt := (List.getElem?_eq_some_iff.mp h).1
  exact ⟨_, by omega, h⟩

theorem numbered_of_getLast? {a : α} (h : as.getLast? = some a) (hn : n.toNat = as.length)
    : numbered as n = some a := by
  obtain ⟨k, hlength, hget⟩ := exists_of_getLast? h
  exact numbered_eq_some.mpr ⟨k, hn.trans hlength, hget⟩

variable {k : Nat}

theorem getElem?_concat_eq_some {a b : α} (h : (as ++ [b])[k]? = some a)
    : as[k]? = some a ∨ k = as.length ∧ a = b := by
  rw [List.getElem?_append] at h
  split at h
  next => exact .inl h
  next hge =>
    have hk : k - as.length = 0 := by
      have := (List.getElem?_eq_some_iff.mp h).1
      simp only [List.length_singleton] at this
      omega
    rw [hk] at h
    injection h with h
    exact .inr ⟨by omega, h.symm⟩

/-!
### Histories
-/

@[ext]
structure Attempts (intentId targetIdHash : Hash256) where
  starts : List AttemptStart
  results : List AttemptResult
  starts_bound : ∀ k start, starts[k]? = some start
    → start.intentId = intentId ∧ start.targetIdHash = targetIdHash ∧ start.sequence.toNat = k + 1
  results_bound : ∀ k result, results[k]? = some result
    → result.intentId = intentId ∧ result.targetIdHash = targetIdHash ∧ result.sequence.toNat = k + 1
  results_le : results.length ≤ starts.length
  starts_le : starts.length ≤ results.length + 1
  limit : starts.length ≤ maxPublicationAttemptsPerTarget.toNat
  retried : ∀ k result, results[k]? = some result → k + 1 < starts.length
    → result.result.kind = .retryable

namespace Attempts

variable {i t : Hash256}

def empty : Attempts i t where
  starts := []
  results := []
  starts_bound := by simp
  results_bound := by simp
  results_le := by simp
  starts_le := by simp
  limit := by simp
  retried := by simp

structure Startable (attempts : Attempts i t) (start : AttemptStart) : Prop where
  intentId : start.intentId = i
  targetIdHash : start.targetIdHash = t
  sequence : start.sequence.toNat = attempts.starts.length + 1
  closed : attempts.results.length = attempts.starts.length
  retryable : ∀ result ∈ attempts.results.getLast?, result.result.kind = .retryable
  limit : attempts.starts.length < maxPublicationAttemptsPerTarget.toNat

structure Finishable (attempts : Attempts i t) (result : AttemptResult) : Prop where
  intentId : result.intentId = i
  targetIdHash : result.targetIdHash = t
  sequence : result.sequence.toNat = attempts.starts.length
  unfinished : attempts.results.length < attempts.starts.length

variable {attempts : Attempts i t} {result : AttemptResult}

theorem retryable_of_startable {start : AttemptStart} (h : attempts.Startable start)
    (hresult : attempts.results[k]? = some result)
    : result.result.kind = .retryable := by
  have hlt := (List.getElem?_eq_some_iff.mp hresult).1
  have hclosed := h.closed
  by_cases hlast : k + 1 < attempts.starts.length
  . exact attempts.retried k result hresult hlast
  . apply h.retryable
    rw [List.getLast?_eq_getElem?, Option.mem_def, ← hresult]
    congr 1
    omega

def start (attempts : Attempts i t) (start : AttemptStart) (h : attempts.Startable start) : Attempts i t where
  starts := attempts.starts ++ [start]
  results := attempts.results
  starts_bound := by
    intro k other hother
    rcases getElem?_concat_eq_some hother with hold | ⟨rfl, rfl⟩
    . exact attempts.starts_bound k other hold
    . exact ⟨h.intentId, h.targetIdHash, h.sequence⟩
  results_bound := attempts.results_bound
  results_le := by
    rw [List.length_append, h.closed]
    omega
  starts_le := by
    rw [List.length_append, h.closed]
    simp
  limit := by
    rw [List.length_append]
    exact h.limit
  retried _ _ hresult _ := retryable_of_startable h hresult

def finish (attempts : Attempts i t) (result : AttemptResult) (h : attempts.Finishable result) : Attempts i t where
  starts := attempts.starts
  results := attempts.results ++ [result]
  starts_bound := attempts.starts_bound
  results_bound := by
    intro k other hother
    rcases getElem?_concat_eq_some hother with hold | ⟨rfl, rfl⟩
    . exact attempts.results_bound k other hold
    . refine ⟨h.intentId, h.targetIdHash, ?_⟩
      have := h.sequence
      have := h.unfinished
      have := attempts.starts_le
      omega
  results_le := by
    rw [List.length_append]
    exact h.unfinished
  starts_le := by
    have := attempts.starts_le
    rw [List.length_append]
    simp only [List.length_singleton]
    omega
  limit := attempts.limit
  retried := by
    intro k other hother hlt
    rcases getElem?_concat_eq_some hother with hold | ⟨rfl, rfl⟩
    . exact attempts.retried k other hold hlt
    . have := attempts.starts_le
      omega

def Next (before after : Attempts i t) : Prop :=
  after = before ∨ (∃ start h, after = before.start start h) ∨ ∃ result h, after = before.finish result h

theorem Next.isPrefix {before after : Attempts i t} (h : before.Next after)
    : before.starts <+: after.starts ∧ before.results <+: after.results := by
  rcases h with rfl | ⟨_, _, rfl⟩ | ⟨_, _, rfl⟩ <;> simp [start, finish]

theorem sequence_of_getLast?_starts {start : AttemptStart} (h : attempts.starts.getLast? = some start)
    : start.intentId = i ∧ start.targetIdHash = t ∧ start.sequence.toNat = attempts.starts.length := by
  obtain ⟨k, hlength, hget⟩ := exists_of_getLast? h
  rw [hlength]
  exact attempts.starts_bound k _ hget

theorem sequence_of_getLast?_results (h : attempts.results.getLast? = some result)
    : result.intentId = i ∧ result.targetIdHash = t ∧ result.sequence.toNat = attempts.results.length := by
  obtain ⟨k, hlength, hget⟩ := exists_of_getLast? h
  rw [hlength]
  exact attempts.results_bound k _ hget

end Attempts

variable [P : Primitives]

/-!
### Rows of a history
-/

def Attempts.head {i t : Hash256} (attempts : Attempts i t) : Option AttemptHead := do
  let start ← attempts.starts.getLast?
  if attempts.results.length < attempts.starts.length then
    return startedHead start
  else
    return completedHead start (← attempts.results.getLast?)

structure Records (s : Store) {i t : Hash256} (attempts : Attempts i t) : Prop where
  starts : ∀ n, s.find (startRow i t n) = (numbered attempts.starts n).map encodeStart
  results : ∀ n, s.find (resultRow i t n) = (numbered attempts.results n).map encodeResult
  head : s.find (headRow i t) = attempts.head.map encodeHead

def startBatch (start : AttemptStart) : List BatchOperation :=
  [.put (startRow start.intentId start.targetIdHash start.sequence) (encodeStart start),
    .put (headRow start.intentId start.targetIdHash) (encodeHead (startedHead start))]

def resultBatch (start : AttemptStart) (result : AttemptResult) : List BatchOperation :=
  [.put (resultRow start.intentId start.targetIdHash start.sequence) (encodeResult result),
    .put (headRow start.intentId start.targetIdHash) (encodeHead (completedHead start result))]

theorem find_startBatch (s : Store) (start : AttemptStart) (row : Row)
    : (s.applyAll (startBatch start)).find row
      = if headRow start.intentId start.targetIdHash = row then some (encodeHead (startedHead start))
        else if startRow start.intentId start.targetIdHash start.sequence = row then some (encodeStart start)
        else s.find row := by
  rw [Store.find_applyAll]
  rfl

theorem find_resultBatch (s : Store) (start : AttemptStart) (result : AttemptResult) (row : Row)
    : (s.applyAll (resultBatch start result)).find row
      = if headRow start.intentId start.targetIdHash = row then some (encodeHead (completedHead start result))
        else if resultRow start.intentId start.targetIdHash start.sequence = row then some (encodeResult result)
        else s.find row := by
  rw [Store.find_applyAll]
  rfl

namespace Records

variable {s : Store} {i t : Hash256} {attempts : Attempts i t}

variable (h : Records s attempts)

include h

theorem unique {other : Attempts i t} (hother : Records s other) : attempts = other := by
  have hlimit : ∀ a : Attempts i t, a.starts.length < 65535 ∧ a.results.length < 65535 := by
    intro a
    have hlimit : a.starts.length ≤ 16 := a.limit
    have := a.results_le
    omega
  apply Attempts.ext
  . apply eq_of_numbered_eq (hlimit attempts).1 (hlimit other).1
    intro n
    apply Option.map_injective (fun _ _ => encodeStart_inj)
    rw [← h.starts, hother.starts]
  . apply eq_of_numbered_eq (hlimit attempts).2 (hlimit other).2
    intro n
    apply Option.map_injective (fun _ _ => encodeResult_inj)
    rw [← h.results, hother.results]

theorem start {start : AttemptStart} (hstart : attempts.Startable start)
    : Records (s.applyAll (startBatch start)) (attempts.start start hstart) := by
  have hlast : (attempts.start start hstart).head = some (startedHead start) := by
    simp [Attempts.head, Attempts.start, hstart.closed]
  constructor
  . intro n
    rw [find_startBatch, hstart.intentId, hstart.targetIdHash, h.starts]
    unfold Attempts.start
    rw [numbered_concat hstart.sequence]
    by_cases hn : start.sequence = n <;> simp [hn]
  . intro n
    rw [find_startBatch, h.results]
    simp [Attempts.start]
  . rw [find_startBatch, hlast, hstart.intentId, hstart.targetIdHash]
    simp

variable {result : AttemptResult}

theorem finish {start : AttemptStart} (hstart : attempts.starts.getLast? = some start)
    (hresult : attempts.Finishable result)
    : Records (s.applyAll (resultBatch start result)) (attempts.finish result hresult) := by
  obtain ⟨hintent, htarget, hsequence⟩ := Attempts.sequence_of_getLast?_starts hstart
  have hle := attempts.starts_le
  have hunfinished := hresult.unfinished
  have hlast : (attempts.finish result hresult).head = some (completedHead start result) := by
    have : ¬ attempts.results.length + 1 < attempts.starts.length := by omega
    simp [Attempts.head, Attempts.finish, hstart, this]
  constructor
  . intro n
    rw [find_resultBatch, h.starts]
    simp [Attempts.finish]
  . intro n
    rw [find_resultBatch, hintent, htarget, h.results]
    unfold Attempts.finish
    have hnumber : start.sequence.toNat = attempts.results.length + 1 := by omega
    rw [numbered_concat hnumber]
    by_cases hn : start.sequence = n <;> simp [hn]
  . rw [find_resultBatch, hlast, hintent, htarget]
    simp

theorem startBatch_of_ne {start : AttemptStart} (hne : ¬ (start.intentId = i ∧ start.targetIdHash = t))
    : Records (s.applyAll (startBatch start)) attempts := by
  constructor <;> simp [find_startBatch, hne, h.starts, h.results, h.head]

theorem resultBatch_of_ne {start : AttemptStart} (hne : ¬ (start.intentId = i ∧ start.targetIdHash = t))
    : Records (s.applyAll (resultBatch start result)) attempts := by
  constructor <;> simp [find_resultBatch, hne, h.starts, h.results, h.head]

theorem putIntent (id : Hash256) (bytes : List UInt8)
    : Records (s.apply (.put (intentRow id) bytes)) attempts := by
  constructor <;> simp [Store.find_apply, h.starts, h.results, h.head]

end Records

def Consistent (s : Store) : Prop :=
  ∀ i t, ∃ attempts : Attempts i t, Records s attempts

/-!
### Where a target stands
-/

def Unstarted (s : Store) (i t : Hash256) : Prop :=
  ∃ attempts : Attempts i t, Records s attempts ∧ attempts.starts = []

def Unfinished (s : Store) (i t : Hash256) (start : AttemptStart) : Prop :=
  ∃ attempts : Attempts i t, Records s attempts ∧ attempts.results.length < attempts.starts.length
    ∧ attempts.starts.getLast? = some start

def Finished (s : Store) (i t : Hash256) (result : AttemptResult) : Prop :=
  ∃ attempts : Attempts i t, Records s attempts ∧ attempts.results.length = attempts.starts.length
    ∧ attempts.results.getLast? = some result

theorem Consistent.cases {s : Store} (h : Consistent s) (i t : Hash256)
    : Unstarted s i t ∨ (∃ start, Unfinished s i t start) ∨ ∃ result, Finished s i t result := by
  obtain ⟨attempts, hrecords⟩ := h i t
  have hle := attempts.results_le
  by_cases hempty : attempts.starts = []
  . exact .inl ⟨attempts, hrecords, hempty⟩
  . by_cases hlt : attempts.results.length < attempts.starts.length
    . exact .inr (.inl ⟨_, attempts, hrecords, hlt, List.getLast?_eq_some_getLast hempty⟩)
    . have hne : attempts.results ≠ [] := by
        have hpos := List.length_pos_iff.mpr hempty
        rw [← List.length_pos_iff]
        omega
      exact .inr (.inr ⟨_, attempts, hrecords, by omega, List.getLast?_eq_some_getLast hne⟩)

namespace Unfinished

variable {s : Store} {i t : Hash256} {start : AttemptStart}

variable (h : Unfinished s i t start)

include h

theorem bound
    : start.intentId = i ∧ start.targetIdHash = t ∧ 1 ≤ start.sequence.toNat
      ∧ start.sequence.toNat ≤ maxPublicationAttemptsPerTarget.toNat := by
  obtain ⟨attempts, _, hlt, hlast⟩ := h
  obtain ⟨hintent, htarget, hsequence⟩ := Attempts.sequence_of_getLast?_starts hlast
  have := attempts.limit
  exact ⟨hintent, htarget, by omega, by omega⟩

theorem find_head
    : s.find (headRow i t) = some (encodeHead (startedHead start)) := by
  obtain ⟨attempts, hrecords, hlt, hlast⟩ := h
  rw [hrecords.head]
  simp [Attempts.head, hlast, hlt]

theorem find_start
    : s.find (startRow i t start.sequence) = some (encodeStart start) := by
  obtain ⟨attempts, hrecords, _, hlast⟩ := h
  rw [hrecords.starts, numbered_of_getLast? hlast (Attempts.sequence_of_getLast?_starts hlast).2.2]
  rfl

theorem find_result : s.find (resultRow i t start.sequence) = none := by
  obtain ⟨attempts, hrecords, hlt, hlast⟩ := h
  have hsequence := (Attempts.sequence_of_getLast?_starts hlast).2.2
  have hnone : numbered attempts.results start.sequence = none := by
    rw [← Option.not_isSome_iff_eq_none, isSome_numbered]
    omega
  rw [hrecords.results, hnone]
  rfl

end Unfinished

namespace Finished

variable {s : Store} {i t : Hash256} {result : AttemptResult}

theorem bound (h : Finished s i t result)
    : result.intentId = i ∧ result.targetIdHash = t ∧ 1 ≤ result.sequence.toNat
      ∧ result.sequence.toNat ≤ maxPublicationAttemptsPerTarget.toNat := by
  obtain ⟨attempts, _, heq, hlast⟩ := h
  obtain ⟨hintent, htarget, hsequence⟩ := Attempts.sequence_of_getLast?_results hlast
  have hpos : 0 < attempts.results.length := by
    rw [List.length_pos_iff]
    intro hempty
    simp [hempty] at hlast
  have := attempts.limit
  exact ⟨hintent, htarget, by omega, by omega⟩

theorem find_head (h : Finished s i t result)
    : ∃ start : AttemptStart, start.intentId = i ∧ start.targetIdHash = t ∧ start.sequence = result.sequence
      ∧ s.find (headRow i t) = some (encodeHead (completedHead start result)) := by
  have hbound := h.bound
  obtain ⟨attempts, hrecords, heq, hlast⟩ := h
  have hsequence := (Attempts.sequence_of_getLast?_results hlast).2.2
  have hne : attempts.starts ≠ [] := by
    rw [← List.length_pos_iff]
    omega
  have hstart := List.getLast?_eq_some_getLast hne
  obtain ⟨hintent, htarget, hstarts⟩ := Attempts.sequence_of_getLast?_starts hstart
  refine ⟨_, hintent, htarget, UInt16.toNat_inj.mp (by omega), ?_⟩
  rw [hrecords.head]
  simp [Attempts.head, hstart, heq, hlast]

theorem find_result (h : Finished s i t result)
    : s.find (resultRow i t result.sequence) = some (encodeResult result) := by
  obtain ⟨attempts, hrecords, _, hlast⟩ := h
  rw [hrecords.results, numbered_of_getLast? hlast (Attempts.sequence_of_getLast?_results hlast).2.2]
  rfl

end Finished

def Concluded (s : Store) (i t : Hash256) (result : AttemptResult) : Prop :=
  Finished s i t result
    ∧ (result.result.kind.isTerminal = true ∨ maxPublicationAttemptsPerTarget ≤ result.sequence)

end MeshMine.FastPath
