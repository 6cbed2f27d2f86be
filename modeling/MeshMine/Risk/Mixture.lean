import MeshMine.Data.Draws
import MeshMine.Risk.Profile

/-!
What the computed risks mean. The members of a committee are drawn independently; each is adversarial, honest and
online, or neither, and how likely that is depends on the states of the correlation groups, which are drawn first.
-/

namespace MeshMine.Risk

open ExactProbability Draws

/-!
### Binomial coefficients
-/

theorem foldl_choose {n m : Nat} (h : m ≤ n)
    : (List.range m).foldl (fun value index => value * (n - index) / (index + 1)) 1 = n.choose m := by
  induction m with
  | zero => simp
  | succ m ih =>
    rw [List.range_succ, List.foldl_append, ih (by omega), List.foldl_cons, List.foldl_nil,
      ← Nat.choose_succ_right_eq, Nat.mul_div_cancel _ (by omega)]

theorem choose_eq (n k : Nat) : choose n k = n.choose k := by
  unfold choose
  split
  next h => rw [Nat.choose_eq_zero_of_lt h]
  next h =>
    rw [foldl_choose (by omega)]
    rcases le_total k (n - k) with hle | hle
    . rw [min_eq_left hle]
    . rw [min_eq_right hle, Nat.choose_symm (by omega)]

/-!
### Draws
-/

instance : Fintype GroupState where
  elems := {.normal, .outage, .compromised}
  complete state := by cases state <;> decide

inductive Member where
  | adversarial
  | honestOnline
  | other
deriving DecidableEq

instance : Fintype Member where
  elems := {.adversarial, .honestOnline, .other}
  complete member := by cases member <;> decide

def memberWeight (adversarial honestOnline : ℚ) : Member → ℚ
  | .adversarial => adversarial
  | .honestOnline => honestOnline
  | .other => 1 - (adversarial + honestOnline)

def memberProbability (adversarial honestOnline : ℚ) {size : Nat} (event : (Fin size → Member) → Prop)
    [DecidablePred event] : ℚ :=
  independent (fun _ => memberWeight adversarial honestOnline) fun members => indicator (event members)

def Captures {size : Nat} (threshold : Nat) (members : Fin size → Member) : Prop :=
  threshold ≤ count .adversarial members

def TooFewHonestOnline {size : Nat} (threshold : Nat) (members : Fin size → Member) : Prop :=
  count .honestOnline members < threshold

instance {size : Nat} (threshold : Nat) (members : Fin size → Member) : Decidable (Captures threshold members) :=
  inferInstanceAs (Decidable (_ ≤ _))

instance {size : Nat} (threshold : Nat) (members : Fin size → Member)
    : Decidable (TooFewHonestOnline threshold members) :=
  inferInstanceAs (Decidable (_ < _))

variable (group : CorrelationGroup)

def stateWeight : GroupState → ℚ
  | .normal => 1 - (group.outageProbability.value + group.compromiseProbability.value)
  | .outage => group.outageProbability.value
  | .compromised => group.compromiseProbability.value

def shareIn (groups : List CorrelationGroup) (state : GroupState) (states : Fin groups.length → GroupState) : ℚ :=
  ∑ i, if states i = state then (groups.get i).memberFraction.value else 0

/-- The mean over the states of all groups of what depends on the shares of compromised groups and of those down. -/
def mixture (groups : List CorrelationGroup) (F : ℚ → ℚ → ℚ) : ℚ :=
  independent (fun i => stateWeight (groups.get i)) fun states =>
    F (shareIn groups .compromised states) (shareIn groups .outage states)

def adversarialShare (profile : RiskProfile) (compromised : ℚ) : ℚ :=
  profile.eligibleAdversarialFraction.value + (1 - profile.eligibleAdversarialFraction.value) * compromised

def honestOnlineShare (profile : RiskProfile) (compromised outage : ℚ) : ℚ :=
  (1 - profile.eligibleAdversarialFraction.value) * profile.memberOnlineProbability.value
    * (1 - (compromised + outage))

def committeeProbability (profile : RiskProfile) {size : Nat} (event : (Fin size → Member) → Prop)
    [DecidablePred event] : ℚ :=
  mixture profile.correlationGroups fun compromised outage =>
    memberProbability (adversarialShare profile compromised) (honestOnlineShare profile compromised outage) event

theorem shareIn_cons (groups : List CorrelationGroup) (state first : GroupState)
    (states : Fin groups.length → GroupState)
    : shareIn (group :: groups) state (Fin.cons (α := fun _ => GroupState) first states)
      = (if first = state then group.memberFraction.value else 0) + shareIn groups state states := by
  unfold shareIn
  exact Fin.sum_univ_succ (n := groups.length) _

theorem mixture_nil (F : ℚ → ℚ → ℚ) : mixture [] F = F 0 0 := by
  unfold mixture
  refine (independent_zero _ _).trans ?_
  simp [shareIn]

theorem mixture_cons (groups : List CorrelationGroup) (F : ℚ → ℚ → ℚ)
    : mixture (group :: groups) F
      = stateWeight group .normal * mixture groups F
        + stateWeight group .outage * mixture groups (fun c o => F c (group.memberFraction.value + o))
        + stateWeight group .compromised * mixture groups (fun c o => F (group.memberFraction.value + c) o) := by
  unfold mixture
  refine (independent_succ (n := groups.length) _ _).trans ?_
  have hsum : ∀ G : GroupState → ℚ, ∑ state, G state = G .normal + G .outage + G .compromised := by
    intro G
    change ∑ state ∈ {GroupState.normal, .outage, .compromised}, G state = _
    rw [Finset.sum_insert (by decide), Finset.sum_insert (by decide), Finset.sum_singleton]
    ring
  rw [hsum]
  simp only [shareIn_cons]
  simp

theorem sum_memberWeight (adversarial honestOnline : ℚ)
    : ∑ member, memberWeight adversarial honestOnline member = 1 := by
  change ∑ member ∈ {Member.adversarial, .honestOnline, .other}, memberWeight adversarial honestOnline member = 1
  rw [Finset.sum_insert (by decide), Finset.sum_insert (by decide), Finset.sum_singleton]
  unfold memberWeight
  ring

/-!
### Computed figures
-/

variable {add : ExactProbability → ExactProbability → ExactProbability}

section

variable {figure : (ExactProbability → ExactProbability → ExactProbability) → ExactProbability} {x y : ℚ}

/-- What a figure of the source comes to, whatever exact addition it is computed with. -/
structure Computes (figure : (ExactProbability → ExactProbability → ExactProbability) → ExactProbability) (x : ℚ)
    : Prop where
  eq_sum : ∀ {add}, AddsExactly add → figure add = figure sum
  valid : (figure sum).Valid
  value_eq : (figure sum).value = x

namespace Computes

theorem of_exact (h : Computes figure x) (hadd : AddsExactly add)
    : (figure add).Valid ∧ (figure add).value = x := by
  rw [h.eq_sum hadd]
  exact ⟨h.valid, h.value_eq⟩

theorem const {p : ExactProbability} (h : p.Valid) (hvalue : p.value = x) : Computes (fun _ => p) x :=
  ⟨fun _ => rfl, h, hvalue⟩

theorem comp {G : (ExactProbability → ExactProbability → ExactProbability) → ExactProbability → ExactProbability}
    (h : Computes figure x) (hG : Computes (fun add => G add (figure sum)) y)
    : Computes (fun add => G add (figure add)) y := by
  refine ⟨?_, hG.valid, hG.value_eq⟩
  intro add hadd
  rw [h.eq_sum hadd]
  exact hG.eq_sum hadd

theorem complement (h : Computes figure x) : Computes (fun add => (figure add).complement) (1 - x) := by
  refine ⟨?_, h.valid.complement, ?_⟩
  . intro add hadd
    rw [h.eq_sum hadd]
  . rw [value_complement h.valid, h.value_eq]

theorem foldl {terms : List ExactProbability} (hdenominators : ∀ term ∈ terms, term.denominator ≠ 0)
    (hterms : (terms.map value).sum = x) (hle : x ≤ 1)
    : Computes (fun add => terms.foldl add zero) x := by
  obtain ⟨hdenominator, hvalue⟩ := @foldl_sum _ zero (by decide) hdenominators
  rw [value_zero, zero_add, hterms] at hvalue
  refine ⟨?_, valid_of_value hdenominator (hvalue.trans_le hle), hvalue⟩
  intro add hadd
  apply hadd.foldl (by decide) hdenominators
  rw [value_zero, zero_add, hterms]
  exact hle

theorem foldl_map {ι : Type} {l : List ι}
    {G : (ExactProbability → ExactProbability → ExactProbability) → ι → ExactProbability} {F : ι → ℚ}
    (heq : ∀ a ∈ l, ∀ {add}, AddsExactly add → G add a = G sum a)
    (hG : ∀ a ∈ l, (G sum a).denominator ≠ 0 ∧ (G sum a).value = F a) (hF : (l.map F).sum = x) (hle : x ≤ 1)
    : Computes (fun add => (l.map (G add)).foldl add zero) x := by
  have hfold : Computes (fun add => (l.map (G sum)).foldl add zero) x := by
    apply Computes.foldl _ _ hle
    . intro term hmem
      obtain ⟨a, ha, rfl⟩ := List.mem_map.mp hmem
      exact (hG a ha).1
    . rw [← hF, List.map_map]
      congr 1
      apply List.map_congr_left
      intro a ha
      exact (hG a ha).2
  refine ⟨?_, hfold.valid, hfold.value_eq⟩
  intro add hadd
  rw [List.map_congr_left fun a ha => heq a ha hadd]
  exact hfold.eq_sum hadd

end Computes

end

/-!
### Tails of one draw
-/

theorem indicator_le_one (event : Prop) [Decidable event] : (indicator event : ℚ) ≤ 1 := by
  unfold indicator
  split <;> norm_num

theorem indicator_nonneg (event : Prop) [Decidable event] : (0 : ℚ) ≤ indicator event := by
  unfold indicator
  split <;> norm_num

/-- That a binomial variable is at least `atLeast`. -/
def probabilityOfAtLeast (p : ℚ) (trials atLeast : Nat) : ℚ :=
  binomialSum p (1 - p) trials fun successes => indicator (atLeast ≤ successes)

theorem probabilityOfAtLeast_zero (p : ℚ) (trials : Nat) : probabilityOfAtLeast p trials 0 = 1 := by
  unfold probabilityOfAtLeast
  simp only [indicator, Nat.zero_le, if_true]
  exact binomialSum_one (add_sub_cancel _ _) trials

theorem probabilityOfAtLeast_le_one {p : ℚ} (hp : 0 ≤ p) (hle : p ≤ 1) (trials atLeast : Nat)
    : probabilityOfAtLeast p trials atLeast ≤ 1 := by
  rw [← binomialSum_one (add_sub_cancel p 1) trials]
  apply binomialSum_mono hp (by linarith)
  intro successes
  exact indicator_le_one _

section

variable {probability : ExactProbability} (hvalid : probability.Valid)

include hvalid

theorem binomialMass_value {trials successes : Nat} (h : successes ≤ trials)
    : (binomialMass trials successes probability).denominator ≠ 0
      ∧ (binomialMass trials successes probability).value
        = trials.choose successes * (probability.value ^ successes
          * (1 - probability.value) ^ (trials - successes)) := by
  have hden : probability.denominator ^ trials ≠ 0 := pow_ne_zero _ hvalid.denominator
  have hden' : (probability.denominator : ℚ) ≠ 0 := by exact_mod_cast hvalid.denominator
  unfold binomialMass
  rw [if_neg (by omega)]
  refine ⟨reduced_denominator hden, ?_⟩
  rw [value_reduced hden, choose_eq, show trials = successes + (trials - successes) by omega, Nat.add_sub_cancel_left]
  unfold value
  push_cast [Nat.cast_sub hvalid.le_one]
  rw [pow_add, div_pow, one_sub_div hden', div_pow]
  field_simp

theorem binomialTailWith_computes (trials atLeast : Nat)
    : Computes (fun add => binomialTailWith add trials atLeast probability)
      (probabilityOfAtLeast probability.value trials atLeast) := by
  have hfold : Computes (fun add => ((List.range' atLeast (trials + 1 - atLeast)).map fun successes =>
      binomialMass trials successes probability).foldl add zero)
      (probabilityOfAtLeast probability.value trials atLeast) := by
    apply Computes.foldl_map (fun _ _ _ _ => rfl)
    . intro successes hmem
      rw [List.mem_range'_1] at hmem
      exact binomialMass_value hvalid (by omega)
    . unfold probabilityOfAtLeast binomialSum
      simp only [indicator, mul_ite, mul_one, mul_zero, ← Finset.sum_filter, Finset.range_eq_Ico,
        Finset.Ico_filter_le, Nat.zero_max]
      rfl
    . exact probabilityOfAtLeast_le_one (value_nonneg _) (value_le_one hvalid) trials atLeast
  unfold binomialTailWith
  split
  next h =>
    apply Computes.const valid_one
    rw [value_one, h, probabilityOfAtLeast_zero]
  split
  next h =>
    rw [show trials + 1 - atLeast = 0 by omega] at hfold
    exact hfold
  next => exact hfold

end

/-!
### Events
-/

section

variable {adversarial honestOnline : ℚ} (hadversarial : 0 ≤ adversarial) (hhonest : 0 ≤ honestOnline)
  (hle : adversarial + honestOnline ≤ 1) {size : Nat}
  (event event' : (Fin size → Member) → Prop) [DecidablePred event] [DecidablePred event']

theorem memberProbability_not
    : 1 - memberProbability adversarial honestOnline event
      = memberProbability adversarial honestOnline fun members => ¬ event members := by
  rw [sub_eq_iff_eq_add]
  unfold memberProbability
  rw [← independent_add, ← independent_one (p := fun _ : Fin size => memberWeight adversarial honestOnline)
    fun _ => sum_memberWeight _ _]
  apply independent_congr
  intro members
  unfold indicator
  by_cases h : event members <;> simp [h]

theorem memberProbability_count (member : Member) (g : Nat → ℚ)
    : independent (fun _ : Fin size => memberWeight adversarial honestOnline) (fun members => g (count member members))
      = binomialSum (memberWeight adversarial honestOnline member) (1 - memberWeight adversarial honestOnline member)
        size g := by
  rw [independent_comp_count, Finset.sum_erase_eq_sub (Finset.mem_univ member), sum_memberWeight]

theorem memberProbability_captures (threshold : Nat)
    : memberProbability adversarial honestOnline (fun members : Fin size → Member => Captures threshold members)
      = probabilityOfAtLeast adversarial size threshold :=
  memberProbability_count .adversarial fun successes => indicator (threshold ≤ successes)

theorem memberProbability_tooFewHonestOnline (threshold : Nat)
    : memberProbability adversarial honestOnline
        (fun members : Fin size → Member => TooFewHonestOnline threshold members)
      = 1 - probabilityOfAtLeast honestOnline size threshold := by
  rw [show probabilityOfAtLeast honestOnline size threshold = memberProbability adversarial honestOnline
    fun members : Fin size → Member => threshold ≤ count .honestOnline members from
      (memberProbability_count .honestOnline fun successes => indicator (threshold ≤ successes)).symm,
    memberProbability_not]
  simp only [not_le]
  rfl

theorem memberProbability_blocked (adversarialThreshold honestThreshold : Nat)
    : memberProbability adversarial honestOnline (fun members : Fin size → Member =>
        Captures adversarialThreshold members ∨ TooFewHonestOnline honestThreshold members)
      = trinomialSum adversarial honestOnline (1 - (adversarial + honestOnline)) size fun i j =>
        indicator (adversarialThreshold ≤ i ∨ j < honestThreshold) := by
  have hcounts := independent_comp_counts (memberWeight adversarial honestOnline) (a := .adversarial)
    (b := .honestOnline) (by decide) size fun i j => indicator (adversarialThreshold ≤ i ∨ j < honestThreshold)
  rw [show ∑ c ∈ (Finset.univ.erase Member.adversarial).erase .honestOnline, memberWeight adversarial honestOnline c
    = 1 - (adversarial + honestOnline) from Finset.sum_singleton _ _] at hcounts
  refine Eq.trans ?_ hcounts
  apply independent_congr
  intro members
  exact if_congr Iff.rfl rfl rfl

include hadversarial hhonest hle

theorem memberWeight_nonneg (member : Member) : 0 ≤ memberWeight adversarial honestOnline member := by
  cases member with
  | adversarial => exact hadversarial
  | honestOnline => exact hhonest
  | other =>
    change 0 ≤ 1 - (adversarial + honestOnline)
    linarith

theorem memberProbability_le_one : memberProbability adversarial honestOnline event ≤ 1 := by
  rw [← independent_one (p := fun _ : Fin size => memberWeight adversarial honestOnline)
    fun _ => sum_memberWeight _ _]
  apply independent_mono (fun _ => memberWeight_nonneg hadversarial hhonest hle)
  intro members
  exact indicator_le_one _

variable {event event'} in
theorem memberProbability_mono (h : ∀ members, event members → event' members)
    : memberProbability adversarial honestOnline event ≤ memberProbability adversarial honestOnline event' := by
  apply independent_mono (fun _ => memberWeight_nonneg hadversarial hhonest hle)
  intro members
  by_cases hevent : event members
  . simp [indicator, hevent, h members hevent]
  . simp only [indicator, hevent, if_false]
    exact indicator_nonneg _

theorem memberProbability_or_le
    : memberProbability adversarial honestOnline (fun members => event members ∨ event' members)
      ≤ memberProbability adversarial honestOnline event + memberProbability adversarial honestOnline event' := by
  unfold memberProbability
  rw [← independent_add]
  apply independent_mono (fun _ => memberWeight_nonneg hadversarial hhonest hle)
  intro members
  unfold indicator
  by_cases h : event members <;> by_cases h' : event' members <;> simp [h, h']

end

/-!
### Blocked committees
-/

theorem sum_blockingCounts (size adversarialThreshold honestThreshold : Nat) (f : Nat → Nat → ℚ)
    : ((blockingCounts size adversarialThreshold honestThreshold).map fun counts => f counts.1 counts.2).sum
      = ∑ i ∈ Finset.range (size + 1), ∑ j ∈ Finset.range (size - i + 1),
        if adversarialThreshold ≤ i ∨ j < honestThreshold then f i j else 0 := by
  unfold blockingCounts
  rw [List.map_flatMap, List.flatMap_def, List.sum_flatten, List.map_map]
  change ∑ i ∈ Finset.range (size + 1), _ = _
  apply Finset.sum_congr rfl
  intro i _
  rw [← Finset.sum_filter]
  simp only [Function.comp_apply, List.map_map, not_and_or, not_lt, not_le]
  rfl

section

variable {adversarial honestOnline : ExactProbability} (hadversarial : adversarial.Valid) (hhonest : honestOnline.Valid)
  (hle : adversarial.value + honestOnline.value ≤ 1)

include hadversarial hhonest

theorem categoricalMass_value {otherwise : ExactProbability} (hother : otherwise.denominator ≠ 0) (size i j : Nat)
    : (categoricalMass size i j adversarial honestOnline otherwise).denominator ≠ 0
      ∧ (categoricalMass size i j adversarial honestOnline otherwise).value
        = size.choose i * (adversarial.value ^ i * ((size - i).choose j
          * (honestOnline.value ^ j * otherwise.value ^ (size - i - j)))) := by
  have hden : adversarial.denominator ^ i * honestOnline.denominator ^ j
      * otherwise.denominator ^ (size - i - j) ≠ 0 := by
    have := hadversarial.denominator
    have := hhonest.denominator
    positivity
  unfold categoricalMass
  dsimp only
  refine ⟨reduced_denominator hden, ?_⟩
  rw [value_reduced hden, choose_eq, choose_eq]
  unfold value
  push_cast
  simp only [div_pow]
  field_simp

include hle

theorem categoricalBlockProbabilityWith_computes (size adversarialThreshold honestThreshold : Nat)
    : Computes (fun add =>
        categoricalBlockProbabilityWith add size adversarialThreshold honestThreshold adversarial honestOnline)
      (memberProbability adversarial.value honestOnline.value fun members : Fin size → Member =>
        Captures adversarialThreshold members ∨ TooFewHonestOnline honestThreshold members) := by
  have hsum := hadversarial.sum hhonest hle
  have hother := value_complement hsum
  rw [value_sum hadversarial.denominator hhonest.denominator] at hother
  have hmass := fun i j =>
    categoricalMass_value hadversarial hhonest hsum.complement.denominator size i j
  have hfold : Computes (fun add => ((blockingCounts size adversarialThreshold honestThreshold).map fun counts =>
      categoricalMass size counts.1 counts.2 adversarial honestOnline
        (adversarial.sum honestOnline).complement).foldl add zero)
      (memberProbability adversarial.value honestOnline.value fun members : Fin size → Member =>
        Captures adversarialThreshold members ∨ TooFewHonestOnline honestThreshold members) := by
    apply Computes.foldl_map (fun _ _ _ _ => rfl) (fun counts _ => hmass counts.1 counts.2)
    . rw [memberProbability_blocked, ← hother]
      unfold trinomialSum binomialSum
      simp only [sum_blockingCounts size adversarialThreshold honestThreshold fun i j => size.choose i
        * (adversarial.value ^ i * ((size - i).choose j * (honestOnline.value ^ j
          * (adversarial.sum honestOnline).complement.value ^ (size - i - j)))),
        Finset.mul_sum, indicator, mul_ite, mul_one, mul_zero]
    . exact memberProbability_le_one (value_nonneg _) (value_nonneg _) hle _
  refine ⟨?_, hfold.valid, hfold.value_eq⟩
  intro add hadd
  unfold categoricalBlockProbabilityWith
  rw [hadd _ _ hadversarial.denominator hhonest.denominator hle]
  exact hfold.eq_sum hadd

end

/-!
### Group states
-/

structure CorrelationGroup.Valid (group : CorrelationGroup) : Prop where
  memberFraction : group.memberFraction.Valid
  outageProbability : group.outageProbability.Valid
  compromiseProbability : group.compromiseProbability.Valid
  le_one : group.outageProbability.value + group.compromiseProbability.value ≤ 1

def fractions (groups : List CorrelationGroup) : ℚ :=
  (groups.map (·.memberFraction.value)).sum

theorem fractions_cons (groups : List CorrelationGroup)
    : fractions (group :: groups) = group.memberFraction.value + fractions groups := by
  simp [fractions]

theorem fractions_nonneg (groups : List CorrelationGroup) : 0 ≤ fractions groups := by
  induction groups with
  | nil => simp [fractions]
  | cons group groups ih =>
    rw [fractions_cons]
    have := value_nonneg group.memberFraction
    linarith

structure GroupVisit.Valid (visit : GroupVisit) : Prop where
  weight : visit.weight.Valid
  compromised : visit.compromised.Valid
  outage : visit.outage.Valid
  le_one : visit.compromised.value + visit.outage.value ≤ 1

variable {state target : GroupState} {share fraction : ExactProbability}

theorem value_ite_sum (hshare : share.denominator ≠ 0) (hfraction : fraction.denominator ≠ 0)
    : (if state = target then share.sum fraction else share).value
      = share.value + if state = target then fraction.value else 0 := by
  split
  . rw [value_sum hshare hfraction]
  . rw [add_zero]

theorem valid_ite_sum (hshare : share.Valid) (hfraction : fraction.Valid) (h : share.value + fraction.value ≤ 1)
    : (if state = target then share.sum fraction else share).Valid := by
  split
  . exact hshare.sum hfraction h
  . exact hshare

theorem groupStatesWith_mem {group : CorrelationGroup} (hgroup : group.Valid) {probability : ExactProbability}
    (hmem : (state, probability) ∈ groupStatesWith sum group)
    : probability.Valid ∧ probability.value = stateWeight group state := by
  have hsum := hgroup.outageProbability.sum hgroup.compromiseProbability hgroup.le_one
  simp only [groupStatesWith, List.mem_cons, Prod.mk.injEq, List.not_mem_nil, or_false] at hmem
  rcases hmem with ⟨rfl, rfl⟩ | ⟨rfl, rfl⟩ | ⟨rfl, rfl⟩
  . refine ⟨hsum.complement, ?_⟩
    rw [value_complement hsum, value_sum hgroup.outageProbability.denominator hgroup.compromiseProbability.denominator]
    rfl
  . exact ⟨hgroup.outageProbability, rfl⟩
  . exact ⟨hgroup.compromiseProbability, rfl⟩

/-- The shares visited so far leave room for the groups that are still to come. -/
structure SharesFit (groups : List CorrelationGroup) (compromised outage : ExactProbability) : Prop where
  le_one : compromised.value + outage.value + fractions groups ≤ 1
  compromised : compromised.Valid
  outage : outage.Valid

section

variable {group : CorrelationGroup} {groups : List CorrelationGroup} {weight compromised outage : ExactProbability}

theorem SharesFit.room (h : SharesFit (group :: groups) compromised outage)
    : compromised.value + group.memberFraction.value ≤ 1 ∧ outage.value + group.memberFraction.value ≤ 1 := by
  have hle := h.le_one
  have hnonneg := fractions_nonneg groups
  have hc := value_nonneg compromised
  have ho := value_nonneg outage
  rw [fractions_cons] at hle
  constructor <;> linarith

theorem SharesFit.visit (h : SharesFit (group :: groups) compromised outage) (hfraction : group.memberFraction.Valid)
    (state : GroupState)
    : SharesFit groups (if state = .compromised then compromised.sum group.memberFraction else compromised)
        (if state = .outage then outage.sum group.memberFraction else outage) := by
  refine ⟨?_, valid_ite_sum h.compromised hfraction h.room.1, valid_ite_sum h.outage hfraction h.room.2⟩
  have hle := h.le_one
  have hnonneg := value_nonneg group.memberFraction
  rw [fractions_cons] at hle
  rw [value_ite_sum h.compromised.denominator hfraction.denominator,
    value_ite_sum h.outage.denominator hfraction.denominator]
  cases state <;> simp <;> linarith

variable (hgroups : ∀ group ∈ groups, group.Valid) (hweight : weight.Valid) (h : SharesFit groups compromised outage)

include hgroups h

theorem visitFromWith_eq (hadd : AddsExactly add)
    : visitFromWith add groups weight compromised outage = visitFromWith sum groups weight compromised outage := by
  induction groups generalizing weight compromised outage with
  | nil => rfl
  | cons group groups ih =>
    have hgroup := hgroups group List.mem_cons_self
    have hcsum := hadd _ _ h.compromised.denominator hgroup.memberFraction.denominator h.room.1
    have hosum := hadd _ _ h.outage.denominator hgroup.memberFraction.denominator h.room.2
    have hstates : groupStatesWith add group = groupStatesWith sum group := by
      unfold groupStatesWith
      rw [hadd _ _ hgroup.outageProbability.denominator hgroup.compromiseProbability.denominator hgroup.le_one]
    unfold visitFromWith
    rw [hstates, hcsum, hosum]
    apply List.flatMap_congr
    rintro ⟨state, probability⟩ _
    dsimp only
    split
    . rfl
    exact ih (fun g hg => hgroups g (List.mem_cons_of_mem _ hg)) (h.visit hgroup.memberFraction state)

include hweight

theorem visitFromWith_spec
    : (∀ visit ∈ visitFromWith sum groups weight compromised outage, visit.Valid)
      ∧ ∀ F : ℚ → ℚ → ℚ,
        ((visitFromWith sum groups weight compromised outage).map fun visit =>
          visit.weight.value * F visit.compromised.value visit.outage.value).sum
        = weight.value * mixture groups fun c o => F (compromised.value + c) (outage.value + o) := by
  induction groups generalizing weight compromised outage with
  | nil =>
    rw [visitFromWith]
    constructor
    . intro visit hmem
      rw [List.mem_singleton] at hmem
      subst hmem
      exact ⟨hweight, h.compromised, h.outage, by simpa [fractions] using h.le_one⟩
    . intro F
      simp [mixture_nil]
  | cons group groups ih =>
    have hgroup := hgroups group List.mem_cons_self
    have hstate : ∀ state probability, (state, probability) ∈ groupStatesWith sum group →
        let visits := if probability = zero then [] else
          visitFromWith sum groups (weight.multiply probability)
            (if state = .compromised then compromised.sum group.memberFraction else compromised)
            (if state = .outage then outage.sum group.memberFraction else outage)
        (∀ visit ∈ visits, visit.Valid)
          ∧ ∀ F : ℚ → ℚ → ℚ,
            (visits.map fun visit => visit.weight.value * F visit.compromised.value visit.outage.value).sum
            = weight.value * (stateWeight group state * mixture groups fun c o =>
              F (compromised.value + ((if state = .compromised then group.memberFraction.value else 0) + c))
                (outage.value + ((if state = .outage then group.memberFraction.value else 0) + o))) := by
      intro state probability hmem
      obtain ⟨hvalid, hvalue⟩ := groupStatesWith_mem hgroup hmem
      dsimp only
      split
      next hzero =>
        rw [← hvalue, hzero, value_zero]
        simp
      next =>
        obtain ⟨hvisits, hsum⟩ := ih (fun g hg => hgroups g (List.mem_cons_of_mem _ hg))
          (hweight.multiply hvalid) (h.visit hgroup.memberFraction state)
        refine ⟨hvisits, ?_⟩
        intro F
        rw [hsum, value_multiply hweight.denominator hvalid.denominator, hvalue, mul_assoc,
          value_ite_sum h.compromised.denominator hgroup.memberFraction.denominator,
          value_ite_sum h.outage.denominator hgroup.memberFraction.denominator]
        simp only [add_assoc]
    rw [visitFromWith]
    constructor
    . intro visit hmem
      obtain ⟨⟨state, probability⟩, hmem, hvisit⟩ := List.mem_flatMap.mp hmem
      exact (hstate state probability hmem).1 visit hvisit
    . intro F
      have hnormal := (hstate .normal _ (List.mem_cons_self)).2 F
      have houtage := (hstate .outage _ (List.mem_cons_of_mem _ List.mem_cons_self)).2 F
      have hcompromised :=
        (hstate .compromised _ (List.mem_cons_of_mem _ (List.mem_cons_of_mem _ List.mem_cons_self))).2 F
      rw [mixture_cons, List.map_flatMap, groupStatesWith, List.flatMap_cons, List.flatMap_cons, List.flatMap_cons,
        List.flatMap_nil, List.append_nil, List.sum_append, List.sum_append, hnormal, houtage, hcompromised]
      simp
      ring

end

/-!
### Accepted profiles
-/

structure RiskProfile.Valid (profile : RiskProfile) : Prop where
  eligibleAdversarialFraction : profile.eligibleAdversarialFraction.Valid
  memberOnlineProbability : profile.memberOnlineProbability.Valid
  correlationGroups : ∀ group ∈ profile.correlationGroups, group.Valid
  fractions_le_one : fractions profile.correlationGroups ≤ 1

theorem valid_of_validateGroups {groups : List CorrelationGroup} {start total : ExactProbability}
    (hstart : start.Valid) (h : validateGroups groups start = .ok total)
    : (∀ group ∈ groups, group.Valid) ∧ start.value + fractions groups ≤ 1 := by
  induction groups generalizing start with
  | nil => simpa [fractions] using value_le_one hstart
  | cons group groups ih =>
    simp only [validateGroups, Except.bind_unit_eq_ok, validateProbability_eq_ok, Except.rejectIf_eq_ok,
      Bool.not_eq_true] at h
    obtain ⟨hfraction, houtage, hcompromise, hstates, hsum, h⟩ := h
    rw [sumExceedsOne_eq_false houtage.denominator hcompromise.denominator] at hstates
    rw [sumExceedsOne_eq_false hstart.denominator hfraction.denominator] at hsum
    obtain ⟨hgroups, hle⟩ := ih (hstart.add hfraction) h
    rw [value_add hstart.denominator hfraction.denominator, min_eq_right hsum] at hle
    constructor
    . rw [List.forall_mem_cons]
      exact ⟨⟨hfraction, houtage, hcompromise, hstates⟩, hgroups⟩
    . rw [fractions_cons, ← add_assoc]
      exact hle

theorem valid_of_validateProfile {profile : RiskProfile} (h : validateProfile profile = .ok ()) : profile.Valid := by
  unfold validateProfile at h
  simp only [Except.bind_unit_eq_ok, validateProbability_eq_ok] at h
  obtain ⟨_, hadversarial, honline, _, _, _, _, _, _, h⟩ := h
  obtain ⟨_, hgroups, _⟩ := Except.bind_eq_ok h
  obtain ⟨hgroups, hle⟩ := valid_of_validateGroups valid_zero hgroups
  rw [value_zero, zero_add] at hle
  exact ⟨hadversarial, honline, hgroups, hle⟩

variable {F : ℚ → ℚ → ℚ}

section

variable {profile : RiskProfile} (hprofile : profile.Valid)

include hprofile

theorem visitGroupStatesWith_spec
    : (∀ visit ∈ visitGroupStatesWith sum profile, visit.Valid)
      ∧ ∀ F : ℚ → ℚ → ℚ,
        ((visitGroupStatesWith sum profile).map fun visit =>
          visit.weight.value * F visit.compromised.value visit.outage.value).sum
        = mixture profile.correlationGroups F := by
  obtain ⟨hvalid, hsum⟩ := visitFromWith_spec hprofile.correlationGroups valid_one
    ⟨by simpa [value_zero] using hprofile.fractions_le_one, valid_zero, valid_zero⟩
  refine ⟨hvalid, ?_⟩
  intro F
  simp only [value_one, value_zero, zero_add, one_mul] at hsum
  exact hsum F

omit hprofile in
theorem mixture_one (groups : List CorrelationGroup) : mixture groups (fun _ _ => 1) = 1 := by
  unfold mixture
  apply independent_one
  intro i
  change stateWeight (groups.get i) .normal + (stateWeight (groups.get i) .outage
    + (stateWeight (groups.get i) .compromised + 0)) = 1
  unfold stateWeight
  ring

theorem mixture_mono {G : ℚ → ℚ → ℚ} (h : ∀ c o, 0 ≤ c → 0 ≤ o → c + o ≤ 1 → F c o ≤ G c o)
    : mixture profile.correlationGroups F ≤ mixture profile.correlationGroups G := by
  obtain ⟨hvalid, hsum⟩ := visitGroupStatesWith_spec hprofile
  rw [← hsum F, ← hsum G]
  apply List.sum_le_sum
  intro visit hmem
  apply mul_le_mul_of_nonneg_left _ (value_nonneg _)
  exact h _ _ (value_nonneg _) (value_nonneg _) (hvalid visit hmem).le_one

omit hprofile in
theorem mixture_add (groups : List CorrelationGroup) (F G : ℚ → ℚ → ℚ)
    : mixture groups (fun c o => F c o + G c o) = mixture groups F + mixture groups G := by
  unfold mixture
  rw [← independent_add]

theorem shares_bounds {c o : ℚ} (hc : 0 ≤ c) (ho : 0 ≤ o) (hle : c + o ≤ 1)
    : 0 ≤ adversarialShare profile c ∧ 0 ≤ honestOnlineShare profile c o
      ∧ adversarialShare profile c + honestOnlineShare profile c o ≤ 1 := by
  have hadversarial := value_nonneg profile.eligibleAdversarialFraction
  have hhonest : 0 ≤ 1 - profile.eligibleAdversarialFraction.value := by
    linarith [value_le_one hprofile.eligibleAdversarialFraction]
  have honline := value_le_one hprofile.memberOnlineProbability
  have hpositive := value_nonneg profile.memberOnlineProbability
  have hrest : 0 ≤ 1 - (c + o) := by linarith
  unfold adversarialShare honestOnlineShare
  refine ⟨by positivity, by positivity, ?_⟩
  have hup : (1 - profile.eligibleAdversarialFraction.value)
      * (profile.memberOnlineProbability.value * (1 - (c + o)))
        ≤ (1 - profile.eligibleAdversarialFraction.value) * (1 - c) := by
    apply mul_le_mul_of_nonneg_left _ hhonest
    have := mul_le_of_le_one_left hrest honline
    linarith
  linarith

variable {visit : GroupVisit} (hvisit : visit.Valid)

include hvisit

theorem effectiveAdversarialWith_computes
    : Computes (fun add => effectiveAdversarialWith add profile visit)
      (adversarialShare profile visit.compromised.value) := by
  have ha := hprofile.eligibleAdversarialFraction
  have hproduct := ha.complement.multiply hvisit.compromised
  have hvalue : (profile.eligibleAdversarialFraction.complement.multiply visit.compromised).value
      = (1 - profile.eligibleAdversarialFraction.value) * visit.compromised.value := by
    rw [value_multiply ha.complement.denominator hvisit.compromised.denominator, value_complement ha]
  have hle : (1 - profile.eligibleAdversarialFraction.value) * visit.compromised.value
      ≤ 1 - profile.eligibleAdversarialFraction.value := by
    apply mul_le_of_le_one_right
    . linarith [value_le_one ha]
    . exact value_le_one hvisit.compromised
  have hle : profile.eligibleAdversarialFraction.value
      + (profile.eligibleAdversarialFraction.complement.multiply visit.compromised).value ≤ 1 := by
    rw [hvalue]
    linarith
  refine ⟨fun hadd => hadd _ _ ha.denominator hproduct.denominator hle, ha.sum hproduct hle, ?_⟩
  unfold effectiveAdversarialWith adversarialShare
  rw [value_sum ha.denominator hproduct.denominator, hvalue]

theorem honestOnlineWith_computes
    : Computes (fun add => honestOnlineWith add profile visit)
      (honestOnlineShare profile visit.compromised.value visit.outage.value) := by
  have ha := hprofile.eligibleAdversarialFraction.complement
  have hp := hprofile.memberOnlineProbability
  have hsum := hvisit.compromised.sum hvisit.outage hvisit.le_one
  refine ⟨?_, (ha.multiply hp).multiply hsum.complement, ?_⟩
  . intro add hadd
    unfold honestOnlineWith
    rw [hadd _ _ hvisit.compromised.denominator hvisit.outage.denominator hvisit.le_one]
  . unfold honestOnlineWith honestOnlineShare
    rw [value_multiply (ha.multiply hp).denominator hsum.complement.denominator,
      value_multiply ha.denominator hp.denominator, value_complement hprofile.eligibleAdversarialFraction,
      value_complement hsum, value_sum hvisit.compromised.denominator hvisit.outage.denominator]

theorem shares_le_one
    : (effectiveAdversarialWith sum profile visit).value + (honestOnlineWith sum profile visit).value ≤ 1 := by
  rw [(effectiveAdversarialWith_computes hprofile hvisit).value_eq,
    (honestOnlineWith_computes hprofile hvisit).value_eq]
  exact (shares_bounds hprofile (value_nonneg _) (value_nonneg _) hvisit.le_one).2.2

end

section

variable {profile : RiskProfile} (hprofile : profile.Valid)

include hprofile

theorem visitGroupStatesWith_eq (hadd : AddsExactly add)
    : visitGroupStatesWith add profile = visitGroupStatesWith sum profile := by
  apply visitFromWith_eq hprofile.correlationGroups ⟨_, valid_zero, valid_zero⟩ hadd
  simpa [value_zero] using hprofile.fractions_le_one

theorem computes_visits {G : (ExactProbability → ExactProbability → ExactProbability) → GroupVisit → ExactProbability}
    (hG : ∀ visit, visit.Valid →
      Computes (fun add => G add visit) (F visit.compromised.value visit.outage.value))
    : Computes (fun add =>
        ((visitGroupStatesWith add profile).map fun visit => visit.weight.multiply (G add visit)).foldl add zero)
      (mixture profile.correlationGroups F) := by
  obtain ⟨hvalid, hsum⟩ := visitGroupStatesWith_spec hprofile
  have hfold : Computes (fun add => ((visitGroupStatesWith sum profile).map fun visit =>
      visit.weight.multiply (G add visit)).foldl add zero) (mixture profile.correlationGroups F) := by
    apply Computes.foldl_map _ _ (hsum F)
    . rw [← mixture_one profile.correlationGroups, ← hsum F, ← hsum fun _ _ => 1]
      apply List.sum_le_sum
      intro visit hmem
      apply mul_le_mul_of_nonneg_left _ (value_nonneg _)
      have hG := hG visit (hvalid visit hmem)
      rw [← hG.value_eq]
      exact value_le_one hG.valid
    . intro visit hmem add hadd
      rw [(hG visit (hvalid visit hmem)).eq_sum hadd]
    . intro visit hmem
      have hvisit := hvalid visit hmem
      have hG := hG visit hvisit
      rw [value_multiply hvisit.weight.denominator hG.valid.denominator, hG.value_eq]
      exact ⟨(hvisit.weight.multiply hG.valid).denominator, rfl⟩
  refine ⟨?_, hfold.valid, hfold.value_eq⟩
  intro add hadd
  rw [visitGroupStatesWith_eq hprofile hadd]
  exact hfold.eq_sum hadd

theorem correlatedTailWith_adversarial_computes (size threshold : Nat)
    : Computes (fun add => correlatedTailWith add profile size threshold .adversarial)
      (committeeProbability profile fun members : Fin size → Member => Captures threshold members) := by
  apply computes_visits hprofile
  intro visit hvisit
  have hadversarial := effectiveAdversarialWith_computes hprofile hvisit
  rw [memberProbability_captures, ← hadversarial.value_eq]
  exact hadversarial.comp (binomialTailWith_computes hadversarial.valid size threshold)

theorem correlatedTailWith_honestOnlineFailure_computes (size threshold : Nat)
    : Computes (fun add => correlatedTailWith add profile size threshold .honestOnlineFailure)
      (committeeProbability profile fun members : Fin size → Member => TooFewHonestOnline threshold members) := by
  apply computes_visits hprofile
  intro visit hvisit
  have hhonest := honestOnlineWith_computes hprofile hvisit
  rw [memberProbability_tooFewHonestOnline, ← hhonest.value_eq]
  exact (hhonest.comp (binomialTailWith_computes hhonest.valid size threshold)).complement

theorem correlatedCombinedBlockWith_computes (size adversarialThreshold honestThreshold : Nat)
    : Computes (fun add => correlatedCombinedBlockWith add profile size adversarialThreshold honestThreshold)
      (committeeProbability profile fun members : Fin size → Member =>
        Captures adversarialThreshold members ∨ TooFewHonestOnline honestThreshold members) := by
  apply computes_visits hprofile
  intro visit hvisit
  have hadversarial := effectiveAdversarialWith_computes hprofile hvisit
  have hhonest := honestOnlineWith_computes hprofile hvisit
  rw [← hadversarial.value_eq, ← hhonest.value_eq]
  have hblock := categoricalBlockProbabilityWith_computes hadversarial.valid hhonest.valid
    (shares_le_one hprofile hvisit) size adversarialThreshold honestThreshold
  exact hadversarial.comp (G := fun add adversarial => categoricalBlockProbabilityWith add size adversarialThreshold
    honestThreshold adversarial (honestOnlineWith add profile visit)) (hhonest.comp hblock)

end

section

variable {profile : RiskProfile} (hprofile : profile.Valid)

include hprofile

variable {size : Nat}

theorem committeeProbability_mono {event event' : (Fin size → Member) → Prop} [DecidablePred event]
    [DecidablePred event'] (h : ∀ members, event members → event' members)
    : committeeProbability profile event ≤ committeeProbability profile event' := by
  apply mixture_mono hprofile
  intro c o hc ho hle
  obtain ⟨hadversarial, hhonest, hle⟩ := shares_bounds hprofile hc ho hle
  exact memberProbability_mono hadversarial hhonest hle h

theorem committeeProbability_or_le (event event' : (Fin size → Member) → Prop) [DecidablePred event]
    [DecidablePred event']
    : committeeProbability profile (fun members => event members ∨ event' members)
      ≤ committeeProbability profile event + committeeProbability profile event' := by
  unfold committeeProbability
  rw [← mixture_add]
  apply mixture_mono hprofile
  intro c o hc ho hle
  obtain ⟨hadversarial, hhonest, hle⟩ := shares_bounds hprofile hc ho hle
  exact memberProbability_or_le hadversarial hhonest hle event event'

end

/-- The capping is inert: every addition that is exact up to one gives the same figures. -/
theorem correlatedCombinedBlock_eq_committeeProbability {profile : RiskProfile} (h : validateProfile profile = .ok ())
    : ((visitGroupStates profile).map (·.weight.value)).sum = 1
      ∧ (∀ size adversarialThreshold honestThreshold,
        let combined := (correlatedCombinedBlock profile size adversarialThreshold honestThreshold).value
        let adversarial := (correlatedTail profile size adversarialThreshold .adversarial).value
        let honestOnlineFailure := (correlatedTail profile size honestThreshold .honestOnlineFailure).value
        combined = committeeProbability profile (fun members : Fin size → Member =>
            Captures adversarialThreshold members ∨ TooFewHonestOnline honestThreshold members)
          ∧ max adversarial honestOnlineFailure ≤ combined
          ∧ combined ≤ adversarial + honestOnlineFailure)
      ∧ ∀ add, AddsExactly add →
        visitGroupStatesWith add profile = visitGroupStates profile
        ∧ (∀ size adversarialThreshold honestThreshold,
          correlatedCombinedBlockWith add profile size adversarialThreshold honestThreshold
            = correlatedCombinedBlock profile size adversarialThreshold honestThreshold)
        ∧ ∀ size threshold kind,
          correlatedTailWith add profile size threshold kind = correlatedTail profile size threshold kind := by
  have hprofile := valid_of_validateProfile h
  have hadd := addsExactly_add
  have hvisits : visitGroupStates profile = visitGroupStatesWith sum profile := visitGroupStatesWith_eq hprofile hadd
  refine ⟨?_, ?_, ?_⟩
  . rw [hvisits, ← mixture_one profile.correlationGroups, ← (visitGroupStatesWith_spec hprofile).2]
    simp only [mul_one]
  . intro size adversarialThreshold honestThreshold combined adversarial honestOnlineFailure
    have hcombined := ((correlatedCombinedBlockWith_computes hprofile size adversarialThreshold
      honestThreshold).of_exact hadd).2
    have hadversarial := ((correlatedTailWith_adversarial_computes hprofile size adversarialThreshold).of_exact hadd).2
    have hhonest := ((correlatedTailWith_honestOnlineFailure_computes hprofile size honestThreshold).of_exact hadd).2
    refine ⟨hcombined, ?_, ?_⟩
    . apply max_le
      . refine hadversarial.le.trans ((committeeProbability_mono hprofile ?_).trans hcombined.ge)
        intro members hcaptures
        exact .inl hcaptures
      . refine hhonest.le.trans ((committeeProbability_mono hprofile ?_).trans hcombined.ge)
        intro members htooFew
        exact .inr htooFew
    . refine hcombined.le.trans ((committeeProbability_or_le hprofile _ _).trans ?_)
      exact add_le_add hadversarial.ge hhonest.ge
  . intro add hexact
    refine ⟨(visitGroupStatesWith_eq hprofile hexact).trans hvisits.symm, ?_, ?_⟩
    . intro size adversarialThreshold honestThreshold
      have hblock := correlatedCombinedBlockWith_computes hprofile size adversarialThreshold honestThreshold
      exact (hblock.eq_sum hexact).trans (hblock.eq_sum hadd).symm
    . intro size threshold kind
      cases kind with
      | adversarial =>
        have htail := correlatedTailWith_adversarial_computes hprofile size threshold
        exact (htail.eq_sum hexact).trans (htail.eq_sum hadd).symm
      | honestOnlineFailure =>
        have htail := correlatedTailWith_honestOnlineFailure_computes hprofile size threshold
        exact (htail.eq_sum hexact).trans (htail.eq_sum hadd).symm

def sampleProfile : RiskProfile where
  adversarialWorkFraction := ⟨1, 5⟩
  eligibleAdversarialFraction := ⟨1, 5⟩
  memberOnlineProbability := ⟨9, 10⟩
  correlationGroups := [⟨⟨1, 3⟩, ⟨1, 10⟩, ⟨1, 20⟩⟩]
  rotationIntervalSeconds := 86400
  lookbackWindowBlocks := 144
  minimumLookbackBlocks := 100
  parallelLanes := 2
  laneModel := .independentCommittees
  -- one half, and the least subnormal
  annualSecurityTarget := ⟨0x3fe0000000000000⟩
  annualLivenessTarget := ⟨1⟩
  roles := [⟨"capture", 5, 4, 3, some ⟨20, 4⟩⟩]
  overlaps := []

theorem correlatedCombinedBlock_eq_committeeProbability_sample
    : validateProfile sampleProfile = .ok ()
      ∧ (visitGroupStates sampleProfile).length = 3
      ∧ ((visitGroupStates sampleProfile).map (·.weight.value)).sum = 1 := by
  have h : validateProfile sampleProfile = .ok () := by decide +kernel
  exact ⟨h, by decide, (correlatedCombinedBlock_eq_committeeProbability h).1⟩

end MeshMine.Risk
