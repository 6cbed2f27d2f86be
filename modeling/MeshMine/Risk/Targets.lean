import MeshMine.Risk.Mixture
import Mathlib.Data.Nat.Choose.Vandermonde

/-!
The decision of the release gate: the reported targets are met exactly when the union bound over roles and selections
is within the number that the target's bits denote.
-/

namespace MeshMine.Risk

open ExactProbability
open Except (rejectIf_eq_ok bind_unit_eq_ok ok_bind)

/-!
### Targets
-/

theorem F64.value_of_not_negative {x : F64} (h : x.isNegative = false)
    : x.value = if x.exponentBits = 0 then (x.fraction : ℚ) / 2 ^ 1074
      else if 1075 ≤ x.exponentBits then (2 ^ 52 + x.fraction : ℚ) * 2 ^ (x.exponentBits - 1075)
      else (2 ^ 52 + x.fraction : ℚ) / 2 ^ (1075 - x.exponentBits) := by
  unfold F64.value
  rw [h, if_neg (by decide), one_mul]

theorem F64.not_negative_of_pos {x : F64} (h : 0 < x.value) : x.isNegative = false := by
  by_contra hneg
  rw [Bool.not_eq_false] at hneg
  unfold F64.value at h
  rw [hneg, if_pos rfl] at h
  have : (0 : ℚ) ≤ if x.exponentBits = 0 then (x.fraction : ℚ) / 2 ^ 1074
      else if 1075 ≤ x.exponentBits then (2 ^ 52 + x.fraction : ℚ) * 2 ^ (x.exponentBits - 1075)
      else (2 ^ 52 + x.fraction : ℚ) / 2 ^ (1075 - x.exponentBits) := by
    split
    . positivity
    split <;> positivity
  linarith

theorem exactF64Probability_spec {x : F64} (h : validBound x)
    : (exactF64Probability x).Valid ∧ (exactF64Probability x).value = x.value := by
  unfold validBound at h
  simp only [Bool.and_eq_true, decide_eq_true_eq] at h
  obtain ⟨⟨_, hnonneg⟩, hle⟩ := h
  suffices hvalue : (exactF64Probability x).denominator ≠ 0 ∧ (exactF64Probability x).value = x.value by
    refine ⟨valid_of_value hvalue.1 ?_, hvalue.2⟩
    rw [hvalue.2]
    exact hle
  unfold exactF64Probability
  split
  next hzero => exact ⟨by decide, by rw [value_zero, hzero]⟩
  next hzero =>
    split
    next hone => exact ⟨by decide, by rw [value_one, hone]⟩
    next =>
      have hpos : 0 < x.value := lt_of_le_of_ne hnonneg (Ne.symm hzero)
      rw [F64.value_of_not_negative (F64.not_negative_of_pos hpos)]
      dsimp only
      by_cases hsubnormal : x.exponentBits = 0
      . rw [if_pos hsubnormal, if_pos hsubnormal]
        dsimp only
        rw [if_neg (by omega)]
        refine ⟨reduced_denominator (by positivity), ?_⟩
        rw [value_reduced (by positivity), Nat.cast_pow, Nat.cast_ofNat]
        rfl
      . rw [if_neg hsubnormal, if_neg hsubnormal]
        dsimp only
        by_cases hexponent : 1075 ≤ x.exponentBits
        . rw [if_pos (by omega), if_pos hexponent]
          refine ⟨reduced_denominator (by decide), ?_⟩
          rw [value_reduced (by decide),
            show ((x.exponentBits : Int) - 1023 - 52).toNat = x.exponentBits - 1075 by omega]
          push_cast
          ring
        . rw [if_neg (by omega), if_neg hexponent]
          refine ⟨reduced_denominator (by positivity), ?_⟩
          rw [value_reduced (by positivity),
            show (-((x.exponentBits : Int) - 1023 - 52)).toNat = 1075 - x.exponentBits by omega]
          push_cast
          ring

theorem annualUnionBound_spec {probability : ExactProbability} (hvalid : probability.Valid) (events : Nat)
    : (annualUnionBound probability events).Valid
      ∧ (annualUnionBound probability events).value = min 1 (events * probability.value) := by
  have hden : (0 : ℚ) < probability.denominator := by
    have := hvalid.denominator
    positivity
  have hproduct : (events * probability.value : ℚ)
      = (probability.numerator * events : Nat) / probability.denominator := by
    unfold value
    push_cast
    ring
  suffices hvalue : (annualUnionBound probability events).denominator ≠ 0
      ∧ (annualUnionBound probability events).value = min 1 (events * probability.value) by
    refine ⟨valid_of_value hvalue.1 ?_, hvalue.2⟩
    rw [hvalue.2]
    exact min_le_left _ _
  rw [hproduct]
  unfold annualUnionBound
  split
  next h =>
    refine ⟨by decide, ?_⟩
    rw [value_zero, show probability.numerator * events = 0 by simpa using h]
    simp
  next =>
    split
    next h =>
      refine ⟨by decide, ?_⟩
      rw [value_one, min_eq_left]
      rw [le_div_iff₀ hden, one_mul]
      exact_mod_cast h
    next h =>
      refine ⟨reduced_denominator hvalid.denominator, ?_⟩
      rw [value_reduced hvalid.denominator, min_eq_right]
      rw [div_le_one hden]
      exact_mod_cast (not_le.mp h).le

theorem meetsTarget_eq_true {probability : ExactProbability} (hvalid : probability.Valid) {target : F64}
    (htarget : validBound target) (events : Nat)
    : meetsTarget probability events target = true ↔ min 1 (events * probability.value) ≤ target.value := by
  obtain ⟨hbound, hvalue⟩ := annualUnionBound_spec hvalid events
  obtain ⟨hexact, hexactValue⟩ := exactF64Probability_spec htarget
  unfold meetsTarget
  rw [decide_eq_true_iff, le_iff_value_le hbound.denominator hexact.denominator, hvalue, hexactValue]

/-!
### Risks of a role
-/

def drawnProbability (population : EligiblePopulation) (draws atLeast : Nat) : ℚ :=
  (∑ k ∈ Finset.Ico atLeast (draws + 1), population.adversarialMembers.choose k
    * (population.totalMembers - population.adversarialMembers).choose (draws - k) : Nat)
      / population.totalMembers.choose draws

theorem foldl_hypergeometric (population : EligiblePopulation) (draws atLeast : Nat)
    : (List.range' atLeast (min draws population.adversarialMembers + 1 - atLeast)).foldl (fun numerator adversarial =>
        if draws - adversarial ≤ population.totalMembers - population.adversarialMembers then
          numerator + population.adversarialMembers.choose adversarial
            * (population.totalMembers - population.adversarialMembers).choose (draws - adversarial)
        else
          numerator) 0
      = ∑ k ∈ Finset.Ico atLeast (draws + 1), population.adversarialMembers.choose k
        * (population.totalMembers - population.adversarialMembers).choose (draws - k) := by
  -- The terms left out are zero.
  have hterm : ∀ numerator k, (if draws - k ≤ population.totalMembers - population.adversarialMembers then
      numerator + population.adversarialMembers.choose k
        * (population.totalMembers - population.adversarialMembers).choose (draws - k) else numerator)
      = numerator + population.adversarialMembers.choose k
        * (population.totalMembers - population.adversarialMembers).choose (draws - k) := by
    intro numerator k
    split
    . rfl
    next h => rw [Nat.choose_eq_zero_of_lt (not_le.mp h), Nat.mul_zero, Nat.add_zero]
  simp only [hterm]
  have hsum : ∀ (ks : List Nat) (f : Nat → Nat) start, ks.foldl (fun numerator k => numerator + f k) start
      = start + (ks.map f).sum := by
    intro ks f
    induction ks with
    | nil => simp
    | cons k ks ih => simp [ih, Nat.add_assoc]
  rw [hsum, Nat.zero_add]
  change ∑ k ∈ Finset.Ico atLeast (min draws population.adversarialMembers + 1), _ = _
  apply Finset.sum_subset
  . intro k hk
    rw [Finset.mem_Ico] at hk ⊢
    omega
  . intro k hk hnot
    rw [Finset.mem_Ico] at hk hnot
    rw [Nat.choose_eq_zero_of_lt (by omega), Nat.zero_mul]

section

variable {population : EligiblePopulation} {draws : Nat} (hpopulation : validatePopulation population draws = .ok ())

include hpopulation

theorem sum_choose_mul_choose
    : ∑ k ∈ Finset.range (draws + 1), population.adversarialMembers.choose k
        * (population.totalMembers - population.adversarialMembers).choose (draws - k)
      = population.totalMembers.choose draws := by
  unfold validatePopulation at hpopulation
  rw [rejectIf_eq_ok] at hpopulation
  have h := Nat.add_choose_eq population.adversarialMembers
    (population.totalMembers - population.adversarialMembers) draws
  rw [Finset.Nat.sum_antidiagonal_eq_sum_range_succ
    fun i j => population.adversarialMembers.choose i
      * (population.totalMembers - population.adversarialMembers).choose j] at h
  rw [← h, Nat.add_sub_cancel' (by omega)]

theorem hypergeometricTail_spec (atLeast : Nat)
    : ∃ tail, hypergeometricTail population draws atLeast = .ok tail ∧ tail.Valid
      ∧ tail.value = drawnProbability population draws atLeast := by
  have hvandermonde := sum_choose_mul_choose hpopulation
  have hcommittees : population.totalMembers.choose draws ≠ 0 := by
    unfold validatePopulation at hpopulation
    rw [rejectIf_eq_ok] at hpopulation
    exact (Nat.choose_pos (by omega)).ne'
  unfold hypergeometricTail
  rw [hpopulation, ok_bind]
  by_cases hzero : atLeast = 0
  . refine ⟨one, by rw [if_pos hzero]; rfl, valid_one, ?_⟩
    unfold drawnProbability
    rw [hzero, ← Finset.range_eq_Ico, hvandermonde, value_one, div_self (by exact_mod_cast hcommittees)]
  . rw [if_neg hzero]
    simp only [choose_eq]
    have hfold := foldl_hypergeometric population draws atLeast
    have hle : ∑ k ∈ Finset.Ico atLeast (draws + 1), population.adversarialMembers.choose k
        * (population.totalMembers - population.adversarialMembers).choose (draws - k)
          ≤ population.totalMembers.choose draws := by
      rw [← hvandermonde]
      apply Finset.sum_le_sum_of_subset
      intro k hk
      rw [Finset.mem_Ico] at hk
      rw [Finset.mem_range]
      exact hk.2
    rw [hfold]
    refine ⟨reduced _ _, by
      unfold ExactProbability.new
      rw [Except.rejectIf_of_not hcommittees, Except.rejectIf_of_not (by omega)]
      rfl, ?_, ?_⟩
    . apply valid_of_value
      . exact reduced_denominator hcommittees
      . rw [value_reduced hcommittees, div_le_one (by positivity)]
        exact_mod_cast hle
    . rw [value_reduced hcommittees]
      rfl

end

def exactCaptureRisk (profile : RiskProfile) (role : RoleParameters) : ℚ :=
  let correlated := max
    (committeeProbability profile fun members : Fin role.committeeSize → Member =>
      Captures role.certificateThreshold members)
    (committeeProbability profile fun members : Fin role.committeeSize → Member =>
      Captures role.openingThreshold members)
  match role.eligiblePopulation with
  | none => correlated
  | some population =>
    max (max correlated (drawnProbability population role.committeeSize role.certificateThreshold))
      (drawnProbability population role.committeeSize role.openingThreshold)

/-- A threshold is out of reach when the adversary withholds too many members or too few of the others are online. -/
def exactBlockingRisk (profile : RiskProfile) (role : RoleParameters) : ℚ :=
  max
    (committeeProbability profile fun members : Fin role.committeeSize → Member =>
      Captures (role.committeeSize - role.certificateThreshold + 1) members
        ∨ TooFewHonestOnline role.certificateThreshold members)
    (committeeProbability profile fun members : Fin role.committeeSize → Member =>
      Captures (role.committeeSize - role.openingThreshold + 1) members
        ∨ TooFewHonestOnline role.openingThreshold members)

section

variable {profile : RiskProfile} (hprofile : profile.Valid)

include hprofile

theorem assessRole_spec {role : RoleParameters}
    (hrole : ∀ population ∈ role.eligiblePopulation, validatePopulation population role.committeeSize = .ok ())
    : ∃ report, assessRole profile role = .ok report
      ∧ report.captureRisk.Valid ∧ report.captureRisk.value = exactCaptureRisk profile role
      ∧ report.blockingRisk.Valid ∧ report.blockingRisk.value = exactBlockingRisk profile role := by
  have htail := fun threshold =>
    (correlatedTailWith_adversarial_computes hprofile role.committeeSize threshold).of_exact addsExactly_add
  have hblock := fun threshold => (correlatedCombinedBlockWith_computes hprofile role.committeeSize
    (role.committeeSize - threshold + 1) threshold).of_exact addsExactly_add
  obtain ⟨hcertificate, hcertificateValue⟩ := htail role.certificateThreshold
  obtain ⟨hopening, hopeningValue⟩ := htail role.openingThreshold
  obtain ⟨hcertificateBlock, hcertificateBlockValue⟩ := hblock role.certificateThreshold
  obtain ⟨hopeningBlock, hopeningBlockValue⟩ := hblock role.openingThreshold
  have hcorrelated := hcertificate.maximum hopening
  have hcorrelatedValue := value_maximum hcertificate.denominator hopening.denominator
  have hblocking := value_maximum hcertificateBlock.denominator hopeningBlock.denominator
  rw [hcertificateValue, hopeningValue] at hcorrelatedValue
  rw [hcertificateBlockValue, hopeningBlockValue] at hblocking
  unfold assessRole exactCaptureRisk
  cases hpopulation : role.eligiblePopulation with
  | none => exact ⟨_, rfl, hcorrelated, hcorrelatedValue, hcertificateBlock.maximum hopeningBlock, hblocking⟩
  | some population =>
    obtain ⟨certificate, hc, hcvalid, hcvalue⟩ :=
      hypergeometricTail_spec (hrole population hpopulation) role.certificateThreshold
    obtain ⟨opening, ho, hovalid, hovalue⟩ :=
      hypergeometricTail_spec (hrole population hpopulation) role.openingThreshold
    simp only [Option.mapM_some, hc, ho]
    have hfirst := hcorrelated.maximum hcvalid
    refine ⟨_, rfl, hfirst.maximum hovalid, ?_, hcertificateBlock.maximum hopeningBlock, hblocking⟩
    dsimp only [Option.toList, List.foldl, List.append]
    rw [← hcorrelatedValue, ← hcvalue, ← hovalue, ← value_maximum hcorrelated.denominator hcvalid.denominator,
      ← value_maximum hfirst.denominator hovalid.denominator]
    rfl

theorem assessRoles_spec {roles : List RoleParameters} {prior : List String}
    (hroles : validateRoles roles prior = .ok ())
    : ∃ reports, roles.mapM (assessRole profile) = .ok reports
      ∧ (∀ report ∈ reports, report.captureRisk.Valid ∧ report.blockingRisk.Valid)
      ∧ reports.map (·.captureRisk.value) = roles.map (exactCaptureRisk profile)
      ∧ reports.map (·.blockingRisk.value) = roles.map (exactBlockingRisk profile) := by
  induction roles generalizing prior with
  | nil => exact ⟨[], rfl, by simp⟩
  | cons role roles ih =>
    unfold validateRoles at hroles
    obtain ⟨_, hroles⟩ := bind_unit_eq_ok.mp hroles
    have hpopulation : (∀ population ∈ role.eligiblePopulation,
        validatePopulation population role.committeeSize = .ok ())
        ∧ validateRoles roles (prior ++ [role.name]) = .ok () := by
      cases hpopulation : role.eligiblePopulation with
      | none =>
        rw [hpopulation] at hroles
        exact ⟨by simp, hroles⟩
      | some population =>
        rw [hpopulation] at hroles
        obtain ⟨hvalid, hroles⟩ := bind_unit_eq_ok.mp hroles
        exact ⟨by simpa using hvalid, hroles⟩
    obtain ⟨hpopulation, hroles⟩ := hpopulation
    obtain ⟨report, hreport, hcapture, hcaptureValue, hblocking, hblockingValue⟩ :=
      assessRole_spec hprofile hpopulation
    obtain ⟨reports, hreports, hvalid, hcaptures, hblockings⟩ := ih hroles
    refine ⟨report :: reports, ?_, ?_, ?_, ?_⟩
    . rw [List.mapM_cons, hreport, ok_bind, hreports, ok_bind]
      rfl
    . rw [List.forall_mem_cons]
      exact ⟨⟨hcapture, hblocking⟩, hvalid⟩
    . rw [List.map_cons, List.map_cons, hcaptureValue, hcaptures]
    . rw [List.map_cons, List.map_cons, hblockingValue, hblockings]

end

theorem roles_of_validateOverlap {roles : List RoleParameters} {overlap : RoleOverlap}
    (h : validateOverlap roles overlap = .ok ())
    : ∃ first second, roles[overlap.firstRole]? = some first ∧ roles[overlap.secondRole]? = some second
      ∧ overlap.sharedMembers ≤ first.committeeSize ∧ overlap.sharedMembers ≤ second.committeeSize := by
  unfold validateOverlap at h
  split at h
  next first second hfirst hsecond =>
    rw [rejectIf_eq_ok] at h
    exact ⟨first, second, hfirst, hsecond, by omega, by omega⟩
  next => contradiction

theorem assessOverlap_ok {profile : RiskProfile} {overlap : RoleOverlap}
    (h : validateOverlap profile.roles overlap = .ok ())
    : ∃ report, assessOverlap profile overlap = .ok report := by
  obtain ⟨first, second, hfirst, hsecond, _⟩ := roles_of_validateOverlap h
  unfold assessOverlap
  rw [hfirst, hsecond]
  exact ⟨_, rfl⟩

/-!
### The gate
-/

theorem assessProfile_targetsMet {profile : RiskProfile} (h : validateProfile profile = .ok ())
    : ∃ report, assessProfile profile = .ok report
      ∧ report.roleReports.map (·.captureRisk.value) = profile.roles.map (exactCaptureRisk profile)
      ∧ report.roleReports.map (·.blockingRisk.value) = profile.roles.map (exactBlockingRisk profile)
      ∧ (report.securityTargetMet = true
        ↔ min 1 (selectionsPerYear profile * min 1 (profile.roles.map (exactCaptureRisk profile)).sum)
          ≤ profile.annualSecurityTarget.value)
      ∧ (report.livenessTargetMet = true
        ↔ min 1 (selectionsPerYear profile * min 1 (profile.roles.map (exactBlockingRisk profile)).sum)
          ≤ profile.annualLivenessTarget.value) := by
  have hprofile := valid_of_validateProfile h
  have hvalidate := h
  unfold validateProfile at h
  simp only [bind_unit_eq_ok] at h
  obtain ⟨_, _, _, _, _, _, htargets, hroles, _, h⟩ := h
  obtain ⟨_, _, h⟩ := Except.bind_eq_ok h
  obtain ⟨_, hoverlaps⟩ := bind_unit_eq_ok.mp h
  rw [rejectIf_eq_ok, not_or, not_not, not_not] at htargets
  obtain ⟨reports, hreports, hvalid, hcaptures, hblockings⟩ := assessRoles_spec hprofile hroles
  obtain ⟨overlapReports, hoverlapReports⟩ := Except.exists_mapM_eq_ok fun overlap hmem =>
    assessOverlap_ok (Except.forM_eq_ok hoverlaps overlap hmem)
  have hunion : ∀ risk : RoleRiskReport → ExactProbability, (∀ report ∈ reports, (risk report).Valid) →
      ((reports.map risk).foldl ExactProbability.add zero).Valid
      ∧ ((reports.map risk).foldl ExactProbability.add zero).value
        = min 1 (reports.map fun report => (risk report).value).sum := by
    intro risk hrisk
    obtain ⟨hfoldValid, hfoldValue⟩ := @foldl_add (reports.map risk) _ valid_zero (by simpa using hrisk)
    rw [value_zero, zero_add, List.map_map] at hfoldValue
    exact ⟨hfoldValid, hfoldValue⟩
  obtain ⟨hcaptureValid, hcaptureValue⟩ := hunion (·.captureRisk) fun report hmem => (hvalid report hmem).1
  obtain ⟨hblockingValid, hblockingValue⟩ := hunion (·.blockingRisk) fun report hmem => (hvalid report hmem).2
  have hassess : ∃ report, assessProfile profile = .ok report ∧ report.roleReports = reports
      ∧ report.securityTargetMet = meetsTarget ((reports.map (·.captureRisk)).foldl ExactProbability.add zero)
        (selectionsPerYear profile) profile.annualSecurityTarget
      ∧ report.livenessTargetMet = meetsTarget ((reports.map (·.blockingRisk)).foldl ExactProbability.add zero)
        (selectionsPerYear profile) profile.annualLivenessTarget := by
    unfold assessProfile
    rw [hvalidate, ok_bind]
    dsimp only
    rw [hreports, ok_bind, hoverlapReports, ok_bind]
    exact ⟨_, rfl, rfl, rfl, rfl⟩
  obtain ⟨report, hassess, hroleReports, hsecurity, hliveness⟩ := hassess
  rw [← hroleReports] at hcaptures hblockings
  refine ⟨report, hassess, hcaptures, hblockings, ?_, ?_⟩
  . rw [hsecurity, meetsTarget_eq_true hcaptureValid htargets.1, hcaptureValue, ← hroleReports, hcaptures]
  . rw [hliveness, meetsTarget_eq_true hblockingValid htargets.2, hblockingValue, ← hroleReports, hblockings]

theorem assessProfile_targetsMet_sample
    : validateProfile sampleProfile = .ok () ∧ ∃ report, assessProfile sampleProfile = .ok report
      ∧ (report.livenessTargetMet = true
        ↔ min 1 (selectionsPerYear sampleProfile
            * min 1 (sampleProfile.roles.map (exactBlockingRisk sampleProfile)).sum)
          ≤ sampleProfile.annualLivenessTarget.value) := by
  have h : validateProfile sampleProfile = .ok () := by decide +kernel
  obtain ⟨report, hreport, _, _, _, hliveness⟩ := assessProfile_targetsMet h
  exact ⟨h, report, hreport, hliveness⟩

end MeshMine.Risk
