import MeshMine.Risk.Targets

/-!
What the tails are and how they compare: they are exact, a larger adversary or a lower threshold makes capture no less
likely, and two roles that share members are captured together at least as often as if they were independent.
-/

namespace MeshMine.Risk

open ExactProbability Draws
open Except (rejectIf_eq_ok bind_unit_eq_ok)

/-!
### Exactness
-/

/-- The fraction of the possible draws that contain enough of the adversarial members, who come first. -/
def capturedFraction (population : EligiblePopulation) (draws atLeast : Nat) : ℚ :=
  let possible := (Finset.univ : Finset (Fin population.totalMembers)).powersetCard draws
  (possible.filter fun drawn => atLeast ≤ (drawn.filter (·.val < population.adversarialMembers)).card).card
    / possible.card

theorem drawnProbability_eq {population : EligiblePopulation} {draws : Nat}
    (hpopulation : validatePopulation population draws = .ok ()) (atLeast : Nat)
    : drawnProbability population draws atLeast = capturedFraction population draws atLeast := by
  unfold validatePopulation at hpopulation
  rw [rejectIf_eq_ok] at hpopulation
  have hcount := card_powersetCard_filter_le (Finset.filter_subset (fun member : Fin population.totalMembers =>
    member.val < population.adversarialMembers) Finset.univ) draws atLeast
  rw [Finset.card_sdiff_of_subset (Finset.filter_subset _ _), Fin.card_filter_val_lt, Nat.min_eq_right (by omega),
    Finset.card_univ, Fintype.card_fin] at hcount
  unfold drawnProbability capturedFraction
  dsimp only
  rw [← hcount, Finset.card_powersetCard, Finset.card_univ, Fintype.card_fin]
  simp only [Finset.inter_filter, Finset.inter_univ]

/-- Every addition that is exact up to one gives the same tail, so that the capping of `add` is inert. -/
theorem tails_exact {probability : ExactProbability} (hvalid : probability.Valid) {population : EligiblePopulation}
    {draws : Nat} (hpopulation : validatePopulation population draws = .ok ()) (trials atLeast : Nat)
    : (binomialTail trials atLeast probability).value
        = independent
          (fun _ : Fin trials => fun success => if success then probability.value else 1 - probability.value)
          (fun outcomes => indicator (atLeast ≤ count true outcomes))
      ∧ (∀ add, AddsExactly add → binomialTailWith add trials atLeast probability
        = binomialTail trials atLeast probability)
      ∧ (∃ tail, hypergeometricTail population draws atLeast = .ok tail
        ∧ tail.value = capturedFraction population draws atLeast)
      ∧ ∀ n k, choose n k = n.choose k
        ∧ ∀ index < min k (n - k),
          index + 1 ∣ (List.range index).foldl (fun value index => value * (n - index) / (index + 1)) 1
            * (n - index) := by
  have htail := binomialTailWith_computes hvalid trials atLeast
  obtain ⟨tail, htailOk, _, htailValue⟩ := hypergeometricTail_spec hpopulation atLeast
  refine ⟨?_, ?_, ⟨tail, htailOk, ?_⟩, ?_⟩
  . refine (htail.of_exact addsExactly_add).2.trans ?_
    have hcount := independent_comp_count (fun success : Bool => if success then probability.value
      else 1 - probability.value) true trials fun successes => indicator (atLeast ≤ successes)
    refine Eq.trans ?_ hcount.symm
    simp [probabilityOfAtLeast]
  . intro add hadd
    exact (htail.eq_sum hadd).trans (htail.eq_sum addsExactly_add).symm
  . rw [htailValue, drawnProbability_eq hpopulation]
  . intro n k
    refine ⟨choose_eq n k, ?_⟩
    intro index hindex
    rw [foldl_choose (by omega), ← Nat.choose_succ_right_eq]
    exact Nat.dvd_mul_left _ _

theorem tails_exact_sample
    : (binomialTail 5 3 ⟨1, 5⟩).value
        = independent
          (fun _ : Fin 5 => fun success => if success then value ⟨1, 5⟩ else 1 - value ⟨1, 5⟩)
          (fun outcomes => indicator (3 ≤ count true outcomes))
      ∧ (∀ add, AddsExactly add → binomialTailWith add 5 3 ⟨1, 5⟩ = binomialTail 5 3 ⟨1, 5⟩)
      ∧ (∃ tail, hypergeometricTail ⟨20, 4⟩ 5 3 = .ok tail ∧ tail.value = capturedFraction ⟨20, 4⟩ 5 3)
      ∧ choose 20 5 = Nat.choose 20 5
      ∧ 3 ∣ (List.range 2).foldl (fun value index => value * (20 - index) / (index + 1)) 1 * 18 := by
  have hvalid : Valid ⟨1, 5⟩ := ⟨by decide, by decide⟩
  have hpopulation : validatePopulation ⟨20, 4⟩ 5 = .ok () := by decide
  obtain ⟨hbinomial, hadd, hdraws, hchoose⟩ := tails_exact hvalid hpopulation 5 3
  exact ⟨hbinomial, hadd, hdraws, (hchoose 20 5).1, (hchoose 20 5).2 2 (by decide)⟩

/-!
### Comparisons
-/

theorem indicator_mono {event event' : Prop} [Decidable event] [Decidable event'] (h : event → event')
    : (indicator event : ℚ) ≤ indicator event' := by
  by_cases hevent : event
  . simp [indicator, hevent, h hevent]
  . simp only [indicator, hevent, if_false]
    exact indicator_nonneg _

section

variable {p q : ℚ} (hp : 0 ≤ p)

include hp

theorem probabilityOfAtLeast_antitone (hle : p ≤ 1) (trials : Nat) : Antitone (probabilityOfAtLeast p trials) := by
  intro atLeast atLeast' h
  apply binomialSum_mono hp (by linarith)
  intro successes
  exact indicator_mono h.trans

theorem probabilityOfAtLeast_le_of_le (hpq : p ≤ q) (hq : q ≤ 1) (trials atLeast : Nat)
    : probabilityOfAtLeast p trials atLeast ≤ probabilityOfAtLeast q trials atLeast := by
  apply binomialSum_le_of_le hp (hpq.trans hq) _ hpq hq
  intro i j h
  exact indicator_mono fun hatLeast => hatLeast.trans h

theorem probabilityOfAtLeast_nonneg (hle : p ≤ 1) (trials atLeast : Nat)
    : 0 ≤ probabilityOfAtLeast p trials atLeast := by
  unfold probabilityOfAtLeast
  apply Finset.sum_nonneg
  intro i _
  have := indicator_nonneg (atLeast ≤ i)
  have := sub_nonneg.mpr hle
  positivity

end

variable {profile : RiskProfile}

theorem correlatedTail_value (hprofile : profile.Valid) (size threshold : Nat)
    : (correlatedTail profile size threshold .adversarial).Valid
      ∧ (correlatedTail profile size threshold .adversarial).value
        = mixture profile.correlationGroups fun compromised _ =>
          probabilityOfAtLeast (adversarialShare profile compromised) size threshold := by
  have h := (correlatedTailWith_adversarial_computes hprofile size threshold).of_exact addsExactly_add
  unfold committeeProbability at h
  simp only [memberProbability_captures] at h
  exact h

theorem adversarialShare_bounds (hprofile : profile.Valid) {c : ℚ} (hc : 0 ≤ c) (hle : c ≤ 1)
    : profile.eligibleAdversarialFraction.value ≤ adversarialShare profile c ∧ adversarialShare profile c ≤ 1 := by
  have hfraction := value_le_one hprofile.eligibleAdversarialFraction
  unfold adversarialShare
  constructor <;> nlinarith

theorem correlatedTail_monotone (h : validateProfile profile = .ok ()) (size : Nat)
    : (∀ fraction threshold, validateProfile { profile with eligibleAdversarialFraction := fraction } = .ok ()
        → profile.eligibleAdversarialFraction ≤ fraction
        → correlatedTail profile size threshold .adversarial
          ≤ correlatedTail { profile with eligibleAdversarialFraction := fraction } size threshold .adversarial)
      ∧ ∀ threshold threshold', threshold ≤ threshold'
        → correlatedTail profile size threshold' .adversarial ≤ correlatedTail profile size threshold .adversarial := by
  have hprofile := valid_of_validateProfile h
  constructor
  . intro fraction threshold h' hle
    have hprofile' := valid_of_validateProfile h'
    obtain ⟨hvalid, hvalue⟩ := correlatedTail_value hprofile size threshold
    obtain ⟨hvalid', hvalue'⟩ := correlatedTail_value hprofile' size threshold
    rw [le_iff_value_le hvalid.denominator hvalid'.denominator, hvalue, hvalue']
    apply mixture_mono hprofile
    intro c o hc ho hco
    have hone := (adversarialShare_bounds hprofile' hc (by linarith)).2
    apply probabilityOfAtLeast_le_of_le (shares_bounds hprofile hc ho hco).1 _ hone
    rw [le_iff_value_le hprofile.eligibleAdversarialFraction.denominator
      hprofile'.eligibleAdversarialFraction.denominator] at hle
    unfold adversarialShare
    dsimp only at hle ⊢
    nlinarith
  . intro threshold threshold' hle
    obtain ⟨hvalid, hvalue⟩ := correlatedTail_value hprofile size threshold
    obtain ⟨hvalid', hvalue'⟩ := correlatedTail_value hprofile size threshold'
    rw [le_iff_value_le hvalid'.denominator hvalid.denominator, hvalue, hvalue']
    apply mixture_mono hprofile
    intro c o hc ho hco
    exact probabilityOfAtLeast_antitone (shares_bounds hprofile hc ho hco).1
      (adversarialShare_bounds hprofile hc (by linarith)).2 size hle

theorem correlatedTail_monotone_sample
    : correlatedTail sampleProfile 5 3 .adversarial
        ≤ correlatedTail { sampleProfile with eligibleAdversarialFraction := ⟨2, 5⟩ } 5 3 .adversarial
      ∧ correlatedTail sampleProfile 5 3 .adversarial ≤ correlatedTail sampleProfile 5 2 .adversarial := by
  have hprofile : validateProfile sampleProfile = .ok () := by decide +kernel
  obtain ⟨hfraction, hthreshold⟩ := correlatedTail_monotone hprofile 5
  exact ⟨hfraction ⟨2, 5⟩ 3 (by decide +kernel) (by decide), hthreshold 2 3 (by decide)⟩

/-!
### Overlapping roles
-/

/-- That both of two committees with common members are captured. -/
def probabilityOfJoint (p : ℚ) (firstSize firstThreshold secondSize secondThreshold shared : Nat) : ℚ :=
  binomialSum p (1 - p) shared fun k => probabilityOfAtLeast p (firstSize - shared) (firstThreshold - k)
    * probabilityOfAtLeast p (secondSize - shared) (secondThreshold - k)

theorem jointBinomialTailWith_computes {probability : ExactProbability} (hvalid : probability.Valid)
    (firstSize firstThreshold secondSize secondThreshold shared : Nat)
    : Computes (fun add =>
        jointBinomialTailWith add firstSize firstThreshold secondSize secondThreshold shared probability)
      (probabilityOfJoint probability.value firstSize firstThreshold secondSize secondThreshold shared) := by
  have hnonneg := value_nonneg probability
  have hle := value_le_one hvalid
  have htail := fun size threshold k => binomialTailWith_computes hvalid (size - shared) (threshold - k)
  have hmultiply : ∀ {a b : ExactProbability}, a.denominator ≠ 0 → b.denominator ≠ 0 → (a.multiply b).denominator ≠ 0 :=
    fun ha hb => reduced_denominator (mul_ne_zero ha hb)
  apply Computes.foldl_map (F := fun k => shared.choose k * (probability.value ^ k
    * (1 - probability.value) ^ (shared - k))
    * probabilityOfAtLeast probability.value (firstSize - shared) (firstThreshold - k)
    * probabilityOfAtLeast probability.value (secondSize - shared) (secondThreshold - k))
  . intro k _ add hadd
    rw [(htail firstSize firstThreshold k).eq_sum hadd, (htail secondSize secondThreshold k).eq_sum hadd]
  . intro k hk
    obtain ⟨hmass, hmassValue⟩ := binomialMass_value hvalid (Nat.le_of_lt_succ (List.mem_range.mp hk))
    have hfirst := htail firstSize firstThreshold k
    have hsecond := htail secondSize secondThreshold k
    have hproduct := hmultiply hmass hfirst.valid.denominator
    refine ⟨hmultiply hproduct hsecond.valid.denominator, ?_⟩
    rw [value_multiply hproduct hsecond.valid.denominator, value_multiply hmass hfirst.valid.denominator, hmassValue,
      hfirst.value_eq, hsecond.value_eq]
  . unfold probabilityOfJoint binomialSum
    change ∑ k ∈ Finset.range (shared + 1), _ = _
    apply Finset.sum_congr rfl
    intro k _
    ring
  . refine le_trans (binomialSum_mono hnonneg (by linarith) ?_) (binomialSum_one (add_sub_cancel _ 1) shared).le
    intro k
    exact mul_le_one₀ (probabilityOfAtLeast_le_one hnonneg hle _ _) (probabilityOfAtLeast_nonneg hnonneg hle _ _)
      (probabilityOfAtLeast_le_one hnonneg hle _ _)

theorem probabilityOfAtLeast_shared (p : ℚ) {size shared : Nat} (h : shared ≤ size) (threshold : Nat)
    : probabilityOfAtLeast p size threshold
      = binomialSum p (1 - p) shared fun k => probabilityOfAtLeast p (size - shared) (threshold - k) := by
  unfold probabilityOfAtLeast
  conv_lhs => rw [← Nat.add_sub_of_le h, binomialSum_add]
  simp only [Nat.sub_le_iff_le_add']

theorem correlatedJointTailWith_computes (hprofile : profile.Valid)
    (first second : RoleParameters) (shared firstThreshold secondThreshold : Nat)
    : Computes (fun add => correlatedJointTailWith add profile first second shared firstThreshold secondThreshold)
      (mixture profile.correlationGroups fun compromised _ =>
        probabilityOfJoint (adversarialShare profile compromised) first.committeeSize firstThreshold
          second.committeeSize secondThreshold shared) := by
  apply computes_visits hprofile
  intro visit hvisit
  have hadversarial := effectiveAdversarialWith_computes hprofile hvisit
  rw [← hadversarial.value_eq]
  exact hadversarial.comp (jointBinomialTailWith_computes hadversarial.valid _ _ _ _ _)

theorem mixture_const (groups : List CorrelationGroup) (x : ℚ) : mixture groups (fun _ _ => x) = x := by
  have h := congrArg (· * x) (mixture_one groups)
  simpa [mixture, independent, Finset.sum_mul] using h

theorem product_le_joint {p q : ℚ} (hp : 0 ≤ p) (hpq : p ≤ q) (hq : q ≤ 1) {firstSize secondSize shared : Nat}
    (hfirst : shared ≤ firstSize) (hsecond : shared ≤ secondSize) (firstThreshold secondThreshold : Nat)
    : probabilityOfAtLeast p firstSize firstThreshold * probabilityOfAtLeast p secondSize secondThreshold
      ≤ probabilityOfJoint q firstSize firstThreshold secondSize secondThreshold shared := by
  have hq0 := hp.trans hpq
  have hmonotone : ∀ size threshold, Monotone fun k => probabilityOfAtLeast q size (threshold - k) := by
    intro size threshold k k' h
    exact probabilityOfAtLeast_antitone hq0 hq size (by omega)
  calc probabilityOfAtLeast p firstSize firstThreshold * probabilityOfAtLeast p secondSize secondThreshold
    _ ≤ probabilityOfAtLeast q firstSize firstThreshold * probabilityOfAtLeast q secondSize secondThreshold := by
      apply mul_le_mul
      . exact probabilityOfAtLeast_le_of_le hp hpq hq _ _
      . exact probabilityOfAtLeast_le_of_le hp hpq hq _ _
      . exact probabilityOfAtLeast_nonneg hp (hpq.trans hq) _ _
      . exact probabilityOfAtLeast_nonneg hq0 hq _ _
    _ ≤ _ := by
      rw [probabilityOfAtLeast_shared q hfirst, probabilityOfAtLeast_shared q hsecond]
      exact binomialSum_mul hq0 hq (hmonotone _ _) (hmonotone _ _) shared

theorem assessOverlap_product_le_joint (h : validateProfile profile = .ok ())
    {overlap : RoleOverlap} (hoverlap : overlap ∈ profile.overlaps)
    : ∃ report, assessOverlap profile overlap = .ok report
      ∧ report.independentCertificateProduct ≤ report.jointCertificateCapture := by
  have hprofile := valid_of_validateProfile h
  unfold validateProfile at h
  simp only [bind_unit_eq_ok] at h
  obtain ⟨_, _, _, _, _, _, _, _, _, h⟩ := h
  obtain ⟨_, _, h⟩ := Except.bind_eq_ok h
  obtain ⟨_, hoverlaps⟩ := bind_unit_eq_ok.mp h
  obtain ⟨first, second, hfirst, hsecond, hsharedFirst, hsharedSecond⟩ :=
    roles_of_validateOverlap (Except.forM_eq_ok hoverlaps overlap hoverlap)
  have hfraction := hprofile.eligibleAdversarialFraction
  obtain ⟨hjoint, hjointValue⟩ := (correlatedJointTailWith_computes hprofile first second overlap.sharedMembers
    first.certificateThreshold second.certificateThreshold).of_exact addsExactly_add
  have htail := fun size threshold => (binomialTailWith_computes hfraction size threshold).of_exact addsExactly_add
  obtain ⟨hfirstTail, hfirstValue⟩ := htail first.committeeSize first.certificateThreshold
  obtain ⟨hsecondTail, hsecondValue⟩ := htail second.committeeSize second.certificateThreshold
  unfold assessOverlap
  rw [hfirst, hsecond]
  refine ⟨_, rfl, ?_⟩
  dsimp only
  unfold correlatedJointTail binomialTail
  rw [le_iff_value_le (hfirstTail.multiply hsecondTail).denominator hjoint.denominator, hjointValue,
    value_multiply hfirstTail.denominator hsecondTail.denominator, hfirstValue, hsecondValue]
  refine (mixture_const profile.correlationGroups _).ge.trans (mixture_mono hprofile ?_)
  intro c o hc ho hco
  obtain ⟨hle, hone⟩ := adversarialShare_bounds hprofile hc (by linarith)
  exact product_le_joint (value_nonneg _) hle hone hsharedFirst hsharedSecond _ _

theorem assessOverlap_product_le_joint_sample
    : ∃ report, assessOverlap { sampleProfile with
        roles := [⟨"capture", 5, 4, 3, none⟩, ⟨"receipt", 4, 3, 2, none⟩], overlaps := [⟨0, 1, 2⟩] } ⟨0, 1, 2⟩
        = .ok report
      ∧ report.independentCertificateProduct ≤ report.jointCertificateCapture :=
  assessOverlap_product_le_joint (by decide +kernel) List.mem_cons_self

end MeshMine.Risk
