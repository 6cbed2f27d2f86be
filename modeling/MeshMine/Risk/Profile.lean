import MeshMine.Risk.Exact
import Mathlib.Algebra.Order.Floor.Div

/-!
Committee risk of a deployment profile (`meshmine-committee-risk/src/lib.rs`): how likely a randomly selected
committee is captured or blocked, when members fail on their own and in correlated groups.

Left out are the annual values as floating-point numbers, the concentration multiple and the digest of the profile.
-/

namespace MeshMine.Risk

open Except (rejectIf)

def secondsPerYear : Nat := 365 * 24 * 60 * 60
def maxCommitteeSize : Nat := 256
def maxCorrelationGroups : Nat := 8

/-!
### Floating-point targets
-/

/-- An `f64` by its bits. -/
structure F64 where
  bits : UInt64

namespace F64

def exponentBits (x : F64) : Nat :=
  x.bits.toNat / 2 ^ 52 % 2 ^ 11

def fraction (x : F64) : Nat :=
  x.bits.toNat % 2 ^ 52

def isNegative (x : F64) : Bool :=
  2 ^ 63 ≤ x.bits.toNat

def isFinite (x : F64) : Bool :=
  x.exponentBits ≠ 0x7ff

/-- The number that IEEE 754 assigns to the bits of a finite value; finite values compare as these numbers. -/
def value (x : F64) : ℚ :=
  (if x.isNegative then -1 else 1)
    * (if x.exponentBits = 0 then (x.fraction : ℚ) / 2 ^ 1074
      else if 1075 ≤ x.exponentBits then (2 ^ 52 + x.fraction : ℚ) * 2 ^ (x.exponentBits - 1075)
      else (2 ^ 52 + x.fraction : ℚ) / 2 ^ (1075 - x.exponentBits))

end F64

def validBound (value : F64) : Bool :=
  value.isFinite && 0 ≤ value.value && value.value ≤ 1

open ExactProbability in
def exactF64Probability (value : F64) : ExactProbability :=
  if value.value = 0 then
    zero
  else if value.value = 1 then
    one
  else
    let fraction := value.fraction
    let (significand, exponent) : Nat × Int :=
      if value.exponentBits = 0 then (fraction, -1074)
      else (fraction + 2 ^ 52, (value.exponentBits : Int) - 1023 - 52)
    if 0 ≤ exponent then
      reduced (significand * 2 ^ exponent.toNat) 1
    else
      reduced significand (2 ^ (-exponent).toNat)

/-!
### Profiles
-/

structure EligiblePopulation where
  totalMembers : Nat
  adversarialMembers : Nat

structure RoleParameters where
  name : String
  committeeSize : Nat
  certificateThreshold : Nat
  openingThreshold : Nat
  eligiblePopulation : Option EligiblePopulation

structure CorrelationGroup where
  memberFraction : ExactProbability
  outageProbability : ExactProbability
  compromiseProbability : ExactProbability

structure RoleOverlap where
  firstRole : Nat
  secondRole : Nat
  sharedMembers : Nat

inductive ParallelLaneModel where
  | independentCommittees
  | sharedCommittee

structure RiskProfile where
  adversarialWorkFraction : ExactProbability
  eligibleAdversarialFraction : ExactProbability
  memberOnlineProbability : ExactProbability
  correlationGroups : List CorrelationGroup
  rotationIntervalSeconds : UInt64
  lookbackWindowBlocks : UInt32
  minimumLookbackBlocks : UInt32
  parallelLanes : UInt16
  laneModel : ParallelLaneModel
  annualSecurityTarget : F64
  annualLivenessTarget : F64
  roles : List RoleParameters
  overlaps : List RoleOverlap

def validatePopulation (population : EligiblePopulation) (draws : Nat) : Except RiskError Unit :=
  rejectIf (population.totalMembers = 0 ∨ population.totalMembers < population.adversarialMembers
    ∨ population.totalMembers < draws) .invalidCommittee

def validateRoles : List RoleParameters → List String → Except RiskError Unit
  | [], _ => .ok ()
  | role :: roles, prior => do
    rejectIf (role.name = "" ∨ role.name ∈ prior ∨ role.committeeSize = 0
      ∨ maxCommitteeSize < role.committeeSize
      ∨ role.certificateThreshold = 0 ∨ role.committeeSize < role.certificateThreshold
      ∨ role.openingThreshold = 0 ∨ role.committeeSize < role.openingThreshold) .invalidCommittee
    match role.eligiblePopulation with
    | some population => validatePopulation population role.committeeSize
    | none => pure ()
    validateRoles roles (prior ++ [role.name])

/-- The fractions of the groups seen so far are in `groupFraction`. -/
def validateGroups : List CorrelationGroup → ExactProbability → Except RiskError ExactProbability
  | [], groupFraction => .ok groupFraction
  | group :: groups, groupFraction => do
    group.memberFraction.validateProbability
    group.outageProbability.validateProbability
    group.compromiseProbability.validateProbability
    rejectIf (group.outageProbability.sumExceedsOne group.compromiseProbability) .invalidCorrelationGroups
    rejectIf (groupFraction.sumExceedsOne group.memberFraction) .invalidCorrelationGroups
    validateGroups groups (groupFraction.add group.memberFraction)

def validateOverlap (roles : List RoleParameters) (overlap : RoleOverlap) : Except RiskError Unit :=
  match roles[overlap.firstRole]?, roles[overlap.secondRole]? with
  | some first, some second =>
    rejectIf (overlap.firstRole = overlap.secondRole
      ∨ min first.committeeSize second.committeeSize < overlap.sharedMembers) .invalidRoleOverlap
  | _, _ => .error .invalidRoleOverlap

def validateProfile (profile : RiskProfile) : Except RiskError Unit := do
  profile.adversarialWorkFraction.validateProbability
  profile.eligibleAdversarialFraction.validateProbability
  profile.memberOnlineProbability.validateProbability
  rejectIf (profile.roles = []) .emptyRoles
  rejectIf (profile.rotationIntervalSeconds = 0 ∨ profile.parallelLanes = 0) .invalidRotation
  rejectIf (profile.lookbackWindowBlocks < profile.minimumLookbackBlocks) .lookbackTooShort
  rejectIf (¬ validBound profile.annualSecurityTarget ∨ ¬ validBound profile.annualLivenessTarget)
    .invalidAnnualTarget
  validateRoles profile.roles []
  rejectIf (maxCorrelationGroups < profile.correlationGroups.length) .invalidCorrelationGroups
  let groupFraction ← validateGroups profile.correlationGroups .zero
  rejectIf (¬ groupFraction ≤ .one) .invalidCorrelationGroups
  profile.overlaps.forM (validateOverlap profile.roles)

/-!
### Single draws
-/

def choose (n k : Nat) : Nat :=
  if n < k then
    0
  else
    (List.range (min k (n - k))).foldl (fun value index => value * (n - index) / (index + 1)) 1

open ExactProbability

def binomialMass (trials successes : Nat) (probability : ExactProbability) : ExactProbability :=
  if trials < successes then
    zero
  else
    reduced (choose trials successes * probability.numerator ^ successes
        * (probability.denominator - probability.numerator) ^ (trials - successes))
      (probability.denominator ^ trials)

def hypergeometricTail (population : EligiblePopulation) (draws atLeast : Nat)
    : Except RiskError ExactProbability := do
  validatePopulation population draws
  if atLeast = 0 then
    return one
  let maximum := min draws population.adversarialMembers
  let honest := population.totalMembers - population.adversarialMembers
  let numerator := (List.range' atLeast (maximum + 1 - atLeast)).foldl (fun numerator adversarial =>
    if draws - adversarial ≤ honest then
      numerator + choose population.adversarialMembers adversarial * choose honest (draws - adversarial)
    else
      numerator) 0
  ExactProbability.new numerator (choose population.totalMembers draws)

inductive GroupState where
  | normal
  | outage
  | compromised
deriving DecidableEq

inductive TailKind where
  | adversarial
  | honestOnlineFailure

/-- One call of the visitor: the weight of the states of all groups, and the fractions of members that are in
compromised groups and in groups that are down. -/
structure GroupVisit where
  weight : ExactProbability
  compromised : ExactProbability
  outage : ExactProbability

section

-- The addition that probabilities are accumulated with; the source's is `ExactProbability.add`.
variable (add : ExactProbability → ExactProbability → ExactProbability)

def binomialTailWith (trials atLeast : Nat) (probability : ExactProbability) : ExactProbability :=
  if atLeast = 0 then
    one
  else if trials < atLeast then
    zero
  else
    ((List.range' atLeast (trials + 1 - atLeast)).map fun successes =>
      binomialMass trials successes probability).foldl add zero

def groupStatesWith (group : CorrelationGroup) : List (GroupState × ExactProbability) :=
  [(.normal, (add group.outageProbability group.compromiseProbability).complement),
    (.outage, group.outageProbability),
    (.compromised, group.compromiseProbability)]

def visitFromWith : List CorrelationGroup → ExactProbability → ExactProbability → ExactProbability → List GroupVisit
  | [], weight, compromised, outage => [⟨weight, compromised, outage⟩]
  | group :: groups, weight, compromised, outage =>
    (groupStatesWith add group).flatMap fun (state, stateProbability) =>
      if stateProbability = zero then
        []
      else
        visitFromWith groups (weight.multiply stateProbability)
          (if state = .compromised then add compromised group.memberFraction else compromised)
          (if state = .outage then add outage group.memberFraction else outage)

def visitGroupStatesWith (profile : RiskProfile) : List GroupVisit :=
  visitFromWith add profile.correlationGroups one zero zero

def effectiveAdversarialWith (profile : RiskProfile) (visit : GroupVisit) : ExactProbability :=
  add profile.eligibleAdversarialFraction
    (profile.eligibleAdversarialFraction.complement.multiply visit.compromised)

def honestOnlineWith (profile : RiskProfile) (visit : GroupVisit) : ExactProbability :=
  (profile.eligibleAdversarialFraction.complement.multiply profile.memberOnlineProbability).multiply
    (add visit.compromised visit.outage).complement

def correlatedTailWith (profile : RiskProfile) (committeeSize threshold : Nat) (kind : TailKind)
    : ExactProbability :=
  ((visitGroupStatesWith add profile).map fun visit => visit.weight.multiply <|
    match kind with
    | .adversarial => binomialTailWith add committeeSize threshold (effectiveAdversarialWith add profile visit)
    | .honestOnlineFailure =>
      (binomialTailWith add committeeSize threshold (honestOnlineWith add profile visit)).complement).foldl add zero

def categoricalMass (committeeSize adversarialCount honestOnlineCount : Nat)
    (adversarial honestOnline other : ExactProbability)
    : ExactProbability :=
  let otherCount := committeeSize - adversarialCount - honestOnlineCount
  reduced (choose committeeSize adversarialCount * choose (committeeSize - adversarialCount) honestOnlineCount
      * adversarial.numerator ^ adversarialCount * honestOnline.numerator ^ honestOnlineCount
      * other.numerator ^ otherCount)
    (adversarial.denominator ^ adversarialCount * honestOnline.denominator ^ honestOnlineCount
      * other.denominator ^ otherCount)

variable (committeeSize adversarialBlockThreshold honestOnlineThreshold : Nat)

def blockingCounts : List (Nat × Nat) :=
  (List.range (committeeSize + 1)).flatMap fun adversarialCount =>
    ((List.range (committeeSize - adversarialCount + 1)).filter fun honestOnlineCount =>
      ¬ (adversarialCount < adversarialBlockThreshold ∧ honestOnlineThreshold ≤ honestOnlineCount)).map
      fun honestOnlineCount => (adversarialCount, honestOnlineCount)

def categoricalBlockProbabilityWith (adversarial honestOnline : ExactProbability) : ExactProbability :=
  let other := (add adversarial honestOnline).complement
  ((blockingCounts committeeSize adversarialBlockThreshold honestOnlineThreshold).map fun counts =>
    categoricalMass committeeSize counts.1 counts.2 adversarial honestOnline other).foldl add zero

def correlatedCombinedBlockWith (profile : RiskProfile)
    (committeeSize adversarialBlockThreshold honestOnlineThreshold : Nat)
    : ExactProbability :=
  ((visitGroupStatesWith add profile).map fun visit => visit.weight.multiply
    (categoricalBlockProbabilityWith add committeeSize adversarialBlockThreshold honestOnlineThreshold
      (effectiveAdversarialWith add profile visit) (honestOnlineWith add profile visit))).foldl add zero

def jointBinomialTailWith (firstSize firstThreshold secondSize secondThreshold shared : Nat)
    (probability : ExactProbability)
    : ExactProbability :=
  ((List.range (shared + 1)).map fun sharedAdversarial =>
    ((binomialMass shared sharedAdversarial probability).multiply
      (binomialTailWith add (firstSize - shared) (firstThreshold - sharedAdversarial) probability)).multiply
      (binomialTailWith add (secondSize - shared) (secondThreshold - sharedAdversarial) probability)).foldl add zero

def correlatedJointTailWith (profile : RiskProfile) (first second : RoleParameters)
    (shared firstThreshold secondThreshold : Nat)
    : ExactProbability :=
  ((visitGroupStatesWith add profile).map fun visit => visit.weight.multiply
    (jointBinomialTailWith add first.committeeSize firstThreshold second.committeeSize secondThreshold shared
      (effectiveAdversarialWith add profile visit))).foldl add zero

end

def binomialTail := binomialTailWith ExactProbability.add
def visitGroupStates := visitGroupStatesWith ExactProbability.add
def correlatedTail := correlatedTailWith ExactProbability.add
def correlatedCombinedBlock := correlatedCombinedBlockWith ExactProbability.add
def correlatedJointTail := correlatedJointTailWith ExactProbability.add

/-!
### Reports
-/

structure RoleRiskReport where
  name : String
  committeeSize : Nat
  certificateThreshold : Nat
  openingThreshold : Nat
  binomialCertificateCapture : ExactProbability
  binomialOpeningCapture : ExactProbability
  hypergeometricCertificateCapture : Option ExactProbability
  hypergeometricOpeningCapture : Option ExactProbability
  correlatedCertificateCapture : ExactProbability
  correlatedOpeningCapture : ExactProbability
  adversarialCertificateBlock : ExactProbability
  adversarialOpeningBlock : ExactProbability
  tooFewHonestOnlineForCertificate : ExactProbability
  tooFewHonestOnlineForOpening : ExactProbability
  combinedCertificateBlock : ExactProbability
  combinedOpeningBlock : ExactProbability
  captureRisk : ExactProbability
  blockingRisk : ExactProbability

structure OverlapRiskReport where
  firstRole : String
  secondRole : String
  sharedMembers : Nat
  jointCertificateCapture : ExactProbability
  independentCertificateProduct : ExactProbability

structure DeploymentRiskReport where
  committeeSelectionsPerYear : Nat
  roleReports : List RoleRiskReport
  overlapReports : List OverlapRiskReport
  perSelectionCaptureUnionBound : ExactProbability
  perSelectionBlockingUnionBound : ExactProbability
  annualCaptureUnionBoundExact : ExactProbability
  annualBlockingUnionBoundExact : ExactProbability
  securityTargetMet : Bool
  livenessTargetMet : Bool

def assessRole (profile : RiskProfile) (role : RoleParameters) : Except RiskError RoleRiskReport := do
  let adversarial := profile.eligibleAdversarialFraction
  let size := role.committeeSize
  let hypergeometricCertificateCapture ← role.eligiblePopulation.mapM fun population =>
    hypergeometricTail population size role.certificateThreshold
  let hypergeometricOpeningCapture ← role.eligiblePopulation.mapM fun population =>
    hypergeometricTail population size role.openingThreshold
  let correlatedCertificateCapture := correlatedTail profile size role.certificateThreshold .adversarial
  let correlatedOpeningCapture := correlatedTail profile size role.openingThreshold .adversarial
  let certificateBlockThreshold := size - role.certificateThreshold + 1
  let openingBlockThreshold := size - role.openingThreshold + 1
  let combinedCertificateBlock :=
    correlatedCombinedBlock profile size certificateBlockThreshold role.certificateThreshold
  let combinedOpeningBlock := correlatedCombinedBlock profile size openingBlockThreshold role.openingThreshold
  return {
    name := role.name
    committeeSize := size
    certificateThreshold := role.certificateThreshold
    openingThreshold := role.openingThreshold
    binomialCertificateCapture := binomialTail size role.certificateThreshold adversarial
    binomialOpeningCapture := binomialTail size role.openingThreshold adversarial
    hypergeometricCertificateCapture
    hypergeometricOpeningCapture
    correlatedCertificateCapture
    correlatedOpeningCapture
    adversarialCertificateBlock := correlatedTail profile size certificateBlockThreshold .adversarial
    adversarialOpeningBlock := correlatedTail profile size openingBlockThreshold .adversarial
    tooFewHonestOnlineForCertificate :=
      correlatedTail profile size role.certificateThreshold .honestOnlineFailure
    tooFewHonestOnlineForOpening := correlatedTail profile size role.openingThreshold .honestOnlineFailure
    combinedCertificateBlock
    combinedOpeningBlock
    captureRisk := (hypergeometricCertificateCapture.toList ++ hypergeometricOpeningCapture.toList).foldl
      maximum (correlatedCertificateCapture.maximum correlatedOpeningCapture)
    blockingRisk := combinedCertificateBlock.maximum combinedOpeningBlock }

def assessOverlap (profile : RiskProfile) (overlap : RoleOverlap) : Except RiskError OverlapRiskReport :=
  match profile.roles[overlap.firstRole]?, profile.roles[overlap.secondRole]? with
  | some first, some second =>
    .ok {
      firstRole := first.name
      secondRole := second.name
      sharedMembers := overlap.sharedMembers
      jointCertificateCapture := correlatedJointTail profile first second overlap.sharedMembers
        first.certificateThreshold second.certificateThreshold
      independentCertificateProduct :=
        (binomialTail first.committeeSize first.certificateThreshold profile.eligibleAdversarialFraction).multiply
          (binomialTail second.committeeSize second.certificateThreshold profile.eligibleAdversarialFraction) }
  | _, _ => .error .invalidRoleOverlap

def annualUnionBound (probability : ExactProbability) (events : Nat) : ExactProbability :=
  if probability.numerator = 0 ∨ events = 0 then
    zero
  else if probability.denominator ≤ probability.numerator * events then
    one
  else
    reduced (probability.numerator * events) probability.denominator

def meetsTarget (probability : ExactProbability) (events : Nat) (target : F64) : Bool :=
  annualUnionBound probability events ≤ exactF64Probability target

/-- By `u64::div_ceil` and `saturating_mul`. -/
def selectionsPerYear (profile : RiskProfile) : Nat :=
  let rotations := secondsPerYear ⌈/⌉ profile.rotationIntervalSeconds.toNat
  match profile.laneModel with
  | .independentCommittees => min (2 ^ 64 - 1) (rotations * profile.parallelLanes.toNat)
  | .sharedCommittee => rotations

def assessProfile (profile : RiskProfile) : Except RiskError DeploymentRiskReport := do
  validateProfile profile
  let events := selectionsPerYear profile
  let roleReports ← profile.roles.mapM (assessRole profile)
  let overlapReports ← profile.overlaps.mapM (assessOverlap profile)
  let captureUnion := (roleReports.map (·.captureRisk)).foldl ExactProbability.add zero
  let blockingUnion := (roleReports.map (·.blockingRisk)).foldl ExactProbability.add zero
  return {
    committeeSelectionsPerYear := events
    roleReports
    overlapReports
    perSelectionCaptureUnionBound := captureUnion
    perSelectionBlockingUnionBound := blockingUnion
    annualCaptureUnionBoundExact := annualUnionBound captureUnion events
    annualBlockingUnionBoundExact := annualUnionBound blockingUnion events
    securityTargetMet := meetsTarget captureUnion events profile.annualSecurityTarget
    livenessTargetMet := meetsTarget blockingUnion events profile.annualLivenessTarget }

end MeshMine.Risk
