import DryTrade.DecimalLayout
import DryTrade.Failure

/-!
# The stability of a walk-forward execution

From the folds of a walk-forward execution the analysis derives one observation each, counts,
ratios, the distributions of the scores and of their degradations, six controls and three
assessments.  Scores and thresholds are decimals; a decimal whose canonical text is too long is
refused wherever it appears.

## Main definitions

* `StabilityAnalysisPolicy` — the thresholds.
* `decimalFraction`, `ratioAtLeast`, `ratioAtMost` — ratios are compared by cross multiplication.
* `distributionFor`, `controlsFor`, `assessmentsFor` — the parts of a report.
* `buildReport` — the report of some folds.
-/

namespace DryTrade
namespace Optimization

/-! ### Errors -/

/-- The exception classes of the analysis. -/
inductive StabilityErrorKind
  | invalidStabilityMetric
  | incompatibleStabilityReport
  deriving DecidableEq, Repr

/-- One raised exception. -/
structure StabilityError where
  kind : StabilityErrorKind
  message : String
  deriving DecidableEq, Repr

/-- `MAX_STABILITY_FOLDS`. -/
def maximumStabilityFolds : ℕ := 1000

/-- `_exact_int`. -/
def exactInt (value : ℕ) (label : String) (minimum maximum : ℕ) : Except StabilityError Unit :=
  require (minimum ≤ value ∧ value ≤ maximum)
    ⟨.incompatibleStabilityReport, label ++ " is outside its exact integer limit"⟩

/-- `_finite_decimal`. -/
def finiteDecimal (value : Decimal) (label : String) : Except StabilityError Decimal := do
  let _ ← value.boundedText
    (⟨.invalidStabilityMetric, label ++ " exceeds its canonical limit"⟩ : StabilityError)
  return value

/-! ### The policy -/

/-- Whether greater or smaller scores are better. -/
inductive SelectionDirection
  | maximize
  | minimize
  deriving DecidableEq, Repr

/-- A threshold of a ratio. -/
def RatioThreshold (d : Decimal) : Prop := d.Fits ∧ 0 ≤ d.value ∧ d.value ≤ 1

/-- A threshold of a degradation. -/
def NonnegativeDecimal (d : Decimal) : Prop := d.Fits ∧ 0 ≤ d.value

/-- The thresholds of the controls. -/
structure StabilityAnalysisPolicy where
  direction : SelectionDirection
  minimumCompletedFolds : ℕ
  minimumCompletionRatio : Decimal
  minimumTestNotWorseRatio : Decimal
  maximumMedianDegradation : Decimal
  maximumWorstDegradation : Decimal
  maximumParameterTurnoverRatio : Decimal
  minimumCompletedFolds_ge : 2 ≤ minimumCompletedFolds
  minimumCompletedFolds_le : minimumCompletedFolds ≤ maximumStabilityFolds
  minimumCompletionRatio_valid : RatioThreshold minimumCompletionRatio
  minimumTestNotWorseRatio_valid : RatioThreshold minimumTestNotWorseRatio
  maximumMedianDegradation_valid : NonnegativeDecimal maximumMedianDegradation
  maximumWorstDegradation_valid : NonnegativeDecimal maximumWorstDegradation
  maximumParameterTurnoverRatio_valid : RatioThreshold maximumParameterTurnoverRatio

/-! ### Ratios -/

/-- A ratio of two counts. -/
structure ExactRatio where
  numerator : ℕ
  denominator : ℕ
  deriving DecidableEq, Repr

/-- `ExactRatio(...)`. -/
def ExactRatio.construct (numerator denominator : ℕ) : Except StabilityError ExactRatio := do
  exactInt numerator "ratio numerator" 0 maximumStabilityFolds
  exactInt denominator "ratio denominator" 1 maximumStabilityFolds
  require (numerator ≤ denominator) ⟨.incompatibleStabilityReport, "exact ratio exceeds one"⟩
  return ⟨numerator, denominator⟩

/-- `_decimal_fraction`: the numerator and the denominator of a decimal. -/
def decimalFraction (value : Decimal) : ℤ × ℤ :=
  let coefficient : ℤ := if value.negative then -value.coefficient else value.coefficient
  if 0 ≤ value.exponent then (coefficient * 10 ^ value.exponent.toNat, 1)
  else (coefficient, 10 ^ (-value.exponent).toNat)

def ratioAtLeast (ratio : ExactRatio) (threshold : Decimal) : Bool :=
  let fraction := decimalFraction threshold
  decide (fraction.1 * ratio.denominator ≤ ratio.numerator * fraction.2)

def ratioAtMost (ratio : ExactRatio) (threshold : Decimal) : Bool :=
  let fraction := decimalFraction threshold
  decide (ratio.numerator * fraction.2 ≤ fraction.1 * ratio.denominator)

/-! ### Scores -/

/-- The digits of `_DECIMAL_CONTEXT`. -/
def contextDigits : ℕ := 512

/-- The degradation of a score, before it is checked. -/
def degradationOf (direction : SelectionDirection) (validation test : Decimal) : Decimal :=
  match direction with
  | .maximize => Decimal.rounded contextDigits (validation.value - test.value)
  | .minimize => Decimal.rounded contextDigits (test.value - validation.value)

def signedDegradation (validationScore testScore : Decimal) (direction : SelectionDirection) :
    Except StabilityError Decimal := do
  let validation ← finiteDecimal validationScore "validation score"
  let test ← finiteDecimal testScore "TEST score"
  finiteDecimal (degradationOf direction validation test) "signed degradation"

def testIsNotWorse (validationScore testScore : Decimal) (direction : SelectionDirection) :
    Except StabilityError Bool := do
  let validation ← finiteDecimal validationScore "validation score"
  let test ← finiteDecimal testScore "TEST score"
  match direction with
  | .maximize => return decide (validation.value ≤ test.value)
  | .minimize => return decide (test.value ≤ validation.value)

/-- The least, the middle and the greatest of some values. -/
structure MetricDistribution where
  count : ℕ
  minimum : Decimal
  median : Decimal
  maximum : Decimal
  deriving DecidableEq, Repr

/-- `MetricDistribution(...)`. -/
def MetricDistribution.construct (count : ℕ) (minimum median maximum : Decimal) :
    Except StabilityError MetricDistribution := do
  exactInt count "metric distribution count" 1 maximumStabilityFolds
  let least ← finiteDecimal minimum "metric distribution minimum"
  let middle ← finiteDecimal median "metric distribution median"
  let greatest ← finiteDecimal maximum "metric distribution maximum"
  require (least.value ≤ middle.value ∧ middle.value ≤ greatest.value)
    ⟨.invalidStabilityMetric, "metric distribution ordering is invalid"⟩
  return ⟨count, minimum, median, maximum⟩

/-- The mean of the middle two values. -/
def halved (a b : Decimal) : Decimal :=
  Decimal.rounded contextDigits ((Decimal.rounded contextDigits (a.value + b.value)).value / 2)

/-- `sorted(values)`. -/
def sortedValues (values : List Decimal) : List Decimal :=
  values.insertionSort fun a b => a.value ≤ b.value

/-- The median of sorted values. -/
def medianOf (ordered : List Decimal) : Except StabilityError Decimal :=
  let middle := ordered.length / 2
  if ordered.length % 2 = 1 then .ok (ordered.getD middle .zero)
  else finiteDecimal (halved (ordered.getD (middle - 1) .zero) (ordered.getD middle .zero))
    "distribution median"

def distributionFor (values : List Decimal) : Except StabilityError (Option MetricDistribution) :=
  if values = [] then .ok none
  else do
    let normalized ← values.mapM (finiteDecimal · "distribution metric")
    let ordered := sortedValues normalized
    let median ← medianOf ordered
    let distribution ← MetricDistribution.construct ordered.length (ordered.getD 0 .zero) median
      (ordered.getLastD .zero)
    return some distribution

/-! ### Controls and assessments -/

inductive StabilityControlName
  | minCompletedFolds
  | minCompletionRatio
  | minTestNotWorseRatio
  | maxMedianDegradation
  | maxWorstDegradation
  | maxParameterTurnoverRatio
  deriving DecidableEq, Repr

structure StabilityControlResult where
  name : StabilityControlName
  passed : Bool
  deriving DecidableEq, Repr

def controlsFor (policy : StabilityAnalysisPolicy) (completedCount : ℕ)
    (completionRatio testNotWorseRatio parameterTurnoverRatio : ExactRatio)
    (degradationDistribution : Option MetricDistribution) : List StabilityControlResult :=
  [⟨.minCompletedFolds, decide (policy.minimumCompletedFolds ≤ completedCount)⟩,
    ⟨.minCompletionRatio, ratioAtLeast completionRatio policy.minimumCompletionRatio⟩,
    ⟨.minTestNotWorseRatio, decide (0 < completedCount) &&
      ratioAtLeast testNotWorseRatio policy.minimumTestNotWorseRatio⟩,
    ⟨.maxMedianDegradation, degradationDistribution.any fun d =>
      decide (d.median.value ≤ policy.maximumMedianDegradation.value)⟩,
    ⟨.maxWorstDegradation, degradationDistribution.any fun d =>
      decide (d.maximum.value ≤ policy.maximumWorstDegradation.value)⟩,
    ⟨.maxParameterTurnoverRatio,
      ratioAtMost parameterTurnoverRatio policy.maximumParameterTurnoverRatio⟩]

inductive OverfittingAssessment
  | noSignal
  | possibleOverfitting
  | insufficientData
  deriving DecidableEq, Repr

inductive ParameterStabilityAssessment
  | stable
  | unstable
  | insufficientData
  deriving DecidableEq, Repr

inductive StabilityAssessment
  | passed
  | failed
  | insufficientData
  deriving DecidableEq, Repr

/-- Whether the controls of some names have passed. -/
def passedAll (controls : List StabilityControlResult) (names : List StabilityControlName) : Bool :=
  names.all fun name => controls.any fun c => c.name == name && c.passed

def assessmentsFor (policy : StabilityAnalysisPolicy) (controls : List StabilityControlResult)
    (completedCount : ℕ) :
    OverfittingAssessment × ParameterStabilityAssessment × StabilityAssessment :=
  if completedCount < policy.minimumCompletedFolds then
    (.insufficientData, .insufficientData, .insufficientData)
  else
    (if passedAll controls [.minTestNotWorseRatio, .maxMedianDegradation, .maxWorstDegradation]
      then .noSignal else .possibleOverfitting,
    if passedAll controls [.minCompletionRatio, .maxParameterTurnoverRatio]
      then .stable else .unstable,
    if controls.all (·.passed) then .passed else .failed)

/-! ### Observations and the report -/

/-- A fold whose selection and holdout completed: its scores, and the digest of its parameters. -/
structure CompletedFold where
  validationScore : Decimal
  testScore : Decimal
  parameterSetId : ℕ
  deriving DecidableEq, Repr

/-- How a fold failed. -/
inductive FoldFailure
  | execution
  | noEligibleCandidate
  | selection
  | holdout
  deriving DecidableEq, Repr

/-- What a walk-forward execution has of a fold. -/
inductive FoldResult
  | completed (fold : CompletedFold)
  | failed (failure : FoldFailure)
  deriving DecidableEq, Repr

/-- The observation of a completed fold. -/
structure CompletedObservation where
  parameterSetId : ℕ
  validationScore : Decimal
  testScore : Decimal
  degradation : Decimal
  testNotWorse : Bool
  parameterChanged : Option Bool
  deriving DecidableEq, Repr

/-- The observation of a fold; a failed one has no metrics. -/
inductive StabilityFoldObservation
  | completed (observation : CompletedObservation)
  | failed (failure : FoldFailure)
  deriving DecidableEq, Repr

/-- `_completed_observation`. -/
def completedObservation (policy : StabilityAnalysisPolicy) (fold : CompletedFold)
    (previousParameterSetId : Option ℕ) : Except StabilityError CompletedObservation := do
  let degradation ← signedDegradation fold.validationScore fold.testScore policy.direction
  let notWorse ← testIsNotWorse fold.validationScore fold.testScore policy.direction
  return {
    parameterSetId := fold.parameterSetId
    validationScore := fold.validationScore
    testScore := fold.testScore
    degradation := degradation
    testNotWorse := notWorse
    parameterChanged := previousParameterSetId.map fun previous =>
      fold.parameterSetId != previous }

/-- The observations of the folds, after a completed one with some parameters. -/
def observationsOf (policy : StabilityAnalysisPolicy) :
    Option ℕ → List FoldResult → Except StabilityError (List StabilityFoldObservation)
  | _, [] => .ok []
  | previous, .failed failure :: folds => do
    let observations ← observationsOf policy previous folds
    return .failed failure :: observations
  | previous, .completed fold :: folds => do
    let observation ← completedObservation policy fold previous
    let observations ← observationsOf policy (some observation.parameterSetId) folds
    return .completed observation :: observations

/-- The completed ones. -/
def completedOf (observations : List StabilityFoldObservation) : List CompletedObservation :=
  observations.filterMap fun o =>
    match o with
    | .completed observation => some observation
    | .failed _ => none

/-- The report of an analysis; the identifiers and the checksums are left out. -/
structure StabilityReport where
  policy : StabilityAnalysisPolicy
  observations : List StabilityFoldObservation
  foldCount : ℕ
  completedCount : ℕ
  failedCount : ℕ
  completionRatio : ExactRatio
  testNotWorseCount : ℕ
  testNotWorseRatio : ExactRatio
  parameterTransitionCount : ℕ
  parameterSwitchCount : ℕ
  parameterTurnoverRatio : ExactRatio
  validationDistribution : Option MetricDistribution
  testDistribution : Option MetricDistribution
  degradationDistribution : Option MetricDistribution
  controls : List StabilityControlResult
  overfittingAssessment : OverfittingAssessment
  parameterStabilityAssessment : ParameterStabilityAssessment
  assessment : StabilityAssessment

/-- `n or 1`. -/
def orOne (n : ℕ) : ℕ := if n = 0 then 1 else n

/-- `_build_report`. -/
def buildReport (policy : StabilityAnalysisPolicy) (folds : List FoldResult) :
    Except StabilityError StabilityReport := do
  let observations ← observationsOf policy none folds
  let completed := completedOf observations
  let completedCount := completed.length
  let completionRatio ← ExactRatio.construct completedCount observations.length
  let testNotWorseCount := completed.countP (·.testNotWorse)
  let testNotWorseRatio ← ExactRatio.construct testNotWorseCount (orOne completedCount)
  let transitionCount := completedCount - 1
  let switchCount := completed.countP (·.parameterChanged == some true)
  let turnoverRatio ← ExactRatio.construct switchCount (orOne transitionCount)
  let validationDistribution ← distributionFor (completed.map (·.validationScore))
  let testDistribution ← distributionFor (completed.map (·.testScore))
  let degradationDistribution ← distributionFor (completed.map (·.degradation))
  let controls := controlsFor policy completedCount completionRatio testNotWorseRatio turnoverRatio
    degradationDistribution
  let assessments := assessmentsFor policy controls completedCount
  -- The constructor of the report checks the number of its observations.
  require (2 ≤ observations.length ∧ observations.length ≤ maximumStabilityFolds)
    ⟨.incompatibleStabilityReport, "stability observations are invalid"⟩
  return {
    policy := policy
    observations := observations
    foldCount := observations.length
    completedCount := completedCount
    failedCount := observations.length - completedCount
    completionRatio := completionRatio
    testNotWorseCount := testNotWorseCount
    testNotWorseRatio := testNotWorseRatio
    parameterTransitionCount := transitionCount
    parameterSwitchCount := switchCount
    parameterTurnoverRatio := turnoverRatio
    validationDistribution := validationDistribution
    testDistribution := testDistribution
    degradationDistribution := degradationDistribution
    controls := controls
    overfittingAssessment := assessments.1
    parameterStabilityAssessment := assessments.2.1
    assessment := assessments.2.2 }

end Optimization
end DryTrade
