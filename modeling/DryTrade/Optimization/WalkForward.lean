import DryTrade.Optimization.Experiments
import DryTrade.Optimization.Stability

/-!
# Walk-forward plans

A walk-forward evaluation rolls one window over a snapshot.  Each fold segments its window, plans an
experiment on the segments and moves on by the length of TEST, so that the TEST segments follow one
another.  As many complete folds are planned as fit; the candles left over are trailing.

The texts of canonical payloads stand as the data they are made of; their digests and their lengths
in bytes are parameters.

## Main definitions

* `WalkForwardWindowPolicy`, `WalkForwardPlan` — the window, and the planned folds.
* `validateWalkForwardPlan` — the checks of a plan.
* `preflight`, `createWalkForward` — `WalkForwardPlanningService.create`.
-/

namespace DryTrade
namespace Optimization

open MarketData Snapshots Backtesting

/-! ### Errors -/

/-- The exception classes of a walk-forward evaluation. -/
inductive WalkForwardErrorKind
  | invalidWalkForwardWindowPolicy
  | insufficientWalkForwardFolds
  | walkForwardLimitExceeded
  | incompatibleWalkForwardFold
  | incompatibleWalkForwardPlan
  | walkForwardChecksum
  | walkForwardIdentifier
  deriving DecidableEq, Repr

/-- One raised exception; `overflow` is an `OverflowError` of `datetime`, and `absent` the
`IndexError` of a list that is too short. -/
inductive WalkForwardError
  | walkForward (kind : WalkForwardErrorKind) (message : String)
  | temporal (error : TemporalError)
  | experiment (error : ExperimentError)
  | search (error : SearchError)
  | invalidDataRange
  | overflow
  | absent
  deriving DecidableEq, Repr

/-- `IncompatibleWalkForwardPlanError(message)`. -/
def planError (message : String) : WalkForwardError :=
  .walkForward .incompatibleWalkForwardPlan message

/-- `IncompatibleWalkForwardFoldError(message)`. -/
def foldError (message : String) : WalkForwardError :=
  .walkForward .incompatibleWalkForwardFold message

/-- `WalkForwardLimitExceededError(message)`. -/
def limitError (message : String) : WalkForwardError :=
  .walkForward .walkForwardLimitExceeded message

/-- `_exact_int`. -/
def checkedInt (n : ℤ) (label : String) (minimum maximum : ℤ) : Except WalkForwardError Unit :=
  require (minimum ≤ n ∧ n ≤ maximum) (WalkForwardError.walkForward .invalidWalkForwardWindowPolicy
    (label ++ " is outside its exact integer limit"))

/-! ### Policies -/

/-- `ABSOLUTE_MAX_FOLDS`. -/
def absoluteMaxFolds : ℕ := 1000

/-- `ABSOLUTE_MAX_TOTAL_SPECS`. -/
def absoluteMaxTotalSpecs : ℕ := 300000

/-- `MAX_WALK_FORWARD_MANIFEST_BYTES`. -/
def maxWalkForwardManifestBytes : ℕ := 16 * 1024 * 1024

/-- The rolling window; its kind and its schema version have one value each. -/
structure WalkForwardWindowPolicy where
  trainCandles : ℕ
  validationCandles : ℕ
  testCandles : ℕ
  warmupCandles : ℕ
  maxFolds : ℕ
  train_valid : 1 ≤ trainCandles ∧ trainCandles ≤ maxSegmentCandles
  validation_valid : 1 ≤ validationCandles ∧ validationCandles ≤ maxSegmentCandles
  test_valid : 1 ≤ testCandles ∧ testCandles ≤ maxSegmentCandles
  warmup_valid : warmupCandles ≤ maxWarmupCandles
  maxFolds_valid : 2 ≤ maxFolds ∧ maxFolds ≤ absoluteMaxFolds
  deriving DecidableEq

/-- The candles of one window. -/
def WalkForwardWindowPolicy.windowCandles (p : WalkForwardWindowPolicy) : ℕ :=
  p.trainCandles + p.validationCandles + p.testCandles

/-- The metrics a selection may compare. -/
inductive ComparisonMetric
  | totalReturn
  | cagr
  | sharpeRatio
  | sortinoRatio
  | maximumDrawdownPct
  | netProfit
  | profitFactor
  deriving DecidableEq, Repr

/-- How a candidate is selected; the kind and the tie break have one value each. -/
structure WalkForwardSelectionPolicy where
  metric : ComparisonMetric
  direction : SelectionDirection
  deriving DecidableEq

/-! ### Plans -/

/-- The payload of a fold. -/
structure FoldValues (Digest : Type) where
  foldIndex : ℕ
  selectedCoverage : TemporalCoverage
  temporalPlan : TemporalSegmentationPlan Digest
  experimentPlan : ExperimentPlan Digest

/-- One planned fold. -/
structure WalkForwardFoldPlan (Digest : Type) where
  foldIndex : ℕ
  selectedCoverage : TemporalCoverage
  temporalPlan : TemporalSegmentationPlan Digest
  experimentPlan : ExperimentPlan Digest
  checksum : Digest
  foldId : Digest

/-- The payload of a plan. -/
structure WalkForwardValues (Digest : Type) where
  snapshot : TemporalSnapshotReference Digest
  windowPolicy : WalkForwardWindowPolicy
  selectionPolicy : WalkForwardSelectionPolicy
  searchSpace : ParameterSearchSpace
  plugin : ExperimentPluginReference
  backtestConfiguration : ExperimentBacktestConfiguration Decimal
  folds : List (WalkForwardFoldPlan Digest)
  foldCount : ℤ
  combinationCount : ℕ
  specsPerFold : ℕ
  totalSpecs : ℤ
  trailingCandles : ℤ
  maxTotalSpecs : ℕ

/-- A plan, with its checksum and its identifier. -/
structure WalkForwardPlan (Digest : Type) where
  values : WalkForwardValues Digest
  checksum : Digest
  walkForwardPlanId : Digest

/-- The digests of the canonical payloads, and the lengths of two documents. -/
structure WalkForwardEncodings (Digest : Type) where
  foldChecksum : FoldValues Digest → Digest
  foldId : FoldValues Digest → Digest
  planChecksum : WalkForwardValues Digest → Digest
  planId : WalkForwardValues Digest → Digest
  searchBytes : ParameterSearchSpace → ℕ
  planBytes : WalkForwardValues Digest → ℕ

/-- What every digest of a plan is taken with. -/
structure PlanningDigests (Digest : Type) where
  sha256 : List Char → String
  identify : SnapshotIdentity Digest
  temporal : TemporalDigests Digest
  experiment : ExperimentDigests Digest
  encodings : WalkForwardEncodings Digest

section

variable {Digest : Type}

/-- The payload of a fold. -/
def WalkForwardFoldPlan.values (fold : WalkForwardFoldPlan Digest) : FoldValues Digest :=
  ⟨fold.foldIndex, fold.selectedCoverage, fold.temporalPlan, fold.experimentPlan⟩

/-- The segments of a fold, by their index. -/
def WalkForwardFoldPlan.segment (fold : WalkForwardFoldPlan Digest) (index : ℕ) :
    Option (TemporalSegment Digest) := fold.temporalPlan.segments[index]?

end

/-- How many folds fit into the candles that are usable. -/
def foldCountOf (policy : WalkForwardWindowPolicy) (usable : ℤ) : ℤ :=
  if usable < policy.windowCandles then 0
  else 1 + (usable - policy.windowCandles) / policy.testCandles

/-- How many candles are left over after some folds. -/
def trailingOf (policy : WalkForwardWindowPolicy) (usable foldCount : ℤ) : ℤ :=
  usable - (policy.windowCandles + (foldCount - 1) * policy.testCandles)

/-! ### Checks -/

section

variable {Digest : Type} [DecidableEq Digest] (digests : PlanningDigests Digest)

/-- `validate_walk_forward_fold_plan`. -/
def validateWalkForwardFoldPlan (fold : WalkForwardFoldPlan Digest) :
    Except WalkForwardError Unit := do
  checkedInt fold.foldIndex "fold index" 0 (absoluteMaxFolds - 1)
  (validateTemporalSegmentationPlan digests.identify digests.temporal fold.temporalPlan).mapError
    .temporal
  require (fold.temporalPlan.selectedCoverage = fold.selectedCoverage)
    (foldError "fold coverage diverges from temporal plan")
  (validateExperimentPlan digests.sha256 digests.identify digests.temporal digests.experiment
    fold.experimentPlan).mapError .experiment
  require (fold.experimentPlan.temporalPlan = fold.temporalPlan) (foldError "fold plans diverge")
  require (fold.checksum = digests.encodings.foldChecksum fold.values)
    (WalkForwardError.walkForward .walkForwardChecksum "fold checksum does not match its payload")
  require (fold.foldId = digests.encodings.foldId fold.values)
    (WalkForwardError.walkForward .walkForwardIdentifier "fold id does not match its payload")

/-- One fold of a plan, at its place; `firstStart` is where the first fold starts. -/
def validatePlanFold (plan : WalkForwardValues Digest) (duration : ℤ) (firstStart : Instant)
    (item : WalkForwardFoldPlan Digest × ℕ) : Except WalkForwardError Unit := do
  let (fold, index) := item
  let policy := plan.windowPolicy
  validateWalkForwardFoldPlan digests fold
  require (fold.foldIndex = index) (foldError "fold indexes are not contiguous")
  require (fold.temporalPlan.snapshot = plan.snapshot)
    (foldError "fold snapshot diverges from plan")
  require (fold.experimentPlan.searchSpace.compared = plan.searchSpace.compared)
    (foldError "fold search space diverges from plan")
  require (fold.experimentPlan.plugin = plan.plugin) (foldError "fold plugin diverges from plan")
  require (fold.experimentPlan.backtestConfiguration.numbers = plan.backtestConfiguration.numbers)
    (foldError "fold backtest configuration diverges")
  require (fold.temporalPlan.trainCandles = policy.trainCandles ∧
      fold.temporalPlan.validationCandles = policy.validationCandles ∧
      fold.temporalPlan.testCandles = policy.testCandles ∧
      fold.temporalPlan.warmupCandles = policy.warmupCandles)
    (foldError "fold temporal counts diverge from policy")
  let expectedStart ← orRaise (shifted firstStart (duration * (index * policy.testCandles : ℕ)))
    WalkForwardError.overflow
  let expectedStop ← orRaise (shifted expectedStart (duration * policy.windowCandles))
    WalkForwardError.overflow
  require (fold.selectedCoverage.start = expectedStart ∧ fold.selectedCoverage.stop = expectedStop ∧
      fold.selectedCoverage.candleCount = policy.windowCandles)
    (foldError "fold coverage diverges from rolling policy")
  let testSegment ← orRaise (fold.segment 2) WalkForwardError.absent
  let expectedTestStart ← orRaise (shifted expectedStart
    (duration * (policy.trainCandles + policy.validationCandles : ℕ))) WalkForwardError.overflow
  let expectedTestStop ← orRaise (shifted expectedTestStart (duration * policy.testCandles))
    WalkForwardError.overflow
  require (testSegment.start = expectedTestStart ∧ testSegment.stop = expectedTestStop)
    (foldError "fold TEST coverage diverges from policy")
  let previous := (plan.folds[index - 1]?).bind fun previous => previous.segment 2
  require (index = 0 ∨ previous.map TemporalSegment.stop = some testSegment.start)
    (foldError "fold TEST ranges are not contiguous")

/-- `validate_walk_forward_plan`. -/
def validateWalkForwardPlan (plan : WalkForwardPlan Digest) : Except WalkForwardError Unit := do
  let values := plan.values
  let policy := values.windowPolicy
  (validateTemporalSnapshotReference digests.identify values.snapshot).mapError .temporal
  let cardinality ← (validateSearchSpaceStructure values.searchSpace).mapError .search
  (validateExperimentPluginReference values.plugin).mapError .experiment
  (validateExperimentBacktestConfiguration values.backtestConfiguration).mapError .experiment
  require (2 ≤ values.folds.length) (planError "walk-forward requires at least two folds")
  require (values.folds.length ≤ policy.maxFolds)
    (limitError "fold count exceeds configured limit")
  let duration := values.snapshot.series.target.duration
  let available := values.snapshot.availableCoverage
  require ((available.stop - available.start) % duration = 0)
    (planError "snapshot coverage is not timeframe aligned")
  let total := (available.stop - available.start) / duration
  let usable := total - policy.warmupCandles
  let expectedFoldCount := foldCountOf policy usable
  let expectedTrailing :=
    if expectedFoldCount = 0 then usable else trailingOf policy usable expectedFoldCount
  let firstStart ← orRaise (shifted available.start (duration * policy.warmupCandles))
    WalkForwardError.overflow
  values.folds.zipIdx.forM (validatePlanFold digests values duration firstStart)
  require (values.foldCount = expectedFoldCount) (planError "fold count is inconsistent")
  require (values.combinationCount = cardinality) (planError "combination count is inconsistent")
  require (values.specsPerFold = values.combinationCount * 3)
    (planError "specs per fold is inconsistent")
  require (values.totalSpecs = values.folds.length * (values.combinationCount * 3 : ℕ))
    (planError "total specs is inconsistent")
  checkedInt values.trailingCandles "trailing candles" 0 10000000
  require (values.trailingCandles = expectedTrailing)
    (planError "trailing candle count is inconsistent")
  let last ← orRaise values.folds.getLast? WalkForwardError.absent
  let consumedEnd ← orRaise (shifted last.selectedCoverage.stop
    (duration * values.trailingCandles)) WalkForwardError.overflow
  require (consumedEnd = available.stop) (planError "final snapshot coverage is inconsistent")
  checkedInt values.maxTotalSpecs "maximum total specs" 1 absoluteMaxTotalSpecs
  require (values.totalSpecs ≤ values.maxTotalSpecs)
    (limitError "total spec count exceeds configured limit")
  require (plan.checksum = digests.encodings.planChecksum values)
    (WalkForwardError.walkForward .walkForwardChecksum "walk-forward plan checksum does not match")
  require (plan.walkForwardPlanId = digests.encodings.planId values)
    (WalkForwardError.walkForward .walkForwardIdentifier "walk-forward plan id does not match")

/-! ### The planner -/

/-- `maximum_walk_forward_plan_bytes`. -/
def maximumWalkForwardPlanBytes (searchBytes : ℕ) (foldCount totalSpecs : ℤ) : ℤ :=
  65536 + searchBytes + foldCount * (65536 + searchBytes) + totalSpecs * (16384 + searchBytes)

/-- `maximum_walk_forward_execution_bytes`. -/
def maximumWalkForwardExecutionBytes (searchBytes : ℕ) (foldCount combinationCount : ℤ) : ℤ :=
  65536 + foldCount * 131072 + foldCount * combinationCount * (4096 + 2 * searchBytes)

/-- `_slot_count`. -/
def slotCount (r : DataRange) (duration : ℤ) : Except WalkForwardError ℤ := do
  require ((r.stop - r.start) % duration = 0)
    (planError "snapshot coverage is not timeframe aligned")
  return (r.stop - r.start) / duration

/-- What the preflight computes. -/
structure Preflight where
  combinationCount : ℕ
  foldCount : ℤ
  trailingCandles : ℤ
  deriving DecidableEq, Repr

/-- The arguments of the planner besides the snapshot and its manifest. -/
structure WalkForwardRequest where
  searchSpace : ParameterSearchSpace
  experiment : ExperimentRequest
  windowPolicy : WalkForwardWindowPolicy
  selectionPolicy : WalkForwardSelectionPolicy
  maxTotalSpecs : ℕ

/-- The part of `create` before the first fold. -/
def preflight (snapshot : DatasetSnapshot Digest) (manifest : DatasetManifest Digest)
    (request : WalkForwardRequest) : Except WalkForwardError Preflight := do
  (validateSnapshotContract digests.identify snapshot manifest).mapError fun e =>
    planError e.message
  let combinationCount ← (validateSearchSpaceStructure request.searchSpace).mapError .search
  require (1 ≤ request.maxTotalSpecs ∧ request.maxTotalSpecs ≤ absoluteMaxTotalSpecs)
    (limitError "total spec limit is invalid")
  let policy := request.windowPolicy
  let total ← slotCount snapshot.dataRange manifest.series.target.duration
  let usable := total - policy.warmupCandles
  let foldCount := foldCountOf policy usable
  require (2 ≤ foldCount) (WalkForwardError.walkForward .insufficientWalkForwardFolds
    "O snapshot não comporta ao menos dois folds completos.")
  require (foldCount ≤ policy.maxFolds) (limitError "fold count exceeds the configured maximum")
  let totalSpecs := foldCount * (combinationCount * 3)
  require (totalSpecs ≤ request.maxTotalSpecs)
    (limitError "total spec count exceeds the configured maximum")
  let searchBytes := digests.encodings.searchBytes request.searchSpace
  require (maximumWalkForwardPlanBytes searchBytes foldCount totalSpecs ≤
        maxWalkForwardManifestBytes ∧
      maximumWalkForwardExecutionBytes searchBytes foldCount combinationCount ≤
        maxWalkForwardManifestBytes)
    (limitError "walk-forward plan would exceed its document byte limit")
  return ⟨combinationCount, foldCount, trailingOf policy usable foldCount⟩

/-- The range of a fold. -/
def foldRange (duration : ℤ) (firstStart : Instant) (policy : WalkForwardWindowPolicy)
    (foldIndex : ℕ) : Except WalkForwardError DataRange := do
  let start ← orRaise (shifted firstStart (duration * (foldIndex * policy.testCandles : ℕ)))
    WalkForwardError.overflow
  let stop ← orRaise (shifted start (duration * policy.windowCandles)) WalkForwardError.overflow
  if h : start < stop then return ⟨start, stop, h⟩ else .error .invalidDataRange

/-- One fold of the planner. -/
def createFold (service : ParameterSearchService) (snapshot : DatasetSnapshot Digest)
    (manifest : DatasetManifest Digest) (request : WalkForwardRequest) (specsPerFold : ℕ)
    (firstStart : Instant) (foldIndex : ℕ) :
    Except WalkForwardError (WalkForwardFoldPlan Digest) := do
  let policy := request.windowPolicy
  let selected ← foldRange manifest.series.target.duration firstStart policy foldIndex
  let temporalPlan ← (createSegmentation digests.identify digests.temporal snapshot manifest
    selected policy.trainCandles policy.validationCandles policy.testCandles
    policy.warmupCandles).mapError .temporal
  let experimentPlan ← (createExperiment digests.sha256 digests.identify digests.temporal
    digests.experiment service snapshot manifest temporalPlan request.searchSpace
    request.experiment specsPerFold).mapError .experiment
  let values : FoldValues Digest :=
    ⟨foldIndex, temporalPlan.selectedCoverage, temporalPlan, experimentPlan⟩
  let fold : WalkForwardFoldPlan Digest :=
    { foldIndex := foldIndex
      selectedCoverage := temporalPlan.selectedCoverage
      temporalPlan := temporalPlan
      experimentPlan := experimentPlan
      checksum := digests.encodings.foldChecksum values
      foldId := digests.encodings.foldId values }
  -- the constructor validates the fold
  validateWalkForwardFoldPlan digests fold
  return fold

/-- `WalkForwardPlanningService.create`. -/
def createWalkForward (service : ParameterSearchService) (snapshot : DatasetSnapshot Digest)
    (manifest : DatasetManifest Digest) (request : WalkForwardRequest) :
    Except WalkForwardError (WalkForwardPlan Digest) := do
  let p ← preflight digests snapshot manifest request
  let specsPerFold := p.combinationCount * 3
  let duration := manifest.series.target.duration
  let firstStart ← orRaise
    (shifted snapshot.dataRange.start (duration * request.windowPolicy.warmupCandles))
    WalkForwardError.overflow
  let folds ← (List.range p.foldCount.toNat).mapM
    (createFold digests service snapshot manifest request specsPerFold firstStart)
  let first ← orRaise folds.head? WalkForwardError.absent
  let values : WalkForwardValues Digest :=
    { snapshot := first.experimentPlan.snapshot
      windowPolicy := request.windowPolicy
      selectionPolicy := request.selectionPolicy
      searchSpace := request.searchSpace
      plugin := first.experimentPlan.plugin
      backtestConfiguration := request.experiment.configuration
      folds := folds
      foldCount := p.foldCount
      combinationCount := p.combinationCount
      specsPerFold := specsPerFold
      totalSpecs := p.foldCount * specsPerFold
      trailingCandles := p.trailingCandles
      maxTotalSpecs := request.maxTotalSpecs }
  require (digests.encodings.planBytes values ≤ maxWalkForwardManifestBytes)
    (limitError "walk-forward plan exceeds its document byte limit")
  let plan : WalkForwardPlan Digest :=
    ⟨values, digests.encodings.planChecksum values, digests.encodings.planId values⟩
  -- the constructor validates the plan
  validateWalkForwardPlan digests plan
  return plan

end

end Optimization
end DryTrade
