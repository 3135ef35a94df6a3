import DryTrade.Backtesting.ConfigRecords
import DryTrade.Optimization.ParameterSearch
import DryTrade.Optimization.Temporal

/-!
# Planned experiments

An experiment plans a run of every combination of a search space on every segment of a temporal
plan: all the segments of one combination, then those of the next one.  The run of a segment reads
its context and scores its evaluation; only that of VALIDATION may select a model, and that of TEST
is the final holdout.

The texts of canonical payloads stand as the data they are made of, and their digests are
parameters.  A check that is only repeated on what it has accepted is made once.

## Main definitions

* `ExperimentBacktestConfiguration`, `forSegment` — the configuration of the runs.
* `PlannedRunSpec`, `ExperimentPlan` — the planned runs.
* `validateExperimentPlan` — the checks of a plan.
* `ExperimentPlanningService.create` — the plan of a temporal plan and a search space.
-/

namespace DryTrade
namespace Optimization

open MarketData Snapshots Backtesting Strategies

/-! ### Errors -/

/-- The exception classes of an experiment. -/
inductive ExperimentErrorKind
  | incompatibleExperimentSnapshot
  | incompatibleExperimentTemporalPlan
  | incompatibleExperimentSearchSpace
  | incompatibleExperimentPlugin
  | invalidExperimentBacktestConfiguration
  | invalidExperimentCardinality
  | invalidRunSpecLimit
  | runSpecLimitExceeded
  | experimentRunOrder
  | experimentRunIndex
  | invalidExperimentRunPurpose
  | experimentHoldoutPolicy
  | duplicatePlannedRunSpec
  | incompatibleExperimentDocument
  | experimentChecksum
  | experimentIdentifier
  | plannedRunSpecChecksum
  | plannedRunSpecIdentifier
  deriving DecidableEq, Repr

/-- One raised exception, of the experiment, of its segments or of its combinations. -/
inductive ExperimentError
  | experiment (kind : ExperimentErrorKind) (message : String)
  | temporal (error : TemporalError)
  | search (error : SearchError)
  deriving DecidableEq, Repr

/-- `InvalidExperimentBacktestConfigurationError(message)`. -/
def configurationError (message : String) : ExperimentError :=
  .experiment .invalidExperimentBacktestConfiguration message

/-- The classes of `TemporalSegmentationError` whose code names the snapshot. -/
def TemporalErrorKind.namesSnapshot : TemporalErrorKind → Bool
  | .incompatibleTemporalSnapshot => true
  | _ => false

/-- `except ParameterSearchError as error: raise IncompatibleExperimentSearchSpaceError(...)`. -/
def ofSearch {α : Type} (x : Except SearchError α) : Except ExperimentError α :=
  x.mapError fun e =>
    match e with
    | .search _ message => .experiment .incompatibleExperimentSearchSpace message
    | .strategy error => .search (.strategy error)

/-! ### The configuration of the runs -/

/-- A registered plugin. -/
structure ExperimentPluginReference where
  name : String
  version : String
  schemaVersion : ℕ
  lifecycleVersion : ℕ
  deriving DecidableEq

/-- `validate_experiment_plugin_reference`. -/
def validateExperimentPluginReference (reference : ExperimentPluginReference) :
    Except ExperimentError Unit := do
  require (reference.name = strip reference.name ∧ reference.version = strip reference.version)
    (ExperimentError.experiment .incompatibleExperimentPlugin "plugin identity is not canonical")
  require (isFillToken reference.name = true ∧ isFillToken reference.version = true)
    (ExperimentError.experiment .incompatibleExperimentPlugin "plugin identity is invalid")
  require (1 ≤ reference.schemaVersion) (ExperimentError.experiment .incompatibleExperimentPlugin
    "plugin schema version must be a positive integer")
  require (1 ≤ reference.lifecycleVersion) (ExperimentError.experiment .incompatibleExperimentPlugin
    "plugin lifecycle version must be a positive integer")
  require (reference.lifecycleVersion = 1 ∨ reference.lifecycleVersion = 2)
    (ExperimentError.experiment .incompatibleExperimentPlugin
      "plugin lifecycle version is unsupported")

/-- What the configurations of all runs of an experiment have in common. -/
structure ExperimentBacktestConfiguration (D : Type) where
  initialCapital : D
  execution : ExecutionRecord D
  constraints : ConstraintsRecord D
  riskLimits : RiskRecord D
  historyWindow : ℤ
  maxCandles : ℤ
  maxOrders : ℤ
  maxEvents : ℤ
  engineVersion : String
  schemaVersion : ℤ
  deriving DecidableEq

/-- The configuration with its decimals as numbers, which is what `==` compares. -/
def ExperimentBacktestConfiguration.numbers (c : ExperimentBacktestConfiguration Decimal) :
    ExperimentBacktestConfiguration ℚ where
  initialCapital := c.initialCapital.value
  execution := c.execution.map Decimal.value
  constraints := c.constraints.map Decimal.value
  riskLimits := c.riskLimits.map Decimal.value
  historyWindow := c.historyWindow
  maxCandles := c.maxCandles
  maxOrders := c.maxOrders
  maxEvents := c.maxEvents
  engineVersion := c.engineVersion
  schemaVersion := c.schemaVersion

/-- `_canonical_decimal`; `accepts` says which numbers are refused, with their message. -/
def canonicalDecimal (d : Decimal) (label : String) (accepts : List ((ℚ → Bool) × String)) :
    Except ExperimentError Unit := do
  let _ ← (searchDecimalText d).mapError fun e =>
    match e with
    | .search _ message => configurationError message
    | .strategy error => .search (.strategy error)
  accepts.forM fun check => require (check.1 d.value = true) (configurationError (label ++ check.2))

/-- `positive=True`. -/
def isPositive : List ((ℚ → Bool) × String) := [(fun v => decide (0 < v), " must be positive")]

/-- `nonnegative=True`. -/
def isNonnegative : List ((ℚ → Bool) × String) :=
  [(fun v => decide (0 ≤ v), " must be nonnegative")]

/-- `maximum=maximum`. -/
def isAtMost (maximum : ℚ) : List ((ℚ → Bool) × String) :=
  [(fun v => decide (v ≤ maximum), " exceeds its maximum")]

/-- A canonical decimal, if there is one. -/
def optionalCanonicalDecimal (d : Option Decimal) (label : String)
    (accepts : List ((ℚ → Bool) × String)) : Except ExperimentError Unit :=
  match d with
  | none => .ok ()
  | some d => canonicalDecimal d label accepts

/-- `_positive_integer`. -/
def positiveInteger (n : ℤ) (label : String) : Except ExperimentError Unit :=
  require (1 ≤ n) (configurationError (label ++ " must be a positive integer"))

/-- `except ValueError as error: raise InvalidExperimentBacktestConfigurationError(str(error))`. -/
def ofValueError (x : Except Failure Unit) : Except ExperimentError Unit :=
  x.mapError fun e => configurationError e.message

/-- The configuration of one run: its context, and the range it scores. -/
def ExperimentBacktestConfiguration.config (c : ExperimentBacktestConfiguration Decimal)
    (snapshotId : String) (strategy : StrategyRecord Decimal) (dataRange : DataRange)
    (evaluation : Option EvaluationRecord) : ConfigRecord Decimal where
  snapshotId := snapshotId
  dataRange := dataRange
  strategy := strategy
  initialCapital := c.initialCapital
  execution := c.execution
  constraints := c.constraints
  riskLimits := c.riskLimits
  historyWindow := c.historyWindow
  maxCandles := c.maxCandles
  maxOrders := c.maxOrders
  maxEvents := c.maxEvents
  engineVersion := c.engineVersion
  schemaVersion := c.schemaVersion
  evaluation := evaluation
  marketRegimePolicy := none

theorem validationRange_lt : (946684800000000 : ℤ) < 946684801000000 := by decide

/-- `_validation_range`: the first second of the year 2000. -/
def validationRange : DataRange := ⟨946684800000000, 946684801000000, validationRange_lt⟩

/-- The checks on the execution assumptions. -/
def validateExecutionAssumptions (e : ExecutionRecord Decimal) : Except ExperimentError Unit := do
  match e.positionSizing with
  | none => pure ()
  | some sizing =>
    ofValueError (sizing.map Decimal.value).validate
    require (sizing.kind ≠ .explicitQuantity)
      (configurationError "position-sized execution requires a non-default policy")
  canonicalDecimal e.makerFeeBps "maker fee" (isNonnegative ++ isAtMost 1000)
  canonicalDecimal e.takerFeeBps "taker fee" (isNonnegative ++ isAtMost 1000)
  canonicalDecimal e.fixedBps "fixed slippage" (isNonnegative ++ isAtMost 1000)

/-- The checks on the instrument constraints. -/
def validateInstrumentConstraints (c : ConstraintsRecord Decimal) :
    Except ExperimentError Unit := do
  canonicalDecimal c.minimumQuantity "minimum quantity" isPositive
  canonicalDecimal c.quantityStep "quantity step" isPositive
  canonicalDecimal c.priceTick "price tick" isPositive
  canonicalDecimal c.minimumNotional "minimum notional" isNonnegative
  match c.maximumNotional with
  | none => pure ()
  | some maximum =>
    canonicalDecimal maximum "maximum notional" isPositive
    require (c.minimumNotional.value ≤ maximum.value)
      (configurationError "maximum notional is below minimum notional")

/-- The checks on the risk limits. -/
def validateRiskLimits (r : RiskRecord Decimal) : Except ExperimentError Unit := do
  match r.stopLoss with
  | none => pure ()
  | some stop =>
    ofValueError (stop.map Decimal.value).validate
    require (stop.kind ≠ .disabled)
      (configurationError "stop-loss risk limits require a non-default policy")
  optionalCanonicalDecimal r.maxOrderNotional "maximum order notional" isPositive
  optionalCanonicalDecimal r.maxPositionNotional "maximum position notional" isPositive
  optionalCanonicalDecimal r.maxDrawdownPct "maximum drawdown percentage"
    (isNonnegative ++ isAtMost 100)
  canonicalDecimal r.minimumQuoteReserve "minimum quote reserve" isNonnegative
  positiveInteger r.maxOpenOrders "maximum open orders"
  positiveInteger r.maxTotalOrders "maximum total orders"
  require (r.maxOpenOrders ≤ r.maxTotalOrders)
    (configurationError "maximum open orders exceeds maximum total orders")

/-- `validate_experiment_backtest_configuration`. -/
def validateExperimentBacktestConfiguration (c : ExperimentBacktestConfiguration Decimal) :
    Except ExperimentError Unit := do
  require (c.engineVersion = strip c.engineVersion)
    (configurationError "engine version must be a canonical safe token")
  require (c.schemaVersion = 1 ∨ c.schemaVersion = 2)
    (configurationError "backtest schema version is unsupported")
  canonicalDecimal c.initialCapital "initial capital" isPositive
  validateExecutionAssumptions c.execution
  validateInstrumentConstraints c.constraints
  validateRiskLimits c.riskLimits
  positiveInteger c.historyWindow "history window"
  positiveInteger c.maxCandles "maximum candles"
  positiveInteger c.maxOrders "maximum orders"
  positiveInteger c.maxEvents "maximum events"
  require (c.historyWindow ≤ c.maxCandles)
    (configurationError "history window exceeds maximum candles")
  require (c.maxOrders ≤ c.riskLimits.maxTotalOrders)
    (configurationError "backtest order limit exceeds the risk order limit")
  ofValueError ((c.config (String.ofList (List.replicate 64 '0')) ⟨"experiment-validation", "1", []⟩
    validationRange none).map Decimal.value).validate

/-! ### Planned runs -/

/-- Semantic use of one planned run. -/
inductive ExperimentRunPurpose
  | training
  | modelSelection
  | finalHoldout
  deriving DecidableEq, Repr

/-- `PURPOSE_BY_TEMPORAL_ROLE`. -/
def purposeByTemporalRole : TemporalSegmentRole → ExperimentRunPurpose
  | .train => .training
  | .validation => .modelSelection
  | .test => .finalHoldout

/-- What a planned run says of itself: the references of its payload. -/
structure RunSpecValues (Digest : Type) where
  globalIndex : ℕ
  combination : ℕ × String × String
  segment : ℕ × Digest × Digest
  purpose : ExperimentRunPurpose
  eligible : Bool
  deriving DecidableEq

/-- One planned run. -/
structure PlannedRunSpec (Digest : Type) where
  experimentId : Digest
  globalIndex : ℕ
  combination : ParameterCombination
  segment : TemporalSegment Digest
  snapshot : TemporalSnapshotReference Digest
  plugin : ExperimentPluginReference
  backtestConfig : ConfigRecord Decimal
  purpose : ExperimentRunPurpose
  eligibleForModelSelection : Bool
  checksum : Digest
  runSpecId : Digest

/-- What an experiment says, with what its runs are identified by. -/
structure ExperimentValues (Digest Spec : Type) where
  snapshot : TemporalSnapshotReference Digest
  temporalPlan : TemporalSegmentationPlan Digest
  searchSpace : ParameterSearchSpace
  combinations : List ParameterCombination
  plugin : ExperimentPluginReference
  backtestConfiguration : ExperimentBacktestConfiguration Decimal
  cardinality : ℕ
  maxRunSpecs : ℕ
  specs : List Spec

/-- The digests of the canonical payloads. -/
structure ExperimentDigests (Digest : Type) where
  runSpecChecksum : RunSpecValues Digest → Digest
  runSpecId : Digest → Digest → RunSpecValues Digest → Digest
  experimentId : ExperimentValues Digest (RunSpecValues Digest × Digest) → Digest
  experimentChecksum : ExperimentValues Digest (RunSpecValues Digest × Digest × Digest) → Digest

/-- The complete manifest of an experiment. -/
structure ExperimentPlan (Digest : Type) where
  snapshot : TemporalSnapshotReference Digest
  temporalPlan : TemporalSegmentationPlan Digest
  searchSpace : ParameterSearchSpace
  combinations : List ParameterCombination
  plugin : ExperimentPluginReference
  backtestConfiguration : ExperimentBacktestConfiguration Decimal
  runSpecs : List (PlannedRunSpec Digest)
  cardinality : ℕ
  maxRunSpecs : ℕ
  checksum : Digest
  experimentId : Digest

/-- `ABSOLUTE_MAX_RUN_SPECS`. -/
def absoluteMaxRunSpecs : ℕ := 30000

/-- `validate_run_spec_limit`. -/
def validateRunSpecLimit (maximum : ℕ) : Except ExperimentError Unit := do
  require (1 ≤ maximum) (ExperimentError.experiment .invalidRunSpecLimit
    "maximum planned runs must be a positive integer")
  require (maximum ≤ absoluteMaxRunSpecs) (ExperimentError.experiment .invalidRunSpecLimit
    "maximum planned runs exceeds absolute limit 30000")

/-- `calculate_run_spec_cardinality`. -/
def calculateRunSpecCardinality (combinations maximum : ℕ) : Except ExperimentError ℕ := do
  validateRunSpecLimit maximum
  require (1 ≤ combinations) (ExperimentError.experiment .invalidExperimentCardinality
    "parameter combination count must be a positive integer")
  require (combinations ≤ absoluteMaxCombinations)
    (ExperimentError.experiment .invalidExperimentCardinality
      "parameter combination count exceeds the Phase 4-01 absolute limit")
  require (combinations ≤ maximum / 3) (ExperimentError.experiment .runSpecLimitExceeded
    ("planned run cardinality exceeds requested limit " ++
      String.ofList (Decimal.digits maximum)))
  return combinations * 3

/-- The strategy of a combination. -/
def strategyOf (plugin : ExperimentPluginReference) (combination : ParameterCombination) :
    StrategyRecord Decimal := ⟨plugin.name, plugin.version, combination.parameters⟩

/-- What `==` compares of parameters. -/
def comparedParameters (parameters : StrategyParameters) : List (String × ParameterValue ℚ) :=
  parameters.map fun q => (q.1, comparedValue q.2)

/-- `a == b`, of combinations. -/
def sameCombination (a b : ParameterCombination) : Prop :=
  a.index = b.index ∧ comparedParameters a.parameters = comparedParameters b.parameters ∧
    a.parameterDocument.map (fun q => (q.name, q.kind, q.value)) =
      b.parameterDocument.map (fun q => (q.name, q.kind, q.value)) ∧
    a.parametersChecksum = b.parametersChecksum ∧ a.combinationId = b.combinationId

instance (a b : ParameterCombination) : Decidable (sameCombination a b) :=
  inferInstanceAs (Decidable (_ ∧ _ ∧ _ ∧ _ ∧ _))

/-- What `==` compares of a space. -/
structure ComparedSpace where
  plugin : String × String × ℕ × ℕ
  fixedParameters : List (String × StrategyParameterKind × ParameterValue ℚ)
  searchParameters : List (String × StrategyParameterKind × List (ParameterValue ℚ))
  counts : ℕ × ℕ
  checksum : String
  searchSpaceId : String
  deriving DecidableEq

/-- What `==` compares of a space. -/
def ParameterSearchSpace.compared (space : ParameterSearchSpace) : ComparedSpace where
  plugin := (space.pluginName, space.pluginVersion, space.pluginSchemaVersion,
    space.pluginLifecycleVersion)
  fixedParameters := space.fixedParameters.map fun p => (p.name, p.kind, comparedValue p.value)
  searchParameters :=
    space.searchParameters.map fun p => (p.name, p.kind, p.values.map comparedValue)
  counts := (space.cardinality, space.maxCombinations)
  checksum := space.checksum
  searchSpaceId := space.searchSpaceId

/-- What `==` compares of the configuration of a run. -/
def comparedConfig (c : ConfigRecord Decimal) :
    ConfigRecord ℚ × List (String × ParameterValue ℚ) :=
  ({ c.map Decimal.value with strategy := ⟨c.strategy.name, c.strategy.version, []⟩ },
    comparedParameters c.strategy.parameters)

section

variable {Digest : Type}

/-- `context_range`. -/
def contextRange (s : TemporalSegment Digest) : Option DataRange :=
  if h : s.values.contextStart < s.stop then some ⟨s.values.contextStart, s.stop, h⟩ else none

/-- `ExperimentBacktestConfiguration.for_segment`. -/
def forSegment (c : ExperimentBacktestConfiguration Decimal) (snapshotId : String)
    (strategy : StrategyRecord Decimal) (s : TemporalSegment Digest) (lifecycle : ℕ) :
    Except ExperimentError (ConfigRecord Decimal) := do
  require (lifecycle = 1 ∨ lifecycle = 2)
    (configurationError "strategy lifecycle version is unsupported")
  require (s.values.warmupCandles = 0 ∨ lifecycle = 2)
    (configurationError "positive warmup requires strategy lifecycle version 2")
  require (((s.candleCount + s.values.warmupCandles : ℕ) : ℤ) ≤ c.maxCandles)
    (configurationError "segment context exceeds the configured backtest candle limit")
  require ((s.values.warmupCandles : ℤ) ≤ c.historyWindow)
    (configurationError "history window is smaller than the required temporal warmup")
  let context ← orRaise (contextRange s)
    (configurationError "O intervalo de dados de mercado é inválido.")
  let config := c.config snapshotId strategy context
    (some ⟨s.values.evaluation.dataRange, lifecycle⟩)
  ofValueError (config.map Decimal.value).validate
  return config

/-- The payload of a planned run. -/
def runSpecValues (globalIndex : ℕ) (combination : ParameterCombination)
    (s : TemporalSegment Digest) (purpose : ExperimentRunPurpose) (eligible : Bool) :
    RunSpecValues Digest :=
  ⟨globalIndex, (combination.index, combination.combinationId, combination.parametersChecksum),
    (s.values.index, s.segmentId, s.checksum), purpose, eligible⟩

/-- The payload of a planned run. -/
def PlannedRunSpec.values (spec : PlannedRunSpec Digest) : RunSpecValues Digest :=
  runSpecValues spec.globalIndex spec.combination spec.segment spec.purpose
    spec.eligibleForModelSelection

end

/-! ### Checks -/

section

variable {Digest : Type} [DecidableEq Digest] (sha256 : List Char → String)
  (identify : SnapshotIdentity Digest) (temporalDigests : TemporalDigests Digest)
  (digests : ExperimentDigests Digest)

/-- `validate_planned_run_spec`. -/
def validatePlannedRunSpec (spec : PlannedRunSpec Digest) : Except ExperimentError Unit := do
  ofSearch (validateParameterCombinationStructure sha256 spec.combination)
  (validateTemporalSegment temporalDigests spec.segment).mapError .temporal
  (validateTemporalSnapshotReference identify spec.snapshot).mapError .temporal
  validateExperimentPluginReference spec.plugin
  require (spec.purpose = purposeByTemporalRole spec.segment.values.role)
    (ExperimentError.experiment .invalidExperimentRunPurpose
      "run purpose diverges from its temporal segment role")
  require (spec.eligibleForModelSelection = decide (spec.segment.values.role = .validation))
    (ExperimentError.experiment .experimentHoldoutPolicy
      "only VALIDATION may be eligible for future model selection")
  require (¬(spec.segment.values.role = .test ∧ spec.eligibleForModelSelection = true))
    (ExperimentError.experiment .experimentHoldoutPolicy "TEST must remain the final holdout")
  require (sameDescriptor spec.backtestConfig.strategy (strategyOf spec.plugin spec.combination) =
    true) (ExperimentError.experiment .incompatibleExperimentPlugin
      "backtest strategy diverges from the planned combination")
  require (spec.backtestConfig.snapshotId = spec.snapshot.snapshotId)
    (ExperimentError.experiment .incompatibleExperimentSnapshot
      "backtest config is bound to another snapshot")
  require (some spec.backtestConfig.dataRange = contextRange spec.segment)
    (configurationError "backtest config range must equal the segment context range")
  require (spec.backtestConfig.evaluation.map (·.range) =
    some spec.segment.values.evaluation.dataRange)
    (configurationError "planned backtest evaluation range must equal the segment evaluation")
  let lifecycle : ℤ := (spec.backtestConfig.evaluation.map (·.strategyLifecycleVersion)).getD 1
  require (spec.segment.values.warmupCandles = 0 ∨
      spec.plugin.lifecycleVersion = 2 ∧ lifecycle = 2)
    (ExperimentError.experiment .incompatibleExperimentPlugin
      "positive warmup requires strategy lifecycle version 2")
  require (lifecycle = (spec.plugin.lifecycleVersion : ℤ))
    (ExperimentError.experiment .incompatibleExperimentPlugin
      "backtest lifecycle diverges from the planned plugin")
  require (spec.checksum = digests.runSpecChecksum spec.values)
    (ExperimentError.experiment .plannedRunSpecChecksum
      "O checksum da especificação planejada não confere.")
  require (spec.runSpecId = digests.runSpecId spec.experimentId spec.checksum spec.values)
    (ExperimentError.experiment .plannedRunSpecIdentifier
      "O identificador da especificação planejada não confere.")

/-- The payload of the identifier of an experiment. -/
def ExperimentPlan.identityValues (plan : ExperimentPlan Digest) :
    ExperimentValues Digest (RunSpecValues Digest × Digest) :=
  ⟨plan.snapshot, plan.temporalPlan, plan.searchSpace, plan.combinations, plan.plugin,
    plan.backtestConfiguration, plan.cardinality, plan.maxRunSpecs,
    plan.runSpecs.map fun s => (s.values, s.checksum)⟩

/-- The payload of the checksum of an experiment. -/
def ExperimentPlan.values (plan : ExperimentPlan Digest) :
    ExperimentValues Digest (RunSpecValues Digest × Digest × Digest) :=
  ⟨plan.snapshot, plan.temporalPlan, plan.searchSpace, plan.combinations, plan.plugin,
    plan.backtestConfiguration, plan.cardinality, plan.maxRunSpecs,
    plan.runSpecs.map fun s => (s.values, s.checksum, s.runSpecId)⟩

/-- One planned run of an experiment, at its place; `seen` are the pairs of indexes and the
identifiers of the runs before it. -/
def validatePlanRunSpec (plan : ExperimentPlan Digest) (seen : List ((ℕ × ℕ) × Digest))
    (item : PlannedRunSpec Digest × ℕ) : Except ExperimentError (List ((ℕ × ℕ) × Digest)) := do
  let (spec, globalIndex) := item
  require (spec.globalIndex = globalIndex) (ExperimentError.experiment .experimentRunIndex
    "global run indexes are not contiguous")
  validatePlannedRunSpec sha256 identify temporalDigests digests spec
  require (spec.experimentId = plan.experimentId)
    (ExperimentError.experiment .experimentIdentifier "planned run belongs to another experiment")
  let combination ← orRaise plan.combinations[globalIndex / 3]?
    (ExperimentError.experiment .experimentRunOrder "planned combination order is invalid")
  require (sameCombination spec.combination combination)
    (ExperimentError.experiment .experimentRunOrder "planned combination order is invalid")
  require (plan.temporalPlan.segments[globalIndex % 3]? = some spec.segment)
    (ExperimentError.experiment .experimentRunOrder "planned segment order is invalid")
  require (spec.snapshot = plan.snapshot ∧ spec.plugin = plan.plugin)
    (ExperimentError.experiment .incompatibleExperimentDocument
      "planned run references diverge from the experiment")
  let expected ← forSegment plan.backtestConfiguration plan.snapshot.snapshotId
    (strategyOf plan.plugin spec.combination) spec.segment plan.plugin.lifecycleVersion
  require (comparedConfig spec.backtestConfig = comparedConfig expected)
    (configurationError "planned run config diverges from experiment configuration")
  let pair := (spec.combination.index, spec.segment.values.index)
  require (pair ∉ seen.map Prod.fst ∧ spec.runSpecId ∉ seen.map Prod.snd)
    (ExperimentError.experiment .duplicatePlannedRunSpec
      "O experimento contém uma especificação planejada duplicada.")
  return (pair, spec.runSpecId) :: seen

/-- `validate_experiment_plan`. -/
def validateExperimentPlan (plan : ExperimentPlan Digest) : Except ExperimentError Unit := do
  (validateTemporalSegmentationPlan identify temporalDigests plan.temporalPlan).mapError .temporal
  let _ ← ofSearch (validateSearchSpaceStructure plan.searchSpace)
  (validateTemporalSnapshotReference identify plan.snapshot).mapError .temporal
  require (plan.snapshot = plan.temporalPlan.snapshot)
    (ExperimentError.experiment .incompatibleExperimentSnapshot
      "experiment snapshot diverges from temporal plan")
  validateExperimentPluginReference plan.plugin
  require ((∀ s ∈ plan.temporalPlan.segments, s.values.warmupCandles = 0) ∨
      plan.plugin.lifecycleVersion = 2)
    (ExperimentError.experiment .incompatibleExperimentPlugin
      "positive warmup requires strategy lifecycle version 2")
  require (plan.plugin = ⟨plan.searchSpace.pluginName, plan.searchSpace.pluginVersion,
      plan.searchSpace.pluginSchemaVersion, plan.searchSpace.pluginLifecycleVersion⟩)
    (ExperimentError.experiment .incompatibleExperimentPlugin
      "experiment plugin diverges from parameter search space")
  validateExperimentBacktestConfiguration plan.backtestConfiguration
  let cardinality ← calculateRunSpecCardinality plan.searchSpace.cardinality plan.maxRunSpecs
  require (plan.cardinality = cardinality)
    (ExperimentError.experiment .invalidExperimentCardinality
      "experiment cardinality diverges from combinations times three")
  require (plan.combinations.length = plan.searchSpace.cardinality)
    (ExperimentError.experiment .incompatibleExperimentSearchSpace
      "combination count diverges from search cardinality")
  plan.combinations.zipIdx.forM fun item => do
    ofSearch (validateParameterCombination sha256 item.1 plan.searchSpace)
    require (item.1.index = item.2) (ExperimentError.experiment .experimentRunOrder
      "combination indexes are not contiguous")
  require (plan.runSpecs.length = plan.cardinality)
    (ExperimentError.experiment .invalidExperimentCardinality
      "planned run count diverges from experiment cardinality")
  let _ ← plan.runSpecs.zipIdx.foldlM
    (validatePlanRunSpec sha256 identify temporalDigests digests plan) []
  require (plan.experimentId = digests.experimentId plan.identityValues)
    (ExperimentError.experiment .experimentIdentifier
      "O identificador do experimento não confere.")
  require (plan.checksum = digests.experimentChecksum plan.values)
    (ExperimentError.experiment .experimentChecksum "O checksum do experimento não confere.")

/-! ### The service -/

/-- What `create` is called with besides the snapshot and the plans. -/
structure ExperimentRequest where
  pluginName : String
  pluginVersion : String
  configuration : ExperimentBacktestConfiguration Decimal

/-- `_validate_snapshot_and_temporal`. -/
def validateSnapshotAndTemporal (snapshot : DatasetSnapshot Digest)
    (manifest : DatasetManifest Digest) (plan : TemporalSegmentationPlan Digest) :
    Except ExperimentError Unit :=
  (validateForSnapshot identify temporalDigests plan snapshot manifest).mapError fun e =>
    .experiment (if e.kind.namesSnapshot then .incompatibleExperimentSnapshot
      else .incompatibleExperimentTemporalPlan) e.message

/-- `_compatible_plugin`. -/
def compatiblePlugin (service : ParameterSearchService) (space : ParameterSearchSpace)
    (request : ExperimentRequest) : Except ExperimentError StrategyPluginDescriptor := do
  let _ ← ofSearch (validateSearchSpaceStructure space)
  require (request.pluginName = space.pluginName ∧ request.pluginVersion = space.pluginVersion)
    (ExperimentError.experiment .incompatibleExperimentPlugin
      "selected plugin diverges from parameter search space")
  let plugin ← (service.registry.resolve request.pluginName request.pluginVersion).mapError
    fun _ => ExperimentError.experiment .incompatibleExperimentPlugin
      "selected strategy plugin is not registered"
  require (plugin.descriptor.schemaVersion = space.pluginSchemaVersion ∧
      plugin.descriptor.lifecycleVersion = space.pluginLifecycleVersion)
    (ExperimentError.experiment .incompatibleExperimentPlugin
      "registered plugin descriptor versions diverge from search space")
  return plugin.descriptor

/-- `_expand`. -/
def expandSpace (service : ParameterSearchService) (space : ParameterSearchSpace) :
    Except ExperimentError (List ParameterCombination) :=
  (service.expand sha256 space).mapError fun e =>
    match e with
    | .search .invalidSearchCombination message =>
      .search (.search .invalidSearchCombination message)
    | .search _ message => .experiment .incompatibleExperimentSearchSpace message
    | .strategy error => .search (.strategy error)

/-- A planned run before the experiment has an identifier. -/
structure PendingRunSpec (Digest : Type) where
  globalIndex : ℕ
  combination : ParameterCombination
  segment : TemporalSegment Digest
  backtestConfig : ConfigRecord Decimal
  purpose : ExperimentRunPurpose
  eligibleForModelSelection : Bool
  checksum : Digest

/-- `_pending_payload`. -/
def PendingRunSpec.values (item : PendingRunSpec Digest) : RunSpecValues Digest :=
  runSpecValues item.globalIndex item.combination item.segment item.purpose
    item.eligibleForModelSelection

/-- One pending run: that of a combination on a segment. -/
def pendingSpec (snapshotId : String) (plugin : ExperimentPluginReference)
    (configuration : ExperimentBacktestConfiguration Decimal)
    (item : (ParameterCombination × TemporalSegment Digest) × ℕ) :
    Except ExperimentError (PendingRunSpec Digest) := do
  let ((combination, segment), globalIndex) := item
  let purpose := purposeByTemporalRole segment.values.role
  let eligible := decide (purpose = .modelSelection)
  let config ← forSegment configuration snapshotId (strategyOf plugin combination) segment
    plugin.lifecycleVersion
  return ⟨globalIndex, combination, segment, config, purpose, eligible,
    digests.runSpecChecksum (runSpecValues globalIndex combination segment purpose eligible)⟩

/-- `_pending_specs`: every combination with every segment, the segments varying first. -/
def pendingSpecs (combinations : List ParameterCombination)
    (temporalPlan : TemporalSegmentationPlan Digest) (plugin : ExperimentPluginReference)
    (configuration : ExperimentBacktestConfiguration Decimal) :
    Except ExperimentError (List (PendingRunSpec Digest)) :=
  (combinations.flatMap fun c => temporalPlan.segments.map fun s => (c, s)).zipIdx.mapM
    (pendingSpec digests temporalPlan.snapshot.snapshotId plugin configuration)

/-- A pending run of an experiment with an identifier. -/
def PendingRunSpec.planned (experimentId : Digest) (snapshot : TemporalSnapshotReference Digest)
    (plugin : ExperimentPluginReference) (item : PendingRunSpec Digest) :
    PlannedRunSpec Digest where
  experimentId := experimentId
  globalIndex := item.globalIndex
  combination := item.combination
  segment := item.segment
  snapshot := snapshot
  plugin := plugin
  backtestConfig := item.backtestConfig
  purpose := item.purpose
  eligibleForModelSelection := item.eligibleForModelSelection
  checksum := item.checksum
  runSpecId := digests.runSpecId experimentId item.checksum item.values

/-- `ExperimentPlanningService.create`. -/
def createExperiment (service : ParameterSearchService) (snapshot : DatasetSnapshot Digest)
    (manifest : DatasetManifest Digest) (temporalPlan : TemporalSegmentationPlan Digest)
    (space : ParameterSearchSpace) (request : ExperimentRequest) (maxRunSpecs : ℕ) :
    Except ExperimentError (ExperimentPlan Digest) := do
  validateSnapshotAndTemporal identify temporalDigests snapshot manifest temporalPlan
  let descriptor ← compatiblePlugin service space request
  require ((∀ s ∈ temporalPlan.segments, s.values.warmupCandles = 0) ∨
      descriptor.lifecycleVersion = 2)
    (ExperimentError.experiment .incompatibleExperimentPlugin
      "positive warmup requires strategy lifecycle version 2")
  let cardinality ← calculateRunSpecCardinality space.cardinality maxRunSpecs
  validateExperimentBacktestConfiguration request.configuration
  let combinations ← expandSpace sha256 service space
  let plugin : ExperimentPluginReference :=
    ⟨descriptor.name, descriptor.version, descriptor.schemaVersion, descriptor.lifecycleVersion⟩
  let pending ← pendingSpecs digests combinations temporalPlan plugin request.configuration
  let values : ExperimentValues Digest (RunSpecValues Digest × Digest) :=
    ⟨temporalPlan.snapshot, temporalPlan, space, combinations, plugin, request.configuration,
      cardinality, maxRunSpecs, pending.map fun item => (item.values, item.checksum)⟩
  let experimentId := digests.experimentId values
  let runSpecs := pending.map (PendingRunSpec.planned digests experimentId temporalPlan.snapshot
    plugin)
  let plan : ExperimentPlan Digest :=
    { snapshot := temporalPlan.snapshot
      temporalPlan := temporalPlan
      searchSpace := space
      combinations := combinations
      plugin := plugin
      backtestConfiguration := request.configuration
      runSpecs := runSpecs
      cardinality := cardinality
      maxRunSpecs := maxRunSpecs
      checksum := digests.experimentChecksum
        { values with specs := runSpecs.map fun s => (s.values, s.checksum, s.runSpecId) }
      experimentId := experimentId }
  -- the constructors validate the planned runs and then the plan
  runSpecs.forM (validatePlannedRunSpec sha256 identify temporalDigests digests)
  validateExperimentPlan sha256 identify temporalDigests digests plan
  return plan

end

end Optimization
end DryTrade
