import Mathlib.Data.String.Basic
import DryTrade.Backtesting.Decoding

/-!
# Configurations as they are published

The parts of a configuration, parametrised by their numbers like the records of a run.  The
extended classes of the source (sizing, protective stops, evaluation ranges, market regimes) are
optional parts here, whose fields are written only when they are present.

## Main definitions

* `StrategyRecord`, `ExecutionRecord`, `ConstraintsRecord`, `RiskRecord`, `PolicyRecord`,
  `ConfigRecord` — a configuration and its parts.
* `ConfigRecord.validate` — `validate_backtest_config`.
* `ConfigRecord.json` — `canonical_value`.
-/

namespace DryTrade
namespace Backtesting

open MarketData Indicators

/-- Another text for a failed check. -/
def revalidated {α : Type} (check : Except Failure α) (message : String) : Except Failure α :=
  match check with
  | .ok a => .ok a
  | .error _ => FailureKind.value.raiseWith message

/-! ### Strategies -/

/-- A parameter of a strategy. -/
inductive ParameterValue (D : Type)
  | none
  | bool (b : Bool)
  | int (n : ℤ)
  | str (s : String)
  | decimal (d : D)
  deriving DecidableEq

/-- A strategy with its parameters. -/
structure StrategyRecord (D : Type) where
  name : String
  version : String
  parameters : List (String × ParameterValue D)
  deriving DecidableEq

section

variable {D E : Type} (f : D → E)

def ParameterValue.map : ParameterValue D → ParameterValue E
  | .none => .none
  | .bool b => .bool b
  | .int n => .int n
  | .str s => .str s
  | .decimal d => .decimal (f d)

def StrategyRecord.map (r : StrategyRecord D) : StrategyRecord E where
  name := r.name
  version := r.version
  parameters := r.parameters.map fun p => (p.1, p.2.map f)

/-- `StrategyDescriptor(...)`: names without surrounding blanks, keys that are unique and sorted. -/
def StrategyRecord.construct (r : StrategyRecord D) : Except Failure (StrategyRecord D) := do
  let name := strip r.name
  let version := strip r.version
  FailureKind.value.unless (isFillToken name && isFillToken version)
    "strategy name and version must be safe identifiers"
  let parameters := r.parameters.map fun p => (strip p.1, p.2)
  FailureKind.value.unless
    (parameters.all (fun p => isFillToken p.1) && decide (parameters.map Prod.fst).Nodup)
    "strategy parameter keys must be unique safe identifiers"
  return ⟨name, version, parameters.insertionSort fun a b => a.1.toList ≤ b.1.toList⟩

/-- `_revalidate_strategy_descriptor`. -/
def StrategyRecord.validate [DecidableEq D] (r : StrategyRecord D) : Except Failure Unit := do
  let candidate ← revalidated r.construct "strategy descriptor is invalid"
  FailureKind.value.unless (candidate == r) "strategy descriptor is not canonical"

end

/-- The canonical value of a parameter: a decimal is written as its text. -/
def ParameterValue.json : ParameterValue Decimal → Json
  | .none => .null
  | .bool b => .bool b
  | .int n => .int n
  | .str s => .str s
  | .decimal d => decimalJson d

/-- The canonical value of a strategy. -/
def StrategyRecord.json (r : StrategyRecord Decimal) : Json :=
  .obj [("name", .str r.name),
    ("parameters", .arr (r.parameters.map fun p => .arr [.str p.1, p.2.json])),
    ("version", .str r.version)]

/-! ### Execution -/

def PositionSizingKind.value : PositionSizingKind → String
  | .explicitQuantity => "explicit_quantity"
  | .fixedNotional => "fixed_notional"
  | .equityPercent => "equity_percent"

def StopLossKind.value : StopLossKind → String
  | .disabled => "disabled"
  | .fixedPercent => "fixed_percent"

/-- A position-sizing policy. -/
structure SizingRecord (D : Type) where
  kind : PositionSizingKind
  value : Option D
  minimumQuoteReserve : D
  deriving DecidableEq

/-- Fill assumptions; the slippage kind and the intrabar policy have one value each. -/
structure ExecutionRecord (D : Type) where
  makerFeeBps : D
  takerFeeBps : D
  fixedBps : D
  forceCloseAtEnd : Bool
  positionSizing : Option (SizingRecord D)
  deriving DecidableEq

section

variable {D E : Type} (f : D → E)

def SizingRecord.map (r : SizingRecord D) : SizingRecord E where
  kind := r.kind
  value := r.value.map f
  minimumQuoteReserve := f r.minimumQuoteReserve

def ExecutionRecord.map (r : ExecutionRecord D) : ExecutionRecord E where
  makerFeeBps := f r.makerFeeBps
  takerFeeBps := f r.takerFeeBps
  fixedBps := f r.fixedBps
  forceCloseAtEnd := r.forceCloseAtEnd
  positionSizing := r.positionSizing.map (SizingRecord.map f)

end

/-- The checks of `PositionSizingPolicy`. -/
def SizingRecord.validate (r : SizingRecord ℚ) : Except Failure Unit := do
  FailureKind.value.unless (decide (0 ≤ r.minimumQuoteReserve))
    "minimum_quote_reserve must be finite and nonnegative"
  if r.kind = .explicitQuantity then
    FailureKind.value.unless r.value.isNone "explicit quantity sizing must not define value"
    FailureKind.value.unless (r.minimumQuoteReserve == 0)
      "explicit quantity sizing must not define a quote reserve"
  else
    FailureKind.value.unless (r.value.any fun v => decide (0 < v))
      "position sizing value must be finite and positive"
    FailureKind.value.unless
      (!(r.kind == .equityPercent) || r.value.all fun v => decide (v ≤ 100))
      "equity percent sizing must not exceed 100"

/-- `_require_bps`. -/
def requireBps (value : ℚ) (fieldName : String) : Except Failure Unit := do
  requireNonnegative [(fieldName, value)]
  FailureKind.value.unless (decide (value ≤ 1000)) (fieldName ++ " must not exceed 1000 bps")

/-- `_revalidate_execution_assumptions`. -/
def ExecutionRecord.validate (r : ExecutionRecord ℚ) : Except Failure Unit := do
  revalidated
    (do
      requireBps r.makerFeeBps "maker_fee_bps"
      requireBps r.takerFeeBps "taker_fee_bps")
    "execution fee model is invalid"
  revalidated (requireBps r.fixedBps "fixed_bps") "execution slippage model is invalid"
  match r.positionSizing with
  | none => return ()
  | some sizing =>
    revalidated sizing.validate "execution position sizing policy is invalid"
    FailureKind.value.unless (!(sizing.kind == .explicitQuantity))
      "execution position sizing policy must be non-default"

/-- The canonical value of a sizing policy. -/
def SizingRecord.json (r : SizingRecord Decimal) : Json :=
  .obj [("kind", .str r.kind.value),
    ("minimum_quote_reserve", decimalJson r.minimumQuoteReserve),
    ("value", .ofOption decimalJson r.value)]

/-- A field that is written when its value is present. -/
def optionalField {α : Type} (key : String) (json : α → Json) : Option α → List (String × Json)
  | none => []
  | some a => [(key, json a)]

/-- The canonical value of fill assumptions. -/
def ExecutionRecord.json (r : ExecutionRecord Decimal) : Json :=
  .obj ([("fees", .obj [("maker_fee_bps", decimalJson r.makerFeeBps),
      ("taker_fee_bps", decimalJson r.takerFeeBps)]),
    ("force_close_at_end", .bool r.forceCloseAtEnd),
    ("intrabar_policy", .str "CONSERVATIVE")] ++
    optionalField "position_sizing" SizingRecord.json r.positionSizing ++
    [("slippage", .obj [("fixed_bps", decimalJson r.fixedBps), ("kind", .str "FIXED_BPS")])])

/-! ### Constraints -/

/-- Precision and notional constraints of an instrument. -/
structure ConstraintsRecord (D : Type) where
  minimumQuantity : D
  quantityStep : D
  priceTick : D
  minimumNotional : D
  maximumNotional : Option D
  deriving DecidableEq

def ConstraintsRecord.map {D E : Type} (f : D → E) (r : ConstraintsRecord D) :
    ConstraintsRecord E where
  minimumQuantity := f r.minimumQuantity
  quantityStep := f r.quantityStep
  priceTick := f r.priceTick
  minimumNotional := f r.minimumNotional
  maximumNotional := r.maximumNotional.map f

/-- The checks of `InstrumentConstraints`. -/
def ConstraintsRecord.validate (r : ConstraintsRecord ℚ) : Except Failure Unit := do
  requirePositive .value r.minimumQuantity "minimum_quantity"
  requirePositive .value r.quantityStep "quantity_step"
  requirePositive .value r.priceTick "price_tick"
  requireNonnegative [("minimum_notional", r.minimumNotional)]
  match r.maximumNotional with
  | none => return ()
  | some maximum =>
    requirePositive .value maximum "maximum_notional"
    FailureKind.value.unless (decide (r.minimumNotional ≤ maximum))
      "maximum_notional must not be below minimum_notional"

/-- The canonical value of constraints. -/
def ConstraintsRecord.json (r : ConstraintsRecord Decimal) : Json :=
  .obj [("maximum_notional", .ofOption decimalJson r.maximumNotional),
    ("minimum_notional", decimalJson r.minimumNotional),
    ("minimum_quantity", decimalJson r.minimumQuantity),
    ("price_tick", decimalJson r.priceTick),
    ("quantity_step", decimalJson r.quantityStep)]

/-! ### Risk limits -/

/-- A protective-stop policy. -/
structure StopLossRecord (D : Type) where
  kind : StopLossKind
  value : Option D
  deriving DecidableEq

/-- Risk limits. -/
structure RiskRecord (D : Type) where
  maxOrderNotional : Option D
  maxPositionNotional : Option D
  maxOpenOrders : ℤ
  maxTotalOrders : ℤ
  maxDrawdownPct : Option D
  stopOnMaxDrawdown : Bool
  allowAllIn : Bool
  minimumQuoteReserve : D
  stopLoss : Option (StopLossRecord D)
  deriving DecidableEq

section

variable {D E : Type} (f : D → E)

def StopLossRecord.map (r : StopLossRecord D) : StopLossRecord E where
  kind := r.kind
  value := r.value.map f

def RiskRecord.map (r : RiskRecord D) : RiskRecord E where
  maxOrderNotional := r.maxOrderNotional.map f
  maxPositionNotional := r.maxPositionNotional.map f
  maxOpenOrders := r.maxOpenOrders
  maxTotalOrders := r.maxTotalOrders
  maxDrawdownPct := r.maxDrawdownPct.map f
  stopOnMaxDrawdown := r.stopOnMaxDrawdown
  allowAllIn := r.allowAllIn
  minimumQuoteReserve := f r.minimumQuoteReserve
  stopLoss := r.stopLoss.map (StopLossRecord.map f)

end

/-- The checks of `StopLossPolicy`. -/
def StopLossRecord.validate (r : StopLossRecord ℚ) : Except Failure Unit :=
  match r.kind with
  | .disabled =>
    FailureKind.value.unless r.value.isNone "disabled stop loss must not define value"
  | .fixedPercent => do
    FailureKind.value.unless (r.value.any fun v => decide (0 < v))
      "stop loss value must be finite and positive"
    FailureKind.value.unless (r.value.all fun v => decide (v < 100))
      "fixed percent stop loss must be below 100"

/-- The checks of `RiskLimits` and `StopLossRiskLimits`. -/
def RiskRecord.validate (r : RiskRecord ℚ) : Except Failure Unit := do
  FailureKind.value.unless (r.maxOrderNotional.all fun v => decide (0 < v))
    "max_order_notional must be positive"
  FailureKind.value.unless (r.maxPositionNotional.all fun v => decide (0 < v))
    "max_position_notional must be positive"
  FailureKind.value.unless (decide (1 ≤ r.maxOpenOrders ∧ 1 ≤ r.maxTotalOrders))
    "order limits must be positive"
  FailureKind.value.unless (decide (r.maxOpenOrders ≤ r.maxTotalOrders))
    "max_open_orders must not exceed max_total_orders"
  FailureKind.value.unless (r.maxDrawdownPct.all fun v => decide (0 ≤ v))
    "max_drawdown_pct must be nonnegative"
  FailureKind.value.unless (r.maxDrawdownPct.all fun v => decide (v ≤ 100))
    "max_drawdown_pct must not exceed 100"
  requireNonnegative [("minimum_quote_reserve", r.minimumQuoteReserve)]
  match r.stopLoss with
  | none => return ()
  | some stopLoss =>
    stopLoss.validate
    FailureKind.value.unless (!(stopLoss.kind == .disabled))
      "stop-loss risk limits require a non-default policy"

/-- The canonical value of a protective-stop policy. -/
def StopLossRecord.json (r : StopLossRecord Decimal) : Json :=
  .obj [("kind", .str r.kind.value), ("value", .ofOption decimalJson r.value)]

/-- The canonical value of risk limits. -/
def RiskRecord.json (r : RiskRecord Decimal) : Json :=
  .obj ([("allow_all_in", .bool r.allowAllIn),
    ("max_drawdown_pct", .ofOption decimalJson r.maxDrawdownPct),
    ("max_open_orders", .int r.maxOpenOrders),
    ("max_order_notional", .ofOption decimalJson r.maxOrderNotional),
    ("max_position_notional", .ofOption decimalJson r.maxPositionNotional),
    ("max_total_orders", .int r.maxTotalOrders),
    ("minimum_quote_reserve", decimalJson r.minimumQuoteReserve)] ++
    optionalField "stop_loss" StopLossRecord.json r.stopLoss ++
    [("stop_on_max_drawdown", .bool r.stopOnMaxDrawdown)])

/-! ### Market regimes -/

/-- The thresholds and periods of the regime detector. -/
structure PolicyRecord (D : Type) where
  fastEmaPeriod : ℤ
  slowEmaPeriod : ℤ
  atrPeriod : ℤ
  volatileAtrRatio : D
  trendStrengthThreshold : D
  schemaVersion : ℤ
  deriving DecidableEq

def PolicyRecord.map {D E : Type} (f : D → E) (r : PolicyRecord D) : PolicyRecord E where
  fastEmaPeriod := r.fastEmaPeriod
  slowEmaPeriod := r.slowEmaPeriod
  atrPeriod := r.atrPeriod
  volatileAtrRatio := f r.volatileAtrRatio
  trendStrengthThreshold := f r.trendStrengthThreshold
  schemaVersion := r.schemaVersion

/-- The checks of `MarketRegimePolicy`. -/
def PolicyRecord.validate (r : PolicyRecord ℚ) : Except Failure Unit := do
  FailureKind.invalidIndicatorInput.unless
    (decide (1 ≤ r.fastEmaPeriod ∧ 1 ≤ r.slowEmaPeriod ∧ 1 ≤ r.atrPeriod))
    "market-regime periods must be positive integers"
  FailureKind.invalidIndicatorInput.unless (decide (r.fastEmaPeriod < r.slowEmaPeriod))
    "fast_ema_period must be smaller than slow_ema_period"
  FailureKind.invalidIndicatorInput.unless
    (decide (0 < r.volatileAtrRatio ∧ 0 < r.trendStrengthThreshold))
    "market-regime thresholds must be positive finite Decimal values"
  FailureKind.invalidIndicatorInput.unless (r.schemaVersion == 1)
    ("unsupported market-regime policy schema version: " ++ toString r.schemaVersion)

/-- The canonical value of a policy, with the descriptor that its constructor derives. -/
def PolicyRecord.json (r : PolicyRecord Decimal) : Json :=
  .obj [("atr_period", .int r.atrPeriod),
    ("descriptor", .obj [("name", .str "market_regime"),
      ("parameters", .arr [.arr [.str "atr_period", .int r.atrPeriod],
        .arr [.str "fast_ema_period", .int r.fastEmaPeriod],
        .arr [.str "slow_ema_period", .int r.slowEmaPeriod],
        .arr [.str "trend_strength_threshold", decimalJson r.trendStrengthThreshold],
        .arr [.str "volatile_atr_ratio", decimalJson r.volatileAtrRatio]]),
      ("schema_version", .int 1),
      ("version", .str "1")]),
    ("fast_ema_period", .int r.fastEmaPeriod),
    ("schema_version", .int r.schemaVersion),
    ("slow_ema_period", .int r.slowEmaPeriod),
    ("trend_strength_threshold", decimalJson r.trendStrengthThreshold),
    ("volatile_atr_ratio", decimalJson r.volatileAtrRatio)]

/-! ### Configurations -/

/-- The scored range of a run, and the lifecycle of its strategy. -/
structure EvaluationRecord where
  range : DataRange
  strategyLifecycleVersion : ℤ
  deriving DecidableEq

/-- A configuration of one of the four classes. -/
structure ConfigRecord (D : Type) where
  snapshotId : String
  dataRange : DataRange
  strategy : StrategyRecord D
  initialCapital : D
  execution : ExecutionRecord D
  constraints : ConstraintsRecord D
  riskLimits : RiskRecord D
  historyWindow : ℤ
  maxCandles : ℤ
  maxOrders : ℤ
  maxEvents : ℤ
  engineVersion : String
  schemaVersion : ℤ
  evaluation : Option EvaluationRecord
  marketRegimePolicy : Option (PolicyRecord D)
  deriving DecidableEq

def ConfigRecord.map {D E : Type} (f : D → E) (r : ConfigRecord D) : ConfigRecord E where
  snapshotId := r.snapshotId
  dataRange := r.dataRange
  strategy := r.strategy.map f
  initialCapital := f r.initialCapital
  execution := r.execution.map f
  constraints := r.constraints.map f
  riskLimits := r.riskLimits.map f
  historyWindow := r.historyWindow
  maxCandles := r.maxCandles
  maxOrders := r.maxOrders
  maxEvents := r.maxEvents
  engineVersion := r.engineVersion
  schemaVersion := r.schemaVersion
  evaluation := r.evaluation
  marketRegimePolicy := r.marketRegimePolicy.map (PolicyRecord.map f)

/-- The checks on an evaluation range inside its context. -/
def EvaluationRecord.validate (e : EvaluationRecord) (context : DataRange) :
    Except Failure Unit := do
  FailureKind.value.unless
    (decide (context.start ≤ e.range.start ∧ e.range.stop = context.stop))
    "evaluation_range must end with and remain inside context"
  FailureKind.value.unless
    (e.strategyLifecycleVersion == 1 || e.strategyLifecycleVersion == 2)
    "strategy_lifecycle_version is not supported"
  FailureKind.value.unless (!(e.strategyLifecycleVersion == 1) || e.range == context)
    "strategy lifecycle version 1 does not support warmup"

/-- `validate_backtest_config`. -/
def ConfigRecord.validate (r : ConfigRecord ℚ) : Except Failure Unit := do
  r.strategy.validate
  r.execution.validate
  revalidated r.constraints.validate "instrument constraints are invalid"
  revalidated r.riskLimits.validate "risk limits are invalid"
  FailureKind.value.unless (isFillToken r.snapshotId) "snapshot_id must be a safe identifier"
  requirePositive .value r.initialCapital "initial_capital"
  FailureKind.value.unless
    (decide (1 ≤ r.historyWindow ∧ 1 ≤ r.maxCandles ∧ 1 ≤ r.maxOrders ∧ 1 ≤ r.maxEvents))
    "backtest limits must be positive"
  FailureKind.value.unless (decide (r.historyWindow ≤ r.maxCandles))
    "history_window must not exceed max_candles"
  FailureKind.value.unless (isFillToken (strip r.engineVersion))
    "engine_version must be a safe identifier"
  FailureKind.value.unless (r.schemaVersion == 1 || r.schemaVersion == 2)
    "schema_version is not supported"
  match r.evaluation with
  | none => pure ()
  | some evaluation => evaluation.validate r.dataRange
  match r.marketRegimePolicy with
  | none => pure ()
  | some policy => revalidated policy.validate "market regime policy is invalid"
  FailureKind.value.unless (strip r.engineVersion == r.engineVersion)
    "backtest config is not canonical"

/-- The canonical value of a range. -/
def rangeJson (r : DataRange) : Json :=
  .obj [("end", timeJson r.stop), ("start", timeJson r.start)]

/-- The canonical value of a configuration. -/
def ConfigRecord.json (r : ConfigRecord Decimal) : Json :=
  .obj ([("constraints", r.constraints.json),
    ("data_range", rangeJson r.dataRange),
    ("engine_version", .str r.engineVersion)] ++
    optionalField "evaluation_range" (rangeJson ·.range) r.evaluation ++
    [("execution", r.execution.json),
    ("history_window", .int r.historyWindow),
    ("initial_capital", decimalJson r.initialCapital)] ++
    optionalField "market_regime_policy" PolicyRecord.json r.marketRegimePolicy ++
    [("max_candles", .int r.maxCandles),
    ("max_events", .int r.maxEvents),
    ("max_orders", .int r.maxOrders),
    ("risk_limits", r.riskLimits.json),
    ("schema_version", .int r.schemaVersion),
    ("snapshot_id", .str r.snapshotId),
    ("strategy", r.strategy.json)] ++
    optionalField "strategy_lifecycle_version" (.int ·.strategyLifecycleVersion) r.evaluation)

end Backtesting
end DryTrade
