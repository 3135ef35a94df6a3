import DryTrade.Failure
import DryTrade.Indicators.Regime

/-!
# Backtest contracts

Configurations, orders, fills and portfolio views of the deterministic Spot
backtest.  A record that only callers of the engine build (a fee model, a risk
limit, an intent, a configuration) carries the checks of its constructor as
fields.  A record the engine itself builds from computed amounts (a fill) keeps
them as a check that may raise, since under a rounding context it may.

## Main definitions

* `OrderIntent`, `SimulatedOrder`, `Fill` — the order lifecycle.
* `PortfolioSnapshot`, `EquityPoint` — published portfolio views.
* `BacktestConfig` — one run, with its optional evaluation range, sizing policy,
  stop-loss policy and market-regime policy.
-/

namespace DryTrade
namespace Backtesting

open MarketData Indicators

/-! ### Enumerations -/

inductive OrderSide
  | buy
  | sell
  deriving DecidableEq, Repr

inductive OrderType
  | market
  | limit
  | stopMarket
  deriving DecidableEq, Repr

inductive OrderStatus
  | created
  | open
  | filled
  | cancelled
  | rejected
  | expired
  deriving DecidableEq, Repr

inductive TimeInForce
  | gtc
  | ioc
  | day
  deriving DecidableEq, Repr

inductive FillReason
  | marketOpen
  | limitTouched
  | limitGap
  | stopTriggered
  | stopGap
  | forceClose
  deriving DecidableEq, Repr

inductive FillLiquidity
  | maker
  | taker
  deriving DecidableEq, Repr

/-- Supported sizing policies for opening Spot positions. -/
inductive PositionSizingKind
  | explicitQuantity
  | fixedNotional
  | equityPercent
  deriving DecidableEq, Repr

/-- Supported engine-managed protective-stop policies. -/
inductive StopLossKind
  | disabled
  | fixedPercent
  deriving DecidableEq, Repr

/-! ### Policies -/

/-- One position-sizing policy. -/
structure PositionSizingPolicy where
  kind : PositionSizingKind
  value : Option ℚ
  minimumQuoteReserve : ℚ
  reserve_nonneg : 0 ≤ minimumQuoteReserve
  explicit_plain : kind = .explicitQuantity → value = none ∧ minimumQuoteReserve = 0
  value_pos : kind ≠ .explicitQuantity → ∃ v ∈ value, 0 < v
  percent_le : kind = .equityPercent → ∀ v ∈ value, v ≤ 100

theorem noReserve_nonneg : (0 : ℚ) ≤ 0 := le_rfl

/-- `PositionSizingPolicy()`: the strategy's own quantity, no reserve. -/
def PositionSizingPolicy.default : PositionSizingPolicy where
  kind := .explicitQuantity
  value := none
  minimumQuoteReserve := 0
  reserve_nonneg := noReserve_nonneg
  explicit_plain := fun _ => ⟨rfl, rfl⟩
  value_pos := fun h => absurd rfl h
  percent_le := by simp

/-- One protective-stop policy. -/
structure StopLossPolicy where
  kind : StopLossKind
  value : Option ℚ
  disabled_plain : kind = .disabled → value = none
  value_pos : kind ≠ .disabled → ∃ v ∈ value, 0 < v
  percent_lt : kind = .fixedPercent → ∀ v ∈ value, v < 100

/-- `StopLossPolicy()`: no protective stop. -/
def StopLossPolicy.default : StopLossPolicy where
  kind := .disabled
  value := none
  disabled_plain := fun _ => rfl
  value_pos := fun h => absurd rfl h
  percent_lt := by simp

/-- A value admitted among the parameters of a strategy. -/
inductive StrategyParameterValue
  | none
  | bool (b : Bool)
  | int (n : ℤ)
  | str (s : String)
  | decimal (d : ℚ)
  deriving DecidableEq

/-- Stable strategy identity and canonical parameters. -/
structure StrategyDescriptor where
  name : String
  version : String
  parameters : List (String × StrategyParameterValue)
  deriving DecidableEq

/-- Basis points lie between `0` and `1000`. -/
def ValidBps (bps : ℚ) : Prop := 0 ≤ bps ∧ bps ≤ 1000

instance (bps : ℚ) : Decidable (ValidBps bps) := inferInstanceAs (Decidable (_ ∧ _))

theorem validBps_zero : ValidBps 0 := by decide +kernel

theorem validBps_ten : ValidBps 10 := by decide +kernel

/-- Quote-asset fee assumptions in basis points. -/
structure FeeModel where
  makerFeeBps : ℚ
  takerFeeBps : ℚ
  maker_valid : ValidBps makerFeeBps
  taker_valid : ValidBps takerFeeBps

/-- The fee rate of a fill. -/
def FeeModel.rate (ctx : DecimalContext) (fees : FeeModel) (liquidity : FillLiquidity) : ℚ :=
  ctx.div (match liquidity with | .maker => fees.makerFeeBps | .taker => fees.takerFeeBps) 10000

/-- Adverse-price slippage; `FIXED_BPS` is the only kind the source defines. -/
structure SlippageModel where
  fixedBps : ℚ
  valid : ValidBps fixedBps

/-- Fill assumptions of a run.  `positionSizing` is present exactly in the extended
class, which refuses the default policy. -/
structure ExecutionAssumptions where
  fees : FeeModel
  slippage : SlippageModel
  forceCloseAtEnd : Bool
  positionSizing : Option PositionSizingPolicy
  sizing_extended : ∀ p ∈ positionSizing, p.kind ≠ .explicitQuantity

/-- The explicit legacy sizing unless the extended contract is present. -/
def positionSizingPolicyFor (execution : ExecutionAssumptions) : PositionSizingPolicy :=
  execution.positionSizing.getD .default

/-- Exchange-like precision and notional constraints for one instrument. -/
structure InstrumentConstraints where
  minimumQuantity : ℚ
  quantityStep : ℚ
  priceTick : ℚ
  minimumNotional : ℚ
  maximumNotional : Option ℚ
  minimumQuantity_pos : 0 < minimumQuantity
  quantityStep_pos : 0 < quantityStep
  priceTick_pos : 0 < priceTick
  minimumNotional_nonneg : 0 ≤ minimumNotional
  maximumNotional_ge : ∀ m ∈ maximumNotional, 0 < m ∧ minimumNotional ≤ m

/-- Bounded long-only risk configuration.  `stopLoss` is present exactly in the
extended class, which refuses a disabled policy. -/
structure RiskLimits where
  maxOrderNotional : Option ℚ
  maxPositionNotional : Option ℚ
  maxOpenOrders : ℕ
  maxTotalOrders : ℕ
  maxDrawdownPct : Option ℚ
  stopOnMaxDrawdown : Bool
  allowAllIn : Bool
  minimumQuoteReserve : ℚ
  stopLoss : Option StopLossPolicy
  maxOrderNotional_pos : ∀ m ∈ maxOrderNotional, 0 < m
  maxPositionNotional_pos : ∀ m ∈ maxPositionNotional, 0 < m
  maxOpenOrders_pos : 1 ≤ maxOpenOrders
  maxOpenOrders_le : maxOpenOrders ≤ maxTotalOrders
  maxDrawdownPct_range : ∀ m ∈ maxDrawdownPct, 0 ≤ m ∧ m ≤ 100
  reserve_nonneg : 0 ≤ minimumQuoteReserve
  stopLoss_extended : ∀ p ∈ stopLoss, p.kind ≠ .disabled

/-- Disabled legacy protection unless the extended limits are present. -/
def stopLossPolicyFor (limits : RiskLimits) : StopLossPolicy := limits.stopLoss.getD .default

/-! ### Orders and fills -/

/-- A character of a safe identifier after its first one. -/
def isSafeChar (c : Char) : Bool := c.isAlphanum || c == '.' || c == '_' || c == ':' || c == '-'

/-- `_SAFE_TAG`: an identifier of at most 64 safe characters. -/
def isSafeTag (s : String) : Bool :=
  match s.toList with
  | [] => false
  | c :: cs => c.isAlphanum && cs.all isSafeChar && decide (cs.length ≤ 63)

/-- The trigger prices an order type requires. -/
def OrderType.pricesValid : OrderType → Option ℚ → Option ℚ → Prop
  | .market, limitPrice, stopPrice => limitPrice = none ∧ stopPrice = none
  | .limit, limitPrice, stopPrice => (∃ p ∈ limitPrice, 0 < p) ∧ stopPrice = none
  | .stopMarket, limitPrice, stopPrice => (∃ p ∈ stopPrice, 0 < p) ∧ limitPrice = none

/-- One strategy request; the engine alone may convert it into an order. -/
structure OrderIntent where
  side : OrderSide
  orderType : OrderType
  quantity : ℚ
  timeInForce : TimeInForce
  limitPrice : Option ℚ
  stopPrice : Option ℚ
  clientTag : Option String
  quantity_pos : 0 < quantity
  prices_valid : orderType.pricesValid limitPrice stopPrice
  clientTag_safe : ∀ t ∈ clientTag, isSafeTag t = true

theorem OrderIntent.eq_iff {a b : OrderIntent} : (a.side = b.side ∧ a.orderType = b.orderType ∧
    a.quantity = b.quantity ∧ a.timeInForce = b.timeInForce ∧ a.limitPrice = b.limitPrice ∧
    a.stopPrice = b.stopPrice ∧ a.clientTag = b.clientTag) ↔ a = b := by
  cases a
  cases b
  simp

instance : DecidableEq OrderIntent := fun _ _ => decidable_of_iff _ OrderIntent.eq_iff

theorem marketPrices_valid : OrderType.market.pricesValid none none := ⟨rfl, rfl⟩

theorem untagged_safe : ∀ t ∈ (none : Option String), isSafeTag t = true := by simp

/-- `replace(intent, quantity=quantity)`. -/
def OrderIntent.withQuantity (intent : OrderIntent) (quantity : ℚ) (h : 0 < quantity) :
    OrderIntent :=
  { intent with quantity := quantity, quantity_pos := h }

@[simp] theorem OrderIntent.withQuantity_quantity (intent : OrderIntent) (q : ℚ) (h : 0 < q) :
    (intent.withQuantity q h).quantity = q := rfl

@[simp] theorem OrderIntent.withQuantity_side (intent : OrderIntent) (q : ℚ) (h : 0 < q) :
    (intent.withQuantity q h).side = intent.side := rfl

@[simp] theorem OrderIntent.withQuantity_clientTag (intent : OrderIntent) (q : ℚ) (h : 0 < q) :
    (intent.withQuantity q h).clientTag = intent.clientTag := rfl

/-- One all-or-none order lifecycle record. -/
structure SimulatedOrder where
  orderId : String
  createdSequence : ℕ
  createdAt : Instant
  createdCandleIndex : ℤ
  eligibleCandleIndex : ℤ
  intent : OrderIntent
  status : OrderStatus
  openedAt : Option Instant
  terminalAt : Option Instant
  rejectionCode : Option String
  deriving DecidableEq

/-- One all-or-none simulated execution. -/
structure Fill where
  fillId : String
  orderId : String
  reason : FillReason
  liquidity : FillLiquidity
  side : OrderSide
  quantity : ℚ
  basePrice : ℚ
  executionPrice : ℚ
  notional : ℚ
  fee : ℚ
  slippageCost : ℚ
  eventTime : Instant
  candleIndex : ℕ
  deriving DecidableEq, Repr

/-- The checks of the constructor of a fill. -/
def Fill.validate (ctx : DecimalContext) (f : Fill) : Except Failure Fill := do
  FailureKind.value.unless (decide (0 < f.quantity)) "quantity must be positive"
  FailureKind.value.unless (decide (0 < f.basePrice)) "base_price must be positive"
  FailureKind.value.unless (decide (0 < f.executionPrice)) "execution_price must be positive"
  FailureKind.value.unless (decide (0 < f.notional)) "notional must be positive"
  FailureKind.value.unless (decide (0 ≤ f.fee)) "fee must be nonnegative"
  FailureKind.value.unless (decide (0 ≤ f.slippageCost)) "slippage_cost must be nonnegative"
  FailureKind.value.unless (decide (f.notional = ctx.mul f.quantity f.executionPrice))
    "fill notional must equal quantity times execution price"
  return f

/-- What the constructor of a fill guarantees. -/
structure Fill.Valid (ctx : DecimalContext) (f : Fill) : Prop where
  quantity_pos : 0 < f.quantity
  basePrice_pos : 0 < f.basePrice
  executionPrice_pos : 0 < f.executionPrice
  notional_pos : 0 < f.notional
  fee_nonneg : 0 ≤ f.fee
  slippageCost_nonneg : 0 ≤ f.slippageCost
  notional_eq : f.notional = ctx.mul f.quantity f.executionPrice

theorem Fill.validate_eq_ok {ctx : DecimalContext} {f g : Fill} :
    f.validate ctx = .ok g ↔ f.Valid ctx ∧ g = f := by
  simp only [Fill.validate, bind_eq_ok, FailureKind.unless_eq_ok, decide_eq_true_eq, exists_const,
    pure, Except.pure, Except.ok.injEq]
  constructor
  · rintro ⟨h1, h2, h3, h4, h5, h6, h7, rfl⟩
    exact ⟨⟨h1, h2, h3, h4, h5, h6, h7⟩, rfl⟩
  · rintro ⟨⟨h1, h2, h3, h4, h5, h6, h7⟩, rfl⟩
    exact ⟨h1, h2, h3, h4, h5, h6, h7, rfl⟩

/-! ### Portfolio views -/

/-- Read-only strategy-facing portfolio state. -/
structure PortfolioSnapshot where
  quoteCash : ℚ
  baseQuantity : ℚ
  averageEntryPrice : ℚ
  realizedPnl : ℚ
  unrealizedPnl : ℚ
  totalFees : ℚ
  totalSlippageCost : ℚ
  equity : ℚ
  peakEquity : ℚ
  drawdown : ℚ
  costBasis : ℚ
  drawdownPct : ℚ
  deriving DecidableEq, Repr

/-- One close-based mark-to-market observation. -/
structure EquityPoint where
  candleIndex : ℕ
  eventTime : Instant
  closePrice : ℚ
  quoteCash : ℚ
  baseQuantity : ℚ
  equity : ℚ
  peakEquity : ℚ
  drawdown : ℚ
  drawdownPct : ℚ
  deriving DecidableEq, Repr

/-! ### Snapshots and configurations -/

/-- The identity of an immutable candle snapshot. -/
structure DatasetSnapshot where
  snapshotId : String
  datasetKey : String
  datasetVersion : String
  checksum : String
  dataRange : DataRange
  partitions : List String
  manifestPath : String
  createdAt : String
  deriving DecidableEq

/-- The scored range of a run inside its read context, with the lifecycle of the
strategy. -/
structure Evaluation where
  range : DataRange
  /-- `1` or `2`. -/
  strategyLifecycleVersion : ℕ
  lifecycle_supported : strategyLifecycleVersion = 1 ∨ strategyLifecycleVersion = 2

/-- Logical run configuration.  `evaluation` and `marketRegimePolicy` are present
in the subclasses that declare them. -/
structure BacktestConfig where
  snapshotId : String
  dataRange : DataRange
  strategy : StrategyDescriptor
  initialCapital : ℚ
  execution : ExecutionAssumptions
  constraints : InstrumentConstraints
  riskLimits : RiskLimits
  historyWindow : ℕ
  maxCandles : ℕ
  maxOrders : ℕ
  maxEvents : ℕ
  evaluation : Option Evaluation
  marketRegimePolicy : Option MarketRegimePolicy
  initialCapital_pos : 0 < initialCapital
  historyWindow_pos : 1 ≤ historyWindow
  historyWindow_le : historyWindow ≤ maxCandles
  maxOrders_pos : 1 ≤ maxOrders
  maxEvents_pos : 1 ≤ maxEvents
  evaluation_inside : ∀ e ∈ evaluation,
    dataRange.start ≤ e.range.start ∧ e.range.stop = dataRange.stop ∧
      (e.strategyLifecycleVersion = 1 → e.range = dataRange)

/-- The scored range, the whole range for a legacy configuration. -/
def evaluationRangeFor (config : BacktestConfig) : DataRange :=
  (config.evaluation.map Evaluation.range).getD config.dataRange

/-- The declared lifecycle, `1` for a legacy configuration. -/
def strategyLifecycleVersionFor (config : BacktestConfig) : ℕ :=
  (config.evaluation.map Evaluation.strategyLifecycleVersion).getD 1

/-- The enabled regime policy, if any. -/
def marketRegimePolicyFor (config : BacktestConfig) : Option MarketRegimePolicy :=
  config.marketRegimePolicy

end Backtesting
end DryTrade
