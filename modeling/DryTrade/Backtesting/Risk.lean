import DryTrade.Backtesting.Execution
import DryTrade.Backtesting.Portfolio

/-!
# Sizing, risk limits and the protective stop

The three managers the engine asks before it opens an order, before it applies a
fill, and after it has applied one.

## Main definitions

* `size` — the quantity an intent is cut to.
* `evaluateOrder`, `validateFill` — the checks before opening and before filling.
* `drawdownHaltRequired` — the run-wide halt.
* `evaluateStopLoss` — the protective stop of the current position.
-/

namespace DryTrade
namespace Backtesting

/-! ### Sizing -/

/-- One quantity projection before final risk validation. -/
structure PositionSizingDecision where
  quantity : ℚ
  targetNotional : ℚ
  estimatedPrice : ℚ
  estimatedFee : ℚ
  cashRequired : ℚ
  deriving DecidableEq, Repr

/-- The liquidity assumed before an order is filled. -/
def assumedLiquidity : OrderType → FillLiquidity
  | .limit => .maker
  | .market => .taker
  | .stopMarket => .taker

section

variable (ctx : DecimalContext)

/-- The price a manager expects an intent to execute at. -/
def estimatedPrice (slippage : SlippageModel) (intent : OrderIntent) (referencePrice : ℚ) :
    Except Failure ℚ :=
  match intent.orderType with
  | .limit =>
      match intent.limitPrice with
      | some limit => .ok limit
      | none => FailureKind.assertion.raise
  | _ => .ok (adversePrice ctx slippage (intent.stopPrice.getD referencePrice) intent.side)

/-- The decision record, with the checks of its constructor. -/
def sizingDecision (fees : FeeModel) (quantity target price : ℚ) (liquidity : FillLiquidity) :
    Except Failure PositionSizingDecision := do
  let notional := ctx.mul quantity price
  let fee := ctx.mul notional (fees.rate ctx liquidity)
  let cashRequired := ctx.add notional fee
  requireNonnegativeFinite
    [("quantity", quantity), ("target_notional", target), ("estimated_price", price),
      ("estimated_fee", fee), ("cash_required", cashRequired)]
  FailureKind.value.unless (decide (0 < quantity → 0 < price))
    "positive quantity requires a positive estimated price"
  return {
    quantity := quantity
    targetNotional := target
    estimatedPrice := price
    estimatedFee := fee
    cashRequired := cashRequired }
where
  /-- Require every listed value to be nonnegative. -/
  requireNonnegativeFinite : List (String × ℚ) → Except Failure Unit
    | [] => .ok ()
    | (name, value) :: rest =>
        if 0 ≤ value then requireNonnegativeFinite rest
        else FailureKind.value.raiseWith (name ++ " must be finite and nonnegative")

/-- The notional a sizing policy aims at. -/
def targetNotional (policy : PositionSizingPolicy) (portfolio : PortfolioSnapshot) :
    Except Failure ℚ :=
  match policy.value with
  | none => FailureKind.value.raiseWith "position sizing value is required"
  | some value =>
      .ok (if policy.kind = .fixedNotional then value
        else ctx.div (ctx.mul portfolio.equity value) 100)

/-- Convert a strategy intent into a bounded quantity.  `minimumQuoteReserve` is the
reserve of the risk limits; the reserve of the policy applies when it is larger. -/
def size (policy : PositionSizingPolicy) (constraints : InstrumentConstraints) (fees : FeeModel)
    (slippage : SlippageModel) (minimumQuoteReserve : ℚ) (intent : OrderIntent)
    (portfolio : PortfolioSnapshot) (referencePrice : ℚ) :
    Except Failure PositionSizingDecision := do
  FailureKind.value.unless (decide (0 < referencePrice))
    "reference_price must be finite and positive"
  let liquidity := assumedLiquidity intent.orderType
  let price ← estimatedPrice ctx slippage intent referencePrice
  if intent.side = .sell ∨ policy.kind = .explicitQuantity then do
    let quantity ← truncateQuantity ctx intent.quantity constraints.quantityStep
    sizingDecision ctx fees quantity (ctx.mul intent.quantity price) price liquidity
  else do
    let target ← targetNotional ctx policy portfolio
    let reserve := max minimumQuoteReserve policy.minimumQuoteReserve
    let availableCash := max 0 (ctx.sub portfolio.quoteCash reserve)
    let feeMultiplier := ctx.add 1 (fees.rate ctx liquidity)
    let boundedNotional := min target (ctx.div availableCash feeMultiplier)
    let quantity ← truncateQuantity ctx (ctx.div boundedNotional price) constraints.quantityStep
    sizingDecision ctx fees quantity target price liquidity

end

/-! ### Risk -/

inductive RiskRejectionCode
  | insufficientCash
  | insufficientPosition
  | orderNotionalTooSmall
  | orderNotionalTooLarge
  | positionLimitExceeded
  | maximumOpenOrders
  | maximumTotalOrders
  | invalidQuantity
  | invalidPrice
  | riskHaltActive
  deriving DecidableEq, Repr

/-- The stable text of a rejection. -/
def RiskRejectionCode.value : RiskRejectionCode → String
  | .insufficientCash => "insufficient_cash"
  | .insufficientPosition => "insufficient_position"
  | .orderNotionalTooSmall => "order_notional_too_small"
  | .orderNotionalTooLarge => "order_notional_too_large"
  | .positionLimitExceeded => "position_limit_exceeded"
  | .maximumOpenOrders => "maximum_open_orders"
  | .maximumTotalOrders => "maximum_total_orders"
  | .invalidQuantity => "invalid_quantity"
  | .invalidPrice => "invalid_price"
  | .riskHaltActive => "risk_halt_active"

/-- A decision returned before an order is opened: an accepted normalized intent, or
a rejection, with the estimated notional. -/
inductive RiskDecision
  | accepted (normalized : OrderIntent) (estimatedNotional : ℚ)
  | rejected (code : RiskRejectionCode) (estimatedNotional : ℚ)
  deriving DecidableEq

/-- A value exceeds an optional maximum. -/
def exceeds (value : ℚ) (maximum : Option ℚ) : Bool := maximum.any fun m => decide (m < value)

/-- The reserve of the risk limits, waived when the whole balance may be used. -/
def effectiveReserve (limits : RiskLimits) : ℚ :=
  if limits.allowAllIn then 0 else limits.minimumQuoteReserve

section

variable (ctx : DecimalContext)

/-- The checks that need the estimated notional of a normalized intent. -/
def evaluateNotional (constraints : InstrumentConstraints) (limits : RiskLimits) (fees : FeeModel)
    (normalized : OrderIntent) (portfolio : PortfolioSnapshot) (referencePrice price : ℚ) :
    RiskDecision :=
  let notional := ctx.mul normalized.quantity price
  if notional < constraints.minimumNotional then .rejected .orderNotionalTooSmall notional
  else if exceeds notional constraints.maximumNotional then
    .rejected .orderNotionalTooLarge notional
  else if exceeds notional limits.maxOrderNotional then .rejected .orderNotionalTooLarge notional
  else
    match normalized.side with
    | .buy =>
        let fee := ctx.mul notional (fees.rate ctx (assumedLiquidity normalized.orderType))
        let projected := ctx.mul (ctx.add portfolio.baseQuantity normalized.quantity)
          (max referencePrice price)
        if ctx.sub (ctx.sub portfolio.quoteCash notional) fee < effectiveReserve limits then
          .rejected .insufficientCash notional
        else if exceeds projected limits.maxPositionNotional then
          .rejected .positionLimitExceeded notional
        else .accepted normalized notional
    | .sell =>
        if portfolio.baseQuantity < normalized.quantity then
          .rejected .insufficientPosition notional
        else .accepted normalized notional

/-- The checks that need the truncated quantity. -/
def evaluateQuantity (constraints : InstrumentConstraints) (limits : RiskLimits) (fees : FeeModel)
    (slippage : SlippageModel) (intent : OrderIntent) (quantity : ℚ)
    (portfolio : PortfolioSnapshot) (referencePrice : ℚ) : Except Failure RiskDecision :=
  if h : quantity < constraints.minimumQuantity ∨ quantity ≤ 0 then
    .ok (.rejected .invalidQuantity 0)
  else if referencePrice ≤ 0 then .ok (.rejected .invalidPrice 0)
  else if ((intent.limitPrice.or intent.stopPrice).any fun p =>
      !isTickAligned p constraints.priceTick) then .ok (.rejected .invalidPrice 0)
  else do
    let normalized := intent.withQuantity quantity (not_le.mp (not_or.mp h).2)
    let price ← estimatedPrice ctx slippage normalized referencePrice
    return evaluateNotional ctx constraints limits fees normalized portfolio referencePrice price

/-- An accepted normalized intent or one stable rejection code. -/
def evaluateOrder (constraints : InstrumentConstraints) (limits : RiskLimits) (fees : FeeModel)
    (slippage : SlippageModel) (intent : OrderIntent) (portfolio : PortfolioSnapshot)
    (referencePrice : ℚ) (openOrderCount totalOrderCount : ℕ) (riskHalt : Bool) :
    Except Failure RiskDecision :=
  if riskHalt then .ok (.rejected .riskHaltActive 0)
  else if limits.maxOpenOrders ≤ openOrderCount then .ok (.rejected .maximumOpenOrders 0)
  else if limits.maxTotalOrders ≤ totalOrderCount then .ok (.rejected .maximumTotalOrders 0)
  else do
    let quantity ← truncateQuantity ctx intent.quantity constraints.quantityStep
    evaluateQuantity ctx constraints limits fees slippage intent quantity portfolio referencePrice

/-- Recheck all price-sensitive limits at the actual execution price. -/
def validateFill (constraints : InstrumentConstraints) (limits : RiskLimits) (fill : Fill)
    (portfolio : PortfolioSnapshot) : Option RiskRejectionCode :=
  if fill.notional < constraints.minimumNotional then some .orderNotionalTooSmall
  else if exceeds fill.notional constraints.maximumNotional then some .orderNotionalTooLarge
  else if exceeds fill.notional limits.maxOrderNotional then some .orderNotionalTooLarge
  else
    match fill.side with
    | .buy =>
        let projected := ctx.mul (ctx.add portfolio.baseQuantity fill.quantity) fill.executionPrice
        if ctx.sub (ctx.sub portfolio.quoteCash fill.notional) fill.fee < effectiveReserve limits
        then some .insufficientCash
        else if exceeds projected limits.maxPositionNotional then some .positionLimitExceeded
        else none
    | .sell => if portfolio.baseQuantity < fill.quantity then some .insufficientPosition else none

/-- The drawdown reached the configured threshold. -/
def drawdownHaltRequired (limits : RiskLimits) (portfolio : PortfolioSnapshot) : Bool :=
  limits.stopOnMaxDrawdown &&
    limits.maxDrawdownPct.any fun threshold => decide (threshold ≤ portfolio.drawdownPct)

/-! ### The protective stop -/

/-- The stop a position needs: its quantity and price, or none. -/
def evaluateStopLoss (policy : StopLossPolicy) (constraints : InstrumentConstraints)
    (portfolio : PortfolioSnapshot) : Except Failure (Option (ℚ × ℚ)) :=
  if policy.kind = .disabled ∨ portfolio.baseQuantity = 0 then .ok none
  else
    match policy.value with
    | none => FailureKind.assertion.raise
    | some percentage => do
        let rawStop := ctx.mul portfolio.averageEntryPrice (ctx.sub 1 (ctx.div percentage 100))
        let tick := constraints.priceTick
        let stopPrice := ctx.mul (toIntegralDown (ctx.div rawStop tick)) tick
        FailureKind.invalidOrderIntent.unless (decide (0 < stopPrice))
          "O stop loss calculado ficou abaixo do menor tick de preço."
        FailureKind.value.unless (decide (0 < portfolio.baseQuantity))
          "stop loss quantity must be nonnegative"
        return some (portfolio.baseQuantity, stopPrice)

end

end Backtesting
end DryTrade
