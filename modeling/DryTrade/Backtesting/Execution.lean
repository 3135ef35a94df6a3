import DryTrade.Backtesting.Domain

/-!
# Order lifecycle and fill prices

How an order is created, moves between its states, and is priced from one OHLC
candle.

## Main definitions

* `createOrder`, `transitionOrder` — the order lifecycle.
* `quote`, `forceCloseQuote` — the price an order would be filled at.
* `orderPriorityKey` — the order in which eligible orders are visited.

## Main results

* `transitionOrder_eq_ok` — what a lifecycle transition changes.
-/

namespace DryTrade
namespace Backtesting

open MarketData

/-! ### Lifecycle -/

/-- The transitions an order may make. -/
def allowedTransitions : OrderStatus → List OrderStatus
  | .created => [.open, .cancelled, .rejected]
  | .open => [.filled, .cancelled, .expired]
  | .filled => []
  | .cancelled => []
  | .rejected => []
  | .expired => []

/-- `f"{n:012d}"`. -/
def padSequence (n : ℕ) : String :=
  let digits := (toString n).toList
  String.ofList (List.replicate (12 - digits.length) '0' ++ digits)

/-- Create one order that is eligible only on the next candle. -/
def createOrder (intent : OrderIntent) (sequence : ℕ) (createdAt : Instant)
    (createdCandleIndex : ℤ) : Except Failure SimulatedOrder := do
  FailureKind.invalidOrderIntent.unless (decide (1 ≤ sequence)) "A sequência da ordem é inválida."
  return {
    orderId := "O" ++ padSequence sequence
    createdSequence := sequence
    createdAt := createdAt
    createdCandleIndex := createdCandleIndex
    eligibleCandleIndex := createdCandleIndex + 1
    intent := intent
    status := .created
    openedAt := none
    terminalAt := none
    rejectionCode := none }

/-- The record a transition produces. -/
def SimulatedOrder.moved (order : SimulatedOrder) (status : OrderStatus) (eventTime : Instant)
    (rejectionCode : Option String) : SimulatedOrder :=
  match status with
  | .open => { order with status := .open, openedAt := some eventTime }
  | status =>
      { order with status := status, terminalAt := some eventTime, rejectionCode := rejectionCode }

/-- Apply one valid forward-only lifecycle transition. -/
def transitionOrder (order : SimulatedOrder) (status : OrderStatus) (eventTime : Instant)
    (rejectionCode : Option String) : Except Failure SimulatedOrder := do
  FailureKind.invalidOrderIntent.unless ((allowedTransitions order.status).contains status)
    "A transição de estado da ordem é inválida."
  return order.moved status eventTime rejectionCode

theorem transitionOrder_eq_ok {order order' : SimulatedOrder} {status : OrderStatus} {t : Instant}
    {code : Option String} :
    transitionOrder order status t code = .ok order' ↔
      status ∈ allowedTransitions order.status ∧ order' = order.moved status t code := by
  simp only [transitionOrder, bind_eq_ok, FailureKind.unless_eq_ok, List.contains_iff_mem,
    exists_const, pure, Except.pure, Except.ok.injEq]
  exact and_congr_right fun _ => eq_comm

/-- A transition keeps everything but the lifecycle fields. -/
theorem SimulatedOrder.moved_creation (order : SimulatedOrder) (status : OrderStatus) (t : Instant)
    (code : Option String) :
    (order.moved status t code).orderId = order.orderId ∧
      (order.moved status t code).createdSequence = order.createdSequence ∧
      (order.moved status t code).createdAt = order.createdAt ∧
      (order.moved status t code).createdCandleIndex = order.createdCandleIndex ∧
      (order.moved status t code).eligibleCandleIndex = order.eligibleCandleIndex ∧
      (order.moved status t code).intent = order.intent := by
  cases status <;> exact ⟨rfl, rfl, rfl, rfl, rfl, rfl⟩

/-- The status a transition was asked for is the status reached. -/
theorem SimulatedOrder.moved_status (order : SimulatedOrder) (status : OrderStatus) (t : Instant)
    (code : Option String) : (order.moved status t code).status = status := by
  cases status <;> rfl

/-- The priority of an order among those eligible in one candle. -/
def orderPriorityKey (order : SimulatedOrder) : ℤ × ℕ × String :=
  (order.eligibleCandleIndex, order.createdSequence, order.orderId)

/-- Lexicographic comparison of priorities. -/
def priorityLe (a b : SimulatedOrder) : Bool :=
  decide (a.eligibleCandleIndex < b.eligibleCandleIndex) ||
    (a.eligibleCandleIndex == b.eligibleCandleIndex &&
      (decide (a.createdSequence < b.createdSequence) ||
        (a.createdSequence == b.createdSequence && decide (a.orderId ≤ b.orderId))))

/-! ### Prices -/

/-- One price candidate before quantity, cash and risk validation. -/
structure ExecutionQuote where
  basePrice : ℚ
  executionPrice : ℚ
  reason : FillReason
  liquidity : FillLiquidity
  slippageCostPerUnit : ℚ
  deriving DecidableEq, Repr

section

variable (ctx : DecimalContext)

/-- A price moved against an order by the slippage. -/
def adversePrice (slippage : SlippageModel) (basePrice : ℚ) : OrderSide → ℚ
  | .buy => ctx.mul basePrice (ctx.add 1 (ctx.div slippage.fixedBps 10000))
  | .sell => ctx.mul basePrice (ctx.sub 1 (ctx.div slippage.fixedBps 10000))

/-- A taker quote, moved against the order by the slippage. -/
def adverseQuote (slippage : SlippageModel) (basePrice : ℚ) (side : OrderSide)
    (reason : FillReason) (liquidity : FillLiquidity) : Except Failure ExecutionQuote := do
  let execution := adversePrice ctx slippage basePrice side
  FailureKind.invalidOrderIntent.unless (decide (0 < execution))
    "O slippage produziu preço inválido."
  return {
    basePrice := basePrice
    executionPrice := execution
    reason := reason
    liquidity := liquidity
    slippageCostPerUnit := ctx.abs (ctx.sub execution basePrice) }

/-- A maker quote at exactly `price`. -/
def makerQuote (price : ℚ) (reason : FillReason) : ExecutionQuote :=
  ⟨price, price, reason, .maker, 0⟩

/-- A limit order fills at its limit, or at an open beyond it. -/
def limitQuote (side : OrderSide) (limit : ℚ) (candle : Candle) : Option ExecutionQuote :=
  match side with
  | .buy =>
      if limit < candle.low then none
      else if candle.openPrice < limit then some (makerQuote candle.openPrice .limitGap)
      else some (makerQuote limit .limitTouched)
  | .sell =>
      if candle.high < limit then none
      else if limit < candle.openPrice then some (makerQuote candle.openPrice .limitGap)
      else some (makerQuote limit .limitTouched)

/-- A stop order triggers at its stop, or at an open beyond it, as a taker. -/
def stopQuote (slippage : SlippageModel) (side : OrderSide) (stop : ℚ) (candle : Candle) :
    Except Failure (Option ExecutionQuote) :=
  match side with
  | .buy =>
      if candle.high < stop then .ok none
      else if stop < candle.openPrice then
        some <$> adverseQuote ctx slippage candle.openPrice side .stopGap .taker
      else some <$> adverseQuote ctx slippage stop side .stopTriggered .taker
  | .sell =>
      if stop < candle.low then .ok none
      else if candle.openPrice < stop then
        some <$> adverseQuote ctx slippage candle.openPrice side .stopGap .taker
      else some <$> adverseQuote ctx slippage stop side .stopTriggered .taker

/-- A fill quote, or `none` when no trigger exists.  Same-candle fills are
impossible: the eligible candle index must be reached. -/
def quote (slippage : SlippageModel) (order : SimulatedOrder) (candle : Candle)
    (candleIndex : ℕ) : Except Failure (Option ExecutionQuote) :=
  if order.status ≠ .open ∨ (candleIndex : ℤ) < order.eligibleCandleIndex then .ok none
  else
    match order.intent.orderType with
    | .market =>
        some <$> adverseQuote ctx slippage candle.openPrice order.intent.side .marketOpen .taker
    | .limit =>
        match order.intent.limitPrice with
        | some limit => .ok (limitQuote order.intent.side limit candle)
        | none => FailureKind.assertion.raise
    | .stopMarket =>
        match order.intent.stopPrice with
        | some stop => stopQuote ctx slippage order.intent.side stop candle
        | none => FailureKind.assertion.raise

/-- An explicit end-of-run liquidation at the last known close. -/
def forceCloseQuote (slippage : SlippageModel) (price : ℚ) (side : OrderSide) :
    Except Failure ExecutionQuote :=
  adverseQuote ctx slippage price side .forceClose .taker

/-- The fee of a fill. -/
def executionFee (fees : FeeModel) (notional : ℚ) (liquidity : FillLiquidity) :
    Except Failure ℚ := do
  FailureKind.invalidOrderIntent.unless (decide (0 < notional))
    "O notional da execução é inválido."
  return ctx.mul notional (fees.rate ctx liquidity)

/-- Truncate toward zero to avoid increasing exposure silently. -/
def truncateQuantity (quantity step : ℚ) : Except Failure ℚ := do
  FailureKind.invalidOrderIntent.unless (decide (0 ≤ quantity ∧ 0 < step))
    "Quantidade ou step size inválido."
  return ctx.mul (toIntegralDown (ctx.div quantity step)) step

end

/-- `price` is a positive multiple of `tick`. -/
def isTickAligned (price tick : ℚ) : Bool :=
  decide (0 < price) && decide (0 < tick) && (price / tick).den == 1

/-- The quote of an adverse price is determined by its side and slippage. -/
theorem adverseQuote_eq_ok {ctx : DecimalContext} {slippage : SlippageModel} {p : ℚ}
    {side : OrderSide} {reason : FillReason} {liquidity : FillLiquidity} {q : ExecutionQuote}
    (h : adverseQuote ctx slippage p side reason liquidity = .ok q) :
    q.basePrice = p ∧ q.reason = reason ∧ q.liquidity = liquidity ∧ 0 < q.executionPrice ∧
      q.executionPrice = adversePrice ctx slippage p side := by
  simp only [adverseQuote, bind_eq_ok, FailureKind.unless_eq_ok, decide_eq_true_eq, exists_const,
    pure, Except.pure, Except.ok.injEq] at h
  obtain ⟨hpos, rfl⟩ := h
  exact ⟨rfl, rfl, rfl, hpos, rfl⟩

end Backtesting
end DryTrade
