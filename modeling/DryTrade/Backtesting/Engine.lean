import DryTrade.Backtesting.Ledger
import DryTrade.Backtesting.Risk

/-!
# The backtest engine

The candle-by-candle engine: it offers a strategy a view of the past, turns its
intents into orders, fills the orders that a candle triggers, keeps a protective
stop behind the position, and records everything in the ledger.

The strategy is a deterministic state machine; its state travels in the engine
state, which also keeps the list of callbacks made so far with the contexts they
were given.

## Main definitions

* `Strategy`, `StrategyContext`, `StrategyCallback` — the plugin boundary.
* `EngineState` — everything the loop carries from one candle to the next.
* `processCandle` — one candle.
* `run` — a whole run.
-/

namespace DryTrade
namespace Backtesting

open MarketData Indicators

/-! ### The strategy boundary -/

/-- Bounded view of already-processed engine state. -/
structure StrategyContext where
  snapshot : DatasetSnapshot
  candleIndex : ℤ
  currentCandle : Option Candle
  history : List Candle
  portfolio : PortfolioSnapshot
  openOrders : List SimulatedOrder
  lastFill : Option Fill
  riskHalt : Bool
  marketRegime : Option MarketRegimePoint
  deriving DecidableEq

/-- The history is in strict chronological order. -/
def isChronological : List Candle → Bool
  | a :: b :: rest => decide (a.openTime < b.openTime) && isChronological (b :: rest)
  | _ => true

/-- The checks made on the regime a context exposes. -/
def checkRegime (current : Candle) : Option MarketRegimePoint → Except Failure Unit
  | none => .ok ()
  | some point => do
      let _ ← point.validate
      FailureKind.value.unless (decide (point.eventTime = current.closeTime))
        "strategy market_regime must align to the current candle"

/-- The checks of the constructor of a context. -/
def StrategyContext.validate (c : StrategyContext) : Except Failure StrategyContext := do
  FailureKind.value.unless (decide (-1 ≤ c.candleIndex)) "strategy candle_index is invalid"
  match c.currentCandle with
  | none => do
      FailureKind.value.unless (decide (c.candleIndex = -1) && c.history.isEmpty)
        "start context cannot expose candle history"
      FailureKind.value.unless c.marketRegime.isNone "start context cannot expose a market regime"
      return c
  | some current => do
      FailureKind.value.unless
        (decide (0 ≤ c.candleIndex) && decide (c.history.getLast? = some current))
        "strategy history must end at the current candle"
      FailureKind.value.unless (isChronological c.history)
        "strategy history must be in strict chronological order"
      FailureKind.value.unless (c.history.all fun candle => decide (candle.openTime ≤ current.openTime))
        "strategy context contains a future candle"
      FailureKind.value.unless (c.openOrders.all fun order => order.status == .open)
        "strategy open_orders must contain only OPEN orders"
      checkRegime current c.marketRegime
      return c

/-- A strategy as a deterministic state machine over the contexts it is given. -/
structure Strategy (σ : Type) where
  descriptor : StrategyDescriptor
  init : σ
  onStart : StrategyContext → σ → Except Failure (List OrderIntent × σ)
  onCandle : StrategyContext → Candle → σ → Except Failure (List OrderIntent × σ)
  onFill : StrategyContext → Fill → σ → Except Failure (List OrderIntent × σ)
  onEnd : StrategyContext → σ → Except Failure σ
  /-- Absent when the plugin has no warmup callback; the flag says whether the
  callback returned anything. -/
  onWarmupCandle : Option (StrategyContext → Candle → σ → Except Failure (Bool × σ))

/-- One callback with what the strategy was given. -/
inductive StrategyCallback
  | start (context : StrategyContext)
  | warmup (context : StrategyContext) (candle : Candle)
  | candle (context : StrategyContext) (candle : Candle)
  | fill (context : StrategyContext) (fill : Fill)
  | finish (context : StrategyContext)
  deriving DecidableEq

/-- Only a strategy failure passes through a callback with its own text. -/
def strategyCall {α : Type} : Except Failure α → Except Failure α
  | .ok a => .ok a
  | .error e => if e.kind = .strategyFailure then .error e else FailureKind.strategyFailure.raise

/-- The snapshot boundary the engine reads; `none` is a call that raised. -/
structure BacktestSnapshotReader where
  openSnapshot : String → Option DatasetSnapshot
  iterCandles : DataRange → List Candle
  verifyUnchanged : Option DatasetSnapshot

/-! ### The state of the loop -/

/-- Everything the loop carries from one candle to the next. -/
structure EngineState (σ : Type) where
  portfolio : PortfolioState
  ledger : List LedgerEntry
  orders : List SimulatedOrder
  fills : List Fill
  equity : List EquityPoint
  marketRegimes : List MarketRegimePoint
  history : List Candle
  riskHalt : Bool
  lastFill : Option Fill
  lastCandle : Option Candle
  contextCandlesSeen : ℕ
  candlesProcessed : ℕ
  regimeAccumulator : Option MarketRegimeAccumulator
  lastClosedRegime : Option MarketRegimePoint
  pendingStartIntents : List OrderIntent
  strategyState : σ
  callbacks : List StrategyCallback

/-- What a run returns. -/
structure BacktestExecutionResult where
  snapshot : DatasetSnapshot
  candlesProcessed : ℕ
  orders : List SimulatedOrder
  fills : List Fill
  ledger : List LedgerEntry
  equityCurve : List EquityPoint
  finalPortfolio : PortfolioSnapshot
  riskHalt : Bool
  marketRegimes : List MarketRegimePoint
  deriving DecidableEq

/-- `_ENGINE_STOP_LOSS_TAG`. -/
def engineStopLossTag : String := "engine-stop-loss"

/-- The order carries the tag of the engine's own stop. -/
def SimulatedOrder.isEngineStop (order : SimulatedOrder) : Bool :=
  order.intent.clientTag == some engineStopLossTag

theorem isSafeTag_engineStopLossTag : isSafeTag engineStopLossTag = true := by decide

theorem isSafeTag_forceClose : isSafeTag "force-close" = true := by decide

/-- The orders a list still has open. -/
def openOrderCount (orders : List SimulatedOrder) : ℕ :=
  orders.countP fun order => order.status == .open

/-- The OPEN orders in priority order. -/
def openOrders (orders : List SimulatedOrder) : List SimulatedOrder :=
  (orders.filter fun order => order.status == .open).insertionSort
    fun a b => priorityLe a b = true

/-- The engine's own stops come before every other order. -/
def eligibleLe (a b : ℕ × SimulatedOrder) : Bool :=
  match a.2.isEngineStop, b.2.isEngineStop with
  | true, false => true
  | false, true => false
  | _, _ => priorityLe a.2 b.2

/-- The positions of the orders a candle may fill, in the order they are visited. -/
def eligibleOrderPositions (orders : List SimulatedOrder) (candleIndex : ℕ) : List ℕ :=
  let candidates := (orders.zipIdx.map fun p => (p.2, p.1)).filter fun p =>
    p.2.status == .open && decide (p.2.eligibleCandleIndex ≤ (candleIndex : ℤ))
  (candidates.insertionSort fun a b => eligibleLe a b = true).map Prod.fst

/-- A DAY order of an earlier calendar day. -/
def dayExpired (order : SimulatedOrder) (candle : Candle) : Bool :=
  order.intent.timeInForce == .day &&
    decide (Instant.date order.createdAt < Instant.date candle.openTime)

/-- Apply a transition to an order that satisfies `p`. -/
def transitionIf (p : SimulatedOrder → Bool) (status : OrderStatus) (eventTime : Instant)
    (order : SimulatedOrder) : Except Failure SimulatedOrder :=
  if p order then transitionOrder order status eventTime none else .ok order

/-- Apply a transition to every order that satisfies `p`. -/
def transitionWhere (p : SimulatedOrder → Bool) (status : OrderStatus) (eventTime : Instant) :
    List SimulatedOrder → Except Failure (List SimulatedOrder)
  | [] => .ok []
  | order :: rest => do
      let order' ← transitionIf p status eventTime order
      let rest' ← transitionWhere p status eventTime rest
      return order' :: rest'

/-- Cancel the OPEN orders, all but the engine's stop when it is preserved. -/
def cancelOpenOrders (orders : List SimulatedOrder) (eventTime : Instant)
    (preserveEngineStopLoss : Bool) : Except Failure (List SimulatedOrder) :=
  transitionWhere
    (fun order => order.status == .open && !(preserveEngineStopLoss && order.isEngineStop))
    .cancelled eventTime orders

/-- The published observation of one closed candle. -/
def equityPoint (candleIndex : ℕ) (candle : Candle) (portfolio : PortfolioState) : EquityPoint where
  candleIndex := candleIndex
  eventTime := candle.closeTime
  closePrice := candle.close
  quoteCash := portfolio.quoteCash
  baseQuantity := portfolio.baseQuantity
  equity := portfolio.equity
  peakEquity := portfolio.peakEquity
  drawdown := portfolio.drawdown
  drawdownPct := portfolio.drawdownPct

/-- `history.append(candle)` on a deque of bounded length. -/
def pushHistory (window : ℕ) (history : List Candle) (candle : Candle) : List Candle :=
  (history ++ [candle]).drop (history.length + 1 - window)

/-- The checks on a candle delivered by the reader. -/
def validateCandle (candle : Candle) (previous : Option Candle) : Except Failure Unit := do
  FailureKind.unsupportedBacktestMarket.require (candle.marketType == .spot)
  FailureKind.snapshotInvalid.unless candle.isClosed "O snapshot contém candle aberto."
  FailureKind.snapshotInvalid.unless (previous.all fun p => decide (p.openTime < candle.openTime))
    "Os candles não estão em ordem estrita."
  FailureKind.snapshotInvalid.unless (previous.all fun p => p.identity == candle.identity)
    "O snapshot mistura instrumentos ou timeframes."

section

variable (ctx : DecimalContext) (calculateEntryHash : String → RawLedgerEntry → String)
variable {σ : Type} (strategy : Strategy σ) (config : BacktestConfig) (snapshot : DatasetSnapshot)

/-! ### Contexts -/

/-- The context of a callback over the given history and regime. -/
def contextOf (state : EngineState σ) (candleIndex : ℤ) (currentCandle : Option Candle)
    (history : List Candle) (lastFill : Option Fill) (riskHalt : Bool)
    (marketRegime : Option MarketRegimePoint) : Except Failure StrategyContext :=
  StrategyContext.validate
    { snapshot := snapshot
      candleIndex := candleIndex
      currentCandle := currentCandle
      history := history
      portfolio := state.portfolio.snapshot
      openOrders := openOrders state.orders
      lastFill := lastFill
      riskHalt := riskHalt
      marketRegime := marketRegime }

/-- The context of a fill: it ends at the candle before the one being filled in. -/
def contextFromPreviousHistory (state : EngineState σ) (previousHistory : List Candle)
    (lastFill : Fill) : Except Failure StrategyContext :=
  match previousHistory.getLast? with
  | some current =>
      contextOf snapshot state (max 0 ((lastFill.candleIndex : ℤ) - 1)) (some current)
        previousHistory (some lastFill) state.riskHalt state.lastClosedRegime
  | none => contextOf snapshot state (-1) none [] (some lastFill) state.riskHalt none

/-! ### Orders -/

/-- The decision on one intent after sizing, with the intent it is about. -/
def decideIntent (intent : OrderIntent) (portfolio : PortfolioSnapshot) (referencePrice : ℚ)
    (orders : List SimulatedOrder) (riskHalt : Bool) :
    Except Failure (RiskDecision × OrderIntent) := do
  let reserve := if config.riskLimits.allowAllIn then 0 else config.riskLimits.minimumQuoteReserve
  let sizing ← size ctx (positionSizingPolicyFor config.execution) config.constraints
    config.execution.fees config.execution.slippage reserve intent portfolio referencePrice
  if h : 0 < sizing.quantity then do
    let sized := intent.withQuantity sizing.quantity h
    let decision ← evaluateOrder ctx config.constraints config.riskLimits config.execution.fees
      config.execution.slippage sized portfolio referencePrice (openOrderCount orders)
      orders.length riskHalt
    return (decision, sized)
  else return (.rejected .invalidQuantity 0, intent)

/-- The order a decision becomes. -/
def orderOfDecision (decision : RiskDecision × OrderIntent) (sequence : ℕ) (eventTime : Instant)
    (createdCandleIndex : ℤ) : Except Failure SimulatedOrder :=
  match decision with
  | (.accepted normalized _, _) => do
      let order ← createOrder normalized sequence eventTime createdCandleIndex
      transitionOrder order .open eventTime none
  | (.rejected code _, sized) => do
      let order ← createOrder sized sequence eventTime createdCandleIndex
      transitionOrder order .rejected eventTime (some code.value)

/-- Submit the intents of one callback, one after the other. -/
def submitIntents (createdCandleIndex : ℤ) (eventTime : Instant) (referencePrice : ℚ)
    (portfolio : PortfolioState) (riskHalt : Bool) :
    List OrderIntent → List SimulatedOrder → Except Failure (List SimulatedOrder)
  | [], orders => .ok orders
  | intent :: rest, orders => do
      FailureKind.strategyFailure.unless (intent.clientTag != some engineStopLossTag)
        "A estratégia usou uma client_tag reservada pelo engine."
      FailureKind.maximumEventsExceeded.unless (decide (orders.length < config.maxOrders))
        "O backtest excedeu o limite seguro de ordens."
      let decision ← decideIntent ctx config intent portfolio.snapshot referencePrice orders riskHalt
      let order ← orderOfDecision decision (orders.length + 1) eventTime createdCandleIndex
      submitIntents createdCandleIndex eventTime referencePrice portfolio riskHalt rest
        (orders ++ [order])

/-- The intent of a protective stop. -/
def stopLossIntent (quantity stopPrice : ℚ) (hq : 0 < quantity) (hp : 0 < stopPrice) :
    OrderIntent where
  side := .sell
  orderType := .stopMarket
  quantity := quantity
  timeInForce := .gtc
  limitPrice := none
  stopPrice := some stopPrice
  clientTag := some engineStopLossTag
  quantity_pos := hq
  prices_valid := ⟨⟨stopPrice, rfl, hp⟩, rfl⟩
  clientTag_safe := by
    intro t ht
    cases ht
    exact isSafeTag_engineStopLossTag

/-- Place the protective stop a decision asks for. -/
def placeStopLoss (orders : List SimulatedOrder) (eventTime : Instant) (createdCandleIndex : ℤ) :
    Option (ℚ × ℚ) → Except Failure (List SimulatedOrder)
  | none => .ok orders
  | some (quantity, stopPrice) => do
      FailureKind.maximumEventsExceeded.unless
        (decide (orders.length < min config.maxOrders config.riskLimits.maxTotalOrders))
        "A proteção de stop loss excederia o limite seguro de ordens."
      FailureKind.maximumEventsExceeded.unless
        (decide (openOrderCount orders < config.riskLimits.maxOpenOrders))
        "A proteção de stop loss excederia o limite de ordens abertas."
      if h : 0 < quantity ∧ 0 < stopPrice then do
        let order ← createOrder (stopLossIntent quantity stopPrice h.1 h.2) (orders.length + 1)
          eventTime createdCandleIndex
        let order ← transitionOrder order .open eventTime none
        return orders ++ [order]
      else FailureKind.assertion.raise

/-- Replace the protective stop by the one the position now needs. -/
def reconcileStopLoss (portfolio : PortfolioState) (orders : List SimulatedOrder)
    (eventTime : Instant) (createdCandleIndex : ℤ) : Except Failure (List SimulatedOrder) := do
  let orders ← transitionWhere (fun order => order.status == .open && order.isEngineStop)
    .cancelled eventTime orders
  let decision ← evaluateStopLoss ctx (stopLossPolicyFor config.riskLimits) config.constraints
    portfolio.snapshot
  placeStopLoss config orders eventTime createdCandleIndex decision

/-- Orders, fills, ledger entries and equity points stay within the limit. -/
def checkEventLimit (state : EngineState σ) : Except Failure Unit :=
  FailureKind.maximumEventsExceeded.require
    (decide (state.orders.length + state.fills.length + state.ledger.length +
      state.equity.length ≤ config.maxEvents))

/-! ### Fills -/

/-- The fill of an order at a quote. -/
def makeFill (order : SimulatedOrder) (q : ExecutionQuote) (eventTime : Instant)
    (candleIndex fillSequence : ℕ) : Except Failure Fill := do
  let notional := ctx.mul order.intent.quantity q.executionPrice
  let fee ← executionFee ctx config.execution.fees notional q.liquidity
  Fill.validate ctx
    { fillId := "F" ++ padSequence fillSequence
      orderId := order.orderId
      reason := q.reason
      liquidity := q.liquidity
      side := order.intent.side
      quantity := order.intent.quantity
      basePrice := q.basePrice
      executionPrice := q.executionPrice
      notional := notional
      fee := fee
      slippageCost := ctx.mul q.slippageCostPerUnit order.intent.quantity
      eventTime := eventTime
      candleIndex := candleIndex }

/-- Replace the order at `position` by its transition. -/
def transitionAt (state : EngineState σ) (position : ℕ) (order : SimulatedOrder)
    (status : OrderStatus) (eventTime : Instant) : Except Failure (EngineState σ) := do
  let order' ← transitionOrder order status eventTime none
  return { state with orders := state.orders.set position order' }

/-- Apply a fill that passed the risk check, reconcile the stop, tell the strategy and
submit what it answers. -/
def applyOrderFill (candle : Candle) (candleIndex : ℕ) (previousHistory : List Candle)
    (state : EngineState σ) (position : ℕ) (order : SimulatedOrder) (fill : Fill) :
    Except Failure (EngineState σ) := do
  let mutation ← applyFill ctx state.portfolio fill
  let ledger ← recordFill ctx calculateEntryHash state.ledger fill mutation
  let filled ← transitionOrder order .filled candle.openTime none
  let orders ← reconcileStopLoss ctx config mutation.after (state.orders.set position filled)
    candle.openTime candleIndex
  let state := { state with
    portfolio := mutation.after
    ledger := ledger
    fills := state.fills ++ [fill]
    lastFill := some fill
    orders := orders }
  let context ← contextFromPreviousHistory snapshot state previousHistory fill
  let (intents, strategyState) ← strategyCall (strategy.onFill context fill state.strategyState)
  let orders ← submitIntents ctx config candleIndex candle.openTime fill.executionPrice
    state.portfolio state.riskHalt intents state.orders
  let state := { state with
    orders := orders
    strategyState := strategyState
    callbacks := state.callbacks ++ [.fill context fill] }
  checkEventLimit config state
  return state

/-- Fill, refuse or expire an order that has a quote. -/
def fillQuoted (candle : Candle) (candleIndex : ℕ) (previousHistory : List Candle)
    (state : EngineState σ) (position : ℕ) (order : SimulatedOrder) (q : ExecutionQuote) :
    Except Failure (EngineState σ) := do
  let fill ← makeFill ctx config order q candle.openTime candleIndex (state.fills.length + 1)
  if order.isEngineStop = false ∧
      (validateFill ctx config.constraints config.riskLimits fill state.portfolio.snapshot).isSome
  then transitionAt state position order .cancelled candle.openTime
  else
    applyOrderFill ctx calculateEntryHash strategy config snapshot candle candleIndex
      previousHistory state position order fill

/-- Visit one order of the walked positions. -/
def visitOrder (candle : Candle) (candleIndex : ℕ) (previousHistory : List Candle)
    (state : EngineState σ) (position : ℕ) : Except Failure (EngineState σ) :=
  match state.orders[position]? with
  | none => FailureKind.assertion.raise
  | some order =>
      if dayExpired order candle then transitionAt state position order .expired candle.openTime
      else do
        let q ← quote ctx config.execution.slippage order candle candleIndex
        match q with
        | some q =>
            fillQuoted ctx calculateEntryHash strategy config snapshot candle candleIndex
              previousHistory state position order q
        | none =>
            if order.intent.timeInForce = .ioc ∧ order.eligibleCandleIndex ≤ (candleIndex : ℤ) then
              transitionAt state position order .expired candle.closeTime
            else .ok state

/-! ### One candle -/

/-- Update the regime accumulator, when the run has one. -/
def updateRegime (candle : Candle) : Option MarketRegimeAccumulator →
    Except Failure (Option MarketRegimePoint × Option MarketRegimeAccumulator)
  | none => .ok (none, none)
  | some acc => do
      let (point, acc) ← acc.update ctx candle
      return (some point, some acc)

/-- The strategy is only shown a warmup candle and may not answer. -/
def warmupCandle (regime : Option MarketRegimePoint) (state : EngineState σ) (candle : Candle) :
    Except Failure (EngineState σ) := do
  let state := { state with history := pushHistory config.historyWindow state.history candle }
  let context ← contextOf snapshot state ((state.contextCandlesSeen : ℤ) - 1) (some candle)
    state.history none false regime
  match strategy.onWarmupCandle with
  | none => FailureKind.strategyFailure.raise
  | some callback => do
      let (answered, strategyState) ← strategyCall (callback context candle state.strategyState)
      FailureKind.strategyFailure.unless (!answered) "on_warmup_candle não pode produzir intents"
      return { state with
        strategyState := strategyState
        callbacks := state.callbacks ++ [.warmup context candle]
        lastClosedRegime := regime }

/-- Submit the intents of `on_start` on the first evaluated candle. -/
def submitPendingStart (state : EngineState σ) (candle : Candle) :
    Except Failure (EngineState σ) :=
  if state.candlesProcessed = 0 ∧ state.pendingStartIntents ≠ [] then do
    let orders ← submitIntents ctx config (-1) candle.openTime candle.openPrice state.portfolio
      state.riskHalt state.pendingStartIntents state.orders
    let state := { state with orders := orders }
    checkEventLimit config state
    return state
  else .ok state

/-- The part of an evaluated candle before its close: the start intents, then every
eligible order. -/
def fillPhase (state : EngineState σ) (candle : Candle) : Except Failure (EngineState σ) := do
  let previousHistory := state.history
  let candleIndex := state.candlesProcessed
  let state ← submitPendingStart ctx config state candle
  (eligibleOrderPositions state.orders candleIndex).foldlM
    (visitOrder ctx calculateEntryHash strategy config snapshot candle candleIndex previousHistory)
    state

/-- Mark the portfolio at the close and publish the observation. -/
def markClose (state : EngineState σ) (candle : Candle) : Except Failure (EngineState σ) := do
  let portfolio ← markToMarket ctx state.portfolio candle.close
  let ledger ← recordMark ctx calculateEntryHash state.ledger portfolio candle.closeTime
    state.candlesProcessed false
  return { state with
    portfolio := portfolio
    ledger := ledger
    equity := state.equity ++ [equityPoint state.candlesProcessed candle portfolio] }

/-- Halt the run when the drawdown requires it. -/
def haltOnDrawdown (state : EngineState σ) (candle : Candle) : Except Failure (EngineState σ) :=
  if state.riskHalt = false ∧ drawdownHaltRequired config.riskLimits state.portfolio.snapshot then do
    let orders ← cancelOpenOrders state.orders candle.closeTime true
    return { state with riskHalt := true, orders := orders }
  else .ok state

/-- The rest of an evaluated candle: mark, halt, then the candle callback. -/
def closePhase (regime : Option MarketRegimePoint) (state : EngineState σ) (candle : Candle) :
    Except Failure (EngineState σ) := do
  let state ← markClose ctx calculateEntryHash state candle
  let state ← haltOnDrawdown config state candle
  let state := { state with history := pushHistory config.historyWindow state.history candle }
  let context ← contextOf snapshot state state.candlesProcessed (some candle) state.history
    state.lastFill state.riskHalt regime
  let (intents, strategyState) ← strategyCall (strategy.onCandle context candle state.strategyState)
  let orders ← submitIntents ctx config state.candlesProcessed candle.closeTime candle.close
    state.portfolio state.riskHalt intents state.orders
  let state := { state with
    orders := orders
    strategyState := strategyState
    callbacks := state.callbacks ++ [.candle context candle] }
  checkEventLimit config state
  return { state with
    marketRegimes := state.marketRegimes ++ regime.toList
    lastClosedRegime := regime
    candlesProcessed := state.candlesProcessed + 1 }

/-- The bookkeeping common to every candle of the read context. -/
def admitCandle (state : EngineState σ) (candle : Candle) :
    Except Failure (EngineState σ × Option MarketRegimePoint) := do
  FailureKind.maximumCandlesExceeded.require (decide (state.contextCandlesSeen < config.maxCandles))
  validateCandle candle state.lastCandle
  let (regime, accumulator) ← updateRegime ctx candle state.regimeAccumulator
  return ({ state with
    regimeAccumulator := accumulator
    contextCandlesSeen := state.contextCandlesSeen + 1
    lastCandle := some candle }, regime)

/-- One candle of the read context. -/
def processCandle (state : EngineState σ) (candle : Candle) : Except Failure (EngineState σ) := do
  let (state, regime) ← admitCandle ctx config state candle
  if candle.openTime < (evaluationRangeFor config).start then
    warmupCandle strategy config snapshot regime state candle
  else do
    let state ← fillPhase ctx calculateEntryHash strategy config snapshot state candle
    closePhase ctx calculateEntryHash strategy config snapshot regime state candle

/-! ### A whole run -/

/-- The lifecycle declared by the configuration fits the strategy and its range. -/
def checkLifecycle : Except Failure Unit :=
  if strategyLifecycleVersionFor config = 1 then
    FailureKind.strategyFailure.unless
      (decide ((evaluationRangeFor config).start ≤ config.dataRange.start))
      "Lifecycle 1 não permite candles de warmup."
  else
    FailureKind.strategyFailure.unless strategy.onWarmupCandle.isSome
      "A estratégia não suporta o lifecycle de warmup exigido."

/-- Open the snapshot of the configuration and check that it covers the range. -/
def openSnapshotFor (reader : BacktestSnapshotReader) : Except Failure DatasetSnapshot :=
  match reader.openSnapshot config.snapshotId with
  | none => FailureKind.snapshotInvalid.raise
  | some snapshot => do
      FailureKind.snapshotInvalid.unless (snapshot.snapshotId == config.snapshotId)
        "O snapshot aberto possui identidade divergente."
      FailureKind.snapshotInvalid.unless
        (decide (snapshot.dataRange.start ≤ config.dataRange.start) &&
          decide (config.dataRange.stop ≤ snapshot.dataRange.stop))
        "O intervalo do backtest excede a cobertura do snapshot."
      return snapshot

/-- The state before the first candle, after `on_start`. -/
def startState : Except Failure (EngineState σ) := do
  let portfolio ← initializePortfolio ctx config.initialCapital
  let ledger ← recordInitialCapital ctx calculateEntryHash [] config.initialCapital
    (evaluationRangeFor config).start
  let state : EngineState σ :=
    { portfolio := portfolio
      ledger := ledger
      orders := []
      fills := []
      equity := []
      marketRegimes := []
      history := []
      riskHalt := false
      lastFill := none
      lastCandle := none
      contextCandlesSeen := 0
      candlesProcessed := 0
      regimeAccumulator := (marketRegimePolicyFor config).map MarketRegimeAccumulator.init
      lastClosedRegime := none
      pendingStartIntents := []
      strategyState := strategy.init
      callbacks := [] }
  let context ← contextOf snapshot state (-1) none [] none false none
  let (intents, strategyState) ← strategyCall (strategy.onStart context state.strategyState)
  return { state with
    pendingStartIntents := intents
    strategyState := strategyState
    callbacks := [.start context] }

/-- The candles of a stream that the loop processes: it skips those before the range
and stops at the first one past it. -/
def contextCandles (candles : List Candle) : List Candle :=
  (candles.takeWhile fun c => decide (c.openTime < config.dataRange.stop)).filter
    fun c => decide (config.dataRange.start ≤ c.openTime)

/-- The order a forced close is booked under. -/
def forceCloseIntent (quantity : ℚ) (h : 0 < quantity) : OrderIntent where
  side := .sell
  orderType := .market
  quantity := quantity
  timeInForce := .ioc
  limitPrice := none
  stopPrice := none
  clientTag := some "force-close"
  quantity_pos := h
  prices_valid := marketPrices_valid
  clientTag_safe := by
    intro t ht
    cases ht
    exact isSafeTag_forceClose

/-- Sell the whole position at the last close and mark again. -/
def forceClose (state : EngineState σ) (candle : Candle)
    (h : 0 < state.portfolio.baseQuantity) : Except Failure (EngineState σ) := do
  FailureKind.maximumEventsExceeded.unless
    (decide (state.orders.length < min config.maxOrders config.riskLimits.maxTotalOrders))
    "O fechamento forçado excederia o limite seguro de ordens."
  let candleIndex := state.candlesProcessed - 1
  let order ← createOrder (forceCloseIntent state.portfolio.baseQuantity h)
    (state.orders.length + 1) candle.openTime ((candleIndex : ℤ) - 1)
  let order ← transitionOrder order .open candle.openTime none
  let q ← forceCloseQuote ctx config.execution.slippage candle.close .sell
  let fill ← makeFill ctx config order q candle.closeTime candleIndex (state.fills.length + 1)
  let mutation ← applyFill ctx state.portfolio fill
  let ledger ← recordFill ctx calculateEntryHash state.ledger fill mutation
  let closed ← transitionOrder order .filled candle.closeTime none
  let portfolio ← markToMarket ctx mutation.after candle.close
  let orders ← reconcileStopLoss ctx config portfolio (state.orders ++ [closed]) candle.closeTime
    candleIndex
  return { state with
    portfolio := portfolio
    ledger := ledger
    orders := orders
    fills := state.fills ++ [fill]
    lastFill := some fill
    equity := state.equity.dropLast ++ [equityPoint candleIndex candle portfolio] }

/-- `cancel_open_orders_at_end`. -/
def cancelAtEnd (cancelOpenOrdersAtEnd : Bool) (state : EngineState σ) (candle : Candle) :
    Except Failure (EngineState σ) :=
  if cancelOpenOrdersAtEnd then do
    let orders ← cancelOpenOrders state.orders candle.closeTime false
    return { state with orders := orders }
  else .ok state

/-- `force_close_at_end`. -/
def forceCloseAtEnd (state : EngineState σ) (candle : Candle) : Except Failure (EngineState σ) :=
  if h : config.execution.forceCloseAtEnd = true ∧ 0 < state.portfolio.baseQuantity then
    forceClose ctx calculateEntryHash config state candle h.2
  else .ok state

/-- The end of a run, after the last candle. -/
def finishRun (cancelOpenOrdersAtEnd : Bool) (state : EngineState σ) :
    Except Failure (EngineState σ) :=
  match state.lastCandle with
  | none =>
      FailureKind.snapshotInvalid.raiseWith "O intervalo do backtest não contém candles."
  | some candle => do
      FailureKind.snapshotInvalid.unless (state.candlesProcessed != 0)
        "O intervalo do backtest não contém candles."
      let state ← cancelAtEnd cancelOpenOrdersAtEnd state candle
      let state ← forceCloseAtEnd ctx calculateEntryHash config state candle
      let ledger ← recordMark ctx calculateEntryHash state.ledger state.portfolio candle.closeTime
        ((state.candlesProcessed : ℤ) - 1) true
      let state := { state with ledger := ledger }
      let context ← contextOf snapshot state ((state.candlesProcessed : ℤ) - 1) (some candle)
        state.history state.lastFill state.riskHalt state.lastClosedRegime
      let strategyState ← strategyCall (strategy.onEnd context state.strategyState)
      let state := { state with
        strategyState := strategyState
        callbacks := state.callbacks ++ [.finish context] }
      checkEventLimit config state
      return state

/-- The state after every candle of a stream, before the end of the run. -/
def runCandles (candles : List Candle) : Except Failure (EngineState σ) := do
  let state ← startState ctx calculateEntryHash strategy config snapshot
  (contextCandles config candles).foldlM
    (processCandle ctx calculateEntryHash strategy config snapshot) state

/-- The published result of a final state. -/
def EngineState.result (state : EngineState σ) : BacktestExecutionResult where
  snapshot := snapshot
  candlesProcessed := state.candlesProcessed
  orders := state.orders
  fills := state.fills
  ledger := state.ledger
  equityCurve := state.equity
  finalPortfolio := state.portfolio.snapshot
  riskHalt := state.riskHalt
  marketRegimes := state.marketRegimes

/-- A whole run: its result and the callbacks it made. -/
def run (reader : BacktestSnapshotReader) (cancelOpenOrdersAtEnd : Bool) :
    Except Failure (BacktestExecutionResult × List StrategyCallback) := do
  FailureKind.strategyFailure.unless (decide (strategy.descriptor = config.strategy))
    "A identidade da estratégia diverge da configuração."
  checkLifecycle strategy config
  let snapshot ← openSnapshotFor config reader
  let state ← runCandles ctx calculateEntryHash strategy config snapshot
    (reader.iterCandles config.dataRange)
  let state ← finishRun ctx calculateEntryHash strategy config snapshot cancelOpenOrdersAtEnd state
  FailureKind.snapshotChanged.require (decide (reader.verifyUnchanged = some snapshot))
  return (state.result snapshot, state.callbacks)

end

/-! ### A sample run

A strategy that buys one unit on the first candle it sees. -/

theorem oneUnit_pos : (0 : ℚ) < 1 := one_pos

/-- A market order for one unit. -/
def buyOneUnit : OrderIntent where
  side := .buy
  orderType := .market
  quantity := 1
  timeInForce := .gtc
  limitPrice := none
  stopPrice := none
  clientTag := none
  quantity_pos := oneUnit_pos
  prices_valid := marketPrices_valid
  clientTag_safe := untagged_safe

/-- Buys one unit on the first candle, then holds; the state says whether it bought. -/
def buyAndHold : Strategy Bool where
  descriptor := ⟨"buy_and_hold", "1", []⟩
  init := false
  onStart := fun _ bought => .ok ([], bought)
  onCandle := fun _ _ bought => .ok (if bought then [] else [buyOneUnit], true)
  onFill := fun _ _ bought => .ok ([], bought)
  onEnd := fun _ bought => .ok bought
  onWarmupCandle := none

/-- The first `days` days. -/
def firstDays (days : ℕ) (h : 0 < days) : DataRange where
  start := 0
  stop := days * Instant.microsecondsPerDay
  start_lt_stop := Instant.days_pos h

theorem sampleCapital_pos : (0 : ℚ) < 1000 := by norm_num

theorem one_le_ten : 1 ≤ 10 := by decide

theorem ten_le_hundred : 10 ≤ 100 := by decide

theorem one_le_hundred : 1 ≤ 100 := by decide

/-- A thousand of capital over the first thirty days, with the given taker fee. -/
def holdConfig (takerFeeBps : ℚ) (h : ValidBps takerFeeBps) (forceClose : Bool) : BacktestConfig where
  snapshotId := "snapshot"
  dataRange := firstDays 30 (by decide)
  strategy := buyAndHold.descriptor
  initialCapital := 1000
  execution :=
    { fees :=
        { makerFeeBps := 0
          takerFeeBps := takerFeeBps
          maker_valid := validBps_zero
          taker_valid := h }
      slippage := ⟨0, validBps_zero⟩
      forceCloseAtEnd := forceClose
      positionSizing := none
      sizing_extended := by simp }
  constraints :=
    { minimumQuantity := 1 / 100
      quantityStep := 1 / 100
      priceTick := 1 / 100
      minimumNotional := 0
      maximumNotional := none
      minimumQuantity_pos := by norm_num
      quantityStep_pos := by norm_num
      priceTick_pos := by norm_num
      minimumNotional_nonneg := noReserve_nonneg
      maximumNotional_ge := by simp }
  riskLimits :=
    { maxOrderNotional := none
      maxPositionNotional := none
      maxOpenOrders := 10
      maxTotalOrders := 10
      maxDrawdownPct := none
      stopOnMaxDrawdown := false
      allowAllIn := true
      minimumQuoteReserve := 0
      stopLoss := none
      maxOrderNotional_pos := by simp
      maxPositionNotional_pos := by simp
      maxOpenOrders_pos := one_le_ten
      maxOpenOrders_le := le_rfl
      maxDrawdownPct_range := by simp
      reserve_nonneg := noReserve_nonneg
      stopLoss_extended := by simp }
  historyWindow := 10
  maxCandles := 100
  maxOrders := 10
  maxEvents := 100
  evaluation := none
  marketRegimePolicy := none
  initialCapital_pos := sampleCapital_pos
  historyWindow_pos := one_le_ten
  historyWindow_le := ten_le_hundred
  maxOrders_pos := one_le_ten
  maxEvents_pos := one_le_hundred
  evaluation_inside := by simp

/-- A snapshot of the first thirty days. -/
def holdSnapshot : DatasetSnapshot where
  snapshotId := "snapshot"
  datasetKey := "BTCUSDT-1d"
  datasetVersion := "1"
  checksum := ""
  dataRange := firstDays 30 (by decide)
  partitions := []
  manifestPath := ""
  createdAt := ""

/-- A reader that delivers the given candles. -/
def readerOf (candles : List Candle) : BacktestSnapshotReader where
  openSnapshot := fun _ => some holdSnapshot
  iterCandles := fun _ => candles
  verifyUnchanged := some holdSnapshot

example : (run .exact (fun _ _ => "") buyAndHold (holdConfig 10 validBps_ten true)
    (readerOf [dailyCandle 0 100 100, dailyCandle 1 100 110]) true).map
      (fun r => r.1.equityCurve.map (·.equity)) = .ok [1000, 1000 - 1 / 10 + 10 - 11 / 100] := by
  decide +kernel

end Backtesting
end DryTrade
