import DryTrade.PaperTrading.Domain

/-!
# The trade journal

The journal joins every fill of a published state to its order, sorts the joined
executions by time, candle, order sequence and fill id, and walks them once: a buy
opens or enlarges the current trade, a sell reduces it, and a trade closes when the
position is flat again.  At the end the accounts of the walk must be those of the
published portfolio.  Amounts are exact.

## Main definitions

* `PaperTradeExecution`, `fromDomain` — one fill joined to its order.
* `TradeAccumulator` — the trade being rebuilt, and the `PaperTrade` it becomes.
* `replayExecution` — one turn of the walk.
* `buildPaperTradeJournal` — the whole reconstruction.
-/

namespace DryTrade
namespace PaperTrading

open MarketData Indicators Backtesting

/-- A check of a constructor of this module, whose `ValueError` becomes an
`InvalidPaperSessionError` with the same text. -/
abbrev check (condition : Bool) (message : String) : Except Failure Unit :=
  FailureKind.invalidPaperSession.unless condition message

/-- `_safe_identifier`. -/
def safeIdentifier (value fieldName : String) : Except Failure Unit :=
  check (isSafeToken value) (fieldName ++ " must be one safe identifier")

/-- `_positive`. -/
def positive (value : ℚ) (fieldName : String) : Except Failure Unit :=
  check (decide (0 < value)) (fieldName ++ " must be positive")

/-- `_nonnegative`. -/
def nonnegative (value : ℚ) (fieldName : String) : Except Failure Unit :=
  check (decide (0 ≤ value)) (fieldName ++ " must be nonnegative")

/-! ### Executions -/

/-- Lifecycle of one continuous long-only position cycle. -/
inductive PaperTradeStatus
  | open
  | closed
  deriving DecidableEq, Repr

/-- One verified fill joined to the order that produced it. -/
structure PaperTradeExecution where
  fillId : String
  orderId : String
  orderSequence : ℕ
  side : OrderSide
  orderType : Backtesting.OrderType
  timeInForce : TimeInForce
  clientTag : Option String
  fillReason : FillReason
  liquidity : FillLiquidity
  quantity : ℚ
  basePrice : ℚ
  executionPrice : ℚ
  notional : ℚ
  fee : ℚ
  slippageCost : ℚ
  eventTime : Instant
  candleIndex : ℕ
  deriving DecidableEq

/-- The checks of the constructor of an execution. -/
def PaperTradeExecution.validate (e : PaperTradeExecution) : Except Failure PaperTradeExecution := do
  safeIdentifier e.fillId "fill_id"
  safeIdentifier e.orderId "order_id"
  check (decide (1 ≤ e.orderSequence)) "order_sequence must be positive"
  e.clientTag.forM fun tag => safeIdentifier tag "client_tag"
  positive e.quantity "quantity"
  positive e.basePrice "base_price"
  positive e.executionPrice "execution_price"
  positive e.notional "notional"
  nonnegative e.fee "fee"
  nonnegative e.slippageCost "slippage_cost"
  check (decide (e.notional = e.quantity * e.executionPrice))
    "notional must match quantity and execution_price"
  return e

/-- The execution of a fill of an order, before the checks of its constructor. -/
def joined (order : SimulatedOrder) (fill : Fill) : PaperTradeExecution where
  fillId := fill.fillId
  orderId := fill.orderId
  orderSequence := order.createdSequence
  side := fill.side
  orderType := order.intent.orderType
  timeInForce := order.intent.timeInForce
  clientTag := order.intent.clientTag
  fillReason := fill.reason
  liquidity := fill.liquidity
  quantity := fill.quantity
  basePrice := fill.basePrice
  executionPrice := fill.executionPrice
  notional := fill.notional
  fee := fill.fee
  slippageCost := fill.slippageCost
  eventTime := fill.eventTime
  candleIndex := fill.candleIndex

/-- `PaperTradeExecution.from_domain`: join one fill to its canonical filled order. -/
def fromDomain (order : SimulatedOrder) (fill : Fill) : Except Failure PaperTradeExecution :=
  let result : Except Failure PaperTradeExecution := do
    FailureKind.value.unless
      (decide (order.orderId = fill.orderId) && decide (order.status = .filled))
      "fill does not reference one filled order"
    FailureKind.value.unless
      (decide (order.intent.side = fill.side) && decide (order.intent.quantity = fill.quantity))
      "fill diverges from its all-or-none order intent"
    FailureKind.value.unless (decide (order.terminalAt = some fill.eventTime))
      "fill time diverges from the order terminal time"
    FailureKind.value.unless (decide (order.eligibleCandleIndex ≤ (fill.candleIndex : ℤ)))
      "fill precedes order eligibility"
    (joined order fill).validate
  result.mapError fun error => ⟨.paperSessionVerification, error.message⟩

/-- `_execution_key`, compared lexicographically. -/
def executionLe (a b : PaperTradeExecution) : Bool :=
  decide (a.eventTime < b.eventTime) ||
    (a.eventTime == b.eventTime &&
      (decide (a.candleIndex < b.candleIndex) ||
        (a.candleIndex == b.candleIndex &&
          (decide (a.orderSequence < b.orderSequence) ||
            (a.orderSequence == b.orderSequence && decide (a.fillId ≤ b.fillId))))))

/-- `sorted(executions, key=_execution_key)`. -/
def sortExecutions (executions : List PaperTradeExecution) : List PaperTradeExecution :=
  executions.insertionSort fun a b => executionLe a b = true

/-- `_validate_execution_order`. -/
def validateExecutionOrder (executions : List PaperTradeExecution) : Except Failure Unit := do
  check (decide (sortExecutions executions = executions))
    "executions must be in canonical chronological order"
  check (decide (executions.map PaperTradeExecution.fillId).Nodup)
    "execution fill ids must be unique"
  check (decide (executions.map PaperTradeExecution.orderId).Nodup)
    "execution order ids must be unique"

/-! ### Trades -/

/-- One flat-to-flat trade cycle, or the single position still open. -/
structure PaperTrade where
  tradeId : Sha256
  sessionId : Sha256
  sequence : ℕ
  status : PaperTradeStatus
  openedAt : Instant
  lastEntryAt : Instant
  firstExitAt : Option Instant
  closedAt : Option Instant
  entryExecutions : List PaperTradeExecution
  exitExecutions : List PaperTradeExecution
  openedQuantity : ℚ
  closedQuantity : ℚ
  remainingQuantity : ℚ
  entryNotional : ℚ
  exitNotional : ℚ
  entryFees : ℚ
  exitFees : ℚ
  entrySlippageCost : ℚ
  exitSlippageCost : ℚ
  entryCostBasis : ℚ
  releasedCostBasis : ℚ
  remainingCostBasis : ℚ
  averageEntryPrice : ℚ
  averageExitPrice : Option ℚ
  realizedPnl : ℚ
  unrealizedPnl : ℚ
  netPnl : ℚ
  markPrice : Option ℚ
  deriving DecidableEq

/-- The entries and the exits of a trade. -/
def PaperTrade.executions (t : PaperTrade) : List PaperTradeExecution × List PaperTradeExecution :=
  (t.entryExecutions, t.exitExecutions)

/-- The amounts of a trade that must be nonnegative, in the order they are checked. -/
def PaperTrade.nonnegativeFields (t : PaperTrade) : List (String × ℚ) :=
  [("opened_quantity", t.openedQuantity), ("closed_quantity", t.closedQuantity),
    ("remaining_quantity", t.remainingQuantity), ("entry_notional", t.entryNotional),
    ("exit_notional", t.exitNotional), ("entry_fees", t.entryFees), ("exit_fees", t.exitFees),
    ("entry_slippage_cost", t.entrySlippageCost), ("exit_slippage_cost", t.exitSlippageCost),
    ("entry_cost_basis", t.entryCostBasis), ("released_cost_basis", t.releasedCostBasis),
    ("remaining_cost_basis", t.remainingCostBasis)]

/-- The amounts of a trade that must be positive, in the order they are checked. -/
def PaperTrade.positiveFields (t : PaperTrade) : List (String × ℚ) :=
  [("opened_quantity", t.openedQuantity), ("entry_notional", t.entryNotional),
    ("entry_cost_basis", t.entryCostBasis), ("average_entry_price", t.averageEntryPrice)]

section

variable (encodings : Encodings)

/-- The checks of a trade on its executions and its times. -/
def PaperTrade.checkTimes (t : PaperTrade) : Except Failure Unit := do
  check (decide (t.openedAt ≤ t.lastEntryAt)) "last entry must not precede opening"
  check (!t.entryExecutions.isEmpty) "trade requires at least one entry execution"
  check (t.entryExecutions.all fun e => e.side == .buy) "entry executions must be canonical buys"
  check (t.exitExecutions.all fun e => e.side == .sell) "exit executions must be canonical sells"
  validateExecutionOrder t.entryExecutions
  validateExecutionOrder t.exitExecutions
  check (t.entryExecutions.head?.all fun e =>
      decide (t.tradeId = encodings.tradeId t.sessionId t.sequence e.fillId))
    "trade_id diverges from the stable trade identity"
  check (decide (t.entryExecutions.head?.map PaperTradeExecution.eventTime = some t.openedAt))
    "opened_at must match the first entry"
  check (decide (t.entryExecutions.getLast?.map PaperTradeExecution.eventTime = some t.lastEntryAt))
    "last_entry_at must match the last entry"
  check (decide (t.firstExitAt = t.exitExecutions.head?.map PaperTradeExecution.eventTime))
    "first_exit_at must match the first exit"
  check (t.exitExecutions.head?.all fun e => decide (t.openedAt ≤ e.eventTime))
    "exit must not precede opening"

/-- The sum of an amount over executions. -/
def total (amount : PaperTradeExecution → ℚ) (executions : List PaperTradeExecution) : ℚ :=
  (executions.map amount).sum

/-- The checks of a trade on its amounts. -/
def PaperTrade.checkAmounts (t : PaperTrade) : Except Failure Unit := do
  t.nonnegativeFields.forM fun field => nonnegative field.2 field.1
  t.positiveFields.forM fun field => positive field.2 field.1
  t.averageExitPrice.forM fun price => positive price "average_exit_price"
  t.markPrice.forM fun price => positive price "mark_price"
  check (decide (t.openedQuantity = total (·.quantity) t.entryExecutions))
    "opened_quantity diverges from entries"
  check (decide (t.closedQuantity = total (·.quantity) t.exitExecutions))
    "closed_quantity diverges from exits"
  check (decide (t.remainingQuantity = t.openedQuantity - t.closedQuantity))
    "remaining_quantity is inconsistent"
  check (decide (t.entryNotional = total (·.notional) t.entryExecutions))
    "entry_notional diverges from entries"
  check (decide (t.exitNotional = total (·.notional) t.exitExecutions))
    "exit_notional diverges from exits"
  check (decide (t.entryFees = total (·.fee) t.entryExecutions)) "entry_fees diverge from entries"
  check (decide (t.exitFees = total (·.fee) t.exitExecutions)) "exit_fees diverge from exits"
  check (decide (t.entrySlippageCost = total (·.slippageCost) t.entryExecutions))
    "entry slippage diverges from entries"
  check (decide (t.exitSlippageCost = total (·.slippageCost) t.exitExecutions))
    "exit slippage diverges from exits"
  check (decide (t.entryCostBasis = t.entryNotional + t.entryFees))
    "entry cost basis must include entry fees"
  check (decide (t.remainingCostBasis = t.entryCostBasis - t.releasedCostBasis))
    "remaining cost basis is inconsistent"
  check (decide (t.averageEntryPrice = t.entryNotional / t.openedQuantity))
    "average entry price is inconsistent"
  check (decide (t.averageExitPrice =
      if t.closedQuantity = 0 then none else some (t.exitNotional / t.closedQuantity)))
    "average exit price is inconsistent"
  check (decide (t.netPnl = t.realizedPnl + t.unrealizedPnl))
    "net_pnl must combine realized and unrealized PnL"

/-- The checks of a trade on its lifecycle. -/
def PaperTrade.checkLifecycle (t : PaperTrade) : Except Failure Unit :=
  match t.status with
  | .open =>
      check (decide (0 < t.remainingQuantity) && decide (0 < t.remainingCostBasis) &&
        t.closedAt.isNone && t.markPrice.isSome) "open trade lifecycle is inconsistent"
  | .closed =>
      check (decide (t.remainingQuantity = 0) && decide (t.remainingCostBasis = 0) &&
        !t.exitExecutions.isEmpty &&
        decide (t.closedAt = t.exitExecutions.getLast?.map PaperTradeExecution.eventTime) &&
        t.markPrice.isNone && decide (t.unrealizedPnl = 0))
        "closed trade lifecycle is inconsistent"

/-- The checks of the constructor of a trade. -/
def PaperTrade.validate (t : PaperTrade) : Except Failure PaperTrade := do
  check (decide (1 ≤ t.sequence)) "sequence must be positive"
  t.checkTimes encodings
  t.checkAmounts
  t.checkLifecycle
  return t

/-- The trade being rebuilt. -/
structure TradeAccumulator where
  sequence : ℕ
  sessionId : Sha256
  entries : List PaperTradeExecution
  exits : List PaperTradeExecution
  remainingQuantity : ℚ
  costBasis : ℚ
  releasedCostBasis : ℚ
  realizedPnl : ℚ

/-- A trade without executions. -/
def TradeAccumulator.opened (sequence : ℕ) (sessionId : Sha256) : TradeAccumulator where
  sequence := sequence
  sessionId := sessionId
  entries := []
  exits := []
  remainingQuantity := 0
  costBasis := 0
  releasedCostBasis := 0
  realizedPnl := 0

/-- `_TradeAccumulator.buy`. -/
def TradeAccumulator.buy (acc : TradeAccumulator) (e : PaperTradeExecution) :
    Except Failure TradeAccumulator := do
  FailureKind.paperSessionVerification.unless (e.side == .buy)
    "A entrada da operação não é uma compra."
  return { acc with
    entries := acc.entries ++ [e]
    remainingQuantity := acc.remainingQuantity + e.quantity
    costBasis := acc.costBasis + (e.notional + e.fee) }

/-- The cost that selling `quantity` of a position releases: all of it when the position closes. -/
def released (costBasis baseQuantity quantity : ℚ) : ℚ :=
  if quantity = baseQuantity then costBasis else costBasis * quantity / baseQuantity

/-- `_TradeAccumulator.sell`. -/
def TradeAccumulator.sell (acc : TradeAccumulator) (e : PaperTradeExecution) :
    Except Failure TradeAccumulator := do
  FailureKind.paperSessionVerification.unless (e.side == .sell)
    "A saída da operação não é uma venda."
  FailureKind.paperSessionVerification.unless
    (decide (e.quantity ≤ acc.remainingQuantity) && decide (0 < acc.remainingQuantity))
    "A venda excede a posição Spot reconstruída."
  let cost := released acc.costBasis acc.remainingQuantity e.quantity
  let remainingQuantity := acc.remainingQuantity - e.quantity
  return { acc with
    exits := acc.exits ++ [e]
    remainingQuantity := remainingQuantity
    costBasis := if remainingQuantity = 0 then 0 else acc.costBasis - cost
    releasedCostBasis := acc.releasedCostBasis + cost
    realizedPnl := acc.realizedPnl + (e.notional - e.fee - cost) }

/-- The trade an accumulator stands for, before the checks of its constructor. -/
def TradeAccumulator.trade (acc : TradeAccumulator) (first last : PaperTradeExecution)
    (markPrice : Option ℚ) (unrealizedPnl : ℚ) : PaperTrade :=
  let openedQuantity := total (·.quantity) acc.entries
  let closedQuantity := total (·.quantity) acc.exits
  let entryNotional := total (·.notional) acc.entries
  let exitNotional := total (·.notional) acc.exits
  let entryFees := total (·.fee) acc.entries
  let status : PaperTradeStatus := if 0 < acc.remainingQuantity then .open else .closed
  { tradeId := encodings.tradeId acc.sessionId acc.sequence first.fillId
    sessionId := acc.sessionId
    sequence := acc.sequence
    status := status
    openedAt := first.eventTime
    lastEntryAt := last.eventTime
    firstExitAt := acc.exits.head?.map PaperTradeExecution.eventTime
    closedAt := if status = .open then none
      else acc.exits.getLast?.map PaperTradeExecution.eventTime
    entryExecutions := acc.entries
    exitExecutions := acc.exits
    openedQuantity := openedQuantity
    closedQuantity := closedQuantity
    remainingQuantity := acc.remainingQuantity
    entryNotional := entryNotional
    exitNotional := exitNotional
    entryFees := entryFees
    exitFees := total (·.fee) acc.exits
    entrySlippageCost := total (·.slippageCost) acc.entries
    exitSlippageCost := total (·.slippageCost) acc.exits
    entryCostBasis := entryNotional + entryFees
    releasedCostBasis := acc.releasedCostBasis
    remainingCostBasis := acc.costBasis
    averageEntryPrice := entryNotional / openedQuantity
    averageExitPrice := if closedQuantity = 0 then none else some (exitNotional / closedQuantity)
    realizedPnl := acc.realizedPnl
    unrealizedPnl := unrealizedPnl
    netPnl := acc.realizedPnl + unrealizedPnl
    markPrice := markPrice }

/-- `_TradeAccumulator.finish`. -/
def TradeAccumulator.finish (acc : TradeAccumulator) (markPrice : Option ℚ) (unrealizedPnl : ℚ) :
    Except Failure PaperTrade :=
  match acc.entries with
  | [] => FailureKind.paperSessionVerification.raiseWith "A operação não possui entrada."
  | first :: rest =>
      (acc.trade encodings first (rest.getLastD first) markPrice unrealizedPnl).validate encodings

/-! ### The journal -/

/-- State-bound deterministic projection of executions and trade cycles. -/
structure PaperTradeJournal where
  sessionId : Sha256
  configChecksum : Sha256
  stateId : Sha256
  stateChecksum : Sha256
  pair : TradingPair
  timeframe : Timeframe
  strategy : StrategyDescriptor
  lastCandleOpenTime : Instant
  replayedAt : Instant
  executions : List PaperTradeExecution
  trades : List PaperTrade
  closedTradesCount : ℕ
  openTradesCount : ℕ
  totalRealizedPnl : ℚ
  totalUnrealizedPnl : ℚ
  totalNetPnl : ℚ
  totalFees : ℚ
  totalSlippageCost : ℚ

/-- How many trades have the status. -/
def countStatus (status : PaperTradeStatus) (trades : List PaperTrade) : ℕ :=
  trades.countP fun t => t.status == status

/-- The left trade is closed, and not after the right one opens. -/
def tradeFollows (pair : PaperTrade × PaperTrade) : Bool :=
  pair.1.status == .closed && pair.1.closedAt.any fun t => decide (t ≤ pair.2.openedAt)

/-- The checks of a journal on its trades. -/
def PaperTradeJournal.checkTrades (j : PaperTradeJournal) : Except Failure Unit := do
  validateExecutionOrder j.executions
  check (decide (j.trades.map PaperTrade.sequence = List.range' 1 j.trades.length))
    "trade sequences must be contiguous"
  check (j.trades.all fun t => decide (t.sessionId = j.sessionId)) "trade belongs to another session"
  check ((j.trades.zip j.trades.tail).all tradeFollows) "trade cycles overlap or are out of order"
  check (j.trades.dropLast.all fun t => t.status != .open) "only the final trade may remain open"
  check (decide (sortExecutions (j.trades.flatMap fun t => t.entryExecutions ++ t.exitExecutions) =
      j.executions)) "trade executions diverge from journal executions"
  check (decide (j.closedTradesCount = countStatus .closed j.trades))
    "closed trade count is inconsistent"
  check (decide (j.openTradesCount = countStatus .open j.trades)) "open trade count is inconsistent"
  check (decide (j.openTradesCount ≤ 1)) "Spot journal may contain at most one open trade"

/-- The checks of a journal on its totals. -/
def PaperTradeJournal.checkTotals (j : PaperTradeJournal) : Except Failure Unit := do
  nonnegative j.totalFees "total_fees"
  nonnegative j.totalSlippageCost "total_slippage_cost"
  check (decide (j.totalRealizedPnl = (j.trades.map PaperTrade.realizedPnl).sum))
    "total realized PnL is inconsistent"
  check (decide (j.totalUnrealizedPnl = (j.trades.map PaperTrade.unrealizedPnl).sum))
    "total unrealized PnL is inconsistent"
  check (decide (j.totalNetPnl = j.totalRealizedPnl + j.totalUnrealizedPnl))
    "total net PnL is inconsistent"
  check (decide (j.totalFees = (j.trades.map fun t => t.entryFees + t.exitFees).sum))
    "total fees are inconsistent"
  check (decide (j.totalSlippageCost =
      (j.trades.map fun t => t.entrySlippageCost + t.exitSlippageCost).sum))
    "total slippage is inconsistent"

/-- The checks of the constructor of a journal. -/
def PaperTradeJournal.validate (j : PaperTradeJournal) : Except Failure PaperTradeJournal := do
  j.checkTrades
  j.checkTotals
  return j

/-- What the walk over the executions carries. -/
structure Replay where
  trades : List PaperTrade
  current : Option TradeAccumulator
  sequence : ℕ
  quoteCash : ℚ
  baseQuantity : ℚ
  costBasis : ℚ
  realizedPnl : ℚ
  totalFees : ℚ
  totalSlippage : ℚ

/-- The walk before its first execution. -/
def Replay.init (initialCapital : ℚ) : Replay where
  trades := []
  current := none
  sequence := 0
  quoteCash := initialCapital
  baseQuantity := 0
  costBasis := 0
  realizedPnl := 0
  totalFees := 0
  totalSlippage := 0

/-- A buy of the walk. -/
def replayBuy (sessionId : Sha256) (r : Replay) (e : PaperTradeExecution) :
    Except Failure Replay := do
  let sequence := if r.current.isNone then r.sequence + 1 else r.sequence
  let economicCost := e.notional + e.fee
  let current ← (r.current.getD (.opened sequence sessionId)).buy e
  return { r with
    current := some current
    sequence := sequence
    quoteCash := r.quoteCash - economicCost
    baseQuantity := r.baseQuantity + e.quantity
    costBasis := r.costBasis + economicCost
    totalFees := r.totalFees + e.fee
    totalSlippage := r.totalSlippage + e.slippageCost }

/-- A sell of the walk. -/
def replaySell (r : Replay) (e : PaperTradeExecution) : Except Failure Replay :=
  match r.current with
  | none =>
      FailureKind.paperSessionVerification.raiseWith
        "A venda não possui posição Spot correspondente."
  | some current => do
      FailureKind.paperSessionVerification.unless
        (decide (0 < r.baseQuantity) && decide (e.quantity ≤ r.baseQuantity))
        "A venda não possui posição Spot correspondente."
      let cost := released r.costBasis r.baseQuantity e.quantity
      let baseQuantity := r.baseQuantity - e.quantity
      let current ← current.sell e
      let sold : Replay := { r with
        current := some current
        quoteCash := r.quoteCash + (e.notional - e.fee)
        baseQuantity := baseQuantity
        costBasis := r.costBasis - cost
        realizedPnl := r.realizedPnl + (e.notional - e.fee - cost)
        totalFees := r.totalFees + e.fee
        totalSlippage := r.totalSlippage + e.slippageCost }
      if baseQuantity = 0 then do
        let trade ← current.finish encodings none 0
        return { sold with
          costBasis := 0
          trades := r.trades ++ [trade]
          current := none }
      else return sold

/-- One turn of the walk. -/
def replayExecution (sessionId : Sha256) (r : Replay) (e : PaperTradeExecution) :
    Except Failure Replay :=
  match e.side with
  | .buy => replayBuy sessionId r e
  | .sell => replaySell encodings r e

/-- `_state_mark_price`. -/
def stateMarkPrice (portfolio : PortfolioSnapshot) : Except Failure ℚ := do
  FailureKind.paperSessionVerification.unless (decide (0 < portfolio.baseQuantity))
    "A sessão não possui posição aberta."
  let marketValue := portfolio.equity - portfolio.quoteCash
  FailureKind.paperSessionVerification.unless (decide (0 < marketValue))
    "O valor de mercado da posição é inválido."
  let markPrice := marketValue / portfolio.baseQuantity
  FailureKind.value.unless (decide (0 < markPrice)) "mark_price must be positive"
  return markPrice

/-- `_verify_accounting`: the accounts of the walk are those of the portfolio. -/
def verifyAccounting (portfolio : PortfolioSnapshot) (r : Replay) : Except Failure Unit := do
  let expectedAverage := if r.baseQuantity = 0 then 0 else r.costBasis / r.baseQuantity
  FailureKind.paperSessionVerification.unless
    (decide (r.quoteCash = portfolio.quoteCash) &&
      decide (r.baseQuantity = portfolio.baseQuantity) &&
      decide (r.costBasis = portfolio.costBasis) &&
      decide (expectedAverage = portfolio.averageEntryPrice) &&
      decide (r.realizedPnl = portfolio.realizedPnl) &&
      decide (r.totalFees = portfolio.totalFees) &&
      decide (r.totalSlippage = portfolio.totalSlippageCost))
    "A contabilidade reconstruída diverge do portfolio persistido."
  if r.baseQuantity = 0 then
    FailureKind.paperSessionVerification.unless
      (decide (portfolio.unrealizedPnl = 0) && decide (portfolio.equity = portfolio.quoteCash))
      "O portfolio flat possui marcação de mercado inconsistente."
  else do
    let markPrice ← stateMarkPrice portfolio
    FailureKind.paperSessionVerification.unless
      (decide (r.baseQuantity * markPrice - r.costBasis = portfolio.unrealizedPnl))
      "O PnL não realizado diverge da marcação persistida."

/-- The trade that is still open at the end of the walk, if any. -/
def openTrade (portfolio : PortfolioSnapshot) (r : Replay) : Except Failure (List PaperTrade) :=
  match r.current with
  | none => .ok []
  | some current => do
      let markPrice ← stateMarkPrice portfolio
      let trade ← current.finish encodings (some markPrice) portfolio.unrealizedPnl
      return [trade]

/-- `{order.order_id: order for order in orders}[order_id]`: the last order with the id. -/
def orderById (orders : List SimulatedOrder) (orderId : String) : Option SimulatedOrder :=
  orders.reverse.find? fun order => order.orderId == orderId

/-- Join a fill to the order of its id. -/
def executionOf (orders : List SimulatedOrder) (fill : Fill) : Except Failure PaperTradeExecution :=
  match orderById orders fill.orderId with
  | none =>
      FailureKind.paperSessionVerification.raiseWith "Um fill não possui ordem correspondente."
  | some order => fromDomain order fill

/-- The executions of a state, in the order of its fills. -/
def executionsOf (state : PaperSessionState) : Except Failure (List PaperTradeExecution) :=
  state.fills.mapM (executionOf state.orders)

/-- `build_paper_trade_journal`: reconstruct the trade cycles of one published state. -/
def buildPaperTradeJournal (ctx : DecimalContext) (config : PaperSessionConfig)
    (state : PaperSessionState) : Except Failure PaperTradeJournal := do
  validatePaperStateAgainstConfig ctx encodings state config
  let unsorted ← executionsOf state
  let executions := sortExecutions unsorted
  let r ← executions.foldlM (replayExecution encodings state.sessionId)
    (.init config.initialCapital)
  verifyAccounting state.portfolio r
  let last ← openTrade encodings state.portfolio r
  let trades := r.trades ++ last
  PaperTradeJournal.validate
    { sessionId := state.sessionId
      configChecksum := state.configChecksum
      stateId := state.stateId
      stateChecksum := state.checksum
      pair := config.pair
      timeframe := config.timeframe
      strategy := config.strategy
      lastCandleOpenTime := state.lastCandleOpenTime
      replayedAt := state.replayedAt
      executions := executions
      trades := trades
      closedTradesCount := countStatus .closed trades
      openTradesCount := countStatus .open trades
      totalRealizedPnl := state.portfolio.realizedPnl
      totalUnrealizedPnl := state.portfolio.unrealizedPnl
      totalNetPnl := state.portfolio.realizedPnl + state.portfolio.unrealizedPnl
      totalFees := state.portfolio.totalFees
      totalSlippageCost := state.portfolio.totalSlippageCost }

end

end PaperTrading
end DryTrade
