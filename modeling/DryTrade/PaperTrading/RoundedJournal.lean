import DryTrade.PaperTrading.PeriodTotals

/-!
# The journal under a rounding context

`Journal` has the arithmetic of the journal exact.  Here every operation is followed by
the rounding of a context; with the exact context it is the same journal.

## Main definitions

* `Rounded.replayExecution` — one turn of the walk over the executions.
* `Rounded.buildPaperTradeJournal` — the journal of a published state.

## Main results

* `Rounded.buildPaperTradeJournal_exact` — the exact context gives the exact journal.
-/

namespace DryTrade
namespace PaperTrading
namespace Rounded

open MarketData Indicators Backtesting

section

variable (ctx : DecimalContext)

/-! ### Executions -/

/-- The checks of the constructor of an execution. -/
def validateExecution (e : PaperTradeExecution) : Except Failure PaperTradeExecution := do
  safeIdentifier e.fillId "fill_id"
  safeIdentifier e.orderId "order_id"
  check (decide (1 ≤ e.orderSequence)) "order_sequence must be positive"
  e.clientTag.forM fun tag => safeIdentifier tag "client_tag"
  positive e.quantity "quantity"
  positive e.basePrice "base_price"
  positive e.executionPrice "execution_price"
  positive e.notional "notional"
  nonnegative e.fee "fee"
  nonnegative e.slippageCost "slippage_cost"
  check (decide (e.notional = ctx.mul e.quantity e.executionPrice))
    "notional must match quantity and execution_price"
  return e

/-- `PaperTradeExecution.from_domain`. -/
def fromDomain (order : SimulatedOrder) (fill : Fill) : Except Failure PaperTradeExecution :=
  let result : Except Failure PaperTradeExecution := do
    FailureKind.value.unless
      (decide (order.orderId = fill.orderId) && decide (order.status = .filled))
      "fill does not reference one filled order"
    FailureKind.value.unless
      (decide (order.intent.side = fill.side) && decide (order.intent.quantity = fill.quantity))
      "fill diverges from its all-or-none order intent"
    FailureKind.value.unless (decide (order.terminalAt = some fill.eventTime))
      "fill time diverges from the order terminal time"
    FailureKind.value.unless (decide (order.eligibleCandleIndex ≤ (fill.candleIndex : ℤ)))
      "fill precedes order eligibility"
    validateExecution ctx (joined order fill)
  result.mapError fun error => ⟨.paperSessionVerification, error.message⟩

/-- Join a fill to the order of its id. -/
def executionOf (orders : List SimulatedOrder) (fill : Fill) : Except Failure PaperTradeExecution :=
  match orderById orders fill.orderId with
  | none =>
      FailureKind.paperSessionVerification.raiseWith "Um fill não possui ordem correspondente."
  | some order => fromDomain ctx order fill

/-- The executions of a state, in the order of its fills. -/
def executionsOf (state : PaperSessionState) : Except Failure (List PaperTradeExecution) :=
  state.fills.mapM (executionOf ctx state.orders)

/-! ### Trades -/

/-- The sum of an amount over executions. -/
def total (amount : PaperTradeExecution → ℚ) (executions : List PaperTradeExecution) : ℚ :=
  sumOf ctx (executions.map amount)

/-- The checks of a trade on its amounts. -/
def checkAmounts (t : PaperTrade) : Except Failure Unit := do
  t.nonnegativeFields.forM fun field => nonnegative field.2 field.1
  t.positiveFields.forM fun field => positive field.2 field.1
  t.averageExitPrice.forM fun price => positive price "average_exit_price"
  t.markPrice.forM fun price => positive price "mark_price"
  check (decide (t.openedQuantity = total ctx (·.quantity) t.entryExecutions))
    "opened_quantity diverges from entries"
  check (decide (t.closedQuantity = total ctx (·.quantity) t.exitExecutions))
    "closed_quantity diverges from exits"
  check (decide (t.remainingQuantity = ctx.sub t.openedQuantity t.closedQuantity))
    "remaining_quantity is inconsistent"
  check (decide (t.entryNotional = total ctx (·.notional) t.entryExecutions))
    "entry_notional diverges from entries"
  check (decide (t.exitNotional = total ctx (·.notional) t.exitExecutions))
    "exit_notional diverges from exits"
  check (decide (t.entryFees = total ctx (·.fee) t.entryExecutions))
    "entry_fees diverge from entries"
  check (decide (t.exitFees = total ctx (·.fee) t.exitExecutions)) "exit_fees diverge from exits"
  check (decide (t.entrySlippageCost = total ctx (·.slippageCost) t.entryExecutions))
    "entry slippage diverges from entries"
  check (decide (t.exitSlippageCost = total ctx (·.slippageCost) t.exitExecutions))
    "exit slippage diverges from exits"
  check (decide (t.entryCostBasis = ctx.add t.entryNotional t.entryFees))
    "entry cost basis must include entry fees"
  check (decide (t.remainingCostBasis = ctx.sub t.entryCostBasis t.releasedCostBasis))
    "remaining cost basis is inconsistent"
  check (decide (t.averageEntryPrice = ctx.div t.entryNotional t.openedQuantity))
    "average entry price is inconsistent"
  check (decide (t.averageExitPrice =
      if t.closedQuantity = 0 then none else some (ctx.div t.exitNotional t.closedQuantity)))
    "average exit price is inconsistent"
  check (decide (t.netPnl = ctx.add t.realizedPnl t.unrealizedPnl))
    "net_pnl must combine realized and unrealized PnL"

variable (encodings : Encodings)

/-- The checks of the constructor of a trade. -/
def validateTrade (t : PaperTrade) : Except Failure PaperTrade := do
  check (decide (1 ≤ t.sequence)) "sequence must be positive"
  t.checkTimes encodings
  checkAmounts ctx t
  t.checkLifecycle
  return t

/-- `_TradeAccumulator.buy`. -/
def buy (acc : TradeAccumulator) (e : PaperTradeExecution) : Except Failure TradeAccumulator := do
  FailureKind.paperSessionVerification.unless (e.side == .buy)
    "A entrada da operação não é uma compra."
  return { acc with
    entries := acc.entries ++ [e]
    remainingQuantity := ctx.add acc.remainingQuantity e.quantity
    costBasis := ctx.add acc.costBasis (ctx.add e.notional e.fee) }

/-- The cost that selling `quantity` of a position releases: all of it when the position closes. -/
def released (costBasis baseQuantity quantity : ℚ) : ℚ :=
  if quantity = baseQuantity then costBasis
  else ctx.div (ctx.mul costBasis quantity) baseQuantity

/-- The profit that a sell realizes for the cost that it releases. -/
def profit (e : PaperTradeExecution) (cost : ℚ) : ℚ := ctx.sub (ctx.sub e.notional e.fee) cost

/-- `_TradeAccumulator.sell`. -/
def sell (acc : TradeAccumulator) (e : PaperTradeExecution) : Except Failure TradeAccumulator := do
  FailureKind.paperSessionVerification.unless (e.side == .sell)
    "A saída da operação não é uma venda."
  FailureKind.paperSessionVerification.unless
    (decide (e.quantity ≤ acc.remainingQuantity) && decide (0 < acc.remainingQuantity))
    "A venda excede a posição Spot reconstruída."
  let cost := released ctx acc.costBasis acc.remainingQuantity e.quantity
  let remainingQuantity := ctx.sub acc.remainingQuantity e.quantity
  return { acc with
    exits := acc.exits ++ [e]
    remainingQuantity := remainingQuantity
    costBasis := if remainingQuantity = 0 then 0 else ctx.sub acc.costBasis cost
    releasedCostBasis := ctx.add acc.releasedCostBasis cost
    realizedPnl := ctx.add acc.realizedPnl (profit ctx e cost) }

/-- The trade an accumulator stands for, before the checks of its constructor. -/
def trade (acc : TradeAccumulator) (first last : PaperTradeExecution) (markPrice : Option ℚ)
    (unrealizedPnl : ℚ) : PaperTrade :=
  let openedQuantity := total ctx (·.quantity) acc.entries
  let closedQuantity := total ctx (·.quantity) acc.exits
  let entryNotional := total ctx (·.notional) acc.entries
  let exitNotional := total ctx (·.notional) acc.exits
  let entryFees := total ctx (·.fee) acc.entries
  let status : PaperTradeStatus := if 0 < acc.remainingQuantity then .open else .closed
  { tradeId := encodings.tradeId acc.sessionId acc.sequence first.fillId
    sessionId := acc.sessionId
    sequence := acc.sequence
    status := status
    openedAt := first.eventTime
    lastEntryAt := last.eventTime
    firstExitAt := acc.exits.head?.map PaperTradeExecution.eventTime
    closedAt := if status = .open then none
      else acc.exits.getLast?.map PaperTradeExecution.eventTime
    entryExecutions := acc.entries
    exitExecutions := acc.exits
    openedQuantity := openedQuantity
    closedQuantity := closedQuantity
    remainingQuantity := acc.remainingQuantity
    entryNotional := entryNotional
    exitNotional := exitNotional
    entryFees := entryFees
    exitFees := total ctx (·.fee) acc.exits
    entrySlippageCost := total ctx (·.slippageCost) acc.entries
    exitSlippageCost := total ctx (·.slippageCost) acc.exits
    entryCostBasis := ctx.add entryNotional entryFees
    releasedCostBasis := acc.releasedCostBasis
    remainingCostBasis := acc.costBasis
    averageEntryPrice := ctx.div entryNotional openedQuantity
    averageExitPrice :=
      if closedQuantity = 0 then none else some (ctx.div exitNotional closedQuantity)
    realizedPnl := acc.realizedPnl
    unrealizedPnl := unrealizedPnl
    netPnl := ctx.add acc.realizedPnl unrealizedPnl
    markPrice := markPrice }

/-- `_TradeAccumulator.finish`. -/
def finish (acc : TradeAccumulator) (markPrice : Option ℚ) (unrealizedPnl : ℚ) :
    Except Failure PaperTrade :=
  match acc.entries with
  | [] => FailureKind.paperSessionVerification.raiseWith "A operação não possui entrada."
  | first :: rest =>
      validateTrade ctx encodings
        (trade ctx encodings acc first (rest.getLastD first) markPrice unrealizedPnl)

/-! ### The journal -/

/-- The checks of a journal on its totals. -/
def checkTotals (j : PaperTradeJournal) : Except Failure Unit := do
  nonnegative j.totalFees "total_fees"
  nonnegative j.totalSlippageCost "total_slippage_cost"
  check (decide (j.totalRealizedPnl = sumOf ctx (j.trades.map PaperTrade.realizedPnl)))
    "total realized PnL is inconsistent"
  check (decide (j.totalUnrealizedPnl = sumOf ctx (j.trades.map PaperTrade.unrealizedPnl)))
    "total unrealized PnL is inconsistent"
  check (decide (j.totalNetPnl = ctx.add j.totalRealizedPnl j.totalUnrealizedPnl))
    "total net PnL is inconsistent"
  check (decide (j.totalFees =
      sumOf ctx (j.trades.map fun t => ctx.add t.entryFees t.exitFees)))
    "total fees are inconsistent"
  check (decide (j.totalSlippageCost =
      sumOf ctx (j.trades.map fun t => ctx.add t.entrySlippageCost t.exitSlippageCost)))
    "total slippage is inconsistent"

/-- The checks of the constructor of a journal. -/
def validateJournal (j : PaperTradeJournal) : Except Failure PaperTradeJournal := do
  j.checkTrades
  checkTotals ctx j
  return j

/-- A buy of the walk. -/
def replayBuy (sessionId : Sha256) (r : Replay) (e : PaperTradeExecution) :
    Except Failure Replay := do
  let sequence := if r.current.isNone then r.sequence + 1 else r.sequence
  let economicCost := ctx.add e.notional e.fee
  let current ← buy ctx (r.current.getD (.opened sequence sessionId)) e
  return { r with
    current := some current
    sequence := sequence
    quoteCash := ctx.sub r.quoteCash economicCost
    baseQuantity := ctx.add r.baseQuantity e.quantity
    costBasis := ctx.add r.costBasis economicCost
    totalFees := ctx.add r.totalFees e.fee
    totalSlippage := ctx.add r.totalSlippage e.slippageCost }

/-- A sell of the walk. -/
def replaySell (r : Replay) (e : PaperTradeExecution) : Except Failure Replay :=
  match r.current with
  | none =>
      FailureKind.paperSessionVerification.raiseWith
        "A venda não possui posição Spot correspondente."
  | some current => do
      FailureKind.paperSessionVerification.unless
        (decide (0 < r.baseQuantity) && decide (e.quantity ≤ r.baseQuantity))
        "A venda não possui posição Spot correspondente."
      let cost := released ctx r.costBasis r.baseQuantity e.quantity
      let baseQuantity := ctx.sub r.baseQuantity e.quantity
      let current ← sell ctx current e
      let sold : Replay := { r with
        current := some current
        quoteCash := ctx.add r.quoteCash (ctx.sub e.notional e.fee)
        baseQuantity := baseQuantity
        costBasis := ctx.sub r.costBasis cost
        realizedPnl := ctx.add r.realizedPnl (profit ctx e cost)
        totalFees := ctx.add r.totalFees e.fee
        totalSlippage := ctx.add r.totalSlippage e.slippageCost }
      if baseQuantity = 0 then do
        let trade ← finish ctx encodings current none 0
        return { sold with
          costBasis := 0
          trades := r.trades ++ [trade]
          current := none }
      else return sold

/-- One turn of the walk. -/
def replayExecution (sessionId : Sha256) (r : Replay) (e : PaperTradeExecution) :
    Except Failure Replay :=
  match e.side with
  | .buy => replayBuy ctx sessionId r e
  | .sell => replaySell ctx encodings r e

/-- `_state_mark_price`. -/
def stateMarkPrice (portfolio : PortfolioSnapshot) : Except Failure ℚ := do
  FailureKind.paperSessionVerification.unless (decide (0 < portfolio.baseQuantity))
    "A sessão não possui posição aberta."
  let marketValue := ctx.sub portfolio.equity portfolio.quoteCash
  FailureKind.paperSessionVerification.unless (decide (0 < marketValue))
    "O valor de mercado da posição é inválido."
  let markPrice := ctx.div marketValue portfolio.baseQuantity
  FailureKind.value.unless (decide (0 < markPrice)) "mark_price must be positive"
  return markPrice

/-- `_verify_accounting`. -/
def verifyAccounting (portfolio : PortfolioSnapshot) (r : Replay) : Except Failure Unit := do
  let expectedAverage := if r.baseQuantity = 0 then 0 else ctx.div r.costBasis r.baseQuantity
  FailureKind.paperSessionVerification.unless
    (decide (r.quoteCash = portfolio.quoteCash) &&
      decide (r.baseQuantity = portfolio.baseQuantity) &&
      decide (r.costBasis = portfolio.costBasis) &&
      decide (expectedAverage = portfolio.averageEntryPrice) &&
      decide (r.realizedPnl = portfolio.realizedPnl) &&
      decide (r.totalFees = portfolio.totalFees) &&
      decide (r.totalSlippage = portfolio.totalSlippageCost))
    "A contabilidade reconstruída diverge do portfolio persistido."
  if r.baseQuantity = 0 then
    FailureKind.paperSessionVerification.unless
      (decide (portfolio.unrealizedPnl = 0) && decide (portfolio.equity = portfolio.quoteCash))
      "O portfolio flat possui marcação de mercado inconsistente."
  else do
    let markPrice ← stateMarkPrice ctx portfolio
    FailureKind.paperSessionVerification.unless
      (decide (ctx.sub (ctx.mul r.baseQuantity markPrice) r.costBasis = portfolio.unrealizedPnl))
      "O PnL não realizado diverge da marcação persistida."

/-- The trade that is still open at the end of the walk, if any. -/
def openTrade (portfolio : PortfolioSnapshot) (r : Replay) : Except Failure (List PaperTrade) :=
  match r.current with
  | none => .ok []
  | some current => do
      let markPrice ← stateMarkPrice ctx portfolio
      let trade ← finish ctx encodings current (some markPrice) portfolio.unrealizedPnl
      return [trade]

/-- `build_paper_trade_journal`. -/
def buildPaperTradeJournal (config : PaperSessionConfig) (state : PaperSessionState) :
    Except Failure PaperTradeJournal := do
  validatePaperStateAgainstConfig ctx encodings state config
  let unsorted ← executionsOf ctx state
  let executions := sortExecutions unsorted
  let r ← executions.foldlM (replayExecution ctx encodings state.sessionId)
    (.init config.initialCapital)
  verifyAccounting ctx state.portfolio r
  let last ← openTrade ctx encodings state.portfolio r
  let trades := r.trades ++ last
  validateJournal ctx
    { sessionId := state.sessionId
      configChecksum := state.configChecksum
      stateId := state.stateId
      stateChecksum := state.checksum
      pair := config.pair
      timeframe := config.timeframe
      strategy := config.strategy
      lastCandleOpenTime := state.lastCandleOpenTime
      replayedAt := state.replayedAt
      executions := executions
      trades := trades
      closedTradesCount := countStatus .closed trades
      openTradesCount := countStatus .open trades
      totalRealizedPnl := state.portfolio.realizedPnl
      totalUnrealizedPnl := state.portfolio.unrealizedPnl
      totalNetPnl := ctx.add state.portfolio.realizedPnl state.portfolio.unrealizedPnl
      totalFees := state.portfolio.totalFees
      totalSlippageCost := state.portfolio.totalSlippageCost }

end

/-! ### The exact context -/

section

variable (encodings : Encodings)

theorem total_exact (amount : PaperTradeExecution → ℚ) (executions : List PaperTradeExecution) :
    total .exact amount executions = PaperTrading.total amount executions := sumOf_exact _

theorem total_exact_eq : total .exact = PaperTrading.total := by
  funext amount executions
  exact total_exact amount executions

theorem validateTrade_exact (t : PaperTrade) :
    validateTrade .exact encodings t = t.validate encodings := by
  unfold validateTrade checkAmounts
  rw [total_exact_eq]
  rfl

theorem trade_exact (acc : TradeAccumulator) (first last : PaperTradeExecution)
    (markPrice : Option ℚ) (unrealizedPnl : ℚ) :
    trade .exact encodings acc first last markPrice unrealizedPnl =
      acc.trade encodings first last markPrice unrealizedPnl := by
  unfold trade
  rw [total_exact_eq]
  rfl

theorem finish_exact (acc : TradeAccumulator) (markPrice : Option ℚ) (unrealizedPnl : ℚ) :
    finish .exact encodings acc markPrice unrealizedPnl =
      acc.finish encodings markPrice unrealizedPnl := by
  cases hentries : acc.entries with
  | nil => simp only [finish, TradeAccumulator.finish, hentries]
  | cons first rest =>
      simp only [finish, TradeAccumulator.finish, hentries, validateTrade_exact, trade_exact]

theorem replayExecution_exact :
    replayExecution .exact encodings = PaperTrading.replayExecution encodings := by
  have hfinish : finish .exact encodings = TradeAccumulator.finish encodings := by
    funext acc markPrice unrealizedPnl
    exact finish_exact encodings acc markPrice unrealizedPnl
  funext sessionId r e
  unfold replayExecution replaySell
  rw [hfinish]
  rfl

theorem checkTotals_exact (j : PaperTradeJournal) : checkTotals .exact j = j.checkTotals := by
  have hsum : sumOf .exact = List.sum := by
    funext amounts
    exact sumOf_exact amounts
  unfold checkTotals
  rw [hsum]
  rfl

/-- **In the exact context the journal is the exact one.** -/
theorem buildPaperTradeJournal_exact (config : PaperSessionConfig) (state : PaperSessionState) :
    buildPaperTradeJournal .exact encodings config state =
      PaperTrading.buildPaperTradeJournal encodings .exact config state := by
  have hexecutions : executionsOf .exact state = PaperTrading.executionsOf state := rfl
  have hopen : ∀ portfolio r, openTrade .exact encodings portfolio r =
      PaperTrading.openTrade encodings portfolio r := by
    intro portfolio r
    simp only [openTrade, PaperTrading.openTrade, finish_exact]
    rfl
  have hverify : verifyAccounting .exact = PaperTrading.verifyAccounting := rfl
  simp only [buildPaperTradeJournal, PaperTrading.buildPaperTradeJournal, hexecutions, hopen,
    hverify, replayExecution_exact, validateJournal, PaperTradeJournal.validate, checkTotals_exact,
    DecimalContext.exact_add]

end

end Rounded
end PaperTrading
end DryTrade
