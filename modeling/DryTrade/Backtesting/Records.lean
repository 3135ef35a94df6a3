import DryTrade.Backtesting.LedgerChain
import DryTrade.Backtesting.Trades

/-!
# Records as they are published

The records of a run are published as JSON: every decimal in its canonical text, every instant in
ISO form, every enumeration by its value.  A record here is parametrised by its numbers, so that
one shape serves the decimals as they are spelled and the numbers they denote.

## Main definitions

* `OrderRecord`, `FillRecord`, `LedgerRecord`, `TradeRecord`, `PortfolioRecord`, `EquityRecord`,
  `RegimeRecord` — the records.
* `validate` — the checks of their constructors, on the numbers.
* `fields` — `canonical_value`, the fields in the order of their names.
-/

namespace DryTrade
namespace Backtesting

open MarketData Indicators

/-! ### The values of the enumerations -/

def OrderSide.value : OrderSide → String
  | .buy => "BUY"
  | .sell => "SELL"

def OrderType.value : OrderType → String
  | .market => "MARKET"
  | .limit => "LIMIT"
  | .stopMarket => "STOP_MARKET"

def OrderStatus.value : OrderStatus → String
  | .created => "CREATED"
  | .open => "OPEN"
  | .filled => "FILLED"
  | .cancelled => "CANCELLED"
  | .rejected => "REJECTED"
  | .expired => "EXPIRED"

def TimeInForce.value : TimeInForce → String
  | .gtc => "GTC"
  | .ioc => "IOC"
  | .day => "DAY"

def FillReason.value : FillReason → String
  | .marketOpen => "MARKET_OPEN"
  | .limitTouched => "LIMIT_TOUCHED"
  | .limitGap => "LIMIT_GAP"
  | .stopTriggered => "STOP_TRIGGERED"
  | .stopGap => "STOP_GAP"
  | .forceClose => "FORCE_CLOSE"

def FillLiquidity.value : FillLiquidity → String
  | .maker => "MAKER"
  | .taker => "TAKER"

def regimeKindValue : MarketRegimeKind → String
  | .warmup => "warmup"
  | .trend => "trend"
  | .range => "range"
  | .volatile => "volatile"

def trendDirectionValue : TrendDirection → String
  | .none => "none"
  | .up => "up"
  | .down => "down"

/-! ### Canonical values -/

/-- The canonical value of a decimal. -/
def decimalJson (d : Decimal) : Json := .str (String.ofList d.text)

/-- The canonical value of an instant. -/
def timeJson (t : Instant) : Json := .str (String.ofList (isoformat t))

/-! ### Checks the constructors share -/

/-- `_require_positive`. -/
def requirePositive (kind : FailureKind) (value : ℚ) (fieldName : String) : Except Failure Unit :=
  kind.unless (decide (0 < value)) (fieldName ++ " must be positive")

/-- A whitespace character. -/
def isSpace (c : Char) : Bool :=
  let n := c.toNat
  (decide (9 ≤ n) && decide (n ≤ 13)) || (decide (28 ≤ n) && decide (n ≤ 32)) || n == 0x85 ||
    n == 0xa0 || n == 0x1680 || (decide (0x2000 ≤ n) && decide (n ≤ 0x200a)) || n == 0x2028 ||
    n == 0x2029 || n == 0x202f || n == 0x205f || n == 0x3000

/-- `value.strip()`. -/
def strip (s : String) : String :=
  String.ofList ((s.toList.dropWhile isSpace).rdropWhile isSpace)

/-! ### Orders -/

/-- A strategy request. -/
structure IntentRecord (D : Type) where
  side : OrderSide
  orderType : OrderType
  quantity : D
  timeInForce : TimeInForce
  limitPrice : Option D
  stopPrice : Option D
  clientTag : Option String
  deriving DecidableEq

/-- An order with its request. -/
structure OrderRecord (D : Type) where
  orderId : String
  createdSequence : ℤ
  createdAt : Instant
  createdCandleIndex : ℤ
  eligibleCandleIndex : ℤ
  intent : IntentRecord D
  status : OrderStatus
  openedAt : Option Instant
  terminalAt : Option Instant
  rejectionCode : Option String
  deriving DecidableEq

def IntentRecord.map {D E : Type} (f : D → E) (r : IntentRecord D) : IntentRecord E where
  side := r.side
  orderType := r.orderType
  quantity := f r.quantity
  timeInForce := r.timeInForce
  limitPrice := r.limitPrice.map f
  stopPrice := r.stopPrice.map f
  clientTag := r.clientTag

def OrderRecord.map {D E : Type} (f : D → E) (r : OrderRecord D) : OrderRecord E where
  orderId := r.orderId
  createdSequence := r.createdSequence
  createdAt := r.createdAt
  createdCandleIndex := r.createdCandleIndex
  eligibleCandleIndex := r.eligibleCandleIndex
  intent := r.intent.map f
  status := r.status
  openedAt := r.openedAt
  terminalAt := r.terminalAt
  rejectionCode := r.rejectionCode

/-- The checks of the constructor of a request, which strips its tag. -/
def IntentRecord.validate (r : IntentRecord ℚ) : Except Failure Unit := do
  requirePositive .invalidOrderIntent r.quantity "quantity"
  match r.orderType with
  | .market =>
    FailureKind.invalidOrderIntent.unless (r.limitPrice.isNone && r.stopPrice.isNone)
      "market order must not carry trigger prices"
  | .limit =>
    FailureKind.invalidOrderIntent.unless (r.limitPrice.isSome && r.stopPrice.isNone)
      "limit order requires only limit_price"
    requirePositive .invalidOrderIntent (r.limitPrice.getD 0) "limit_price"
  | .stopMarket =>
    FailureKind.invalidOrderIntent.unless (r.stopPrice.isSome && r.limitPrice.isNone)
      "stop-market order requires only stop_price"
    requirePositive .invalidOrderIntent (r.stopPrice.getD 0) "stop_price"
  FailureKind.invalidOrderIntent.unless (r.clientTag.all isSafeTag)
    "client_tag must be a safe identifier"

/-- The checks of the constructor of an order. -/
def OrderRecord.validate (r : OrderRecord ℚ) : Except Failure Unit := do
  FailureKind.value.unless (isFillToken r.orderId) "order_id must be a safe identifier"
  FailureKind.value.unless (decide (1 ≤ r.createdSequence ∧ -1 ≤ r.createdCandleIndex))
    "order sequence and candle index are invalid"
  FailureKind.value.unless (decide (r.createdCandleIndex < r.eligibleCandleIndex))
    "an order may only be eligible after its creation candle"
  match r.status with
  | .created =>
    FailureKind.value.unless (r.openedAt.isNone && r.terminalAt.isNone)
      "created order cannot have lifecycle timestamps"
  | .open =>
    FailureKind.value.unless (r.openedAt.isSome && r.terminalAt.isNone)
      "open order requires only opened_at"
  | .rejected =>
    FailureKind.value.unless r.terminalAt.isSome "terminal order requires terminal_at"
    FailureKind.value.unless (r.rejectionCode.any isSafeTag)
      "rejected order requires a safe rejection_code"
  | .filled | .cancelled | .expired =>
    FailureKind.value.unless r.terminalAt.isSome "terminal order requires terminal_at"
    FailureKind.value.unless r.rejectionCode.isNone
      "only rejected orders may contain rejection_code"

/-- The canonical value of a request. -/
def IntentRecord.fields (r : IntentRecord Decimal) : List (String × Json) :=
  [("client_tag", .ofOption .str r.clientTag),
    ("limit_price", .ofOption decimalJson r.limitPrice),
    ("order_type", .str r.orderType.value),
    ("quantity", decimalJson r.quantity),
    ("side", .str r.side.value),
    ("stop_price", .ofOption decimalJson r.stopPrice),
    ("time_in_force", .str r.timeInForce.value)]

/-- The canonical value of an order. -/
def OrderRecord.fields (r : OrderRecord Decimal) : List (String × Json) :=
  [("created_at", timeJson r.createdAt),
    ("created_candle_index", .int r.createdCandleIndex),
    ("created_sequence", .int r.createdSequence),
    ("eligible_candle_index", .int r.eligibleCandleIndex),
    ("intent", .obj r.intent.fields),
    ("opened_at", .ofOption timeJson r.openedAt),
    ("order_id", .str r.orderId),
    ("rejection_code", .ofOption .str r.rejectionCode),
    ("status", .str r.status.value),
    ("terminal_at", .ofOption timeJson r.terminalAt)]

/-! ### Fills -/

/-- A simulated execution. -/
structure FillRecord (D : Type) where
  fillId : String
  orderId : String
  reason : FillReason
  liquidity : FillLiquidity
  side : OrderSide
  quantity : D
  basePrice : D
  executionPrice : D
  notional : D
  fee : D
  slippageCost : D
  eventTime : Instant
  candleIndex : ℤ
  deriving DecidableEq

def FillRecord.map {D E : Type} (f : D → E) (r : FillRecord D) : FillRecord E where
  fillId := r.fillId
  orderId := r.orderId
  reason := r.reason
  liquidity := r.liquidity
  side := r.side
  quantity := f r.quantity
  basePrice := f r.basePrice
  executionPrice := f r.executionPrice
  notional := f r.notional
  fee := f r.fee
  slippageCost := f r.slippageCost
  eventTime := r.eventTime
  candleIndex := r.candleIndex

/-- The fill of the engine that a record shows. -/
def FillRecord.toFill (r : FillRecord ℚ) : Fill where
  fillId := r.fillId
  orderId := r.orderId
  reason := r.reason
  liquidity := r.liquidity
  side := r.side
  quantity := r.quantity
  basePrice := r.basePrice
  executionPrice := r.executionPrice
  notional := r.notional
  fee := r.fee
  slippageCost := r.slippageCost
  eventTime := r.eventTime
  candleIndex := r.candleIndex.toNat

/-- The checks of the constructor of a fill. -/
def FillRecord.validate (ctx : DecimalContext) (r : FillRecord ℚ) : Except Failure Unit := do
  FailureKind.value.unless (isFillToken r.fillId && isFillToken r.orderId)
    "fill and order ids must be safe identifiers"
  let _ ← r.toFill.validate ctx
  FailureKind.value.unless (decide (0 ≤ r.candleIndex)) "fill candle_index must be nonnegative"

/-- The canonical value of a fill. -/
def FillRecord.fields (r : FillRecord Decimal) : List (String × Json) :=
  [("base_price", decimalJson r.basePrice),
    ("candle_index", .int r.candleIndex),
    ("event_time", timeJson r.eventTime),
    ("execution_price", decimalJson r.executionPrice),
    ("fee", decimalJson r.fee),
    ("fill_id", .str r.fillId),
    ("liquidity", .str r.liquidity.value),
    ("notional", decimalJson r.notional),
    ("order_id", .str r.orderId),
    ("quantity", decimalJson r.quantity),
    ("reason", .str r.reason.value),
    ("side", .str r.side.value),
    ("slippage_cost", decimalJson r.slippageCost)]

/-! ### Ledger entries -/

/-- An entry of the ledger. -/
structure LedgerRecord (D : Type) where
  sequence : ℤ
  eventTime : Instant
  candleIndex : ℤ
  entryType : LedgerEntryType
  quoteDelta : D
  baseDelta : D
  fee : D
  realizedPnl : D
  quoteBalance : D
  baseBalance : D
  previousHash : String
  entryHash : String
  orderId : Option String
  fillId : Option String
  notional : D
  referencePrice : Option D
  deriving DecidableEq

def LedgerRecord.map {D E : Type} (f : D → E) (r : LedgerRecord D) : LedgerRecord E where
  sequence := r.sequence
  eventTime := r.eventTime
  candleIndex := r.candleIndex
  entryType := r.entryType
  quoteDelta := f r.quoteDelta
  baseDelta := f r.baseDelta
  fee := f r.fee
  realizedPnl := f r.realizedPnl
  quoteBalance := f r.quoteBalance
  baseBalance := f r.baseBalance
  previousHash := r.previousHash
  entryHash := r.entryHash
  orderId := r.orderId
  fillId := r.fillId
  notional := f r.notional
  referencePrice := r.referencePrice.map f

/-- The checks of the constructor of an entry. -/
def LedgerRecord.validate (r : LedgerRecord ℚ) : Except Failure Unit := do
  FailureKind.value.unless (decide (1 ≤ r.sequence ∧ -1 ≤ r.candleIndex))
    "ledger sequence or candle index is invalid"
  FailureKind.value.unless (decide (0 ≤ r.fee ∧ 0 ≤ r.quoteBalance ∧ 0 ≤ r.baseBalance))
    "ledger fees and balances must be nonnegative"
  FailureKind.value.unless (decide (0 ≤ r.notional)) "ledger notional must be nonnegative"
  FailureKind.value.unless (r.referencePrice.all fun p => decide (0 < p))
    "ledger reference price must be positive"
  FailureKind.value.unless (r.orderId.all isFillToken && r.fillId.all isFillToken)
    "ledger reference id is invalid"
  FailureKind.value.unless (isSha256 r.previousHash) "ledger previous hash is invalid"
  FailureKind.value.unless (isSha256 r.entryHash) "ledger entry hash is invalid"

/-- The canonical value of an entry. -/
def LedgerRecord.fields (r : LedgerRecord Decimal) : List (String × Json) :=
  [("base_balance", decimalJson r.baseBalance),
    ("base_delta", decimalJson r.baseDelta),
    ("candle_index", .int r.candleIndex),
    ("entry_hash", .str r.entryHash),
    ("entry_type", .str r.entryType.value),
    ("event_time", timeJson r.eventTime),
    ("fee", decimalJson r.fee),
    ("fill_id", .ofOption .str r.fillId),
    ("notional", decimalJson r.notional),
    ("order_id", .ofOption .str r.orderId),
    ("previous_hash", .str r.previousHash),
    ("quote_balance", decimalJson r.quoteBalance),
    ("quote_delta", decimalJson r.quoteDelta),
    ("realized_pnl", decimalJson r.realizedPnl),
    ("reference_price", .ofOption decimalJson r.referencePrice),
    ("sequence", .int r.sequence)]

/-! ### Closed trades -/

/-- An average-cost realization. -/
structure TradeRecord (D : Type) where
  entryTime : Instant
  exitTime : Instant
  quantity : D
  averageEntry : D
  averageExit : D
  grossPnl : D
  fees : D
  netPnl : D
  returnPct : Option D
  barsHeld : ℤ
  entryFillIds : List String
  exitFillIds : List String
  deriving DecidableEq

def TradeRecord.map {D E : Type} (f : D → E) (r : TradeRecord D) : TradeRecord E where
  entryTime := r.entryTime
  exitTime := r.exitTime
  quantity := f r.quantity
  averageEntry := f r.averageEntry
  averageExit := f r.averageExit
  grossPnl := f r.grossPnl
  fees := f r.fees
  netPnl := f r.netPnl
  returnPct := r.returnPct.map f
  barsHeld := r.barsHeld
  entryFillIds := r.entryFillIds
  exitFillIds := r.exitFillIds

/-- The closed trade that a record shows. -/
def TradeRecord.toTrade (r : TradeRecord ℚ) : ClosedTrade where
  entryTime := r.entryTime
  exitTime := r.exitTime
  quantity := r.quantity
  averageEntry := r.averageEntry
  averageExit := r.averageExit
  grossPnl := r.grossPnl
  fees := r.fees
  netPnl := r.netPnl
  returnPct := r.returnPct
  barsHeld := r.barsHeld.toNat
  entryFillIds := r.entryFillIds
  exitFillIds := r.exitFillIds

/-- The checks of the constructor of a trade. -/
def TradeRecord.validate (ctx : DecimalContext) (r : TradeRecord ℚ) : Except Failure Unit := do
  FailureKind.value.unless (decide (0 ≤ r.barsHeld)) "trade bars_held must be nonnegative"
  let _ ← r.toTrade.validate ctx

/-- The canonical value of a trade. -/
def TradeRecord.fields (r : TradeRecord Decimal) : List (String × Json) :=
  [("average_entry", decimalJson r.averageEntry),
    ("average_exit", decimalJson r.averageExit),
    ("bars_held", .int r.barsHeld),
    ("entry_fill_ids", .arr (r.entryFillIds.map .str)),
    ("entry_time", timeJson r.entryTime),
    ("exit_fill_ids", .arr (r.exitFillIds.map .str)),
    ("exit_time", timeJson r.exitTime),
    ("fees", decimalJson r.fees),
    ("gross_pnl", decimalJson r.grossPnl),
    ("net_pnl", decimalJson r.netPnl),
    ("quantity", decimalJson r.quantity),
    ("return_pct", .ofOption decimalJson r.returnPct)]

/-! ### Portfolios -/

/-- The published state of a portfolio. -/
structure PortfolioRecord (D : Type) where
  quoteCash : D
  baseQuantity : D
  averageEntryPrice : D
  realizedPnl : D
  unrealizedPnl : D
  totalFees : D
  totalSlippageCost : D
  equity : D
  peakEquity : D
  drawdown : D
  costBasis : D
  drawdownPct : D
  deriving DecidableEq

def PortfolioRecord.map {D E : Type} (f : D → E) (r : PortfolioRecord D) : PortfolioRecord E where
  quoteCash := f r.quoteCash
  baseQuantity := f r.baseQuantity
  averageEntryPrice := f r.averageEntryPrice
  realizedPnl := f r.realizedPnl
  unrealizedPnl := f r.unrealizedPnl
  totalFees := f r.totalFees
  totalSlippageCost := f r.totalSlippageCost
  equity := f r.equity
  peakEquity := f r.peakEquity
  drawdown := f r.drawdown
  costBasis := f r.costBasis
  drawdownPct := f r.drawdownPct

/-- The checks of the constructor of a portfolio snapshot. -/
def PortfolioRecord.validate (ctx : DecimalContext) (r : PortfolioRecord ℚ) :
    Except Failure Unit := do
  requireNonnegative [("quote_cash", r.quoteCash), ("base_quantity", r.baseQuantity),
    ("average_entry_price", r.averageEntryPrice), ("total_fees", r.totalFees),
    ("total_slippage_cost", r.totalSlippageCost), ("equity", r.equity),
    ("peak_equity", r.peakEquity), ("drawdown", r.drawdown), ("cost_basis", r.costBasis),
    ("drawdown_pct", r.drawdownPct)]
  FailureKind.value.unless
    (!(r.baseQuantity == 0) || (r.averageEntryPrice == 0 && r.costBasis == 0))
    "flat portfolio must have zero average entry price and cost basis"
  FailureKind.value.unless
    (!decide (0 < r.baseQuantity) || (decide (0 < r.averageEntryPrice) && decide (0 < r.costBasis)))
    "open position requires positive average entry price and cost basis"
  FailureKind.value.unless (decide (r.equity ≤ r.peakEquity)) "equity must not exceed peak_equity"
  FailureKind.value.unless (r.drawdown == ctx.sub r.peakEquity r.equity)
    "drawdown must equal peak_equity minus equity"
  FailureKind.value.unless (r.drawdownPct == expectedDrawdownPct ctx r.peakEquity r.drawdown)
    "drawdown_pct must match peak and current equity"

/-- The canonical value of a portfolio snapshot. -/
def PortfolioRecord.fields (r : PortfolioRecord Decimal) : List (String × Json) :=
  [("average_entry_price", decimalJson r.averageEntryPrice),
    ("base_quantity", decimalJson r.baseQuantity),
    ("cost_basis", decimalJson r.costBasis),
    ("drawdown", decimalJson r.drawdown),
    ("drawdown_pct", decimalJson r.drawdownPct),
    ("equity", decimalJson r.equity),
    ("peak_equity", decimalJson r.peakEquity),
    ("quote_cash", decimalJson r.quoteCash),
    ("realized_pnl", decimalJson r.realizedPnl),
    ("total_fees", decimalJson r.totalFees),
    ("total_slippage_cost", decimalJson r.totalSlippageCost),
    ("unrealized_pnl", decimalJson r.unrealizedPnl)]

/-! ### The equity curve -/

/-- One point of the equity curve. -/
structure EquityRecord (D : Type) where
  candleIndex : ℤ
  eventTime : Instant
  closePrice : D
  quoteCash : D
  baseQuantity : D
  equity : D
  peakEquity : D
  drawdown : D
  drawdownPct : D
  deriving DecidableEq

def EquityRecord.map {D E : Type} (f : D → E) (r : EquityRecord D) : EquityRecord E where
  candleIndex := r.candleIndex
  eventTime := r.eventTime
  closePrice := f r.closePrice
  quoteCash := f r.quoteCash
  baseQuantity := f r.baseQuantity
  equity := f r.equity
  peakEquity := f r.peakEquity
  drawdown := f r.drawdown
  drawdownPct := f r.drawdownPct

/-- The checks of the constructor of an equity point. -/
def EquityRecord.validate (ctx : DecimalContext) (r : EquityRecord ℚ) : Except Failure Unit := do
  FailureKind.value.unless (decide (0 ≤ r.candleIndex)) "equity candle_index must be nonnegative"
  requirePositive .value r.closePrice "close_price"
  requireNonnegative [("quote_cash", r.quoteCash), ("base_quantity", r.baseQuantity),
    ("equity", r.equity), ("peak_equity", r.peakEquity), ("drawdown", r.drawdown),
    ("drawdown_pct", r.drawdownPct)]
  FailureKind.value.unless (decide (r.equity ≤ r.peakEquity)) "equity point exceeds peak equity"
  FailureKind.value.unless (r.drawdown == ctx.sub r.peakEquity r.equity)
    "equity point drawdown is inconsistent"
  FailureKind.value.unless (r.drawdownPct == expectedDrawdownPct ctx r.peakEquity r.drawdown)
    "equity point drawdown_pct is inconsistent"

/-- The canonical value of an equity point. -/
def EquityRecord.fields (r : EquityRecord Decimal) : List (String × Json) :=
  [("base_quantity", decimalJson r.baseQuantity),
    ("candle_index", .int r.candleIndex),
    ("close_price", decimalJson r.closePrice),
    ("drawdown", decimalJson r.drawdown),
    ("drawdown_pct", decimalJson r.drawdownPct),
    ("equity", decimalJson r.equity),
    ("event_time", timeJson r.eventTime),
    ("peak_equity", decimalJson r.peakEquity),
    ("quote_cash", decimalJson r.quoteCash)]

/-! ### Market regimes -/

/-- One classification of the market. -/
structure RegimeRecord (D : Type) where
  eventTime : Instant
  regime : MarketRegimeKind
  trendDirection : TrendDirection
  fastEma : Option D
  slowEma : Option D
  atr : Option D
  atrRatio : Option D
  trendStrength : Option D
  deriving DecidableEq

def RegimeRecord.map {D E : Type} (f : D → E) (r : RegimeRecord D) : RegimeRecord E where
  eventTime := r.eventTime
  regime := r.regime
  trendDirection := r.trendDirection
  fastEma := r.fastEma.map f
  slowEma := r.slowEma.map f
  atr := r.atr.map f
  atrRatio := r.atrRatio.map f
  trendStrength := r.trendStrength.map f

/-- The point of the detector that a record shows. -/
def RegimeRecord.toPoint (r : RegimeRecord ℚ) : MarketRegimePoint where
  eventTime := r.eventTime
  regime := r.regime
  trendDirection := r.trendDirection
  fastEma := r.fastEma
  slowEma := r.slowEma
  atr := r.atr
  atrRatio := r.atrRatio
  trendStrength := r.trendStrength

/-- The checks of the constructor of a point. -/
def RegimeRecord.validate (r : RegimeRecord ℚ) : Except Failure Unit := do
  let _ ← r.toPoint.validate

/-- The canonical value of a point. -/
def RegimeRecord.fields (r : RegimeRecord Decimal) : List (String × Json) :=
  [("atr", .ofOption decimalJson r.atr),
    ("atr_ratio", .ofOption decimalJson r.atrRatio),
    ("event_time", timeJson r.eventTime),
    ("fast_ema", .ofOption decimalJson r.fastEma),
    ("regime", .str (regimeKindValue r.regime)),
    ("slow_ema", .ofOption decimalJson r.slowEma),
    ("trend_direction", .str (trendDirectionValue r.trendDirection)),
    ("trend_strength", .ofOption decimalJson r.trendStrength)]

end Backtesting
end DryTrade
