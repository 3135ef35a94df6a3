import DryTrade.Backtesting.Records

/-!
# Reading published records

The verifier reads every record of a run back from its JSON, field by field, and builds it with
the constructor that the engine used.  A record that passes the checks of its constructor is read
back as it was published, its decimals in their canonical spelling.

## Main definitions

* `strOf`, `intOf`, `decimalOf`, `enumOf`, `datetimeOf` — reading one value.
* `decodeOrder`, `decodeFill`, `decodeLedger`, `decodeTrade`, `decodePortfolio`,
  `decodeEquityRow`, `decodeMarketRegimePoint` — reading one record.

## Main results

* `decode_fields` — every published record is read back.
-/

namespace DryTrade
namespace Backtesting

open MarketData Indicators

/-! ### Reading one value -/

/-- `raw.get(key)`. -/
def fieldOf (raw : List (String × Json)) (key : String) : Json := (raw.lookup key).getD .null

/-- `_str`. -/
def strOf : Json → Except Failure String
  | .str s => .ok s
  | _ => FailureKind.backtestResultCorrupt.raise

/-- `_int`. -/
def intOf : Json → Except Failure ℤ
  | .int n => .ok n
  | _ => FailureKind.backtestResultCorrupt.raise

/-- `_dict`. -/
def dictOf (raw : List (String × Json)) (key : String) : Except Failure (List (String × Json)) :=
  match fieldOf raw key with
  | .obj fields => .ok fields
  | _ => FailureKind.backtestResultCorrupt.raise

/-- `_list`. -/
def listOf (raw : List (String × Json)) (key : String) : Except Failure (List Json) :=
  match fieldOf raw key with
  | .arr items => .ok items
  | _ => FailureKind.backtestResultCorrupt.raise

/-- `_decimal`. -/
def decimalOf : Json → Except Failure Decimal
  | .str s =>
    match Decimal.ofText s.toList with
    | some d => .ok d
    | none => FailureKind.backtestResultCorrupt.raise
  | _ => FailureKind.backtestResultCorrupt.raise

/-- `datetime.fromisoformat(_str(value))`. -/
def datetimeOf (value : Json) : Except Failure Instant := do
  let s ← strOf value
  match fromisoformat s.toList with
  | some t => .ok t
  | none => FailureKind.value.raiseWith ("Invalid isoformat string: '" ++ s ++ "'")

/-- The member of an enumeration with a value. -/
def enumOf {α : Type} (name : String) (members : List α) (valueOf : α → String) (value : Json) :
    Except Failure α := do
  let s ← strOf value
  match members.find? fun a => valueOf a == s with
  | some a => .ok a
  | none => FailureKind.value.raiseWith ("'" ++ s ++ "' is not a valid " ++ name)

/-- A value that may be null. -/
def optionalOf {α : Type} (read : Json → Except Failure α) : Json → Except Failure (Option α)
  | .null => .ok none
  | value => some <$> read value

def orderSideOf : Json → Except Failure OrderSide := enumOf "OrderSide" [.buy, .sell] OrderSide.value

def orderTypeOf : Json → Except Failure OrderType :=
  enumOf "OrderType" [.market, .limit, .stopMarket] OrderType.value

def timeInForceOf : Json → Except Failure TimeInForce :=
  enumOf "TimeInForce" [.gtc, .ioc, .day] TimeInForce.value

def orderStatusOf : Json → Except Failure OrderStatus :=
  enumOf "OrderStatus" [.created, .open, .filled, .cancelled, .rejected, .expired]
    OrderStatus.value

def fillReasonOf : Json → Except Failure FillReason :=
  enumOf "FillReason" [.marketOpen, .limitTouched, .limitGap, .stopTriggered, .stopGap, .forceClose]
    FillReason.value

def fillLiquidityOf : Json → Except Failure FillLiquidity :=
  enumOf "FillLiquidity" [.maker, .taker] FillLiquidity.value

def ledgerEntryTypeOf : Json → Except Failure LedgerEntryType :=
  enumOf "LedgerEntryType"
    [.initialCapital, .orderReserved, .orderReleased, .buyFill, .sellFill, .fee, .realizedPnl,
      .markToMarket, .finalState] LedgerEntryType.value

def regimeKindOf : Json → Except Failure MarketRegimeKind :=
  enumOf "MarketRegimeKind" [.warmup, .trend, .range, .volatile] regimeKindValue

def trendDirectionOf : Json → Except Failure TrendDirection :=
  enumOf "TrendDirection" [.none, .up, .down] trendDirectionValue

/-! ### Constructors -/

/-- A record that passes its checks. -/
def constructed {R : Type} (validate : R → Except Failure Unit) (r : R) : Except Failure R := do
  validate r
  return r

/-- `OrderIntent(...)`. -/
def IntentRecord.construct (r : IntentRecord Decimal) : Except Failure (IntentRecord Decimal) :=
  constructed (fun r => (r.map Decimal.value).validate)
    { r with clientTag := r.clientTag.map strip }

/-- `SimulatedOrder(...)`. -/
def OrderRecord.construct : OrderRecord Decimal → Except Failure (OrderRecord Decimal) :=
  constructed fun r => (r.map Decimal.value).validate

/-- `LedgerEntry(...)`. -/
def LedgerRecord.construct : LedgerRecord Decimal → Except Failure (LedgerRecord Decimal) :=
  constructed fun r => (r.map Decimal.value).validate

/-- `MarketRegimePoint(...)`. -/
def RegimeRecord.construct : RegimeRecord Decimal → Except Failure (RegimeRecord Decimal) :=
  constructed fun r => (r.map Decimal.value).validate

section

variable (ctx : DecimalContext)

/-- `Fill(...)`. -/
def FillRecord.construct : FillRecord Decimal → Except Failure (FillRecord Decimal) :=
  constructed fun r => (r.map Decimal.value).validate ctx

/-- `ClosedTrade(...)`. -/
def TradeRecord.construct : TradeRecord Decimal → Except Failure (TradeRecord Decimal) :=
  constructed fun r => (r.map Decimal.value).validate ctx

/-- `PortfolioSnapshot(...)`. -/
def PortfolioRecord.construct : PortfolioRecord Decimal → Except Failure (PortfolioRecord Decimal) :=
  constructed fun r => (r.map Decimal.value).validate ctx

/-- `EquityPoint(...)`. -/
def EquityRecord.construct : EquityRecord Decimal → Except Failure (EquityRecord Decimal) :=
  constructed fun r => (r.map Decimal.value).validate ctx

end

/-! ### Reading one record -/

/-- The request inside an order. -/
def decodeIntent (raw : List (String × Json)) : Except Failure (IntentRecord Decimal) := do
  let side ← orderSideOf (fieldOf raw "side")
  let orderType ← orderTypeOf (fieldOf raw "order_type")
  let quantity ← decimalOf (fieldOf raw "quantity")
  let timeInForce ← timeInForceOf (fieldOf raw "time_in_force")
  let limitPrice ← optionalOf decimalOf (fieldOf raw "limit_price")
  let stopPrice ← optionalOf decimalOf (fieldOf raw "stop_price")
  let clientTag ← optionalOf strOf (fieldOf raw "client_tag")
  IntentRecord.construct ⟨side, orderType, quantity, timeInForce, limitPrice, stopPrice, clientTag⟩

/-- `_decode_order`. -/
def decodeOrder (raw : List (String × Json)) : Except Failure (OrderRecord Decimal) := do
  let intentRaw ← dictOf raw "intent"
  let orderId ← strOf (fieldOf raw "order_id")
  let createdSequence ← intOf (fieldOf raw "created_sequence")
  let createdAt ← datetimeOf (fieldOf raw "created_at")
  let createdCandleIndex ← intOf (fieldOf raw "created_candle_index")
  let eligibleCandleIndex ← intOf (fieldOf raw "eligible_candle_index")
  let intent ← decodeIntent intentRaw
  let status ← orderStatusOf (fieldOf raw "status")
  let openedAt ← optionalOf datetimeOf (fieldOf raw "opened_at")
  let terminalAt ← optionalOf datetimeOf (fieldOf raw "terminal_at")
  let rejectionCode ← optionalOf strOf (fieldOf raw "rejection_code")
  OrderRecord.construct ⟨orderId, createdSequence, createdAt, createdCandleIndex,
    eligibleCandleIndex, intent, status, openedAt, terminalAt, rejectionCode⟩

/-- `_decode_ledger`. -/
def decodeLedger (raw : List (String × Json)) : Except Failure (LedgerRecord Decimal) := do
  let sequence ← intOf (fieldOf raw "sequence")
  let eventTime ← datetimeOf (fieldOf raw "event_time")
  let candleIndex ← intOf (fieldOf raw "candle_index")
  let entryType ← ledgerEntryTypeOf (fieldOf raw "entry_type")
  let quoteDelta ← decimalOf (fieldOf raw "quote_delta")
  let baseDelta ← decimalOf (fieldOf raw "base_delta")
  let fee ← decimalOf (fieldOf raw "fee")
  let realizedPnl ← decimalOf (fieldOf raw "realized_pnl")
  let quoteBalance ← decimalOf (fieldOf raw "quote_balance")
  let baseBalance ← decimalOf (fieldOf raw "base_balance")
  let previousHash ← strOf (fieldOf raw "previous_hash")
  let entryHash ← strOf (fieldOf raw "entry_hash")
  let orderId ← optionalOf strOf (fieldOf raw "order_id")
  let fillId ← optionalOf strOf (fieldOf raw "fill_id")
  let notional ← decimalOf (fieldOf raw "notional")
  let referencePrice ← optionalOf decimalOf (fieldOf raw "reference_price")
  LedgerRecord.construct ⟨sequence, eventTime, candleIndex, entryType, quoteDelta, baseDelta, fee,
    realizedPnl, quoteBalance, baseBalance, previousHash, entryHash, orderId, fillId, notional,
    referencePrice⟩

/-- Dictionaries with the same entries. -/
def dictEq (a b : List (String × Json)) : Bool :=
  a.length == b.length && a.all fun entry =>
    (b.lookup entry.1).any fun value => value.encode == entry.2.encode

/-- `_decode_market_regime_point`. -/
def decodeMarketRegimePoint (raw : List (String × Json)) :
    Except Failure (RegimeRecord Decimal) := do
  let eventTime ← datetimeOf (fieldOf raw "event_time")
  let regime ← regimeKindOf (fieldOf raw "regime")
  let trendDirection ← trendDirectionOf (fieldOf raw "trend_direction")
  let fastEma ← optionalOf decimalOf (fieldOf raw "fast_ema")
  let slowEma ← optionalOf decimalOf (fieldOf raw "slow_ema")
  let atr ← optionalOf decimalOf (fieldOf raw "atr")
  let atrRatio ← optionalOf decimalOf (fieldOf raw "atr_ratio")
  let trendStrength ← optionalOf decimalOf (fieldOf raw "trend_strength")
  let point ← RegimeRecord.construct ⟨eventTime, regime, trendDirection, fastEma, slowEma, atr,
    atrRatio, trendStrength⟩
  FailureKind.backtestResultCorrupt.unless (dictEq point.fields raw)
    "Um ponto de regime do backtest não é canônico."
  return point

section

variable (ctx : DecimalContext)

/-- `_decode_fill`. -/
def decodeFill (raw : List (String × Json)) : Except Failure (FillRecord Decimal) := do
  let fillId ← strOf (fieldOf raw "fill_id")
  let orderId ← strOf (fieldOf raw "order_id")
  let reason ← fillReasonOf (fieldOf raw "reason")
  let liquidity ← fillLiquidityOf (fieldOf raw "liquidity")
  let side ← orderSideOf (fieldOf raw "side")
  let quantity ← decimalOf (fieldOf raw "quantity")
  let basePrice ← decimalOf (fieldOf raw "base_price")
  let executionPrice ← decimalOf (fieldOf raw "execution_price")
  let notional ← decimalOf (fieldOf raw "notional")
  let fee ← decimalOf (fieldOf raw "fee")
  let slippageCost ← decimalOf (fieldOf raw "slippage_cost")
  let eventTime ← datetimeOf (fieldOf raw "event_time")
  let candleIndex ← intOf (fieldOf raw "candle_index")
  FillRecord.construct ctx ⟨fillId, orderId, reason, liquidity, side, quantity, basePrice,
    executionPrice, notional, fee, slippageCost, eventTime, candleIndex⟩

/-- `_decode_trade`. -/
def decodeTrade (raw : List (String × Json)) : Except Failure (TradeRecord Decimal) := do
  let entryTime ← datetimeOf (fieldOf raw "entry_time")
  let exitTime ← datetimeOf (fieldOf raw "exit_time")
  let quantity ← decimalOf (fieldOf raw "quantity")
  let averageEntry ← decimalOf (fieldOf raw "average_entry")
  let averageExit ← decimalOf (fieldOf raw "average_exit")
  let grossPnl ← decimalOf (fieldOf raw "gross_pnl")
  let fees ← decimalOf (fieldOf raw "fees")
  let netPnl ← decimalOf (fieldOf raw "net_pnl")
  let returnPct ← optionalOf decimalOf (fieldOf raw "return_pct")
  let barsHeld ← intOf (fieldOf raw "bars_held")
  let entryFillIds ← (← listOf raw "entry_fill_ids").mapM strOf
  let exitFillIds ← (← listOf raw "exit_fill_ids").mapM strOf
  TradeRecord.construct ctx ⟨entryTime, exitTime, quantity, averageEntry, averageExit, grossPnl,
    fees, netPnl, returnPct, barsHeld, entryFillIds, exitFillIds⟩

/-- `_decode_portfolio`. -/
def decodePortfolio (raw : List (String × Json)) : Except Failure (PortfolioRecord Decimal) := do
  let quoteCash ← decimalOf (fieldOf raw "quote_cash")
  let baseQuantity ← decimalOf (fieldOf raw "base_quantity")
  let averageEntryPrice ← decimalOf (fieldOf raw "average_entry_price")
  let realizedPnl ← decimalOf (fieldOf raw "realized_pnl")
  let unrealizedPnl ← decimalOf (fieldOf raw "unrealized_pnl")
  let totalFees ← decimalOf (fieldOf raw "total_fees")
  let totalSlippageCost ← decimalOf (fieldOf raw "total_slippage_cost")
  let equity ← decimalOf (fieldOf raw "equity")
  let peakEquity ← decimalOf (fieldOf raw "peak_equity")
  let drawdown ← decimalOf (fieldOf raw "drawdown")
  let costBasis ← decimalOf (fieldOf raw "cost_basis")
  let drawdownPct ← decimalOf (fieldOf raw "drawdown_pct")
  PortfolioRecord.construct ctx ⟨quoteCash, baseQuantity, averageEntryPrice, realizedPnl,
    unrealizedPnl, totalFees, totalSlippageCost, equity, peakEquity, drawdown, costBasis,
    drawdownPct⟩

/-- One row of `read_equity_artifact`. -/
def decodeEquityRow (raw : List (String × Json)) : Except Failure (EquityRecord Decimal) := do
  let candleIndex ← intOf (fieldOf raw "candle_index")
  let eventTime ← datetimeOf (fieldOf raw "event_time")
  let closePrice ← decimalOf (fieldOf raw "close_price")
  let quoteCash ← decimalOf (fieldOf raw "quote_cash")
  let baseQuantity ← decimalOf (fieldOf raw "base_quantity")
  let equity ← decimalOf (fieldOf raw "equity")
  let peakEquity ← decimalOf (fieldOf raw "peak_equity")
  let drawdown ← decimalOf (fieldOf raw "drawdown")
  let drawdownPct ← decimalOf (fieldOf raw "drawdown_pct")
  EquityRecord.construct ctx ⟨candleIndex, eventTime, closePrice, quoteCash, baseQuantity, equity,
    peakEquity, drawdown, drawdownPct⟩

end

/-! ### What is written is read back -/

section

variable {α : Type}

@[simp] theorem strOf_str (s : String) : strOf (.str s) = .ok s := rfl

@[simp] theorem intOf_int (n : ℤ) : intOf (.int n) = .ok n := rfl

/-- A decimal is read back in its canonical spelling. -/
@[simp] theorem decimalOf_decimalJson (d : Decimal) :
    decimalOf (decimalJson d) = .ok d.canonical := by
  rw [decimalJson, decimalOf, String.toList_ofList, Decimal.ofText_text_eq]

@[simp] theorem datetimeOf_timeJson (t : Instant) : datetimeOf (timeJson t) = .ok t := by
  simp only [datetimeOf, timeJson, strOf_str, bind, Except.bind, String.toList_ofList,
    fromisoformat_isoformat]

@[simp] theorem orderSideOf_value (a : OrderSide) : orderSideOf (.str a.value) = .ok a := by
  cases a <;> rfl

@[simp] theorem orderTypeOf_value (a : OrderType) : orderTypeOf (.str a.value) = .ok a := by
  cases a <;> rfl

@[simp] theorem timeInForceOf_value (a : TimeInForce) : timeInForceOf (.str a.value) = .ok a := by
  cases a <;> rfl

@[simp] theorem orderStatusOf_value (a : OrderStatus) : orderStatusOf (.str a.value) = .ok a := by
  cases a <;> rfl

@[simp] theorem fillReasonOf_value (a : FillReason) : fillReasonOf (.str a.value) = .ok a := by
  cases a <;> rfl

@[simp] theorem fillLiquidityOf_value (a : FillLiquidity) :
    fillLiquidityOf (.str a.value) = .ok a := by
  cases a <;> rfl

@[simp] theorem ledgerEntryTypeOf_value (a : LedgerEntryType) :
    ledgerEntryTypeOf (.str a.value) = .ok a := by
  cases a <;> rfl

@[simp] theorem regimeKindOf_value (a : MarketRegimeKind) :
    regimeKindOf (.str (regimeKindValue a)) = .ok a := by
  cases a <;> rfl

@[simp] theorem trendDirectionOf_value (a : TrendDirection) :
    trendDirectionOf (.str (trendDirectionValue a)) = .ok a := by
  cases a <;> rfl

/-- A value that may be missing is read back when a value is. -/
theorem optionalOf_ofOption {β : Type} {read : Json → Except Failure β} {f : α → Json} {g : α → β}
    (hread : ∀ a, read (f a) = .ok (g a)) (hne : ∀ a, f a ≠ .null) (o : Option α) :
    optionalOf read (.ofOption f o) = .ok (o.map g) := by
  cases o with
  | none => rfl
  | some a =>
    have hsome : optionalOf read (f a) = some <$> read (f a) := by
      unfold optionalOf
      split
      · next h => exact absurd h (hne a)
      · rfl
    change optionalOf read (f a) = _
    rw [hsome, hread]
    rfl

@[simp] theorem optionalOf_str (s : Option String) :
    optionalOf strOf (.ofOption .str s) = .ok s := by
  simpa using optionalOf_ofOption strOf_str (fun _ => by simp) s

@[simp] theorem optionalOf_decimalJson (d : Option Decimal) :
    optionalOf decimalOf (.ofOption decimalJson d) = .ok (d.map Decimal.canonical) :=
  optionalOf_ofOption decimalOf_decimalJson (fun _ => by simp [decimalJson]) d

@[simp] theorem optionalOf_timeJson (t : Option Instant) :
    optionalOf datetimeOf (.ofOption timeJson t) = .ok t := by
  simpa using optionalOf_ofOption datetimeOf_timeJson (fun _ => by simp [timeJson]) t

@[simp] theorem mapM_strOf (l : List String) : l.mapM (strOf ∘ Json.str) = .ok l := by
  induction l with
  | nil => rfl
  | cons s l ih =>
    rw [List.mapM_cons, ih]
    rfl

end

/-! ### Reading back a record -/

@[simp] theorem value_comp_canonical : Decimal.value ∘ Decimal.canonical = Decimal.value :=
  funext Decimal.value_canonical

@[simp] theorem decimalJson_canonical (d : Decimal) : decimalJson d.canonical = decimalJson d := by
  rw [decimalJson, Decimal.text_canonical, decimalJson]

@[simp] theorem ofOption_decimalJson_canonical (d : Option Decimal) :
    Json.ofOption decimalJson (d.map Decimal.canonical) = .ofOption decimalJson d := by
  cases d <;> simp [Json.ofOption]

/-- Checks that see the same numbers have the same outcome. -/
theorem constructed_congr {R : Type} {validate : R → Except Failure Unit} {r r' : R}
    (h : constructed validate r = .ok r) (hsame : validate r' = validate r) :
    constructed validate r' = .ok r' := by
  simp only [constructed, bind_eq_ok, pure, Except.pure, and_true] at h ⊢
  rwa [hsame]

/-- What is read back from a published record: one with the same numbers, which is published in
the same way. -/
def ReadsBack {R : Type} {N : Type} (num : R → N) (fields : R → List (String × Json))
    (decode : List (String × Json) → Except Failure R) (r : R) : Prop :=
  ∃ r', decode (fields r) = .ok r' ∧ num r' = num r ∧ fields r' = fields r

section

variable (ctx : DecimalContext)

theorem readsBack_fill {r : FillRecord Decimal} (h : r.construct ctx = .ok r) :
    ReadsBack (FillRecord.map Decimal.value) FillRecord.fields (decodeFill ctx) r := by
  have hnum : (r.map Decimal.canonical).map Decimal.value = r.map Decimal.value := by
    simp [FillRecord.map]
  refine ⟨r.map Decimal.canonical, ?_, hnum, by simp [FillRecord.map, FillRecord.fields]⟩
  have hread : decodeFill ctx r.fields = (r.map Decimal.canonical).construct ctx := by
    simp [decodeFill, FillRecord.fields, fieldOf, List.lookup_cons, bind, Except.bind, FillRecord.map]
  rw [hread]
  exact constructed_congr h (by rw [hnum])

theorem readsBack_trade {r : TradeRecord Decimal} (h : r.construct ctx = .ok r) :
    ReadsBack (TradeRecord.map Decimal.value) TradeRecord.fields (decodeTrade ctx) r := by
  have hnum : (r.map Decimal.canonical).map Decimal.value = r.map Decimal.value := by
    simp [TradeRecord.map]
  refine ⟨r.map Decimal.canonical, ?_, hnum, by simp [TradeRecord.map, TradeRecord.fields]⟩
  have hread : decodeTrade ctx r.fields = (r.map Decimal.canonical).construct ctx := by
    simp [decodeTrade, TradeRecord.fields, fieldOf, List.lookup_cons, bind, Except.bind,
      TradeRecord.map, listOf]
  rw [hread]
  exact constructed_congr h (by rw [hnum])

theorem readsBack_portfolio {r : PortfolioRecord Decimal} (h : r.construct ctx = .ok r) :
    ReadsBack (PortfolioRecord.map Decimal.value) PortfolioRecord.fields (decodePortfolio ctx) r := by
  have hnum : (r.map Decimal.canonical).map Decimal.value = r.map Decimal.value := by
    simp [PortfolioRecord.map]
  refine ⟨r.map Decimal.canonical, ?_, hnum, by simp [PortfolioRecord.map, PortfolioRecord.fields]⟩
  have hread : decodePortfolio ctx r.fields = (r.map Decimal.canonical).construct ctx := by
    simp [decodePortfolio, PortfolioRecord.fields, fieldOf, List.lookup_cons, bind, Except.bind,
      PortfolioRecord.map]
  rw [hread]
  exact constructed_congr h (by rw [hnum])

theorem readsBack_equityRow {r : EquityRecord Decimal} (h : r.construct ctx = .ok r) :
    ReadsBack (EquityRecord.map Decimal.value) EquityRecord.fields (decodeEquityRow ctx) r := by
  have hnum : (r.map Decimal.canonical).map Decimal.value = r.map Decimal.value := by
    simp [EquityRecord.map]
  refine ⟨r.map Decimal.canonical, ?_, hnum, by simp [EquityRecord.map, EquityRecord.fields]⟩
  have hread : decodeEquityRow ctx r.fields = (r.map Decimal.canonical).construct ctx := by
    simp [decodeEquityRow, EquityRecord.fields, fieldOf, List.lookup_cons, bind, Except.bind,
      EquityRecord.map]
  rw [hread]
  exact constructed_congr h (by rw [hnum])

end

theorem readsBack_ledger {r : LedgerRecord Decimal} (h : r.construct = .ok r) :
    ReadsBack (LedgerRecord.map Decimal.value) LedgerRecord.fields decodeLedger r := by
  have hnum : (r.map Decimal.canonical).map Decimal.value = r.map Decimal.value := by
    simp [LedgerRecord.map]
  refine ⟨r.map Decimal.canonical, ?_, hnum, by simp [LedgerRecord.map, LedgerRecord.fields]⟩
  have hread : decodeLedger r.fields = (r.map Decimal.canonical).construct := by
    simp [decodeLedger, LedgerRecord.fields, fieldOf, List.lookup_cons, bind, Except.bind,
      LedgerRecord.map]
  rw [hread]
  exact constructed_congr h (by rw [hnum])

theorem readsBack_marketRegimePoint {r : RegimeRecord Decimal} (h : r.construct = .ok r) :
    ReadsBack (RegimeRecord.map Decimal.value) RegimeRecord.fields decodeMarketRegimePoint r := by
  have hnum : (r.map Decimal.canonical).map Decimal.value = r.map Decimal.value := by
    simp [RegimeRecord.map]
  have hfields : (r.map Decimal.canonical).fields = r.fields := by
    simp [RegimeRecord.map, RegimeRecord.fields]
  have hconstruct : (r.map Decimal.canonical).construct = .ok (r.map Decimal.canonical) :=
    constructed_congr h (by rw [hnum])
  refine ⟨r.map Decimal.canonical, ?_, hnum, hfields⟩
  have hread : decodeMarketRegimePoint r.fields = do
      let point ← (r.map Decimal.canonical).construct
      FailureKind.backtestResultCorrupt.unless (dictEq point.fields r.fields)
        "Um ponto de regime do backtest não é canônico."
      return point := by
    simp [decodeMarketRegimePoint, RegimeRecord.fields, fieldOf, List.lookup_cons, bind, Except.bind,
      RegimeRecord.map]
  have hdict : dictEq r.fields r.fields = true := by
    simp [dictEq, RegimeRecord.fields, List.lookup_cons]
  rw [hread, hconstruct]
  simp [bind, Except.bind, hfields, hdict, FailureKind.unless, pure, Except.pure]

/-- The tag of a constructed request has nothing to strip. -/
theorem IntentRecord.clientTag_of_construct {r : IntentRecord Decimal} (h : r.construct = .ok r) :
    r.clientTag.map strip = r.clientTag := by
  simp only [construct, constructed, bind_eq_ok, pure, Except.pure, Except.ok.injEq] at h
  obtain ⟨-, -, heq⟩ := h
  exact congrArg IntentRecord.clientTag heq

theorem IntentRecord.construct_of_stripped {r : IntentRecord Decimal}
    (h : r.clientTag.map strip = r.clientTag) :
    r.construct = constructed (fun r => (r.map Decimal.value).validate) r := by
  rw [construct, h]

theorem decodeIntent_fields {r : IntentRecord Decimal} (h : r.construct = .ok r) :
    decodeIntent r.fields = .ok (r.map Decimal.canonical) := by
  have hnum : (r.map Decimal.canonical).map Decimal.value = r.map Decimal.value := by
    simp [IntentRecord.map]
  have htag := IntentRecord.clientTag_of_construct h
  have hread : decodeIntent r.fields = (r.map Decimal.canonical).construct := by
    simp [decodeIntent, IntentRecord.fields, fieldOf, List.lookup_cons, bind, Except.bind,
      IntentRecord.map]
  rw [IntentRecord.construct_of_stripped htag] at h
  rw [hread, IntentRecord.construct_of_stripped (r := r.map Decimal.canonical) htag]
  exact constructed_congr h (by rw [hnum])

theorem readsBack_order {r : OrderRecord Decimal} (hintent : r.intent.construct = .ok r.intent)
    (h : r.construct = .ok r) :
    ReadsBack (OrderRecord.map Decimal.value) OrderRecord.fields decodeOrder r := by
  have hnum : (r.map Decimal.canonical).map Decimal.value = r.map Decimal.value := by
    simp [OrderRecord.map, IntentRecord.map]
  refine ⟨r.map Decimal.canonical, ?_, hnum,
    by simp [OrderRecord.map, OrderRecord.fields, IntentRecord.map, IntentRecord.fields]⟩
  have hread : decodeOrder r.fields = (r.map Decimal.canonical).construct := by
    simp [decodeOrder, OrderRecord.fields, fieldOf, dictOf, List.lookup_cons, bind, Except.bind,
      OrderRecord.map, decodeIntent_fields hintent]
  rw [hread]
  exact constructed_congr h (by rw [hnum])

/-- **Reading undoes publishing.**  Every record that its constructor accepts is read back by the
verifier, with the same numbers and the same publication. -/
theorem decode_fields (ctx : DecimalContext) :
    (∀ r : OrderRecord Decimal, r.intent.construct = .ok r.intent → r.construct = .ok r →
      ReadsBack (OrderRecord.map Decimal.value) OrderRecord.fields decodeOrder r) ∧
    (∀ r : FillRecord Decimal, r.construct ctx = .ok r →
      ReadsBack (FillRecord.map Decimal.value) FillRecord.fields (decodeFill ctx) r) ∧
    (∀ r : LedgerRecord Decimal, r.construct = .ok r →
      ReadsBack (LedgerRecord.map Decimal.value) LedgerRecord.fields decodeLedger r) ∧
    (∀ r : TradeRecord Decimal, r.construct ctx = .ok r →
      ReadsBack (TradeRecord.map Decimal.value) TradeRecord.fields (decodeTrade ctx) r) ∧
    (∀ r : PortfolioRecord Decimal, r.construct ctx = .ok r →
      ReadsBack (PortfolioRecord.map Decimal.value) PortfolioRecord.fields (decodePortfolio ctx)
        r) ∧
    (∀ r : EquityRecord Decimal, r.construct ctx = .ok r →
      ReadsBack (EquityRecord.map Decimal.value) EquityRecord.fields (decodeEquityRow ctx) r) ∧
    ∀ r : RegimeRecord Decimal, r.construct = .ok r →
      ReadsBack (RegimeRecord.map Decimal.value) RegimeRecord.fields decodeMarketRegimePoint r :=
  ⟨fun _ => readsBack_order, fun _ => readsBack_fill ctx, fun _ => readsBack_ledger,
    fun _ => readsBack_trade ctx, fun _ => readsBack_portfolio ctx,
    fun _ => readsBack_equityRow ctx, fun _ => readsBack_marketRegimePoint⟩

/-! ### One record of each kind -/

/-- Two hundred, with a positive exponent. -/
def twoHundred : Decimal := ⟨false, 2, 2⟩

/-- One half, with a zero at its end. -/
def half : Decimal := ⟨false, 50, -2⟩

/-- A zero with a sign. -/
def negativeZero : Decimal := ⟨true, 0, 3⟩

def stopOrder : OrderRecord Decimal where
  orderId := "O000000000001"
  createdSequence := 1
  createdAt := 0
  createdCandleIndex := 0
  eligibleCandleIndex := 1
  intent := ⟨.sell, .stopMarket, half, .gtc, none, some twoHundred, some "stop"⟩
  status := .rejected
  openedAt := none
  terminalAt := some 1500000
  rejectionCode := some "RISK"

def buyFill : FillRecord Decimal where
  fillId := "F000000000001"
  orderId := "O000000000001"
  reason := .limitTouched
  liquidity := .maker
  side := .buy
  quantity := half
  basePrice := twoHundred
  executionPrice := twoHundred
  notional := ⟨false, 1, 2⟩
  fee := negativeZero
  slippageCost := negativeZero
  eventTime := 0
  candleIndex := 1

def capitalRecord : LedgerRecord Decimal where
  sequence := 1
  eventTime := 0
  candleIndex := -1
  entryType := .initialCapital
  quoteDelta := twoHundred
  baseDelta := negativeZero
  fee := negativeZero
  realizedPnl := negativeZero
  quoteBalance := twoHundred
  baseBalance := negativeZero
  previousHash := zeroHash
  entryHash := capitalDigest
  orderId := none
  fillId := none
  notional := negativeZero
  referencePrice := none

def flatTrade : TradeRecord Decimal where
  entryTime := 0
  exitTime := 1
  quantity := half
  averageEntry := twoHundred
  averageExit := twoHundred
  grossPnl := negativeZero
  fees := half
  netPnl := ⟨true, 5, -1⟩
  returnPct := some ⟨true, 5, -1⟩
  barsHeld := 1
  entryFillIds := ["F000000000001"]
  exitFillIds := ["F000000000002"]

def flatPortfolio : PortfolioRecord Decimal where
  quoteCash := twoHundred
  baseQuantity := negativeZero
  averageEntryPrice := negativeZero
  realizedPnl := negativeZero
  unrealizedPnl := negativeZero
  totalFees := negativeZero
  totalSlippageCost := negativeZero
  equity := twoHundred
  peakEquity := twoHundred
  drawdown := negativeZero
  costBasis := negativeZero
  drawdownPct := negativeZero

def flatPoint : EquityRecord Decimal where
  candleIndex := 0
  eventTime := 0
  closePrice := half
  quoteCash := twoHundred
  baseQuantity := negativeZero
  equity := twoHundred
  peakEquity := twoHundred
  drawdown := negativeZero
  drawdownPct := negativeZero

def trendPoint : RegimeRecord Decimal where
  eventTime := 0
  regime := .trend
  trendDirection := .up
  fastEma := some twoHundred
  slowEma := some half
  atr := some negativeZero
  atrRatio := some half
  trendStrength := some half

/-- One record of each kind is read back. -/
theorem decode_fields_samples :
    ReadsBack (OrderRecord.map Decimal.value) OrderRecord.fields decodeOrder stopOrder ∧
      ReadsBack (FillRecord.map Decimal.value) FillRecord.fields (decodeFill .default) buyFill ∧
      ReadsBack (LedgerRecord.map Decimal.value) LedgerRecord.fields decodeLedger capitalRecord ∧
      ReadsBack (TradeRecord.map Decimal.value) TradeRecord.fields (decodeTrade .default)
        flatTrade ∧
      ReadsBack (PortfolioRecord.map Decimal.value) PortfolioRecord.fields
        (decodePortfolio .default) flatPortfolio ∧
      ReadsBack (EquityRecord.map Decimal.value) EquityRecord.fields (decodeEquityRow .default)
        flatPoint ∧
      ReadsBack (RegimeRecord.map Decimal.value) RegimeRecord.fields decodeMarketRegimePoint
        trendPoint := by
  obtain ⟨order, fill, ledger, trade, portfolio, point, regime⟩ := decode_fields .default
  exact ⟨order _ (by decide +kernel) (by decide +kernel), fill _ (by decide +kernel),
    ledger _ (by decide +kernel), trade _ (by decide +kernel), portfolio _ (by decide +kernel),
    point _ (by decide +kernel), regime _ (by decide +kernel)⟩

end Backtesting
end DryTrade
