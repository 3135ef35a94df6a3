import DryTrade.Backtesting.Portfolio
import DryTrade.Growth

/-!
# The hash-chained ledger

An append-only list of financial events, each carrying the balances after it and
a hash over the entry and the hash before it.  The digest of an entry is a
parameter: the ledger only ever stores what it returns.

## Main definitions

* `LedgerEntry` — one event.
* `recordInitialCapital`, `recordFill`, `recordMark` — what the engine appends.

## Main results

* `recordFill_grows`, `recordMark_eq_append` — the ledger is append-only.
-/

namespace DryTrade
namespace Backtesting

inductive LedgerEntryType
  | initialCapital
  | orderReserved
  | orderReleased
  | buyFill
  | sellFill
  | fee
  | realizedPnl
  | markToMarket
  | finalState
  deriving DecidableEq, Repr

/-- An event without its hashes. -/
structure RawLedgerEntry where
  sequence : ℕ
  eventTime : Instant
  candleIndex : ℤ
  entryType : LedgerEntryType
  quoteDelta : ℚ
  baseDelta : ℚ
  fee : ℚ
  realizedPnl : ℚ
  quoteBalance : ℚ
  baseBalance : ℚ
  orderId : Option String
  fillId : Option String
  notional : ℚ
  referencePrice : Option ℚ
  deriving DecidableEq, Repr

/-- One financial event linked to all preceding events. -/
structure LedgerEntry extends RawLedgerEntry where
  previousHash : String
  entryHash : String
  deriving DecidableEq, Repr

/-- The hash before the first entry. -/
def zeroHash : String := String.ofList (List.replicate 64 '0')

/-- What a caller asks to be appended; the remaining fields follow from the ledger. -/
structure LedgerRequest where
  eventTime : Instant
  candleIndex : ℤ
  entryType : LedgerEntryType
  quoteDelta : ℚ
  baseDelta : ℚ
  fee : ℚ
  realizedPnl : ℚ
  orderId : Option String
  fillId : Option String
  notional : ℚ
  referencePrice : Option ℚ

section

variable (ctx : DecimalContext) (calculateEntryHash : String → RawLedgerEntry → String)

/-- The entry that a request becomes at the end of a ledger. -/
def nextLedgerEntry (entries : List LedgerEntry) (request : LedgerRequest) : LedgerEntry :=
  let previous := entries.getLast?
  let raw : RawLedgerEntry :=
    { sequence := entries.length + 1
      eventTime := request.eventTime
      candleIndex := request.candleIndex
      entryType := request.entryType
      quoteDelta := request.quoteDelta
      baseDelta := request.baseDelta
      fee := request.fee
      realizedPnl := request.realizedPnl
      quoteBalance := ctx.add ((previous.map (·.quoteBalance)).getD 0) request.quoteDelta
      baseBalance := ctx.add ((previous.map (·.baseBalance)).getD 0) request.baseDelta
      orderId := request.orderId
      fillId := request.fillId
      notional := request.notional
      referencePrice := request.referencePrice }
  let previousHash := (previous.map (·.entryHash)).getD zeroHash
  { raw with previousHash := previousHash, entryHash := calculateEntryHash previousHash raw }

/-- Append one entry, refusing a negative balance. -/
def ledgerAppend (entries : List LedgerEntry) (request : LedgerRequest) :
    Except Failure (List LedgerEntry) := do
  let entry := nextLedgerEntry ctx calculateEntryHash entries request
  FailureKind.backtestResultCorrupt.unless
    (decide (0 ≤ entry.quoteBalance ∧ 0 ≤ entry.baseBalance))
    "O ledger produziria saldo negativo."
  return entries ++ [entry]

/-- Append a request only under a condition. -/
def ledgerAppendIf (condition : Bool) (entries : List LedgerEntry) (request : LedgerRequest) :
    Except Failure (List LedgerEntry) :=
  if condition then ledgerAppend ctx calculateEntryHash entries request else .ok entries

/-- Open the ledger with the initial capital. -/
def recordInitialCapital (entries : List LedgerEntry) (amount : ℚ) (eventTime : Instant) :
    Except Failure (List LedgerEntry) := do
  FailureKind.backtestResultCorrupt.unless (decide (0 < amount))
    "O capital inicial do ledger é inválido."
  FailureKind.backtestResultCorrupt.unless entries.isEmpty
    "O capital inicial deve ser o primeiro evento."
  ledgerAppend ctx calculateEntryHash entries
    { eventTime := eventTime
      candleIndex := -1
      entryType := .initialCapital
      quoteDelta := amount
      baseDelta := 0
      fee := 0
      realizedPnl := 0
      orderId := none
      fillId := none
      notional := 0
      referencePrice := none }

/-- The request for the notional and quantity of a fill. -/
def fillRequest (fill : Fill) : LedgerRequest where
  eventTime := fill.eventTime
  candleIndex := fill.candleIndex
  entryType := match fill.side with | .buy => .buyFill | .sell => .sellFill
  quoteDelta := match fill.side with | .buy => ctx.neg fill.notional | .sell => fill.notional
  baseDelta := match fill.side with | .buy => fill.quantity | .sell => ctx.neg fill.quantity
  fee := 0
  realizedPnl := 0
  orderId := some fill.orderId
  fillId := some fill.fillId
  notional := fill.notional
  referencePrice := some fill.executionPrice

/-- The request for the fee of a fill. -/
def feeRequest (fill : Fill) : LedgerRequest where
  eventTime := fill.eventTime
  candleIndex := fill.candleIndex
  entryType := .fee
  quoteDelta := ctx.neg fill.fee
  baseDelta := 0
  fee := fill.fee
  realizedPnl := 0
  orderId := some fill.orderId
  fillId := some fill.fillId
  notional := 0
  referencePrice := some fill.executionPrice

/-- The request for the profit a fill realized. -/
def realizedRequest (fill : Fill) (realizedPnl : ℚ) : LedgerRequest where
  eventTime := fill.eventTime
  candleIndex := fill.candleIndex
  entryType := .realizedPnl
  quoteDelta := 0
  baseDelta := 0
  fee := 0
  realizedPnl := realizedPnl
  orderId := some fill.orderId
  fillId := some fill.fillId
  notional := 0
  referencePrice := some fill.executionPrice

/-- The balances of the last entry are those of `state`. -/
def ledgerAgrees (entries : List LedgerEntry) (state : PortfolioState) : Bool :=
  entries.getLast?.any fun last =>
    last.quoteBalance == state.quoteCash && last.baseBalance == state.baseQuantity

/-- Record a fill as its notional, its fee and its realized profit, the latter two
when they are not zero. -/
def recordFill (entries : List LedgerEntry) (fill : Fill) (mutation : PortfolioMutation) :
    Except Failure (List LedgerEntry) := do
  let entries ← ledgerAppend ctx calculateEntryHash entries (fillRequest ctx fill)
  let entries ← ledgerAppendIf ctx calculateEntryHash (fill.fee != 0) entries (feeRequest ctx fill)
  let entries ← ledgerAppendIf ctx calculateEntryHash (mutation.realizedPnlDelta != 0) entries
    (realizedRequest fill mutation.realizedPnlDelta)
  FailureKind.backtestResultCorrupt.unless (ledgerAgrees entries mutation.after)
    "O ledger diverge do portfolio após o fill."
  return entries

/-- Record a mark of the portfolio. -/
def recordMark (entries : List LedgerEntry) (state : PortfolioState) (eventTime : Instant)
    (candleIndex : ℤ) (final : Bool) : Except Failure (List LedgerEntry) := do
  FailureKind.backtestResultCorrupt.unless (!entries.isEmpty) "O ledger não possui capital inicial."
  FailureKind.backtestResultCorrupt.unless (ledgerAgrees entries state)
    "O mark-to-market diverge do saldo do ledger."
  ledgerAppend ctx calculateEntryHash entries
    { eventTime := eventTime
      candleIndex := candleIndex
      entryType := if final then .finalState else .markToMarket
      quoteDelta := 0
      baseDelta := 0
      fee := 0
      realizedPnl := 0
      orderId := none
      fillId := none
      notional := 0
      referencePrice := state.lastMarkPrice }

end

/-! ### The ledger is append-only -/

section

variable {ctx : DecimalContext} {hash : String → RawLedgerEntry → String}
  {entries entries' : List LedgerEntry}

theorem ledgerAppend_eq_ok {request : LedgerRequest}
    (h : ledgerAppend ctx hash entries request = .ok entries') :
    entries' = entries ++ [nextLedgerEntry ctx hash entries request] := by
  simp only [ledgerAppend, bind_eq_ok, FailureKind.unless_eq_ok, exists_const, pure, Except.pure,
    Except.ok.injEq] at h
  exact h.2.symm

theorem ledgerAppendIf_grows {condition : Bool} {request : LedgerRequest}
    (h : ledgerAppendIf ctx hash condition entries request = .ok entries') :
    Grows (fun e => e.candleIndex = request.candleIndex ∧ e.entryType = request.entryType)
      entries entries' := by
  cases condition with
  | false =>
    simp only [ledgerAppendIf, Bool.false_eq_true, if_false, Except.ok.injEq] at h
    exact h ▸ .refl entries
  | true => exact ledgerAppend_eq_ok h ▸ .single ⟨rfl, rfl⟩

/-- **Recording a fill only appends**, entries of the fill's candle. -/
theorem recordFill_grows {fill : Fill} {mutation : PortfolioMutation}
    (h : recordFill ctx hash entries fill mutation = .ok entries') :
    Grows (fun e => e.candleIndex = (fill.candleIndex : ℤ) ∧ e.entryType ≠ .finalState)
      entries entries' := by
  simp only [recordFill, bind_eq_ok, pure, Except.pure, Except.ok.injEq] at h
  obtain ⟨e1, h1, e2, h2, e3, h3, -, -, rfl⟩ := h
  have hfirst : Grows (fun e : LedgerEntry => e.candleIndex = (fill.candleIndex : ℤ) ∧
      e.entryType ≠ .finalState) entries e1 := by
    refine ledgerAppend_eq_ok h1 ▸ .single ⟨rfl, ?_⟩
    change (fillRequest ctx fill).entryType ≠ .finalState
    cases hside : fill.side <;> simp [fillRequest, hside]
  have hfee : Grows (fun e : LedgerEntry => e.candleIndex = (fill.candleIndex : ℤ) ∧
      e.entryType ≠ .finalState) e1 e2 :=
    (ledgerAppendIf_grows h2).imp fun e he => ⟨he.1, by rw [he.2]; simp [feeRequest]⟩
  have hrealized : Grows (fun e : LedgerEntry => e.candleIndex = (fill.candleIndex : ℤ) ∧
      e.entryType ≠ .finalState) e2 e3 :=
    (ledgerAppendIf_grows h3).imp fun e he => ⟨he.1, by rw [he.2]; simp [realizedRequest]⟩
  exact hfirst.trans (hfee.trans hrealized)

/-- **Recording a mark appends one entry.** -/
theorem recordMark_eq_append {state : PortfolioState} {t : Instant} {i : ℤ} {final : Bool}
    (h : recordMark ctx hash entries state t i final = .ok entries') :
    ∃ e : LedgerEntry, entries' = entries ++ [e] ∧ e.candleIndex = i ∧
      e.entryType = if final then .finalState else .markToMarket := by
  simp only [recordMark, bind_eq_ok, FailureKind.unless_eq_ok, exists_const] at h
  exact ⟨_, ledgerAppend_eq_ok h.2.2, rfl, rfl⟩

end

end Backtesting
end DryTrade
