import DryTrade.Backtesting.Walk

/-!
# Covered fills

Under exact arithmetic a fill that the cash or the position covers is applied,
and the ledger entries that record it move the balances by the same amounts, so
that the ledger never diverges from the portfolio.

## Main definitions

* `Affordable` — the precondition of a fill.
* `Balances` — the balances of the last entry of a ledger.

## Main results

* `applyFill_of_affordable` — a covered fill is applied.
* `recordFill_of_agrees`, `recordMark_of_agrees` — it is recorded, and so is every mark.
-/

namespace DryTrade
namespace Backtesting

open MarketData Indicators

/-! ### Covered fills -/

/-- The cash covers a buy with its fee, the position covers a sell. -/
def Affordable (p : PortfolioState) (fill : Fill) : Prop :=
  match fill.side with
  | .buy => fill.notional + fill.fee ≤ p.quoteCash
  | .sell => fill.quantity ≤ p.baseQuantity

/-- The fields of a valid state that the arithmetic needs. -/
structure PortfolioState.Sound (p : PortfolioState) : Prop where
  initialEquity : 0 ≤ p.initialEquity
  quoteCash : 0 ≤ p.quoteCash
  baseQuantity : 0 ≤ p.baseQuantity
  costBasis : 0 ≤ p.costBasis
  averageEntryPrice : 0 ≤ p.averageEntryPrice
  totalFees : 0 ≤ p.totalFees
  totalSlippageCost : 0 ≤ p.totalSlippageCost
  equity : 0 ≤ p.equity
  peakEquity : 0 ≤ p.peakEquity
  drawdown : 0 ≤ p.drawdown
  drawdownPct : 0 ≤ p.drawdownPct

theorem PortfolioState.nonnegative_iff {p : PortfolioState} :
    (∀ f ∈ p.nonnegativeFields, 0 ≤ f.2) ↔ p.Sound := by
  simp only [PortfolioState.nonnegativeFields, List.mem_cons, List.not_mem_nil, or_false,
    forall_eq_or_imp, forall_eq]
  constructor
  · rintro ⟨h1, h2, h3, h4, h5, h6, h7, h8, h9, h10, h11⟩
    exact ⟨h1, h2, h3, h4, h5, h6, h7, h8, h9, h10, h11⟩
  · rintro ⟨h1, h2, h3, h4, h5, h6, h7, h8, h9, h10, h11⟩
    exact ⟨h1, h2, h3, h4, h5, h6, h7, h8, h9, h10, h11⟩

theorem PortfolioState.Valid.sound {ctx : DecimalContext} {p : PortfolioState} (h : p.Valid ctx) :
    p.Sound :=
  PortfolioState.nonnegative_iff.mp h.nonneg

theorem boughtState_valid {p : PortfolioState} {fill : Fill} (hp : p.Valid .exact)
    (hfill : fill.Valid .exact) (hcash : fill.notional + fill.fee ≤ p.quoteCash) :
    (boughtState .exact p fill).Valid .exact := by
  have hs := hp.sound
  have hbase : 0 < p.baseQuantity + fill.quantity :=
    add_pos_of_nonneg_of_pos hs.baseQuantity hfill.quantity_pos
  have hcost : 0 < p.costBasis + (fill.notional + fill.fee) :=
    add_pos_of_nonneg_of_pos hs.costBasis (add_pos_of_pos_of_nonneg hfill.notional_pos hfill.fee_nonneg)
  refine
    { nonneg := PortfolioState.nonnegative_iff.mpr
        { initialEquity := hs.initialEquity
          quoteCash := sub_nonneg.mpr hcash
          baseQuantity := hbase.le
          costBasis := hcost.le
          averageEntryPrice := (div_pos hcost hbase).le
          totalFees := add_nonneg hs.totalFees hfill.fee_nonneg
          totalSlippageCost := add_nonneg hs.totalSlippageCost hfill.slippageCost_nonneg
          equity := hs.equity
          peakEquity := hs.peakEquity
          drawdown := hs.drawdown
          drawdownPct := hs.drawdownPct }
      mark_pos := hp.mark_pos
      flat := fun hflat => absurd hflat hbase.ne'
      long := fun _ => ⟨hcost, div_pos hcost hbase⟩
      equity_le := hp.equity_le
      drawdown_eq := hp.drawdown_eq
      drawdownPct_eq := hp.drawdownPct_eq }

/-- A sale releases no more cost than there is, and less unless it closes the position. -/
theorem releasedCost_le {p : PortfolioState} {fill : Fill} (hp : p.Valid .exact)
    (hfill : fill.Valid .exact) (hposition : fill.quantity ≤ p.baseQuantity) :
    releasedCost .exact p fill ≤ p.costBasis ∧
      (fill.quantity ≠ p.baseQuantity → releasedCost .exact p fill < p.costBasis) := by
  have hbase : 0 < p.baseQuantity := hfill.quantity_pos.trans_le hposition
  obtain ⟨hcost, -⟩ := hp.long hbase.ne'
  unfold releasedCost
  by_cases hall : fill.quantity = p.baseQuantity
  · rw [if_pos hall]
    exact ⟨le_rfl, fun hne => absurd hall hne⟩
  · rw [if_neg hall]
    have hless : fill.quantity < p.baseQuantity := lt_of_le_of_ne hposition hall
    have hlt : p.costBasis * fill.quantity / p.baseQuantity < p.costBasis := by
      rw [div_lt_iff₀ hbase]
      exact mul_lt_mul_of_pos_left hless hcost
    exact ⟨hlt.le, fun _ => hlt⟩

theorem soldState_valid {p : PortfolioState} {fill : Fill} (hp : p.Valid .exact)
    (hfill : fill.Valid .exact) (hposition : fill.quantity ≤ p.baseQuantity)
    (hfee : fill.fee ≤ fill.notional) : (soldState .exact p fill).Valid .exact := by
  have hs := hp.sound
  obtain ⟨hreleased, hstrict⟩ := releasedCost_le hp hfill hposition
  have hbase : 0 ≤ p.baseQuantity - fill.quantity := sub_nonneg.mpr hposition
  have hcost : 0 ≤ p.costBasis - releasedCost .exact p fill := sub_nonneg.mpr hreleased
  refine
    { nonneg := PortfolioState.nonnegative_iff.mpr
        { initialEquity := hs.initialEquity
          quoteCash := add_nonneg hs.quoteCash (sub_nonneg.mpr hfee)
          baseQuantity := hbase
          costBasis := ?_
          averageEntryPrice := ?_
          totalFees := add_nonneg hs.totalFees hfill.fee_nonneg
          totalSlippageCost := add_nonneg hs.totalSlippageCost hfill.slippageCost_nonneg
          equity := hs.equity
          peakEquity := hs.peakEquity
          drawdown := hs.drawdown
          drawdownPct := hs.drawdownPct }
      mark_pos := hp.mark_pos
      flat := fun hflat => ⟨if_pos hflat, if_pos hflat⟩
      long := fun hlong => ?_
      equity_le := hp.equity_le
      drawdown_eq := hp.drawdown_eq
      drawdownPct_eq := hp.drawdownPct_eq }
  · change 0 ≤ if p.baseQuantity - fill.quantity = 0 then 0 else
      p.costBasis - releasedCost .exact p fill
    split
    · exact le_rfl
    · exact hcost
  · change 0 ≤ if p.baseQuantity - fill.quantity = 0 then 0 else
      (p.costBasis - releasedCost .exact p fill) / (p.baseQuantity - fill.quantity)
    split
    · exact le_rfl
    · exact div_nonneg hcost hbase
  · have hne : p.baseQuantity - fill.quantity ≠ 0 := hlong
    have hpos : 0 < p.baseQuantity - fill.quantity := lt_of_le_of_ne hbase hne.symm
    have hpositive : 0 < p.costBasis - releasedCost .exact p fill := by
      refine sub_pos.mpr (hstrict fun hall => hne ?_)
      rw [hall, sub_self]
    refine ⟨?_, ?_⟩
    · change 0 < if p.baseQuantity - fill.quantity = 0 then 0 else
        p.costBasis - releasedCost .exact p fill
      rw [if_neg hne]
      exact hpositive
    · change 0 < if p.baseQuantity - fill.quantity = 0 then 0 else
        (p.costBasis - releasedCost .exact p fill) / (p.baseQuantity - fill.quantity)
      rw [if_neg hne]
      exact div_pos hpositive hpos

/-- What a fill moves: the cash, and the position. -/
def cashDelta (fill : Fill) : ℚ :=
  match fill.side with
  | .buy => -(fill.notional + fill.fee)
  | .sell => fill.notional - fill.fee

/-- The change of the position by a fill. -/
def baseDelta (fill : Fill) : ℚ :=
  match fill.side with
  | .buy => fill.quantity
  | .sell => -fill.quantity

/-- **A covered fill is applied**, and moves cash and position by its amounts. -/
theorem applyFill_of_affordable {p : PortfolioState} {fill : Fill} (hp : p.Valid .exact)
    (hfill : fill.Valid .exact) (hafford : Affordable p fill) (hfee : fill.fee ≤ fill.notional) :
    ∃ mutation, applyFill .exact p fill = .ok mutation ∧
      mutation.after.quoteCash = p.quoteCash + cashDelta fill ∧
      mutation.after.baseQuantity = p.baseQuantity + baseDelta fill := by
  unfold Affordable at hafford
  unfold cashDelta baseDelta
  cases hside : fill.side with
  | buy =>
    rw [hside] at hafford
    have hvalid := boughtState_valid hp hfill hafford
    have hmarked := markedState_valid hvalid hfill.executionPrice_pos
    have hmark : markToMarket .exact (boughtState .exact p fill) fill.executionPrice =
        .ok (markedState .exact (boughtState .exact p fill) fill.executionPrice) :=
      markToMarket_eq_ok.mpr ⟨hfill.executionPrice_pos, hmarked, rfl⟩
    have hbuy : applyBuy .exact p fill = .ok
        { before := p
          after := boughtState .exact p fill
          quoteDelta := DecimalContext.exact.neg (fill.notional + fill.fee)
          baseDelta := fill.quantity
          costBasisDelta := fill.notional + fill.fee
          realizedPnlDelta := 0 } := by
      simp only [applyBuy, bind_eq_ok, FailureKind.require_eq_ok,
        decide_eq_true_eq, exists_const, PortfolioState.validate_eq_ok, pure, Except.pure,
        Except.ok.injEq]
      exact ⟨hafford, _, ⟨hvalid, rfl⟩, rfl⟩
    have happlied : applyFill .exact p fill = .ok
        { before := p
          after := markedState .exact (boughtState .exact p fill) fill.executionPrice
          quoteDelta := DecimalContext.exact.neg (fill.notional + fill.fee)
          baseDelta := fill.quantity
          costBasisDelta := fill.notional + fill.fee
          realizedPnlDelta := 0 } := by
      simp only [applyFill, hside, hbuy, ok_bind, hmark]
      rfl
    exact ⟨_, happlied, sub_eq_add_neg _ _, rfl⟩
  | sell =>
    rw [hside] at hafford
    have hvalid := soldState_valid hp hfill hafford hfee
    have hmarked := markedState_valid hvalid hfill.executionPrice_pos
    have hmark : markToMarket .exact (soldState .exact p fill) fill.executionPrice =
        .ok (markedState .exact (soldState .exact p fill) fill.executionPrice) :=
      markToMarket_eq_ok.mpr ⟨hfill.executionPrice_pos, hmarked, rfl⟩
    have hsell : applySell .exact p fill = .ok
        { before := p
          after := soldState .exact p fill
          quoteDelta := fill.notional - fill.fee
          baseDelta := DecimalContext.exact.neg fill.quantity
          costBasisDelta := DecimalContext.exact.neg (releasedCost .exact p fill)
          realizedPnlDelta := realizedDelta .exact p fill } := by
      simp only [applySell, bind_eq_ok, FailureKind.require_eq_ok,
        decide_eq_true_eq, exists_const, PortfolioState.validate_eq_ok, pure, Except.pure,
        Except.ok.injEq]
      exact ⟨hafford, _, ⟨hvalid, rfl⟩, rfl⟩
    have happlied : applyFill .exact p fill = .ok
        { before := p
          after := markedState .exact (soldState .exact p fill) fill.executionPrice
          quoteDelta := fill.notional - fill.fee
          baseDelta := DecimalContext.exact.neg fill.quantity
          costBasisDelta := DecimalContext.exact.neg (releasedCost .exact p fill)
          realizedPnlDelta := realizedDelta .exact p fill } := by
      simp only [applyFill, hside, hsell, ok_bind, hmark]
      rfl
    exact ⟨_, happlied, rfl, sub_eq_add_neg _ _⟩

/-! ### The ledger -/

section

variable {hash : String → RawLedgerEntry → String} {entries : List LedgerEntry}

/-- The last entry carries the given balances. -/
def Balances (entries : List LedgerEntry) (quote base : ℚ) : Prop :=
  ∃ last, entries.getLast? = some last ∧ last.quoteBalance = quote ∧ last.baseBalance = base

theorem ledgerAgrees_iff {p : PortfolioState} :
    ledgerAgrees entries p = true ↔ Balances entries p.quoteCash p.baseQuantity := by
  simp [ledgerAgrees, Balances, Option.any_eq_true]

/-- Appending an entry moves the balances by its deltas, when they stay nonnegative. -/
theorem ledgerAppend_of_balances (hash : String → RawLedgerEntry → String)
    (request : LedgerRequest) {quote base : ℚ} (h : Balances entries quote base) (hquote : 0 ≤ quote + request.quoteDelta)
    (hbase : 0 ≤ base + request.baseDelta) :
    ∃ entries', ledgerAppend .exact hash entries request = .ok entries' ∧
      Balances entries' (quote + request.quoteDelta) (base + request.baseDelta) := by
  obtain ⟨last, hlast, rfl, rfl⟩ := h
  have hq : (nextLedgerEntry .exact hash entries request).quoteBalance =
      last.quoteBalance + request.quoteDelta := by
    simp [nextLedgerEntry, hlast]
  have hb : (nextLedgerEntry .exact hash entries request).baseBalance =
      last.baseBalance + request.baseDelta := by
    simp [nextLedgerEntry, hlast]
  refine ⟨entries ++ [nextLedgerEntry .exact hash entries request], ?_, _, List.getLast?_concat, hq, hb⟩
  simp only [ledgerAppend, bind_eq_ok, FailureKind.unless_eq_ok, exists_const, decide_eq_true_eq,
    pure, Except.pure, and_true]
  refine ⟨?_, ?_⟩
  · rw [hq]
    exact hquote
  · rw [hb]
    exact hbase

/-- An entry that moves nothing may be appended or left out. -/
theorem ledgerAppendIf_of_balances (hash : String → RawLedgerEntry → String) (condition : Bool)
    (request : LedgerRequest) {quote base : ℚ} (h : Balances entries quote base) (hquote : 0 ≤ quote + request.quoteDelta) (hbase : 0 ≤ base)
    (hzero : request.baseDelta = 0) (hskip : condition = false → request.quoteDelta = 0) :
    ∃ entries', ledgerAppendIf .exact hash condition entries request = .ok entries' ∧
      Balances entries' (quote + request.quoteDelta) base := by
  cases condition with
  | false =>
    rw [hskip rfl, add_zero]
    exact ⟨entries, rfl, h⟩
  | true =>
    have hstay : base + request.baseDelta = base := by rw [hzero, add_zero]
    obtain ⟨entries', happend, hbalances⟩ :=
      ledgerAppend_of_balances hash request h hquote (hbase.trans hstay.ge)
    rw [hstay] at hbalances
    exact ⟨entries', happend, hbalances⟩

/-- **A covered fill is recorded**, and the ledger then agrees with the portfolio after it. -/
theorem recordFill_of_agrees (hash : String → RawLedgerEntry → String) {p : PortfolioState}
    {fill : Fill} {mutation : PortfolioMutation} (hp : p.Valid .exact) (hfill : fill.Valid .exact) (hafford : Affordable p fill)
    (hfee : fill.fee ≤ fill.notional) (hagrees : ledgerAgrees entries p = true)
    (happly : applyFill .exact p fill = .ok mutation) :
    ∃ entries', recordFill .exact hash entries fill mutation = .ok entries' := by
  have hs := hp.sound
  obtain ⟨m, hm, hcash, hbase⟩ := applyFill_of_affordable hp hfill hafford hfee
  rw [happly] at hm
  cases hm
  -- the three amounts: the notional, the fee, and nothing
  have hfirst : 0 ≤ p.quoteCash + (fillRequest .exact fill).quoteDelta ∧
      0 ≤ p.baseQuantity + (fillRequest .exact fill).baseDelta ∧
      p.quoteCash + (fillRequest .exact fill).quoteDelta + -fill.fee = mutation.after.quoteCash ∧
      p.baseQuantity + (fillRequest .exact fill).baseDelta = mutation.after.baseQuantity := by
    unfold Affordable at hafford
    unfold cashDelta at hcash
    unfold baseDelta at hbase
    have hnotional := hfill.notional_pos
    have hquantity := hfill.quantity_pos
    have hfee0 := hfill.fee_nonneg
    have hcash0 := hs.quoteCash
    have hbase0 := hs.baseQuantity
    cases hside : fill.side with
    | buy =>
      rw [hside] at hafford hcash hbase
      simp only [fillRequest, hside, DecimalContext.exact_neg]
      exact ⟨by linarith, by linarith, by linarith, hbase.symm⟩
    | sell =>
      rw [hside] at hafford hcash hbase
      simp only [fillRequest, hside, DecimalContext.exact_neg]
      exact ⟨by linarith, by linarith, by linarith, hbase.symm⟩
  obtain ⟨hquote1, hbase1, hquote2, hbaseEq⟩ := hfirst
  have hafter := (applyFill_eq_ok happly).2.1.sound
  obtain ⟨e1, h1, hb1⟩ :=
    ledgerAppend_of_balances hash (fillRequest .exact fill) (ledgerAgrees_iff.mp hagrees) hquote1 hbase1
  obtain ⟨e2, h2, hb2⟩ := ledgerAppendIf_of_balances hash (fill.fee != 0) (feeRequest .exact fill) hb1
    (by
      change 0 ≤ p.quoteCash + (fillRequest .exact fill).quoteDelta + -fill.fee
      rw [hquote2]
      exact hafter.quoteCash)
    hbase1 rfl (by
      intro hzero
      have hfee0 : fill.fee = 0 := by simpa using hzero
      simp [feeRequest, hfee0])
  have hb2' : Balances e2 mutation.after.quoteCash mutation.after.baseQuantity := by
    rw [← hquote2, ← hbaseEq]
    exact hb2
  obtain ⟨e3, h3, hb3⟩ := ledgerAppendIf_of_balances hash (mutation.realizedPnlDelta != 0)
    (realizedRequest fill mutation.realizedPnlDelta) hb2'
    (by
      change 0 ≤ mutation.after.quoteCash + 0
      rw [add_zero]
      exact hafter.quoteCash)
    hafter.baseQuantity rfl fun _ => rfl
  have hb3' : Balances e3 mutation.after.quoteCash mutation.after.baseQuantity := by
    have hzero : (realizedRequest fill mutation.realizedPnlDelta).quoteDelta = 0 := rfl
    rw [hzero, add_zero] at hb3
    exact hb3
  refine ⟨e3, ?_⟩
  simp only [recordFill, bind_eq_ok, FailureKind.unless_eq_ok, exists_const, pure, Except.pure]
  exact ⟨e1, h1, e2, h2, e3, h3, ledgerAgrees_iff.mpr hb3', rfl⟩

theorem recordFill_agrees {ctx : DecimalContext} {entries' : List LedgerEntry} {fill : Fill}
    {mutation : PortfolioMutation} (h : recordFill ctx hash entries fill mutation = .ok entries') :
    ledgerAgrees entries' mutation.after = true := by
  simp only [recordFill, bind_eq_ok, FailureKind.unless_eq_ok, exists_const, pure, Except.pure,
    Except.ok.injEq] at h
  obtain ⟨e1, -, e2, -, e3, -, hagrees, rfl⟩ := h
  exact hagrees

/-- **A mark of an agreeing portfolio is recorded**, and the ledger still agrees with it. -/
theorem recordMark_of_agrees (hash : String → RawLedgerEntry → String) {p : PortfolioState}
    (hp : p.Valid .exact) (hagrees : ledgerAgrees entries p = true) (t : Instant) (idx : ℤ) (final : Bool) :
    ∃ entries', recordMark .exact hash entries p t idx final = .ok entries' ∧
      ledgerAgrees entries' p = true := by
  have hs := hp.sound
  have hb := ledgerAgrees_iff.mp hagrees
  obtain ⟨e, happend, hbalances⟩ := ledgerAppend_of_balances hash
    { eventTime := t
      candleIndex := idx
      entryType := if final then .finalState else .markToMarket
      quoteDelta := 0
      baseDelta := 0
      fee := 0
      realizedPnl := 0
      orderId := none
      fillId := none
      notional := 0
      referencePrice := p.lastMarkPrice } hb
    (by simpa using hs.quoteCash) (by simpa using hs.baseQuantity)
  refine ⟨e, ?_, ledgerAgrees_iff.mpr (by simpa using hbalances)⟩
  have hnonempty : entries.isEmpty = false := by
    obtain ⟨last, hlast, -⟩ := hb
    cases entries with
    | nil => cases hlast
    | cons x rest => rfl
  simp only [recordMark, bind_eq_ok, FailureKind.unless_eq_ok, exists_const]
  exact ⟨by simp [hnonempty], hagrees, happend⟩

end

end Backtesting
end DryTrade
