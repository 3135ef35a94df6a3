import DryTrade.Backtesting.Domain

/-!
# Portfolio accounting

Spot accounting of one quote balance and one position, with a weighted-average
cost basis.  Every record the source builds runs through the checks of its
constructor, so each of these functions may raise; what a state that passed the
checks guarantees is `PortfolioState.Valid`.

## Main definitions

* `PortfolioState` — the portfolio owned by the engine.
* `applyFill`, `markToMarket` — the two ways it changes.

## Main results

* `markToMarket_eq_ok`, `applyFill_eq_ok` — when a mark and a fill return, and what.
* `markedState_valid` — under exact arithmetic a mark at a positive price keeps every
  guarantee of the state.
-/

namespace DryTrade
namespace Backtesting

/-- Complete long-only portfolio state owned by the engine. -/
structure PortfolioState where
  initialEquity : ℚ
  quoteCash : ℚ
  baseQuantity : ℚ
  costBasis : ℚ
  averageEntryPrice : ℚ
  realizedPnl : ℚ
  unrealizedPnl : ℚ
  totalFees : ℚ
  totalSlippageCost : ℚ
  equity : ℚ
  peakEquity : ℚ
  drawdown : ℚ
  drawdownPct : ℚ
  lastMarkPrice : Option ℚ
  deriving DecidableEq, Repr

/-- The fields the constructor requires to be nonnegative, in its order. -/
def PortfolioState.nonnegativeFields (s : PortfolioState) : List (String × ℚ) :=
  [("initial_equity", s.initialEquity), ("quote_cash", s.quoteCash),
    ("base_quantity", s.baseQuantity), ("cost_basis", s.costBasis),
    ("average_entry_price", s.averageEntryPrice), ("total_fees", s.totalFees),
    ("total_slippage_cost", s.totalSlippageCost), ("equity", s.equity),
    ("peak_equity", s.peakEquity), ("drawdown", s.drawdown), ("drawdown_pct", s.drawdownPct)]

/-- Require every listed field to be nonnegative. -/
def requireNonnegative : List (String × ℚ) → Except Failure Unit
  | [] => .ok ()
  | (name, value) :: rest =>
      if 0 ≤ value then requireNonnegative rest
      else FailureKind.value.raiseWith (name ++ " must be nonnegative")

/-- `drawdown / peak_equity * 100`, or zero for a zero peak. -/
def expectedDrawdownPct (ctx : DecimalContext) (peak drawdown : ℚ) : ℚ :=
  if peak = 0 then 0 else ctx.mul (ctx.div drawdown peak) 100

/-- A flat portfolio has no cost basis, an open position has a positive one. -/
def PortfolioState.checkBasis (s : PortfolioState) : Except Failure Unit :=
  if s.baseQuantity = 0 then
    FailureKind.value.unless (decide (s.costBasis = 0 ∧ s.averageEntryPrice = 0))
      "flat portfolio must have zero cost basis and average price"
  else
    FailureKind.value.unless (decide (0 < s.costBasis ∧ 0 < s.averageEntryPrice))
      "open position requires positive cost basis and average price"

/-- The checks of the constructor of a portfolio state. -/
def PortfolioState.validate (ctx : DecimalContext) (s : PortfolioState) :
    Except Failure PortfolioState := do
  requireNonnegative s.nonnegativeFields
  FailureKind.value.unless (s.lastMarkPrice.all fun p => decide (0 < p))
    "last_mark_price must be positive"
  s.checkBasis
  FailureKind.value.unless (decide (s.equity ≤ s.peakEquity)) "equity must not exceed peak_equity"
  FailureKind.value.unless (decide (s.drawdown = ctx.sub s.peakEquity s.equity))
    "drawdown must equal peak_equity minus equity"
  FailureKind.value.unless (decide (s.drawdownPct = expectedDrawdownPct ctx s.peakEquity s.drawdown))
    "drawdown_pct must match peak and current equity"
  return s

/-- What the constructor of a portfolio state guarantees. -/
structure PortfolioState.Valid (ctx : DecimalContext) (s : PortfolioState) : Prop where
  nonneg : ∀ f ∈ s.nonnegativeFields, 0 ≤ f.2
  mark_pos : ∀ p ∈ s.lastMarkPrice, 0 < p
  flat : s.baseQuantity = 0 → s.costBasis = 0 ∧ s.averageEntryPrice = 0
  long : s.baseQuantity ≠ 0 → 0 < s.costBasis ∧ 0 < s.averageEntryPrice
  equity_le : s.equity ≤ s.peakEquity
  drawdown_eq : s.drawdown = ctx.sub s.peakEquity s.equity
  drawdownPct_eq : s.drawdownPct = expectedDrawdownPct ctx s.peakEquity s.drawdown

/-- The strategy-facing view of a portfolio. -/
def PortfolioState.snapshot (s : PortfolioState) : PortfolioSnapshot where
  quoteCash := s.quoteCash
  baseQuantity := s.baseQuantity
  averageEntryPrice := s.averageEntryPrice
  realizedPnl := s.realizedPnl
  unrealizedPnl := s.unrealizedPnl
  totalFees := s.totalFees
  totalSlippageCost := s.totalSlippageCost
  equity := s.equity
  peakEquity := s.peakEquity
  drawdown := s.drawdown
  costBasis := s.costBasis
  drawdownPct := s.drawdownPct

/-- Auditable effects of applying exactly one fill. -/
structure PortfolioMutation where
  before : PortfolioState
  after : PortfolioState
  quoteDelta : ℚ
  baseDelta : ℚ
  costBasisDelta : ℚ
  realizedPnlDelta : ℚ

section

variable (ctx : DecimalContext)

/-- A flat portfolio with all capital held in the quote asset. -/
def initializePortfolio (initialCapital : ℚ) : Except Failure PortfolioState := do
  FailureKind.value.unless (decide (0 < initialCapital)) "initial_capital must be positive"
  PortfolioState.validate ctx
    { initialEquity := initialCapital
      quoteCash := initialCapital
      baseQuantity := 0
      costBasis := 0
      averageEntryPrice := 0
      realizedPnl := 0
      unrealizedPnl := 0
      totalFees := 0
      totalSlippageCost := 0
      equity := initialCapital
      peakEquity := initialCapital
      drawdown := 0
      drawdownPct := 0
      lastMarkPrice := none }

/-- The state `mark_to_market` builds, before the checks of its constructor. -/
def markedState (s : PortfolioState) (price : ℚ) : PortfolioState :=
  let marketValue := ctx.mul s.baseQuantity price
  let equity := ctx.add s.quoteCash marketValue
  let peak := max s.peakEquity equity
  let drawdown := ctx.sub peak equity
  { s with
    unrealizedPnl := ctx.sub marketValue s.costBasis
    equity := equity
    peakEquity := peak
    drawdown := drawdown
    drawdownPct := expectedDrawdownPct ctx peak drawdown
    lastMarkPrice := some price }

/-- Mark the existing position without producing cash or realized profit. -/
def markToMarket (s : PortfolioState) (price : ℚ) : Except Failure PortfolioState := do
  FailureKind.value.unless (decide (0 < price)) "mark_price must be positive"
  (markedState ctx s price).validate ctx

/-- The state a buy builds, before the checks of its constructor. -/
def boughtState (s : PortfolioState) (fill : Fill) : PortfolioState :=
  let economicCost := ctx.add fill.notional fill.fee
  let baseQuantity := ctx.add s.baseQuantity fill.quantity
  let costBasis := ctx.add s.costBasis economicCost
  { s with
    quoteCash := ctx.sub s.quoteCash economicCost
    baseQuantity := baseQuantity
    costBasis := costBasis
    averageEntryPrice := ctx.div costBasis baseQuantity
    totalFees := ctx.add s.totalFees fill.fee
    totalSlippageCost := ctx.add s.totalSlippageCost fill.slippageCost }

/-- Apply a buy: cash pays notional and fee, both join the cost basis. -/
def applyBuy (s : PortfolioState) (fill : Fill) : Except Failure PortfolioMutation := do
  let economicCost := ctx.add fill.notional fill.fee
  FailureKind.insufficientCash.require (decide (economicCost ≤ s.quoteCash))
  let after ← (boughtState ctx s fill).validate ctx
  return {
    before := s
    after := after
    quoteDelta := ctx.neg economicCost
    baseDelta := fill.quantity
    costBasisDelta := economicCost
    realizedPnlDelta := 0 }

/-- The cost a sell releases: all of it when the position closes. -/
def releasedCost (s : PortfolioState) (fill : Fill) : ℚ :=
  if fill.quantity = s.baseQuantity then s.costBasis
  else ctx.div (ctx.mul s.costBasis fill.quantity) s.baseQuantity

/-- The profit a sell realizes. -/
def realizedDelta (s : PortfolioState) (fill : Fill) : ℚ :=
  ctx.sub (ctx.sub fill.notional fill.fee) (releasedCost ctx s fill)

/-- The state a sell builds, before the checks of its constructor. -/
def soldState (s : PortfolioState) (fill : Fill) : PortfolioState :=
  let netProceeds := ctx.sub fill.notional fill.fee
  let baseQuantity := ctx.sub s.baseQuantity fill.quantity
  let costBasis := ctx.sub s.costBasis (releasedCost ctx s fill)
  { s with
    quoteCash := ctx.add s.quoteCash netProceeds
    baseQuantity := baseQuantity
    costBasis := if baseQuantity = 0 then 0 else costBasis
    averageEntryPrice := if baseQuantity = 0 then 0 else ctx.div costBasis baseQuantity
    realizedPnl := ctx.add s.realizedPnl (realizedDelta ctx s fill)
    totalFees := ctx.add s.totalFees fill.fee
    totalSlippageCost := ctx.add s.totalSlippageCost fill.slippageCost }

/-- Apply a sell: cash receives notional less fee, the cost basis shrinks. -/
def applySell (s : PortfolioState) (fill : Fill) : Except Failure PortfolioMutation := do
  FailureKind.insufficientPosition.require (decide (fill.quantity ≤ s.baseQuantity))
  let after ← (soldState ctx s fill).validate ctx
  return {
    before := s
    after := after
    quoteDelta := ctx.sub fill.notional fill.fee
    baseDelta := ctx.neg fill.quantity
    costBasisDelta := ctx.neg (releasedCost ctx s fill)
    realizedPnlDelta := realizedDelta ctx s fill }

/-- Apply one all-or-none fill and mark at its price. -/
def applyFill (s : PortfolioState) (fill : Fill) : Except Failure PortfolioMutation := do
  let mutation ← match fill.side with
    | .buy => applyBuy ctx s fill
    | .sell => applySell ctx s fill
  let marked ← markToMarket ctx mutation.after fill.executionPrice
  return { mutation with after := marked }

end

/-! ### What the checks guarantee -/

theorem requireNonnegative_eq_ok {fields : List (String × ℚ)} {u : Unit} :
    requireNonnegative fields = .ok u ↔ ∀ f ∈ fields, 0 ≤ f.2 := by
  induction fields with
  | nil => simp [requireNonnegative]
  | cons f rest ih =>
    obtain ⟨name, value⟩ := f
    by_cases h : 0 ≤ value
    · simp [requireNonnegative, h, ih]
    · simp [requireNonnegative, h]

theorem PortfolioState.checkBasis_eq_ok {s : PortfolioState} {u : Unit} :
    s.checkBasis = .ok u ↔
      (s.baseQuantity = 0 → s.costBasis = 0 ∧ s.averageEntryPrice = 0) ∧
        (s.baseQuantity ≠ 0 → 0 < s.costBasis ∧ 0 < s.averageEntryPrice) := by
  unfold PortfolioState.checkBasis
  by_cases h : s.baseQuantity = 0 <;> simp [h]

theorem PortfolioState.validate_eq_ok {ctx : DecimalContext} {s t : PortfolioState} :
    s.validate ctx = .ok t ↔ s.Valid ctx ∧ t = s := by
  simp only [PortfolioState.validate, bind_eq_ok, requireNonnegative_eq_ok, exists_const,
    FailureKind.unless_eq_ok, decide_eq_true_eq, pure, Except.pure, Except.ok.injEq,
    Option.all_eq_true, PortfolioState.checkBasis_eq_ok]
  constructor
  · rintro ⟨h1, h2, ⟨h3, h3'⟩, h4, h5, h6, rfl⟩
    exact ⟨⟨h1, h2, h3, h3', h4, h5, h6⟩, rfl⟩
  · rintro ⟨⟨h1, h2, h3, h3', h4, h5, h6⟩, rfl⟩
    exact ⟨h1, h2, ⟨h3, h3'⟩, h4, h5, h6, rfl⟩

theorem markToMarket_eq_ok {ctx : DecimalContext} {s t : PortfolioState} {price : ℚ} :
    markToMarket ctx s price = .ok t ↔
      0 < price ∧ (markedState ctx s price).Valid ctx ∧ t = markedState ctx s price := by
  simp only [markToMarket, bind_eq_ok, exists_const, FailureKind.unless_eq_ok, decide_eq_true_eq,
    PortfolioState.validate_eq_ok]

theorem applySell_eq_ok {ctx : DecimalContext} {s : PortfolioState} {fill : Fill}
    {mutation : PortfolioMutation} (h : applySell ctx s fill = .ok mutation) :
    fill.quantity ≤ s.baseQuantity ∧ (soldState ctx s fill).Valid ctx ∧
      mutation.after = soldState ctx s fill := by
  simp only [applySell, bind_eq_ok, FailureKind.require_eq_ok, decide_eq_true_eq, exists_const,
    PortfolioState.validate_eq_ok, pure, Except.pure, Except.ok.injEq] at h
  obtain ⟨hle, _, ⟨hvalid, rfl⟩, rfl⟩ := h
  exact ⟨hle, hvalid, rfl⟩

theorem applyBuy_eq_ok {ctx : DecimalContext} {s : PortfolioState} {fill : Fill}
    {mutation : PortfolioMutation} (h : applyBuy ctx s fill = .ok mutation) :
    ctx.add fill.notional fill.fee ≤ s.quoteCash ∧ (boughtState ctx s fill).Valid ctx ∧
      mutation.after = boughtState ctx s fill := by
  simp only [applyBuy, bind_eq_ok, FailureKind.require_eq_ok, decide_eq_true_eq, exists_const,
    PortfolioState.validate_eq_ok, pure, Except.pure, Except.ok.injEq] at h
  obtain ⟨hle, _, ⟨hvalid, rfl⟩, rfl⟩ := h
  exact ⟨hle, hvalid, rfl⟩

/-- The state an applied fill builds before it is marked. -/
def filledState (ctx : DecimalContext) (s : PortfolioState) (fill : Fill) : PortfolioState :=
  match fill.side with
  | .buy => boughtState ctx s fill
  | .sell => soldState ctx s fill

/-- A fill that is applied builds a valid state and marks it at its own price. -/
theorem applyFill_eq_ok {ctx : DecimalContext} {s : PortfolioState} {fill : Fill}
    {mutation : PortfolioMutation} (h : applyFill ctx s fill = .ok mutation) :
    (filledState ctx s fill).Valid ctx ∧ mutation.after.Valid ctx ∧
      mutation.after = markedState ctx (filledState ctx s fill) fill.executionPrice := by
  unfold filledState
  cases hside : fill.side with
  | buy =>
    simp only [applyFill, hside, bind_eq_ok, pure, Except.pure, Except.ok.injEq,
      markToMarket_eq_ok] at h
    obtain ⟨m, hm, _, ⟨-, hvalid, rfl⟩, rfl⟩ := h
    obtain ⟨-, hfilled, hafter⟩ := applyBuy_eq_ok hm
    rw [hafter] at hvalid
    exact ⟨hfilled, hafter ▸ hvalid, by rw [hafter]⟩
  | sell =>
    simp only [applyFill, hside, bind_eq_ok, pure, Except.pure, Except.ok.injEq,
      markToMarket_eq_ok] at h
    obtain ⟨m, hm, _, ⟨-, hvalid, rfl⟩, rfl⟩ := h
    obtain ⟨-, hfilled, hafter⟩ := applySell_eq_ok hm
    rw [hafter] at hvalid
    exact ⟨hfilled, hafter ▸ hvalid, by rw [hafter]⟩

/-- A mark changes neither the balances nor the accumulated results. -/
theorem markedState_accounts (ctx : DecimalContext) (s : PortfolioState) (price : ℚ) :
    (markedState ctx s price).initialEquity = s.initialEquity ∧
      (markedState ctx s price).quoteCash = s.quoteCash ∧
      (markedState ctx s price).baseQuantity = s.baseQuantity ∧
      (markedState ctx s price).costBasis = s.costBasis ∧
      (markedState ctx s price).averageEntryPrice = s.averageEntryPrice ∧
      (markedState ctx s price).realizedPnl = s.realizedPnl ∧
      (markedState ctx s price).totalFees = s.totalFees ∧
      (markedState ctx s price).totalSlippageCost = s.totalSlippageCost :=
  ⟨rfl, rfl, rfl, rfl, rfl, rfl, rfl, rfl⟩

/-- **Under exact arithmetic a mark keeps every guarantee of the state.** -/
theorem markedState_valid {s : PortfolioState} {price : ℚ} (hs : s.Valid .exact)
    (hprice : 0 < price) : (markedState .exact s price).Valid .exact := by
  have hfields := hs.nonneg
  simp only [PortfolioState.nonnegativeFields, List.mem_cons, List.not_mem_nil, or_false,
    forall_eq_or_imp, forall_eq] at hfields
  obtain ⟨hinitial, hcash, hbase, hcost, haverage, hfees, hslippage, -, hpeak, -, -⟩ := hfields
  have hequity : 0 ≤ s.quoteCash + s.baseQuantity * price :=
    add_nonneg hcash (mul_nonneg hbase hprice.le)
  have hle : s.quoteCash + s.baseQuantity * price ≤
      max s.peakEquity (s.quoteCash + s.baseQuantity * price) := le_max_right _ _
  have hnewPeak : 0 ≤ max s.peakEquity (s.quoteCash + s.baseQuantity * price) := hequity.trans hle
  have hdrawdown := sub_nonneg.mpr hle
  exact
    { nonneg := by
        simp only [PortfolioState.nonnegativeFields, List.mem_cons, List.not_mem_nil, or_false,
          forall_eq_or_imp, forall_eq, markedState, DecimalContext.exact_add,
          DecimalContext.exact_mul, DecimalContext.exact_sub]
        refine ⟨hinitial, hcash, hbase, hcost, haverage, hfees, hslippage, hequity, hnewPeak,
          hdrawdown, ?_⟩
        unfold expectedDrawdownPct
        split
        · exact le_rfl
        · exact mul_nonneg (div_nonneg hdrawdown hnewPeak) (by norm_num)
      mark_pos := by simpa [markedState] using hprice
      flat := hs.flat
      long := hs.long
      equity_le := hle
      drawdown_eq := rfl
      drawdownPct_eq := rfl }

end Backtesting
end DryTrade
