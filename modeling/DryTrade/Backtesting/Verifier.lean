import DryTrade.Backtesting.Runs

/-!
# The independent reconstruction

The verifier replays the published fills against the published closes and rejects
a result whose equity curve or final portfolio it cannot reproduce.  The engine
takes one mark that the replay does not: before a forced close it marks the open
position at the close of the last candle, and only then sells it.  Where that mark
is a new peak that the sale, net of its costs, does not reach, the two peaks
differ and the verifier rejects what the engine produced.

## Main definitions

* `reconstruct` — the replay of the verifier.
* `beforeLastClose` — the engine just before it closes the last candle.
* `HidesPeak` — the close of the last candle is a peak only the engine sees.

## Main results

* `reconstruct_iff` — under exact arithmetic a run is rejected exactly when it hides a
  peak.
-/

namespace DryTrade
namespace Backtesting

open MarketData Indicators

/-! ### The replay -/

section

variable (ctx : DecimalContext)

/-- `fills_by_candle.get(candle_index, [])`. -/
def fillsByCandle (fills : List Fill) (candleIndex : ℕ) : List Fill :=
  fills.filter fun f => f.candleIndex == candleIndex

/-- Apply fills one after the other. -/
def applyFills (fills : List Fill) (portfolio : PortfolioState) : Except Failure PortfolioState :=
  fills.foldlM (fun p f => PortfolioMutation.after <$> applyFill ctx p f) portfolio

/-- The compared fields of a snapshot are those of a published point. -/
def pointAgrees (snapshot : PortfolioSnapshot) (point : EquityPoint) : Bool :=
  snapshot.quoteCash == point.quoteCash && snapshot.baseQuantity == point.baseQuantity &&
    snapshot.equity == point.equity && snapshot.peakEquity == point.peakEquity &&
    snapshot.drawdown == point.drawdown && snapshot.drawdownPct == point.drawdownPct

/-- Replay the fills of one point and compare its mark. -/
def replayPoint (fills : List Fill) (portfolio : PortfolioState) (point : EquityPoint) :
    Except Failure PortfolioState := do
  let filled ← applyFills ctx (fillsByCandle fills point.candleIndex) portfolio
  let marked ← markToMarket ctx filled point.closePrice
  FailureKind.backtestResultCorrupt.unless (pointAgrees marked.snapshot point)
    "A curva de patrimônio não é reconstruível."
  return marked

/-- The reconstruction of the equity curve and of the final portfolio. -/
def reconstruct (initialCapital : ℚ) (fills : List Fill) (equity : List EquityPoint)
    (finalPortfolio : PortfolioSnapshot) : Except Failure Unit := do
  let portfolio ← initializePortfolio ctx initialCapital
  let portfolio ← equity.foldlM (replayPoint ctx fills) portfolio
  FailureKind.backtestResultCorrupt.unless (decide (portfolio.snapshot = finalPortfolio))
    "O portfolio final não é reconstruível."

end

section

variable {ctx : DecimalContext} {fills added : List Fill} {p q : PortfolioState}

theorem fillsByCandle_append (fills added : List Fill) (i : ℕ) :
    fillsByCandle (fills ++ added) i = fillsByCandle fills i ++ fillsByCandle added i :=
  List.filter_append ..

theorem fillsByCandle_of_lt {n : ℕ} (h : ∀ f ∈ fills, f.candleIndex < n) :
    fillsByCandle fills n = [] :=
  List.filter_eq_nil_iff.mpr fun f hf => by simpa using (h f hf).ne

theorem fillsByCandle_of_eq {n : ℕ} (h : ∀ f ∈ added, f.candleIndex = n) :
    fillsByCandle added n = added :=
  List.filter_eq_self.mpr fun f hf => by simpa using h f hf

theorem fillsByCandle_of_ne {n i : ℕ} (h : ∀ f ∈ added, f.candleIndex = n) (hi : i < n) :
    fillsByCandle added i = [] :=
  List.filter_eq_nil_iff.mpr fun f hf => by simpa [h f hf] using hi.ne'

/-- A point replays to the mark at its close, when it agrees with it. -/
theorem replayPoint_eq_ok {point : EquityPoint} :
    replayPoint ctx fills p point = .ok q ↔
      ∃ filled, applyFills ctx (fillsByCandle fills point.candleIndex) p = .ok filled ∧
        markToMarket ctx filled point.closePrice = .ok q ∧ pointAgrees q.snapshot point = true := by
  simp only [replayPoint, bind_eq_ok, FailureKind.unless_eq_ok, exists_const, pure, Except.pure,
    Except.ok.injEq]
  constructor
  · rintro ⟨filled, hfilled, _, hmark, hagree, rfl⟩
    exact ⟨filled, hfilled, hmark, hagree⟩
  · rintro ⟨filled, hfilled, hmark, hagree⟩
    exact ⟨filled, hfilled, q, hmark, hagree, rfl⟩

/-- Fills of later candles do not change the replay of earlier points. -/
theorem replay_append {n : ℕ} (hadded : ∀ f ∈ added, f.candleIndex = n) :
    ∀ (points : List EquityPoint) (p : PortfolioState), (∀ x ∈ points, x.candleIndex < n) →
      points.foldlM (replayPoint ctx (fills ++ added)) p = points.foldlM (replayPoint ctx fills) p := by
  intro points
  induction points with
  | nil => intro p _; rfl
  | cons x rest ih =>
    intro p hlt
    have hx : replayPoint ctx (fills ++ added) p x = replayPoint ctx fills p x := by
      unfold replayPoint
      rw [fillsByCandle_append,
        fillsByCandle_of_ne hadded (hlt x List.mem_cons_self), List.append_nil]
    rw [List.foldlM_cons, List.foldlM_cons, hx]
    exact bind_congr fun p' => ih p' fun y hy => hlt y (List.mem_cons_of_mem x hy)

theorem pointAgrees_equityPoint (i : ℕ) (candle : Candle) (p q : PortfolioState) :
    pointAgrees q.snapshot (equityPoint i candle p) = true ↔
      q.quoteCash = p.quoteCash ∧ q.baseQuantity = p.baseQuantity ∧ q.equity = p.equity ∧
        q.peakEquity = p.peakEquity ∧ q.drawdown = p.drawdown ∧ q.drawdownPct = p.drawdownPct := by
  simp [pointAgrees, equityPoint, PortfolioState.snapshot, and_assoc]

end

/-! ### The engine before its last close -/

section

variable {σ : Type}

/-- The engine after the fills of the last candle of a stream and before its close, with that
candle. -/
def beforeLastClose (ctx : DecimalContext) (hash : String → RawLedgerEntry → String)
    (strategy : Strategy σ) (config : BacktestConfig) (snapshot : DatasetSnapshot)
    (candles : List Candle) : Except Failure (EngineState σ × Candle) :=
  match (contextCandles config candles).getLast? with
  | none => FailureKind.snapshotInvalid.raiseWith "O intervalo do backtest não contém candles."
  | some candle => do
      let state ← startState ctx hash strategy config snapshot
      let state ← (contextCandles config candles).dropLast.foldlM
        (processCandle ctx hash strategy config snapshot) state
      let (state, _) ← admitCandle ctx config state candle
      let state ← fillPhase ctx hash strategy config snapshot state candle
      return (state, candle)

/-- A forced close hides the peak of the last close: a position is open, its equity at the close
is above every mark so far, and selling it costs a fee or slippage. -/
def HidesPeak (config : BacktestConfig) (p : PortfolioState) (close : ℚ) : Prop :=
  config.execution.forceCloseAtEnd = true ∧ 0 < p.baseQuantity ∧
    p.peakEquity < p.quoteCash + p.baseQuantity * close ∧
    (0 < config.execution.fees.takerFeeBps ∨ 0 < config.execution.slippage.fixedBps)

variable {ctx : DecimalContext} {hash : String → RawLedgerEntry → String}
variable {strategy : Strategy σ} {config : BacktestConfig} {snapshot : DatasetSnapshot}

/-- **The invariant of the replay**: what is published so far replays to the portfolio of the
engine, which is valid. -/
structure Replayed (ctx : DecimalContext) (config : BacktestConfig) (s : EngineState σ) : Prop where
  replay : ∃ start, initializePortfolio ctx config.initialCapital = .ok start ∧
    s.equity.foldlM (replayPoint ctx s.fills) start = .ok s.portfolio
  valid : s.portfolio.Valid ctx

theorem startState_replayed {s : EngineState σ}
    (h : startState ctx hash strategy config snapshot = .ok s) : Replayed ctx config s := by
  obtain ⟨hstart, -, hequity, -⟩ := startState_cases h
  refine ⟨⟨s.portfolio, hstart, by rw [hequity]; rfl⟩, ?_⟩
  simp only [initializePortfolio, bind_eq_ok, FailureKind.unless_eq_ok, exists_const,
    PortfolioState.validate_eq_ok] at hstart
  obtain ⟨-, hvalid, heq⟩ := hstart
  exact heq ▸ hvalid

theorem applyFills_valid {fills : List Fill} {p q : PortfolioState} (hp : p.Valid ctx)
    (h : applyFills ctx fills p = .ok q) : q.Valid ctx := by
  refine foldlM_preserves (P := PortfolioState.Valid ctx) (fun b f b' _ hb' => ?_) _ _ _ hp h
  cases happly : applyFill ctx b f with
  | error e => rw [happly] at hb'; cases hb'
  | ok m =>
    rw [happly] at hb'
    cases hb'
    exact (applyFill_eq_ok happly).2.1

theorem FillPhase.valid {s s' : EngineState σ} (h : FillPhase ctx s s')
    (hs : s.portfolio.Valid ctx) : s'.portfolio.Valid ctx := by
  obtain ⟨added, -, -, hfold⟩ := h.fills
  exact applyFills_valid hs hfold

/-- Earlier points replay to the portfolio before the fills of a candle, also over its fills and
more of the same number, and the fills of that number are then these. -/
theorem FillPhase.replay {s s' : EngineState σ} (h : FillPhase ctx s s') (hpub : Published config s)
    (hs : Replayed ctx config s) (more : List Fill)
    (hmore : ∀ f ∈ more, f.candleIndex = s.candlesProcessed) :
    ∃ start added, initializePortfolio ctx config.initialCapital = .ok start ∧
      s'.equity.foldlM (replayPoint ctx (s'.fills ++ more)) start = .ok s.portfolio ∧
      fillsByCandle (s'.fills ++ more) s.candlesProcessed = added ++ more ∧
      applyFills ctx added s.portfolio = .ok s'.portfolio := by
  obtain ⟨start, hstart, hreplay⟩ := hs.replay
  obtain ⟨added, hadded, hindex, hfold⟩ := h.fills
  have hnew : ∀ f ∈ added ++ more, f.candleIndex = s.candlesProcessed := by
    intro f hf
    rcases List.mem_append.mp hf with hf | hf
    · exact (hindex f hf).1
    · exact hmore f hf
  refine ⟨start, added, hstart, ?_, ?_, hfold⟩
  · have hpoints : ∀ x ∈ s.equity, x.candleIndex < s.candlesProcessed := by
      intro x hx
      rw [← List.mem_range, ← hpub.equity]
      exact List.mem_map_of_mem hx
    rw [h.equity, hadded, List.append_assoc, replay_append hnew _ _ hpoints, hreplay]
  · rw [hadded, List.append_assoc, fillsByCandle_append, fillsByCandle_of_lt hpub.fills,
      fillsByCandle_of_eq hnew, List.nil_append]

/-- An admitted candle keeps the replay. -/
theorem Replayed.admitted {s s' : EngineState σ} {candle : Candle} {regime : Option MarketRegimePoint}
    (hs : Replayed ctx config s) (h : admitCandle ctx config s candle = .ok (s', regime)) :
    Replayed ctx config s' := by
  obtain ⟨acc, -, -, rfl⟩ := admitCandle_cases h
  exact ⟨hs.replay, hs.valid⟩

/-- **One candle keeps the replay.** -/
theorem processCandle_replayed {s s' : EngineState σ} {candle : Candle} (hpub : Published config s)
    (hs : Replayed ctx config s)
    (h : processCandle ctx hash strategy config snapshot s candle = .ok s') :
    Replayed ctx config s' := by
  obtain ⟨s₀, regime, hadmit, ⟨-, hwarm⟩ | ⟨-, s₁, hfill, hclose⟩⟩ := processCandle_cases h
  · obtain ⟨st, context, rfl⟩ := warmupCandle_cases hwarm
    exact ⟨(hs.admitted hadmit).replay, (hs.admitted hadmit).valid⟩
  · have hphase := fillPhase_cases hfill
    have hstep := closePhase_cases hclose
    obtain ⟨hpub₀, -⟩ := hpub.admitted hadmit
    obtain ⟨start, added, hstart, hreplay, hadded, hfold⟩ :=
      hphase.replay hpub₀ (hs.admitted hadmit) [] (by simp)
    rw [List.append_nil] at hreplay hadded
    rw [List.append_nil] at hadded
    refine ⟨⟨start, hstart, ?_⟩, ?_⟩
    · rw [hstep.equity, hstep.fills, foldlM_concat_eq_ok]
      refine ⟨s₀.portfolio, hreplay, replayPoint_eq_ok.mpr ⟨s₁.portfolio, ?_, hstep.marked, ?_⟩⟩
      · rw [hphase.candlesProcessed]
        change applyFills ctx (fillsByCandle s₁.fills s₀.candlesProcessed) s₀.portfolio = _
        rw [hadded, hfold]
      · exact (pointAgrees_equityPoint _ _ _ _).mpr ⟨rfl, rfl, rfl, rfl, rfl, rfl⟩
    · obtain ⟨-, hvalid, heq⟩ := markToMarket_eq_ok.mp hstep.marked
      exact heq ▸ hvalid

/-- Both invariants hold after every stream. -/
theorem foldlM_processCandle_replayed {candles : List Candle} {s s' : EngineState σ}
    (hs : Published config s ∧ Replayed ctx config s)
    (h : candles.foldlM (processCandle ctx hash strategy config snapshot) s = .ok s') :
    Published config s' ∧ Replayed ctx config s' :=
  foldlM_preserves (P := fun b => Published config b ∧ Replayed ctx config b)
    (fun _ _ _ hb hb' =>
      ⟨processCandle_published hb.1 hb', processCandle_replayed hb.1 hb.2 hb'⟩) _ _ _ hs h

/-- A stream with an evaluated candle ends with one, which is filled against and closed. -/
theorem runCandles_last {candles : List Candle} {s : EngineState σ}
    (h : runCandles ctx hash strategy config snapshot candles = .ok s)
    (hpos : 0 < s.candlesProcessed) :
    ∃ s₀ s₁ candle regime, beforeLastClose ctx hash strategy config snapshot candles =
        .ok (s₁, candle) ∧ Published config s₀ ∧ Replayed ctx config s₀ ∧ FillPhase ctx s₀ s₁ ∧
      CloseStep ctx hash regime candle s₁ s ∧ s.lastCandle = some candle := by
  simp only [runCandles, bind_eq_ok] at h
  obtain ⟨start, hstart, hfold⟩ := h
  obtain ⟨-, -, -, -, hzero, hpubStart⟩ := startState_cases hstart
  rcases List.eq_nil_or_concat (contextCandles config candles) with hnil | ⟨before, candle, hcat⟩
  · rw [hnil] at hfold
    cases hfold
    omega
  · rw [hcat, List.concat_eq_append, foldlM_concat_eq_ok] at hfold
    obtain ⟨s', hbefore, hprocess⟩ := hfold
    obtain ⟨hpub, hrep⟩ :=
      foldlM_processCandle_replayed ⟨hpubStart, startState_replayed hstart⟩ hbefore
    obtain ⟨s₀, regime, hadmit, hrest⟩ := processCandle_cases hprocess
    obtain ⟨hpub₀, hn₀, -, hlast₀⟩ := hpub.admitted hadmit
    rcases hrest with ⟨hlt, hwarm⟩ | ⟨-, s₁, hfill, hclose⟩
    · obtain ⟨st, context, rfl⟩ := warmupCandle_cases hwarm
      obtain ⟨c, hc, hge⟩ := hpub₀.lastCandle hpos
      rw [hlast₀] at hc
      cases hc
      exact absurd hge (not_le.mpr hlt)
    · have hphase := fillPhase_cases hfill
      have hstep := closePhase_cases hclose
      refine ⟨s₀, s₁, candle, regime, ?_, hpub₀, hrep.admitted hadmit, hphase, hstep, ?_⟩
      · unfold beforeLastClose
        rw [hcat, List.concat_eq_append, List.getLast?_concat, List.dropLast_concat]
        simp only [hstart, ok_bind, hbefore, hadmit, hfill]
        rfl
      · rw [hstep.lastCandle, hphase.lastCandle, hlast₀]

/-! ### The forced close -/

/-- The costs of a forced close are those of a taker. -/
structure ForceCloseStep (ctx : DecimalContext) (config : BacktestConfig) (candle : Candle)
    (s s' : EngineState σ) (fill : Fill) (mutation : PortfolioMutation) : Prop where
  valid : fill.Valid ctx
  candleIndex : fill.candleIndex = s.candlesProcessed - 1
  side : fill.side = .sell
  quantity : fill.quantity = s.portfolio.baseQuantity
  executionPrice : fill.executionPrice =
    adversePrice ctx config.execution.slippage candle.close .sell
  fee : fill.fee = ctx.mul fill.notional (config.execution.fees.rate ctx .taker)
  applied : applyFill ctx s.portfolio fill = .ok mutation
  marked : markToMarket ctx mutation.after candle.close = .ok s'.portfolio
  fills : s'.fills = s.fills ++ [fill]
  equity : s'.equity =
    s.equity.dropLast ++ [equityPoint (s.candlesProcessed - 1) candle s'.portfolio]

theorem forceClose_cases {s s' : EngineState σ} {candle : Candle}
    {hbase : 0 < s.portfolio.baseQuantity}
    (h : forceClose ctx hash config s candle hbase = .ok s') :
    ∃ fill mutation, ForceCloseStep ctx config candle s s' fill mutation := by
  simp only [forceClose, bind_eq_ok, FailureKind.unless_eq_ok, exists_const, pure, Except.pure,
    Except.ok.injEq] at h
  obtain ⟨-, order, horder, opened, hopened, q, hq, fill, hfill, mutation, hmutation, ledger, -,
    closed, -, portfolio, hportfolio, orders, -, rfl⟩ := h
  simp only [createOrder, bind_eq_ok, FailureKind.unless_eq_ok, exists_const, pure, Except.pure,
    Except.ok.injEq] at horder
  obtain ⟨-, rfl⟩ := horder
  obtain ⟨-, rfl⟩ := transitionOrder_eq_ok.mp hopened
  obtain ⟨hvalid, hindex, hside, hquantity, hprice, hnotional, hfee⟩ := makeFill_eq_ok hfill
  obtain ⟨-, -, hliquidity, -, hexecution⟩ := adverseQuote_eq_ok hq
  refine ⟨fill, mutation, ?_⟩
  exact
    { valid := hvalid
      candleIndex := hindex
      side := hside
      quantity := hquantity
      executionPrice := hprice.trans hexecution
      fee := by rw [hfee, hliquidity, ← hnotional]
      applied := hmutation
      marked := hportfolio
      fills := rfl
      equity := rfl }

/-- Selling a whole position at `fill` and marking it at `close` afterwards, under exact
arithmetic: the balances, and a peak that has seen the proceeds. -/
theorem applyFill_all {s : PortfolioState} {fill : Fill} {close : ℚ} (hs : s.Valid .exact)
    (hfill : fill.Valid .exact) (hside : fill.side = .sell) (hall : fill.quantity = s.baseQuantity)
    (hcash : 0 ≤ s.quoteCash + (fill.notional - fill.fee)) (hclose : 0 < close) :
    ∃ mutation, applyFill .exact s fill = .ok mutation ∧
      markToMarket .exact mutation.after close =
        .ok (markedState .exact (markedState .exact (soldState .exact s fill) fill.executionPrice)
          close) := by
  have hsold : (soldState .exact s fill).Valid .exact := by
    have hfields := hs.nonneg
    simp only [PortfolioState.nonnegativeFields, List.mem_cons, List.not_mem_nil, or_false,
      forall_eq_or_imp, forall_eq] at hfields
    obtain ⟨hinitial, -, -, -, -, hfees, hslippage, hequity, hpeak, hdrawdown, hpct⟩ := hfields
    have hflat : (soldState .exact s fill).baseQuantity = 0 := by simp [soldState, hall]
    exact
      { nonneg := by
          simp only [PortfolioState.nonnegativeFields, List.mem_cons, List.not_mem_nil, or_false,
            forall_eq_or_imp, forall_eq]
          refine ⟨hinitial, hcash, hflat.ge, ?_, ?_, add_nonneg hfees hfill.fee_nonneg,
            add_nonneg hslippage hfill.slippageCost_nonneg, hequity, hpeak, hdrawdown, hpct⟩
          · simp [soldState, hall]
          · simp [soldState, hall]
        mark_pos := hs.mark_pos
        flat := fun _ => by simp [soldState, hall]
        long := fun hne => absurd hflat hne
        equity_le := hs.equity_le
        drawdown_eq := hs.drawdown_eq
        drawdownPct_eq := hs.drawdownPct_eq }
  have hmarked := markedState_valid hsold hfill.executionPrice_pos
  have happly : applyFill .exact s fill = .ok
      { before := s
        after := markedState .exact (soldState .exact s fill) fill.executionPrice
        quoteDelta := fill.notional - fill.fee
        baseDelta := -fill.quantity
        costBasisDelta := -releasedCost .exact s fill
        realizedPnlDelta := realizedDelta .exact s fill } := by
    simp only [applyFill, hside, applySell, bind_eq_ok, FailureKind.require_eq_ok,
      decide_eq_true_eq, exists_const, PortfolioState.validate_eq_ok, markToMarket_eq_ok, pure,
      Except.pure, Except.ok.injEq]
    exact ⟨_, ⟨hall.le, _, ⟨hsold, rfl⟩, rfl⟩, _, ⟨hfill.executionPrice_pos, hmarked, rfl⟩, rfl⟩
  exact ⟨_, happly, markToMarket_eq_ok.mpr ⟨hclose, markedState_valid hmarked hclose, rfl⟩⟩

/-- The portfolio after a whole position is sold at `fill` and marked at `close`. -/
def closedState (s : PortfolioState) (fill : Fill) (close : ℚ) : PortfolioState :=
  markedState .exact (markedState .exact (soldState .exact s fill) fill.executionPrice) close

/-- With and without a mark at the close before the sale, only the peak may differ: what
depends on it follows. -/
theorem closedState_markedState_eq {s : PortfolioState} {fill : Fill} {close : ℚ}
    (h : (closedState s fill close).peakEquity =
      (closedState (markedState .exact s close) fill close).peakEquity) :
    closedState s fill close = closedState (markedState .exact s close) fill close := by
  have hpeak : ∀ p : PortfolioState, (∃ q price, p = markedState .exact q price) →
      p = { p with
        drawdown := p.peakEquity - p.equity
        drawdownPct := expectedDrawdownPct .exact p.peakEquity (p.peakEquity - p.equity) } := by
    rintro _ ⟨q, price, rfl⟩
    rfl
  have hrest : closedState (markedState .exact s close) fill close =
      { closedState s fill close with
        peakEquity := (closedState (markedState .exact s close) fill close).peakEquity
        drawdown := (closedState (markedState .exact s close) fill close).drawdown
        drawdownPct := (closedState (markedState .exact s close) fill close).drawdownPct } := rfl
  rw [hpeak (closedState s fill close) ⟨_, _, rfl⟩,
    hpeak (closedState (markedState .exact s close) fill close) ⟨_, _, rfl⟩, hrest, ← h]

/-- The mark at the close before the sale is lost exactly when it is above every other. -/
theorem closedState_peakEquity_iff {s : PortfolioState} {fill : Fill} (close : ℚ)
    (hall : fill.quantity = s.baseQuantity) :
    (closedState s fill close).peakEquity =
        (closedState (markedState .exact s close) fill close).peakEquity ↔
      s.quoteCash + s.baseQuantity * close ≤
        max s.peakEquity (s.quoteCash + (fill.notional - fill.fee)) := by
  have hreplay : (closedState s fill close).peakEquity =
      max s.peakEquity (s.quoteCash + (fill.notional - fill.fee)) := by
    simp [closedState, markedState, soldState, hall]
  have hengine : (closedState (markedState .exact s close) fill close).peakEquity =
      max (max s.peakEquity (s.quoteCash + s.baseQuantity * close))
        (s.quoteCash + (fill.notional - fill.fee)) := by
    simp [closedState, markedState, soldState, hall]
  rw [hreplay, hengine, max_right_comm]
  constructor
  · intro h
    rw [h]
    exact le_max_right _ _
  · intro h
    rw [max_eq_left h]

/-- What a forced close costs is positive exactly when a rate is. -/
theorem forceClose_cost_pos {s s' : EngineState σ} {candle : Candle} {fill : Fill}
    {mutation : PortfolioMutation}
    (h : ForceCloseStep .exact config candle s s' fill mutation)
    (hbase : 0 < s.portfolio.baseQuantity) (hclose : 0 < candle.close) :
    fill.notional - fill.fee < s.portfolio.baseQuantity * candle.close ↔
      0 < config.execution.fees.takerFeeBps ∨ 0 < config.execution.slippage.fixedBps := by
  have hnotional := h.valid.notional_eq
  rw [h.quantity, h.executionPrice] at hnotional
  have hfee := h.fee
  simp only [DecimalContext.exact_mul, adversePrice, DecimalContext.exact_sub,
    DecimalContext.exact_div, FeeModel.rate] at hnotional hfee
  obtain ⟨hσ, hσ'⟩ := config.execution.slippage.valid
  obtain ⟨hρ, hρ'⟩ := config.execution.fees.taker_valid
  set σbps := config.execution.slippage.fixedBps
  set ρbps := config.execution.fees.takerFeeBps
  have hvalue : 0 < s.portfolio.baseQuantity * candle.close := mul_pos hbase hclose
  have hnet : fill.notional - fill.fee =
      s.portfolio.baseQuantity * candle.close * ((1 - σbps / 10000) * (1 - ρbps / 10000)) := by
    rw [hfee, hnotional]
    ring
  rw [hnet, mul_lt_iff_lt_one_right hvalue]
  constructor
  · intro hlt
    by_contra hnone
    obtain ⟨hρ0, hσ0⟩ := not_or.mp hnone
    rw [le_antisymm (not_lt.mp hρ0) hρ, le_antisymm (not_lt.mp hσ0) hσ] at hlt
    norm_num at hlt
  · rintro (hpos | hpos)
    · nlinarith
    · nlinarith

/-- The replay of a run whose position was closed at its end. -/
theorem reconstruct_forced {s s₂ : EngineState σ} {candle : Candle}
    {fill : Fill} {mutation : PortfolioMutation} {s₀ s₁ : EngineState σ}
    {regime : Option MarketRegimePoint} (hpub : Published config s₀)
    (hrep : Replayed .exact config s₀) (hphase : FillPhase .exact s₀ s₁)
    (hstep : CloseStep .exact hash regime candle s₁ s) (hbase : 0 < s.portfolio.baseQuantity)
    (hclosed : ForceCloseStep .exact config candle s s₂ fill mutation) :
    reconstruct .exact config.initialCapital s₂.fills s₂.equity s₂.portfolio.snapshot = .ok () ↔
      ¬ (s₁.portfolio.peakEquity <
          s₁.portfolio.quoteCash + s₁.portfolio.baseQuantity * candle.close ∧
        (0 < config.execution.fees.takerFeeBps ∨ 0 < config.execution.slippage.fixedBps)) := by
  obtain ⟨hcloses, -, hmarked⟩ := markToMarket_eq_ok.mp hstep.marked
  have hsold : filledState .exact s.portfolio fill = soldState .exact s.portfolio fill := by
    rw [filledState, hclosed.side]
  obtain ⟨hsoldValid, -, hafter⟩ := applyFill_eq_ok hclosed.applied
  rw [hsold] at hsoldValid hafter
  have hcash : 0 ≤ s₁.portfolio.quoteCash + (fill.notional - fill.fee) := by
    have hnonneg := hsoldValid.nonneg ("quote_cash", _) (List.mem_cons_of_mem _ List.mem_cons_self)
    rw [hmarked] at hnonneg
    exact hnonneg
  have hall : fill.quantity = s₁.portfolio.baseQuantity := by
    rw [hclosed.quantity, hmarked]
    rfl
  obtain ⟨mutation', happly, hfinal⟩ := applyFill_all (hphase.valid hrep.valid) hclosed.valid
    hclosed.side hall hcash hcloses
  have hindex : fill.candleIndex = s₀.candlesProcessed := by
    rw [hclosed.candleIndex, hstep.candlesProcessed, hphase.candlesProcessed, Nat.add_sub_cancel]
  obtain ⟨start, added, hstart, hreplay, hadded, hfold⟩ :=
    hphase.replay hpub hrep [fill] (by simpa using hindex)
  have hportfolio : s₂.portfolio = closedState (markedState .exact s₁.portfolio candle.close) fill
      candle.close := by
    rw [(markToMarket_eq_ok.mp hclosed.marked).2.2, hafter, hmarked]
    rfl
  have hequity : s₂.equity = s₁.equity ++ [equityPoint s₀.candlesProcessed candle s₂.portfolio] := by
    rw [hclosed.equity, hstep.equity, List.dropLast_concat, hstep.candlesProcessed,
      hphase.candlesProcessed, Nat.add_sub_cancel]
  have hfills : s₂.fills = s₁.fills ++ [fill] := by rw [hclosed.fills, hstep.fills]
  have happlied : applyFills .exact (fillsByCandle s₂.fills s₀.candlesProcessed) s₀.portfolio =
      .ok mutation'.after := by
    rw [hfills, hadded, applyFills, foldlM_concat_eq_ok]
    exact ⟨s₁.portfolio, hfold, by rw [happly]; rfl⟩
  have hlast : ∀ q, replayPoint .exact s₂.fills s₀.portfolio
      (equityPoint s₀.candlesProcessed candle s₂.portfolio) = .ok q ↔
        q = closedState s₁.portfolio fill candle.close ∧ pointAgrees q.snapshot
          (equityPoint s₀.candlesProcessed candle s₂.portfolio) = true := by
    intro q
    rw [replayPoint_eq_ok]
    change (∃ filled, applyFills .exact (fillsByCandle s₂.fills s₀.candlesProcessed) s₀.portfolio =
      .ok filled ∧ markToMarket .exact filled candle.close = .ok q ∧ _) ↔ _
    simp only [happlied, Except.ok.injEq, exists_eq_left', hfinal]
    exact and_congr_left fun _ => eq_comm
  have hunfold : reconstruct .exact config.initialCapital s₂.fills s₂.equity s₂.portfolio.snapshot =
      .ok () ↔ closedState s₁.portfolio fill candle.close = s₂.portfolio := by
    rw [reconstruct, hstart, ok_bind, bind_eq_ok]
    simp only [FailureKind.unless_eq_ok, decide_eq_true_eq]
    rw [hequity, hfills]
    simp only [foldlM_concat_eq_ok, hreplay, Except.ok.injEq, exists_eq_left']
    rw [← hfills]
    simp only [hlast]
    constructor
    · rintro ⟨_, ⟨rfl, hagree⟩, -⟩
      have hpeak := ((pointAgrees_equityPoint _ _ _ _).mp hagree).2.2.2.1
      rw [hportfolio] at hpeak ⊢
      exact closedState_markedState_eq hpeak
    · intro heq
      rw [heq]
      exact ⟨_, ⟨rfl, (pointAgrees_equityPoint _ _ _ _).mpr ⟨rfl, rfl, rfl, rfl, rfl, rfl⟩⟩, rfl⟩
  have hcost := forceClose_cost_pos hclosed hbase hcloses
  have hbaseEq : s.portfolio.baseQuantity = s₁.portfolio.baseQuantity := by rw [hmarked]; rfl
  rw [hbaseEq] at hcost
  have hpeak := closedState_peakEquity_iff candle.close hall
  rw [hunfold, hportfolio, ← hcost, not_and_or, not_lt, not_lt]
  constructor
  · intro heq
    rw [← heq] at hpeak
    rcases le_max_iff.mp (hpeak.mp (by rw [heq])) with hle | hle
    · exact .inl hle
    · exact .inr (by linarith)
  · intro hle
    refine closedState_markedState_eq (hpeak.mpr (le_max_iff.mpr ?_))
    exact hle.imp_right fun hcosts => by linarith

/-- The replay of a run that ends without a forced close always succeeds. -/
theorem reconstruct_unforced {s : EngineState σ} (hs : Replayed ctx config s) :
    reconstruct ctx config.initialCapital s.fills s.equity s.portfolio.snapshot = .ok () := by
  obtain ⟨start, hstart, hreplay⟩ := hs.replay
  rw [reconstruct, hstart, ok_bind, hreplay, ok_bind, FailureKind.unless_eq_ok]
  exact decide_eq_true rfl

/-- **Agreement of the engine and the verifier.**  Under exact arithmetic the reconstruction
accepts the result of a run exactly when the end of the run does not hide the peak of its last
close. -/
theorem reconstruct_iff (hash : String → RawLedgerEntry → String) (strategy : Strategy σ)
    (config : BacktestConfig) (reader : BacktestSnapshotReader) (cancel : Bool)
    (result : BacktestExecutionResult × List StrategyCallback)
    (h : run .exact hash strategy config reader cancel = .ok result) :
    ∃ s candle, beforeLastClose .exact hash strategy config result.1.snapshot
        (reader.iterCandles config.dataRange) = .ok (s, candle) ∧
      (reconstruct .exact config.initialCapital result.1.fills result.1.equityCurve
          result.1.finalPortfolio = .ok () ↔ ¬ HidesPeak config s.portfolio candle.close) := by
  simp only [run, bind_eq_ok, pure, Except.pure, Except.ok.injEq] at h
  obtain ⟨_, -, _, -, snapshot, -, s, hs, s', hfinish, _, -, rfl⟩ := h
  obtain ⟨candle, hcandle, hpos, sc, sf, hcancel, hforce, final, st, context, -, -, rfl⟩ :=
    finishRun_cases hfinish
  obtain ⟨s₀, s₁, candle', regime, hbefore, hpub, hrep, hphase, hstep, hlast⟩ :=
    runCandles_last hs hpos
  have hcandleEq : candle' = candle := by
    rw [hlast] at hcandle
    exact Option.some.inj hcandle
  subst hcandleEq
  refine ⟨s₁, candle', hbefore, ?_⟩
  -- Cancelling changes orders only.
  obtain ⟨orders, rfl⟩ : ∃ orders, sc = { s with orders := orders } := by
    unfold cancelAtEnd at hcancel
    cases cancel with
    | false => exact ⟨s.orders, by simpa using hcancel.symm⟩
    | true =>
      simp only [if_true, bind_eq_ok, pure, Except.pure, Except.ok.injEq] at hcancel
      obtain ⟨orders, -, rfl⟩ := hcancel
      exact ⟨orders, rfl⟩
  have hbase : s.portfolio.baseQuantity = s₁.portfolio.baseQuantity := by
    rw [(markToMarket_eq_ok.mp hstep.marked).2.2]
    rfl
  unfold forceCloseAtEnd at hforce
  split at hforce
  · next hclose =>
    obtain ⟨fill, mutation, hclosed⟩ := forceClose_cases hforce
    have hclosed' : ForceCloseStep .exact config candle' s sf fill mutation := { hclosed with }
    have hiff := reconstruct_forced hpub hrep hphase hstep hclose.2 hclosed'
    have hlong : 0 < s₁.portfolio.baseQuantity := hbase ▸ hclose.2
    rw [HidesPeak, and_iff_right hclose.1, and_iff_right hlong]
    exact hiff
  · next hopen =>
    cases hforce
    have hreplayed : Replayed .exact config s := by
      simp only [runCandles, bind_eq_ok] at hs
      obtain ⟨start, hstart, hfold⟩ := hs
      exact (foldlM_processCandle_replayed
        ⟨(startState_cases hstart).2.2.2.2.2, startState_replayed hstart⟩ hfold).2
    have hnot : ¬ HidesPeak config s₁.portfolio candle'.close := by
      rintro ⟨hflag, hlong, -⟩
      exact hopen ⟨hflag, by rw [hbase]; exact hlong⟩
    exact iff_of_true (reconstruct_unforced hreplayed) hnot

/-- Holding one unit to the end without a forced close replays. -/
theorem reconstruct_iff_hold : ∃ result,
    run .exact (fun _ _ => "") buyAndHold (holdConfig 10 validBps_ten false)
      (readerOf [dailyCandle 0 100 100, dailyCandle 1 100 110]) true = .ok result ∧
    ∃ s candle, beforeLastClose .exact (fun _ _ => "") buyAndHold
        (holdConfig 10 validBps_ten false) result.1.snapshot
        [dailyCandle 0 100 100, dailyCandle 1 100 110] = .ok (s, candle) ∧
      (reconstruct .exact 1000 result.1.fills result.1.equityCurve
          result.1.finalPortfolio = .ok () ↔
        ¬ HidesPeak (holdConfig 10 validBps_ten false) s.portfolio candle.close) := by
  have hrun : (run .exact (fun _ _ => "") buyAndHold (holdConfig 10 validBps_ten false)
      (readerOf [dailyCandle 0 100 100, dailyCandle 1 100 110]) true).isOk = true := by
    decide +kernel
  obtain ⟨result, hresult⟩ := isOk_iff.mp hrun
  exact ⟨result, hresult, reconstruct_iff _ _ _ _ _ result hresult⟩

/-- **A run the verifier rejects.**  One unit is bought at `100`, the last candle closes at `110`
and the forced close pays a fee: the engine published the peak of the close, which the replay
never reaches. -/
theorem reconstruct_rejects_forced_close : ∃ result,
    run .exact (fun _ _ => "") buyAndHold (holdConfig 10 validBps_ten true)
      (readerOf [dailyCandle 0 100 100, dailyCandle 1 100 110]) true = .ok result ∧
    reconstruct .exact 1000 result.1.fills result.1.equityCurve result.1.finalPortfolio =
      .error ⟨.backtestResultCorrupt, "A curva de patrimônio não é reconstruível."⟩ := by
  have hrun : (run .exact (fun _ _ => "") buyAndHold (holdConfig 10 validBps_ten true)
      (readerOf [dailyCandle 0 100 100, dailyCandle 1 100 110]) true).map (fun result =>
        reconstruct .exact 1000 result.1.fills result.1.equityCurve result.1.finalPortfolio) =
      .ok (.error ⟨.backtestResultCorrupt, "A curva de patrimônio não é reconstruível."⟩) := by
    decide +kernel
  cases hresult : run .exact (fun _ _ => "") buyAndHold (holdConfig 10 validBps_ten true)
      (readerOf [dailyCandle 0 100 100, dailyCandle 1 100 110]) true with
  | error e => rw [hresult] at hrun; cases hrun
  | ok result =>
    rw [hresult] at hrun
    exact ⟨result, rfl, Except.ok.inj hrun⟩

end

end Backtesting
end DryTrade
