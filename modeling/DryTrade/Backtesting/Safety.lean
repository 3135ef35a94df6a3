import DryTrade.Backtesting.Solvency

/-!
# The engine raises no internal error

Under exact arithmetic the engine never raises one of the errors that would mean
a defect of its own: every order it visits is still open, every fill it applies is
covered by the cash or the position it needs, and the ledger never diverges from
the portfolio.

A fill of the strategy is covered because it passed the risk check, a fill of the
engine's stop because the stop is for exactly the position, and the forced close
because it sells exactly the position.

## Main definitions

* `InternalFailure` — the errors that would mean a defect of the engine.

## Main results

* `Reached.affordable` — every attempted fill is covered.
* `Reached.agrees` — the ledger agrees with the portfolio at every reached point.
* `fill_loop_safe` — no run raises an internal error.
-/

namespace DryTrade
namespace Backtesting

open MarketData Indicators

/-- The text of a refused lifecycle transition. -/
def transitionMessage : String := "A transição de estado da ordem é inválida."

/-- An error that would mean a defect of the engine: cash or position missing for a fill it
decided on, a ledger that is corrupt or diverges, a transition its own lifecycle refuses. -/
def InternalFailure (e : Failure) : Prop :=
  e.kind = .insufficientCash ∨ e.kind = .insufficientPosition ∨ e.kind = .backtestResultCorrupt ∨
    (e.kind = .invalidOrderIntent ∧ e.message = transitionMessage)

@[simp] theorem internalFailure_mk {kind : FailureKind} {message : String} :
    InternalFailure ⟨kind, message⟩ ↔ kind = .insufficientCash ∨ kind = .insufficientPosition ∨
      kind = .backtestResultCorrupt ∨ (kind = .invalidOrderIntent ∧ message = transitionMessage) :=
  Iff.rfl

/-- The computation raises no internal error. -/
abbrev NoInternal {α : Type} (x : Except Failure α) : Prop := Avoids InternalFailure x

/-! ### Operations that never raise one -/

section

variable {ctx : DecimalContext} {hash : String → RawLedgerEntry → String}
variable {σ : Type} {strategy : Strategy σ} {config : BacktestConfig} {snapshot : DatasetSnapshot}

/-- A callback raises strategy failures only. -/
theorem strategyCall_noInternal {α : Type} (x : Except Failure α) : NoInternal (strategyCall x) := by
  cases x with
  | ok a => exact avoids_ok
  | error e =>
    simp only [strategyCall, avoids_ite, avoids_error, avoids_raise, internalFailure_mk]
    refine ⟨fun hkind => ?_, fun _ => by simp⟩
    simp [InternalFailure, hkind]

theorem adverseQuote_noInternal (slippage : SlippageModel) (p : ℚ) (side : OrderSide)
    (reason : FillReason) (liquidity : FillLiquidity) :
    NoInternal (adverseQuote ctx slippage p side reason liquidity) := by
  simp [adverseQuote, transitionMessage]

theorem quote_noInternal (slippage : SlippageModel) (o : SimulatedOrder) (candle : Candle) (idx : ℕ) :
    NoInternal (quote ctx slippage o candle idx) := by
  unfold quote
  split
  · exact avoids_ok
  · split
    · exact avoids_map.mpr (adverseQuote_noInternal _ _ _ _ _)
    · split
      · exact avoids_ok
      · simp
    · split
      · unfold stopQuote
        split
        all_goals
          simp only [avoids_ite, avoids_ok, implies_true, true_and]
          exact fun _ => ⟨fun _ => avoids_map.mpr (adverseQuote_noInternal _ _ _ _ _),
            fun _ => avoids_map.mpr (adverseQuote_noInternal _ _ _ _ _)⟩
      · simp

theorem makeFill_noInternal (o : SimulatedOrder) (q : ExecutionQuote) (t : Instant) (idx seq : ℕ) :
    NoInternal (makeFill ctx config o q t idx seq) := by
  simp [makeFill, executionFee, Fill.validate, transitionMessage]

theorem requireNonnegativeFinite_noInternal (values : List (String × ℚ)) :
    NoInternal (sizingDecision.requireNonnegativeFinite values) := by
  induction values with
  | nil => exact avoids_ok
  | cons v rest ih =>
    obtain ⟨name, value⟩ := v
    simp [sizingDecision.requireNonnegativeFinite, ih]

theorem sizingDecision_noInternal (fees : FeeModel) (quantity target price : ℚ)
    (liquidity : FillLiquidity) : NoInternal (sizingDecision ctx fees quantity target price liquidity) := by
  simp [sizingDecision, requireNonnegativeFinite_noInternal]

theorem truncateQuantity_noInternal (quantity step : ℚ) :
    NoInternal (truncateQuantity ctx quantity step) := by
  simp [truncateQuantity, transitionMessage]

theorem estimatedPrice_noInternal (slippage : SlippageModel) (intent : OrderIntent) (price : ℚ) :
    NoInternal (estimatedPrice ctx slippage intent price) := by
  unfold estimatedPrice
  split
  · split
    · exact avoids_ok
    · simp
  · exact avoids_ok

theorem size_noInternal (policy : PositionSizingPolicy) (constraints : InstrumentConstraints)
    (fees : FeeModel) (slippage : SlippageModel) (reserve : ℚ) (intent : OrderIntent)
    (portfolio : PortfolioSnapshot) (price : ℚ) :
    NoInternal (size ctx policy constraints fees slippage reserve intent portfolio price) := by
  have htarget : NoInternal (targetNotional ctx policy portfolio) := by
    unfold targetNotional
    split
    · simp
    · exact avoids_ok
  simp [size, estimatedPrice_noInternal, truncateQuantity_noInternal, sizingDecision_noInternal,
    htarget]

theorem evaluateOrder_noInternal (constraints : InstrumentConstraints) (limits : RiskLimits)
    (fees : FeeModel) (slippage : SlippageModel) (intent : OrderIntent)
    (portfolio : PortfolioSnapshot) (price : ℚ) (opened total : ℕ) (halt : Bool) :
    NoInternal (evaluateOrder ctx constraints limits fees slippage intent portfolio price opened total
      halt) := by
  simp [evaluateOrder, evaluateQuantity, truncateQuantity_noInternal, estimatedPrice_noInternal]

theorem decideIntent_noInternal (intent : OrderIntent) (portfolio : PortfolioSnapshot) (price : ℚ)
    (orders : List SimulatedOrder) (halt : Bool) :
    NoInternal (decideIntent ctx config intent portfolio price orders halt) := by
  simp [decideIntent, size_noInternal, evaluateOrder_noInternal]

/-- A transition that the lifecycle allows is made. -/
theorem transitionOrder_noInternal {o : SimulatedOrder} {status : OrderStatus} (t : Instant)
    (code : Option String) (h : status ∈ allowedTransitions o.status) :
    NoInternal (transitionOrder o status t code) :=
  avoids_of_eq_ok (transitionOrder_eq_ok.mpr ⟨h, rfl⟩)

theorem createOrder_noInternal (intent : OrderIntent) (sequence : ℕ) (t : Instant) (idx : ℤ) :
    NoInternal (createOrder intent sequence t idx) := by
  simp [createOrder, transitionMessage]

theorem orderOfDecision_noInternal (decision : RiskDecision × OrderIntent) (sequence : ℕ)
    (t : Instant) (idx : ℤ) : NoInternal (orderOfDecision decision sequence t idx) := by
  obtain ⟨decision, sized⟩ := decision
  cases decision with
  | accepted normalized notional =>
    simp only [orderOfDecision, avoids_bind]
    refine ⟨createOrder_noInternal _ _ _ _, fun o ho => transitionOrder_noInternal _ _ ?_⟩
    rw [(createOrder_eq_ok ho).2.1]
    simp [allowedTransitions]
  | rejected code notional =>
    simp only [orderOfDecision, avoids_bind]
    refine ⟨createOrder_noInternal _ _ _ _, fun o ho => transitionOrder_noInternal _ _ ?_⟩
    rw [(createOrder_eq_ok ho).2.1]
    simp [allowedTransitions]

theorem submitIntents_noInternal {idx : ℤ} {t : Instant} {price : ℚ} {portfolio : PortfolioState}
    {halt : Bool} : ∀ (intents : List OrderIntent) (orders : List SimulatedOrder),
      NoInternal (submitIntents ctx config idx t price portfolio halt intents orders) := by
  intro intents
  induction intents with
  | nil =>
    intro orders
    exact avoids_ok
  | cons intent rest ih =>
    intro orders
    simp [submitIntents, decideIntent_noInternal, orderOfDecision_noInternal, ih]

theorem checkEventLimit_noInternal (s : EngineState σ) : NoInternal (checkEventLimit config s) := by
  simp [checkEventLimit]

/-- Transitions that the lifecycle allows are made. -/
theorem transitionWhere_noInternal {p : SimulatedOrder → Bool} {status : OrderStatus} (t : Instant)
    {orders : List SimulatedOrder}
    (h : ∀ o ∈ orders, p o = true → status ∈ allowedTransitions o.status) :
    NoInternal (transitionWhere p status t orders) :=
  avoids_of_eq_ok (transitionWhere_eq_ok.mpr ⟨h, rfl⟩)

theorem cancelOpenOrders_noInternal (orders : List SimulatedOrder) (t : Instant) (keep : Bool) :
    NoInternal (cancelOpenOrders orders t keep) := by
  refine transitionWhere_noInternal t fun o _ hopen => ?_
  simp only [Bool.and_eq_true, beq_iff_eq] at hopen
  rw [hopen.1]
  simp [allowedTransitions]

theorem evaluateStopLoss_noInternal (policy : StopLossPolicy) (constraints : InstrumentConstraints)
    (portfolio : PortfolioSnapshot) :
    NoInternal (evaluateStopLoss ctx policy constraints portfolio) := by
  unfold evaluateStopLoss
  split
  · exact avoids_ok
  · split
    · simp
    · simp [transitionMessage]

theorem placeStopLoss_noInternal (orders : List SimulatedOrder) (t : Instant) (idx : ℤ)
    (decision : Option (ℚ × ℚ)) : NoInternal (placeStopLoss config orders t idx decision) := by
  cases decision with
  | none => exact avoids_ok
  | some d =>
    simp only [placeStopLoss, avoids_bind, avoids_dite, avoids_unless, avoids_raise, avoids_pure,
      internalFailure_mk]
    refine ⟨by simp, fun _ _ => ⟨by simp, fun _ _ => ⟨fun h => ⟨createOrder_noInternal _ _ _ _,
      fun o ho => ⟨transitionOrder_noInternal _ _ ?_, by simp⟩⟩, fun _ => by simp⟩⟩⟩
    rw [(createOrder_eq_ok ho).2.1]
    simp [allowedTransitions]

theorem reconcileStopLoss_noInternal (portfolio : PortfolioState) (orders : List SimulatedOrder)
    (t : Instant) (idx : ℤ) : NoInternal (reconcileStopLoss ctx config portfolio orders t idx) := by
  simp only [reconcileStopLoss, avoids_bind]
  refine ⟨transitionWhere_noInternal t fun o _ hopen => ?_, fun _ _ =>
    ⟨evaluateStopLoss_noInternal _ _ _, fun _ _ => placeStopLoss_noInternal _ _ _ _⟩⟩
  simp only [Bool.and_eq_true, beq_iff_eq] at hopen
  rw [hopen.1]
  simp [allowedTransitions]

theorem point_validate_noInternal (point : MarketRegimePoint) : NoInternal point.validate := by
  simp [MarketRegimePoint.validate]

theorem contextOf_noInternal (s : EngineState σ) (i : ℤ) (current : Option Candle)
    (history : List Candle) (last : Option Fill) (halt : Bool) (regime : Option MarketRegimePoint) :
    NoInternal (contextOf snapshot s i current history last halt regime) := by
  have hregime : ∀ c : Candle, NoInternal (checkRegime c regime) := by
    intro c
    cases regime with
    | none => exact avoids_ok
    | some point => simp [checkRegime, point_validate_noInternal]
  cases current with
  | none => simp [contextOf, StrategyContext.validate]
  | some c => simp [contextOf, StrategyContext.validate, hregime]

theorem contextFromPreviousHistory_noInternal (s : EngineState σ) (previous : List Candle)
    (fill : Fill) : NoInternal (contextFromPreviousHistory snapshot s previous fill) := by
  unfold contextFromPreviousHistory
  split
  · exact contextOf_noInternal _ _ _ _ _ _ _
  · exact contextOf_noInternal _ _ _ _ _ _ _

theorem validateCandleSeries_noInternal (candles : List Candle) :
    NoInternal (validateCandleSeries candles) := by
  cases candles with
  | nil => simp [validateCandleSeries]
  | cons first rest => simp [validateCandleSeries]

theorem admitCandle_noInternal (s : EngineState σ) (candle : Candle) :
    NoInternal (admitCandle ctx config s candle) := by
  have hpoint : ∀ fast slow atr policy, NoInternal (pointFor ctx candle fast slow atr policy) := by
    intro fast slow atr policy
    unfold pointFor
    split
    · exact point_validate_noInternal _
    · exact point_validate_noInternal _
  have hregime : NoInternal (updateRegime ctx candle s.regimeAccumulator) := by
    cases s.regimeAccumulator with
    | none => exact avoids_ok
    | some acc => simp [updateRegime, MarketRegimeAccumulator.update,
        validateCandleSeries_noInternal, hpoint]
  simp [admitCandle, validateCandle, hregime]

theorem answerFill_noInternal (candle : Candle) (idx : ℕ) (s : EngineState σ)
    (context : StrategyContext) (fill : Fill) :
    NoInternal (answerFill ctx strategy config candle idx s context fill) := by
  simp [answerFill, strategyCall_noInternal, submitIntents_noInternal, checkEventLimit_noInternal]

theorem answerCandle_noInternal (regime : Option MarketRegimePoint) (s : EngineState σ)
    (candle : Candle) (context : StrategyContext) :
    NoInternal (answerCandle ctx strategy config regime s candle context) := by
  simp [answerCandle, strategyCall_noInternal, submitIntents_noInternal, checkEventLimit_noInternal]

theorem warmupCandle_noInternal (regime : Option MarketRegimePoint) (s : EngineState σ)
    (candle : Candle) : NoInternal (warmupCandle strategy config snapshot regime s candle) := by
  simp only [warmupCandle, avoids_bind]
  refine ⟨contextOf_noInternal _ _ _ _ _ _ _, fun context _ => ?_⟩
  cases strategy.onWarmupCandle with
  | none => simp
  | some callback => simp [strategyCall_noInternal]

theorem submitPendingStart_noInternal (s : EngineState σ) (candle : Candle) :
    NoInternal (submitPendingStart ctx config s candle) := by
  simp [submitPendingStart, submitIntents_noInternal, checkEventLimit_noInternal]

theorem validate_noInternal (p : PortfolioState) : NoInternal (p.validate ctx) := by
  have hfields : ∀ fields, NoInternal (requireNonnegative fields) := by
    intro fields
    induction fields with
    | nil => exact avoids_ok
    | cons f rest ih =>
      obtain ⟨name, value⟩ := f
      simp [requireNonnegative, ih]
  simp [PortfolioState.validate, PortfolioState.checkBasis, hfields]

theorem markToMarket_noInternal (p : PortfolioState) (price : ℚ) :
    NoInternal (markToMarket ctx p price) := by
  simp [markToMarket, validate_noInternal]

/-! ### Covered fills at every point -/

/-- The fee of a fill never exceeds its notional. -/
theorem makeFill_fee_le {o : SimulatedOrder} {q : ExecutionQuote} {t : Instant} {idx seq : ℕ}
    {fill : Fill} (h : makeFill .exact config o q t idx seq = .ok fill) :
    fill.fee ≤ fill.notional := by
  obtain ⟨hvalid, -, -, -, -, hnotional, hfee⟩ := makeFill_eq_ok h
  rw [← hnotional] at hfee
  have hrate : config.execution.fees.rate .exact q.liquidity ≤ 1 := by
    unfold FeeModel.rate
    rw [DecimalContext.exact_div, div_le_one (by norm_num)]
    cases q.liquidity with
    | maker => exact config.execution.fees.maker_valid.2.trans (by norm_num)
    | taker => exact config.execution.fees.taker_valid.2.trans (by norm_num)
  calc fill.fee = fill.notional * config.execution.fees.rate .exact q.liquidity := hfee
    _ ≤ fill.notional * 1 := mul_le_mul_of_nonneg_left hrate hvalid.notional_pos.le
    _ = fill.notional := mul_one _

/-- A fill that the risk check accepts is covered. -/
theorem validateFill_affordable {p : PortfolioState} {fill : Fill}
    (h : validateFill .exact config.constraints config.riskLimits fill p.snapshot = none) :
    Affordable p fill := by
  have hreserve : 0 ≤ effectiveReserve config.riskLimits := by
    unfold effectiveReserve
    split
    · exact le_rfl
    · exact config.riskLimits.reserve_nonneg
  unfold validateFill at h
  unfold Affordable
  split at h
  · cases h
  · split at h
    · cases h
    · split at h
      · cases h
      · cases hside : fill.side with
        | buy =>
          simp only [hside] at h ⊢
          split at h
          · cases h
          · next hcash =>
            have hle := not_lt.mp hcash
            simp only [DecimalContext.exact_sub, PortfolioState.snapshot] at hle
            linarith
        | sell =>
          simp only [hside] at h ⊢
          split at h
          · cases h
          · next hposition => exact not_lt.mp hposition

/-- **Every attempted fill is covered**: a stop is for the whole position, any other fill passed
the risk check. -/
theorem Reached.affordable {c : OpenCandle} {s : EngineState σ} {i : ℕ} {todo : List ℕ}
    {o : SimulatedOrder} {fill : Fill}
    (h : Reached .exact hash strategy config snapshot (.filling c s (i :: todo)))
    (hattempt : FillAttempt .exact config c.candle c.candleIndex s i o fill) :
    Affordable s.portfolio fill := by
  rcases hattempt.accepted with hstop | haccepted
  · obtain ⟨q, hq, hfill⟩ := hattempt.quoted
    obtain ⟨-, -, hside, hquantity, -⟩ := makeFill_eq_ok hfill
    obtain ⟨hwhole, hsell⟩ := Protection.quantity h.protected
      (List.mem_of_getElem? hattempt.order_at) (quote_open hq) hstop
    unfold Affordable
    rw [hside, hsell]
    exact (hquantity.trans hwhole).le
  · exact validateFill_affordable haccepted

/-- The opening entry carries the initial capital. -/
theorem recordInitialCapital_balances {capital : ℚ} {t : Instant} {entries : List LedgerEntry}
    (h : recordInitialCapital .exact hash [] capital t = .ok entries) :
    Balances entries capital 0 := by
  simp only [recordInitialCapital, bind_eq_ok, FailureKind.unless_eq_ok, exists_const] at h
  obtain ⟨-, -, h⟩ := h
  rw [ledgerAppend_eq_ok h]
  exact ⟨_, List.getLast?_concat, by simp [nextLedgerEntry], by simp [nextLedgerEntry]⟩

/-- The ledger agrees with the portfolio after every step. -/
theorem EngineStep.agrees {p q : EnginePoint σ} (hvalid : p.state.portfolio.Valid .exact)
    (hp : ledgerAgrees p.state.ledger p.state.portfolio = true)
    (h : EngineStep .exact hash strategy config snapshot p q) :
    ledgerAgrees q.state.ledger q.state.portfolio = true := by
  have hnext := h.valid hvalid
  cases h with
  | started answer =>
    obtain ⟨intents, st, rfl⟩ := answerStart_cases answer
    exact hp
  | warm admitted early ask =>
    obtain ⟨acc, -, -, rfl⟩ := admitCandle_cases admitted
    exact hp
  | warmed answer =>
    obtain ⟨st, rfl⟩ := answerWarmup_cases answer
    exact hp
  | enter admitted evaluated submit =>
    obtain ⟨acc, -, -, rfl⟩ := admitCandle_cases admitted
    obtain ⟨added, -, rfl, -⟩ := submitPendingStart_added submit
    exact hp
  | pass unfilled visit =>
    rcases visitOrder_pass unfilled visit with rfl | ⟨o, status, t, hi, -, -, hmove⟩
    · exact hp
    · obtain ⟨orders, -, rfl⟩ := transitionAt_cases hi hmove
      exact hp
  | fill attempt book ask =>
    obtain ⟨mutation, filled, -, hrecorded, -, -, hportfolio, -⟩ := bookFill_cases book
    unfold EnginePoint.state
    rw [hportfolio]
    exact recordFill_agrees hrecorded
  | told answer =>
    obtain ⟨added, st, -, rfl⟩ := answerFill_cases answer
    exact hp
  | @close c s s' context mark ask =>
    obtain ⟨hmark, hrecorded, -⟩ := markAndHalt_cases mark
    obtain ⟨-, -, hmarked⟩ := markToMarket_eq_ok.mp hmark
    have hsame : ledgerAgrees s.ledger s'.portfolio = true := by
      rw [hmarked]
      exact hp
    obtain ⟨entries, hok, hagrees⟩ :=
      recordMark_of_agrees hash hnext hsame c.candle.closeTime s.candlesProcessed false
    have hledger : s'.ledger = entries := Except.ok.inj (hrecorded.symm.trans hok)
    unfold EnginePoint.state
    rw [hledger]
    exact hagrees
  | closed answer =>
    obtain ⟨added, st, -, rfl⟩ := answerCandle_cases answer
    exact hp

theorem Reached.agrees {p : EnginePoint σ} (h : Reached .exact hash strategy config snapshot p) :
    ledgerAgrees p.state.ledger p.state.portfolio = true := by
  have hboth : p.state.portfolio.Valid .exact ∧
      ledgerAgrees p.state.ledger p.state.portfolio = true := by
    refine Reached.induct (P := fun p => p.state.portfolio.Valid .exact ∧
      ledgerAgrees p.state.ledger p.state.portfolio = true) (fun s context hopen => ?_)
      (fun p q hp hstep => ⟨hstep.valid hp.1, hstep.agrees hp.1 hp.2⟩) h
    obtain ⟨hportfolio, hledger, -⟩ := openState_cases hopen
    obtain ⟨hvalid, hcash, hbase⟩ := initializePortfolio_eq_ok hportfolio
    refine ⟨hvalid, ledgerAgrees_iff.mpr ?_⟩
    rw [show (EnginePoint.starting s context).state = s from rfl, hcash, hbase]
    exact recordInitialCapital_balances hledger
  exact hboth.2

/-! ### No internal error -/

/-- **Booking a covered fill of an open order raises no internal error.** -/
theorem bookFill_noInternal {c : OpenCandle} {s : EngineState σ} {i : ℕ} {todo : List ℕ}
    {o : SimulatedOrder} {fill : Fill}
    (h : Reached .exact hash strategy config snapshot (.filling c s (i :: todo)))
    (hattempt : FillAttempt .exact config c.candle c.candleIndex s i o fill) :
    NoInternal (bookFill .exact hash config c.candle c.candleIndex s i o fill) := by
  obtain ⟨q, hq, hfill⟩ := hattempt.quoted
  have hvalidFill := (makeFill_eq_ok hfill).1
  have hafford := h.affordable hattempt
  have hfee := makeFill_fee_le hfill
  obtain ⟨mutation, happly, -⟩ := applyFill_of_affordable h.valid hvalidFill hafford hfee
  obtain ⟨entries, hrecord⟩ :=
    recordFill_of_agrees hash h.valid hvalidFill hafford hfee h.agrees happly
  simp only [bookFill, avoids_bind, avoids_pure, implies_true, and_true]
  refine ⟨avoids_of_eq_ok happly, fun m hm => ⟨?_, fun _ _ => ⟨transitionOrder_noInternal _ _ ?_,
    fun _ _ => reconcileStopLoss_noInternal _ _ _ _⟩⟩⟩
  · have happly' : applyFill .exact s.portfolio fill = .ok mutation := happly
    rw [happly', Except.ok.injEq] at hm
    rw [← hm]
    exact avoids_of_eq_ok hrecord
  · rw [quote_open hq]
    simp [allowedTransitions]

/-- **Visiting an order raises no internal error.** -/
theorem visitOrder_noInternal {c : OpenCandle} {s : EngineState σ} {i : ℕ} {todo : List ℕ}
    (h : Reached .exact hash strategy config snapshot (.filling c s (i :: todo))) :
    NoInternal (visitOrder .exact hash strategy config snapshot c.candle c.candleIndex
      c.previousHistory s i) := by
  obtain ⟨o, ho, hopen⟩ := h.walks.1.2 i List.mem_cons_self
  have hmove : ∀ (status : OrderStatus) (t : Instant), status ∈ allowedTransitions .open →
      NoInternal (transitionAt s i o status t) := by
    intro status t hstatus
    simp only [transitionAt, avoids_bind, avoids_pure, implies_true, and_true]
    exact transitionOrder_noInternal t none (hopen ▸ hstatus)
  by_cases hattempt : ∃ order fill,
      FillAttempt .exact config c.candle c.candleIndex s i order fill
  · obtain ⟨order, fill, hattempt⟩ := hattempt
    rw [visitOrder_of_attempt hattempt, applyOrderFill_eq]
    simp only [avoids_bind]
    exact ⟨bookFill_noInternal h hattempt, fun _ _ =>
      ⟨contextFromPreviousHistory_noInternal _ _ _, fun _ _ => answerFill_noInternal _ _ _ _ _⟩⟩
  · simp only [not_exists] at hattempt
    unfold visitOrder
    rw [ho]
    simp only [avoids_ite, avoids_bind]
    refine ⟨fun _ => hmove .expired _ (by simp [allowedTransitions]), fun hlive =>
      ⟨quote_noInternal _ _ _ _, fun q hq => ?_⟩⟩
    cases q with
    | none =>
      simp only [avoids_ite, avoids_ok, implies_true, and_true]
      exact fun _ => hmove .expired _ (by simp [allowedTransitions])
    | some q =>
      simp only [fillQuoted, avoids_bind, avoids_ite]
      refine ⟨makeFill_noInternal _ _ _ _ _, fun fill hfill =>
        ⟨fun _ => hmove .cancelled _ (by simp [allowedTransitions]), fun haccepted => ?_⟩⟩
      refine absurd ⟨ho, by simpa using hlive, ⟨q, hq, hfill⟩, ?_⟩ (hattempt o fill)
      rw [not_and_or, Bool.not_eq_false, Bool.not_eq_true, Option.isSome_eq_false_iff,
        Option.isNone_iff_eq_none] at haccepted
      exact haccepted

/-- Marking the close of a candle raises no internal error. -/
theorem markAndHalt_noInternal {c : OpenCandle} {s : EngineState σ}
    (h : Reached .exact hash strategy config snapshot (.filling c s [])) :
    NoInternal (markAndHalt .exact hash config s c.candle) := by
  have hhalt : ∀ s' : EngineState σ, NoInternal (haltOnDrawdown config s' c.candle) := by
    intro s'
    simp only [haltOnDrawdown, avoids_ite, avoids_bind, avoids_pure, avoids_ok, implies_true,
      and_true]
    exact fun _ => cancelOpenOrders_noInternal _ _ _
  simp only [markAndHalt, markClose, avoids_bind, avoids_pure, implies_true, and_true]
  refine ⟨⟨markToMarket_noInternal _ _, fun p hp => ?_⟩, fun s' _ => hhalt s'⟩
  obtain ⟨-, hvalid, hmarked⟩ := markToMarket_eq_ok.mp hp
  have hsame : ledgerAgrees s.ledger p = true := by
    rw [hmarked]
    exact h.agrees
  obtain ⟨entries, hok, -⟩ := recordMark_of_agrees hash (hmarked ▸ hvalid) hsame
    c.candle.closeTime s.candlesProcessed false
  exact avoids_of_eq_ok hok

/-- **A candle raises no internal error.** -/
theorem processCandle_noInternal {s : EngineState σ} (candle : Candle)
    (h : Reached .exact hash strategy config snapshot (.between s)) :
    NoInternal (processCandle .exact hash strategy config snapshot s candle) := by
  simp only [processCandle, avoids_bind, avoids_ite]
  refine ⟨admitCandle_noInternal _ _, fun admitted hadmit => ⟨fun _ => warmupCandle_noInternal _ _ _,
    fun hevaluated => ⟨?_, fun s₁ hfill => ?_⟩⟩⟩
  · obtain ⟨s₀, regime⟩ := admitted
    simp only [fillPhase, avoids_bind]
    refine ⟨submitPendingStart_noInternal _ _, fun s₁ hsubmit => ?_⟩
    let c : OpenCandle := ⟨candle, s₀.candlesProcessed, s₀.history, regime⟩
    have hentered : Reached .exact hash strategy config snapshot
        (.filling c s₁ (eligibleOrderPositions s₁.orders s₀.candlesProcessed)) :=
      h.steps (.single (.enter hadmit (not_lt.mp hevaluated) hsubmit))
    exact avoids_foldlM (P := fun b todo => Reached .exact hash strategy config snapshot
      (.filling c b todo)) (fun b i todo b' hb hvisit => hb.steps (visitOrder_steps hvisit))
      (fun b i todo hb => visitOrder_noInternal hb) _ _ hentered
  · obtain ⟨s₀, regime⟩ := admitted
    simp only [fillPhase, bind_eq_ok] at hfill
    obtain ⟨s₂, hsubmit, hwalk⟩ := hfill
    let c : OpenCandle := ⟨candle, s₀.candlesProcessed, s₀.history, regime⟩
    have hwalked := foldlM_visitOrder_steps (c := c) hwalk []
    rw [List.append_nil] at hwalked
    have hreached : Reached .exact hash strategy config snapshot (.filling c s₁ []) :=
      (h.steps (.single (.enter hadmit (not_lt.mp hevaluated) hsubmit))).steps hwalked
    rw [closePhase_eq]
    simp only [avoids_bind]
    exact ⟨markAndHalt_noInternal hreached, fun _ _ => ⟨contextOf_noInternal _ _ _ _ _ _ _,
      fun _ _ => answerCandle_noInternal _ _ _ _⟩⟩

/-- The engine opens its books without an internal error. -/
theorem startState_noInternal : NoInternal (startState .exact hash strategy config snapshot) := by
  rw [startState_eq]
  simp only [openState, answerStart, avoids_bind, avoids_pure, implies_true, and_true]
  refine ⟨⟨?_, fun p hp => ⟨?_, fun _ _ => contextOf_noInternal _ _ _ _ _ _ _⟩⟩,
    fun _ _ => strategyCall_noInternal _⟩
  · simp [initializePortfolio, validate_noInternal]
  · have hcapital := config.initialCapital_pos
    have hnonneg := hcapital.le
    simp [recordInitialCapital, ledgerAppend, nextLedgerEntry, hcapital, hnonneg]

theorem runCandles_noInternal (candles : List Candle) :
    NoInternal (runCandles .exact hash strategy config snapshot candles) := by
  simp only [runCandles, avoids_bind]
  refine ⟨startState_noInternal, fun s hs => ?_⟩
  exact avoids_foldlM (P := fun b _ => Reached .exact hash strategy config snapshot (.between b))
    (fun b candle _ b' hb hprocess => hb.steps (processCandle_steps hprocess))
    (fun b candle _ hb => processCandle_noInternal candle hb) _ _ (startState_reached hs)

/-- The forced close sells exactly the position, so it is covered. -/
theorem forceClose_noInternal {s : EngineState σ} (candle : Candle)
    (hbase : 0 < s.portfolio.baseQuantity) (hvalid : s.portfolio.Valid .exact)
    (hagrees : ledgerAgrees s.ledger s.portfolio = true) :
    NoInternal (forceClose .exact hash config s candle hbase) := by
  simp only [forceClose, avoids_bind, avoids_unless, avoids_pure, internalFailure_mk, implies_true,
    and_true]
  refine ⟨by simp, fun _ _ => ⟨createOrder_noInternal _ _ _ _, fun created hcreated => ?_⟩⟩
  obtain ⟨hintent, hstatus, -⟩ := createOrder_eq_ok hcreated
  refine ⟨transitionOrder_noInternal _ _ (by rw [hstatus]; simp [allowedTransitions]),
    fun opened hopened => ⟨adverseQuote_noInternal _ _ _ _ _, fun q _ =>
      ⟨makeFill_noInternal _ _ _ _ _, fun fill hfill => ?_⟩⟩⟩
  obtain ⟨hsame, -, hopen⟩ := transitionOrder_evolves hopened
  obtain ⟨hvalidFill, -, hside, hquantity, -⟩ := makeFill_eq_ok hfill
  have hopenedIntent := hsame.intent.trans hintent
  have hafford : Affordable s.portfolio fill := by
    unfold Affordable
    rw [hside, hopenedIntent]
    rw [hopenedIntent] at hquantity
    exact hquantity.le
  have hfee := makeFill_fee_le hfill
  obtain ⟨mutation, happly, -⟩ := applyFill_of_affordable hvalid hvalidFill hafford hfee
  obtain ⟨entries, hrecord⟩ := recordFill_of_agrees hash hvalid hvalidFill hafford hfee hagrees happly
  refine ⟨avoids_of_eq_ok happly, fun m hm => ?_⟩
  have hmutation : mutation = m := Except.ok.inj (happly.symm.trans hm)
  rw [← hmutation]
  exact ⟨avoids_of_eq_ok hrecord, fun _ _ => ⟨transitionOrder_noInternal _ _
    (by rw [hopen]; simp [allowedTransitions]), fun _ _ => ⟨markToMarket_noInternal _ _,
      fun _ _ => reconcileStopLoss_noInternal _ _ _ _⟩⟩⟩

theorem forceCloseAtEnd_noInternal {s : EngineState σ} (candle : Candle)
    (hvalid : s.portfolio.Valid .exact) (hagrees : ledgerAgrees s.ledger s.portfolio = true) :
    NoInternal (forceCloseAtEnd .exact hash config s candle) := by
  unfold forceCloseAtEnd
  split
  · exact forceClose_noInternal candle _ hvalid hagrees
  · exact avoids_ok

/-- After the forced close the portfolio is valid and the ledger agrees with it. -/
theorem forceCloseAtEnd_agrees {s s' : EngineState σ} {candle : Candle}
    (hvalid : s.portfolio.Valid ctx) (hagrees : ledgerAgrees s.ledger s.portfolio = true)
    (h : forceCloseAtEnd ctx hash config s candle = .ok s') :
    s'.portfolio.Valid ctx ∧ ledgerAgrees s'.ledger s'.portfolio = true := by
  unfold forceCloseAtEnd at h
  split at h
  · obtain ⟨fill, mutation, closed, -, -, -, -, -, hrecord, hmark, -⟩ := forceClose_orders h
    obtain ⟨-, hmarkedValid, hmarked⟩ := markToMarket_eq_ok.mp hmark
    have hrecorded := recordFill_agrees hrecord
    rw [hmarked]
    exact ⟨hmarkedValid, hrecorded⟩
  · cases h
    exact ⟨hvalid, hagrees⟩

/-- Cancelling at the end changes orders only. -/
theorem cancelAtEnd_accounts {cancel : Bool} {s s' : EngineState σ} {candle : Candle}
    (h : cancelAtEnd cancel s candle = .ok s') :
    s'.portfolio = s.portfolio ∧ s'.ledger = s.ledger := by
  unfold cancelAtEnd at h
  split at h
  · simp only [bind_eq_ok, pure, Except.pure, Except.ok.injEq] at h
    obtain ⟨orders, -, rfl⟩ := h
    exact ⟨rfl, rfl⟩
  · cases h
    exact ⟨rfl, rfl⟩

/-- **The end of a run raises no internal error**: the forced close sells exactly the position. -/
theorem finishRun_noInternal {s : EngineState σ} (cancel : Bool)
    (h : Reached .exact hash strategy config snapshot (.between s)) :
    NoInternal (finishRun .exact hash strategy config snapshot cancel s) := by
  have hvalid : s.portfolio.Valid .exact := h.valid
  have hagrees : ledgerAgrees s.ledger s.portfolio = true := h.agrees
  unfold finishRun
  cases s.lastCandle with
  | none => simp
  | some candle =>
    simp only [avoids_bind, avoids_unless, avoids_pure, internalFailure_mk, implies_true, and_true]
    refine ⟨by simp, fun _ _ => ⟨?_, fun s₁ hcancel => ?_⟩⟩
    · simp only [cancelAtEnd, avoids_ite, avoids_bind, avoids_pure, avoids_ok, implies_true, and_true]
      exact fun _ => cancelOpenOrders_noInternal _ _ _
    · have hs₁ := cancelAtEnd_accounts hcancel
      have hvalid₁ : s₁.portfolio.Valid .exact := hs₁.1 ▸ hvalid
      have hagrees₁ : ledgerAgrees s₁.ledger s₁.portfolio = true := by
        rw [hs₁.1, hs₁.2]
        exact hagrees
      refine ⟨forceCloseAtEnd_noInternal candle hvalid₁ hagrees₁, fun s₂ hforce => ?_⟩
      obtain ⟨hvalid₂, hagrees₂⟩ := forceCloseAtEnd_agrees hvalid₁ hagrees₁ hforce
      obtain ⟨entries, hok, -⟩ := recordMark_of_agrees hash hvalid₂ hagrees₂
        candle.closeTime ((s₂.candlesProcessed : ℤ) - 1) true
      exact ⟨avoids_of_eq_ok hok, fun _ _ => ⟨contextOf_noInternal _ _ _ _ _ _ _,
        fun _ _ => ⟨strategyCall_noInternal _, fun _ _ => checkEventLimit_noInternal _⟩⟩⟩

/-- The final portfolio of a run is valid. -/
theorem finishRun_valid {s s' : EngineState σ} {cancel : Bool}
    (h : Reached ctx hash strategy config snapshot (.between s))
    (hfinish : finishRun ctx hash strategy config snapshot cancel s = .ok s') :
    s'.portfolio.Valid ctx := by
  obtain ⟨candle, -, -, s₁, s₂, hcancel, hforce, final, st, context, -, -, rfl⟩ :=
    finishRun_cases hfinish
  have hvalid₁ : s₁.portfolio.Valid ctx := (cancelAtEnd_accounts hcancel).1 ▸ h.valid
  unfold forceCloseAtEnd at hforce
  split at hforce
  · obtain ⟨fill, mutation, closed, -, -, -, -, -, -, hmark, -⟩ := forceClose_orders hforce
    obtain ⟨-, hvalid, hmarked⟩ := markToMarket_eq_ok.mp hmark
    exact hmarked ▸ hvalid
  · cases hforce
    exact hvalid₁

/-- **A whole run raises no internal error.** -/
theorem run_noInternal (reader : BacktestSnapshotReader) (cancel : Bool) :
    NoInternal (run .exact hash strategy config reader cancel) := by
  have hopen : NoInternal (openSnapshotFor config reader) := by
    unfold openSnapshotFor
    split
    · simp
    · simp
  have hlifecycle : NoInternal (checkLifecycle strategy config) := by simp [checkLifecycle]
  simp only [run, avoids_bind, avoids_unless, avoids_require, avoids_pure, internalFailure_mk,
    implies_true, and_true]
  refine ⟨by simp, fun _ _ => ⟨hlifecycle, fun _ _ => ⟨hopen, fun snapshot _ =>
    ⟨runCandles_noInternal _, fun s hs => ⟨finishRun_noInternal cancel (runCandles_reached hs),
      fun _ _ => by simp⟩⟩⟩⟩⟩

/-- **The engine's own fill loop never hits an internal error.**  Under exact arithmetic, no run
raises one; every order is still open when it is visited, and a fill attempted for it is covered;
and cash and position are nonnegative at every reached point and in every result. -/
theorem fill_loop_safe (hash : String → RawLedgerEntry → String) (strategy : Strategy σ)
    (config : BacktestConfig) :
    (∀ reader cancel e, run .exact hash strategy config reader cancel = .error e →
      ¬ InternalFailure e) ∧
    (∀ snapshot c s i todo,
      Reached .exact hash strategy config snapshot (.filling c s (i :: todo)) →
        ∃ o, s.orders[i]? = some o ∧ o.status = .open ∧
          ∀ fill, FillAttempt .exact config c.candle c.candleIndex s i o fill →
            Affordable s.portfolio fill) ∧
    (∀ snapshot p, Reached .exact hash strategy config snapshot p →
      0 ≤ p.state.portfolio.quoteCash ∧ 0 ≤ p.state.portfolio.baseQuantity) ∧
    ∀ reader cancel result callbacks,
      run .exact hash strategy config reader cancel = .ok (result, callbacks) →
        0 ≤ result.finalPortfolio.quoteCash ∧ 0 ≤ result.finalPortfolio.baseQuantity := by
  refine ⟨fun reader cancel => run_noInternal reader cancel, fun snapshot c s i todo h => ?_,
    fun snapshot p h => ?_, fun reader cancel result callbacks h => ?_⟩
  · obtain ⟨o, ho, hopen⟩ := h.walks.1.2 i List.mem_cons_self
    exact ⟨o, ho, hopen, fun fill hattempt => h.affordable hattempt⟩
  · have hsound := h.valid.sound
    exact ⟨hsound.quoteCash, hsound.baseQuantity⟩
  · simp only [run, bind_eq_ok, pure, Except.pure, Except.ok.injEq, Prod.mk.injEq] at h
    obtain ⟨-, -, -, -, snapshot, -, s, hrun, s', hfinish, -, -, rfl, -⟩ := h
    have hsound := (finishRun_valid (runCandles_reached hrun) hfinish).sound
    exact ⟨hsound.quoteCash, hsound.baseQuantity⟩

end

end Backtesting
end DryTrade
