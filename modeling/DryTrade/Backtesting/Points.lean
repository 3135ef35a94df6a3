import DryTrade.Backtesting.Runs
import Mathlib.Logic.Relation

/-!
# The engine in small steps

Between the states that a whole candle connects, the engine stops at further
points: before every eligible order it visits, and before every callback it
makes.  A property of those points cannot be read off the state a candle leaves,
and a run that is aborted has passed through them too.  This file cuts the loop
at these points, and shows that every run of the loop goes through them.

## Main definitions

* `bookFill`, `answerFill`, `answerCandle` — the halves of the engine's operations before
  and after a callback.
* `EnginePoint` — where the engine can stop inside its loop.
* `EngineStep`, `Reached` — one step between two points, and the points a run can reach.

## Main results

* `visitOrder_steps`, `processCandle_steps`, `runCandles_reached` — a run is a sequence of steps.
-/

namespace DryTrade
namespace Backtesting

open MarketData Indicators
open Relation (ReflTransGen)

section

variable (ctx : DecimalContext) (calculateEntryHash : String → RawLedgerEntry → String)
variable {σ : Type} (strategy : Strategy σ) (config : BacktestConfig) (snapshot : DatasetSnapshot)

/-! ### The halves of an operation around its callback -/

/-- The state and the context of `on_start`. -/
def openState : Except Failure (EngineState σ × StrategyContext) := do
  let portfolio ← initializePortfolio ctx config.initialCapital
  let ledger ← recordInitialCapital ctx calculateEntryHash [] config.initialCapital
    (evaluationRangeFor config).start
  let state : EngineState σ :=
    { portfolio := portfolio
      ledger := ledger
      orders := []
      fills := []
      equity := []
      marketRegimes := []
      history := []
      riskHalt := false
      lastFill := none
      lastCandle := none
      contextCandlesSeen := 0
      candlesProcessed := 0
      regimeAccumulator := (marketRegimePolicyFor config).map MarketRegimeAccumulator.init
      lastClosedRegime := none
      pendingStartIntents := []
      strategyState := strategy.init
      callbacks := [] }
  let context ← contextOf snapshot state (-1) none [] none false none
  return (state, context)

/-- What `on_start` leaves. -/
def answerStart (state : EngineState σ) (context : StrategyContext) :
    Except Failure (EngineState σ) := do
  let (intents, strategyState) ← strategyCall (strategy.onStart context state.strategyState)
  return { state with
    pendingStartIntents := intents
    strategyState := strategyState
    callbacks := [.start context] }

/-- What a warmup callback leaves. -/
def answerWarmup (regime : Option MarketRegimePoint) (state : EngineState σ) (candle : Candle)
    (context : StrategyContext) : Except Failure (EngineState σ) :=
  match strategy.onWarmupCandle with
  | none => FailureKind.strategyFailure.raise
  | some callback => do
      let (answered, strategyState) ← strategyCall (callback context candle state.strategyState)
      FailureKind.strategyFailure.unless (!answered) "on_warmup_candle não pode produzir intents"
      return { state with
        strategyState := strategyState
        callbacks := state.callbacks ++ [.warmup context candle]
        lastClosedRegime := regime }

/-- Apply a fill and reconcile the stop: the state the strategy is told about. -/
def bookFill (candle : Candle) (candleIndex : ℕ) (state : EngineState σ) (position : ℕ)
    (order : SimulatedOrder) (fill : Fill) : Except Failure (EngineState σ) := do
  let mutation ← applyFill ctx state.portfolio fill
  let ledger ← recordFill ctx calculateEntryHash state.ledger fill mutation
  let filled ← transitionOrder order .filled candle.openTime none
  let orders ← reconcileStopLoss ctx config mutation.after (state.orders.set position filled)
    candle.openTime candleIndex
  return { state with
    portfolio := mutation.after
    ledger := ledger
    fills := state.fills ++ [fill]
    lastFill := some fill
    orders := orders }

/-- Tell the strategy about a fill and submit what it answers. -/
def answerFill (candle : Candle) (candleIndex : ℕ) (state : EngineState σ)
    (context : StrategyContext) (fill : Fill) : Except Failure (EngineState σ) := do
  let (intents, strategyState) ← strategyCall (strategy.onFill context fill state.strategyState)
  let orders ← submitIntents ctx config candleIndex candle.openTime fill.executionPrice
    state.portfolio state.riskHalt intents state.orders
  let state := { state with
    orders := orders
    strategyState := strategyState
    callbacks := state.callbacks ++ [.fill context fill] }
  checkEventLimit config state
  return state

/-- Mark the close and halt when the drawdown requires it: the state of the candle callback. -/
def markAndHalt (state : EngineState σ) (candle : Candle) : Except Failure (EngineState σ) := do
  let state ← markClose ctx calculateEntryHash state candle
  let state ← haltOnDrawdown config state candle
  return { state with history := pushHistory config.historyWindow state.history candle }

/-- Show the strategy a closed candle and submit what it answers. -/
def answerCandle (regime : Option MarketRegimePoint) (state : EngineState σ) (candle : Candle)
    (context : StrategyContext) : Except Failure (EngineState σ) := do
  let (intents, strategyState) ← strategyCall (strategy.onCandle context candle state.strategyState)
  let orders ← submitIntents ctx config state.candlesProcessed candle.closeTime candle.close
    state.portfolio state.riskHalt intents state.orders
  let state := { state with
    orders := orders
    strategyState := strategyState
    callbacks := state.callbacks ++ [.candle context candle] }
  checkEventLimit config state
  return { state with
    marketRegimes := state.marketRegimes ++ regime.toList
    lastClosedRegime := regime
    candlesProcessed := state.candlesProcessed + 1 }

theorem startState_eq : startState ctx calculateEntryHash strategy config snapshot =
    (do
      let (state, context) ← openState ctx calculateEntryHash strategy config snapshot
      answerStart strategy state context) := by
  simp only [startState, openState, answerStart, bind_assoc, pure_bind]

theorem warmupCandle_eq (regime : Option MarketRegimePoint) (state : EngineState σ)
    (candle : Candle) : warmupCandle strategy config snapshot regime state candle =
    (do
      let state := { state with history := pushHistory config.historyWindow state.history candle }
      let context ← contextOf snapshot state ((state.contextCandlesSeen : ℤ) - 1) (some candle)
        state.history none false regime
      answerWarmup strategy regime state candle context) := rfl

theorem applyOrderFill_eq (candle : Candle) (candleIndex : ℕ) (previousHistory : List Candle)
    (state : EngineState σ) (position : ℕ) (order : SimulatedOrder) (fill : Fill) :
    applyOrderFill ctx calculateEntryHash strategy config snapshot candle candleIndex
      previousHistory state position order fill =
    (do
      let state ← bookFill ctx calculateEntryHash config candle candleIndex state position order fill
      let context ← contextFromPreviousHistory snapshot state previousHistory fill
      answerFill ctx strategy config candle candleIndex state context fill) := by
  simp only [applyOrderFill, bookFill, answerFill, bind_assoc, pure_bind]

theorem closePhase_eq (regime : Option MarketRegimePoint) (state : EngineState σ)
    (candle : Candle) :
    closePhase ctx calculateEntryHash strategy config snapshot regime state candle =
    (do
      let state ← markAndHalt ctx calculateEntryHash config state candle
      let context ← contextOf snapshot state state.candlesProcessed (some candle) state.history
        state.lastFill state.riskHalt regime
      answerCandle ctx strategy config regime state candle context) := by
  simp only [closePhase, markAndHalt, answerCandle, bind_assoc, pure_bind]

/-! ### Points and steps -/

/-- A candle while the engine fills orders against it. -/
structure OpenCandle where
  candle : Candle
  candleIndex : ℕ
  previousHistory : List Candle
  regime : Option MarketRegimePoint

/-- Where the engine can stop: before a callback, between two candles, or before the next of
the positions it walks. -/
inductive EnginePoint (σ : Type)
  | starting (state : EngineState σ) (context : StrategyContext)
  | between (state : EngineState σ)
  | warming (candle : Candle) (regime : Option MarketRegimePoint) (state : EngineState σ)
      (context : StrategyContext)
  | filling (c : OpenCandle) (state : EngineState σ) (todo : List ℕ)
  | telling (c : OpenCandle) (state : EngineState σ) (todo : List ℕ)
      (context : StrategyContext) (fill : Fill)
  | closing (c : OpenCandle) (state : EngineState σ) (context : StrategyContext)

/-- The state of the engine at a point. -/
def EnginePoint.state : EnginePoint σ → EngineState σ
  | .starting state _ => state
  | .between state => state
  | .warming _ _ state _ => state
  | .filling _ state _ => state
  | .telling _ state _ _ _ => state
  | .closing _ state _ => state

/-- The context of the callback that is about to be made at a point. -/
def EnginePoint.context : EnginePoint σ → Option StrategyContext
  | .starting _ context => some context
  | .between _ => none
  | .warming _ _ _ context => some context
  | .filling _ _ _ => none
  | .telling _ _ _ context _ => some context
  | .closing _ _ context => some context

/-- The order at `position` is filled in this candle: it is not expired, it has a quote, and
the fill is accepted or needs no acceptance. -/
structure FillAttempt (candle : Candle) (candleIndex : ℕ) (state : EngineState σ) (position : ℕ)
    (order : SimulatedOrder) (fill : Fill) : Prop where
  order_at : state.orders[position]? = some order
  live : dayExpired order candle = false
  quoted : ∃ q, quote ctx config.execution.slippage order candle candleIndex = .ok (some q) ∧
    makeFill ctx config order q candle.openTime candleIndex (state.fills.length + 1) = .ok fill
  accepted : order.isEngineStop = true ∨
    validateFill ctx config.constraints config.riskLimits fill state.portfolio.snapshot = none

/-- One step between two points of the loop. -/
inductive EngineStep : EnginePoint σ → EnginePoint σ → Prop
  /-- `on_start` answers. -/
  | started {s s' : EngineState σ} {context : StrategyContext}
      (answer : answerStart strategy s context = .ok s') :
      EngineStep (.starting s context) (.between s')
  /-- A candle before the evaluated range is read. -/
  | warm {s s₀ : EngineState σ} {candle : Candle} {regime : Option MarketRegimePoint}
      {context : StrategyContext}
      (admitted : admitCandle ctx config s candle = .ok (s₀, regime))
      (early : candle.openTime < (evaluationRangeFor config).start)
      (ask : contextOf snapshot
        { s₀ with history := pushHistory config.historyWindow s₀.history candle }
        ((s₀.contextCandlesSeen : ℤ) - 1) (some candle)
        (pushHistory config.historyWindow s₀.history candle) none false regime = .ok context) :
      EngineStep (.between s) (.warming candle regime
        { s₀ with history := pushHistory config.historyWindow s₀.history candle } context)
  /-- The warmup callback answers. -/
  | warmed {s s' : EngineState σ} {candle : Candle} {regime : Option MarketRegimePoint}
      {context : StrategyContext}
      (answer : answerWarmup strategy regime s candle context = .ok s') :
      EngineStep (.warming candle regime s context) (.between s')
  /-- An evaluated candle is read, and the eligible positions are listed. -/
  | enter {s s₀ s₁ : EngineState σ} {candle : Candle} {regime : Option MarketRegimePoint}
      (admitted : admitCandle ctx config s candle = .ok (s₀, regime))
      (evaluated : (evaluationRangeFor config).start ≤ candle.openTime)
      (submit : submitPendingStart ctx config s₀ candle = .ok s₁) :
      EngineStep (.between s) (.filling ⟨candle, s₀.candlesProcessed, s₀.history, regime⟩ s₁
        (eligibleOrderPositions s₁.orders s₀.candlesProcessed))
  /-- A visited order is not filled. -/
  | pass {c : OpenCandle} {s s' : EngineState σ} {i : ℕ} {todo : List ℕ}
      (unfilled : ∀ order fill, ¬ FillAttempt ctx config c.candle c.candleIndex s i order fill)
      (visit : visitOrder ctx calculateEntryHash strategy config snapshot c.candle c.candleIndex
        c.previousHistory s i = .ok s') :
      EngineStep (.filling c s (i :: todo)) (.filling c s' todo)
  /-- A visited order is filled. -/
  | fill {c : OpenCandle} {s s' : EngineState σ} {i : ℕ} {todo : List ℕ} {order : SimulatedOrder}
      {fill : Fill} {context : StrategyContext}
      (attempt : FillAttempt ctx config c.candle c.candleIndex s i order fill)
      (book : bookFill ctx calculateEntryHash config c.candle c.candleIndex s i order fill = .ok s')
      (ask : contextFromPreviousHistory snapshot s' c.previousHistory fill = .ok context) :
      EngineStep (.filling c s (i :: todo)) (.telling c s' todo context fill)
  /-- `on_fill` answers. -/
  | told {c : OpenCandle} {s s' : EngineState σ} {todo : List ℕ} {context : StrategyContext}
      {fill : Fill}
      (answer : answerFill ctx strategy config c.candle c.candleIndex s context fill = .ok s') :
      EngineStep (.telling c s todo context fill) (.filling c s' todo)
  /-- The candle is closed once every position has been visited. -/
  | close {c : OpenCandle} {s s' : EngineState σ} {context : StrategyContext}
      (mark : markAndHalt ctx calculateEntryHash config s c.candle = .ok s')
      (ask : contextOf snapshot s' s'.candlesProcessed (some c.candle) s'.history s'.lastFill
        s'.riskHalt c.regime = .ok context) :
      EngineStep (.filling c s []) (.closing c s' context)
  /-- `on_candle` answers. -/
  | closed {c : OpenCandle} {s s' : EngineState σ} {context : StrategyContext}
      (answer : answerCandle ctx strategy config c.regime s c.candle context = .ok s') :
      EngineStep (.closing c s context) (.between s')

/-- The points a run of the loop can reach, on some stream. -/
def Reached (p : EnginePoint σ) : Prop :=
  ∃ state context, openState ctx calculateEntryHash strategy config snapshot = .ok (state, context) ∧
    ReflTransGen (EngineStep ctx calculateEntryHash strategy config snapshot)
      (.starting state context) p

end

/-! ### A run is a sequence of steps -/

section

variable {ctx : DecimalContext} {hash : String → RawLedgerEntry → String}
variable {σ : Type} {strategy : Strategy σ} {config : BacktestConfig} {snapshot : DatasetSnapshot}

/-- **What visiting an order does when it does not fill it**: nothing, or one transition, of an
order that is limited in time or of one that the engine does not manage. -/
theorem visitOrder_pass {candle : Candle} {idx : ℕ} {previous : List Candle} {s s' : EngineState σ}
    {i : ℕ} (hnone : ∀ order fill, ¬ FillAttempt ctx config candle idx s i order fill)
    (h : visitOrder ctx hash strategy config snapshot candle idx previous s i = .ok s') :
    s' = s ∨ ∃ order status t, s.orders[i]? = some order ∧
      (order.intent.timeInForce ≠ .gtc ∨ order.isEngineStop = false) ∧ status ≠ .open ∧
      transitionAt s i order status t = .ok s' := by
  unfold visitOrder at h
  cases ho : s.orders[i]? with
  | none => rw [ho] at h; simp at h
  | some order =>
    rw [ho] at h
    simp only at h
    by_cases hday : dayExpired order candle = true
    · rw [if_pos hday] at h
      refine .inr ⟨order, .expired, candle.openTime, rfl, .inl fun hgtc => ?_, by simp, h⟩
      simp [dayExpired, hgtc] at hday
    · rw [if_neg hday, bind_eq_ok] at h
      obtain ⟨q, hq, h⟩ := h
      cases q with
      | none =>
        simp only at h
        split at h
        · next hioc =>
          refine .inr ⟨order, .expired, candle.closeTime, rfl, .inl fun hgtc => ?_, by simp, h⟩
          rw [hgtc] at hioc
          exact absurd hioc.1 (by simp)
        · cases h
          exact .inl rfl
      | some q =>
        simp only [fillQuoted, bind_eq_ok] at h
        obtain ⟨fill, hfill, h⟩ := h
        by_cases hrefused : order.isEngineStop = false ∧
            (validateFill ctx config.constraints config.riskLimits fill s.portfolio.snapshot).isSome
        · rw [if_pos hrefused] at h
          exact .inr ⟨order, .cancelled, candle.openTime, rfl, .inr hrefused.1, by simp, h⟩
        · refine absurd ?_ (hnone order fill)
          refine ⟨ho, by simpa using hday, ⟨q, hq, hfill⟩, ?_⟩
          rw [not_and_or, Bool.not_eq_false, Bool.not_eq_true, Option.isSome_eq_false_iff,
            Option.isNone_iff_eq_none] at hrefused
          exact hrefused

/-- An order that is filled goes through the whole of `applyOrderFill`. -/
theorem visitOrder_of_attempt {candle : Candle} {idx : ℕ} {previous : List Candle}
    {s : EngineState σ} {i : ℕ} {order : SimulatedOrder} {fill : Fill}
    (h : FillAttempt ctx config candle idx s i order fill) :
    visitOrder ctx hash strategy config snapshot candle idx previous s i =
      applyOrderFill ctx hash strategy config snapshot candle idx previous s i order fill := by
  obtain ⟨q, hq, hfill⟩ := h.quoted
  have haccepted : ¬ (order.isEngineStop = false ∧
      (validateFill ctx config.constraints config.riskLimits fill s.portfolio.snapshot).isSome) := by
    rintro ⟨hstop, hrefused⟩
    rcases h.accepted with hengine | hnone
    · rw [hengine] at hstop
      cases hstop
    · rw [hnone] at hrefused
      cases hrefused
  unfold visitOrder
  rw [h.order_at]
  simp only [h.live, Bool.false_eq_true, if_false, hq, ok_bind, fillQuoted, hfill, if_neg haccepted]

theorem visitOrder_steps {c : OpenCandle} {s s' : EngineState σ} {i : ℕ} {todo : List ℕ}
    (h : visitOrder ctx hash strategy config snapshot c.candle c.candleIndex c.previousHistory s i =
      .ok s') :
    ReflTransGen (EngineStep ctx hash strategy config snapshot) (.filling c s (i :: todo))
      (.filling c s' todo) := by
  by_cases hattempt : ∃ order fill, FillAttempt ctx config c.candle c.candleIndex s i order fill
  · obtain ⟨order, fill, hattempt⟩ := hattempt
    rw [visitOrder_of_attempt hattempt, applyOrderFill_eq, bind_eq_ok] at h
    obtain ⟨s₁, hbook, h⟩ := h
    rw [bind_eq_ok] at h
    obtain ⟨context, hask, hanswer⟩ := h
    exact (ReflTransGen.single (.fill hattempt hbook hask)).tail (.told hanswer)
  · simp only [not_exists] at hattempt
    exact .single (.pass hattempt h)

theorem foldlM_visitOrder_steps {c : OpenCandle} :
    ∀ {todo : List ℕ} {s s' : EngineState σ},
      todo.foldlM (visitOrder ctx hash strategy config snapshot c.candle c.candleIndex
        c.previousHistory) s = .ok s' → ∀ rest : List ℕ,
      ReflTransGen (EngineStep ctx hash strategy config snapshot) (.filling c s (todo ++ rest))
        (.filling c s' rest) := by
  intro todo
  induction todo with
  | nil =>
    intro s s' h rest
    cases h
    exact .refl
  | cons i todo ih =>
    intro s s' h rest
    rw [List.foldlM_cons, bind_eq_ok] at h
    obtain ⟨s₁, hvisit, h⟩ := h
    exact (visitOrder_steps hvisit).trans (ih h rest)

/-- **A processed candle is a sequence of steps.** -/
theorem processCandle_steps {s s' : EngineState σ} {candle : Candle}
    (h : processCandle ctx hash strategy config snapshot s candle = .ok s') :
    ReflTransGen (EngineStep ctx hash strategy config snapshot) (.between s) (.between s') := by
  obtain ⟨s₀, regime, hadmit, ⟨hearly, hwarm⟩ | ⟨hevaluated, s₁, hfill, hclose⟩⟩ :=
    processCandle_cases h
  · rw [warmupCandle_eq] at hwarm
    simp only [bind_eq_ok] at hwarm
    obtain ⟨context, hask, hanswer⟩ := hwarm
    exact (ReflTransGen.single (.warm hadmit hearly hask)).tail (.warmed hanswer)
  · simp only [fillPhase, bind_eq_ok] at hfill
    obtain ⟨s₂, hsubmit, hwalk⟩ := hfill
    rw [closePhase_eq, bind_eq_ok] at hclose
    obtain ⟨s₃, hmark, hclose⟩ := hclose
    rw [bind_eq_ok] at hclose
    obtain ⟨context, hask, hanswer⟩ := hclose
    have hsteps := foldlM_visitOrder_steps (c := ⟨candle, s₀.candlesProcessed, s₀.history, regime⟩)
      hwalk []
    rw [List.append_nil] at hsteps
    exact (((ReflTransGen.single (.enter hadmit hevaluated hsubmit)).trans hsteps).tail
      (.close hmark hask)).tail (.closed hanswer)

theorem foldlM_processCandle_steps :
    ∀ {candles : List Candle} {s s' : EngineState σ},
      candles.foldlM (processCandle ctx hash strategy config snapshot) s = .ok s' →
      ReflTransGen (EngineStep ctx hash strategy config snapshot) (.between s) (.between s') := by
  intro candles
  induction candles with
  | nil =>
    intro s s' h
    cases h
    exact .refl
  | cons candle candles ih =>
    intro s s' h
    rw [List.foldlM_cons, bind_eq_ok] at h
    obtain ⟨s₁, hcandle, h⟩ := h
    exact (processCandle_steps hcandle).trans (ih h)

theorem startState_reached {s : EngineState σ}
    (h : startState ctx hash strategy config snapshot = .ok s) :
    Reached ctx hash strategy config snapshot (.between s) := by
  rw [startState_eq, bind_eq_ok] at h
  obtain ⟨⟨s₀, context⟩, hopen, hanswer⟩ := h
  exact ⟨s₀, context, hopen, .single (.started hanswer)⟩

theorem Reached.steps {p q : EnginePoint σ} (h : Reached ctx hash strategy config snapshot p)
    (hsteps : ReflTransGen (EngineStep ctx hash strategy config snapshot) p q) :
    Reached ctx hash strategy config snapshot q := by
  obtain ⟨s, context, hopen, hp⟩ := h
  exact ⟨s, context, hopen, hp.trans hsteps⟩

/-- **Every run of the loop stays within the reached points.** -/
theorem runCandles_reached {candles : List Candle} {s : EngineState σ}
    (h : runCandles ctx hash strategy config snapshot candles = .ok s) :
    Reached ctx hash strategy config snapshot (.between s) := by
  simp only [runCandles, bind_eq_ok] at h
  obtain ⟨s₀, hstart, hfold⟩ := h
  exact (startState_reached hstart).steps (foldlM_processCandle_steps hfold)

/-- A property of the first point that every step keeps holds at every reached point. -/
theorem Reached.induct {P : EnginePoint σ → Prop}
    (hstart : ∀ s context, openState ctx hash strategy config snapshot = .ok (s, context) →
      P (.starting s context))
    (hstep : ∀ p q, P p → EngineStep ctx hash strategy config snapshot p q → P q)
    {p : EnginePoint σ} (h : Reached ctx hash strategy config snapshot p) : P p := by
  obtain ⟨s, context, hopen, hsteps⟩ := h
  induction hsteps with
  | refl => exact hstart s context hopen
  | tail _ step ih => exact hstep _ _ ih step

end

end Backtesting
end DryTrade
