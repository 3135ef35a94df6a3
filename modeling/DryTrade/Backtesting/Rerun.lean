import DryTrade.Backtesting.Runs

/-!
# The same run on another snapshot

Two configurations with the same rules may name different snapshots and end at
different times.  A strategy that does not look at the snapshot of its contexts
cannot tell them apart: candle by candle, the engine goes through the same states,
up to the callbacks it recorded.

## Main definitions

* `SameRules` — the configurations differ in their snapshot and their range at most.
* `Strategy.IgnoresSnapshot` — the answers do not depend on the snapshot of a context.
* `EngineState.Alike` — the states differ in their recorded callbacks at most.

## Main results

* `startState_alike`, `processCandle_alike` — the runs go through alike states.
-/

namespace DryTrade
namespace Backtesting

open MarketData Indicators

/-- The configurations differ in the snapshot they name and in their range at most, and they
evaluate from the same time on. -/
structure SameRules (config config' : BacktestConfig) : Prop where
  initialCapital : config'.initialCapital = config.initialCapital
  execution : config'.execution = config.execution
  constraints : config'.constraints = config.constraints
  riskLimits : config'.riskLimits = config.riskLimits
  historyWindow : config'.historyWindow = config.historyWindow
  maxCandles : config'.maxCandles = config.maxCandles
  maxOrders : config'.maxOrders = config.maxOrders
  maxEvents : config'.maxEvents = config.maxEvents
  evaluationStart : (evaluationRangeFor config').start = (evaluationRangeFor config).start
  marketRegimePolicy : marketRegimePolicyFor config' = marketRegimePolicyFor config

section

variable {σ : Type}

/-- The answers of the strategy do not depend on the snapshot of the contexts it is given. -/
structure Strategy.IgnoresSnapshot (strategy : Strategy σ) : Prop where
  onStart : ∀ context snapshot st,
    strategy.onStart { context with snapshot := snapshot } st = strategy.onStart context st
  onCandle : ∀ context snapshot candle st,
    strategy.onCandle { context with snapshot := snapshot } candle st =
      strategy.onCandle context candle st
  onFill : ∀ context snapshot fill st,
    strategy.onFill { context with snapshot := snapshot } fill st = strategy.onFill context fill st
  onWarmupCandle : ∀ callback ∈ strategy.onWarmupCandle, ∀ context snapshot candle st,
    callback { context with snapshot := snapshot } candle st = callback context candle st

/-- The states differ in the callbacks they recorded at most. -/
def EngineState.Alike (s t : EngineState σ) : Prop :=
  ∃ callbacks, t = { s with callbacks := callbacks }

theorem EngineState.Alike.refl (s : EngineState σ) : s.Alike s := ⟨s.callbacks, rfl⟩

/-- Whenever the left computation returns, the right one returns a state alike. -/
def Simulates (x y : Except Failure (EngineState σ)) : Prop :=
  ∀ s, x = .ok s → ∃ t, y = .ok t ∧ s.Alike t

variable {ctx : DecimalContext} {hash : String → RawLedgerEntry → String}
variable {strategy : Strategy σ} {config config' : BacktestConfig}
variable {snapshot snapshot' : DatasetSnapshot} {s t : EngineState σ}

/-! ### The rules -/

theorem SameRules.decideIntent (h : SameRules config config') {intent : OrderIntent}
    {portfolio : PortfolioSnapshot} {price : ℚ} {orders : List SimulatedOrder} {halt : Bool} :
    Backtesting.decideIntent ctx config' intent portfolio price orders halt =
      Backtesting.decideIntent ctx config intent portfolio price orders halt := by
  simp only [Backtesting.decideIntent, h.execution, h.riskLimits, h.constraints]

theorem SameRules.submitIntents (h : SameRules config config') {index : ℤ} {time : Instant}
    {price : ℚ} {portfolio : PortfolioState} {halt : Bool} {intents : List OrderIntent} :
    ∀ {orders : List SimulatedOrder},
      Backtesting.submitIntents ctx config' index time price portfolio halt intents orders =
        Backtesting.submitIntents ctx config index time price portfolio halt intents orders := by
  induction intents with
  | nil =>
    intro orders
    rfl
  | cons intent rest ih =>
    intro orders
    simp only [Backtesting.submitIntents, h.maxOrders, h.decideIntent, ih]

theorem SameRules.reconcileStopLoss (h : SameRules config config') {portfolio : PortfolioState}
    {orders : List SimulatedOrder} {time : Instant} {index : ℤ} :
    Backtesting.reconcileStopLoss ctx config' portfolio orders time index =
      Backtesting.reconcileStopLoss ctx config portfolio orders time index := by
  have hplace : ∀ (orders : List SimulatedOrder) (decision : Option (ℚ × ℚ)),
      placeStopLoss config' orders time index decision =
        placeStopLoss config orders time index decision := by
    intro orders decision
    cases decision with
    | none => rfl
    | some decision => simp only [placeStopLoss, h.maxOrders, h.riskLimits]
  simp only [Backtesting.reconcileStopLoss, h.riskLimits, h.constraints, hplace]

theorem SameRules.checkEventLimit (h : SameRules config config') (hst : s.Alike t) :
    Backtesting.checkEventLimit config' t = Backtesting.checkEventLimit config s := by
  obtain ⟨callbacks, rfl⟩ := hst
  simp only [Backtesting.checkEventLimit, h.maxEvents]

theorem SameRules.makeFill (h : SameRules config config') {order : SimulatedOrder}
    {q : ExecutionQuote} {time : Instant} {index sequence : ℕ} :
    Backtesting.makeFill ctx config' order q time index sequence =
      Backtesting.makeFill ctx config order q time index sequence := by
  simp only [Backtesting.makeFill, h.execution]

/-! ### Contexts -/

/-- A context that is built is built over another snapshot. -/
theorem contextOf_alike {index : ℤ} {current : Option Candle} {history : List Candle}
    {last : Option Fill} {halt : Bool} {regime : Option MarketRegimePoint}
    {context : StrategyContext} (hst : s.Alike t)
    (h : contextOf snapshot s index current history last halt regime = .ok context) :
    contextOf snapshot' t index current history last halt regime =
      .ok { context with snapshot := snapshot' } := by
  obtain ⟨callbacks, rfl⟩ := hst
  unfold contextOf StrategyContext.validate at h ⊢
  cases current with
  | none =>
    simp only [bind_eq_ok, FailureKind.unless_eq_ok, exists_const, pure, Except.pure,
      Except.ok.injEq] at h ⊢
    obtain ⟨hindex, hstart, hregime, rfl⟩ := h
    exact ⟨hindex, hstart, hregime, rfl⟩
  | some candle =>
    simp only [bind_eq_ok, FailureKind.unless_eq_ok, exists_const, pure, Except.pure,
      Except.ok.injEq] at h ⊢
    obtain ⟨hindex, hcurrent, hchronological, hfuture, hopen, u, hregime, rfl⟩ := h
    exact ⟨hindex, hcurrent, hchronological, hfuture, hopen, u, hregime, rfl⟩

theorem contextFromPreviousHistory_alike {previous : List Candle} {fill : Fill}
    {context : StrategyContext} (hst : s.Alike t)
    (h : contextFromPreviousHistory snapshot s previous fill = .ok context) :
    contextFromPreviousHistory snapshot' t previous fill =
      .ok { context with snapshot := snapshot' } := by
  have hst' := hst
  obtain ⟨callbacks, rfl⟩ := hst'
  unfold contextFromPreviousHistory at h ⊢
  split at h
  · exact contextOf_alike hst h
  · exact contextOf_alike hst h

/-! ### Orders -/

theorem transitionAt_alike {i : ℕ} {order : SimulatedOrder} {status : OrderStatus} {time : Instant}
    (hst : s.Alike t) :
    Simulates (transitionAt s i order status time) (transitionAt t i order status time) := by
  obtain ⟨callbacks, rfl⟩ := hst
  intro s' h
  simp only [transitionAt, bind_eq_ok, pure, Except.pure, Except.ok.injEq] at h ⊢
  obtain ⟨order', horder, rfl⟩ := h
  exact ⟨_, ⟨order', horder, rfl⟩, callbacks, rfl⟩

section

variable (hs : strategy.IgnoresSnapshot) (hc : SameRules config config')

include hs hc

/-- Applying a fill, telling the strategy and submitting its answer. -/
theorem applyOrderFill_alike {candle : Candle} {n i : ℕ} {previous : List Candle}
    {order : SimulatedOrder} {fill : Fill} (hst : s.Alike t) :
    Simulates (applyOrderFill ctx hash strategy config snapshot candle n previous s i order fill)
      (applyOrderFill ctx hash strategy config' snapshot' candle n previous t i order fill) := by
  obtain ⟨callbacks, rfl⟩ := hst
  intro s' h
  simp only [applyOrderFill, bind_eq_ok, pure, Except.pure, Except.ok.injEq, Prod.exists] at h ⊢
  obtain ⟨mutation, hmutation, ledger, hledger, filled, hfilled, orders, horders, context, hcontext,
    intents, st, hanswer, orders', horders', u, hlimit, rfl⟩ := h
  refine ⟨_, ⟨mutation, hmutation, ledger, hledger, filled, hfilled, orders,
    hc.reconcileStopLoss.trans horders, _, contextFromPreviousHistory_alike ⟨_, rfl⟩ hcontext,
    intents, st, ?_, orders', hc.submitIntents.trans horders', u,
    (hc.checkEventLimit ⟨_, rfl⟩).trans hlimit, rfl⟩, _, rfl⟩
  rw [hs.onFill]
  exact hanswer

theorem fillQuoted_alike {candle : Candle} {n i : ℕ} {previous : List Candle}
    {order : SimulatedOrder} {q : ExecutionQuote} (hst : s.Alike t) :
    Simulates (fillQuoted ctx hash strategy config snapshot candle n previous s i order q)
      (fillQuoted ctx hash strategy config' snapshot' candle n previous t i order q) := by
  have hsame := hst
  obtain ⟨callbacks, rfl⟩ := hsame
  intro s' h
  simp only [fillQuoted, bind_eq_ok] at h
  obtain ⟨fill, hfill, h⟩ := h
  simp only [fillQuoted, hc.makeFill, hc.constraints, hc.riskLimits, hfill, ok_bind]
  split at h
  · next hrefused =>
    rw [if_pos hrefused]
    exact transitionAt_alike hst s' h
  · next haccepted =>
    rw [if_neg haccepted]
    exact applyOrderFill_alike hs hc hst s' h

theorem visitOrder_alike {candle : Candle} {n i : ℕ} {previous : List Candle} (hst : s.Alike t) :
    Simulates (visitOrder ctx hash strategy config snapshot candle n previous s i)
      (visitOrder ctx hash strategy config' snapshot' candle n previous t i) := by
  have hsame := hst
  obtain ⟨callbacks, rfl⟩ := hsame
  intro s' h
  unfold visitOrder at h ⊢
  dsimp only at h ⊢
  cases horder : s.orders[i]? with
  | none =>
    rw [horder] at h
    simp [FailureKind.raise] at h
  | some order =>
    rw [horder] at h
    dsimp only at h ⊢
    split at h
    · next hexpired =>
      rw [if_pos hexpired]
      exact transitionAt_alike hst s' h
    · next hday =>
      rw [if_neg hday, hc.execution]
      rw [bind_eq_ok] at h
      obtain ⟨q, hq, h⟩ := h
      rw [hq, ok_bind]
      cases q with
      | some q => exact fillQuoted_alike hs hc hst s' h
      | none =>
        dsimp only at h ⊢
        split at h
        · next hioc =>
          rw [if_pos hioc]
          exact transitionAt_alike hst s' h
        · next hioc =>
          rw [if_neg hioc]
          cases h
          exact ⟨_, rfl, callbacks, rfl⟩

/-! ### Candles -/

omit hs in
theorem submitPendingStart_alike {candle : Candle} (hst : s.Alike t) :
    Simulates (submitPendingStart ctx config s candle)
      (submitPendingStart ctx config' t candle) := by
  obtain ⟨callbacks, rfl⟩ := hst
  intro s' h
  unfold submitPendingStart at h ⊢
  dsimp only at h ⊢
  split at h
  · next hpending =>
    rw [if_pos hpending]
    simp only [bind_eq_ok, pure, Except.pure, Except.ok.injEq] at h ⊢
    obtain ⟨orders, horders, u, hlimit, rfl⟩ := h
    exact ⟨_, ⟨orders, hc.submitIntents.trans horders, u,
      (hc.checkEventLimit ⟨_, rfl⟩).trans hlimit, rfl⟩, callbacks, rfl⟩
  · next hnone =>
    rw [if_neg hnone]
    cases h
    exact ⟨_, rfl, callbacks, rfl⟩

theorem fillPhase_alike {candle : Candle} (hst : s.Alike t) :
    Simulates (fillPhase ctx hash strategy config snapshot s candle)
      (fillPhase ctx hash strategy config' snapshot' t candle) := by
  have hsame := hst
  obtain ⟨callbacks, rfl⟩ := hsame
  intro s' h
  simp only [fillPhase, bind_eq_ok] at h
  obtain ⟨s₁, hstart, h⟩ := h
  obtain ⟨t₁, hstart', hst₁⟩ := submitPendingStart_alike hc hst s₁ hstart
  have horders : t₁.orders = s₁.orders := by
    obtain ⟨callbacks₁, rfl⟩ := hst₁
    rfl
  simp only [fillPhase, hstart', ok_bind, horders]
  have hvisit : ∀ (b : EngineState σ) (i : ℕ) (b' c : EngineState σ), b.Alike c →
      visitOrder ctx hash strategy config snapshot candle s.candlesProcessed s.history b i = .ok b' →
      ∃ c', visitOrder ctx hash strategy config' snapshot' candle s.candlesProcessed s.history c i =
        .ok c' ∧ b'.Alike c' :=
    fun b i b' c hbc hb => visitOrder_alike hs hc hbc b' hb
  exact foldlM_simulates hvisit _ _ _ _ hst₁ h

theorem closePhase_alike {candle : Candle} {regime : Option MarketRegimePoint} (hst : s.Alike t) :
    Simulates (closePhase ctx hash strategy config snapshot regime s candle)
      (closePhase ctx hash strategy config' snapshot' regime t candle) := by
  obtain ⟨callbacks, rfl⟩ := hst
  intro s' h
  simp only [closePhase, bind_eq_ok, pure, Except.pure, Except.ok.injEq, Prod.exists] at h
  obtain ⟨s₁, hmark, s₂, hhalt, context, hcontext, intents, st, hanswer, orders, horders, u, hlimit,
    rfl⟩ := h
  have hmark' : markClose ctx hash { s with callbacks := callbacks } candle =
      .ok { s₁ with callbacks := callbacks } := by
    simp only [markClose, bind_eq_ok, pure, Except.pure, Except.ok.injEq] at hmark ⊢
    obtain ⟨portfolio, hportfolio, ledger, hledger, rfl⟩ := hmark
    exact ⟨portfolio, hportfolio, ledger, hledger, rfl⟩
  have hhalt' : haltOnDrawdown config' { s₁ with callbacks := callbacks } candle =
      .ok { s₂ with callbacks := callbacks } := by
    unfold haltOnDrawdown at hhalt ⊢
    dsimp only
    rw [hc.riskLimits]
    split at hhalt
    · next hdrawdown =>
      rw [if_pos hdrawdown]
      simp only [bind_eq_ok, pure, Except.pure, Except.ok.injEq] at hhalt ⊢
      obtain ⟨cancelled, hcancel, rfl⟩ := hhalt
      exact ⟨cancelled, hcancel, rfl⟩
    · next hcalm =>
      rw [if_neg hcalm]
      cases hhalt
      rfl
  simp only [closePhase, hmark', hhalt', ok_bind, bind_eq_ok, pure, Except.pure, Except.ok.injEq,
    Prod.exists, hc.historyWindow]
  refine ⟨_, ⟨_, contextOf_alike ⟨callbacks, rfl⟩ hcontext, intents, st, ?_, orders,
    hc.submitIntents.trans horders, u, (hc.checkEventLimit ⟨_, rfl⟩).trans hlimit, rfl⟩, _, rfl⟩
  rw [hs.onCandle]
  exact hanswer

theorem warmupCandle_alike {candle : Candle} {regime : Option MarketRegimePoint}
    (hst : s.Alike t) :
    Simulates (warmupCandle strategy config snapshot regime s candle)
      (warmupCandle strategy config' snapshot' regime t candle) := by
  obtain ⟨callbacks, rfl⟩ := hst
  intro s' h
  simp only [warmupCandle, bind_eq_ok] at h
  obtain ⟨context, hcontext, h⟩ := h
  have hcontext' : contextOf snapshot'
      { s with
        history := pushHistory config.historyWindow s.history candle
        callbacks := callbacks }
      ((s.contextCandlesSeen : ℤ) - 1) (some candle)
      (pushHistory config.historyWindow s.history candle) none false regime =
        .ok { context with snapshot := snapshot' } := contextOf_alike ⟨callbacks, rfl⟩ hcontext
  simp only [warmupCandle, hc.historyWindow, hcontext', ok_bind]
  cases hcallback : strategy.onWarmupCandle with
  | none =>
    rw [hcallback] at h
    simp [FailureKind.raise] at h
  | some callback =>
    rw [hcallback] at h
    simp only [bind_eq_ok, FailureKind.unless_eq_ok, exists_const, pure, Except.pure,
      Except.ok.injEq, Prod.exists] at h ⊢
    obtain ⟨answered, st, hanswer, hsilent, rfl⟩ := h
    refine ⟨_, ⟨answered, st, ?_, hsilent, rfl⟩, _, rfl⟩
    rw [hs.onWarmupCandle callback (Option.mem_def.mpr hcallback)]
    exact hanswer

/-- **One candle leads to alike states.** -/
theorem processCandle_alike {candle : Candle} (hst : s.Alike t) :
    Simulates (processCandle ctx hash strategy config snapshot s candle)
      (processCandle ctx hash strategy config' snapshot' t candle) := by
  obtain ⟨callbacks, rfl⟩ := hst
  intro s' h
  simp only [processCandle, bind_eq_ok, Prod.exists] at h
  obtain ⟨s₁, regime, hadmit, h⟩ := h
  have hadmit' : admitCandle ctx config' { s with callbacks := callbacks } candle =
      .ok ({ s₁ with callbacks := callbacks }, regime) := by
    simp only [admitCandle, bind_eq_ok, pure, Except.pure, Except.ok.injEq, Prod.exists,
      Prod.mk.injEq, hc.maxCandles] at hadmit ⊢
    obtain ⟨u, hcount, v, hvalid, point, acc, hregime, rfl, rfl⟩ := hadmit
    exact ⟨u, hcount, v, hvalid, point, acc, hregime, rfl, rfl⟩
  simp only [processCandle, hadmit', ok_bind, hc.evaluationStart]
  have hst₁ : s₁.Alike { s₁ with callbacks := callbacks } := ⟨callbacks, rfl⟩
  split at h
  · next hwarmup =>
    rw [if_pos hwarmup]
    exact warmupCandle_alike hs hc hst₁ s' h
  · next hevaluated =>
    rw [if_neg hevaluated]
    rw [bind_eq_ok] at h
    obtain ⟨s₂, hfill, h⟩ := h
    obtain ⟨t₂, hfill', hst₂⟩ := fillPhase_alike hs hc hst₁ s₂ hfill
    rw [hfill', ok_bind]
    exact closePhase_alike hs hc hst₂ s' h

/-- **The start leads to alike states.** -/
theorem startState_alike :
    Simulates (startState ctx hash strategy config snapshot)
      (startState ctx hash strategy config' snapshot') := by
  intro s' h
  simp only [startState, bind_eq_ok, pure, Except.pure, Except.ok.injEq, Prod.exists] at h
  obtain ⟨portfolio, hportfolio, ledger, hledger, context, hcontext, intents, st, hanswer, rfl⟩ := h
  simp only [startState, hc.initialCapital, hc.evaluationStart, hc.marketRegimePolicy, hportfolio,
    hledger, ok_bind, bind_eq_ok, pure, Except.pure, Except.ok.injEq, Prod.exists]
  refine ⟨_, ⟨_, contextOf_alike (EngineState.Alike.refl _) hcontext, intents, st, ?_, rfl⟩, _, rfl⟩
  rw [hs.onStart]
  exact hanswer

end

end

end Backtesting
end DryTrade
