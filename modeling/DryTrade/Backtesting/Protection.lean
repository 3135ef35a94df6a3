import DryTrade.Backtesting.OrderList

/-!
# The protective stop covers the position

Whatever a strategy does, the engine keeps exactly one open stop behind an open
position, for the whole of it and at the price its policy asks for, and none
behind a flat one.  The invariant does not depend on which orders a candle still
has to visit: an order that expires or is refused is no stop, a fill is followed
by a reconciliation that starts from no open stop, and nothing a strategy submits
carries the engine's tag.

## Main definitions

* `stopLossPrice` — the tick-truncated fixed-percent price.
* `Protection` — the invariant of the loop.
* `StopCovers` — what it says of one portfolio and one list of orders.

## Main results

* `EngineStep.protection`, `Reached.protection` — every step keeps the invariant.
* `stop_covers_position` — every reached point and every callback sees the position covered.
-/

namespace DryTrade
namespace Backtesting

open MarketData Indicators

/-! ### The stop a position needs -/

/-- The fixed-percent stop price below an average entry price, truncated to the tick. -/
def stopLossPrice (ctx : DecimalContext) (constraints : InstrumentConstraints)
    (percentage averageEntryPrice : ℚ) : ℚ :=
  ctx.mul (toIntegralDown (ctx.div (ctx.mul averageEntryPrice
    (ctx.sub 1 (ctx.div percentage 100))) constraints.priceTick)) constraints.priceTick

section

variable {ctx : DecimalContext} {policy : StopLossPolicy} {constraints : InstrumentConstraints}

theorem evaluateStopLoss_cases {portfolio : PortfolioSnapshot} {decision : Option (ℚ × ℚ)}
    (h : evaluateStopLoss ctx policy constraints portfolio = .ok decision) :
    ((policy.kind = .disabled ∨ portfolio.baseQuantity = 0) ∧ decision = none) ∨
      (policy.kind ≠ .disabled ∧ 0 < portfolio.baseQuantity ∧ ∃ percentage ∈ policy.value,
        decision = some (portfolio.baseQuantity,
          stopLossPrice ctx constraints percentage portfolio.averageEntryPrice)) := by
  unfold evaluateStopLoss at h
  split at h
  · next hidle =>
    cases h
    exact .inl ⟨hidle, rfl⟩
  · next hactive =>
    cases hvalue : policy.value with
    | none => rw [hvalue] at h; simp at h
    | some percentage =>
      rw [hvalue] at h
      simp only [bind_eq_ok, FailureKind.unless_eq_ok, exists_const, decide_eq_true_eq, pure,
        Except.pure, Except.ok.injEq] at h
      obtain ⟨-, hbase, rfl⟩ := h
      exact .inr ⟨(not_or.mp hactive).1, hbase, percentage, rfl, rfl⟩

/-- The stop depends on the quantity and the average price of the position only. -/
theorem evaluateStopLoss_congr {p q : PortfolioSnapshot} (hbase : q.baseQuantity = p.baseQuantity)
    (haverage : q.averageEntryPrice = p.averageEntryPrice) :
    evaluateStopLoss ctx policy constraints q = evaluateStopLoss ctx policy constraints p := by
  unfold evaluateStopLoss
  rw [hbase, haverage]

end

/-! ### The invariant -/

/-- The open stops are the one a decision asks for. -/
def StopsMatch (stops : List SimulatedOrder) : Option (ℚ × ℚ) → Prop
  | none => stops = []
  | some (quantity, stopPrice) => ∃ o, stops = [o] ∧ o.Protects quantity stopPrice

/-- **The invariant of the protective stop**: what carries the engine's tag is shaped as a stop,
and the open stops are what the policy asks for behind the current position. -/
structure Protection (ctx : DecimalContext) (config : BacktestConfig)
    (portfolio : PortfolioSnapshot) (orders : List SimulatedOrder) : Prop where
  shape : ∀ o ∈ orders, o.isEngineStop = true → o.StopShape
  matched : ∃ decision, evaluateStopLoss ctx (stopLossPolicyFor config.riskLimits)
    config.constraints portfolio = .ok decision ∧ StopsMatch (openStops orders) decision

section

variable {ctx : DecimalContext} {hash : String → RawLedgerEntry → String}
variable {σ : Type} {strategy : Strategy σ} {config : BacktestConfig} {snapshot : DatasetSnapshot}
variable {portfolio : PortfolioSnapshot} {orders : List SimulatedOrder}

theorem Protection.congr (h : Protection ctx config portfolio orders) {q : PortfolioSnapshot}
    (hbase : q.baseQuantity = portfolio.baseQuantity)
    (haverage : q.averageEntryPrice = portfolio.averageEntryPrice) :
    Protection ctx config q orders := by
  refine ⟨h.shape, ?_⟩
  rw [evaluateStopLoss_congr hbase haverage]
  exact h.matched

/-- A flat portfolio without orders is protected. -/
theorem Protection.flat (hbase : portfolio.baseQuantity = 0) : Protection ctx config portfolio [] where
  shape := by simp
  matched := ⟨none, by simp [evaluateStopLoss, hbase], rfl⟩

/-- There is at most one open stop. -/
theorem Protection.length_le (h : Protection ctx config portfolio orders) :
    (openStops orders).length ≤ 1 := by
  obtain ⟨decision, -, hmatch⟩ := h.matched
  cases decision with
  | none =>
    have hnil : openStops orders = [] := hmatch
    simp [hnil]
  | some d =>
    obtain ⟨o, ho, -⟩ := hmatch
    simp [ho]

/-- An open stop is for the whole position. -/
theorem Protection.quantity (h : Protection ctx config portfolio orders) {o : SimulatedOrder}
    (ho : o ∈ orders) (hopen : o.status = .open) (hstop : o.isEngineStop = true) :
    o.intent.quantity = portfolio.baseQuantity ∧ o.intent.side = .sell := by
  obtain ⟨decision, hdecision, hmatch⟩ := h.matched
  have hmem : o ∈ openStops orders := mem_openStops.mpr ⟨ho, hopen, hstop⟩
  rcases evaluateStopLoss_cases hdecision with ⟨-, rfl⟩ | ⟨-, -, percentage, -, rfl⟩
  · have hnil : openStops orders = [] := hmatch
    rw [hnil] at hmem
    cases hmem
  · obtain ⟨x, hx, hprotects⟩ := hmatch
    rw [hx, List.mem_singleton] at hmem
    exact ⟨hmem ▸ hprotects.quantity, hmem ▸ hprotects.shape.side⟩

/-- Orders of the strategy may be added. -/
theorem Protection.append (h : Protection ctx config portfolio orders) {added : List SimulatedOrder}
    (hadded : ∀ o ∈ added, o.isEngineStop = false) :
    Protection ctx config portfolio (orders ++ added) := by
  refine ⟨fun o ho hstop => ?_, ?_⟩
  · rcases List.mem_append.mp ho with ho | ho
    · exact h.shape o ho hstop
    · rw [hadded o ho] at hstop
      cases hstop
  · rw [openStops_append, openStops_eq_nil hadded, List.append_nil]
    exact h.matched

/-- A transition keeps the shape of every tagged order. -/
theorem shape_moved (h : ∀ o ∈ orders, o.isEngineStop = true → o.StopShape) {o : SimulatedOrder}
    (ho : o ∈ orders) (status : OrderStatus) (t : Instant) (code : Option String)
    (hstop : (o.moved status t code).isEngineStop = true) : (o.moved status t code).StopShape := by
  rw [o.moved_isEngineStop] at hstop
  obtain ⟨hside, htype, htif⟩ := h o ho hstop
  have hintent := (o.moved_creation status t code).2.2.2.2.2
  exact ⟨hintent ▸ hside, hintent ▸ htype, hintent ▸ htif⟩

theorem shape_set (h : ∀ o ∈ orders, o.isEngineStop = true → o.StopShape) {o o' : SimulatedOrder}
    {i : ℕ} {status : OrderStatus} {t : Instant} {code : Option String} (hi : orders[i]? = some o)
    (ho : transitionOrder o status t code = .ok o') :
    ∀ x ∈ orders.set i o', x.isEngineStop = true → x.StopShape := by
  obtain ⟨-, rfl⟩ := transitionOrder_eq_ok.mp ho
  intro x hx hstop
  rcases List.mem_or_eq_of_mem_set hx with hx | rfl
  · exact h x hx hstop
  · exact shape_moved h (List.mem_of_getElem? hi) status t code hstop

theorem shape_transitionWhere (h : ∀ o ∈ orders, o.isEngineStop = true → o.StopShape)
    (p : SimulatedOrder → Bool) (status : OrderStatus) (t : Instant) :
    ∀ o ∈ orders.map fun o => if p o then o.moved status t none else o,
      o.isEngineStop = true → o.StopShape := by
  intro o ho hstop
  obtain ⟨x, hx, rfl⟩ := List.mem_map.mp ho
  by_cases hp : p x = true
  · rw [if_pos hp] at hstop ⊢
    exact shape_moved h hx status t none hstop
  · rw [if_neg hp] at hstop ⊢
    exact h x hx hstop

/-- **Reconciling establishes the invariant**, whatever was open before. -/
theorem Protection.reconciled {p : PortfolioState} {orders' : List SimulatedOrder} {t : Instant}
    {idx : ℤ} (hshape : ∀ o ∈ orders, o.isEngineStop = true → o.StopShape)
    (h : reconcileStopLoss ctx config p orders t idx = .ok orders') :
    Protection ctx config p.snapshot orders' := by
  obtain ⟨decision, added, hdecision, rfl, hadded⟩ := reconcileStopLoss_cases h
  cases decision with
  | none =>
    have hnil : added = [] := hadded
    rw [hnil, List.append_nil]
    refine ⟨shape_transitionWhere hshape _ _ _, none, hdecision, ?_⟩
    exact openStops_cancelled orders t
  | some d =>
    obtain ⟨o, rfl, hprotects⟩ := hadded
    refine ⟨fun x hx hstop => ?_, some d, hdecision, o, ?_, hprotects⟩
    · rcases List.mem_append.mp hx with hx | hx
      · exact shape_transitionWhere hshape _ _ _ x hx hstop
      · rw [List.mem_singleton.mp hx]
        exact hprotects.shape
    · rw [openStops_append, openStops_cancelled, List.nil_append, openStops, List.filter_cons_of_pos]
      · rfl
      · simp [SimulatedOrder.isOpenStop, hprotects.status, hprotects.isEngineStop]

/-- An order that is visited and not filled is no open stop afterwards, nor was it before. -/
theorem Protection.transitionAt (s : EngineState σ) {s' : EngineState σ} {i : ℕ}
    {o : SimulatedOrder} {status : OrderStatus} {t : Instant}
    (h : Protection ctx config s.portfolio.snapshot s.orders) (hi : s.orders[i]? = some o)
    (hkind : o.intent.timeInForce ≠ .gtc ∨ o.isEngineStop = false) (hstatus : status ≠ .open)
    (hmove : Backtesting.transitionAt s i o status t = .ok s') :
    Protection ctx config s'.portfolio.snapshot s'.orders := by
  simp only [Backtesting.transitionAt, bind_eq_ok, pure, Except.pure, Except.ok.injEq] at hmove
  obtain ⟨o', ho', rfl⟩ := hmove
  refine ⟨shape_set h.shape hi ho', ?_⟩
  have huntagged : o.isEngineStop = false := by
    rcases hkind with htif | hfalse
    · by_contra hstop
      rw [Bool.not_eq_false] at hstop
      exact htif (h.shape o (List.mem_of_getElem? hi) hstop).timeInForce
    · exact hfalse
  obtain ⟨-, -, hreached⟩ := transitionOrder_evolves ho'
  have ho : o.isOpenStop = false := by simp [SimulatedOrder.isOpenStop, huntagged]
  have hmoved : o'.isOpenStop = false := by simp [SimulatedOrder.isOpenStop, hreached, hstatus]
  change ∃ decision, evaluateStopLoss ctx (stopLossPolicyFor config.riskLimits) config.constraints
    s.portfolio.snapshot = .ok decision ∧ StopsMatch (openStops (s.orders.set i o')) decision
  rw [openStops_set hi ho hmoved]
  exact h.matched

/-- Cancelling everything but the stop keeps the invariant. -/
theorem Protection.cancelled {orders' : List SimulatedOrder} {t : Instant}
    (h : Protection ctx config portfolio orders)
    (hcancel : cancelOpenOrders orders t true = .ok orders') :
    Protection ctx config portfolio orders' := by
  obtain ⟨-, rfl⟩ := transitionWhere_eq_ok.mp hcancel
  refine ⟨shape_transitionWhere h.shape _ _ _, ?_⟩
  rw [openStops_preserved]
  exact h.matched

/-! ### Every step keeps it -/

/-- The state of a point is protected. -/
def EnginePoint.Protected (ctx : DecimalContext) (config : BacktestConfig) (p : EnginePoint σ) :
    Prop :=
  Protection ctx config p.state.portfolio.snapshot p.state.orders

/-- **Every step keeps the position protected.** -/
theorem EngineStep.protected {p q : EnginePoint σ} (hp : p.Protected ctx config)
    (h : EngineStep ctx hash strategy config snapshot p q) : q.Protected ctx config := by
  cases h with
  | started answer =>
    obtain ⟨intents, st, rfl⟩ := answerStart_cases answer
    exact hp
  | warm admitted early ask =>
    obtain ⟨acc, -, -, rfl⟩ := admitCandle_cases admitted
    exact hp
  | warmed answer =>
    obtain ⟨st, rfl⟩ := answerWarmup_cases answer
    exact hp
  | enter admitted evaluated submit =>
    obtain ⟨acc, -, -, rfl⟩ := admitCandle_cases admitted
    obtain ⟨added, hadded, rfl, -⟩ := submitPendingStart_added submit
    exact Protection.append hp fun o ho => (hadded o ho).untagged
  | pass unfilled visit =>
    rcases visitOrder_pass unfilled visit with rfl | ⟨o, status, t, hi, hkind, hstatus, hmove⟩
    · exact hp
    · exact Protection.transitionAt _ hp hi hkind hstatus hmove
  | fill attempt book ask =>
    obtain ⟨mutation, filled, -, -, hfilled, horders, hportfolio, -⟩ := bookFill_cases book
    unfold EnginePoint.Protected EnginePoint.state
    rw [hportfolio]
    exact Protection.reconciled (shape_set hp.shape attempt.order_at hfilled) horders
  | told answer =>
    obtain ⟨added, st, hadded, rfl⟩ := answerFill_cases answer
    exact Protection.append hp fun o ho => (hadded o ho).untagged
  | @close c s s' context mark ask =>
    obtain ⟨hmark, -, -, -, horders⟩ := markAndHalt_cases mark
    obtain ⟨-, -, hmarked⟩ := markToMarket_eq_ok.mp hmark
    have hp' : Protection ctx config s'.portfolio.snapshot s.orders := by
      rw [hmarked]
      have hbefore : Protection ctx config s.portfolio.snapshot s.orders := hp
      exact hbefore.congr rfl rfl
    rcases horders with ⟨-, hsame⟩ | ⟨-, -, hcancel⟩
    · unfold EnginePoint.Protected EnginePoint.state
      rw [hsame]
      exact hp'
    · exact hp'.cancelled hcancel
  | closed answer =>
    obtain ⟨added, st, hadded, rfl⟩ := answerCandle_cases answer
    exact Protection.append hp fun o ho => (hadded o ho).untagged

theorem Reached.protected {p : EnginePoint σ} (h : Reached ctx hash strategy config snapshot p) :
    p.Protected ctx config := by
  refine h.induct (fun s context hopen => ?_) fun p q hp hstep => hstep.protected hp
  obtain ⟨hportfolio, -, horders, -⟩ := openState_cases hopen
  unfold EnginePoint.Protected EnginePoint.state
  rw [horders]
  exact Protection.flat (initializePortfolio_eq_ok hportfolio).2.2

/-! ### What callbacks see -/

/-- A context shows the portfolio and the open orders of the state it is built from. -/
theorem contextOf_view {s : EngineState σ} {i : ℤ} {current : Option Candle}
    {history : List Candle} {last : Option Fill} {halt : Bool} {regime : Option MarketRegimePoint}
    {context : StrategyContext}
    (h : contextOf snapshot s i current history last halt regime = .ok context) :
    context.portfolio = s.portfolio.snapshot ∧ context.openOrders = openOrders s.orders ∧
      context.riskHalt = halt := by
  simp only [contextOf, StrategyContext.validate, bind_eq_ok] at h
  obtain ⟨-, -, h⟩ := h
  cases current with
  | none =>
    simp only [bind_eq_ok, pure, Except.pure, Except.ok.injEq] at h
    obtain ⟨-, -, -, -, rfl⟩ := h
    exact ⟨rfl, rfl, rfl⟩
  | some c =>
    simp only [bind_eq_ok, pure, Except.pure, Except.ok.injEq] at h
    obtain ⟨-, -, -, -, -, -, -, -, -, -, rfl⟩ := h
    exact ⟨rfl, rfl, rfl⟩

theorem contextFromPreviousHistory_view {s : EngineState σ} {previous : List Candle} {fill : Fill}
    {context : StrategyContext}
    (h : contextFromPreviousHistory snapshot s previous fill = .ok context) :
    context.portfolio = s.portfolio.snapshot ∧ context.openOrders = openOrders s.orders ∧
      context.riskHalt = s.riskHalt := by
  unfold contextFromPreviousHistory at h
  cases hlast : previous.getLast? with
  | none =>
    rw [hlast] at h
    exact contextOf_view h
  | some current =>
    rw [hlast] at h
    exact contextOf_view h

/-- The context of a point shows its state. -/
def EnginePoint.Shows (p : EnginePoint σ) : Prop :=
  ∀ context ∈ p.context, context.portfolio = p.state.portfolio.snapshot ∧
    context.openOrders = openOrders p.state.orders

theorem Reached.shows {p : EnginePoint σ} (h : Reached ctx hash strategy config snapshot p) :
    p.Shows := by
  refine h.induct (fun s context hopen => ?_) fun p q _ hstep => ?_
  · obtain ⟨-, -, -, -, hcontext⟩ := openState_cases hopen
    rintro _ ⟨⟩
    exact ⟨(contextOf_view hcontext).1, (contextOf_view hcontext).2.1⟩
  · cases hstep with
    | started answer => simp [EnginePoint.Shows, EnginePoint.context]
    | warm admitted early ask =>
      rintro _ ⟨⟩
      exact ⟨(contextOf_view ask).1, (contextOf_view ask).2.1⟩
    | warmed answer => simp [EnginePoint.Shows, EnginePoint.context]
    | enter admitted evaluated submit => simp [EnginePoint.Shows, EnginePoint.context]
    | pass unfilled visit => simp [EnginePoint.Shows, EnginePoint.context]
    | fill attempt book ask =>
      rintro _ ⟨⟩
      obtain ⟨hportfolio, horders, -⟩ := contextFromPreviousHistory_view ask
      exact ⟨hportfolio, horders⟩
    | told answer => simp [EnginePoint.Shows, EnginePoint.context]
    | close mark ask =>
      rintro _ ⟨⟩
      exact ⟨(contextOf_view ask).1, (contextOf_view ask).2.1⟩
    | closed answer => simp [EnginePoint.Shows, EnginePoint.context]

/-- The open orders of a list hold the same open stops. -/
theorem openStops_openOrders (orders : List SimulatedOrder) :
    (openStops (openOrders orders)).Perm (openStops orders) := by
  have hfilter : openStops (orders.filter fun order => order.status == .open) = openStops orders := by
    unfold openStops
    rw [List.filter_filter]
    refine List.filter_congr fun o _ => ?_
    cases ho : o.status == .open <;> simp [SimulatedOrder.isOpenStop, ho]
  rw [← hfilter]
  exact (List.perm_insertionSort _ _).filter _

/-! ### The cover -/

/-- **The stop covers the position**: behind an open position there is exactly one open order
with the engine's tag, a GTC sell stop for the whole of it at the fixed-percent price below its
average entry price; behind a flat one there is none. -/
structure StopCovers (ctx : DecimalContext) (config : BacktestConfig) (percentage : ℚ)
    (portfolio : PortfolioSnapshot) (orders : List SimulatedOrder) : Prop where
  long : 0 < portfolio.baseQuantity → ∃ o, openStops orders = [o] ∧
    o.Protects portfolio.baseQuantity
      (stopLossPrice ctx config.constraints percentage portfolio.averageEntryPrice)
  flat : portfolio.baseQuantity = 0 → openStops orders = []

theorem Protection.covers {policy : StopLossPolicy} {percentage : ℚ}
    (hpolicy : config.riskLimits.stopLoss = some policy) (hvalue : policy.value = some percentage)
    (h : Protection ctx config portfolio orders) :
    StopCovers ctx config percentage portfolio orders := by
  have henabled : policy.kind ≠ .disabled := config.riskLimits.stopLoss_extended policy hpolicy
  have hfor : stopLossPolicyFor config.riskLimits = policy := by
    rw [stopLossPolicyFor, hpolicy, Option.getD_some]
  obtain ⟨decision, hdecision, hmatch⟩ := h.matched
  rw [hfor] at hdecision
  rcases evaluateStopLoss_cases hdecision with ⟨hidle, rfl⟩ | ⟨-, hbase, price, hprice, rfl⟩
  · have hflat := hidle.resolve_left henabled
    exact ⟨fun hlong => absurd hflat hlong.ne', fun _ => hmatch⟩
  · rw [Option.mem_def, hvalue, Option.some.injEq] at hprice
    exact ⟨fun _ => hprice ▸ hmatch, fun hflat => absurd hflat hbase.ne'⟩

/-- The cover can be read off the open orders alone. -/
theorem StopCovers.openOrders {percentage : ℚ} (h : StopCovers ctx config percentage portfolio orders) :
    StopCovers ctx config percentage portfolio (Backtesting.openOrders orders) := by
  have hperm := openStops_openOrders orders
  refine ⟨fun hlong => ?_, fun hflat => ?_⟩
  · obtain ⟨o, ho, hprotects⟩ := h.long hlong
    rw [ho] at hperm
    exact ⟨o, List.perm_singleton.mp hperm, hprotects⟩
  · rw [h.flat hflat] at hperm
    exact List.perm_nil.mp hperm

/-- **The protective stop covers the position** at every point of every run of the loop, as the
engine keeps it and as every callback is shown it, and after every processed candle; and no
order that a strategy submits carries the engine's tag. -/
theorem stop_covers_position (ctx : DecimalContext) (hash : String → RawLedgerEntry → String)
    (strategy : Strategy σ) (config : BacktestConfig) (snapshot : DatasetSnapshot)
    {policy : StopLossPolicy} {percentage : ℚ}
    (hpolicy : config.riskLimits.stopLoss = some policy) (hvalue : policy.value = some percentage) :
    (∀ p, Reached ctx hash strategy config snapshot p →
      StopCovers ctx config percentage p.state.portfolio.snapshot p.state.orders ∧
        ∀ context ∈ p.context, StopCovers ctx config percentage context.portfolio context.openOrders) ∧
    (∀ candles s, runCandles ctx hash strategy config snapshot candles = .ok s →
      StopCovers ctx config percentage s.portfolio.snapshot s.orders) ∧
    ∀ idx t price portfolio halt intents orders orders',
      submitIntents ctx config idx t price portfolio halt intents orders = .ok orders' →
        ∃ added, orders' = orders ++ added ∧ ∀ o ∈ added, o.isEngineStop = false := by
  refine ⟨fun p hp => ?_, fun candles s hrun => ?_, fun idx t price portfolio halt intents os os' h => ?_⟩
  · have hcovers := Protection.covers hpolicy hvalue hp.protected
    refine ⟨hcovers, fun context hcontext => ?_⟩
    obtain ⟨hportfolio, horders⟩ := hp.shows context hcontext
    rw [hportfolio, horders]
    exact hcovers.openOrders
  · exact Protection.covers hpolicy hvalue (runCandles_reached hrun).protected
  · obtain ⟨added, rfl, hadded⟩ := submitIntents_cases h
    exact ⟨added, rfl, fun o ho => (hadded o ho).untagged⟩

end

/-! ### A sample run

The strategy that buys one unit, under a stop ten percent below its entry. -/

/-- A stop ten percent below the average entry price. -/
def tenPercentStop : StopLossPolicy where
  kind := .fixedPercent
  value := some 10
  disabled_plain := by simp
  value_pos := fun _ => ⟨10, rfl, by norm_num⟩
  percent_lt := fun _ v hv => by
    cases hv
    norm_num

/-- The sample configuration with that stop. -/
def protectedConfig : BacktestConfig :=
  let base := holdConfig 0 validBps_zero false
  { base with
    riskLimits := { base.riskLimits with
      stopLoss := some tenPercentStop
      stopLoss_extended := by
        rintro p ⟨⟩
        simp [tenPercentStop] } }

/-- The stop covers the unit that the sample strategy has bought by its second candle. -/
theorem stop_covers_bought_unit :
    ∃ s, runCandles .exact (fun _ _ => "") buyAndHold protectedConfig holdSnapshot
        [dailyCandle 0 100 100, dailyCandle 1 100 100] = .ok s ∧
      0 < s.portfolio.baseQuantity ∧
      StopCovers .exact protectedConfig 10 s.portfolio.snapshot s.orders := by
  have hlong : (runCandles .exact (fun _ _ => "") buyAndHold protectedConfig holdSnapshot
      [dailyCandle 0 100 100, dailyCandle 1 100 100]).map
        (fun s => decide (0 < s.portfolio.baseQuantity)) = .ok true := by
    decide +kernel
  cases hrun : runCandles .exact (fun _ _ => "") buyAndHold protectedConfig holdSnapshot
      [dailyCandle 0 100 100, dailyCandle 1 100 100] with
  | error e =>
    rw [hrun] at hlong
    cases hlong
  | ok s =>
    rw [hrun] at hlong
    have hpos : 0 < s.portfolio.baseQuantity := by simpa [Except.map] using hlong
    have hpolicy : protectedConfig.riskLimits.stopLoss = some tenPercentStop := rfl
    exact ⟨s, rfl, hpos, (stop_covers_position .exact (fun _ _ => "") buyAndHold protectedConfig
      holdSnapshot hpolicy rfl).2.1 _ s hrun⟩

example : (run .exact (fun _ _ => "") buyAndHold protectedConfig
    (readerOf [dailyCandle 0 100 100, dailyCandle 1 100 100, dailyCandle 2 100 80]) false).map
      (fun r => r.1.orders.map fun o => (o.status, o.intent.stopPrice)) =
    .ok [(.filled, none), (.filled, some 90)] := by
  decide +kernel

end Backtesting
end DryTrade
