import DryTrade.Backtesting.Points

/-!
# The list of orders

What the operations of the engine do to the list of orders, the protective stops
that are open in it, and what the halves of an operation leave of the state.

## Main definitions

* `openStops` — the engine's own stops that are still open.
* `Submitted` — an order that the intents of a strategy became.

## Main results

* `transitionWhere_eq_ok`, `submitIntents_cases`, `placeStopLoss_cases`, `reconcileStopLoss_cases`
  — what each operation leaves.
* `bookFill_cases`, `markAndHalt_cases`, `answerFill_cases`, `answerCandle_cases` — the halves
  around a callback.
-/

namespace DryTrade
namespace Backtesting

open MarketData Indicators

/-! ### Open stops -/

/-- The order is an OPEN stop of the engine. -/
def SimulatedOrder.isOpenStop (order : SimulatedOrder) : Bool :=
  order.status == .open && order.isEngineStop

/-- The engine's own stops that are OPEN. -/
def openStops (orders : List SimulatedOrder) : List SimulatedOrder :=
  orders.filter SimulatedOrder.isOpenStop

@[simp] theorem openStops_nil : openStops [] = [] := rfl

@[simp] theorem openStops_append (orders added : List SimulatedOrder) :
    openStops (orders ++ added) = openStops orders ++ openStops added :=
  List.filter_append ..

theorem mem_openStops {orders : List SimulatedOrder} {o : SimulatedOrder} :
    o ∈ openStops orders ↔ o ∈ orders ∧ o.status = .open ∧ o.isEngineStop = true := by
  simp [openStops, SimulatedOrder.isOpenStop]

theorem openStops_eq_nil {orders : List SimulatedOrder}
    (h : ∀ o ∈ orders, o.isEngineStop = false) : openStops orders = [] := by
  refine List.filter_eq_nil_iff.mpr fun o ho => ?_
  simp [SimulatedOrder.isOpenStop, h o ho]

/-- Replacing an order that is no open stop by another such order keeps the open stops. -/
theorem openStops_set {orders : List SimulatedOrder} {i : ℕ} {o o' : SimulatedOrder}
    (hi : orders[i]? = some o) (ho : o.isOpenStop = false) (ho' : o'.isOpenStop = false) :
    openStops (orders.set i o') = openStops orders := by
  induction orders generalizing i with
  | nil => rfl
  | cons x rest ih =>
    cases i with
    | zero =>
      have hx : x = o := by simpa using hi
      rw [List.set_cons_zero, openStops, List.filter_cons_of_neg (by simp [ho']), openStops,
        List.filter_cons_of_neg (by simp [hx, ho])]
    | succ i =>
      have hrest := ih (by simpa using hi)
      rw [List.set_cons_succ]
      unfold openStops at hrest ⊢
      rw [List.filter_cons, List.filter_cons, hrest]

/-- Two different positions cannot both hold the only open stop. -/
theorem position_unique {orders : List SimulatedOrder} {i j : ℕ} {o o' : SimulatedOrder}
    (hone : (openStops orders).length ≤ 1) (hi : orders[i]? = some o) (hj : orders[j]? = some o')
    (ho : o.isOpenStop = true) (ho' : o'.isOpenStop = true) : i = j := by
  induction orders generalizing i j with
  | nil => simp at hi
  | cons x rest ih =>
    have hlater : ∀ {k : ℕ} {y : SimulatedOrder}, rest[k]? = some y → y.isOpenStop = true →
        x.isOpenStop = true → False := by
      intro k y hk hy hx
      have hmem : y ∈ openStops rest := List.mem_filter.mpr ⟨List.mem_of_getElem? hk, hy⟩
      have hpos := List.length_pos_of_mem hmem
      rw [openStops, List.filter_cons_of_pos hx, List.length_cons] at hone
      unfold openStops at hpos
      omega
    cases i with
    | zero =>
      cases j with
      | zero => rfl
      | succ j =>
        have hx : x = o := by simpa using hi
        exact (hlater (by simpa using hj) ho' (hx ▸ ho)).elim
    | succ i =>
      cases j with
      | zero =>
        have hx : x = o' := by simpa using hj
        exact (hlater (by simpa using hi) ho (hx ▸ ho')).elim
      | succ j =>
        have hrest : (openStops rest).length ≤ 1 := by
          refine le_trans ?_ hone
          exact List.Sublist.length_le (List.Sublist.filter _ (List.sublist_cons_self x rest))
        have hij : i = j := ih hrest (by simpa using hi) (by simpa using hj)
        rw [hij]

/-! ### Transitions -/

theorem SimulatedOrder.moved_isEngineStop (o : SimulatedOrder) (status : OrderStatus) (t : Instant)
    (code : Option String) : (o.moved status t code).isEngineStop = o.isEngineStop := by
  unfold SimulatedOrder.isEngineStop
  rw [(o.moved_creation status t code).2.2.2.2.2]

/-- A transition of every order that satisfies `p` is allowed for each of them, and moves
exactly these. -/
theorem transitionWhere_eq_ok {p : SimulatedOrder → Bool} {status : OrderStatus} {t : Instant} :
    ∀ {orders orders' : List SimulatedOrder}, transitionWhere p status t orders = .ok orders' ↔
      (∀ o ∈ orders, p o = true → status ∈ allowedTransitions o.status) ∧
        orders' = orders.map fun o => if p o then o.moved status t none else o := by
  intro orders
  induction orders with
  | nil =>
    intro orders'
    simp only [transitionWhere, Except.ok.injEq, List.not_mem_nil, false_implies, implies_true,
      List.map_nil, true_and]
    exact eq_comm
  | cons x rest ih =>
    intro orders'
    have hhead : ∀ {x' : SimulatedOrder}, transitionIf p status t x = .ok x' ↔
        (p x = true → status ∈ allowedTransitions x.status) ∧
          x' = if p x then x.moved status t none else x := by
      intro x'
      unfold transitionIf
      by_cases hp : p x = true
      · simp only [hp, if_true, transitionOrder_eq_ok, forall_const]
      · simp only [hp, Bool.false_eq_true, if_false, Except.ok.injEq, IsEmpty.forall_iff, true_and]
        exact eq_comm
    simp only [transitionWhere, bind_eq_ok, pure, Except.pure, Except.ok.injEq, hhead, ih,
      List.forall_mem_cons, List.map_cons]
    constructor
    · rintro ⟨_, ⟨hx, rfl⟩, _, ⟨hrest, rfl⟩, rfl⟩
      exact ⟨⟨hx, hrest⟩, rfl⟩
    · rintro ⟨⟨hx, hrest⟩, rfl⟩
      exact ⟨_, ⟨hx, rfl⟩, _, ⟨hrest, rfl⟩, rfl⟩

/-- Cancelling the open stops leaves none. -/
theorem openStops_cancelled (orders : List SimulatedOrder) (t : Instant) :
    openStops (orders.map fun o => if o.status == .open && o.isEngineStop then
      o.moved .cancelled t none else o) = [] := by
  refine List.filter_eq_nil_iff.mpr fun o ho => ?_
  obtain ⟨x, -, rfl⟩ := List.mem_map.mp ho
  by_cases hx : (x.status == .open && x.isEngineStop) = true
  · rw [if_pos hx, SimulatedOrder.isOpenStop, x.moved_status]
    simp
  · rw [if_neg hx]
    exact hx

/-- Cancelling everything but the open stops keeps them. -/
theorem openStops_preserved (orders : List SimulatedOrder) (t : Instant) :
    openStops (orders.map fun o => if o.status == .open && !(true && o.isEngineStop) then
      o.moved .cancelled t none else o) = openStops orders := by
  induction orders with
  | nil => rfl
  | cons x rest ih =>
    unfold openStops at ih ⊢
    rw [List.map_cons, List.filter_cons, List.filter_cons, ih]
    by_cases hx : (x.status == .open && !(true && x.isEngineStop)) = true
    · have hmoved : (x.moved .cancelled t none).isOpenStop = false := by
        rw [SimulatedOrder.isOpenStop, x.moved_status]
        rfl
      have hkept : x.isOpenStop = false := by
        unfold SimulatedOrder.isOpenStop
        cases hstop : x.isEngineStop with
        | false => simp
        | true => simp [hstop] at hx
      simp only [if_pos hx, hmoved, hkept, Bool.false_eq_true, if_false]
    · rw [if_neg hx]

section

variable {ctx : DecimalContext} {hash : String → RawLedgerEntry → String}
variable {σ : Type} {strategy : Strategy σ} {config : BacktestConfig} {snapshot : DatasetSnapshot}

/-! ### Submitted intents -/

/-- An accepted intent is the one evaluated, with another quantity, and no halt is active. -/
theorem evaluateOrder_accepted {constraints : InstrumentConstraints} {limits : RiskLimits}
    {fees : FeeModel} {slippage : SlippageModel} {intent normalized : OrderIntent}
    {portfolio : PortfolioSnapshot} {price notional : ℚ} {opened total : ℕ} {halt : Bool}
    (h : evaluateOrder ctx constraints limits fees slippage intent portfolio price opened total halt =
      .ok (.accepted normalized notional)) :
    halt = false ∧ ∃ q hq, normalized = intent.withQuantity q hq := by
  unfold evaluateOrder at h
  cases halt with
  | true => simp at h
  | false =>
    simp only [Bool.false_eq_true, if_false] at h
    split at h
    · simp at h
    · split at h
      · simp at h
      · rw [bind_eq_ok] at h
        obtain ⟨quantity, -, h⟩ := h
        unfold evaluateQuantity at h
        split at h
        · simp at h
        · split at h
          · simp at h
          · split at h
            · simp at h
            · next hquantity _ _ =>
              simp only [bind_eq_ok, pure, Except.pure, Except.ok.injEq] at h
              obtain ⟨estimated, -, h⟩ := h
              refine ⟨rfl, quantity, not_le.mp (not_or.mp hquantity).2, ?_⟩
              unfold evaluateNotional at h
              dsimp only at h
              split at h
              · cases h
              · split at h
                · cases h
                · split at h
                  · cases h
                  · split at h
                    · split at h
                      · cases h
                      · split at h
                        · cases h
                        · cases h
                          rfl
                    · split at h
                      · cases h
                      · cases h
                        rfl

/-- Under a halt an intent is refused for the halt. -/
theorem evaluateOrder_halted {constraints : InstrumentConstraints} {limits : RiskLimits}
    {fees : FeeModel} {slippage : SlippageModel} {intent : OrderIntent}
    {portfolio : PortfolioSnapshot} {price : ℚ} {opened total : ℕ} :
    evaluateOrder ctx constraints limits fees slippage intent portfolio price opened total true =
      .ok (.rejected .riskHaltActive 0) := rfl

/-- An order that an intent of a strategy became: it never carries the tag of the engine, and
under a halt it is refused. -/
structure Submitted (halt : Bool) (o : SimulatedOrder) : Prop where
  untagged : o.isEngineStop = false
  status : o.status = .open ∨ o.status = .rejected
  halted : halt = true → o.status = .rejected ∧
    (o.rejectionCode = some RiskRejectionCode.riskHaltActive.value ∨
      o.rejectionCode = some RiskRejectionCode.invalidQuantity.value)

theorem createOrder_eq_ok {intent : OrderIntent} {sequence : ℕ} {t : Instant} {idx : ℤ}
    {o : SimulatedOrder} (h : createOrder intent sequence t idx = .ok o) :
    o.intent = intent ∧ o.status = .created ∧ o.createdSequence = sequence ∧
      o.eligibleCandleIndex = idx + 1 ∧ o.orderId = "O" ++ padSequence sequence ∧
      o.createdAt = t := by
  simp only [createOrder, bind_eq_ok, FailureKind.unless_eq_ok, exists_const, pure, Except.pure,
    Except.ok.injEq] at h
  obtain ⟨-, rfl⟩ := h
  exact ⟨rfl, rfl, rfl, rfl, rfl, rfl⟩

theorem decideIntent_cases {intent sized : OrderIntent} {portfolio : PortfolioSnapshot} {price : ℚ}
    {orders : List SimulatedOrder} {halt : Bool} {decision : RiskDecision}
    (h : decideIntent ctx config intent portfolio price orders halt = .ok (decision, sized)) :
    sized.clientTag = intent.clientTag ∧
      (∀ normalized notional, decision = .accepted normalized notional →
        halt = false ∧ normalized.clientTag = intent.clientTag) ∧
      ∀ code notional, decision = .rejected code notional → halt = true →
        code = .riskHaltActive ∨ code = .invalidQuantity := by
  simp only [decideIntent, bind_eq_ok] at h
  obtain ⟨sizing, -, h⟩ := h
  split at h
  · next hpos =>
    simp only [bind_eq_ok, pure, Except.pure, Except.ok.injEq, Prod.mk.injEq] at h
    obtain ⟨d, hd, rfl, rfl⟩ := h
    refine ⟨rfl, fun normalized notional heq => ?_, fun code notional heq hhalt => ?_⟩
    · rw [heq] at hd
      obtain ⟨hhalt, q, hq, rfl⟩ := evaluateOrder_accepted hd
      exact ⟨hhalt, rfl⟩
    · rw [hhalt, evaluateOrder_halted, heq] at hd
      cases hd
      exact .inl rfl
  · simp only [pure, Except.pure, Except.ok.injEq, Prod.mk.injEq] at h
    obtain ⟨rfl, rfl⟩ := h
    refine ⟨rfl, fun normalized notional heq => by simp at heq, fun code notional heq _ => ?_⟩
    cases heq
    exact .inr rfl

theorem orderOfDecision_submitted {intent sized : OrderIntent} {portfolio : PortfolioSnapshot}
    {price : ℚ} {orders : List SimulatedOrder} {halt : Bool} {decision : RiskDecision}
    {sequence : ℕ} {t : Instant} {idx : ℤ} {o : SimulatedOrder}
    (htag : intent.clientTag ≠ some engineStopLossTag)
    (hdecide : decideIntent ctx config intent portfolio price orders halt = .ok (decision, sized))
    (h : orderOfDecision (decision, sized) sequence t idx = .ok o) : Submitted halt o := by
  obtain ⟨hsized, haccepted, hrejected⟩ := decideIntent_cases hdecide
  cases decision with
  | accepted normalized notional =>
    obtain ⟨hhalt, hnormalized⟩ := haccepted normalized notional rfl
    simp only [orderOfDecision, bind_eq_ok] at h
    obtain ⟨created, hcreated, h⟩ := h
    obtain ⟨hintent, -⟩ := createOrder_eq_ok hcreated
    obtain ⟨-, rfl⟩ := transitionOrder_eq_ok.mp h
    refine ⟨?_, .inl rfl, fun htrue => ?_⟩
    · rw [created.moved_isEngineStop, SimulatedOrder.isEngineStop, hintent, hnormalized]
      simpa using htag
    · rw [hhalt] at htrue
      cases htrue
  | rejected code notional =>
    simp only [orderOfDecision, bind_eq_ok] at h
    obtain ⟨created, hcreated, h⟩ := h
    obtain ⟨hintent, -⟩ := createOrder_eq_ok hcreated
    obtain ⟨-, rfl⟩ := transitionOrder_eq_ok.mp h
    refine ⟨?_, .inr rfl, fun htrue => ⟨rfl, ?_⟩⟩
    · rw [created.moved_isEngineStop, SimulatedOrder.isEngineStop, hintent, hsized]
      simpa using htag
    · rcases hrejected code notional rfl htrue with rfl | rfl
      · exact .inl rfl
      · exact .inr rfl

/-- **Submitted intents are appended**, and none of them carries the engine's tag. -/
theorem submitIntents_cases {idx : ℤ} {t : Instant} {price : ℚ} {portfolio : PortfolioState}
    {halt : Bool} : ∀ {intents : List OrderIntent} {orders orders' : List SimulatedOrder},
      submitIntents ctx config idx t price portfolio halt intents orders = .ok orders' →
        ∃ added, orders' = orders ++ added ∧ ∀ o ∈ added, Submitted halt o := by
  intro intents
  induction intents with
  | nil =>
    intro orders orders' h
    cases h
    exact ⟨[], by simp, by simp⟩
  | cons intent rest ih =>
    intro orders orders' h
    simp only [submitIntents, bind_eq_ok, FailureKind.unless_eq_ok, exists_const, bne_iff_ne, ne_eq,
      Prod.exists] at h
    obtain ⟨htag, -, decision, sized, hdecide, o, ho, h⟩ := h
    obtain ⟨added, rfl, hadded⟩ := ih h
    refine ⟨o :: added, by simp, ?_⟩
    rw [List.forall_mem_cons]
    exact ⟨orderOfDecision_submitted htag hdecide ho, hadded⟩

/-! ### The stop -/

/-- The order is shaped as a protective stop: a GTC sell stop. -/
structure SimulatedOrder.StopShape (o : SimulatedOrder) : Prop where
  side : o.intent.side = .sell
  orderType : o.intent.orderType = .stopMarket
  timeInForce : o.intent.timeInForce = .gtc

/-- The order protects `quantity` at `stopPrice`. -/
structure SimulatedOrder.Protects (o : SimulatedOrder) (quantity stopPrice : ℚ) : Prop where
  status : o.status = .open
  isEngineStop : o.isEngineStop = true
  shape : o.StopShape
  quantity : o.intent.quantity = quantity
  stopPrice : o.intent.stopPrice = some stopPrice

/-- **A stop that is placed is appended as an open one.** -/
theorem placeStopLoss_cases {orders orders' : List SimulatedOrder} {t : Instant} {idx : ℤ}
    {decision : Option (ℚ × ℚ)} (h : placeStopLoss config orders t idx decision = .ok orders') :
    match decision with
    | none => orders' = orders
    | some (quantity, stopPrice) => ∃ o, orders' = orders ++ [o] ∧ o.Protects quantity stopPrice := by
  cases decision with
  | none =>
    cases h
    rfl
  | some d =>
    obtain ⟨quantity, stopPrice⟩ := d
    simp only [placeStopLoss, bind_eq_ok] at h
    obtain ⟨-, -, -, -, h⟩ := h
    split at h
    · simp only [bind_eq_ok, pure, Except.pure, Except.ok.injEq] at h
      obtain ⟨created, hcreated, o, ho, rfl⟩ := h
      obtain ⟨hintent, -⟩ := createOrder_eq_ok hcreated
      obtain ⟨-, rfl⟩ := transitionOrder_eq_ok.mp ho
      refine ⟨_, rfl, ⟨rfl, ?_, ⟨?_, ?_, ?_⟩, ?_, ?_⟩⟩
      · rw [created.moved_isEngineStop, SimulatedOrder.isEngineStop, hintent]
        rfl
      all_goals
        rw [(created.moved_creation .open t none).2.2.2.2.2, hintent]
        rfl
    · simp at h

/-- **What reconciling leaves**: the open stops are cancelled, and the one the position needs
is appended. -/
theorem reconcileStopLoss_cases {portfolio : PortfolioState} {orders orders' : List SimulatedOrder}
    {t : Instant} {idx : ℤ} (h : reconcileStopLoss ctx config portfolio orders t idx = .ok orders') :
    ∃ decision added, evaluateStopLoss ctx (stopLossPolicyFor config.riskLimits) config.constraints
        portfolio.snapshot = .ok decision ∧
      orders' = (orders.map fun o => if o.status == .open && o.isEngineStop then
        o.moved .cancelled t none else o) ++ added ∧
      match decision with
      | none => added = []
      | some (quantity, stopPrice) => ∃ o, added = [o] ∧ o.Protects quantity stopPrice := by
  simp only [reconcileStopLoss, bind_eq_ok] at h
  obtain ⟨cancelled, hcancel, decision, hdecision, hplace⟩ := h
  obtain ⟨-, rfl⟩ := transitionWhere_eq_ok.mp hcancel
  have hplaced := placeStopLoss_cases hplace
  cases decision with
  | none => exact ⟨none, [], hdecision, by simpa using hplaced, rfl⟩
  | some d =>
    obtain ⟨o, ho, hprotects⟩ := hplaced
    exact ⟨some d, [o], hdecision, ho, o, rfl, hprotects⟩

/-! ### The halves of the operations -/

theorem openState_cases {s : EngineState σ} {context : StrategyContext}
    (h : openState ctx hash strategy config snapshot = .ok (s, context)) :
    initializePortfolio ctx config.initialCapital = .ok s.portfolio ∧
      recordInitialCapital ctx hash [] config.initialCapital (evaluationRangeFor config).start =
        .ok s.ledger ∧
      s.orders = [] ∧ s.riskHalt = false ∧
      contextOf snapshot s (-1) none [] none false none = .ok context := by
  simp only [openState, bind_eq_ok, pure, Except.pure, Except.ok.injEq, Prod.mk.injEq] at h
  obtain ⟨portfolio, hportfolio, ledger, hledger, c, hc, rfl, rfl⟩ := h
  exact ⟨hportfolio, hledger, rfl, rfl, hc⟩

/-- The initial portfolio is flat. -/
theorem initializePortfolio_eq_ok {capital : ℚ} {p : PortfolioState}
    (h : initializePortfolio ctx capital = .ok p) :
    p.Valid ctx ∧ p.quoteCash = capital ∧ p.baseQuantity = 0 := by
  simp only [initializePortfolio, bind_eq_ok, FailureKind.unless_eq_ok, exists_const,
    PortfolioState.validate_eq_ok] at h
  obtain ⟨-, hvalid, rfl⟩ := h
  exact ⟨hvalid, rfl, rfl⟩

/-- What marking the close and halting do to the accounts and the orders. -/
theorem markAndHalt_cases {s s' : EngineState σ} {candle : Candle}
    (h : markAndHalt ctx hash config s candle = .ok s') :
    markToMarket ctx s.portfolio candle.close = .ok s'.portfolio ∧
      recordMark ctx hash s.ledger s'.portfolio candle.closeTime s.candlesProcessed false =
        .ok s'.ledger ∧
      s'.fills = s.fills ∧ s'.candlesProcessed = s.candlesProcessed ∧
      ((s'.riskHalt = s.riskHalt ∧ s'.orders = s.orders) ∨
        (s.riskHalt = false ∧ s'.riskHalt = true ∧
          cancelOpenOrders s.orders candle.closeTime true = .ok s'.orders)) := by
  simp only [markAndHalt, markClose, bind_eq_ok, pure, Except.pure, Except.ok.injEq] at h
  obtain ⟨s₁, ⟨portfolio, hportfolio, ledger, hledger, rfl⟩, s₂, hhalt, rfl⟩ := h
  unfold haltOnDrawdown at hhalt
  split at hhalt
  · next hdue =>
    simp only [bind_eq_ok, pure, Except.pure, Except.ok.injEq] at hhalt
    obtain ⟨orders, horders, rfl⟩ := hhalt
    exact ⟨hportfolio, hledger, rfl, rfl, .inr ⟨hdue.1, rfl, horders⟩⟩
  · cases hhalt
    exact ⟨hportfolio, hledger, rfl, rfl, .inl ⟨rfl, rfl⟩⟩

theorem answerStart_cases {s s' : EngineState σ} {context : StrategyContext}
    (h : answerStart strategy s context = .ok s') :
    ∃ intents st, s' = { s with
      pendingStartIntents := intents
      strategyState := st
      callbacks := [.start context] } := by
  simp only [answerStart, bind_eq_ok, pure, Except.pure, Except.ok.injEq, Prod.exists] at h
  obtain ⟨intents, st, -, rfl⟩ := h
  exact ⟨intents, st, rfl⟩

theorem answerWarmup_cases {s s' : EngineState σ} {regime : Option MarketRegimePoint}
    {candle : Candle} {context : StrategyContext}
    (h : answerWarmup strategy regime s candle context = .ok s') :
    ∃ st, s' = { s with
      strategyState := st
      callbacks := s.callbacks ++ [.warmup context candle]
      lastClosedRegime := regime } := by
  unfold answerWarmup at h
  cases hw : strategy.onWarmupCandle with
  | none => rw [hw] at h; simp at h
  | some callback =>
    rw [hw] at h
    simp only [bind_eq_ok, pure, Except.pure, Except.ok.injEq, Prod.exists] at h
    obtain ⟨answered, st, -, -, -, rfl⟩ := h
    exact ⟨st, rfl⟩

/-- What `on_fill` answers is only submitted. -/
theorem answerFill_cases {s s' : EngineState σ} {candle : Candle} {idx : ℕ}
    {context : StrategyContext} {fill : Fill}
    (h : answerFill ctx strategy config candle idx s context fill = .ok s') :
    ∃ added st, (∀ o ∈ added, Submitted s.riskHalt o) ∧ s' = { s with
      orders := s.orders ++ added
      strategyState := st
      callbacks := s.callbacks ++ [.fill context fill] } := by
  simp only [answerFill, bind_eq_ok, pure, Except.pure, Except.ok.injEq, Prod.exists] at h
  obtain ⟨intents, st, -, orders, horders, -, -, rfl⟩ := h
  obtain ⟨added, rfl, hadded⟩ := submitIntents_cases horders
  exact ⟨added, st, hadded, rfl⟩

/-- What `on_candle` answers is only submitted. -/
theorem answerCandle_cases {s s' : EngineState σ} {regime : Option MarketRegimePoint}
    {candle : Candle} {context : StrategyContext}
    (h : answerCandle ctx strategy config regime s candle context = .ok s') :
    ∃ added st, (∀ o ∈ added, Submitted s.riskHalt o) ∧ s' = { s with
      orders := s.orders ++ added
      strategyState := st
      callbacks := s.callbacks ++ [.candle context candle]
      marketRegimes := s.marketRegimes ++ regime.toList
      lastClosedRegime := regime
      candlesProcessed := s.candlesProcessed + 1 } := by
  simp only [answerCandle, bind_eq_ok, pure, Except.pure, Except.ok.injEq, Prod.exists] at h
  obtain ⟨intents, st, -, orders, horders, -, -, rfl⟩ := h
  obtain ⟨added, rfl, hadded⟩ := submitIntents_cases horders
  exact ⟨added, st, hadded, rfl⟩

/-- The start intents are only submitted, on the first evaluated candle. -/
theorem submitPendingStart_added {s s' : EngineState σ} {candle : Candle}
    (h : submitPendingStart ctx config s candle = .ok s') :
    ∃ added, (∀ o ∈ added, Submitted s.riskHalt o) ∧ s' = { s with orders := s.orders ++ added } ∧
      (added ≠ [] → s.candlesProcessed = 0) := by
  unfold submitPendingStart at h
  split at h
  · next hfirst =>
    simp only [bind_eq_ok, pure, Except.pure, Except.ok.injEq] at h
    obtain ⟨orders, horders, -, -, rfl⟩ := h
    obtain ⟨added, rfl, hadded⟩ := submitIntents_cases horders
    exact ⟨added, hadded, rfl, fun _ => hfirst.1⟩
  · cases h
    exact ⟨[], by simp, by simp, by simp⟩

/-- What booking a fill does to the accounts and the orders. -/
theorem bookFill_cases {s s' : EngineState σ} {candle : Candle} {idx i : ℕ} {o : SimulatedOrder}
    {fill : Fill} (h : bookFill ctx hash config candle idx s i o fill = .ok s') :
    ∃ mutation filled, applyFill ctx s.portfolio fill = .ok mutation ∧
      recordFill ctx hash s.ledger fill mutation = .ok s'.ledger ∧
      transitionOrder o .filled candle.openTime none = .ok filled ∧
      reconcileStopLoss ctx config mutation.after (s.orders.set i filled) candle.openTime idx =
        .ok s'.orders ∧
      s'.portfolio = mutation.after ∧ s'.fills = s.fills ++ [fill] ∧ s'.riskHalt = s.riskHalt ∧
      s'.candlesProcessed = s.candlesProcessed := by
  simp only [bookFill, bind_eq_ok, pure, Except.pure, Except.ok.injEq] at h
  obtain ⟨mutation, hmutation, ledger, hledger, filled, hfilled, orders, horders, rfl⟩ := h
  exact ⟨mutation, filled, hmutation, hledger, hfilled, horders, rfl, rfl, rfl, rfl⟩

end

end Backtesting
end DryTrade
