import DryTrade.Backtesting.Engine
import DryTrade.Growth

/-!
# What one engine step changes

Every operation of the engine only adds to what it published: fills, equity
points, regimes, ledger entries and callbacks grow at their end, and an order
keeps its place and its creation data and never leaves a terminal state.
`Extends` is that relation between two engine states; the lemmas of this file
prove it of each operation, and say exactly what a visited order and a closing
candle do to the accounts.

## Main definitions

* `OrdersExtend`, `Extends` — later lists of orders, later engine states.

## Main results

* `visitOrder_cases` — a visited order changes orders only, or applies one fill.
* `closePhase_cases` — a closing candle marks the portfolio and publishes a point.
* `processCandle_cases` — the phases of one candle.
-/

namespace DryTrade
namespace Backtesting

open MarketData Indicators

/-! ### Orders -/

/-- The order can no longer change. -/
def OrderStatus.IsTerminal (status : OrderStatus) : Prop := allowedTransitions status = []

instance (status : OrderStatus) : Decidable status.IsTerminal :=
  inferInstanceAs (Decidable (_ = _))

/-- `o'` has the identity, the intent and the creation data of `o`. -/
structure SimulatedOrder.SameCreation (o o' : SimulatedOrder) : Prop where
  orderId : o'.orderId = o.orderId
  createdSequence : o'.createdSequence = o.createdSequence
  createdAt : o'.createdAt = o.createdAt
  createdCandleIndex : o'.createdCandleIndex = o.createdCandleIndex
  eligibleCandleIndex : o'.eligibleCandleIndex = o.eligibleCandleIndex
  intent : o'.intent = o.intent

theorem SimulatedOrder.SameCreation.refl (o : SimulatedOrder) : o.SameCreation o :=
  ⟨rfl, rfl, rfl, rfl, rfl, rfl⟩

theorem SimulatedOrder.SameCreation.trans {o o' o'' : SimulatedOrder} (h : o.SameCreation o')
    (h' : o'.SameCreation o'') : o.SameCreation o'' :=
  ⟨h'.orderId.trans h.orderId, h'.createdSequence.trans h.createdSequence,
    h'.createdAt.trans h.createdAt, h'.createdCandleIndex.trans h.createdCandleIndex,
    h'.eligibleCandleIndex.trans h.eligibleCandleIndex, h'.intent.trans h.intent⟩

/-- Every order keeps its place and its creation data, and a terminal one is final. -/
def OrdersExtend (orders orders' : List SimulatedOrder) : Prop :=
  ∀ (i : ℕ) (o : SimulatedOrder), orders[i]? = some o →
    ∃ o', orders'[i]? = some o' ∧ o.SameCreation o' ∧ (o.status.IsTerminal → o' = o)

theorem OrdersExtend.refl (orders : List SimulatedOrder) : OrdersExtend orders orders :=
  fun _ o h => ⟨o, h, .refl o, fun _ => rfl⟩

theorem OrdersExtend.trans {os os' os'' : List SimulatedOrder} (h : OrdersExtend os os')
    (h' : OrdersExtend os' os'') : OrdersExtend os os'' := by
  intro i o ho
  obtain ⟨o', ho', hc, ht⟩ := h i o ho
  obtain ⟨o'', ho'', hc', ht'⟩ := h' i o' ho'
  refine ⟨o'', ho'', hc.trans hc', fun hterm => ?_⟩
  have heq : o' = o := ht hterm
  rw [ht' (heq ▸ hterm), heq]

theorem ordersExtend_append (orders added : List SimulatedOrder) :
    OrdersExtend orders (orders ++ added) := by
  intro i o ho
  have hi : i < orders.length := (List.getElem?_eq_some_iff.mp ho).1
  exact ⟨o, by rw [List.getElem?_append_left hi, ho], .refl o, fun _ => rfl⟩

/-- A transition keeps the creation data and starts from a state that is not terminal. -/
theorem transitionOrder_evolves {o o' : SimulatedOrder} {status : OrderStatus} {t : Instant}
    {code : Option String} (h : transitionOrder o status t code = .ok o') :
    o.SameCreation o' ∧ ¬ o.status.IsTerminal ∧ o'.status = status := by
  obtain ⟨hmem, rfl⟩ := transitionOrder_eq_ok.mp h
  obtain ⟨h1, h2, h3, h4, h5, h6⟩ := o.moved_creation status t code
  refine ⟨⟨h1, h2, h3, h4, h5, h6⟩, fun hterm => ?_, o.moved_status status t code⟩
  rw [OrderStatus.IsTerminal] at hterm
  rw [hterm] at hmem
  exact List.not_mem_nil hmem

theorem ordersExtend_set {orders : List SimulatedOrder} {i : ℕ} {o o' : SimulatedOrder}
    {status : OrderStatus} {t : Instant} {code : Option String} (hi : orders[i]? = some o)
    (h : transitionOrder o status t code = .ok o') : OrdersExtend orders (orders.set i o') := by
  obtain ⟨hcreate, hlive, -⟩ := transitionOrder_evolves h
  intro j x hx
  by_cases hij : i = j
  · subst hij
    have hxo : x = o := by rw [hi] at hx; exact (Option.some.inj hx).symm
    subst hxo
    have hlt : i < orders.length := (List.getElem?_eq_some_iff.mp hi).1
    exact ⟨o', by simp [hlt], hcreate, fun hterm => absurd hterm hlive⟩
  · exact ⟨x, by rw [List.getElem?_set_ne hij, hx], .refl x, fun _ => rfl⟩

theorem transitionWhere_extends {p : SimulatedOrder → Bool} {status : OrderStatus} {t : Instant} :
    ∀ {orders orders' : List SimulatedOrder},
      transitionWhere p status t orders = .ok orders' → OrdersExtend orders orders' := by
  intro orders
  induction orders with
  | nil =>
    intro orders' h i o ho
    simp at ho
  | cons x rest ih =>
    intro orders' h i o ho
    simp only [transitionWhere, bind_eq_ok, pure, Except.pure, Except.ok.injEq] at h
    obtain ⟨x', hx', rest', hrest', rfl⟩ := h
    cases i with
    | zero =>
      simp only [List.getElem?_cons_zero, Option.some.injEq] at ho
      subst ho
      refine ⟨x', rfl, ?_⟩
      unfold transitionIf at hx'
      by_cases hp : p x = true
      · rw [if_pos hp] at hx'
        obtain ⟨hcreate, hlive, -⟩ := transitionOrder_evolves hx'
        exact ⟨hcreate, fun hterm => absurd hterm hlive⟩
      · rw [if_neg hp] at hx'
        cases hx'
        exact ⟨.refl x, fun _ => rfl⟩
    | succ i =>
      rw [List.getElem?_cons_succ] at ho ⊢
      exact ih hrest' i o ho

theorem cancelOpenOrders_extends {orders orders' : List SimulatedOrder} {t : Instant} {keep : Bool}
    (h : cancelOpenOrders orders t keep = .ok orders') : OrdersExtend orders orders' :=
  transitionWhere_extends h

section

variable {ctx : DecimalContext} {hash : String → RawLedgerEntry → String}
variable {σ : Type} {strategy : Strategy σ} {config : BacktestConfig} {snapshot : DatasetSnapshot}

theorem submitIntents_extends {idx : ℤ} {t : Instant} {price : ℚ} {portfolio : PortfolioState}
    {halt : Bool} : ∀ {intents : List OrderIntent} {orders orders' : List SimulatedOrder},
      submitIntents ctx config idx t price portfolio halt intents orders = .ok orders' →
        OrdersExtend orders orders' := by
  intro intents
  induction intents with
  | nil =>
    intro orders orders' h
    cases h
    exact .refl orders
  | cons intent rest ih =>
    intro orders orders' h
    simp only [submitIntents, bind_eq_ok] at h
    obtain ⟨-, -, -, -, -, -, order, -, h⟩ := h
    exact (ordersExtend_append orders [order]).trans (ih h)

theorem placeStopLoss_extends {orders orders' : List SimulatedOrder} {t : Instant} {idx : ℤ}
    {decision : Option (ℚ × ℚ)} (h : placeStopLoss config orders t idx decision = .ok orders') :
    OrdersExtend orders orders' := by
  cases decision with
  | none =>
    cases h
    exact .refl orders
  | some d =>
    simp only [placeStopLoss, bind_eq_ok] at h
    obtain ⟨-, -, -, -, h⟩ := h
    split at h
    · simp only [bind_eq_ok, pure, Except.pure, Except.ok.injEq] at h
      obtain ⟨-, -, order, -, rfl⟩ := h
      exact ordersExtend_append orders [order]
    · simp at h

theorem reconcileStopLoss_extends {portfolio : PortfolioState} {orders orders' : List SimulatedOrder}
    {t : Instant} {idx : ℤ} (h : reconcileStopLoss ctx config portfolio orders t idx = .ok orders') :
    OrdersExtend orders orders' := by
  simp only [reconcileStopLoss, bind_eq_ok] at h
  obtain ⟨cancelled, hcancel, decision, -, hplace⟩ := h
  exact (transitionWhere_extends hcancel).trans (placeStopLoss_extends hplace)

/-! ### Engine states -/

/-- A callback made while candle `n` or a later one was evaluated. -/
def StrategyCallback.IsFrom (n : ℕ) : StrategyCallback → Prop
  | .start _ => False
  | .warmup _ _ => False
  | .candle context _ => (n : ℤ) ≤ context.candleIndex
  | .fill _ applied => n ≤ applied.candleIndex
  | .finish _ => True

/-- `s'` publishes everything `s` does, in the same order, keeps its orders, and
whatever else it publishes belongs to candle `n` or a later one. -/
structure Extends (n : ℕ) (s s' : EngineState σ) : Prop where
  orders : OrdersExtend s.orders s'.orders
  fills : Grows (fun f => n ≤ f.candleIndex) s.fills s'.fills
  equity : Grows (fun p => n ≤ p.candleIndex) s.equity s'.equity
  marketRegimes : s.marketRegimes <+: s'.marketRegimes
  ledger : Grows (fun e => (n : ℤ) ≤ e.candleIndex) s.ledger s'.ledger
  callbacks : Grows (StrategyCallback.IsFrom n) s.callbacks s'.callbacks

theorem Extends.refl (n : ℕ) (s : EngineState σ) : Extends n s s :=
  ⟨.refl _, .refl _, .refl _, List.prefix_rfl, .refl _, .refl _⟩

theorem Extends.trans {n : ℕ} {s s' s'' : EngineState σ} (h : Extends n s s')
    (h' : Extends n s' s'') : Extends n s s'' :=
  ⟨h.orders.trans h'.orders, h.fills.trans h'.fills, h.equity.trans h'.equity,
    h.marketRegimes.trans h'.marketRegimes, h.ledger.trans h'.ledger,
    h.callbacks.trans h'.callbacks⟩

theorem StrategyCallback.IsFrom.mono {m n : ℕ} (hmn : m ≤ n) {c : StrategyCallback}
    (h : c.IsFrom n) : c.IsFrom m := by
  have hmn' : (m : ℤ) ≤ n := by exact_mod_cast hmn
  cases c with
  | start _ => exact h
  | warmup _ _ => exact h
  | candle context _ => exact hmn'.trans (show (n : ℤ) ≤ context.candleIndex from h)
  | fill _ applied => exact hmn.trans (show n ≤ applied.candleIndex from h)
  | finish _ => trivial

/-- What belongs to candle `n` or later belongs to any earlier candle or later. -/
theorem Extends.mono {m n : ℕ} (hmn : m ≤ n) {s s' : EngineState σ} (h : Extends n s s') :
    Extends m s s' where
  orders := h.orders
  fills := h.fills.imp fun _ hf => hmn.trans hf
  equity := h.equity.imp fun _ hp => hmn.trans hp
  marketRegimes := h.marketRegimes
  ledger := h.ledger.imp fun _ he => (by exact_mod_cast hmn : (m : ℤ) ≤ n).trans he
  callbacks := h.callbacks.imp fun _ hc => hc.mono hmn

/-- Only the orders of the state changed. -/
theorem extends_orders {n : ℕ} {s : EngineState σ} {orders : List SimulatedOrder}
    (h : OrdersExtend s.orders orders) : Extends n s { s with orders := orders } :=
  { Extends.refl n s with orders := h }

theorem transitionAt_cases {s s' : EngineState σ} {i : ℕ} {o : SimulatedOrder}
    {status : OrderStatus} {t : Instant} (hi : s.orders[i]? = some o)
    (h : transitionAt s i o status t = .ok s') :
    ∃ orders, OrdersExtend s.orders orders ∧ s' = { s with orders := orders } := by
  simp only [transitionAt, bind_eq_ok, pure, Except.pure, Except.ok.injEq] at h
  obtain ⟨o', ho', rfl⟩ := h
  exact ⟨s.orders.set i o', ordersExtend_set hi ho', rfl⟩

theorem makeFill_eq_ok {o : SimulatedOrder} {q : ExecutionQuote} {t : Instant} {idx seq : ℕ}
    {fill : Fill} (h : makeFill ctx config o q t idx seq = .ok fill) :
    fill.Valid ctx ∧ fill.candleIndex = idx ∧ fill.side = o.intent.side ∧
      fill.quantity = o.intent.quantity ∧ fill.executionPrice = q.executionPrice ∧
      fill.notional = ctx.mul o.intent.quantity q.executionPrice ∧
      fill.fee = ctx.mul (ctx.mul o.intent.quantity q.executionPrice)
        (config.execution.fees.rate ctx q.liquidity) := by
  simp only [makeFill, bind_eq_ok, executionFee, FailureKind.unless_eq_ok, exists_const, pure,
    Except.pure, Except.ok.injEq, Fill.validate_eq_ok] at h
  obtain ⟨fee, ⟨-, rfl⟩, hvalid, rfl⟩ := h
  exact ⟨hvalid, rfl, rfl, rfl, rfl, rfl, rfl⟩

/-- A visited order applied one fill: the accounts are those after the fill, and what
was published before is still there. -/
structure FillStep (ctx : DecimalContext) (hash : String → RawLedgerEntry → String)
    (candleIndex : ℕ) (s s' : EngineState σ) (fill : Fill) (mutation : PortfolioMutation) :
    Prop where
  valid : fill.Valid ctx
  candleIndex_eq : fill.candleIndex = candleIndex
  applied : applyFill ctx s.portfolio fill = .ok mutation
  recorded : recordFill ctx hash s.ledger fill mutation = .ok s'.ledger
  portfolio : s'.portfolio = mutation.after
  fills : s'.fills = s.fills ++ [fill]
  lastFill : s'.lastFill = some fill
  orders : OrdersExtend s.orders s'.orders
  callbacks : ∃ context, s'.callbacks = s.callbacks ++ [.fill context fill]
  equity : s'.equity = s.equity
  marketRegimes : s'.marketRegimes = s.marketRegimes
  history : s'.history = s.history
  riskHalt : s'.riskHalt = s.riskHalt
  lastCandle : s'.lastCandle = s.lastCandle
  contextCandlesSeen : s'.contextCandlesSeen = s.contextCandlesSeen
  candlesProcessed : s'.candlesProcessed = s.candlesProcessed
  regimeAccumulator : s'.regimeAccumulator = s.regimeAccumulator
  lastClosedRegime : s'.lastClosedRegime = s.lastClosedRegime

theorem FillStep.extends {idx : ℕ} {s s' : EngineState σ} {fill : Fill}
    {mutation : PortfolioMutation} (h : FillStep ctx hash idx s s' fill mutation) :
    Extends idx s s' where
  orders := h.orders
  fills := h.fills ▸ .single h.candleIndex_eq.ge
  equity := h.equity ▸ .refl _
  marketRegimes := h.marketRegimes ▸ List.prefix_rfl
  ledger := (recordFill_grows h.recorded).imp fun e he => by
    rw [he.1, h.candleIndex_eq]
  callbacks := by
    obtain ⟨context, hc⟩ := h.callbacks
    exact hc ▸ .single (show idx ≤ fill.candleIndex from h.candleIndex_eq.ge)

theorem applyOrderFill_cases {candle : Candle} {idx : ℕ} {previous : List Candle}
    {s s' : EngineState σ} {i : ℕ} {o : SimulatedOrder} {fill : Fill}
    (hi : s.orders[i]? = some o) (hvalid : fill.Valid ctx) (hidx : fill.candleIndex = idx)
    (h : applyOrderFill ctx hash strategy config snapshot candle idx previous s i o fill = .ok s') :
    ∃ mutation, FillStep ctx hash idx s s' fill mutation := by
  simp only [applyOrderFill, bind_eq_ok, pure, Except.pure, Except.ok.injEq, Prod.exists] at h
  obtain ⟨mutation, hmut, ledger, hledger, filled, hfilled, orders, horders, context, -, intents,
    st, -, submitted, hsubmit, -, -, rfl⟩ := h
  refine ⟨mutation, ?_⟩
  exact
    { valid := hvalid
      candleIndex_eq := hidx
      applied := hmut
      recorded := hledger
      portfolio := rfl
      fills := rfl
      lastFill := rfl
      orders := (ordersExtend_set hi hfilled).trans
        ((reconcileStopLoss_extends horders).trans (submitIntents_extends hsubmit))
      callbacks := ⟨context, rfl⟩
      equity := rfl
      marketRegimes := rfl
      history := rfl
      riskHalt := rfl
      lastCandle := rfl
      contextCandlesSeen := rfl
      candlesProcessed := rfl
      regimeAccumulator := rfl
      lastClosedRegime := rfl }

/-- **A visited order changes orders only, or applies one fill.** -/
theorem visitOrder_cases {candle : Candle} {idx : ℕ} {previous : List Candle}
    {s s' : EngineState σ} {i : ℕ}
    (h : visitOrder ctx hash strategy config snapshot candle idx previous s i = .ok s') :
    (∃ orders, OrdersExtend s.orders orders ∧ s' = { s with orders := orders }) ∨
      ∃ fill mutation, FillStep ctx hash idx s s' fill mutation := by
  unfold visitOrder at h
  cases ho : s.orders[i]? with
  | none => rw [ho] at h; simp at h
  | some o =>
    rw [ho] at h
    simp only at h
    split at h
    · exact .inl (transitionAt_cases ho h)
    · rw [bind_eq_ok] at h
      obtain ⟨q, -, h⟩ := h
      cases q with
      | none =>
        simp only at h
        split at h
        · exact .inl (transitionAt_cases ho h)
        · cases h
          exact .inl ⟨s.orders, .refl _, rfl⟩
      | some q =>
        simp only [fillQuoted, bind_eq_ok] at h
        obtain ⟨fill, hfill, h⟩ := h
        obtain ⟨hvalid, hidx, -⟩ := makeFill_eq_ok hfill
        split at h
        · exact .inl (transitionAt_cases ho h)
        · obtain ⟨mutation, hstep⟩ := applyOrderFill_cases ho hvalid hidx h
          exact .inr ⟨fill, mutation, hstep⟩

theorem visitOrder_extends {candle : Candle} {idx : ℕ} {previous : List Candle}
    {s s' : EngineState σ} {i : ℕ}
    (h : visitOrder ctx hash strategy config snapshot candle idx previous s i = .ok s') :
    Extends idx s s' := by
  rcases visitOrder_cases h with ⟨orders, ho, rfl⟩ | ⟨fill, mutation, hstep⟩
  · exact extends_orders ho
  · exact hstep.extends

/-- The start intents only add orders. -/
theorem submitPendingStart_cases {s s' : EngineState σ} {candle : Candle}
    (h : submitPendingStart ctx config s candle = .ok s') :
    ∃ orders, OrdersExtend s.orders orders ∧ s' = { s with orders := orders } := by
  unfold submitPendingStart at h
  split at h
  · simp only [bind_eq_ok, pure, Except.pure, Except.ok.injEq] at h
    obtain ⟨orders, horders, -, -, rfl⟩ := h
    exact ⟨orders, submitIntents_extends horders, rfl⟩
  · cases h
    exact ⟨s.orders, .refl _, rfl⟩

theorem fillPhase_extends {s s' : EngineState σ} {candle : Candle}
    (h : fillPhase ctx hash strategy config snapshot s candle = .ok s') :
    Extends s.candlesProcessed s s' := by
  simp only [fillPhase, bind_eq_ok] at h
  obtain ⟨s1, hs1, h⟩ := h
  obtain ⟨orders, ho, rfl⟩ := submitPendingStart_cases hs1
  have hstep : ∀ (b : EngineState σ) (i : ℕ) (b' : EngineState σ),
      Extends s.candlesProcessed s b →
      visitOrder ctx hash strategy config snapshot candle s.candlesProcessed s.history b i = .ok b' →
      Extends s.candlesProcessed s b' :=
    fun b i b' hb hb' => hb.trans (visitOrder_extends hb')
  exact foldlM_preserves hstep _ _ _ (extends_orders ho) h

/-- The context built for a callback has the candle index it was asked for. -/
theorem contextOf_candleIndex {s : EngineState σ} {i : ℤ} {current : Option Candle}
    {history : List Candle} {last : Option Fill} {halt : Bool} {regime : Option MarketRegimePoint}
    {context : StrategyContext}
    (h : contextOf snapshot s i current history last halt regime = .ok context) :
    context.candleIndex = i := by
  simp only [contextOf, StrategyContext.validate, bind_eq_ok] at h
  obtain ⟨-, -, h⟩ := h
  cases current with
  | none =>
    simp only [bind_eq_ok, pure, Except.pure, Except.ok.injEq] at h
    obtain ⟨-, -, -, -, rfl⟩ := h
    rfl
  | some c =>
    simp only [bind_eq_ok, pure, Except.pure, Except.ok.injEq] at h
    obtain ⟨-, -, -, -, -, -, -, -, -, -, rfl⟩ := h
    rfl

/-- **A closing candle marks the portfolio and publishes one point**; nothing else of the
accounts changes. -/
structure CloseStep (ctx : DecimalContext) (hash : String → RawLedgerEntry → String)
    (regime : Option MarketRegimePoint) (candle : Candle) (s s' : EngineState σ) : Prop where
  marked : markToMarket ctx s.portfolio candle.close = .ok s'.portfolio
  recorded : recordMark ctx hash s.ledger s'.portfolio candle.closeTime s.candlesProcessed false =
    .ok s'.ledger
  equity : s'.equity = s.equity ++ [equityPoint s.candlesProcessed candle s'.portfolio]
  candlesProcessed : s'.candlesProcessed = s.candlesProcessed + 1
  fills : s'.fills = s.fills
  lastFill : s'.lastFill = s.lastFill
  marketRegimes : s'.marketRegimes = s.marketRegimes ++ regime.toList
  lastCandle : s'.lastCandle = s.lastCandle
  regimeAccumulator : s'.regimeAccumulator = s.regimeAccumulator
  orders : OrdersExtend s.orders s'.orders
  callbacks : ∃ context : StrategyContext, context.candleIndex = (s.candlesProcessed : ℤ) ∧
    s'.callbacks = s.callbacks ++ [.candle context candle]

theorem closePhase_cases {regime : Option MarketRegimePoint} {s s' : EngineState σ}
    {candle : Candle}
    (h : closePhase ctx hash strategy config snapshot regime s candle = .ok s') :
    CloseStep ctx hash regime candle s s' := by
  simp only [closePhase, bind_eq_ok, pure, Except.pure, Except.ok.injEq, Prod.exists] at h
  obtain ⟨s1, hmark, s2, hhalt, context, hcontext, intents, st, -, submitted, hsubmit, -, -, rfl⟩ := h
  simp only [markClose, bind_eq_ok, pure, Except.pure, Except.ok.injEq] at hmark
  obtain ⟨portfolio, hportfolio, ledger, hledger, rfl⟩ := hmark
  unfold haltOnDrawdown at hhalt
  split at hhalt
  · simp only [bind_eq_ok, pure, Except.pure, Except.ok.injEq] at hhalt
    obtain ⟨orders, horders, rfl⟩ := hhalt
    exact
      { marked := hportfolio
        recorded := hledger
        equity := rfl
        candlesProcessed := rfl
        fills := rfl
        lastFill := rfl
        marketRegimes := rfl
        lastCandle := rfl
        regimeAccumulator := rfl
        orders := (cancelOpenOrders_extends horders).trans (submitIntents_extends hsubmit)
        callbacks := ⟨context, contextOf_candleIndex hcontext, rfl⟩ }
  · cases hhalt
    exact
      { marked := hportfolio
        recorded := hledger
        equity := rfl
        candlesProcessed := rfl
        fills := rfl
        lastFill := rfl
        marketRegimes := rfl
        lastCandle := rfl
        regimeAccumulator := rfl
        orders := submitIntents_extends hsubmit
        callbacks := ⟨context, contextOf_candleIndex hcontext, rfl⟩ }

theorem CloseStep.extends {regime : Option MarketRegimePoint} {candle : Candle}
    {s s' : EngineState σ} (h : CloseStep ctx hash regime candle s s') :
    Extends s.candlesProcessed s s' where
  orders := h.orders
  fills := h.fills ▸ .refl _
  equity := h.equity ▸ .single le_rfl
  marketRegimes := h.marketRegimes ▸ List.prefix_append _ _
  ledger := by
    obtain ⟨e, he, hidx, -⟩ := recordMark_eq_append h.recorded
    exact he ▸ .single hidx.ge
  callbacks := by
    obtain ⟨context, hidx, hc⟩ := h.callbacks
    exact hc ▸ .single (show (s.candlesProcessed : ℤ) ≤ context.candleIndex from hidx.ge)

/-- The common bookkeeping publishes nothing. -/
theorem admitCandle_cases {s s' : EngineState σ} {candle : Candle}
    {regime : Option MarketRegimePoint} (h : admitCandle ctx config s candle = .ok (s', regime)) :
    ∃ acc, updateRegime ctx candle s.regimeAccumulator = .ok (regime, acc) ∧
      validateCandle candle s.lastCandle = .ok () ∧
      s' = { s with
        regimeAccumulator := acc
        contextCandlesSeen := s.contextCandlesSeen + 1
        lastCandle := some candle } := by
  simp only [admitCandle, bind_eq_ok, pure, Except.pure, Except.ok.injEq, Prod.mk.injEq,
    Prod.exists] at h
  obtain ⟨-, -, ⟨⟩, hvalid, point, acc, hupdate, rfl, rfl⟩ := h
  exact ⟨acc, hupdate, hvalid, rfl⟩

/-- A regime is observed exactly when there is an accumulator, which then stays. -/
theorem updateRegime_isSome {candle : Candle} {acc acc' : Option MarketRegimeAccumulator}
    {regime : Option MarketRegimePoint} (h : updateRegime ctx candle acc = .ok (regime, acc')) :
    acc'.isSome = acc.isSome ∧ regime.isSome = acc.isSome := by
  cases acc with
  | none =>
    cases h
    exact ⟨rfl, rfl⟩
  | some a =>
    simp only [updateRegime, bind_eq_ok, pure, Except.pure, Except.ok.injEq, Prod.mk.injEq,
      Prod.exists] at h
    obtain ⟨point, a', -, rfl, rfl⟩ := h
    exact ⟨rfl, rfl⟩

/-- A delivered candle opens after the one before it. -/
theorem validateCandle_openTime {candle previous : Candle}
    (h : validateCandle candle (some previous) = .ok ()) : previous.openTime < candle.openTime := by
  simp only [validateCandle, bind_eq_ok, FailureKind.unless_eq_ok, FailureKind.require_eq_ok,
    exists_const, Option.all_some, decide_eq_true_eq] at h
  exact h.2.2.1

/-- A warmup candle changes neither the accounts nor what was published. -/
theorem warmupCandle_cases {regime : Option MarketRegimePoint} {s s' : EngineState σ}
    {candle : Candle} (h : warmupCandle strategy config snapshot regime s candle = .ok s') :
    ∃ st context, s' = { s with
      history := pushHistory config.historyWindow s.history candle
      strategyState := st
      callbacks := s.callbacks ++ [.warmup context candle]
      lastClosedRegime := regime } := by
  simp only [warmupCandle, bind_eq_ok] at h
  obtain ⟨context, -, h⟩ := h
  cases hw : strategy.onWarmupCandle with
  | none => rw [hw] at h; simp at h
  | some callback =>
    rw [hw] at h
    simp only [bind_eq_ok, pure, Except.pure, Except.ok.injEq, Prod.exists] at h
    obtain ⟨answered, st, -, -, -, rfl⟩ := h
    exact ⟨st, context, rfl⟩

/-- What one candle of the read context does: it is shown to a warming strategy, or it
is filled against and then closed. -/
theorem processCandle_cases {s s' : EngineState σ} {candle : Candle}
    (h : processCandle ctx hash strategy config snapshot s candle = .ok s') :
    ∃ s₀ regime, admitCandle ctx config s candle = .ok (s₀, regime) ∧
      ((candle.openTime < (evaluationRangeFor config).start ∧
          warmupCandle strategy config snapshot regime s₀ candle = .ok s') ∨
        ((evaluationRangeFor config).start ≤ candle.openTime ∧
          ∃ s₁, fillPhase ctx hash strategy config snapshot s₀ candle = .ok s₁ ∧
            closePhase ctx hash strategy config snapshot regime s₁ candle = .ok s')) := by
  simp only [processCandle, bind_eq_ok, Prod.exists] at h
  obtain ⟨s₀, regime, hadmit, h⟩ := h
  refine ⟨s₀, regime, hadmit, ?_⟩
  split at h
  · next hlt => exact .inl ⟨hlt, h⟩
  · next hge =>
    rw [bind_eq_ok] at h
    obtain ⟨s₁, hfill, hclose⟩ := h
    exact .inr ⟨not_lt.mp hge, s₁, hfill, hclose⟩

end

end Backtesting
end DryTrade
