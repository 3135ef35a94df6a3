import DryTrade.Backtesting.Protection
import DryTrade.Backtesting.Verifier

/-!
# A drawdown halt is permanent

Once the close of a candle halts a run, only the engine's own stop is left open:
nothing a strategy submits afterwards is accepted, so every later fill sells the
position behind that stop, until the end of the run may force the rest to close.

The argument follows the list of orders.  A halt leaves no open order but the
stop, an order that is not open has no quote, and what is added later is either a
stop or an order refused for the halt.

## Main definitions

* `Refused` — an order refused because of the halt, or because its size is zero.
* `OnlyStopsOpen` — every open order is the engine's own stop.
* `HaltedSince` — what holds at every point after a halt.

## Main results

* `EngineStep.haltedSince` — every step keeps it, and never enlarges the position.
* `drawdown_halt_permanent` — what a halt means for the rest of the run.
-/

namespace DryTrade
namespace Backtesting

open MarketData Indicators
open Relation (ReflTransGen)

/-! ### The list of orders after a halt -/

/-- The order was refused, for the halt or for a quantity that sizes to zero. -/
def SimulatedOrder.Refused (o : SimulatedOrder) : Prop :=
  o.status = .rejected ∧ (o.rejectionCode = some RiskRejectionCode.riskHaltActive.value ∨
    o.rejectionCode = some RiskRejectionCode.invalidQuantity.value)

/-- Every open order is the engine's own stop. -/
def OnlyStopsOpen (orders : List SimulatedOrder) : Prop :=
  ∀ o ∈ orders, o.isEngineStop = false → o.status ≠ .open

/-- From position `n` on there are only engine stops and refused orders. -/
def NoneAccepted (n : ℕ) (orders : List SimulatedOrder) : Prop :=
  ∀ i o, n ≤ i → orders[i]? = some o → o.isEngineStop = true ∨ o.Refused

/-- The fill sold what an engine stop of the list was for. -/
def SoldByStop (orders : List SimulatedOrder) (f : Fill) : Prop :=
  f.side = .sell ∧ ∃ (i : ℕ) (o : SimulatedOrder), orders[i]? = some o ∧ o.isEngineStop = true ∧
    o.status = .filled ∧ o.orderId = f.orderId ∧ o.intent.quantity = f.quantity

section

variable {orders orders' : List SimulatedOrder}

theorem SimulatedOrder.Refused.isTerminal {o : SimulatedOrder} (h : o.Refused) : o.status.IsTerminal := by
  rw [h.1]
  decide

theorem OnlyStopsOpen.append (h : OnlyStopsOpen orders) {added : List SimulatedOrder}
    (hadded : OnlyStopsOpen added) : OnlyStopsOpen (orders ++ added) := by
  intro o ho
  rcases List.mem_append.mp ho with ho | ho
  · exact h o ho
  · exact hadded o ho

theorem OnlyStopsOpen.set (h : OnlyStopsOpen orders) {i : ℕ} {o : SimulatedOrder}
    (ho : o.status ≠ .open) : OnlyStopsOpen (orders.set i o) := by
  intro x hx hstop
  rcases List.mem_or_eq_of_mem_set hx with hx | rfl
  · exact h x hx hstop
  · exact ho

theorem OnlyStopsOpen.map_moved (h : OnlyStopsOpen orders) (p : SimulatedOrder → Bool) (t : Instant) :
    OnlyStopsOpen (orders.map fun o => if p o then o.moved .cancelled t none else o) := by
  intro o ho hstop
  obtain ⟨x, hx, rfl⟩ := List.mem_map.mp ho
  by_cases hp : p x = true
  · rw [if_pos hp, x.moved_status]
    simp
  · rw [if_neg hp] at hstop ⊢
    exact h x hx hstop

/-- A halt leaves only stops open. -/
theorem onlyStopsOpen_cancelled {t : Instant} (h : cancelOpenOrders orders t true = .ok orders') :
    OnlyStopsOpen orders' := by
  obtain ⟨-, rfl⟩ := transitionWhere_eq_ok.mp h
  intro o ho hstop
  obtain ⟨x, hx, rfl⟩ := List.mem_map.mp ho
  by_cases hp : (x.status == .open && !(true && x.isEngineStop)) = true
  · rw [if_pos hp, x.moved_status]
    simp
  · rw [if_neg hp] at hstop ⊢
    intro hopen
    simp [hopen, hstop] at hp

/-- Stops and refused orders stay what they are while the list evolves, and what is appended
is of the same kind. -/
theorem NoneAccepted.evolve {n : ℕ} (h : NoneAccepted n orders) (hext : OrdersExtend orders orders')
    (hlength : orders'.length = orders.length) : NoneAccepted n orders' := by
  intro i o hi ho
  have hlt : i < orders.length := hlength ▸ (List.getElem?_eq_some_iff.mp ho).1
  obtain ⟨o', ho', hsame, hfinal⟩ := hext i orders[i] (List.getElem?_eq_getElem hlt)
  rw [ho, Option.some.injEq] at ho'
  subst ho'
  rcases h i orders[i] hi (List.getElem?_eq_getElem hlt) with hstop | hrefused
  · refine .inl ?_
    unfold SimulatedOrder.isEngineStop at hstop ⊢
    rw [hsame.intent]
    exact hstop
  · rw [hfinal hrefused.isTerminal]
    exact .inr hrefused

theorem NoneAccepted.append {n : ℕ} (h : NoneAccepted n orders) {added : List SimulatedOrder}
    (hadded : ∀ o ∈ added, o.isEngineStop = true ∨ o.Refused) : NoneAccepted n (orders ++ added) := by
  intro i o hi ho
  by_cases hlt : i < orders.length
  · rw [List.getElem?_append_left hlt] at ho
    exact h i o hi ho
  · rw [List.getElem?_append_right (not_lt.mp hlt)] at ho
    exact hadded o (List.mem_of_getElem? ho)

/-- A filled stop stays where it is. -/
theorem SoldByStop.evolve {f : Fill} (h : SoldByStop orders f) (hext : OrdersExtend orders orders') :
    SoldByStop orders' f := by
  obtain ⟨hside, i, o, hi, hstop, hfilled, hrest⟩ := h
  obtain ⟨o', ho', -, hfinal⟩ := hext i o hi
  have hterminal : o.status.IsTerminal := by
    rw [hfilled]
    decide
  rw [hfinal hterminal] at ho'
  exact ⟨hside, i, o, ho', hstop, hfilled, hrest⟩

end

section

variable {ctx : DecimalContext} {hash : String → RawLedgerEntry → String}
variable {σ : Type} {strategy : Strategy σ} {config : BacktestConfig} {snapshot : DatasetSnapshot}

/-! ### Filling the stop -/

/-- Only an open order has a quote. -/
theorem quote_open {slippage : SlippageModel} {o : SimulatedOrder} {candle : Candle} {idx : ℕ}
    {q : ExecutionQuote} (h : quote ctx slippage o candle idx = .ok (some q)) : o.status = .open := by
  by_contra hne
  unfold quote at h
  rw [if_pos (.inl hne)] at h
  cases h

theorem makeFill_record {o : SimulatedOrder} {q : ExecutionQuote} {t : Instant} {idx seq : ℕ}
    {fill : Fill} (h : makeFill ctx config o q t idx seq = .ok fill) :
    fill.orderId = o.orderId ∧ fill.reason = q.reason := by
  simp only [makeFill, bind_eq_ok, Fill.validate_eq_ok] at h
  obtain ⟨fee, -, -, rfl⟩ := h
  exact ⟨rfl, rfl⟩

/-- A sale of the whole position leaves none. -/
theorem applyFill_sell_all (hzero : ctx.round 0 = 0) {p : PortfolioState} {fill : Fill}
    {mutation : PortfolioMutation} (h : applyFill ctx p fill = .ok mutation)
    (hside : fill.side = .sell) (hall : fill.quantity = p.baseQuantity) :
    mutation.after.baseQuantity = 0 := by
  obtain ⟨-, -, hafter⟩ := applyFill_eq_ok h
  rw [hafter]
  change (filledState ctx p fill).baseQuantity = 0
  unfold filledState
  rw [hside]
  change ctx.sub p.baseQuantity fill.quantity = 0
  rw [hall, DecimalContext.sub, sub_self, hzero]

theorem valid_base_nonneg {p : PortfolioState} (h : p.Valid ctx) : 0 ≤ p.baseQuantity :=
  h.nonneg ("base_quantity", p.baseQuantity) (by simp [PortfolioState.nonnegativeFields])

/-- The portfolio of every reached point is valid. -/
theorem EngineStep.valid {p q : EnginePoint σ} (hp : p.state.portfolio.Valid ctx)
    (h : EngineStep ctx hash strategy config snapshot p q) : q.state.portfolio.Valid ctx := by
  cases h with
  | started answer =>
    obtain ⟨intents, st, rfl⟩ := answerStart_cases answer
    exact hp
  | warm admitted early ask =>
    obtain ⟨acc, -, -, rfl⟩ := admitCandle_cases admitted
    exact hp
  | warmed answer =>
    obtain ⟨st, rfl⟩ := answerWarmup_cases answer
    exact hp
  | enter admitted evaluated submit =>
    obtain ⟨acc, -, -, rfl⟩ := admitCandle_cases admitted
    obtain ⟨added, -, rfl, -⟩ := submitPendingStart_added submit
    exact hp
  | pass unfilled visit =>
    rcases visitOrder_pass unfilled visit with rfl | ⟨o, status, t, hi, -, -, hmove⟩
    · exact hp
    · obtain ⟨orders, -, rfl⟩ := transitionAt_cases hi hmove
      exact hp
  | fill attempt book ask =>
    obtain ⟨mutation, filled, happlied, -, -, -, hportfolio, -⟩ := bookFill_cases book
    unfold EnginePoint.state
    rw [hportfolio]
    exact (applyFill_eq_ok happlied).2.1
  | told answer =>
    obtain ⟨added, st, -, rfl⟩ := answerFill_cases answer
    exact hp
  | close mark ask =>
    obtain ⟨hmark, -⟩ := markAndHalt_cases mark
    obtain ⟨-, hvalid, heq⟩ := markToMarket_eq_ok.mp hmark
    exact heq ▸ hvalid
  | closed answer =>
    obtain ⟨added, st, -, rfl⟩ := answerCandle_cases answer
    exact hp

theorem Reached.valid {p : EnginePoint σ} (h : Reached ctx hash strategy config snapshot p) :
    p.state.portfolio.Valid ctx := by
  refine h.induct (fun s context hopen => ?_) fun p q hp hstep => hstep.valid hp
  exact (initializePortfolio_eq_ok (openState_cases hopen).1).1

/-! ### The invariant after a halt -/

/-- The point lies after the candle `n`: whatever candle it fills against has a larger number. -/
def EnginePoint.After (n : ℕ) : EnginePoint σ → Prop
  | .starting _ _ => False
  | .between s => n < s.candlesProcessed
  | .warming _ _ s _ => n < s.candlesProcessed
  | .filling c s _ => n < c.candleIndex ∧ n < s.candlesProcessed
  | .telling c s _ _ _ => n < c.candleIndex ∧ n < s.candlesProcessed
  | .closing _ s _ => n ≤ s.candlesProcessed

/-- **What holds at every point after a halt** that left the state `h`. -/
structure HaltedSince (h : EngineState σ) (p : EnginePoint σ) : Prop where
  after : p.After h.candlesProcessed
  riskHalt : p.state.riskHalt = true
  onlyStops : OnlyStopsOpen p.state.orders
  noneAccepted : NoneAccepted h.orders.length p.state.orders
  fills : ∃ added, p.state.fills = h.fills ++ added ∧
    ∀ f ∈ added, h.candlesProcessed < f.candleIndex ∧ SoldByStop p.state.orders f

/-- The orders of a strategy submitted under a halt are refused. -/
theorem Submitted.refused {o : SimulatedOrder} (h : Submitted true o) : o.Refused := h.halted rfl

/-- Answers submitted under a halt change only refused orders. -/
theorem HaltedSince.submitted {h s s' : EngineState σ} {p q : EnginePoint σ}
    (hp : HaltedSince h p) (hs : p.state = s) (hq : q.state = s') (hafter : q.After h.candlesProcessed)
    {added : List SimulatedOrder} (hadded : ∀ o ∈ added, Submitted s.riskHalt o)
    (horders : s'.orders = s.orders ++ added) (hfills : s'.fills = s.fills)
    (hhalt : s'.riskHalt = s.riskHalt) : HaltedSince h q := by
  subst hs
  subst hq
  rw [hp.riskHalt] at hadded
  have honly : OnlyStopsOpen added := by
    intro o ho _
    rw [((hadded o ho).refused).1]
    simp
  refine ⟨hafter, hhalt.trans hp.riskHalt, ?_, ?_, ?_⟩
  · rw [horders]
    exact hp.onlyStops.append honly
  · rw [horders]
    exact hp.noneAccepted.append fun o ho => .inr (hadded o ho).refused
  · obtain ⟨f, hf, hsold⟩ := hp.fills
    refine ⟨f, hfills.trans hf, fun x hx => ⟨(hsold x hx).1, ?_⟩⟩
    rw [horders]
    exact (hsold x hx).2.evolve (ordersExtend_append _ _)

/-- **Every step after a halt keeps it, and never enlarges the position.** -/
theorem EngineStep.haltedSince (hzero : ctx.round 0 = 0) {h : EngineState σ} {p q : EnginePoint σ}
    (hprotected : p.Protected ctx config) (hvalid : p.state.portfolio.Valid ctx)
    (hp : HaltedSince h p) (hstep : EngineStep ctx hash strategy config snapshot p q) :
    HaltedSince h q ∧ q.state.portfolio.baseQuantity ≤ p.state.portfolio.baseQuantity := by
  have hafter := hp.after
  cases hstep with
  | started answer => exact hafter.elim
  | warm admitted early ask =>
    obtain ⟨acc, -, -, rfl⟩ := admitCandle_cases admitted
    exact ⟨⟨hafter, hp.riskHalt, hp.onlyStops, hp.noneAccepted, hp.fills⟩, le_rfl⟩
  | warmed answer =>
    obtain ⟨st, rfl⟩ := answerWarmup_cases answer
    exact ⟨⟨hafter, hp.riskHalt, hp.onlyStops, hp.noneAccepted, hp.fills⟩, le_rfl⟩
  | enter admitted evaluated submit =>
    obtain ⟨acc, -, -, rfl⟩ := admitCandle_cases admitted
    obtain ⟨added, hadded, rfl, -⟩ := submitPendingStart_added submit
    exact ⟨hp.submitted rfl rfl ⟨hafter, hafter⟩ hadded rfl rfl rfl, le_rfl⟩
  | pass unfilled visit =>
    rcases visitOrder_pass unfilled visit with rfl | ⟨o, status, t, hi, -, hstatus, hmove⟩
    · exact ⟨⟨hafter, hp.riskHalt, hp.onlyStops, hp.noneAccepted, hp.fills⟩, le_rfl⟩
    · simp only [transitionAt, bind_eq_ok, pure, Except.pure, Except.ok.injEq] at hmove
      obtain ⟨o', ho', rfl⟩ := hmove
      obtain ⟨-, -, hreached⟩ := transitionOrder_evolves ho'
      have hext := ordersExtend_set hi ho'
      obtain ⟨added, hadded, hsold⟩ := hp.fills
      exact ⟨⟨hafter, hp.riskHalt, hp.onlyStops.set (hreached ▸ hstatus),
        hp.noneAccepted.evolve hext List.length_set, added, hadded,
        fun f hf => ⟨(hsold f hf).1, (hsold f hf).2.evolve hext⟩⟩, le_rfl⟩
  | @fill c s s' i todo o fill context attempt book ask =>
    obtain ⟨mutation, filled, happlied, -, hfilled, hreconcile, hportfolio, hfills, hhalt, hn⟩ :=
      bookFill_cases book
    obtain ⟨q, hq, hfill⟩ := attempt.quoted
    have hmem : o ∈ s.orders := List.mem_of_getElem? attempt.order_at
    have hopen : o.status = .open := quote_open hq
    have hstop : o.isEngineStop = true := by
      by_contra hne
      exact hp.onlyStops o hmem (by simpa using hne) hopen
    obtain ⟨hvalidFill, hidx, hside, hquantity, -⟩ := makeFill_eq_ok hfill
    obtain ⟨hwhole, hsell⟩ := Protection.quantity hprotected hmem hopen hstop
    have hflat : s'.portfolio.baseQuantity = 0 := by
      rw [hportfolio]
      exact applyFill_sell_all hzero happlied (hside.trans hsell) (hquantity.trans hwhole)
    have hext : OrdersExtend s.orders s'.orders :=
      (ordersExtend_set attempt.order_at hfilled).trans (reconcileStopLoss_extends hreconcile)
    obtain ⟨-, -, hstatus⟩ := transitionOrder_evolves hfilled
    obtain ⟨decision, placed, -, horders, hplaced⟩ := reconcileStopLoss_cases hreconcile
    have hplacedStop : ∀ x ∈ placed, x.isEngineStop = true := by
      cases decision with
      | none =>
        have hnil : placed = [] := hplaced
        simp [hnil]
      | some d =>
        obtain ⟨x, rfl, hprotects⟩ := hplaced
        simp [hprotects.isEngineStop]
    refine ⟨⟨⟨hafter.1, ?_⟩, hhalt.trans hp.riskHalt, ?_, ?_, ?_⟩, ?_⟩
    · rw [hn]
      exact hafter.2
    · unfold EnginePoint.state
      rw [horders]
      refine ((hp.onlyStops.set ?_).map_moved _ _).append fun x hx hfalse => ?_
      · rw [hstatus]
        simp
      · rw [hplacedStop x hx] at hfalse
        cases hfalse
    · unfold EnginePoint.state
      rw [horders]
      have hset : NoneAccepted h.orders.length (s.orders.set i filled) :=
        hp.noneAccepted.evolve (ordersExtend_set attempt.order_at hfilled) List.length_set
      refine NoneAccepted.append (hset.evolve ?_ (by simp)) fun x hx => .inl (hplacedStop x hx)
      simp only [reconcileStopLoss, bind_eq_ok] at hreconcile
      obtain ⟨cancelled, hcancel, -⟩ := hreconcile
      have hcancelled := transitionWhere_extends hcancel
      rw [(transitionWhere_eq_ok.mp hcancel).2] at hcancelled
      exact hcancelled
    · obtain ⟨added, hadded, hsold⟩ := hp.fills
      refine ⟨added ++ [fill], ?_, fun f hf => ?_⟩
      · unfold EnginePoint.state
        rw [hfills, ← List.append_assoc, ← hadded]
        rfl
      · rcases List.mem_append.mp hf with hf | hf
        · exact ⟨(hsold f hf).1, (hsold f hf).2.evolve hext⟩
        · rw [List.mem_singleton.mp hf, hidx]
          refine ⟨hafter.1, SoldByStop.evolve ?_ (reconcileStopLoss_extends hreconcile)⟩
          obtain ⟨-, rfl⟩ := transitionOrder_eq_ok.mp hfilled
          have hlt : i < s.orders.length := (List.getElem?_eq_some_iff.mp attempt.order_at).1
          refine ⟨hside.trans hsell, i, o.moved .filled c.candle.openTime none, by simp [hlt], ?_, rfl,
            (makeFill_record hfill).1.symm, hquantity.symm⟩
          rw [o.moved_isEngineStop, hstop]
    · unfold EnginePoint.state
      rw [hflat]
      exact valid_base_nonneg hvalid
  | told answer =>
    obtain ⟨added, st, hadded, rfl⟩ := answerFill_cases answer
    exact ⟨hp.submitted rfl rfl hafter hadded rfl rfl rfl, le_rfl⟩
  | @close c s s' context mark ask =>
    obtain ⟨hmark, -, hfills, hn, horders⟩ := markAndHalt_cases mark
    obtain ⟨-, -, hmarked⟩ := markToMarket_eq_ok.mp hmark
    have hbase : s'.portfolio.baseQuantity = s.portfolio.baseQuantity := by rw [hmarked]; rfl
    rcases horders with ⟨hhalt, hsame⟩ | ⟨hfalse, -⟩
    · refine ⟨⟨?_, hhalt.trans hp.riskHalt, ?_, ?_, ?_⟩, hbase.le⟩
      · exact hafter.2.le.trans hn.ge
      · exact hsame ▸ hp.onlyStops
      · exact hsame ▸ hp.noneAccepted
      · obtain ⟨added, hadded, hsold⟩ := hp.fills
        exact ⟨added, hfills.trans hadded, fun f hf => ⟨(hsold f hf).1, hsame ▸ (hsold f hf).2⟩⟩
    · have htrue : s.riskHalt = true := hp.riskHalt
      rw [hfalse] at htrue
      cases htrue
  | closed answer =>
    obtain ⟨added, st, hadded, rfl⟩ := answerCandle_cases answer
    exact ⟨hp.submitted rfl rfl (Nat.lt_succ_of_le hafter) hadded rfl rfl rfl, le_rfl⟩

theorem haltedSince_steps (hzero : ctx.round 0 = 0) {h : EngineState σ} {p q : EnginePoint σ}
    (hreached : Reached ctx hash strategy config snapshot p) (hp : HaltedSince h p)
    (hsteps : ReflTransGen (EngineStep ctx hash strategy config snapshot) p q) :
    HaltedSince h q ∧ q.state.portfolio.baseQuantity ≤ p.state.portfolio.baseQuantity := by
  induction hsteps with
  | refl => exact ⟨hp, le_rfl⟩
  | tail hsteps step ih =>
    have hr := hreached.steps hsteps
    obtain ⟨hq, hle⟩ := step.haltedSince hzero hr.protected hr.valid ih.1
    exact ⟨hq, hle.trans ih.2⟩

/-! ### The numbers of the fills -/

/-- The candle that a point fills against has the number of the next equity point, and no fill
has a larger one. -/
def EnginePoint.Numbered (p : EnginePoint σ) : Prop :=
  (∀ f ∈ p.state.fills, f.candleIndex ≤ p.state.candlesProcessed) ∧
    match p with
    | .filling c s _ => c.candleIndex = s.candlesProcessed
    | .telling c s _ _ _ => c.candleIndex = s.candlesProcessed
    | .closing c s _ => c.candleIndex = s.candlesProcessed
    | _ => True

theorem Reached.numbered {p : EnginePoint σ} (h : Reached ctx hash strategy config snapshot p) :
    p.Numbered := by
  refine h.induct (fun s context hopen => ?_) fun p q hp hstep => ?_
  · simp only [openState, bind_eq_ok, pure, Except.pure, Except.ok.injEq, Prod.mk.injEq] at hopen
    obtain ⟨portfolio, -, ledger, -, c, -, rfl, rfl⟩ := hopen
    exact ⟨by simp [EnginePoint.state], trivial⟩
  · cases hstep with
    | started answer =>
      obtain ⟨intents, st, rfl⟩ := answerStart_cases answer
      exact hp
    | warm admitted early ask =>
      obtain ⟨acc, -, -, rfl⟩ := admitCandle_cases admitted
      exact hp
    | warmed answer =>
      obtain ⟨st, rfl⟩ := answerWarmup_cases answer
      exact hp
    | enter admitted evaluated submit =>
      obtain ⟨acc, -, -, rfl⟩ := admitCandle_cases admitted
      obtain ⟨added, -, rfl, -⟩ := submitPendingStart_added submit
      exact ⟨hp.1, rfl⟩
    | pass unfilled visit =>
      rcases visitOrder_pass unfilled visit with rfl | ⟨o, status, t, hi, -, -, hmove⟩
      · exact hp
      · obtain ⟨orders, -, rfl⟩ := transitionAt_cases hi hmove
        exact hp
    | @fill c s s' i todo o fill context attempt book ask =>
      obtain ⟨mutation, filled, -, -, -, -, -, hfills, -, hn⟩ := bookFill_cases book
      obtain ⟨q, -, hfill⟩ := attempt.quoted
      have hidx := (makeFill_eq_ok hfill).2.1
      have hc : c.candleIndex = s.candlesProcessed := hp.2
      refine ⟨fun f hf => ?_, hc.trans hn.symm⟩
      unfold EnginePoint.state at hf ⊢
      rw [hfills] at hf
      rw [hn]
      rcases List.mem_append.mp hf with hf | hf
      · exact hp.1 f hf
      · rw [List.mem_singleton.mp hf, hidx, hc]
    | told answer =>
      obtain ⟨added, st, -, rfl⟩ := answerFill_cases answer
      exact hp
    | @close c s s' context mark ask =>
      obtain ⟨-, -, hfills, hn, -⟩ := markAndHalt_cases mark
      have hc : c.candleIndex = s.candlesProcessed := hp.2
      refine ⟨fun f hf => ?_, hc.trans hn.symm⟩
      unfold EnginePoint.state at hf ⊢
      rw [hfills] at hf
      rw [hn]
      exact hp.1 f hf
    | closed answer =>
      obtain ⟨added, st, -, rfl⟩ := answerCandle_cases answer
      exact ⟨fun f hf => Nat.le_succ_of_le (hp.1 f hf), trivial⟩

/-- A fill of a later candle than the halt sold what an engine stop was for. -/
theorem HaltedSince.later_fill {h : EngineState σ} {p : EnginePoint σ} (hp : HaltedSince h p)
    (hnumbers : ∀ f ∈ h.fills, f.candleIndex ≤ h.candlesProcessed) {f : Fill}
    (hf : f ∈ p.state.fills) (hlater : h.candlesProcessed < f.candleIndex) :
    SoldByStop p.state.orders f := by
  obtain ⟨added, hadded, hsold⟩ := hp.fills
  rw [hadded] at hf
  rcases List.mem_append.mp hf with hf | hf
  · exact absurd hlater (not_lt.mpr (hnumbers f hf))
  · exact (hsold f hf).2

/-! ### The end of a halted run -/

/-- The order and the fill of a forced close. -/
theorem forceClose_orders {s s' : EngineState σ} {candle : Candle}
    {hbase : 0 < s.portfolio.baseQuantity} (h : forceClose ctx hash config s candle hbase = .ok s') :
    ∃ fill mutation closed, s'.fills = s.fills ++ [fill] ∧ fill.reason = .forceClose ∧
      fill.side = .sell ∧ fill.quantity = s.portfolio.baseQuantity ∧
      applyFill ctx s.portfolio fill = .ok mutation ∧
      recordFill ctx hash s.ledger fill mutation = .ok s'.ledger ∧
      markToMarket ctx mutation.after candle.close = .ok s'.portfolio ∧
      closed.status = .filled ∧ reconcileStopLoss ctx config s'.portfolio (s.orders ++ [closed])
        candle.closeTime ((s.candlesProcessed - 1 : ℕ) : ℤ) = .ok s'.orders ∧
      s'.riskHalt = s.riskHalt := by
  simp only [forceClose, bind_eq_ok, FailureKind.unless_eq_ok, exists_const, pure, Except.pure,
    Except.ok.injEq] at h
  obtain ⟨-, order, horder, opened, hopened, q, hq, fill, hfill, mutation, hmutation, ledger, hledger,
    closed, hclosed, portfolio, hportfolio, orders, horders, rfl⟩ := h
  obtain ⟨hintent, -⟩ := createOrder_eq_ok horder
  obtain ⟨hsame, -, -⟩ := transitionOrder_evolves hopened
  obtain ⟨-, -, hstatus⟩ := transitionOrder_evolves hclosed
  obtain ⟨-, -, hside, hquantity, -⟩ := makeFill_eq_ok hfill
  obtain ⟨-, hreason, -⟩ := adverseQuote_eq_ok hq
  have hopenedIntent := hsame.intent.trans hintent
  refine ⟨fill, mutation, closed, rfl, (makeFill_record hfill).2.trans hreason, ?_, ?_, hmutation,
    hledger, hportfolio, hstatus, horders, rfl⟩
  · rw [hside, hopenedIntent]
    rfl
  · rw [hquantity, hopenedIntent]
    rfl

/-- What the end of a run adds to a halted state: no order is open but a stop, what was submitted
stays refused, and the only fill that no stop explains is the forced close. -/
structure HaltedEnd (h s s' : EngineState σ) : Prop where
  riskHalt : s'.riskHalt = true
  onlyStops : OnlyStopsOpen s'.orders
  noneAccepted : NoneAccepted h.orders.length (s'.orders.take s.orders.length)
  fills : ∀ f ∈ s'.fills, h.candlesProcessed < f.candleIndex → SoldByStop s'.orders f ∨
    (f.reason = .forceClose ∧ f.side = .sell ∧ s'.fills = s.fills ++ [f])
  base : s'.portfolio.baseQuantity ≤ s.portfolio.baseQuantity

theorem ordersExtend_length {orders orders' : List SimulatedOrder} (h : OrdersExtend orders orders') :
    orders.length ≤ orders'.length := by
  by_contra hlt
  rw [not_le] at hlt
  obtain ⟨o, ho, -⟩ := h orders'.length orders[orders'.length] (List.getElem?_eq_getElem hlt)
  rw [List.getElem?_eq_none le_rfl] at ho
  cases ho

/-- The part of an evolved list that was there before evolved. -/
theorem ordersExtend_take {orders orders' : List SimulatedOrder} (h : OrdersExtend orders orders') :
    OrdersExtend orders (orders'.take orders.length) := by
  intro i o ho
  obtain ⟨o', ho', hrest⟩ := h i o ho
  have hlt : i < orders.length := (List.getElem?_eq_some_iff.mp ho).1
  exact ⟨o', by rw [List.getElem?_take_of_lt hlt, ho'], hrest⟩

theorem HaltedSince.finish (hzero : ctx.round 0 = 0) {h s s' : EngineState σ} {cancel : Bool}
    (hp : HaltedSince h (.between s)) (hvalid : s.portfolio.Valid ctx)
    (hnumbers : ∀ f ∈ h.fills, f.candleIndex ≤ h.candlesProcessed)
    (hfinish : finishRun ctx hash strategy config snapshot cancel s = .ok s') : HaltedEnd h s s' := by
  obtain ⟨candle, -, -, s₁, s₂, hcancel, hforce, final, st, context, -, -, rfl⟩ :=
    finishRun_cases hfinish
  have hs₁ : s₁.portfolio = s.portfolio ∧ s₁.fills = s.fills ∧ s₁.riskHalt = s.riskHalt ∧
      OrdersExtend s.orders s₁.orders ∧ s₁.orders.length = s.orders.length ∧
      OnlyStopsOpen s₁.orders := by
    unfold cancelAtEnd at hcancel
    cases cancel with
    | false =>
      cases hcancel
      exact ⟨rfl, rfl, rfl, .refl _, rfl, hp.onlyStops⟩
    | true =>
      simp only [if_true, bind_eq_ok, pure, Except.pure, Except.ok.injEq] at hcancel
      obtain ⟨orders, horders, rfl⟩ := hcancel
      obtain ⟨-, heq⟩ := transitionWhere_eq_ok.mp horders
      exact ⟨rfl, rfl, rfl, cancelOpenOrders_extends horders, by simp [heq],
        heq ▸ OnlyStopsOpen.map_moved hp.onlyStops _ _⟩
  obtain ⟨hportfolio₁, hfills₁, hhalt₁, hext₁, hlength₁, honly₁⟩ := hs₁
  have hlater : ∀ f ∈ s.fills, h.candlesProcessed < f.candleIndex → SoldByStop s₁.orders f :=
    fun f hf hlt => (hp.later_fill hnumbers hf hlt).evolve hext₁
  have hnone₁ : NoneAccepted h.orders.length s₁.orders := hp.noneAccepted.evolve hext₁ hlength₁
  unfold forceCloseAtEnd at hforce
  split at hforce
  · next hdue =>
    obtain ⟨fill, mutation, closed, hfills, hreason, hside, hquantity, happlied, -, hmark, hstatus,
      hreconcile, hhalt⟩ := forceClose_orders hforce
    have hext : OrdersExtend s₁.orders s₂.orders :=
      (ordersExtend_append _ _).trans (reconcileStopLoss_extends hreconcile)
    obtain ⟨decision, placed, -, horders, hplaced⟩ := reconcileStopLoss_cases hreconcile
    have hplacedStop : ∀ x ∈ placed, x.isEngineStop = true := by
      cases decision with
      | none =>
        have hnil : placed = [] := hplaced
        simp [hnil]
      | some d =>
        obtain ⟨x, rfl, hprotects⟩ := hplaced
        simp [hprotects.isEngineStop]
    have hflat : s₂.portfolio.baseQuantity = 0 := by
      obtain ⟨-, -, hmarked⟩ := markToMarket_eq_ok.mp hmark
      rw [hmarked]
      exact applyFill_sell_all hzero happlied hside hquantity
    refine
      { riskHalt := hhalt.trans (hhalt₁.trans hp.riskHalt)
        onlyStops := ?_
        noneAccepted := ?_
        fills := fun f hf hlt => ?_
        base := ?_ }
    · change OnlyStopsOpen s₂.orders
      rw [horders]
      refine ((honly₁.append ?_).map_moved _ _).append fun x hx hfalse => ?_
      · intro x hx _
        rw [List.mem_singleton.mp hx, hstatus]
        simp
      · rw [hplacedStop x hx] at hfalse
        cases hfalse
    · rw [← hlength₁]
      refine hnone₁.evolve (ordersExtend_take hext) ?_
      rw [List.length_take, min_eq_left (ordersExtend_length hext)]
    · change f ∈ s₂.fills at hf
      change SoldByStop s₂.orders f ∨ (f.reason = .forceClose ∧ f.side = .sell ∧
        s₂.fills = s.fills ++ [f])
      rw [hfills, hfills₁] at hf
      rcases List.mem_append.mp hf with hf | hf
      · exact .inl ((hlater f hf hlt).evolve hext)
      · rw [List.mem_singleton.mp hf, hfills, hfills₁]
        exact .inr ⟨hreason, hside, rfl⟩
    · change s₂.portfolio.baseQuantity ≤ s.portfolio.baseQuantity
      rw [hflat]
      exact valid_base_nonneg hvalid
  · cases hforce
    exact
      { riskHalt := hhalt₁.trans hp.riskHalt
        onlyStops := honly₁
        noneAccepted := by
          rw [← hlength₁]
          exact hnone₁.evolve (ordersExtend_take (.refl _)) (by simp)
        fills := fun f hf hlt => .inl (hlater f (hfills₁ ▸ hf) hlt)
        base := hportfolio₁ ▸ le_rfl }

/-- **A drawdown halt is permanent and closes the strategy out.**  Let the close of a candle halt
the run in the state `h`, before `on_candle` is called.  At every later point of the run the halt
is active, no order but the engine's stop is open, whatever was submitted since is refused, and
every fill of a later candle sold the position behind an engine stop; the position never grows.
The end of the run only adds the forced close to that. -/
theorem drawdown_halt_permanent (hzero : ctx.round 0 = 0) {c : OpenCandle} {s h : EngineState σ}
    {context : StrategyContext} (hreached : Reached ctx hash strategy config snapshot (.filling c s []))
    (hclose : EngineStep ctx hash strategy config snapshot (.filling c s []) (.closing c h context))
    (hclear : s.riskHalt = false) (hhalt : h.riskHalt = true) :
    h.candlesProcessed = c.candleIndex ∧
    (∀ p, ReflTransGen (EngineStep ctx hash strategy config snapshot) (.closing c h context) p →
      p.state.riskHalt = true ∧ OnlyStopsOpen p.state.orders ∧
        NoneAccepted h.orders.length p.state.orders ∧
        (∀ f ∈ p.state.fills, c.candleIndex < f.candleIndex → SoldByStop p.state.orders f) ∧
        ∀ q, ReflTransGen (EngineStep ctx hash strategy config snapshot) p q →
          q.state.portfolio.baseQuantity ≤ p.state.portfolio.baseQuantity) ∧
    ∀ s₁ cancel s₂,
      ReflTransGen (EngineStep ctx hash strategy config snapshot) (.closing c h context) (.between s₁) →
      finishRun ctx hash strategy config snapshot cancel s₁ = .ok s₂ → HaltedEnd h s₁ s₂ := by
  have hat : Reached ctx hash strategy config snapshot (.closing c h context) :=
    hreached.steps (.single hclose)
  obtain ⟨hnumbers, hindex⟩ := hat.numbered
  have hindex' : c.candleIndex = h.candlesProcessed := hindex
  have hsince : HaltedSince h (.closing c h context) := by
    cases hclose with
    | close mark ask =>
      obtain ⟨-, -, -, -, ⟨hsame, -⟩ | ⟨-, -, hcancel⟩⟩ := markAndHalt_cases mark
      · rw [hclear, hhalt] at hsame
        cases hsame
      · refine ⟨le_rfl, hhalt, onlyStopsOpen_cancelled hcancel, fun i o hi ho => ?_, [], ?_, by simp⟩
        · exact absurd (List.getElem?_eq_some_iff.mp ho).1 (not_lt.mpr hi)
        · exact (List.append_nil _).symm
  refine ⟨hindex'.symm, fun p hsteps => ?_, fun s₁ cancel s₂ hsteps hfinish => ?_⟩
  · obtain ⟨hp, -⟩ := haltedSince_steps hzero hat hsince hsteps
    refine ⟨hp.riskHalt, hp.onlyStops, hp.noneAccepted, fun f hf hlater => ?_, fun q hq => ?_⟩
    · exact hp.later_fill hnumbers hf (hindex' ▸ hlater)
    · exact (haltedSince_steps hzero (hat.steps hsteps) hp hq).2
  · obtain ⟨hp, -⟩ := haltedSince_steps hzero hat hsince hsteps
    exact hp.finish hzero (hat.steps hsteps).valid hnumbers hfinish

/-- A candle that is evaluated goes through its close, and only its close can halt the run. -/
theorem processCandle_closing {s s' : EngineState σ} {candle : Candle}
    (hreached : Reached ctx hash strategy config snapshot (.between s))
    (hevaluated : (evaluationRangeFor config).start ≤ candle.openTime)
    (hprocess : processCandle ctx hash strategy config snapshot s candle = .ok s') :
    ∃ c s₁ s₂ context, Reached ctx hash strategy config snapshot (.filling c s₁ []) ∧
      EngineStep ctx hash strategy config snapshot (.filling c s₁ []) (.closing c s₂ context) ∧
      s₁.riskHalt = s.riskHalt ∧ s₂.riskHalt = s'.riskHalt := by
  obtain ⟨s₀, regime, hadmit, ⟨hearly, -⟩ | ⟨-, s₁, hfill, hclose⟩⟩ := processCandle_cases hprocess
  · exact absurd hevaluated (not_le.mpr hearly)
  · simp only [fillPhase, bind_eq_ok] at hfill
    obtain ⟨s₂, hsubmit, hwalk⟩ := hfill
    rw [closePhase_eq, bind_eq_ok] at hclose
    obtain ⟨s₃, hmark, hclose⟩ := hclose
    rw [bind_eq_ok] at hclose
    obtain ⟨context, hask, hanswer⟩ := hclose
    have hsteps := foldlM_visitOrder_steps (c := ⟨candle, s₀.candlesProcessed, s₀.history, regime⟩)
      hwalk []
    rw [List.append_nil] at hsteps
    obtain ⟨acc, -, -, hadmitted⟩ := admitCandle_cases hadmit
    obtain ⟨added, -, hsubmitted, -⟩ := submitPendingStart_added hsubmit
    obtain ⟨orders, st, -, hanswered⟩ := answerCandle_cases hanswer
    have hstart : s₂.riskHalt = s.riskHalt := by rw [hsubmitted, hadmitted]
    refine ⟨_, s₁, s₃, context, hreached.steps ((Relation.ReflTransGen.single
      (.enter hadmit hevaluated hsubmit)).trans hsteps), .close hmark hask, ?_, ?_⟩
    · refine foldlM_preserves (P := fun b => b.riskHalt = s.riskHalt) (fun b i b' hb hvisit => ?_)
        _ _ _ hstart hwalk
      rcases visitOrder_cases hvisit with ⟨orders, -, rfl⟩ | ⟨fill, mutation, hstep⟩
      · exact hb
      · exact hstep.riskHalt.trans hb
    · rw [hanswered]

end

/-! ### A sample run

The strategy that buys one unit, under a halt at a drawdown of one percent. -/

/-- The sample configuration with that halt. -/
def haltingConfig : BacktestConfig :=
  let base := holdConfig 0 validBps_zero false
  { base with
    riskLimits := { base.riskLimits with
      maxDrawdownPct := some 1
      stopOnMaxDrawdown := true
      maxDrawdownPct_range := by
        rintro m ⟨⟩
        norm_num } }

/-- The fall halts the sample run, for good. -/
theorem falling_candles_halt :
    ∃ c s h context, EngineStep .exact (fun _ _ => "") buyAndHold haltingConfig holdSnapshot
        (.filling c s []) (.closing c h context) ∧ h.riskHalt = true ∧
      h.candlesProcessed = c.candleIndex ∧
      ∀ p, ReflTransGen (EngineStep .exact (fun _ _ => "") buyAndHold haltingConfig holdSnapshot)
        (.closing c h context) p → p.state.riskHalt = true ∧ OnlyStopsOpen p.state.orders := by
  have hbefore : (runCandles .exact (fun _ _ => "") buyAndHold haltingConfig holdSnapshot
      [dailyCandle 0 100 100]).map (fun s => s.riskHalt) = .ok false := by
    decide +kernel
  have hafter : (runCandles .exact (fun _ _ => "") buyAndHold haltingConfig holdSnapshot
      [dailyCandle 0 100 100] >>= fun s => processCandle .exact (fun _ _ => "") buyAndHold
        haltingConfig holdSnapshot s (dailyCandle 1 100 80)).map (fun s => s.riskHalt) =
      .ok true := by
    decide +kernel
  cases hrun : runCandles .exact (fun _ _ => "") buyAndHold haltingConfig holdSnapshot
      [dailyCandle 0 100 100] with
  | error e =>
    rw [hrun] at hbefore
    cases hbefore
  | ok s =>
    rw [hrun] at hbefore hafter
    rw [ok_bind] at hafter
    have hclear : s.riskHalt = false := by simpa [Except.map] using hbefore
    cases hprocess : processCandle .exact (fun _ _ => "") buyAndHold haltingConfig holdSnapshot s
        (dailyCandle 1 100 80) with
    | error e =>
      rw [hprocess] at hafter
      cases hafter
    | ok s' =>
      rw [hprocess] at hafter
      have hhalt : s'.riskHalt = true := by simpa [Except.map] using hafter
      obtain ⟨c, s₁, h, context, hreached, hclose, hbefore', hafter'⟩ :=
        processCandle_closing (runCandles_reached hrun) (by decide +kernel) hprocess
      obtain ⟨hindex, hlater, -⟩ := drawdown_halt_permanent rfl hreached hclose
        (hbefore'.trans hclear) (hafter'.trans hhalt)
      exact ⟨c, s₁, h, context, hclose, hafter'.trans hhalt, hindex,
        fun p hp => ⟨(hlater p hp).1, (hlater p hp).2.1⟩⟩

end Backtesting
end DryTrade
