import DryTrade.PaperTrading.Chronology

/-!
# When the walk over the executions is accepted

A strictly increasing list of proper executions that never sells more than it holds
is walked to its end: every trade it finishes passes the checks of its constructor,
and so does the journal of the trades, once the accounts are those of the portfolio.

## Main definitions

* `TradeAccumulator.Rebuilds` — the accumulator is that of the executions of one cycle.
* `Walked` — what the walk over a list of executions has built.

## Main results

* `finish_ok` — a cycle that is flat, or that is marked, becomes a trade.
* `Walked.step` — one more execution.
* `journal_validate_ok` — the trades of a whole walk become a journal.
-/

namespace DryTrade
namespace PaperTrading

open MarketData Indicators Backtesting

section

variable {encodings : Encodings} {sessionId : Sha256}

/-! ### Sums over executions -/

/-- An execution of a proper deal. -/
structure PaperTradeExecution.Proper (e : PaperTradeExecution) : Prop where
  deal : e.deal.Proper
  slippage_nonneg : 0 ≤ e.slippageCost

section

variable {amount : PaperTradeExecution → ℚ} {es es' : List PaperTradeExecution}

@[simp] theorem total_nil : total amount [] = 0 := rfl

@[simp] theorem total_append : total amount (es ++ es') = total amount es + total amount es' := by
  simp [total]

@[simp] theorem total_singleton {e : PaperTradeExecution} : total amount [e] = amount e := by
  simp [total]

theorem total_perm (h : es.Perm es') : total amount es = total amount es' :=
  (h.map amount).sum_eq

theorem total_nonneg (h : ∀ e ∈ es, 0 ≤ amount e) : 0 ≤ total amount es := by
  refine List.sum_nonneg fun x hx => ?_
  obtain ⟨e, he, rfl⟩ := List.mem_map.mp hx
  exact h e he

theorem total_pos (h : ∀ e ∈ es, 0 < amount e) (hne : es ≠ []) : 0 < total amount es := by
  refine List.sum_pos _ (fun x hx => ?_) (by simpa using hne)
  obtain ⟨e, he, rfl⟩ := List.mem_map.mp hx
  exact h e he

/-- The sum over a cycle is the one over its entries and its exits. -/
theorem total_split : total amount (split es).1 + total amount (split es).2 = total amount es := by
  induction es using List.reverseRecOn with
  | nil => simp [split]
  | append_singleton es e ih =>
    cases hside : e.side with
    | buy =>
      rw [split_concat_buy es hside, total_append, total_append, ← ih]
      ring
    | sell =>
      rw [split_concat_sell es hside, total_append, total_append, ← ih]
      ring

end

/-- A check of an optional value is one of the value it has. -/
theorem optionForM_eq_ok {f : ℚ → Except Failure Unit} {o : Option ℚ} {u : Unit} :
    o.forM f = .ok u ↔ ∀ a ∈ o, f a = .ok () := by
  cases o with
  | none => simp [Option.forM, pure, Except.pure]
  | some a => simp [Option.forM]

/-! ### One trade -/

/-- The accumulator is that of the executions of a cycle. -/
structure TradeAccumulator.Rebuilds (acc : TradeAccumulator) (c : List PaperTradeExecution) :
    Prop where
  executions : (acc.entries, acc.exits) = split c
  remaining :
    acc.remainingQuantity = total (·.quantity) acc.entries - total (·.quantity) acc.exits
  cost : acc.costBasis =
    total (·.notional) acc.entries + total (·.fee) acc.entries - acc.releasedCostBasis
  released_nonneg : 0 ≤ acc.releasedCostBasis

variable {acc : TradeAccumulator} {c : List PaperTradeExecution} {e : PaperTradeExecution}

theorem TradeAccumulator.Rebuilds.entries (h : acc.Rebuilds c) : acc.entries = (split c).1 :=
  congrArg Prod.fst h.executions

theorem TradeAccumulator.Rebuilds.exits (h : acc.Rebuilds c) : acc.exits = (split c).2 :=
  congrArg Prod.snd h.executions

theorem opened_rebuilds (sequence : ℕ) : (TradeAccumulator.opened sequence sessionId).Rebuilds [] where
  executions := rfl
  remaining := by simp [TradeAccumulator.opened]
  cost := by simp [TradeAccumulator.opened]
  released_nonneg := le_rfl

/-- A buy joins the trade. -/
theorem TradeAccumulator.Rebuilds.buy (h : acc.Rebuilds c) (hside : e.side = .buy) :
    ∃ acc', acc.buy e = .ok acc' ∧ acc'.Rebuilds (c ++ [e]) ∧ acc'.sequence = acc.sequence ∧
      acc'.sessionId = acc.sessionId ∧ acc'.realizedPnl = acc.realizedPnl ∧
      acc'.remainingQuantity = acc.remainingQuantity + e.quantity ∧
      acc'.costBasis = acc.costBasis + (e.notional + e.fee) := by
  simp only [TradeAccumulator.buy, bind_eq_ok, FailureKind.unless_eq_ok, exists_const, pure,
    Except.pure, Except.ok.injEq]
  refine ⟨_, ⟨by simp [hside], rfl⟩, ?_, rfl, rfl, rfl, rfl, rfl⟩
  refine ⟨?_, ?_, ?_, h.released_nonneg⟩
  · rw [split_concat_buy c hside, ← h.executions]
  · simp only [h.remaining, total_append, total_singleton]
    ring
  · simp only [h.cost, total_append, total_singleton]
    ring

/-- A sale that the trade covers leaves it. -/
theorem TradeAccumulator.Rebuilds.sell (h : acc.Rebuilds c) (hside : e.side = .sell)
    (hpos : 0 < e.quantity) (hcovered : e.quantity ≤ acc.remainingQuantity)
    (hcost : 0 ≤ acc.costBasis) :
    ∃ acc', acc.sell e = .ok acc' ∧ acc'.Rebuilds (c ++ [e]) ∧ acc'.sequence = acc.sequence ∧
      acc'.sessionId = acc.sessionId ∧
      acc'.realizedPnl = acc.realizedPnl +
        (e.notional - e.fee - released acc.costBasis acc.remainingQuantity e.quantity) ∧
      acc'.remainingQuantity = acc.remainingQuantity - e.quantity ∧
      acc'.costBasis = if acc.remainingQuantity - e.quantity = 0 then 0
        else acc.costBasis - released acc.costBasis acc.remainingQuantity e.quantity := by
  have hlong : 0 < acc.remainingQuantity := hpos.trans_le hcovered
  simp only [TradeAccumulator.sell, bind_eq_ok, FailureKind.unless_eq_ok, exists_const, pure,
    Except.pure, Except.ok.injEq, Bool.and_eq_true, decide_eq_true_eq]
  refine ⟨_, ⟨by simp [hside], ⟨hcovered, hlong⟩, rfl⟩, ?_, rfl, rfl, rfl, rfl, rfl⟩
  have hreleased : 0 ≤ released acc.costBasis acc.remainingQuantity e.quantity := by
    unfold released
    split
    · exact hcost
    · exact div_nonneg (mul_nonneg hcost hpos.le) hlong.le
  refine ⟨?_, ?_, ?_, add_nonneg h.released_nonneg hreleased⟩
  · rw [split_concat_sell c hside, ← h.executions]
  · simp only [h.remaining, total_append, total_singleton]
    ring
  · have hbefore := h.cost
    by_cases hflat : acc.remainingQuantity - e.quantity = 0
    · have hall : e.quantity = acc.remainingQuantity := (sub_eq_zero.mp hflat).symm
      simp only [if_pos hflat, released, if_pos hall]
      linarith
    · simp only [if_neg hflat]
      linarith

/-- The executions of one trade: a buy, and what follows it. -/
structure Cycle (c : List PaperTradeExecution) : Prop where
  distinct : Distinct c
  proper : ∀ e ∈ c, e.Proper
  opens : ∃ first rest, c = first :: rest ∧ first.side = .buy

/-- The trade is flat, or it is marked at some price. -/
inductive TradeAccumulator.Ends (acc : TradeAccumulator) (mark : Option ℚ) (unrealized : ℚ) : Prop
  | flat (remaining : acc.remainingQuantity = 0) (cost : acc.costBasis = 0) (mark : mark = none)
      (unrealized : unrealized = 0)
  | held (remaining : 0 < acc.remainingQuantity) (cost : 0 < acc.costBasis) (price : ℚ)
      (mark : mark = some price) (price_pos : 0 < price)

/-- The executions of a cycle come no earlier than its first one. -/
theorem Cycle.first_le {first : PaperTradeExecution} {rest : List PaperTradeExecution}
    (h : Cycle (first :: rest)) (he : e ∈ first :: rest) : first.eventTime ≤ e.eventTime := by
  rcases List.mem_cons.mp he with rfl | he
  · exact le_rfl
  · exact ((List.pairwise_cons.mp h.distinct.before).1 e he).eventTime_le

theorem Cycle.entries (h : Cycle c) : Distinct (split c).1 ∧ ∀ e ∈ (split c).1, e.Proper :=
  ⟨h.distinct.sublist List.filter_sublist, fun e he => h.proper e (List.mem_of_mem_filter he)⟩

theorem Cycle.exits (h : Cycle c) : Distinct (split c).2 ∧ ∀ e ∈ (split c).2, e.Proper :=
  ⟨h.distinct.sublist List.filter_sublist, fun e he => h.proper e (List.mem_of_mem_filter he)⟩

section

variable {first last : PaperTradeExecution} {mark : Option ℚ} {unrealized : ℚ}

/-- The executions and the times of a rebuilt cycle are accepted. -/
theorem checkTimes_ok (hacc : acc.Rebuilds c) (hc : Cycle c)
    (hfirst : acc.entries.head? = some first) (hlast : acc.entries.getLast? = some last) :
    (acc.trade encodings first last mark unrealized).checkTimes encodings = .ok () := by
  obtain ⟨opening, rest, rfl, hbuy⟩ := hc.opens
  have hopening : first = opening := by
    rw [hacc.entries] at hfirst
    simpa [split, hbuy] using hfirst.symm
  subst hopening
  have hlastMem : last ∈ first :: rest := by
    refine mem_split.mpr (.inl ?_)
    rw [← hacc.entries]
    exact List.mem_of_getLast? hlast
  have hexit : ∀ e, acc.exits.head? = some e → first.eventTime ≤ e.eventTime := by
    intro e he
    refine hc.first_le (mem_split.mpr (.inr ?_))
    rw [← hacc.exits]
    exact List.mem_of_head? he
  have hne : acc.entries ≠ [] := by
    rintro hnil
    simp [hnil] at hfirst
  have hentries := hc.entries.1.validate
  have hexits := hc.exits.1.validate
  rw [← hacc.entries] at hentries
  rw [← hacc.exits] at hexits
  simp only [PaperTrade.checkTimes, TradeAccumulator.trade, check, bind_eq_ok,
    FailureKind.unless_eq_ok, exists_const, decide_eq_true_eq]
  refine ⟨decide_eq_true (hc.first_le hlastMem), by simpa using hne, ?_, ?_, (), hentries, (),
    hexits, ?_, ?_, ?_, ?_, ?_⟩
  · simp [hacc.entries, split]
  · simp [hacc.exits, split]
  · simp [hfirst]
  · simp [hfirst]
  · simp [hlast]
  · simp
  · cases hhead : acc.exits.head? with
    | none => rfl
    | some e => exact decide_eq_true (hexit e hhead)

/-- The amounts of a rebuilt cycle are accepted. -/
theorem checkAmounts_ok (hacc : acc.Rebuilds c) (hc : Cycle c) (hne : acc.entries ≠ [])
    (hend : acc.Ends mark unrealized) :
    (acc.trade encodings first last mark unrealized).checkAmounts = .ok () := by
  have hentry : ∀ e ∈ acc.entries, e.Proper := hacc.entries ▸ hc.entries.2
  have hexit : ∀ e ∈ acc.exits, e.Proper := hacc.exits ▸ hc.exits.2
  have hopened : 0 < total (·.quantity) acc.entries :=
    total_pos (fun e he => (hentry e he).deal.quantity_pos) hne
  have hnotional : 0 < total (·.notional) acc.entries :=
    total_pos (fun e he => (hentry e he).deal.notional_pos) hne
  have hfees : 0 ≤ total (·.fee) acc.entries :=
    total_nonneg fun e he => (hentry e he).deal.fee_nonneg
  have hslippage : 0 ≤ total (·.slippageCost) acc.entries :=
    total_nonneg fun e he => (hentry e he).slippage_nonneg
  have hclosed : 0 ≤ total (·.quantity) acc.exits :=
    total_nonneg fun e he => (hexit e he).deal.quantity_pos.le
  have hexitNotional : 0 ≤ total (·.notional) acc.exits :=
    total_nonneg fun e he => (hexit e he).deal.notional_pos.le
  have hexitFees : 0 ≤ total (·.fee) acc.exits :=
    total_nonneg fun e he => (hexit e he).deal.fee_nonneg
  have hexitSlippage : 0 ≤ total (·.slippageCost) acc.exits :=
    total_nonneg fun e he => (hexit e he).slippage_nonneg
  have hremaining : 0 ≤ acc.remainingQuantity := by
    cases hend with
    | flat remaining => exact remaining.ge
    | held remaining => exact remaining.le
  have hcost : 0 ≤ acc.costBasis := by
    cases hend with
    | flat remaining cost => exact cost.ge
    | held remaining cost => exact cost.le
  have haverage : ∀ price ∈ (if total (·.quantity) acc.exits = 0 then none
      else some (total (·.notional) acc.exits / total (·.quantity) acc.exits)), 0 < price := by
    intro price hprice
    by_cases hzero : total (·.quantity) acc.exits = 0
    · simp [hzero] at hprice
    · rw [if_neg hzero, Option.mem_some_iff] at hprice
      rw [← hprice]
      have hsome : acc.exits ≠ [] := by
        rintro hnil
        exact hzero (by simp [hnil])
      exact div_pos (total_pos (fun e he => (hexit e he).deal.notional_pos) hsome)
        (hclosed.lt_of_ne' hzero)
  have hmark : ∀ price ∈ mark, 0 < price := by
    intro price hprice
    cases hend with
    | flat remaining cost hmark => simp [hmark] at hprice
    | held remaining cost value hmark hpos =>
      rw [hmark, Option.mem_some_iff] at hprice
      exact hprice ▸ hpos
  simp only [PaperTrade.checkAmounts, check, nonnegative, positive, bind_eq_ok,
    FailureKind.unless_eq_ok, exists_const, decide_eq_true_eq, forM_eq_ok, optionForM_eq_ok]
  refine ⟨?_, ?_, haverage, hmark, rfl, rfl, hacc.remaining, rfl, rfl, rfl, rfl, rfl, rfl, rfl,
    hacc.cost, rfl, rfl, rfl⟩
  · simp only [PaperTrade.nonnegativeFields, TradeAccumulator.trade, List.forall_mem_cons,
      List.not_mem_nil, false_implies, implies_true, and_true]
    exact ⟨hopened.le, hclosed, hremaining, hnotional.le, hexitNotional, hfees, hexitFees,
      hslippage, hexitSlippage, add_nonneg hnotional.le hfees, hacc.released_nonneg, hcost⟩
  · simp only [PaperTrade.positiveFields, TradeAccumulator.trade, List.forall_mem_cons,
      List.not_mem_nil, false_implies, implies_true, and_true]
    exact ⟨hopened, hnotional, add_pos_of_pos_of_nonneg hnotional hfees, div_pos hnotional hopened⟩

/-- The lifecycle of a rebuilt cycle is accepted. -/
theorem checkLifecycle_ok (hacc : acc.Rebuilds c) (hc : Cycle c) (hne : acc.entries ≠ [])
    (hend : acc.Ends mark unrealized) :
    (acc.trade encodings first last mark unrealized).checkLifecycle = .ok () := by
  cases hend with
  | flat remaining cost hmark hunrealized =>
    have hexits : acc.exits ≠ [] := by
      intro hnil
      have hopened : 0 < total (·.quantity) acc.entries :=
        total_pos (fun e he => (hc.entries.2 e (hacc.entries ▸ he)).deal.quantity_pos) hne
      have hflat := hacc.remaining
      rw [remaining, hnil, total_nil, sub_zero] at hflat
      exact hopened.ne hflat
    simp [PaperTrade.checkLifecycle, TradeAccumulator.trade, check, remaining, cost, hmark,
      hunrealized, hexits]
  | held remaining cost price hmark hpos =>
    simp [PaperTrade.checkLifecycle, TradeAccumulator.trade, check, remaining, cost, hmark]

variable (encodings) in
/-- **A cycle that is flat, or that is marked, becomes a trade.** -/
theorem finish_ok (hacc : acc.Rebuilds c) (hc : Cycle c) (hsequence : 1 ≤ acc.sequence)
    (hend : acc.Ends mark unrealized) :
    ∃ first last, c.head? = some first ∧
      acc.finish encodings mark unrealized =
        .ok (acc.trade encodings first last mark unrealized) := by
  obtain ⟨first, rest, hcycle, hbuy⟩ := hc.opens
  have hentries : acc.entries = first :: (split rest).1 := by
    rw [hacc.entries, hcycle]
    simp [split, hbuy]
  have hne : acc.entries ≠ [] := by simp [hentries]
  have hlast : acc.entries.getLast? = some ((split rest).1.getLastD first) := by
    rw [hentries, List.getLast?_cons, List.getLastD_eq_getLast?]
  have hhead : acc.entries.head? = some first := by simp [hentries]
  refine ⟨first, (split rest).1.getLastD first, by simp [hcycle], ?_⟩
  unfold TradeAccumulator.finish
  rw [hentries]
  simp only [PaperTrade.validate, check, bind_eq_ok, FailureKind.unless_eq_ok, exists_const, pure,
    Except.pure, decide_eq_true_eq]
  exact ⟨hsequence, (), checkTimes_ok hacc hc hhead hlast, (), checkAmounts_ok hacc hc hne hend, (),
    checkLifecycle_ok hacc hc hne hend, trivial⟩

end

/-! ### The whole walk -/

/-- A trade that the walk over `done` finished. -/
structure PaperTrade.Finished (sessionId : Sha256) (done : List PaperTradeExecution)
    (t : PaperTrade) : Prop where
  session : t.sessionId = sessionId
  status : t.status = .closed
  unrealized : t.unrealizedPnl = 0
  closedAt : ∃ e ∈ done, t.closedAt = some e.eventTime
  fees : t.entryFees + t.exitFees =
    total (·.fee) (t.entryExecutions ++ t.exitExecutions)
  slippage : t.entrySlippageCost + t.exitSlippageCost =
    total (·.slippageCost) (t.entryExecutions ++ t.exitExecutions)

/-- The trade that the walk has open, whose executions so far are `c`. -/
inductive Replay.Current (sessionId : Sha256) (r : Replay) (c : List PaperTradeExecution) : Prop
  | flat (current : r.current = none) (executions : c = []) (sequence : r.sequence = r.trades.length)
      (position : r.baseQuantity = 0)
      (realized : r.realizedPnl = (r.trades.map PaperTrade.realizedPnl).sum)
  | held (acc : TradeAccumulator) (current : r.current = some acc) (rebuilds : acc.Rebuilds c)
      (opens : ∃ first rest, c = first :: rest ∧ first.side = .buy)
      (sequence : r.sequence = r.trades.length + 1) (same : acc.sequence = r.sequence)
      (session : acc.sessionId = sessionId) (position : acc.remainingQuantity = r.baseQuantity)
      (long : 0 < r.baseQuantity) (cost : acc.costBasis = r.costBasis)
      (realized : r.realizedPnl =
        (r.trades.map PaperTrade.realizedPnl).sum + acc.realizedPnl)

/-- **What the walk over `done` and `c` has built**: the finished trades have the executions of
`done`, and the current one those of `c`. -/
structure Walked (sessionId : Sha256) (done c : List PaperTradeExecution) (r : Replay) : Prop where
  executions : (r.trades.flatMap fun t => t.entryExecutions ++ t.exitExecutions).Perm done
  finished : ∀ t ∈ r.trades, t.Finished sessionId done
  follows : r.trades.Pairwise fun t t' => tradeFollows (t, t') = true
  sequences : r.trades.map PaperTrade.sequence = List.range' 1 r.trades.length
  fees : r.totalFees = total (·.fee) (done ++ c)
  slippage : r.totalSlippage = total (·.slippageCost) (done ++ c)
  sound : r.accounts.Sound
  current : r.Current sessionId c

theorem walked_init (capital : ℚ) : Walked sessionId [] [] (.init capital) where
  executions := .refl _
  finished := by simp [Replay.init]
  follows := .nil
  sequences := rfl
  fees := rfl
  slippage := rfl
  sound := Accounts.start_sound capital
  current := .flat rfl rfl rfl rfl rfl

variable {r : Replay} {done : List PaperTradeExecution}

/-- The accumulator that a buy joins. -/
theorem Replay.Current.accumulator (h : r.Current sessionId c) (hsound : r.accounts.Sound) :
    ∃ acc, acc.Rebuilds c ∧
      r.current.getD (.opened (if r.current.isNone then r.sequence + 1 else r.sequence) sessionId) =
        acc ∧
      acc.sequence = (if r.current.isNone then r.sequence + 1 else r.sequence) ∧
      acc.sequence = r.trades.length + 1 ∧ acc.sessionId = sessionId ∧
      acc.remainingQuantity = r.baseQuantity ∧ acc.costBasis = r.costBasis ∧
      r.realizedPnl = (r.trades.map PaperTrade.realizedPnl).sum + acc.realizedPnl := by
  cases h with
  | flat current executions sequence position realized =>
    subst executions
    have hcost : r.costBasis = 0 := hsound.flat position
    refine ⟨.opened (r.sequence + 1) sessionId, opened_rebuilds _, by simp [current],
      by simp [current, TradeAccumulator.opened], by simp [TradeAccumulator.opened, sequence], rfl,
      position.symm, hcost.symm, ?_⟩
    simp [TradeAccumulator.opened, realized]
  | held acc current rebuilds opens sequence same session position long cost realized =>
    exact ⟨acc, rebuilds, by simp [current], by simp [current, same], same.trans sequence, session,
      position, cost, realized⟩

variable (encodings) in
/-- **A buy of the walk** joins the trade. -/
theorem Walked.buy (h : Walked sessionId done c r) (hside : e.side = .buy) (hproper : e.Proper) :
    ∃ r', replayExecution encodings sessionId r e = .ok r' ∧
      Walked sessionId done (c ++ [e]) r' := by
  have hsound : (r.accounts.after e.deal).Sound :=
    h.sound.after hproper.deal (by simp [PaperTradeExecution.deal, hside])
  have hlong : 0 < r.baseQuantity + e.quantity :=
    add_pos_of_nonneg_of_pos h.sound.position_nonneg hproper.deal.quantity_pos
  obtain ⟨acc, hacc, hjoins, hsame, hsequence, hsession, hposition, hcost, hrealized⟩ :=
    h.current.accumulator h.sound
  obtain ⟨acc', hbuy, hacc', hsequence', hsession', hrealized', hposition', hcost'⟩ :=
    hacc.buy hside
  have hopens : ∃ first rest, c ++ [e] = first :: rest ∧ first.side = .buy := by
    cases h.current with
    | flat current executions => exact ⟨e, [], by simp [executions], hside⟩
    | held acc current rebuilds opens =>
      obtain ⟨first, rest, rfl, hfirst⟩ := opens
      exact ⟨first, rest ++ [e], rfl, hfirst⟩
  simp only [replayExecution, hside, replayBuy, hjoins, hbuy, ok_bind, pure, Except.pure,
    Except.ok.injEq, exists_eq_left']
  refine
    { executions := h.executions
      finished := h.finished
      follows := h.follows
      sequences := h.sequences
      fees := by simp [h.fees, ← add_assoc]
      slippage := by simp [h.slippage, ← add_assoc]
      sound := ?_
      current := .held acc' rfl hacc' hopens (hsame.symm.trans hsequence) (hsequence'.trans hsame)
        (hsession'.trans hsession) ?_ hlong ?_ ?_ }
  · simpa [Replay.accounts, Accounts.after, PaperTradeExecution.deal, hside] using hsound
  · rw [hposition', hposition]
  · rw [hcost', hcost]
  · rw [hrealized', hrealized]

/-- The entries and the exits of a cycle are its executions. -/
theorem split_perm (es : List PaperTradeExecution) : ((split es).1 ++ (split es).2).Perm es := by
  have hexits : (split es).2 = es.filter fun e => !(e.side == .buy) := by
    refine List.filter_congr fun e _ => ?_
    cases e.side <;> rfl
  rw [hexits]
  exact List.filter_append_perm _ es

theorem PaperTrade.Finished.mono {t : PaperTrade} (h : t.Finished sessionId done)
    {done' : List PaperTradeExecution} (hsub : done ⊆ done') : t.Finished sessionId done' := by
  obtain ⟨e, he, hclosed⟩ := h.closedAt
  exact { h with closedAt := ⟨e, hsub he, hclosed⟩ }

/-- The trade of a cycle that is flat after its last execution is finished. -/
theorem trade_finished {last : PaperTradeExecution} (hside : e.side = .sell)
    (hacc : acc.Rebuilds (c ++ [e])) (hsession : acc.sessionId = sessionId)
    (hflat : acc.remainingQuantity = 0) {first : PaperTradeExecution} (hdone : e ∈ done) :
    (acc.trade encodings first last none 0).Finished sessionId done where
  session := hsession
  status := by simp [TradeAccumulator.trade, hflat]
  unrealized := rfl
  closedAt := by
    refine ⟨e, hdone, ?_⟩
    simp [TradeAccumulator.trade, hflat, hacc.exits, split_concat_sell c hside]
  fees := by simp [TradeAccumulator.trade]
  slippage := by simp [TradeAccumulator.trade]

/-- The finished trades precede one that is opened later. -/
theorem tradeFollows_of_finished {t t' : PaperTrade} (h : t.Finished sessionId done)
    (hbefore : ∀ e ∈ done, e.eventTime ≤ t'.openedAt) : tradeFollows (t, t') = true := by
  obtain ⟨e, he, hclosed⟩ := h.closedAt
  simp only [tradeFollows, h.status, hclosed, Option.any_some, Bool.and_eq_true, beq_self_eq_true,
    true_and]
  exact decide_eq_true (hbefore e he)

/-- **A sale of the walk** leaves the trade, and finishes it when the position is flat. -/
theorem Walked.sell (h : Walked sessionId done c r) (hside : e.side = .sell)
    (hdistinct : Distinct (done ++ (c ++ [e]))) (hproper : ∀ e' ∈ c ++ [e], e'.Proper)
    (hcovered : e.quantity ≤ r.baseQuantity) :
    ∃ r' done' c', replayExecution encodings sessionId r e = .ok r' ∧
      Walked sessionId done' c' r' ∧ done' ++ c' = done ++ (c ++ [e]) := by
  have hlast : e.Proper := hproper e (by simp)
  have hquantity : 0 < e.quantity := hlast.deal.quantity_pos
  have hsound : (r.accounts.after e.deal).Sound := h.sound.after hlast.deal fun _ => hcovered
  cases h.current with
  | flat current executions sequence position =>
    exact absurd (hquantity.trans_le hcovered) (not_lt.mpr position.le)
  | held acc current rebuilds opens sequence same session position long cost realized =>
    obtain ⟨acc', hsell, hacc', hsequence', hsession', hrealized', hposition', hcost'⟩ :=
      rebuilds.sell hside hquantity (position ▸ hcovered) (cost ▸ h.sound.costBasis_nonneg)
    rw [position, cost] at hrealized' hcost'
    rw [position] at hposition'
    have hopens : ∃ first rest, c ++ [e] = first :: rest ∧ first.side = .buy := by
      obtain ⟨first, rest, rfl, hfirst⟩ := opens
      exact ⟨first, rest ++ [e], rfl, hfirst⟩
    have haccounts : ∀ cost', cost' = (if r.baseQuantity - e.quantity = 0 then 0
        else r.costBasis - released r.costBasis r.baseQuantity e.quantity) →
        r.accounts.after e.deal =
          ⟨r.quoteCash + (e.notional - e.fee), r.baseQuantity - e.quantity, cost',
            r.realizedPnl + (e.notional - e.fee - released r.costBasis r.baseQuantity e.quantity),
            r.totalFees + e.fee, r.totalSlippage + e.slippageCost⟩ := by
      rintro _ rfl
      simp [Replay.accounts, Accounts.after, Accounts.releases, PaperTradeExecution.deal, hside,
        released]
    simp only [replayExecution, hside, replaySell, current]
    rw [FailureKind.unless, if_pos (by simp [long, hcovered]), ok_bind, hsell, ok_bind]
    by_cases hflat : r.baseQuantity - e.quantity = 0
    · have hcycle : Cycle (c ++ [e]) :=
        ⟨hdistinct.sublist (List.sublist_append_right _ _), hproper, hopens⟩
      have hnone : acc'.remainingQuantity = 0 := hposition'.trans hflat
      obtain ⟨first, last, hfirst, hfinish⟩ := finish_ok encodings hacc' hcycle
        (by omega) (.flat hnone (by rw [hcost', if_pos hflat]) rfl rfl)
      rw [if_pos hflat, hfinish]
      refine ⟨_, done ++ (c ++ [e]), [], rfl, ?_, List.append_nil _⟩
      refine
        { executions := ?_
          finished := ?_
          follows := ?_
          sequences := ?_
          fees := by simp [h.fees, ← add_assoc]
          slippage := by simp [h.slippage, ← add_assoc]
          sound := ?_
          current := .flat rfl rfl (by simp [sequence]) hflat ?_ }
      · rw [List.flatMap_append]
        refine h.executions.append ?_
        simp only [List.flatMap_cons, List.flatMap_nil, List.append_nil, TradeAccumulator.trade,
          hacc'.entries, hacc'.exits]
        exact split_perm (c ++ [e])
      · intro t ht
        rcases List.mem_append.mp ht with ht | ht
        · exact (h.finished t ht).mono (List.subset_append_left _ _)
        · rw [List.mem_singleton.mp ht]
          exact trade_finished hside hacc' (hsession'.trans session) hnone (by simp)
      · refine List.pairwise_append.mpr ⟨h.follows, List.pairwise_singleton _ _, ?_⟩
        intro t ht t' ht'
        rw [List.mem_singleton.mp ht']
        refine tradeFollows_of_finished (h.finished t ht) fun e' he' => ?_
        have hmem : first ∈ c ++ [e] := List.mem_of_head? hfirst
        exact ((List.pairwise_append.mp hdistinct.before).2.2 e' he' first hmem).eventTime_le
      · rw [List.map_append, h.sequences, List.length_append, List.length_singleton,
          List.range'_1_concat]
        simp [TradeAccumulator.trade, hsequence', same, sequence, Nat.add_comm]
      · rw [haccounts 0 (by rw [if_pos hflat])] at hsound
        exact hsound
      · simp only [List.map_append, List.sum_append, TradeAccumulator.trade, List.map_cons,
          List.map_nil, List.sum_cons, List.sum_nil, hrealized', realized]
        ring
    · rw [if_neg hflat]
      refine ⟨_, done, c ++ [e], rfl, ?_, rfl⟩
      refine
        { executions := h.executions
          finished := h.finished
          follows := h.follows
          sequences := h.sequences
          fees := by simp [h.fees, ← add_assoc]
          slippage := by simp [h.slippage, ← add_assoc]
          sound := ?_
          current := .held acc' rfl hacc' hopens sequence (hsequence'.trans same)
            (hsession'.trans session) hposition' ?_ ?_ ?_ }
      · rw [haccounts _ (by rw [if_neg hflat])] at hsound
        exact hsound
      · exact lt_of_le_of_ne (sub_nonneg.mpr hcovered) (Ne.symm hflat)
      · rw [hcost', if_neg hflat]
      · rw [hrealized', realized]
        ring

variable (encodings sessionId) in
/-- **A walk that never sells more than it holds is walked to its end.** -/
theorem walk_ok (capital : ℚ) : ∀ {es : List PaperTradeExecution}, Distinct es →
    (∀ e ∈ es, e.Proper) → Covered capital (deals es) →
    ∃ r done c, es.foldlM (replayExecution encodings sessionId) (.init capital) = .ok r ∧
      Walked sessionId done c r ∧ done ++ c = es := by
  intro es
  induction es using List.reverseRecOn with
  | nil =>
    intro _ _ _
    exact ⟨.init capital, [], [], rfl, walked_init capital, rfl⟩
  | append_singleton es e ih =>
    intro hdistinct hproper hcovered
    rw [deals_append] at hcovered
    obtain ⟨hbefore, hlast⟩ := alongPrefixes_concat.mp hcovered
    obtain ⟨r, done, c, hwalk, hr, rfl⟩ := ih (hdistinct.sublist (List.sublist_append_left _ _))
      (fun e' he' => hproper e' (List.mem_append_left _ he')) hbefore
    rw [List.append_assoc] at hdistinct hproper
    have hposition : r.baseQuantity = (replay capital (deals (done ++ c))).position :=
      congrArg Accounts.position (replay_accounts hwalk)
    have hstep : ∃ r' done' c', replayExecution encodings sessionId r e = .ok r' ∧
        Walked sessionId done' c' r' ∧ done' ++ c' = done ++ (c ++ [e]) := by
      cases hside : e.side with
      | buy =>
        obtain ⟨r', hturn, hr'⟩ := hr.buy encodings hside (hproper e (by simp))
        exact ⟨r', done, c ++ [e], hturn, hr', rfl⟩
      | sell =>
        refine hr.sell hside hdistinct (fun e' he' => hproper e' (List.mem_append_right _ he')) ?_
        rw [hposition]
        exact hlast (by simp [PaperTradeExecution.deal, hside])
    obtain ⟨r', done', c', hturn, hr', heq⟩ := hstep
    exact ⟨r', done', c', foldlM_concat_eq_ok.mpr ⟨r, hwalk, hturn⟩, hr', by simp [heq]⟩

/-! ### The accounts and the open trade -/

/-- The portfolio shows its position at a price. -/
structure ShownAt (portfolio : PortfolioSnapshot) (price : ℚ) : Prop where
  price_pos : 0 < price
  equity : portfolio.equity = portfolio.quoteCash + portfolio.baseQuantity * price
  unrealized : portfolio.unrealizedPnl = portfolio.baseQuantity * price - portfolio.costBasis
  average : portfolio.averageEntryPrice = portfolio.costBasis / portfolio.baseQuantity

variable {portfolio : PortfolioSnapshot} {price : ℚ}

/-- The mark of a position that is held is the price it is shown at. -/
theorem stateMarkPrice_ok (h : ShownAt portfolio price) (hlong : 0 < portfolio.baseQuantity) :
    stateMarkPrice portfolio = .ok price := by
  have hvalue : portfolio.equity - portfolio.quoteCash = portfolio.baseQuantity * price := by
    rw [h.equity]
    ring
  have hpos : 0 < portfolio.baseQuantity * price := mul_pos hlong h.price_pos
  have hprice : portfolio.baseQuantity * price / portfolio.baseQuantity = price :=
    mul_div_cancel_left₀ price hlong.ne'
  simp only [stateMarkPrice, bind_eq_ok, FailureKind.unless_eq_ok, exists_const, pure, Except.pure,
    decide_eq_true_eq, hvalue, hprice]
  exact ⟨hlong, hpos, h.price_pos, trivial⟩

/-- The accounts of a walk are accepted when they are those of the portfolio. -/
theorem verifyAccounting_ok (h : ShownAt portfolio price) (hr : r.accounts = portfolio.accounts)
    (hsound : r.accounts.Sound) : verifyAccounting portfolio r = .ok () := by
  have hcash : r.quoteCash = portfolio.quoteCash := congrArg Accounts.cash hr
  have hposition : r.baseQuantity = portfolio.baseQuantity := congrArg Accounts.position hr
  have hcost : r.costBasis = portfolio.costBasis := congrArg Accounts.costBasis hr
  have hrealized : r.realizedPnl = portfolio.realizedPnl := congrArg Accounts.realized hr
  have hfees : r.totalFees = portfolio.totalFees := congrArg Accounts.fees hr
  have hslippage : r.totalSlippage = portfolio.totalSlippageCost := congrArg Accounts.slippage hr
  simp only [verifyAccounting, bind_eq_ok, FailureKind.unless_eq_ok, exists_const,
    Bool.and_eq_true, decide_eq_true_eq]
  refine ⟨⟨⟨⟨⟨⟨⟨hcash, hposition⟩, hcost⟩, ?_⟩, hrealized⟩, hfees⟩, hslippage⟩, ?_⟩
  · rw [h.average, hposition, hcost]
    by_cases hflat : portfolio.baseQuantity = 0
    · simp [hflat]
    · rw [if_neg hflat]
  · by_cases hflat : r.baseQuantity = 0
    · have hzero : portfolio.costBasis = 0 := hcost ▸ hsound.flat hflat
      rw [hposition] at hflat
      simp [hposition, hflat, h.unrealized, h.equity, hzero]
    · rw [if_neg hflat]
      have hlong : 0 < portfolio.baseQuantity :=
        hposition ▸ lt_of_le_of_ne hsound.position_nonneg (Ne.symm hflat)
      rw [stateMarkPrice_ok h hlong, ok_bind]
      simp [hposition, hcost, h.unrealized]

/-- The trades of a whole walk, the one that is still open among them. -/
structure Rebuilt (sessionId : Sha256) (es : List PaperTradeExecution)
    (portfolio : PortfolioSnapshot) (trades : List PaperTrade) : Prop where
  executions : (trades.flatMap fun t => t.entryExecutions ++ t.exitExecutions).Perm es
  sessions : ∀ t ∈ trades, t.sessionId = sessionId
  follows : trades.Pairwise fun t t' => tradeFollows (t, t') = true
  sequences : trades.map PaperTrade.sequence = List.range' 1 trades.length
  realized : portfolio.realizedPnl = (trades.map PaperTrade.realizedPnl).sum
  unrealized : portfolio.unrealizedPnl = (trades.map PaperTrade.unrealizedPnl).sum
  fees : ∀ t ∈ trades,
    t.entryFees + t.exitFees = total (·.fee) (t.entryExecutions ++ t.exitExecutions)
  slippage : ∀ t ∈ trades, t.entrySlippageCost + t.exitSlippageCost =
    total (·.slippageCost) (t.entryExecutions ++ t.exitExecutions)

variable (encodings) in
/-- **The trade that is still open completes the walk.** -/
theorem openTrade_ok (h : ShownAt portfolio price) (hr : r.accounts = portfolio.accounts)
    (hwalked : Walked sessionId done c r) (hdistinct : Distinct (done ++ c))
    (hproper : ∀ e ∈ c, e.Proper) :
    ∃ last, openTrade encodings portfolio r = .ok last ∧ (∀ t ∈ last, t.status = .open) ∧
      Rebuilt sessionId (done ++ c) portfolio (r.trades ++ last) := by
  have hposition : r.baseQuantity = portfolio.baseQuantity := congrArg Accounts.position hr
  have hcost : r.costBasis = portfolio.costBasis := congrArg Accounts.costBasis hr
  have hreal : r.realizedPnl = portfolio.realizedPnl := congrArg Accounts.realized hr
  have hzero : (r.trades.map PaperTrade.unrealizedPnl).sum = 0 := by
    refine List.sum_eq_zero fun x hx => ?_
    obtain ⟨t, ht, rfl⟩ := List.mem_map.mp hx
    exact (hwalked.finished t ht).unrealized
  cases hwalked.current with
  | flat current executions sequence position realized =>
    refine ⟨[], by simp [openTrade, current], by simp, ?_⟩
    rw [List.append_nil, executions, List.append_nil]
    refine
      { executions := hwalked.executions
        sessions := fun t ht => (hwalked.finished t ht).session
        follows := hwalked.follows
        sequences := hwalked.sequences
        realized := hreal ▸ realized
        unrealized := ?_
        fees := fun t ht => (hwalked.finished t ht).fees
        slippage := fun t ht => (hwalked.finished t ht).slippage }
    have hflat : portfolio.costBasis = 0 := hcost ▸ hwalked.sound.flat position
    rw [hzero, h.unrealized, ← hposition, position, hflat]
    ring
  | held acc current rebuilds opens sequence same session position long cost realized =>
    have hcycle : Cycle c := ⟨hdistinct.sublist (List.sublist_append_right _ _), hproper, opens⟩
    have hend : acc.Ends (some price) portfolio.unrealizedPnl :=
      .held (position ▸ long) (cost ▸ hwalked.sound.long long) price rfl h.price_pos
    obtain ⟨first, last, hfirst, hfinish⟩ :=
      finish_ok encodings rebuilds hcycle (by omega) hend
    have hmark := stateMarkPrice_ok h (hposition ▸ long)
    refine ⟨[acc.trade encodings first last (some price) portfolio.unrealizedPnl], ?_, ?_, ?_⟩
    · simp only [openTrade, current]
      rw [hmark, ok_bind, hfinish, ok_bind]
      rfl
    · intro t ht
      rw [List.mem_singleton.mp ht]
      simp [TradeAccumulator.trade, position, long]
    · refine
        { executions := ?_
          sessions := ?_
          follows := ?_
          sequences := ?_
          realized := ?_
          unrealized := ?_
          fees := ?_
          slippage := ?_ }
      · rw [List.flatMap_append]
        refine hwalked.executions.append ?_
        simp only [List.flatMap_cons, List.flatMap_nil, List.append_nil, TradeAccumulator.trade,
          rebuilds.entries, rebuilds.exits]
        exact split_perm c
      · intro t ht
        rcases List.mem_append.mp ht with ht | ht
        · exact (hwalked.finished t ht).session
        · rw [List.mem_singleton.mp ht]
          exact session
      · refine List.pairwise_append.mpr ⟨hwalked.follows, List.pairwise_singleton _ _, ?_⟩
        intro t ht t' ht'
        rw [List.mem_singleton.mp ht']
        refine tradeFollows_of_finished (hwalked.finished t ht) fun e' he' => ?_
        have hmem : first ∈ c := List.mem_of_head? hfirst
        exact ((List.pairwise_append.mp hdistinct.before).2.2 e' he' first hmem).eventTime_le
      · rw [List.map_append, hwalked.sequences, List.length_append, List.length_singleton,
          List.range'_1_concat]
        simp [TradeAccumulator.trade, same, sequence, Nat.add_comm]
      · simp [← hreal, realized, TradeAccumulator.trade]
      · simp [hzero, TradeAccumulator.trade]
      · intro t ht
        rcases List.mem_append.mp ht with ht | ht
        · exact (hwalked.finished t ht).fees
        · rw [List.mem_singleton.mp ht]
          simp [TradeAccumulator.trade]
      · intro t ht
        rcases List.mem_append.mp ht with ht | ht
        · exact (hwalked.finished t ht).slippage
        · rw [List.mem_singleton.mp ht]
          simp [TradeAccumulator.trade]

/-! ### The journal -/

/-- Neighbours of a list are related as all its pairs are. -/
theorem all_zip_tail {α : Type*} {p : α × α → Bool} {l : List α}
    (h : l.Pairwise fun a b => p (a, b) = true) : (l.zip l.tail).all p = true := by
  induction l with
  | nil => rfl
  | cons a l ih =>
    obtain ⟨ha, hl⟩ := List.pairwise_cons.mp h
    cases l with
    | nil => rfl
    | cons b l =>
      simp only [List.tail_cons, List.zip_cons_cons, List.all_cons, Bool.and_eq_true]
      exact ⟨ha b List.mem_cons_self, ih hl⟩

/-- The sum of an amount over the trades is the one over their executions. -/
theorem sum_trades {trades : List PaperTrade} {amount : PaperTradeExecution → ℚ}
    {f : PaperTrade → ℚ}
    (h : ∀ t ∈ trades, f t = total amount (t.entryExecutions ++ t.exitExecutions)) :
    (trades.map f).sum =
      total amount (trades.flatMap fun t => t.entryExecutions ++ t.exitExecutions) := by
  induction trades with
  | nil => rfl
  | cons t trades ih =>
    rw [List.map_cons, List.sum_cons, List.flatMap_cons, total_append,
      h t List.mem_cons_self, ih fun t' ht' => h t' (List.mem_cons_of_mem t ht')]

/-- Only the last trade of a walk may be open. -/
theorem Rebuilt.closed {es : List PaperTradeExecution} {trades : List PaperTrade}
    (h : Rebuilt sessionId es portfolio trades) {t : PaperTrade} (ht : t ∈ trades.dropLast) :
    t.status = .closed := by
  have hne : trades ≠ [] := by
    rintro rfl
    simp at ht
  have hfollows := h.follows
  rw [← List.dropLast_append_getLast hne] at hfollows
  have hpair := (List.pairwise_append.mp hfollows).2.2 t ht _ (List.mem_singleton_self _)
  simp only [tradeFollows, Bool.and_eq_true, beq_iff_eq] at hpair
  exact hpair.1

/-- **The trades of a whole walk become a journal.** -/
theorem journal_validate_ok {es : List PaperTradeExecution} {trades : List PaperTrade}
    {j : PaperTradeJournal} (hdistinct : Distinct es) (hproper : ∀ e ∈ es, e.Proper)
    (h : Rebuilt sessionId es portfolio trades) (hsession : j.sessionId = sessionId)
    (hexecutions : j.executions = es) (htrades : j.trades = trades)
    (hclosed : j.closedTradesCount = countStatus .closed trades)
    (hopen : j.openTradesCount = countStatus .open trades)
    (hrealized : j.totalRealizedPnl = portfolio.realizedPnl)
    (hunrealized : j.totalUnrealizedPnl = portfolio.unrealizedPnl)
    (hnet : j.totalNetPnl = j.totalRealizedPnl + j.totalUnrealizedPnl)
    (hfees : j.totalFees = total (·.fee) es)
    (hslippage : j.totalSlippageCost = total (·.slippageCost) es) : j.validate = .ok j := by
  have hone : countStatus .open trades ≤ 1 := by
    rcases List.eq_nil_or_concat trades with rfl | ⟨before, t, rfl⟩
    · simp [countStatus]
    · rw [List.concat_eq_append] at h ⊢
      have hnone : before.countP (fun t => t.status == .open) = 0 := by
        refine List.countP_eq_zero.mpr fun t' ht' => ?_
        simp [h.closed (t := t') (by simpa using ht')]
      rw [countStatus, List.countP_append, hnone, Nat.zero_add]
      exact List.countP_le_length
  have htradesOk : j.checkTrades = .ok () := by
    simp only [PaperTradeJournal.checkTrades, check, bind_eq_ok, FailureKind.unless_eq_ok,
      exists_const, decide_eq_true_eq]
    rw [hexecutions, htrades]
    refine ⟨(), hdistinct.validate, h.sequences, ?_, all_zip_tail h.follows, ?_, ?_, hclosed, hopen,
      hopen ▸ hone⟩
    · simpa [hsession] using h.sessions
    · refine List.all_eq_true.mpr fun t ht => ?_
      simp [h.closed ht]
    · exact sortExecutions_of_perm hdistinct.before h.executions
  have htotalsOk : j.checkTotals = .ok () := by
    simp only [PaperTradeJournal.checkTotals, check, nonnegative, bind_eq_ok,
      FailureKind.unless_eq_ok, exists_const, decide_eq_true_eq]
    rw [htrades, hfees, hslippage, sum_trades h.fees, sum_trades h.slippage,
      total_perm h.executions, total_perm h.executions]
    exact ⟨total_nonneg fun e he => (hproper e he).deal.fee_nonneg,
      total_nonneg fun e he => (hproper e he).slippage_nonneg, hrealized.trans h.realized,
      hunrealized.trans h.unrealized, hnet, rfl, rfl⟩
  simp only [PaperTradeJournal.validate, htradesOk, htotalsOk, ok_bind, pure, Except.pure]

end

end PaperTrading
end DryTrade
