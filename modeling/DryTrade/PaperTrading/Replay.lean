import DryTrade.PaperTrading.Journal
import DryTrade.Backtesting.FillOrder

/-!
# What the walk over the executions rebuilds

The walk of the journal is weighted-average accounting: its accounts are those of
the deals it went through, it refuses a sale that the position does not cover, and
the trades it leaves are the cycles of its executions, from flat to flat.

## Main definitions

* `PaperTradeExecution.deal`, `Replay.accounts` — executions as deals, and their accounts.
* `split` — the entries and the exits of a cycle.
* `executionCycles` — the cycles of a list of executions.

## Main results

* `replayExecution_turn` — one turn is one deal.
* `replay_cycles` — the trades of a walk are the cycles of its executions.
* `buildPaperTradeJournal_cases` — what an accepted journal says.
-/

namespace DryTrade
namespace PaperTrading

open MarketData Indicators Backtesting

/-! ### Executions as deals -/

/-- The deal that an execution is. -/
def PaperTradeExecution.deal (e : PaperTradeExecution) : Deal ℚ where
  isBuy := e.side == .buy
  quantity := e.quantity
  notional := e.notional
  fee := e.fee
  slippage := e.slippageCost

/-- The deals of a list of executions. -/
def deals (executions : List PaperTradeExecution) : List (Deal ℚ) :=
  executions.map PaperTradeExecution.deal

@[simp] theorem deals_nil : deals [] = [] := rfl

@[simp] theorem deals_append (es es' : List PaperTradeExecution) :
    deals (es ++ es') = deals es ++ deals es' := List.map_append ..

/-- The entries and the exits of a cycle. -/
def split (executions : List PaperTradeExecution) :
    List PaperTradeExecution × List PaperTradeExecution :=
  (executions.filter fun e => e.side == .buy, executions.filter fun e => e.side == .sell)

/-- The cycles of executions from flat to flat, after the accounts `a`. -/
def executionCyclesFrom (a : Accounts ℚ) (current executions : List PaperTradeExecution) :
    List (List PaperTradeExecution) :=
  cyclesFrom (fun a e => a.after e.deal) (fun a => a.position = 0) a current executions

/-- The cycles of executions from flat to flat, starting from a capital in cash. -/
def executionCycles (capital : ℚ) (executions : List PaperTradeExecution) :
    List (List PaperTradeExecution) :=
  executionCyclesFrom (.start capital) [] executions

theorem split_concat_buy (es : List PaperTradeExecution) {e : PaperTradeExecution}
    (h : e.side = .buy) : split (es ++ [e]) = ((split es).1 ++ [e], (split es).2) := by
  simp [split, h]

theorem split_concat_sell (es : List PaperTradeExecution) {e : PaperTradeExecution}
    (h : e.side = .sell) : split (es ++ [e]) = ((split es).1, (split es).2 ++ [e]) := by
  simp [split, h]

/-- Every execution of a cycle is an entry or an exit of it. -/
theorem mem_split {es : List PaperTradeExecution} {e : PaperTradeExecution} :
    e ∈ es ↔ e ∈ (split es).1 ∨ e ∈ (split es).2 := by
  cases hside : e.side <;> simp [split, hside]

/-! ### One turn of the walk -/

/-- The accounts of the walk. -/
def Replay.accounts (r : Replay) : Accounts ℚ where
  cash := r.quoteCash
  position := r.baseQuantity
  costBasis := r.costBasis
  realized := r.realizedPnl
  fees := r.totalFees
  slippage := r.totalSlippage

/-- The executions of the trade being rebuilt. -/
def Replay.currentExecutions (r : Replay) : List PaperTradeExecution × List PaperTradeExecution :=
  match r.current with
  | none => ([], [])
  | some acc => (acc.entries, acc.exits)

section

variable {encodings : Encodings} {sessionId : Sha256}

/-- A trade that is finished has the executions of its accumulator, and is closed when nothing
remains. -/
theorem finish_cases {acc : TradeAccumulator} {mark : Option ℚ} {unrealized : ℚ} {t : PaperTrade}
    (h : acc.finish encodings mark unrealized = .ok t) :
    ∃ first last, acc.trade encodings first last mark unrealized = t ∧
      t.validate encodings = .ok t := by
  unfold TradeAccumulator.finish at h
  split at h
  · simp at h
  · have ht := h
    simp only [PaperTrade.validate, bind_eq_ok, pure, Except.pure, Except.ok.injEq] at ht
    obtain ⟨-, -, -, -, -, -, -, -, heq⟩ := ht
    rw [heq] at h
    exact ⟨_, _, heq, h⟩

/-- **What one turn of the walk does**: a buy joins the current trade, a sale leaves it, and the
trade is finished when the sale leaves the position flat. -/
inductive Turn (encodings : Encodings) (r r' : Replay) (e : PaperTradeExecution) : Prop
  | buy (acc : TradeAccumulator) (side : e.side = .buy) (trades : r'.trades = r.trades)
      (current : r'.current = some acc)
      (executions : (acc.entries, acc.exits) =
        (r.currentExecutions.1 ++ [e], r.currentExecutions.2))
  | sell (acc : TradeAccumulator) (side : e.side = .sell) (held : r.current.isSome = true)
      (covered : e.quantity ≤ r.baseQuantity) (long : r'.baseQuantity ≠ 0)
      (trades : r'.trades = r.trades) (current : r'.current = some acc)
      (executions : (acc.entries, acc.exits) =
        (r.currentExecutions.1, r.currentExecutions.2 ++ [e]))
  | close (acc : TradeAccumulator) (t : PaperTrade) (side : e.side = .sell)
      (held : r.current.isSome = true) (covered : e.quantity ≤ r.baseQuantity)
      (flat : r'.baseQuantity = 0) (finished : acc.finish encodings none 0 = .ok t)
      (trades : r'.trades = r.trades ++ [t]) (current : r'.current = none)
      (executions : (acc.entries, acc.exits) =
        (r.currentExecutions.1, r.currentExecutions.2 ++ [e]))

/-- **One turn of the walk is one deal.** -/
theorem replayExecution_turn {r r' : Replay} {e : PaperTradeExecution}
    (h : replayExecution encodings sessionId r e = .ok r') :
    r'.accounts = r.accounts.after e.deal ∧ Turn encodings r r' e := by
  unfold replayExecution at h
  cases hside : e.side with
  | buy =>
    rw [hside] at h
    simp only [replayBuy, TradeAccumulator.buy, bind_eq_ok, FailureKind.unless_eq_ok, exists_const,
      pure, Except.pure, Except.ok.injEq] at h
    obtain ⟨acc, ⟨-, rfl⟩, rfl⟩ := h
    refine ⟨by simp [Replay.accounts, Accounts.after, PaperTradeExecution.deal, hside],
      .buy _ hside rfl rfl ?_⟩
    cases hcurrent : r.current with
    | none => simp [Replay.currentExecutions, hcurrent, TradeAccumulator.opened]
    | some acc => simp [Replay.currentExecutions, hcurrent]
  | sell =>
    rw [hside] at h
    simp only [replaySell] at h
    cases hcurrent : r.current with
    | none => rw [hcurrent] at h; simp at h
    | some acc =>
      rw [hcurrent] at h
      simp only [TradeAccumulator.sell, bind_eq_ok, FailureKind.unless_eq_ok, exists_const, pure,
        Except.pure, Except.ok.injEq, Bool.and_eq_true, decide_eq_true_eq] at h
      obtain ⟨⟨-, hcovered⟩, sold, ⟨-, -, rfl⟩, h⟩ := h
      have hheld : r.current.isSome = true := by rw [hcurrent]; rfl
      by_cases hflat : r.baseQuantity - e.quantity = 0
      · rw [if_pos hflat, bind_eq_ok] at h
        obtain ⟨t, ht, h⟩ := h
        cases h
        refine ⟨?_, .close _ t hside hheld hcovered hflat ht rfl rfl ?_⟩
        · simp [Replay.accounts, Accounts.after, PaperTradeExecution.deal, hside, hflat, released,
            Accounts.releases]
        · simp [Replay.currentExecutions, hcurrent]
      · rw [if_neg hflat] at h
        cases h
        refine ⟨?_, .sell _ hside hheld hcovered hflat rfl rfl ?_⟩
        · simp [Replay.accounts, Accounts.after, PaperTradeExecution.deal, hside, hflat, released,
            Accounts.releases]
        · simp [Replay.currentExecutions, hcurrent]

/-! ### The whole walk -/

/-- The trade still open after the walk, as its executions. -/
def Replay.lastCycle (r : Replay) : List (List PaperTradeExecution × List PaperTradeExecution) :=
  if r.current = none then [] else [r.currentExecutions]

/-- **The trades of a walk are the cycles of its executions**, from any point of it on. -/
theorem replay_cycles : ∀ {es : List PaperTradeExecution} {r r' : Replay}
    {c : List PaperTradeExecution}, (∀ e ∈ es, 0 < e.quantity) → 0 ≤ r.baseQuantity →
      split c = r.currentExecutions → (c = [] ↔ r.current = none) →
      es.foldlM (replayExecution encodings sessionId) r = .ok r' →
        r'.trades.map PaperTrade.executions ++ r'.lastCycle =
          r.trades.map PaperTrade.executions ++
            (executionCyclesFrom r.accounts c es).map split := by
  intro es
  induction es with
  | nil =>
    intro r r' c _ _ hsplit hnone h
    cases h
    by_cases hc : c = []
    · simp [executionCyclesFrom, cyclesFrom, hc, Replay.lastCycle, hnone.mp hc]
    · simp [executionCyclesFrom, cyclesFrom, hc, Replay.lastCycle, mt hnone.mpr hc, hsplit]
  | cons e es ih =>
    intro r r' c hpos hbase hsplit hnone h
    rw [List.foldlM_cons, bind_eq_ok] at h
    obtain ⟨r₁, hturn, h⟩ := h
    obtain ⟨haccounts, hturn⟩ := replayExecution_turn hturn
    have hquantity := hpos e List.mem_cons_self
    have hrest : ∀ e' ∈ es, 0 < e'.quantity := fun e' he' => hpos e' (List.mem_cons_of_mem e he')
    have hposition : r₁.baseQuantity = (r.accounts.after e.deal).position :=
      congrArg Accounts.position haccounts
    cases hturn with
    | buy acc side trades current executions =>
      have hafter : r₁.baseQuantity = r.baseQuantity + e.quantity := by
        rw [hposition]
        simp [Accounts.after, PaperTradeExecution.deal, side, Replay.accounts]
      have hlong : ¬ (r.accounts.after e.deal).position = 0 := by
        rw [← hposition, hafter]
        exact (add_pos_of_nonneg_of_pos hbase hquantity).ne'
      rw [ih (c := c ++ [e]) hrest (hafter ▸ (add_pos_of_nonneg_of_pos hbase hquantity).le) ?_
        (by simp [current]) h, trades, haccounts]
      · simp only [executionCyclesFrom, cyclesFrom, if_neg hlong]
      · rw [split_concat_buy c side, hsplit]
        simpa [Replay.currentExecutions, current] using executions.symm
    | sell acc side held covered long trades current executions =>
      have hafter : r₁.baseQuantity = r.baseQuantity - e.quantity := by
        rw [hposition]
        simp [Accounts.after, PaperTradeExecution.deal, side, Replay.accounts]
      rw [ih (c := c ++ [e]) hrest (hafter ▸ sub_nonneg.mpr covered) ?_ (by simp [current]) h,
        trades, haccounts]
      · simp only [executionCyclesFrom, cyclesFrom, if_neg (hposition ▸ long)]
      · rw [split_concat_sell c side, hsplit]
        simpa [Replay.currentExecutions, current] using executions.symm
    | close acc t side held covered flat finished trades current executions =>
      rw [ih (c := []) hrest flat.ge ?_ (by simp [current]) h, trades, haccounts]
      · obtain ⟨first, last, rfl, -⟩ := finish_cases finished
        have ht : (acc.trade encodings first last none 0).executions = split (c ++ [e]) := by
          rw [split_concat_sell c side, hsplit]
          exact executions
        simp only [executionCyclesFrom, cyclesFrom, if_pos (hposition ▸ flat), List.map_append,
          List.map_cons, List.map_nil, List.append_assoc, List.singleton_append, ht]
      · simp [Replay.currentExecutions, current, split]

/-- **The accounts of a walk are those of the deals it went through.** -/
theorem replay_accounts : ∀ {es : List PaperTradeExecution} {r r' : Replay},
    es.foldlM (replayExecution encodings sessionId) r = .ok r' →
      r'.accounts = (deals es).foldl Accounts.after r.accounts := by
  intro es
  induction es with
  | nil =>
    intro r r' h
    cases h
    rfl
  | cons e es ih =>
    intro r r' h
    rw [List.foldlM_cons, bind_eq_ok] at h
    obtain ⟨r₁, hturn, h⟩ := h
    rw [ih h, (replayExecution_turn hturn).1]
    rfl

/-- **A walk only sells what it holds.** -/
theorem replay_covered (capital : ℚ) : ∀ {es : List PaperTradeExecution} {r : Replay},
    es.foldlM (replayExecution encodings sessionId) (.init capital) = .ok r →
      Covered capital (deals es) := by
  intro es
  induction es using List.reverseRecOn with
  | nil =>
    intro r _
    exact alongPrefixes_nil
  | append_singleton es e ih =>
    intro r h
    obtain ⟨r₁, hwalk, hturn⟩ := foldlM_concat_eq_ok.mp h
    rw [deals_append]
    refine alongPrefixes_concat.mpr ⟨ih hwalk, fun hsell => ?_⟩
    have hposition : r₁.baseQuantity = (replay capital (deals es)).position :=
      congrArg Accounts.position (replay_accounts hwalk)
    rw [← hposition]
    cases (replayExecution_turn hturn).2 with
    | buy acc side => simp [PaperTradeExecution.deal, side] at hsell
    | sell acc side held covered => exact covered
    | close acc t side held covered => exact covered

/-- Every trade that the walk finishes is closed, and it never takes one back. -/
theorem replay_trades : ∀ {es : List PaperTradeExecution} {r r' : Replay},
    es.foldlM (replayExecution encodings sessionId) r = .ok r' → r.trades <+: r'.trades := by
  intro es
  induction es with
  | nil =>
    intro r r' h
    cases h
    exact List.prefix_rfl
  | cons e es ih =>
    intro r r' h
    rw [List.foldlM_cons, bind_eq_ok] at h
    obtain ⟨r₁, hturn, h⟩ := h
    refine List.IsPrefix.trans ?_ (ih h)
    cases (replayExecution_turn hturn).2 with
    | buy acc side trades => rw [trades]
    | sell acc side held covered long trades => rw [trades]
    | close acc t side held covered flat finished trades =>
      rw [trades]
      exact List.prefix_append _ _

/-! ### What an accepted journal says -/

/-- The accounts that a journal is checked against. -/
theorem verifyAccounting_accounts {portfolio : PortfolioSnapshot} {r : Replay} {u : Unit}
    (h : verifyAccounting portfolio r = .ok u) : r.accounts = portfolio.accounts := by
  simp only [verifyAccounting, bind_eq_ok, FailureKind.unless_eq_ok, exists_const,
    Bool.and_eq_true, decide_eq_true_eq] at h
  obtain ⟨⟨⟨⟨⟨⟨⟨hcash, hposition⟩, hcost⟩, -⟩, hrealized⟩, hfees⟩, hslippage⟩, -⟩ := h
  exact Accounts.ext hcash hposition hcost hrealized hfees hslippage

/-- The trade that is still open has the executions of the last cycle. -/
theorem openTrade_executions {portfolio : PortfolioSnapshot} {r : Replay} {last : List PaperTrade}
    (h : openTrade encodings portfolio r = .ok last) :
    last.map PaperTrade.executions = r.lastCycle := by
  unfold openTrade at h
  cases hcurrent : r.current with
  | none =>
    rw [hcurrent] at h
    cases h
    simp [Replay.lastCycle, hcurrent]
  | some acc =>
    rw [hcurrent] at h
    simp only [bind_eq_ok, pure, Except.pure, Except.ok.injEq] at h
    obtain ⟨mark, -, t, hfinish, rfl⟩ := h
    obtain ⟨first, last, rfl, -⟩ := finish_cases hfinish
    simp [Replay.lastCycle, Replay.currentExecutions, hcurrent, PaperTrade.executions,
      TradeAccumulator.trade]

/-- **What an accepted journal says**: its executions are the fills of the state, sorted, and its
trades are those that the walk over them left, with the one that is still open. -/
theorem buildPaperTradeJournal_cases {ctx : DecimalContext} {config : PaperSessionConfig}
    {state : PaperSessionState} {j : PaperTradeJournal}
    (h : buildPaperTradeJournal encodings ctx config state = .ok j) :
    ∃ unsorted r last, executionsOf state = .ok unsorted ∧
      j.executions = sortExecutions unsorted ∧
      j.executions.foldlM (replayExecution encodings state.sessionId)
        (.init config.initialCapital) = .ok r ∧
      r.accounts = state.portfolio.accounts ∧ openTrade encodings state.portfolio r = .ok last ∧
      j.trades = r.trades ++ last := by
  simp only [buildPaperTradeJournal, PaperTradeJournal.validate, bind_eq_ok, pure, Except.pure,
    Except.ok.injEq] at h
  obtain ⟨_, -, unsorted, hunsorted, r, hwalk, _, haccounts, last, hlast, _, -, _, -, rfl⟩ := h
  exact ⟨unsorted, r, last, hunsorted, rfl, hwalk, verifyAccounting_accounts haccounts, hlast, rfl⟩

/-- The trades of an accepted journal are the cycles of its executions. -/
theorem trades_executions {capital : ℚ} {es : List PaperTradeExecution} {r : Replay}
    {portfolio : PortfolioSnapshot} {last : List PaperTrade} (hpos : ∀ e ∈ es, 0 < e.quantity)
    (hwalk : es.foldlM (replayExecution encodings sessionId) (.init capital) = .ok r)
    (hlast : openTrade encodings portfolio r = .ok last) :
    (r.trades ++ last).map PaperTrade.executions = (executionCycles capital es).map split := by
  have hcycles := replay_cycles (c := []) hpos le_rfl rfl (iff_of_true rfl rfl) hwalk
  rw [List.map_append, openTrade_executions hlast, hcycles]
  rfl

end

end PaperTrading
end DryTrade
