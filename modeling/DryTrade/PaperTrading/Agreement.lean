import Mathlib.Data.List.TakeWhile
import DryTrade.Backtesting.Protection
import DryTrade.PaperTrading.Joined

/-!
# The journal against the engine

The engine fills a protective stop before the older orders of its candle, while the
journal sorts the fills of a candle by the sequence of their orders.  The journal of a
published state is that of the engine's own fills exactly when no stop was filled before
an order older than it; and then a session that grows keeps the trades that are closed.

## Main definitions

* `JournalOf` — the journal of a state says what the engine did.
* `KeepsClosedTrades` — the closed trades of every earlier state come first.

## Main results

* `journalOf_iff` — when the journal of a published state is accepted.
-/

namespace DryTrade
namespace PaperTrading

open MarketData Indicators Backtesting

section

variable {encodings : Encodings} {hash : String → RawLedgerEntry → String} {σ : Type}
variable {registry : StrategyPluginRegistry σ} {config : PaperSessionConfig}
variable {batch : PaperCandleBatch} {state : PaperSessionState} {strategy : Strategy σ}
variable {snapshot : DatasetSnapshot} {s : EngineState σ}

/-- **The journal of a state says what the engine did**: its executions are the fills of the state
in an order in which every sale is covered, they lead to the accounts of the portfolio, and its
trades are the cycles of the engine's own fills from flat to flat. -/
structure JournalOf (encodings : Encodings) (config : PaperSessionConfig)
    (state : PaperSessionState) (j : PaperTradeJournal) : Prop where
  accepted : buildPaperTradeJournal encodings .exact config state = .ok j
  executions : ∃ es, executionsOf state = .ok es ∧ j.executions.Perm es ∧
    j.trades.map PaperTrade.executions = (executionCycles config.initialCapital es).map split
  covered : Covered config.initialCapital (deals j.executions)
  accounts : replay config.initialCapital (deals j.executions) = state.portfolio.accounts

/-- The executions of what a replay published. -/
theorem Executed.joined
    (h : Executed .exact encodings hash registry config batch state strategy snapshot s) :
    ∃ bs es, Booked config.initialCapital s bs ∧ s.portfolio.IsMarked ∧
      executionsOf state = .ok es ∧
      Joined state.orders state.fills config.initialCapital bs es := by
  obtain ⟨bs, hbooked, hmarked⟩ := runCandles_books h.run h.processed.ne'
  have hcanonical := canonical_of_validate h.valid
  rw [h.orders, h.fills] at hcanonical
  obtain ⟨es, hes, hjoined⟩ := joined_of_booked hbooked hcanonical
  rw [executionsOf, h.orders, h.fills]
  exact ⟨bs, es, hbooked, hmarked, hes, hjoined⟩

/-- A journal of a state whose executions come in the order of their keys, with the walk that its
trades come from. -/
structure Accepted (encodings : Encodings) (config : PaperSessionConfig)
    (state : PaperSessionState) (es : List PaperTradeExecution) (j : PaperTradeJournal)
    (r : Replay) : Prop where
  journal : JournalOf encodings config state j
  walk : es.foldlM (replayExecution encodings state.sessionId) (.init config.initialCapital) = .ok r
  trades : ∃ last, j.trades = r.trades ++ last ∧ ∀ t ∈ last, t.status = .open
  closed : ∀ t ∈ r.trades, t.status = .closed

/-- **A state whose executions come in the order of their keys has a journal.** -/
theorem accepted_of_distinct
    (h : Executed .exact encodings hash registry config batch state strategy snapshot s)
    {bs : List Booking} {es : List PaperTradeExecution}
    (hbooked : Booked config.initialCapital s bs) (hmarked : s.portfolio.IsMarked)
    (hes : executionsOf state = .ok es)
    (hjoined : Joined state.orders state.fills config.initialCapital bs es)
    (hdistinct : Distinct es) : ∃ j r, Accepted encodings config state es j r := by
  obtain ⟨r, done, c, hwalk, hwalked, hsplit⟩ := walk_ok encodings state.sessionId
    config.initialCapital hdistinct hjoined.proper hjoined.covered
  have haccounts : r.accounts = state.portfolio.accounts := by
    rw [replay_accounts hwalk, h.portfolio, hbooked.accounts, ← hjoined.deals]
    rfl
  obtain ⟨price, hprice, hequity, hunrealized⟩ := hmarked
  have hshown : ShownAt state.portfolio price := by
    rw [h.portfolio]
    exact ⟨hprice, hequity, hunrealized, hbooked.average⟩
  subst hsplit
  obtain ⟨last, hlast, hopen, hrebuilt⟩ := openTrade_ok encodings hshown haccounts
    hwalked hdistinct fun e he => hjoined.proper e (List.mem_append_right _ he)
  have hfees : state.portfolio.totalFees = total (·.fee) (done ++ c) :=
    (congrArg Accounts.fees haccounts).symm.trans hwalked.fees
  have hslippage : state.portfolio.totalSlippageCost = total (·.slippageCost) (done ++ c) :=
    (congrArg Accounts.slippage haccounts).symm.trans hwalked.slippage
  have haccepted : ∃ j, buildPaperTradeJournal encodings .exact config state = .ok j ∧
      j.executions = done ++ c ∧ j.trades = r.trades ++ last := by
    simp only [buildPaperTradeJournal, h.valid, hes, ok_bind, hdistinct.sort, hwalk,
      verifyAccounting_ok hshown haccounts hwalked.sound, hlast]
    exact ⟨_, journal_validate_ok hdistinct hjoined.proper hrebuilt rfl rfl rfl rfl rfl rfl rfl rfl
      hfees hslippage, rfl, rfl⟩
  obtain ⟨j, hj, hexecutions, htrades⟩ := haccepted
  refine ⟨j, r,
    { journal :=
        { accepted := hj
          executions := ⟨done ++ c, hes, hexecutions ▸ .refl _, ?_⟩
          covered := hexecutions ▸ hjoined.covered
          accounts := ?_ }
      walk := hwalk
      trades := ⟨last, htrades, hopen⟩
      closed := fun t ht => (hwalked.finished t ht).status }⟩
  · rw [htrades]
    exact trades_executions (fun e he => (hjoined.proper e he).deal.quantity_pos) hwalk hlast
  · rw [hexecutions, ← haccounts, replay_accounts hwalk]
    rfl

/-! ### A stop that was filled too early -/

/-- Cycles with the same entries and exits have the same executions. -/
theorem mem_flatten_of_split {cs cs' : List (List PaperTradeExecution)}
    (h : cs.map split = cs'.map split) {e : PaperTradeExecution} (he : e ∈ cs.flatten) :
    e ∈ cs'.flatten := by
  obtain ⟨c, hc, hec⟩ := List.mem_flatten.mp he
  have hmem : split c ∈ cs'.map split := h ▸ List.mem_map_of_mem hc
  obtain ⟨c', hc', heq⟩ := List.mem_map.mp hmem
  refine List.mem_flatten.mpr ⟨c', hc', mem_split.mpr ?_⟩
  rw [heq]
  exact mem_split.mp hec

/-- **The trades of a journal keep the order of the engine around a whole sale**: what was filled
after it comes after it in the journal. -/
theorem executionLe_of_whole {capital : ℚ} {sorted before after : List PaperTradeExecution}
    {e e' : PaperTradeExecution}
    (hsorted : sorted.Pairwise fun a b => executionLe a b = true)
    (hcycles : (executionCycles capital sorted).map split =
      (executionCycles capital (before ++ e :: after)).map split)
    (hflat : (replay capital (deals (before ++ [e]))).position = 0) (he' : e' ∈ after) :
    executionLe e e' = true := by
  have hrest : (List.foldl (fun a e => Accounts.after a e.deal) (.start capital)
      (before ++ [e])).position = 0 := by
    rw [← hflat, replay, deals, List.foldl_map]
  have hne : before ++ [e] ≠ [] := by simp
  have hcut := cyclesFrom_append (fun a e => Accounts.after a e.deal)
    (fun a : Accounts ℚ => a.position = 0) (.start capital) [] hne hrest after
  rw [List.append_assoc, List.singleton_append] at hcut
  simp only [executionCycles, executionCyclesFrom] at hcycles
  rw [hcut, List.map_append] at hcycles
  obtain ⟨early, late, hsplit, hearly, hlate⟩ := List.map_eq_append_iff.mp hcycles
  have hall := cyclesFrom_flatten (fun a e => Accounts.after a e.deal)
    (fun a : Accounts ℚ => a.position = 0) (.start capital) [] sorted
  rw [hsplit, List.flatten_append, List.nil_append] at hall
  have hmem : e ∈ early.flatten := by
    refine mem_flatten_of_split hearly.symm ?_
    rw [cyclesFrom_flatten]
    simp
  have hmem' : e' ∈ late.flatten := by
    refine mem_flatten_of_split hlate.symm ?_
    rw [cycles, cyclesFrom_flatten]
    simpa using he'
  rw [← hall] at hsorted
  exact (List.pairwise_append.mp hsorted).2.2 e hmem e' hmem'

/-- **A journal that says what the engine did needs the stops in order.** -/
theorem stopsInOrder_of_journalOf {bs : List Booking} {es : List PaperTradeExecution}
    {j : PaperTradeJournal} (h : JournalOf encodings config state j)
    (hes : executionsOf state = .ok es)
    (hjoined : Joined state.orders state.fills config.initialCapital bs es) :
    StopsInOrder state.orders state.fills := by
  obtain ⟨es', hes', hperm, hengine⟩ := h.executions
  obtain rfl : es = es' := Except.ok.inj (hes.symm.trans hes')
  obtain ⟨unsorted, r, last, hunsorted, hsorted, hwalk, -, hlast, htrades⟩ :=
    buildPaperTradeJournal_cases h.accepted
  obtain rfl : es = unsorted := Except.ok.inj (hes.symm.trans hunsorted)
  have hpos : ∀ e ∈ j.executions, 0 < e.quantity := fun e he =>
    (hjoined.proper e (hperm.mem_iff.mp he)).deal.quantity_pos
  have hcycles := trades_executions hpos hwalk hlast
  rw [← htrades, hengine] at hcycles
  rw [hjoined.stopsInOrder_iff, List.pairwise_iff_getElem]
  intro i k hi hk hik hcandle hstop
  have hlength : bs.length = es.length := hjoined.joins.length_eq
  have hbefore := List.pairwise_iff_getElem.mp hjoined.ordered i k hi hk hik
  rcases hbefore with ⟨hlt, -⟩ | ⟨-, htime, hnext, -⟩
  · exact absurd hcandle hlt.ne
  have hi' : i < es.length := hlength ▸ hi
  have hk' : k < es.length := hlength ▸ hk
  have hjoin : ∀ n (hn : n < bs.length) (hn' : n < es.length), Joins state.orders bs[n] es[n] :=
    fun n hn hn' => List.Forall₂.get hjoined.joins hn hn'
  obtain ⟨o, ho, hisStop, hsequence, -, heq⟩ := hjoin i hi hi'
  obtain ⟨o', ho', hisStop', hsequence', -, heq'⟩ := hjoin k hk hk'
  -- the stop sells the whole position
  have hwhole := hjoined.sells (bs.take i) bs[i] (bs.drop (i + 1))
    (by rw [List.getElem_cons_drop, List.take_append_drop])
  obtain ⟨hside, hquantity⟩ := hwhole.whole hstop
  have hpre : deals (es.take i) = bookedDeals (bs.take i) := by
    rw [deals, bookedDeals, List.map_take, List.map_take]
    exact congrArg (List.take i) hjoined.deals
  have hflat : (replay config.initialCapital (deals (es.take i ++ [es[i]]))).position = 0 := by
    have hdeal : deals [es[i]] = [bs[i].fill.deal] := by
      rw [heq]
      rfl
    rw [deals_append, hdeal, hpre, replay_concat]
    simp [Accounts.after, Fill.deal, hside, hquantity]
  have hmem : es[k] ∈ es.drop (i + 1) := by
    refine List.mem_iff_getElem?.mpr ⟨k - (i + 1), ?_⟩
    rw [List.getElem?_drop, Nat.add_sub_cancel' hik, List.getElem?_eq_getElem hk']
  have hcut : es.take i ++ es[i] :: es.drop (i + 1) = es := by
    rw [List.getElem_cons_drop, List.take_append_drop]
  rw [← hcut] at hcycles
  have hle := executionLe_of_whole (hsorted ▸ sortExecutions_sorted es) hcycles.symm hflat hmem
  have hkeys : o.createdSequence ≤ o'.createdSequence := by
    have hfill : es[i].candleIndex = es[k].candleIndex := by
      rw [heq, heq']
      exact hcandle
    have hevent : es[i].eventTime = es[k].eventTime := by
      rw [heq, heq']
      exact htime
    have hboth : es[i].orderSequence ≤ es[k].orderSequence := by
      simp only [executionLe, hfill, hevent, lt_irrefl, decide_false, Bool.false_or,
        beq_self_eq_true, Bool.true_and, Bool.or_eq_true, decide_eq_true_eq, Bool.and_eq_true,
        beq_iff_eq] at hle
      rcases hle with hlt | ⟨hsame, -⟩
      · exact hlt.le
      · exact hsame.le
    rw [heq, heq'] at hboth
    exact hboth
  refine lt_of_le_of_ne (by omega) fun hsame => ?_
  rw [hsame] at ho
  rw [Option.some.inj (ho.symm.trans ho'), hisStop'] at hisStop
  rw [hstop, hnext] at hisStop
  cases hisStop

/-! ### A session that grows -/

/-- The candles of a contiguous batch lie in its range. -/
theorem candlesFit_mem {stop : Instant} : ∀ {candles : List Candle} {expected : Instant},
    candlesFit config stop expected candles = true →
      expected ≤ stop ∧ ∀ c ∈ candles, expected ≤ c.openTime ∧ c.openTime < stop := by
  intro candles
  induction candles with
  | nil =>
    intro expected h
    have hstop : expected = stop := by simpa [candlesFit] using h
    exact ⟨hstop.le, by simp⟩
  | cons candle candles ih =>
    intro expected h
    simp only [candlesFit, Bool.and_eq_true, beq_iff_eq] at h
    obtain ⟨⟨⟨⟨-, hopen⟩, -⟩, -⟩, hrest⟩ := h
    obtain ⟨hle, hmem⟩ := ih hrest
    have hlt : expected < expected + config.timeframe.duration :=
      lt_add_of_pos_right expected config.timeframe.duration_pos
    refine ⟨hlt.le.trans hle, fun c hc => ?_⟩
    rcases List.mem_cons.mp hc with rfl | hc
    · exact ⟨hopen.ge, hopen ▸ hlt.trans_le hle⟩
    · exact ⟨hlt.le.trans (hmem c hc).1, (hmem c hc).2⟩

/-- The engine reads every candle of a batch. -/
theorem BatchFits.contextCandles (h : BatchFits encodings config batch)
    {snapshot : DatasetSnapshot} :
    Backtesting.contextCandles
      (backtestConfig config batch.dataRange snapshot.snapshotId h.start h.startAt_lt)
      ((inMemoryReader snapshot batch.candles).iterCandles batch.dataRange) = batch.candles := by
  obtain ⟨-, hmem⟩ := candlesFit_mem h.candles
  have hread : (inMemoryReader snapshot batch.candles).iterCandles batch.dataRange =
      batch.candles := by
    refine List.filter_eq_self.mpr fun c hc => ?_
    simp [(hmem c hc).1, (hmem c hc).2]
  have htake : batch.candles.takeWhile (fun c => decide (c.openTime < batch.dataRange.stop)) =
      batch.candles :=
    List.takeWhile_eq_self_iff.mpr fun c hc => decide_eq_true (hmem c hc).2
  rw [hread]
  change (batch.candles.takeWhile _).filter _ = batch.candles
  refine (congrArg _ htake).trans ?_
  exact List.filter_eq_self.mpr fun c hc => decide_eq_true (hmem c hc).1

theorem backtestConfig_sameRules {range range' : DataRange} (id id' : String)
    (hstart : range.start = config.contextStart) (hstop : config.startAt < range.stop)
    (hstart' : range'.start = config.contextStart) (hstop' : config.startAt < range'.stop) :
    SameRules (backtestConfig config range id hstart hstop)
      (backtestConfig config range' id' hstart' hstop') :=
  ⟨rfl, rfl, rfl, rfl, rfl, rfl, rfl, rfl, rfl, rfl⟩

/-- **A session that grows only adds to its orders and its fills.** -/
theorem executed_grows {batch₁ : PaperCandleBatch} {state₁ : PaperSessionState}
    {snapshot₁ : DatasetSnapshot} {s₁ : EngineState σ} (hignores : strategy.IgnoresSnapshot)
    (hpre : batch₁.candles <+: batch.candles)
    (h₁ : Executed .exact encodings hash registry config batch₁ state₁ strategy snapshot₁ s₁)
    (h : Executed .exact encodings hash registry config batch state strategy snapshot s) :
    OrdersExtend s₁.orders s.orders ∧ s₁.fills <+: s.fills := by
  obtain ⟨later, hlater⟩ := hpre
  have hrules := backtestConfig_sameRules snapshot₁.snapshotId snapshot.snapshotId
    h₁.fits.start h₁.fits.startAt_lt h.fits.start h.fits.startAt_lt
  have hrun₁ := h₁.run
  have hrun := h.run
  rw [runCandles, bind_eq_ok, h₁.fits.contextCandles] at hrun₁
  rw [runCandles, bind_eq_ok, h.fits.contextCandles] at hrun
  obtain ⟨start₁, hstart₁, hfold₁⟩ := hrun₁
  obtain ⟨start, hstart, hfold⟩ := hrun
  obtain ⟨t, ht, halike⟩ := startState_alike hignores hrules start₁ hstart₁
  obtain rfl : t = start := Except.ok.inj (ht.symm.trans hstart)
  rw [← hlater] at hfold
  obtain ⟨t₁, hfirst, hrest⟩ := foldlM_append_eq_ok.mp hfold
  have hstep : ∀ (b : EngineState σ) (c : Candle) (b' d : EngineState σ), b.Alike d →
      processCandle .exact hash strategy (backtestConfig config batch₁.dataRange
        snapshot₁.snapshotId h₁.fits.start h₁.fits.startAt_lt) snapshot₁ b c = .ok b' →
      ∃ d', processCandle .exact hash strategy (backtestConfig config batch.dataRange
        snapshot.snapshotId h.fits.start h.fits.startAt_lt) snapshot d c = .ok d' ∧ b'.Alike d' :=
    fun b c b' d hbd hb => processCandle_alike hignores hrules hbd b' hb
  obtain ⟨t₁', hfirst', halike'⟩ := foldlM_simulates hstep _ _ _ _ halike hfold₁
  obtain rfl : t₁' = t₁ := Except.ok.inj (hfirst'.symm.trans hfirst)
  obtain ⟨callbacks, rfl⟩ := halike'
  have hpublished := foldlM_processCandle_published (startState_cases hstart).2.2.2.2.2 hfirst
  obtain ⟨hext, -⟩ := foldlM_processCandle_extends hpublished h₁.processed hrest
  exact ⟨hext.orders, hext.fills.isPrefix⟩

/-- An execution is that of a filled order. -/
theorem executionOf_cases {orders : List SimulatedOrder} {fill : Fill} {e : PaperTradeExecution}
    (h : executionOf orders fill = .ok e) :
    ∃ o ∈ orders, o.orderId = fill.orderId ∧ o.status = .filled ∧ fromDomain o fill = .ok e := by
  unfold executionOf at h
  cases hfind : orderById orders fill.orderId with
  | none =>
    rw [hfind] at h
    simp at h
  | some o =>
    rw [hfind] at h
    have hmem : o ∈ orders := List.mem_reverse.mp (List.mem_of_find?_eq_some hfind)
    have hid : o.orderId = fill.orderId := by simpa using List.find?_some hfind
    refine ⟨o, hmem, hid, ?_, h⟩
    by_contra hne
    simp [fromDomain, hid, hne, FailureKind.unless, FailureKind.raiseWith, bind, Except.bind,
      Except.mapError] at h

/-- The executions of a state come first among those of the state it grows into. -/
theorem executions_grow {orders₁ orders : List SimulatedOrder} {fills₁ fills : List Fill}
    {es₁ es : List PaperTradeExecution} (hcanonical : Canonical orders fills)
    (hes₁ : fills₁.mapM (executionOf orders₁) = .ok es₁)
    (hes : fills.mapM (executionOf orders) = .ok es) (horders : OrdersExtend orders₁ orders)
    (hfills : fills₁ <+: fills) : es₁ <+: es := by
  have hsame : ∀ f e, executionOf orders₁ f = .ok e → executionOf orders f = .ok e := by
    intro f e he
    obtain ⟨o, ho, hid, hfilled, hjoin⟩ := executionOf_cases he
    obtain ⟨i, hi⟩ := List.mem_iff_getElem?.mp ho
    obtain ⟨o', ho', -, hfinal⟩ := horders i o hi
    obtain rfl : o' = o := hfinal (by rw [hfilled]; trivial)
    rw [executionOf, ← hid, hcanonical.orderById (List.mem_of_getElem? ho')]
    exact hjoin
  obtain ⟨more, rfl⟩ := hfills
  rw [List.mapM_append, bind_eq_ok] at hes
  obtain ⟨es₁', hes₁', hes⟩ := hes
  rw [bind_eq_ok] at hes
  obtain ⟨es₂, -, hes⟩ := hes
  cases hes
  have hboth : es₁' = es₁ := by
    have hleft := forall₂_of_mapM hes₁
    have hright := forall₂_of_mapM hes₁'
    clear hes₁ hes₁' hcanonical
    induction hleft generalizing es₁' with
    | nil =>
      cases hright
      rfl
    | cons he _ ih =>
      cases hright with
      | cons he' hrest =>
        rw [ih _ hrest, Except.ok.inj (he'.symm.trans (hsame _ _ he))]
  exact ⟨es₂, by rw [hboth]⟩

/-- **A session that grows keeps the trades that are closed**: whatever was published earlier, of
the first candles, has a journal whose closed trades are the first of this one. -/
def KeepsClosedTrades (encodings : Encodings) (hash : String → RawLedgerEntry → String)
    (registry : StrategyPluginRegistry σ) (config : PaperSessionConfig) (batch : PaperCandleBatch)
    (j : PaperTradeJournal) : Prop :=
  ∀ (batch₁ : PaperCandleBatch) (replayTime₁ : Instant) (override₁ : Option Sha256)
    (state₁ : PaperSessionState), batch₁.candles <+: batch.candles →
    execute .exact encodings hash registry config batch₁ replayTime₁ override₁ = .ok state₁ →
    ∃ j₁, buildPaperTradeJournal encodings .exact config state₁ = .ok j₁ ∧
      (j₁.trades.filter fun t => t.status == .closed) <+: j.trades

/-- The closed trades of an accepted journal are those that the walk finished. -/
theorem Accepted.closedTrades {es : List PaperTradeExecution} {j : PaperTradeJournal} {r : Replay}
    (h : Accepted encodings config state es j r) :
    (j.trades.filter fun t => t.status == .closed) = r.trades := by
  obtain ⟨last, htrades, hopen⟩ := h.trades
  rw [htrades, List.filter_append, List.filter_eq_self.mpr fun t ht => by simp [h.closed t ht],
    List.filter_eq_nil_iff.mpr fun t ht => by simp [hopen t ht], List.append_nil]

/-- **When the journal of a published state is accepted.**  For every session and every batch that
replays it, the journal of the published state says what the engine did, and keeps the closed
trades of every earlier state if the strategy does not look at the snapshot of its contexts, exactly
when no protective stop was filled before an order of its candle that is older than it. -/
theorem journalOf_iff {replayTime : Instant} {override : Option Sha256}
    (h : execute .exact encodings hash registry config batch replayTime override = .ok state) :
    (∃ j, JournalOf encodings config state j ∧
      ((∀ strategy, buildStrategy registry config = .ok strategy → strategy.IgnoresSnapshot) →
        KeepsClosedTrades encodings hash registry config batch j)) ↔
      StopsInOrder state.orders state.fills := by
  obtain ⟨strategy, snapshot, s, hexecuted⟩ := execute_cases h
  obtain ⟨bs, es, hbooked, hmarked, hes, hjoined⟩ := hexecuted.joined
  constructor
  · rintro ⟨j, hj, -⟩
    exact stopsInOrder_of_journalOf hj hes hjoined
  · intro hstops
    have hdistinct := hjoined.distinct hstops
    obtain ⟨j, r, hj⟩ := accepted_of_distinct hexecuted hbooked hmarked hes hjoined hdistinct
    refine ⟨j, hj.journal, fun hignores batch₁ replayTime₁ override₁ state₁ hpre h₁ => ?_⟩
    obtain ⟨strategy₁, snapshot₁, s₁, hexecuted₁⟩ := execute_cases h₁
    obtain rfl : strategy₁ = strategy :=
      Except.ok.inj (hexecuted₁.built.symm.trans hexecuted.built)
    obtain ⟨bs₁, es₁, hbooked₁, hmarked₁, hes₁, hjoined₁⟩ := hexecuted₁.joined
    obtain ⟨horders, hfills⟩ :=
      executed_grows (hignores _ hexecuted.built) hpre hexecuted₁ hexecuted
    rw [← hexecuted₁.orders, ← hexecuted.orders] at horders
    rw [← hexecuted₁.fills, ← hexecuted.fills] at hfills
    obtain ⟨more, rfl⟩ := executions_grow hjoined.canonical hes₁ hes horders hfills
    obtain ⟨j₁, r₁, hj₁⟩ := accepted_of_distinct hexecuted₁ hbooked₁ hmarked₁ hes₁ hjoined₁
      (hdistinct.sublist (List.sublist_append_left _ _))
    refine ⟨j₁, hj₁.journal.accepted, ?_⟩
    obtain ⟨r₁', hwalk₁, hmore⟩ := foldlM_append_eq_ok.mp hj.walk
    obtain rfl : r₁' = r₁ := by
      have hwalk := hj₁.walk
      rw [hexecuted₁.session, ← hexecuted.session] at hwalk
      exact Except.ok.inj (hwalk₁.symm.trans hwalk)
    obtain ⟨last, htrades, -⟩ := hj.trades
    rw [hj₁.closedTrades, htrades]
    exact (replay_trades hmore).trans (List.prefix_append _ _)

end

/-! ### A stop above a resting bid -/

/-- Sixty-four zeros. -/
def zeroDigest : Sha256 := ⟨String.ofList (List.replicate 64 '0'), by decide⟩

def sampleEncodings : Encodings where
  sessionId := fun _ => zeroDigest
  configChecksum := fun _ => zeroDigest
  snapshotId := fun _ _ _ => zeroDigest
  sourceChecksum := fun _ => zeroDigest
  stateId := fun _ => zeroDigest
  stateChecksum := fun _ _ _ => zeroDigest
  tradeId := fun _ _ _ => zeroDigest
  isoformat := fun _ => ""

/-- A bid for one unit at 80. -/
def limitBuy : OrderIntent where
  side := .buy
  orderType := .limit
  quantity := 1
  timeInForce := .gtc
  limitPrice := some 80
  stopPrice := none
  clientTag := none
  quantity_pos := oneUnit_pos
  prices_valid := ⟨⟨80, rfl, by norm_num⟩, rfl⟩
  clientTag_safe := untagged_safe

/-- Submits the given orders on the first candle, and nothing after it. -/
def ladder (intents : List OrderIntent) : Strategy Bool where
  descriptor := ⟨"ladder", "1", []⟩
  init := false
  onStart := fun _ submitted => .ok ([], submitted)
  onCandle := fun _ _ submitted => .ok (if submitted then [] else intents, true)
  onFill := fun _ _ submitted => .ok ([], submitted)
  onEnd := fun _ submitted => .ok submitted
  onWarmupCandle := none

def ladderRegistry (intents : List OrderIntent) : StrategyPluginRegistry Bool :=
  fun _ _ => .ok ⟨1, fun _ => .ok (ladder intents)⟩

theorem isAsset_usdt : isAsset "USDT" = true := by decide

def samplePair : TradingPair := ⟨"BTC", "USDT", by decide, isAsset_usdt, by decide⟩

theorem ladder_startAt : dailyTimeframe.validateOpenTime 0 = true := by decide

theorem ladder_warmup : 0 ≤ 10 := by decide

theorem ladder_schema_two :
    1 = 2 → (none : Option MarketRegimePolicy).isSome = true ∧
      (none : Option PaperTradingHorizon) = none :=
  fun h => absurd h (by decide)

theorem ladder_schema_three : 1 = 3 → (none : Option PaperTradingHorizon).isSome = true :=
  fun h => absurd h (by decide)

theorem ladder_engineVersion : isSafeToken "1" = true := by decide

/-- A session without warmup that protects its position ten percent below its entry. -/
def ladderConfig : PaperSessionConfig where
  pair := samplePair
  timeframe := dailyTimeframe
  startAt := 0
  warmupCandles := 0
  strategy := ⟨"ladder", "1", []⟩
  strategyLifecycleVersion := 1
  initialCapital := 1000
  execution := protectedConfig.execution
  constraints := protectedConfig.constraints
  riskLimits := protectedConfig.riskLimits
  historyWindow := 10
  maxCandles := 100
  maxOrders := 10
  maxEvents := 100
  engineVersion := "1"
  marketRegimePolicy := none
  tradingHorizon := none
  schemaVersion := 1
  startAt_aligned := ladder_startAt
  warmup_le := ladder_warmup
  lifecycle_supported := .inl rfl
  warmup_lifecycle := fun h => absurd h (lt_irrefl 0)
  no_forceClose := rfl
  schema_supported := .inl rfl
  schema_one := fun _ => ⟨rfl, rfl⟩
  schema_two := ladder_schema_two
  schema_three := ladder_schema_three
  initialCapital_pos := sampleCapital_pos
  historyWindow_pos := one_le_ten
  historyWindow_le := ten_le_hundred
  maxOrders_pos := one_le_ten
  maxEvents_pos := one_le_hundred
  engineVersion_safe := ladder_engineVersion

def sampleCandle (day : ℕ) (openPrice close : ℚ) : Candle :=
  { dailyCandle day openPrice close with
    symbol := samplePair.symbol
    closeTime := day * Instant.microsecondsPerDay + Instant.microsecondsPerDay
    openTime_lt_closeTime := by simp [dailyCandle, Instant.microsecondsPerDay] }

theorem threeDays_pos : (0 : ℤ) < 3 * Instant.microsecondsPerDay := by decide

/-- Two quiet days, and one that falls from 100 to 70. -/
def fallingBatch : PaperCandleBatch where
  dataRange := ⟨0, 3 * Instant.microsecondsPerDay, threeDays_pos⟩
  datasetVersion := zeroDigest
  sourceChecksum := zeroDigest
  candles := [sampleCandle 0 100 100, sampleCandle 1 100 100, sampleCandle 2 100 70]
  candles_ne := by simp

/-- The failure that a computation raised. -/
def failureOf {α : Type} : Except Failure α → Option Failure
  | .error e => some e
  | .ok _ => none

theorem failureOf_eq_some {α : Type} {x : Except Failure α} {e : Failure} :
    failureOf x = some e ↔ x = .error e := by
  cases x with
  | error e' => simp [failureOf]
  | ok a => simp [failureOf]

/-- What replaying the orders over the fall publishes. -/
def fallingState (intents : List OrderIntent) : Except Failure PaperSessionState :=
  execute .exact sampleEncodings (fun _ _ => "") (ladderRegistry intents) ladderConfig fallingBatch
    0 none

/-- One unit bought at the market is stopped out on the fall, and its journal is accepted. -/
theorem journalOf_iff_fall : ∃ state, fallingState [buyOneUnit] = .ok state ∧
    StopsInOrder state.orders state.fills ∧
    ∃ j, JournalOf sampleEncodings ladderConfig state j := by
  have hstate : ∃ state, fallingState [buyOneUnit] = .ok state ∧
      StopsInOrder state.orders state.fills := by
    have hboth : ((fallingState [buyOneUnit]).map fun state =>
        decide (StopsInOrder state.orders state.fills)) = .ok true := by decide +kernel
    cases hrun : fallingState [buyOneUnit] with
    | error e =>
      rw [hrun] at hboth
      cases hboth
    | ok state =>
      rw [hrun] at hboth
      exact ⟨state, rfl, of_decide_eq_true (Except.ok.inj hboth)⟩
  obtain ⟨state, hstate, hstops⟩ := hstate
  obtain ⟨j, hj, -⟩ := (journalOf_iff hstate).mpr hstops
  exact ⟨state, hstate, hstops, j, hj⟩

/-- With a bid resting at 80 the fall fills the stop of the unit, then the bid, and the journal of
the published state is refused. -/
theorem journal_refused_ladder : ∃ state, fallingState [buyOneUnit, limitBuy] = .ok state ∧
    buildPaperTradeJournal sampleEncodings .exact ladderConfig state =
      .error ⟨.paperSessionVerification,
        "A contabilidade reconstruída diverge do portfolio persistido."⟩ := by
  have hrefused : (fallingState [buyOneUnit, limitBuy]).map (fun state =>
      failureOf (buildPaperTradeJournal sampleEncodings .exact ladderConfig state)) =
        .ok (some ⟨.paperSessionVerification,
          "A contabilidade reconstruída diverge do portfolio persistido."⟩) := by
    decide +kernel
  cases hrun : fallingState [buyOneUnit, limitBuy] with
  | error e =>
    rw [hrun] at hrefused
    cases hrefused
  | ok state =>
    rw [hrun] at hrefused
    exact ⟨state, rfl, failureOf_eq_some.mp (Except.ok.inj hrefused)⟩

end PaperTrading
end DryTrade
