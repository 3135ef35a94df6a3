import DryTrade.Backtesting.FillOrder
import DryTrade.Backtesting.Prefix
import DryTrade.Backtesting.Rerun
import DryTrade.PaperTrading.Acceptance

/-!
# The executions of a replayed session

What `execute` publishes are the orders and the fills of a run of the engine.  Every
fill is booked to one order, so that it joins to one execution; the executions come in
the order the engine filled them, which is the order of their keys unless a protective
stop was filled before an older order of its candle.

## Main definitions

* `Joins` — the execution of a booking.
* `PaperSessionState.StopsInOrder` — no stop is filled before an older order of its candle.

## Main results

* `execute_cases` — what a replay publishes.
* `Joined.before_iff` — the executions come in the order of their keys exactly when the
  stops are in order.
-/

namespace DryTrade
namespace PaperTrading

open MarketData Indicators Backtesting

section

variable {ctx : DecimalContext} {encodings : Encodings}
variable {hash : String → RawLedgerEntry → String} {σ : Type}
variable {registry : StrategyPluginRegistry σ} {config : PaperSessionConfig}
variable {batch : PaperCandleBatch} {replayTime : Instant} {override : Option Sha256}
variable {state : PaperSessionState}

/-- **What a replay publishes**: the orders, the fills and the portfolio of a run of the engine over
the batch, whose state passed the checks. -/
structure Executed (ctx : DecimalContext) (encodings : Encodings)
    (hash : String → RawLedgerEntry → String) (registry : StrategyPluginRegistry σ)
    (config : PaperSessionConfig) (batch : PaperCandleBatch) (state : PaperSessionState)
    (strategy : Strategy σ) (snapshot : DatasetSnapshot) (s : EngineState σ) : Prop where
  fits : BatchFits encodings config batch
  built : buildStrategy registry config = .ok strategy
  run : runCandles ctx hash strategy
    (backtestConfig config batch.dataRange snapshot.snapshotId fits.start fits.startAt_lt) snapshot
    ((inMemoryReader snapshot batch.candles).iterCandles batch.dataRange) = .ok s
  processed : 0 < s.candlesProcessed
  orders : state.orders = s.orders
  fills : state.fills = s.fills
  portfolio : state.portfolio = s.portfolio.snapshot
  session : state.sessionId = encodings.sessionId config
  valid : validatePaperStateAgainstConfig ctx encodings state config = .ok ()

theorem execute_cases
    (h : execute ctx encodings hash registry config batch replayTime override = .ok state) :
    ∃ strategy snapshot s,
      Executed ctx encodings hash registry config batch state strategy snapshot s := by
  unfold execute at h
  split at h
  case isFalse => simp at h
  case isTrue fits =>
    simp only [bind_eq_ok, pure, Except.pure, Except.ok.injEq, Prod.exists] at h
    obtain ⟨strategy, hstrategy, result, callbacks, hrun, state', hstate, _, hvalid, rfl⟩ := h
    simp only [run, bind_eq_ok, pure, Except.pure, Except.ok.injEq, Prod.mk.injEq] at hrun
    obtain ⟨_, -, _, -, snapshot, hopen, s, hs, sEnd, hfinish, _, -, rfl, rfl⟩ := hrun
    have hsnapshot : snapshot = paperSnapshot encodings config
        (override.getD batch.datasetVersion) batch replayTime := by
      simp only [openSnapshotFor, inMemoryReader] at hopen
      split at hopen
      · simp [FailureKind.raise] at hopen
      · next heq =>
        simp only [bind_eq_ok, pure, Except.pure, Except.ok.injEq] at hopen
        obtain ⟨_, -, _, -, rfl⟩ := hopen
        split at heq
        · exact (Option.some.inj heq).symm
        · cases heq
    obtain ⟨hpos, final, st, context, -, -, rfl⟩ := finishRun_plain config.no_forceClose hfinish
    simp only [buildPaperSessionState, bind_eq_ok, FailureKind.require_eq_ok, exists_const, pure,
      Except.pure, Except.ok.injEq] at hstate
    obtain ⟨-, -, _, -, rfl⟩ := hstate
    exact ⟨strategy, snapshot, s, fits, hstrategy, hsnapshot ▸ hs, hpos, rfl, rfl, rfl, rfl, hvalid⟩

/-! ### Published orders and fills -/

/-- What the checks on a state say about its orders and its fills. -/
structure Canonical (orders : List SimulatedOrder) (fills : List Fill) : Prop where
  ids : (orders.map SimulatedOrder.orderId).Nodup
  sequences : orders.map SimulatedOrder.createdSequence = List.range' 1 orders.length
  safe : ∀ f ∈ fills, isSafeToken f.fillId = true ∧ isSafeToken f.orderId = true
  fillIds : (fills.map Fill.fillId).Nodup
  orderIds : (fills.map Fill.orderId).Nodup

theorem canonical_of_validate {u : Unit}
    (h : validatePaperStateAgainstConfig ctx encodings state config = .ok u) :
    Canonical state.orders state.fills := by
  simp only [validatePaperStateAgainstConfig, validatePaperSessionState, bind_eq_ok,
    FailureKind.require_eq_ok, exists_const] at h
  obtain ⟨⟨-, -, -, -, hcanonical, -⟩, -⟩ := h
  simp only [ordersAndFillsCanonical, Bool.and_eq_true, decide_eq_true_eq, List.all_eq_true,
    fillCanonical] at hcanonical
  obtain ⟨⟨⟨⟨⟨⟨⟨⟨-, hids⟩, hsequences⟩, hsafe⟩, hfillIds⟩, horderIds⟩, -⟩, -⟩, -⟩ := hcanonical
  exact ⟨hids, hsequences, fun f hf => (hsafe f hf).1, hfillIds, horderIds⟩

section

variable {orders : List SimulatedOrder} {fills : List Fill} {o : SimulatedOrder} {i : ℕ}

/-- The sequence of an order is its position. -/
theorem Canonical.sequence (h : Canonical orders fills) (ho : orders[i]? = some o) :
    o.createdSequence = i + 1 := by
  have hi : (orders.map SimulatedOrder.createdSequence)[i]? = some o.createdSequence := by
    simp [ho]
  rw [h.sequences, List.getElem?_range'] at hi
  · simp at hi
    omega
  · obtain ⟨hlt, -⟩ := List.getElem?_eq_some_iff.mp ho
    exact hlt

/-- The order of an id is the one that has it. -/
theorem Canonical.orderById (h : Canonical orders fills) (ho : o ∈ orders) :
    PaperTrading.orderById orders o.orderId = some o := by
  unfold PaperTrading.orderById
  cases hfind : orders.reverse.find? fun o' => o'.orderId == o.orderId with
  | none =>
    have hnone := List.find?_eq_none.mp hfind o (List.mem_reverse.mpr ho)
    simp at hnone
  | some o' =>
    have hsame : o'.orderId = o.orderId := by simpa using List.find?_some hfind
    have hmem : o' ∈ orders := List.mem_reverse.mp (List.mem_of_find?_eq_some hfind)
    rw [List.inj_on_of_nodup_map h.ids hmem ho hsame]

/-- **A fill that fits its order joins to an execution.** -/
theorem executionOf_ok (h : Canonical orders fills) {b : Booking} (hb : b.fill ∈ fills)
    (hfits : b.Fits orders) (hvalid : b.fill.Valid .exact) :
    ∃ o, orders[b.position]? = some o ∧ o.isEngineStop = b.isStop ∧
      o.createdSequence = b.position + 1 ∧ o.orderId = b.fill.orderId ∧
      executionOf orders b.fill = .ok (joined o b.fill) := by
  obtain ⟨o, ho, hstatus, hid, hside, hquantity, hterminal, heligible, hstop⟩ := hfits
  have hsequence := h.sequence ho
  refine ⟨o, ho, hstop, hsequence, hid, ?_⟩
  obtain ⟨hfillId, horderId⟩ := h.safe b.fill hb
  have hvalidated : (joined o b.fill).validate = .ok (joined o b.fill) := by
    simp only [PaperTradeExecution.validate, safeIdentifier, positive, nonnegative, check,
      bind_eq_ok, FailureKind.unless_eq_ok, exists_const, pure, Except.pure, decide_eq_true_eq]
    refine ⟨hfillId, horderId, ?_, (), ?_, hvalid.quantity_pos, hvalid.basePrice_pos,
      hvalid.executionPrice_pos, hvalid.notional_pos, hvalid.fee_nonneg, hvalid.slippageCost_nonneg,
      hvalid.notional_eq, trivial⟩
    · change 1 ≤ o.createdSequence
      omega
    · change o.intent.clientTag.forM _ = _
      cases htag : o.intent.clientTag with
      | none => rfl
      | some tag =>
        have hsafe := isSafeToken_of_isSafeTag (o.intent.clientTag_safe tag htag)
        simp [Option.forM, hsafe, FailureKind.unless]
  rw [executionOf, ← hid, h.orderById (List.mem_of_getElem? ho)]
  simp [fromDomain, hid, hstatus, hside, hquantity, hterminal, heligible, FailureKind.unless,
    hvalidated, ok_bind, Except.mapError]

end

/-! ### Joined executions -/

/-- The execution of a booking: that of its fill and of the order it filled. -/
def Joins (orders : List SimulatedOrder) (b : Booking) (e : PaperTradeExecution) : Prop :=
  ∃ o, orders[b.position]? = some o ∧ o.isEngineStop = b.isStop ∧
    o.createdSequence = b.position + 1 ∧ o.orderId = b.fill.orderId ∧ e = joined o b.fill

/-- The executions of the fills that a run booked. -/
structure Joined (orders : List SimulatedOrder) (fills : List Fill) (capital : ℚ)
    (bs : List Booking) (es : List PaperTradeExecution) : Prop where
  canonical : Canonical orders fills
  fills : bs.map Booking.fill = fills
  valid : ∀ b ∈ bs, b.fill.Valid .exact
  ordered : bs.Pairwise Booking.Before
  sells : AlongPrefixes (Booking.Sells capital) bs
  joins : List.Forall₂ (Joins orders) bs es

/-- Related lists have equal images. -/
theorem map_eq_of_forall₂ {α β γ : Type} {R : α → β → Prop} {f : α → γ} {g : β → γ} {l : List α}
    {l' : List β} (h : List.Forall₂ R l l') (hR : ∀ a b, R a b → f a = g b) : l.map f = l'.map g := by
  induction h with
  | nil => rfl
  | cons hab _ ih => rw [List.map_cons, List.map_cons, hR _ _ hab, ih]

section

variable {capital : ℚ} {bs : List Booking} {es : List PaperTradeExecution}

/-- **The fills of a run join to executions, one by one.** -/
theorem joined_of_booked {s : EngineState σ} (hbooked : Booked capital s bs)
    (hcanonical : Canonical s.orders s.fills) :
    ∃ es, s.fills.mapM (executionOf s.orders) = .ok es ∧
      Joined s.orders s.fills capital bs es := by
  have hmem : ∀ b ∈ bs, b.fill ∈ s.fills := fun b hb =>
    hbooked.fills ▸ List.mem_map_of_mem hb
  have hreturns : ∀ f ∈ s.fills, ∃ e, executionOf s.orders f = .ok e := by
    intro f hf
    rw [← hbooked.fills] at hf
    obtain ⟨b, hb, rfl⟩ := List.mem_map.mp hf
    obtain ⟨o, -, -, -, -, hok⟩ :=
      executionOf_ok hcanonical (hmem b hb) (hbooked.fits b hb) (hbooked.valid b hb)
    exact ⟨_, hok⟩
  obtain ⟨es, hes⟩ := mapM_of_forall hreturns
  refine ⟨es, hes, hcanonical, hbooked.fills, hbooked.valid, hbooked.ordered, hbooked.sells, ?_⟩
  have hall := forall₂_of_mapM hes
  rw [← hbooked.fills, List.forall₂_map_left_iff] at hall
  refine ((List.forall₂_and_left (p := fun b => b ∈ bs) _ _).mpr ⟨fun b hb => hb, hall⟩).imp ?_
  rintro b e ⟨hb, he⟩
  obtain ⟨o, ho, hstop, hsequence, hid, hok⟩ :=
    executionOf_ok hcanonical (hmem b hb) (hbooked.fits b hb) (hbooked.valid b hb)
  exact ⟨o, ho, hstop, hsequence, hid, Except.ok.inj (he.symm.trans hok)⟩

variable {orders : List SimulatedOrder} {fills : List Fill}

/-- The executions are the deals that were booked. -/
theorem Joined.deals (h : Joined orders fills capital bs es) :
    PaperTrading.deals es = bookedDeals bs := by
  refine (map_eq_of_forall₂ h.joins ?_).symm
  rintro b e ⟨o, -, -, -, -, rfl⟩
  rfl

theorem Joined.proper (h : Joined orders fills capital bs es) : ∀ e ∈ es, e.Proper := by
  intro e he
  obtain ⟨i, hi⟩ := List.mem_iff_getElem?.mp he
  obtain ⟨b, hb, o, -, -, -, -, rfl⟩ := exists_of_forall₂ h.joins hi
  have hvalid := h.valid b (List.mem_of_getElem? hb)
  exact ⟨hvalid.proper, hvalid.slippageCost_nonneg⟩

theorem Joined.covered (h : Joined orders fills capital bs es) :
    Covered capital (PaperTrading.deals es) := by
  rw [h.deals]
  intro before d after hsplit hsell
  obtain ⟨bs₁, bs₂, rfl, rfl, hrest⟩ := List.map_eq_append_iff.mp hsplit
  obtain ⟨b, bs₃, rfl, rfl, -⟩ := List.map_eq_cons_iff.mp hrest
  refine (h.sells bs₁ b bs₃ rfl).covered ?_
  cases hside : b.fill.side with
  | buy => simp [Fill.deal, hside] at hsell
  | sell => rfl

theorem Joined.fillIds (h : Joined orders fills capital bs es) :
    (es.map PaperTradeExecution.fillId).Nodup := by
  have hsame : bs.map (fun b => b.fill.fillId) = es.map PaperTradeExecution.fillId := by
    refine map_eq_of_forall₂ h.joins ?_
    rintro b e ⟨o, -, -, -, -, rfl⟩
    rfl
  have hids := h.canonical.fillIds
  rw [← h.fills, List.map_map] at hids
  exact hsame ▸ hids

theorem Joined.orderIds (h : Joined orders fills capital bs es) :
    (es.map PaperTradeExecution.orderId).Nodup := by
  have hsame : bs.map (fun b => b.fill.orderId) = es.map PaperTradeExecution.orderId := by
    refine map_eq_of_forall₂ h.joins ?_
    rintro b e ⟨o, -, -, -, -, rfl⟩
    rfl
  have hids := h.canonical.orderIds
  rw [← h.fills, List.map_map] at hids
  exact hsame ▸ hids

/-! ### Stops in order -/

/-- In no candle is a protective stop filled before an order that is older than it. -/
def StopsInOrder (orders : List SimulatedOrder) (fills : List Fill) : Prop :=
  fills.Pairwise fun f g => f.candleIndex = g.candleIndex →
    ∀ o ∈ orders, ∀ o' ∈ orders, o.orderId = f.orderId → o'.orderId = g.orderId →
      o.isEngineStop = true → o.createdSequence < o'.createdSequence

instance : Decidable (StopsInOrder orders fills) :=
  inferInstanceAs (Decidable (List.Pairwise _ _))

/-- The bookings whose stops are in order. -/
def Booking.StopFirst (b b' : Booking) : Prop :=
  b.fill.candleIndex = b'.fill.candleIndex → b.isStop = true → b.position < b'.position

/-- A booking and the order of its id. -/
theorem Joined.order (h : Joined orders fills capital bs es) {b : Booking} (hb : b ∈ bs)
    {o : SimulatedOrder} (ho : o ∈ orders) (hid : o.orderId = b.fill.orderId) :
    o.isEngineStop = b.isStop ∧ o.createdSequence = b.position + 1 := by
  obtain ⟨i, hi⟩ := List.mem_iff_getElem?.mp hb
  obtain ⟨e, -, o', ho', hstop, hsequence, hid', -⟩ := exists_of_forall₂ h.joins.flip hi
  rw [List.inj_on_of_nodup_map h.canonical.ids ho (List.mem_of_getElem? ho') (hid.trans hid'.symm)]
  exact ⟨hstop, hsequence⟩

theorem Joined.exists_order (h : Joined orders fills capital bs es) {b : Booking} (hb : b ∈ bs) :
    ∃ o ∈ orders, o.orderId = b.fill.orderId := by
  obtain ⟨i, hi⟩ := List.mem_iff_getElem?.mp hb
  obtain ⟨e, -, o, ho, -, -, hid, -⟩ := exists_of_forall₂ h.joins.flip hi
  exact ⟨o, List.mem_of_getElem? ho, hid⟩

theorem Joined.stopsInOrder_iff (h : Joined orders fills capital bs es) :
    StopsInOrder orders fills ↔ bs.Pairwise Booking.StopFirst := by
  rw [StopsInOrder, ← h.fills, List.pairwise_map]
  constructor
  · intro hpairs
    refine hpairs.imp_of_mem fun {b b'} hb hb' hpair hcandle hstop => ?_
    obtain ⟨o, ho, hid⟩ := h.exists_order hb
    obtain ⟨o', ho', hid'⟩ := h.exists_order hb'
    obtain ⟨hisStop, hsequence⟩ := h.order hb ho hid
    obtain ⟨-, hsequence'⟩ := h.order hb' ho' hid'
    have hlt := hpair hcandle o ho o' ho' hid hid' (hisStop.trans hstop)
    omega
  · intro hpairs
    refine hpairs.imp_of_mem fun {b b'} hb hb' hpair hcandle o ho o' ho' hid hid' hstop => ?_
    obtain ⟨hisStop, hsequence⟩ := h.order hb ho hid
    obtain ⟨-, hsequence'⟩ := h.order hb' ho' hid'
    have hlt := hpair hcandle (hisStop.symm.trans hstop)
    omega

/-- **Stops that are in order leave the executions in the order of their keys.** -/
theorem Joined.distinct (h : Joined orders fills capital bs es) (hstops : StopsInOrder orders fills) :
    Distinct es := by
  refine ⟨?_, h.fillIds, h.orderIds⟩
  refine pairwise_of_forall₂ ?_ h.joins (h.ordered.and (h.stopsInOrder_iff.mp hstops))
  rintro b b' _ _ ⟨o, -, -, hsequence, -, rfl⟩ ⟨o', -, -, hsequence', -, rfl⟩ ⟨hbefore, hfirst⟩
  rcases hbefore with ⟨hindex, htime⟩ | ⟨hindex, htime, -, hstop | hposition⟩
  · exact .inl ⟨htime, hindex⟩
  · refine .inr ⟨htime, hindex, ?_⟩
    have hlt := hfirst hindex hstop
    change o.createdSequence < o'.createdSequence
    omega
  · refine .inr ⟨htime, hindex, ?_⟩
    change o.createdSequence < o'.createdSequence
    omega

end

end

end PaperTrading
end DryTrade
