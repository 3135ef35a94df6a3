import DryTrade.Backtesting.Walk
import DryTrade.SpotAccounts

/-!
# The order of the fills

Orders are numbered as they are appended, and become eligible no earlier than
those before them, so the orders that one candle visits come in the order of
their numbers, except for a protective stop, which is visited before any other.
Hence the fills of a run come in the order of their candles, and within a candle
in the order of their orders, except for the fill of a stop, which comes first and
sells the whole position.

## Main definitions

* `Sequenced` — the numbers and the eligibility of a list of orders.
* `Booking`, `Booking.Before` — one fill with the order it filled, and the order of two of them.
* `Booked` — the fills of a state in their order, and the accounts they lead to.

## Main results

* `applyFill_accounts` — applying a fill is one deal of weighted-average accounting.
* `Reached.books` — the fills of every reached state are booked.
* `runCandles_books` — so are those of a run.
-/

namespace DryTrade
namespace Backtesting

open MarketData Indicators

/-! ### The numbers of the orders -/

/-- The orders are numbered from one, none becomes eligible before one of a smaller number, and
all are eligible by candle `bound`. -/
structure Sequenced (bound : ℤ) (orders : List SimulatedOrder) : Prop where
  sequence : ∀ (i : ℕ) (o : SimulatedOrder), orders[i]? = some o → o.createdSequence = i + 1
  eligible : ∀ (i j : ℕ) (a b : SimulatedOrder), i < j → orders[i]? = some a →
    orders[j]? = some b → a.eligibleCandleIndex ≤ b.eligibleCandleIndex
  bounded : ∀ o ∈ orders, o.eligibleCandleIndex ≤ bound

/-- What stands at a position of a list with one more element. -/
theorem getElem?_concat_cases {α : Type*} {l : List α} {a x : α} {i : ℕ}
    (h : (l ++ [a])[i]? = some x) : l[i]? = some x ∨ (i = l.length ∧ x = a) := by
  rcases lt_or_ge i l.length with hlt | hge
  · rw [List.getElem?_append_left hlt] at h
    exact .inl h
  · rw [List.getElem?_append_right hge, List.getElem?_singleton] at h
    split at h
    · next hzero =>
      cases h
      exact .inr ⟨by omega, rfl⟩
    · cases h

namespace Sequenced

variable {bound : ℤ} {orders orders' : List SimulatedOrder}

theorem nil (bound : ℤ) : Sequenced bound [] where
  sequence := by simp
  eligible := by simp
  bounded := by simp

theorem mono (h : Sequenced bound orders) {bound' : ℤ} (hle : bound ≤ bound') :
    Sequenced bound' orders :=
  ⟨h.sequence, h.eligible, fun o ho => (h.bounded o ho).trans hle⟩

/-- Orders that only moved in their lifecycle keep their numbers. -/
theorem of_extend (h : Sequenced bound orders) (hext : OrdersExtend orders orders')
    (hlen : orders'.length = orders.length) : Sequenced bound orders' := by
  have hback : ∀ (i : ℕ) (o' : SimulatedOrder), orders'[i]? = some o' →
      ∃ o, orders[i]? = some o ∧ o.SameCreation o' := by
    intro i o' ho'
    have hi : i < orders.length := hlen ▸ (List.getElem?_eq_some_iff.mp ho').1
    obtain ⟨o'', ho'', hsame, -⟩ := hext i orders[i] (List.getElem?_eq_getElem hi)
    rw [ho'] at ho''
    cases ho''
    exact ⟨orders[i], List.getElem?_eq_getElem hi, hsame⟩
  refine ⟨fun i o' ho' => ?_, fun i j a' b' hij ha' hb' => ?_, fun o' ho' => ?_⟩
  · obtain ⟨o, ho, hsame⟩ := hback i o' ho'
    rw [hsame.createdSequence, h.sequence i o ho]
  · obtain ⟨a, ha, hsame⟩ := hback i a' ha'
    obtain ⟨b, hb, hsame'⟩ := hback j b' hb'
    rw [hsame.eligibleCandleIndex, hsame'.eligibleCandleIndex]
    exact h.eligible i j a b hij ha hb
  · obtain ⟨i, hi⟩ := List.mem_iff_getElem?.mp ho'
    obtain ⟨o, ho, hsame⟩ := hback i o' hi
    rw [hsame.eligibleCandleIndex]
    exact h.bounded o (List.mem_of_getElem? ho)

/-- An order may be appended under the next number. -/
theorem concat (h : Sequenced bound orders) {o : SimulatedOrder}
    (hseq : o.createdSequence = orders.length + 1) (helig : o.eligibleCandleIndex = bound) :
    Sequenced bound (orders ++ [o]) := by
  refine ⟨fun i x hx => ?_, fun i j a b hij ha hb => ?_, fun x hx => ?_⟩
  · rcases getElem?_concat_cases hx with hold | ⟨rfl, rfl⟩
    · exact h.sequence i x hold
    · exact hseq
  · rcases getElem?_concat_cases hb with hold | ⟨rfl, rfl⟩
    · have hj := (List.getElem?_eq_some_iff.mp hold).1
      rw [List.getElem?_append_left (hij.trans hj)] at ha
      exact h.eligible i j a b hij ha hold
    · rw [List.getElem?_append_left hij] at ha
      rw [helig]
      exact h.bounded a (List.mem_of_getElem? ha)
  · rcases List.mem_append.mp hx with hx | hx
    · exact h.bounded x hx
    · rw [List.mem_singleton.mp hx, helig]

end Sequenced

section

variable {ctx : DecimalContext} {hash : String → RawLedgerEntry → String}
variable {σ : Type} {strategy : Strategy σ} {config : BacktestConfig} {snapshot : DatasetSnapshot}
variable {orders orders' : List SimulatedOrder} {t : Instant} {idx : ℤ}

/-- An order that was created and moved once is numbered as it was created. -/
theorem created_moved {intent : OrderIntent} {sequence : ℕ} {status : OrderStatus}
    {code : Option String} {created o : SimulatedOrder}
    (hcreated : createOrder intent sequence t idx = .ok created)
    (ho : transitionOrder created status t code = .ok o) :
    o.createdSequence = sequence ∧ o.eligibleCandleIndex = idx + 1 := by
  obtain ⟨-, -, hseq, helig, -, -⟩ := createOrder_eq_ok hcreated
  obtain ⟨hsame, -, -⟩ := transitionOrder_evolves ho
  exact ⟨hsame.createdSequence.trans hseq, hsame.eligibleCandleIndex.trans helig⟩

theorem orderOfDecision_created {decision : RiskDecision × OrderIntent} {sequence : ℕ}
    {o : SimulatedOrder} (h : orderOfDecision decision sequence t idx = .ok o) :
    o.createdSequence = sequence ∧ o.eligibleCandleIndex = idx + 1 := by
  obtain ⟨decision, sized⟩ := decision
  cases decision with
  | accepted normalized notional =>
    simp only [orderOfDecision, bind_eq_ok] at h
    obtain ⟨created, hcreated, ho⟩ := h
    exact created_moved hcreated ho
  | rejected code notional =>
    simp only [orderOfDecision, bind_eq_ok] at h
    obtain ⟨created, hcreated, ho⟩ := h
    exact created_moved hcreated ho

/-- Submitted orders take the next numbers. -/
theorem submitIntents_sequenced {price : ℚ} {portfolio : PortfolioState} {halt : Bool} :
    ∀ {intents : List OrderIntent} {orders orders' : List SimulatedOrder},
      Sequenced (idx + 1) orders →
      submitIntents ctx config idx t price portfolio halt intents orders = .ok orders' →
        Sequenced (idx + 1) orders' := by
  intro intents
  induction intents with
  | nil =>
    intro orders orders' hseq h
    cases h
    exact hseq
  | cons intent rest ih =>
    intro orders orders' hseq h
    simp only [submitIntents, bind_eq_ok] at h
    obtain ⟨-, -, -, -, decision, -, o, ho, h⟩ := h
    obtain ⟨hnumber, helig⟩ := orderOfDecision_created ho
    exact ih (hseq.concat hnumber helig) h

/-- So does the stop that a reconciliation places. -/
theorem reconcileStopLoss_sequenced {portfolio : PortfolioState} (hseq : Sequenced (idx + 1) orders)
    (h : reconcileStopLoss ctx config portfolio orders t idx = .ok orders') :
    Sequenced (idx + 1) orders' := by
  simp only [reconcileStopLoss, bind_eq_ok] at h
  obtain ⟨cancelled, hcancel, decision, -, hplace⟩ := h
  have hlen : cancelled.length = orders.length := by
    obtain ⟨-, rfl⟩ := transitionWhere_eq_ok.mp hcancel
    exact List.length_map _
  have hcancelled := hseq.of_extend (transitionWhere_extends hcancel) hlen
  cases decision with
  | none =>
    cases hplace
    exact hcancelled
  | some d =>
    obtain ⟨quantity, stopPrice⟩ := d
    simp only [placeStopLoss, bind_eq_ok] at hplace
    obtain ⟨-, -, -, -, hplace⟩ := hplace
    split at hplace
    · simp only [bind_eq_ok, pure, Except.pure, Except.ok.injEq] at hplace
      obtain ⟨created, hcreated, o, ho, rfl⟩ := hplace
      obtain ⟨hnumber, helig⟩ := created_moved hcreated ho
      exact hcancelled.concat hnumber helig
    · simp at hplace

/-! ### Fills as deals -/

/-- The deal that a fill is. -/
def Fill.deal (fill : Fill) : Deal ℚ where
  isBuy := fill.side == .buy
  quantity := fill.quantity
  notional := fill.notional
  fee := fill.fee
  slippage := fill.slippageCost

/-- The accounts that a portfolio shows. -/
def PortfolioSnapshot.accounts (p : PortfolioSnapshot) : Accounts ℚ where
  cash := p.quoteCash
  position := p.baseQuantity
  costBasis := p.costBasis
  realized := p.realizedPnl
  fees := p.totalFees
  slippage := p.totalSlippageCost

/-- A valid fill is a proper deal. -/
theorem Fill.Valid.proper {fill : Fill} (h : fill.Valid ctx) : fill.deal.Proper :=
  ⟨h.quantity_pos, h.notional_pos, h.fee_nonneg⟩

/-- **Applying a fill is one deal of weighted-average accounting.** -/
theorem applyFill_accounts {s : PortfolioState} {fill : Fill} {mutation : PortfolioMutation}
    (h : applyFill .exact s fill = .ok mutation) :
    mutation.after.snapshot.accounts = s.snapshot.accounts.after fill.deal ∧
      mutation.after.averageEntryPrice =
        mutation.after.costBasis / mutation.after.baseQuantity := by
  obtain ⟨-, -, hafter⟩ := applyFill_eq_ok h
  rw [hafter]
  unfold filledState
  cases hside : fill.side with
  | buy =>
    refine ⟨?_, rfl⟩
    simp [PortfolioState.snapshot, PortfolioSnapshot.accounts, Accounts.after, Fill.deal, hside,
      markedState, boughtState]
  | sell =>
    constructor
    · simp [PortfolioState.snapshot, PortfolioSnapshot.accounts, Accounts.after, Fill.deal, hside,
        markedState, soldState, releasedCost, realizedDelta, Accounts.releases]
      congr
    · by_cases hflat : s.baseQuantity - fill.quantity = 0
      · simp [markedState, soldState, hflat]
      · simp [markedState, soldState, hflat]

/-- A sale that is applied sells no more than the position. -/
theorem applyFill_covered {s : PortfolioState} {fill : Fill} {mutation : PortfolioMutation}
    (h : applyFill ctx s fill = .ok mutation) (hside : fill.side = .sell) :
    fill.quantity ≤ s.baseQuantity := by
  simp only [applyFill, hside, bind_eq_ok] at h
  obtain ⟨m, hm, -⟩ := h
  exact (applySell_eq_ok hm).1

/-- The portfolio shows its position at some price. -/
def PortfolioState.IsMarked (p : PortfolioState) : Prop :=
  ∃ price, 0 < price ∧ p.equity = p.quoteCash + p.baseQuantity * price ∧
    p.unrealizedPnl = p.baseQuantity * price - p.costBasis

theorem markToMarket_isMarked {s p : PortfolioState} {price : ℚ}
    (h : markToMarket .exact s price = .ok p) : p.IsMarked := by
  obtain ⟨hprice, -, rfl⟩ := markToMarket_eq_ok.mp h
  exact ⟨price, hprice, rfl, rfl⟩

/-! ### Bookings -/

/-- One fill, the position of the order it filled, and whether that is a stop of the engine. -/
structure Booking where
  fill : Fill
  position : ℕ
  isStop : Bool

/-- The order of the booking is filled, by the fill of the booking. -/
def Booking.Fits (orders : List SimulatedOrder) (b : Booking) : Prop :=
  ∃ o, orders[b.position]? = some o ∧ o.status = .filled ∧ o.orderId = b.fill.orderId ∧
    o.intent.side = b.fill.side ∧ o.intent.quantity = b.fill.quantity ∧
    o.terminalAt = some b.fill.eventTime ∧ o.eligibleCandleIndex ≤ b.fill.candleIndex ∧
    o.isEngineStop = b.isStop

/-- `b'` is a fill of a later candle, or of a later order of the same candle, unless `b` is the
fill of a stop; and no stop is filled second. -/
def Booking.Before (b b' : Booking) : Prop :=
  (b.fill.candleIndex < b'.fill.candleIndex ∧ b.fill.eventTime < b'.fill.eventTime) ∨
    (b.fill.candleIndex = b'.fill.candleIndex ∧ b.fill.eventTime = b'.fill.eventTime ∧
      b'.isStop = false ∧ (b.isStop = true ∨ b.position < b'.position))

/-- A filled order is final. -/
theorem Booking.Fits.of_extend {b : Booking} (h : b.Fits orders)
    (hext : OrdersExtend orders orders') : b.Fits orders' := by
  obtain ⟨o, ho, hstatus, hrest⟩ := h
  obtain ⟨o', ho', -, hfinal⟩ := hext b.position o ho
  have hsame : o' = o := hfinal (by rw [hstatus]; decide)
  exact ⟨o, hsame ▸ ho', hstatus, hrest⟩

/-- The deals of a list of bookings. -/
def bookedDeals (bs : List Booking) : List (Deal ℚ) := bs.map fun b => b.fill.deal

/-- What holds of a booking after the bookings before it: it sells no more than the position,
and a stop sells the whole of it. -/
structure Booking.Sells (capital : ℚ) (before : List Booking) (b : Booking) : Prop where
  covered : b.fill.side = .sell → b.fill.quantity ≤ (replay capital (bookedDeals before)).position
  whole : b.isStop = true → b.fill.side = .sell ∧
    b.fill.quantity = (replay capital (bookedDeals before)).position

/-- **The fills of a state are booked**: they come in the order of their candles and orders, and
the portfolio is what they lead to. -/
structure Booked (capital : ℚ) (s : EngineState σ) (bs : List Booking) : Prop where
  fills : bs.map Booking.fill = s.fills
  fits : ∀ b ∈ bs, b.Fits s.orders
  valid : ∀ b ∈ bs, b.fill.Valid .exact
  ordered : bs.Pairwise Booking.Before
  accounts : s.portfolio.snapshot.accounts = replay capital (bookedDeals bs)
  sells : AlongPrefixes (Booking.Sells capital) bs
  average : s.portfolio.averageEntryPrice = s.portfolio.costBasis / s.portfolio.baseQuantity

/-- Only orders moved or were added, and the accounts are the same. -/
theorem Booked.of_extend {capital : ℚ} {s s' : EngineState σ} {bs : List Booking}
    (h : Booked capital s bs) (hfills : s'.fills = s.fills)
    (hext : OrdersExtend s.orders s'.orders)
    (haccounts : s'.portfolio.snapshot.accounts = s.portfolio.snapshot.accounts)
    (haverage : s'.portfolio.averageEntryPrice = s.portfolio.averageEntryPrice) :
    Booked capital s' bs where
  fills := h.fills.trans hfills.symm
  fits b hb := (h.fits b hb).of_extend hext
  valid := h.valid
  ordered := h.ordered
  accounts := haccounts.trans h.accounts
  sells := h.sells
  average := by
    have hposition := congrArg Accounts.position haccounts
    have hcost := congrArg Accounts.costBasis haccounts
    change s'.portfolio.baseQuantity = s.portfolio.baseQuantity at hposition
    change s'.portfolio.costBasis = s.portfolio.costBasis at hcost
    rw [haverage, hposition, hcost]
    exact h.average

/-- The fills so far are of this candle or of earlier ones. -/
def Booking.Until (c : OpenCandle) (b : Booking) : Prop :=
  (b.fill.candleIndex = c.candleIndex ∧ b.fill.eventTime = c.candle.openTime) ∨
    (b.fill.candleIndex < c.candleIndex ∧ b.fill.eventTime < c.candle.openTime)

/-- The positions that are left come in the order of their numbers, except for a stop, are
eligible, and come after those of the fills of this candle. -/
structure Remaining (c : OpenCandle) (orders : List SimulatedOrder) (bs : List Booking)
    (todo : List ℕ) : Prop where
  sorted : todo.Pairwise fun i j =>
    (∃ o, orders[i]? = some o ∧ o.isEngineStop = true) ∨ i < j
  eligible : ∀ i ∈ todo, ∃ o, orders[i]? = some o ∧ o.eligibleCandleIndex ≤ c.candleIndex
  after : ∀ b ∈ bs, b.fill.candleIndex = c.candleIndex → ∀ i ∈ todo,
    (∃ o, orders[i]? = some o ∧ o.isEngineStop = false) ∧ (b.isStop = true ∨ b.position < i)

theorem Remaining.of_same {c : OpenCandle} {bs : List Booking} {todo : List ℕ}
    (h : Remaining c orders bs todo) (hsame : SameAt orders orders' todo) :
    Remaining c orders' bs todo := by
  refine ⟨h.sorted.imp_of_mem fun {i j} hi _ hij => ?_, fun i hi => ?_, fun b hb hindex i hi => ?_⟩
  · rw [hsame i hi]
    exact hij
  · rw [hsame i hi]
    exact h.eligible i hi
  · rw [hsame i hi]
    exact h.after b hb hindex i hi

theorem Remaining.of_cons {c : OpenCandle} {bs : List Booking} {i : ℕ} {todo : List ℕ}
    (h : Remaining c orders bs (i :: todo)) : Remaining c orders bs todo where
  sorted := (List.pairwise_cons.mp h.sorted).2
  eligible j hj := h.eligible j (List.mem_cons_of_mem i hj)
  after b hb hindex j hj := h.after b hb hindex j (List.mem_cons_of_mem i hj)

/-! ### The positions a candle visits -/

/-- An open stop is visited first, and the other orders in the order of their numbers. -/
theorem eligibleOrderPositions_sorted {bound : ℤ} (hseq : Sequenced bound orders) (n : ℕ) :
    (eligibleOrderPositions orders n).Pairwise fun i j =>
      (∃ o, orders[i]? = some o ∧ o.isEngineStop = true) ∨ i < j := by
  have hnodup := (eligibleOrderPositions_waiting orders n).1
  rw [eligibleOrderPositions_eq] at hnodup ⊢
  have hperm := (eligibleCandidates orders n).perm_insertionSort fun a b => eligibleLe a b = true
  have hsorted := (eligibleCandidates orders n).pairwise_insertionSort
    fun a b => eligibleLe a b = true
  rw [List.pairwise_map]
  refine (hsorted.and (List.pairwise_map.mp hnodup)).imp_of_mem fun {p q} hp hq hpq => ?_
  obtain ⟨hat, -⟩ := mem_eligibleCandidates (hperm.mem_iff.mp hp)
  obtain ⟨hat', -⟩ := mem_eligibleCandidates (hperm.mem_iff.mp hq)
  obtain ⟨hle, hne⟩ := hpq
  cases hstop : p.2.isEngineStop with
  | true => exact .inl ⟨p.2, hat, hstop⟩
  | false =>
    refine .inr (lt_of_not_ge fun hge => ?_)
    have hlt : q.1 < p.1 := lt_of_le_of_ne hge (Ne.symm hne)
    have helig := hseq.eligible q.1 p.1 q.2 p.2 hlt hat' hat
    have hnumber := hseq.sequence p.1 p.2 hat
    have hnumber' := hseq.sequence q.1 q.2 hat'
    -- the smaller number would have the higher priority
    have hpriority : priorityLe p.2 q.2 = true := by
      unfold eligibleLe at hle
      rw [hstop] at hle
      cases hstop' : q.2.isEngineStop with
      | true => simp [hstop'] at hle
      | false => simpa [hstop'] using hle
    rcases priorityLe_iff.mp hpriority with h | ⟨-, h | ⟨h, -⟩⟩ <;> omega

theorem eligibleOrderPositions_eligible {n i : ℕ} (hi : i ∈ eligibleOrderPositions orders n) :
    ∃ o, orders[i]? = some o ∧ o.eligibleCandleIndex ≤ (n : ℤ) := by
  rw [eligibleOrderPositions_eq] at hi
  obtain ⟨p, hp, rfl⟩ := List.mem_map.mp hi
  have hmem := ((eligibleCandidates orders n).perm_insertionSort
    fun a b => eligibleLe a b = true).mem_iff.mp hp
  obtain ⟨hat, -⟩ := mem_eligibleCandidates hmem
  have hkeep := (List.mem_filter.mp hmem).2
  simp only [Bool.and_eq_true, decide_eq_true_eq] at hkeep
  exact ⟨p.2, hat, hkeep.2⟩

/-! ### The invariant of the loop -/

/-- Between two candles the fills are booked, they are of processed candles, and the portfolio
shows the last close. -/
def EngineState.Between (capital : ℚ) (s : EngineState σ) : Prop :=
  ∃ bs, Booked capital s bs ∧ Sequenced s.candlesProcessed s.orders ∧
    (∀ b ∈ bs, b.fill.candleIndex < s.candlesProcessed ∧
      ∃ c ∈ s.lastCandle, b.fill.eventTime ≤ c.openTime) ∧
    (s.candlesProcessed ≠ 0 → s.portfolio.IsMarked)

/-- While a candle is evaluated, the fills are booked and are of this candle or earlier ones. -/
structure Filling (capital : ℚ) (c : OpenCandle) (s : EngineState σ) (bs : List Booking) :
    Prop where
  booked : Booked capital s bs
  sequenced : Sequenced (c.candleIndex + 1) s.orders
  fills : ∀ b ∈ bs, b.Until c
  processed : s.candlesProcessed = c.candleIndex
  last : s.lastCandle = some c.candle

/-- **The invariant of the loop.** -/
def EnginePoint.Books (capital : ℚ) : EnginePoint σ → Prop
  | .starting s _ | .between s | .warming _ _ s _ => s.Between capital
  | .filling c s todo | .telling c s todo _ _ =>
      ∃ bs, Filling capital c s bs ∧ Remaining c s.orders bs todo
  | .closing c s _ => ∃ bs, Filling capital c s bs ∧ s.portfolio.IsMarked

/-- A state that differs in nothing the invariant speaks of. -/
theorem EngineState.Between.congr {capital : ℚ} {s s' : EngineState σ} (h : s.Between capital)
    (hfills : s'.fills = s.fills) (horders : s'.orders = s.orders)
    (hportfolio : s'.portfolio = s.portfolio)
    (hprocessed : s'.candlesProcessed = s.candlesProcessed)
    (hlast : ∀ c ∈ s.lastCandle, ∃ c' ∈ s'.lastCandle, c.openTime ≤ c'.openTime) :
    s'.Between capital := by
  obtain ⟨bs, hbooked, hseq, hbs, hmarked⟩ := h
  refine ⟨bs, hbooked.of_extend hfills (horders ▸ .refl _) (by rw [hportfolio])
    (by rw [hportfolio]), ?_, fun b hb => ?_, ?_⟩
  · rw [hprocessed, horders]
    exact hseq
  · obtain ⟨hindex, c, hc, htime⟩ := hbs b hb
    obtain ⟨c', hc', hle⟩ := hlast c hc
    exact ⟨hprocessed ▸ hindex, c', hc', htime.trans hle⟩
  · rw [hprocessed, hportfolio]
    exact hmarked

/-- The candle that is admitted opens after the one before it. -/
theorem validateCandle_last {candle : Candle} {last : Option Candle}
    (h : validateCandle candle last = .ok ()) : ∀ c ∈ last, c.openTime < candle.openTime := by
  rintro c hc
  rw [Option.mem_def] at hc
  rw [hc] at h
  exact validateCandle_openTime h

/-- The fill is of the order, at the given time. -/
theorem makeFill_identity {o : SimulatedOrder} {q : ExecutionQuote} {n seq : ℕ} {fill : Fill}
    (h : makeFill ctx config o q t n seq = .ok fill) :
    fill.orderId = o.orderId ∧ fill.eventTime = t := by
  simp only [makeFill, bind_eq_ok, Fill.validate_eq_ok] at h
  obtain ⟨fee, -, -, rfl⟩ := h
  exact ⟨rfl, rfl⟩

/-- The start intents take the first numbers. -/
theorem submitPendingStart_sequenced {s s' : EngineState σ} {candle : Candle}
    (hseq : Sequenced s.candlesProcessed s.orders)
    (h : submitPendingStart ctx config s candle = .ok s') :
    Sequenced s.candlesProcessed s'.orders := by
  unfold submitPendingStart at h
  split at h
  · next hfirst =>
    simp only [bind_eq_ok, pure, Except.pure, Except.ok.injEq] at h
    obtain ⟨orders, horders, -, -, rfl⟩ := h
    rw [hfirst.1] at hseq ⊢
    exact submitIntents_sequenced hseq horders
  · cases h
    exact hseq

/-- The order that is filled stands at its position as the booking says. -/
theorem bookFill_fits {s s' : EngineState σ} {c : OpenCandle} {i : ℕ} {o : SimulatedOrder}
    {fill : Fill} (attempt : FillAttempt ctx config c.candle c.candleIndex s i o fill)
    (helig : o.eligibleCandleIndex ≤ c.candleIndex)
    (book : bookFill ctx hash config c.candle c.candleIndex s i o fill = .ok s') :
    Booking.Fits s'.orders ⟨fill, i, o.isEngineStop⟩ := by
  obtain ⟨mutation, filled, -, -, hfilled, horders, -⟩ := bookFill_cases book
  obtain ⟨q, -, hfill⟩ := attempt.quoted
  obtain ⟨-, hindex, hside, hquantity, -⟩ := makeFill_eq_ok hfill
  obtain ⟨horder, htime⟩ := makeFill_identity hfill
  obtain ⟨-, rfl⟩ := transitionOrder_eq_ok.mp hfilled
  have hlt : i < s.orders.length := (List.getElem?_eq_some_iff.mp attempt.order_at).1
  have hat : (s.orders.set i (o.moved .filled c.candle.openTime none))[i]? =
      some (o.moved .filled c.candle.openTime none) := by simp [hlt]
  refine Booking.Fits.of_extend ⟨_, hat, rfl, horder.symm, hside.symm, hquantity.symm, ?_, ?_, ?_⟩
    (reconcileStopLoss_extends horders)
  · rw [htime]
    rfl
  · rw [hindex]
    exact helig
  · exact o.moved_isEngineStop .filled c.candle.openTime none

/-- **Booking one more fill.** -/
theorem Filling.book {capital : ℚ} {s s' : EngineState σ} {c : OpenCandle} {bs : List Booking}
    {i : ℕ} {todo : List ℕ} {o : SimulatedOrder} {fill : Fill} (h : Filling capital c s bs)
    (hremaining : Remaining c s.orders bs (i :: todo))
    (hprotected : Protection .exact config s.portfolio.snapshot s.orders)
    (hwait : Waiting s.orders (i :: todo)) (htail : Unmanaged s.orders todo)
    (attempt : FillAttempt .exact config c.candle c.candleIndex s i o fill)
    (book : bookFill .exact hash config c.candle c.candleIndex s i o fill = .ok s') :
    ∃ bs', Filling capital c s' bs' ∧ Remaining c s'.orders bs' todo := by
  have hfits : Booking.Fits s'.orders ⟨fill, i, o.isEngineStop⟩ := by
    obtain ⟨o', ho', helig⟩ := hremaining.eligible i List.mem_cons_self
    rw [attempt.order_at] at ho'
    cases ho'
    exact bookFill_fits attempt helig book
  have hsame := bookFill_sameAt hwait htail book
  obtain ⟨q, -, hfill⟩ := attempt.quoted
  obtain ⟨hvalid, hindex, -⟩ := makeFill_eq_ok hfill
  obtain ⟨-, htime⟩ := makeFill_identity hfill
  have hopen : o.status = .open := by
    obtain ⟨o', ho', hopen⟩ := hwait.2 i List.mem_cons_self
    rw [attempt.order_at] at ho'
    cases ho'
    exact hopen
  have hposition : s.portfolio.baseQuantity = (replay capital (bookedDeals bs)).position :=
    congrArg Accounts.position h.booked.accounts
  have hbefore : ∀ b ∈ bs, b.Before ⟨fill, i, o.isEngineStop⟩ := by
    intro b hb
    rcases h.fills b hb with ⟨hnow, hopenTime⟩ | ⟨hearlier, hopenTime⟩
    · obtain ⟨⟨o', ho', hstop⟩, hfirst⟩ := hremaining.after b hb hnow i List.mem_cons_self
      rw [attempt.order_at] at ho'
      cases ho'
      exact .inr ⟨hnow.trans hindex.symm, hopenTime.trans htime.symm, hstop, hfirst⟩
    · exact .inl ⟨hearlier.trans_eq hindex.symm, hopenTime.trans_eq htime.symm⟩
  simp only [bookFill, bind_eq_ok, pure, Except.pure, Except.ok.injEq] at book
  obtain ⟨mutation, happly, ledger, -, filled, hfilled, orders, horders, rfl⟩ := book
  obtain ⟨haccounts, haverage⟩ := applyFill_accounts happly
  have hset := ordersExtend_set attempt.order_at hfilled
  have hext := hset.trans (reconcileStopLoss_extends horders)
  refine ⟨bs ++ [⟨fill, i, o.isEngineStop⟩], ⟨?_, ?_, ?_, h.processed, h.last⟩, ?_⟩
  · refine
      { fills := by rw [List.map_append, h.booked.fills, List.map_singleton]
        fits := ?_
        valid := ?_
        ordered := ?_
        accounts := ?_
        sells := alongPrefixes_concat.mpr ⟨h.booked.sells, ?_, ?_⟩
        average := haverage }
    · rw [List.forall_mem_append, List.forall_mem_singleton]
      exact ⟨fun b hb => (h.booked.fits b hb).of_extend hext, hfits⟩
    · rw [List.forall_mem_append, List.forall_mem_singleton]
      exact ⟨h.booked.valid, hvalid⟩
    · rw [List.pairwise_append]
      refine ⟨h.booked.ordered, List.pairwise_singleton _ _, fun b hb b' hb' => ?_⟩
      rw [List.mem_singleton.mp hb']
      exact hbefore b hb
    · rw [bookedDeals, List.map_append, List.map_singleton, replay_concat]
      exact haccounts.trans (congrArg (Accounts.after · fill.deal) h.booked.accounts)
    · intro hside
      rw [← hposition]
      exact applyFill_covered happly hside
    · intro hstop
      obtain ⟨hquantity, hside⟩ :=
        hprotected.quantity (List.mem_of_getElem? attempt.order_at) hopen hstop
      obtain ⟨-, -, hfillSide, hfillQuantity, -⟩ := makeFill_eq_ok hfill
      refine ⟨hfillSide.trans hside, ?_⟩
      rw [← hposition]
      exact hfillQuantity.trans hquantity
  · exact reconcileStopLoss_sequenced (h.sequenced.of_extend hset List.length_set) horders
  · rw [List.forall_mem_append, List.forall_mem_singleton]
    exact ⟨h.fills, .inl ⟨hindex, htime⟩⟩
  · refine ⟨(hremaining.of_cons.of_same hsame).sorted, (hremaining.of_cons.of_same hsame).eligible,
      ?_⟩
    rw [List.forall_mem_append, List.forall_mem_singleton]
    refine ⟨(hremaining.of_cons.of_same hsame).after, fun _ j hj => ⟨?_, ?_⟩⟩
    · exact (htail.of_same hsame) j hj
    · rcases (List.pairwise_cons.mp hremaining.sorted).1 j hj with ⟨o', ho', hstop⟩ | hlt
      · rw [attempt.order_at] at ho'
        cases ho'
        exact .inl hstop
      · exact .inr hlt

/-- **Every step keeps the fills booked.** -/
theorem EngineStep.books {p q : EnginePoint σ} (hprotected : p.Protected .exact config)
    (hwalks : p.Walks) (hp : p.Books config.initialCapital)
    (h : EngineStep .exact hash strategy config snapshot p q) : q.Books config.initialCapital := by
  cases h with
  | started answer =>
    obtain ⟨intents, st, rfl⟩ := answerStart_cases answer
    exact EngineState.Between.congr hp rfl rfl rfl rfl fun c hc => ⟨c, hc, le_rfl⟩
  | warm admitted early ask =>
    obtain ⟨acc, -, hvalid, rfl⟩ := admitCandle_cases admitted
    exact EngineState.Between.congr hp rfl rfl rfl rfl fun c hc =>
      ⟨_, rfl, (validateCandle_last hvalid c hc).le⟩
  | warmed answer =>
    obtain ⟨st, rfl⟩ := answerWarmup_cases answer
    exact EngineState.Between.congr hp rfl rfl rfl rfl fun c hc => ⟨c, hc, le_rfl⟩
  | @enter s s₀ s₁ candle regime admitted evaluated submit =>
    obtain ⟨acc, -, hvalid, rfl⟩ := admitCandle_cases admitted
    obtain ⟨bs, hbooked, hseq, hbs, -⟩ := hp
    have hseq' := submitPendingStart_sequenced (by exact hseq) submit
    obtain ⟨added, -, rfl, -⟩ := submitPendingStart_added submit
    refine ⟨bs, ⟨?_, ?_, fun b hb => ?_, rfl, rfl⟩, ?_, fun i hi => ?_, fun b hb hindex => ?_⟩
    · exact hbooked.of_extend rfl (ordersExtend_append _ added) rfl rfl
    · exact hseq'.mono (Int.le_add_one le_rfl)
    · obtain ⟨hindex, c, hc, htime⟩ := hbs b hb
      exact .inr ⟨hindex, htime.trans_lt (validateCandle_last hvalid c hc)⟩
    · exact eligibleOrderPositions_sorted hseq' _
    · exact eligibleOrderPositions_eligible hi
    · exact absurd hindex (hbs b hb).1.ne
  | @pass c s s' i todo unfilled visit =>
    obtain ⟨hwait, -⟩ := hwalks
    obtain ⟨bs, hfilling, hremaining⟩ := hp
    rcases visitOrder_pass unfilled visit with rfl | ⟨o, status, t, hi, -, -, hmove⟩
    · exact ⟨bs, hfilling, hremaining.of_cons⟩
    · simp only [transitionAt, bind_eq_ok, pure, Except.pure, Except.ok.injEq] at hmove
      obtain ⟨o', ho', rfl⟩ := hmove
      have hext := ordersExtend_set hi ho'
      exact ⟨bs, ⟨hfilling.booked.of_extend rfl hext rfl rfl,
        hfilling.sequenced.of_extend hext List.length_set, hfilling.fills, hfilling.processed,
        hfilling.last⟩, hremaining.of_cons.of_same (sameAt_set hwait o')⟩
  | fill attempt book ask =>
    obtain ⟨hwait, htail⟩ := hwalks
    obtain ⟨bs, hfilling, hremaining⟩ := hp
    exact hfilling.book hremaining hprotected hwait htail attempt book
  | @told c s s' todo context fill answer =>
    obtain ⟨hwait, -⟩ := hwalks
    obtain ⟨bs, hfilling, hremaining⟩ := hp
    simp only [answerFill, bind_eq_ok, pure, Except.pure, Except.ok.injEq, Prod.exists] at answer
    obtain ⟨intents, st, -, orders, horders, -, -, rfl⟩ := answer
    have hseq := submitIntents_sequenced hfilling.sequenced horders
    have hext := submitIntents_extends horders
    obtain ⟨added, rfl, -⟩ := submitIntents_cases horders
    exact ⟨bs, ⟨hfilling.booked.of_extend rfl hext rfl rfl, hseq, hfilling.fills,
      hfilling.processed, hfilling.last⟩, hremaining.of_same (sameAt_append hwait added)⟩
  | @close c s s' context mark ask =>
    obtain ⟨bs, hfilling, -⟩ := hp
    obtain ⟨hmark, -, hfills, hprocessed, horders⟩ := markAndHalt_cases mark
    obtain ⟨-, -, hmarked⟩ := markToMarket_eq_ok.mp hmark
    have hlast : s'.lastCandle = s.lastCandle := by
      simp only [markAndHalt, markClose, bind_eq_ok, pure, Except.pure, Except.ok.injEq] at mark
      obtain ⟨s₁, ⟨portfolio, -, ledger, -, rfl⟩, s₂, hhalt, rfl⟩ := mark
      unfold haltOnDrawdown at hhalt
      split at hhalt
      · simp only [bind_eq_ok, pure, Except.pure, Except.ok.injEq] at hhalt
        obtain ⟨orders, -, rfl⟩ := hhalt
        rfl
      · cases hhalt
        rfl
    have hext : OrdersExtend s.orders s'.orders ∧ s'.orders.length = s.orders.length := by
      rcases horders with ⟨-, hsame⟩ | ⟨-, -, hcancel⟩
      · rw [hsame]
        exact ⟨.refl _, rfl⟩
      · refine ⟨cancelOpenOrders_extends hcancel, ?_⟩
        obtain ⟨-, hmap⟩ := transitionWhere_eq_ok.mp hcancel
        rw [hmap, List.length_map]
    refine ⟨bs, ⟨?_, hfilling.sequenced.of_extend hext.1 hext.2, hfilling.fills,
      hprocessed.trans hfilling.processed, hlast.trans hfilling.last⟩, markToMarket_isMarked hmark⟩
    exact hfilling.booked.of_extend hfills hext.1 (by rw [hmarked]; rfl) (by rw [hmarked]; rfl)
  | @closed c s s' context answer =>
    obtain ⟨bs, hfilling, hmarked⟩ := hp
    simp only [answerCandle, bind_eq_ok, pure, Except.pure, Except.ok.injEq, Prod.exists] at answer
    obtain ⟨intents, st, -, orders, horders, -, -, rfl⟩ := answer
    have hseq := hfilling.sequenced
    rw [← hfilling.processed] at hseq
    refine ⟨bs, hfilling.booked.of_extend rfl (submitIntents_extends horders) rfl rfl, ?_,
      fun b hb => ?_, fun _ => hmarked⟩
    · exact_mod_cast submitIntents_sequenced hseq horders
    · refine ⟨?_, c.candle, hfilling.last, ?_⟩
      · rcases hfilling.fills b hb with ⟨hnow, -⟩ | ⟨hearlier, -⟩
        · change b.fill.candleIndex < s.candlesProcessed + 1
          rw [hnow, hfilling.processed]
          exact Nat.lt_succ_self _
        · change b.fill.candleIndex < s.candlesProcessed + 1
          rw [hfilling.processed]
          exact hearlier.trans (Nat.lt_succ_self _)
      · rcases hfilling.fills b hb with ⟨-, hnow⟩ | ⟨-, hearlier⟩
        · exact hnow.le
        · exact hearlier.le

/-- Before its first candle a run has no fill to book. -/
theorem openState_between {s : EngineState σ} {context : StrategyContext}
    (h : openState .exact hash strategy config snapshot = .ok (s, context)) :
    s.Between config.initialCapital := by
  simp only [openState, initializePortfolio, bind_eq_ok, FailureKind.unless_eq_ok, exists_const,
    PortfolioState.validate_eq_ok, pure, Except.pure, Except.ok.injEq, Prod.mk.injEq] at h
  obtain ⟨portfolio, ⟨-, -, rfl⟩, ledger, -, c, -, rfl, rfl⟩ := h
  refine ⟨[], ?_, .nil 0, by simp, fun hne => absurd rfl hne⟩
  exact
    { fills := rfl
      fits := by simp
      valid := by simp
      ordered := .nil
      accounts := rfl
      sells := alongPrefixes_nil
      average := by simp }

/-- **The fills of every reached state are booked.** -/
theorem Reached.books {p : EnginePoint σ} (h : Reached .exact hash strategy config snapshot p) :
    p.Books config.initialCapital := by
  have hall : p.Protected .exact config ∧ p.Walks ∧ p.Books config.initialCapital := by
    refine Reached.induct (P := fun p => p.Protected .exact config ∧ p.Walks ∧
      p.Books config.initialCapital) (fun s context hopen => ?_) (fun p q hp hstep => ?_) h
    · have hstart : Reached .exact hash strategy config snapshot (.starting s context) :=
        ⟨s, context, hopen, .refl⟩
      exact ⟨hstart.protected, trivial, openState_between hopen⟩
    · exact ⟨hstep.protected hp.1, hstep.walks hp.1 hp.2.1, hstep.books hp.1 hp.2.1 hp.2.2⟩
  exact hall.2.2

/-- The fills of a run are booked, and its portfolio shows the last close. -/
theorem runCandles_books {candles : List Candle} {s : EngineState σ}
    (h : runCandles .exact hash strategy config snapshot candles = .ok s)
    (hprocessed : s.candlesProcessed ≠ 0) :
    ∃ bs, Booked config.initialCapital s bs ∧ s.portfolio.IsMarked := by
  obtain ⟨bs, hbooked, -, -, hmarked⟩ := (runCandles_reached h).books
  exact ⟨bs, hbooked, hmarked hprocessed⟩

end

end Backtesting
end DryTrade
