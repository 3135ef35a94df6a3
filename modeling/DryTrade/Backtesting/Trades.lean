import DryTrade.Backtesting.Accounting

/-!
# Closed trades

The metrics of a run derive one closed trade from every sale, by a bookkeeping of their
own: the notional and the fees of the open position are kept apart, and a sale takes the
fraction of both that it sells.  A portfolio that accepts the same fills keeps one cost
basis.  The two agree, sale by sale.

## Main definitions

* `deriveClosedTrades` — the closed trades of a list of fills.
* `OpenSince` — the fills since the position was last flat.
* `TradeOf` — the trade of one sale.

## Main results

* `deriveClosedTrades_iff` — when the trades are derived, and what they are.
-/

namespace DryTrade
namespace Backtesting

open MarketData

/-- `_SAFE_TOKEN`: an identifier of at most 128 safe characters. -/
def isFillToken (s : String) : Bool :=
  match s.toList with
  | [] => false
  | c :: cs => c.isAlphanum && cs.all isSafeChar && decide (cs.length ≤ 127)

/-- One average-cost realization. -/
structure ClosedTrade where
  entryTime : Instant
  exitTime : Instant
  quantity : ℚ
  averageEntry : ℚ
  averageExit : ℚ
  grossPnl : ℚ
  fees : ℚ
  netPnl : ℚ
  returnPct : Option ℚ
  barsHeld : ℕ
  entryFillIds : List String
  exitFillIds : List String
  deriving DecidableEq

/-- What the derivation carries from fill to fill. -/
structure OpenPosition where
  quantity : ℚ
  notional : ℚ
  fees : ℚ
  entryFillIds : List String
  entryTime : Option Instant
  entryCandleIndex : ℕ
  trades : List ClosedTrade

/-- Before the first fill. -/
def OpenPosition.init : OpenPosition := ⟨0, 0, 0, [], none, 0, []⟩

section

variable (ctx : DecimalContext)

/-- The checks of the constructor of a closed trade. -/
def ClosedTrade.validate (t : ClosedTrade) : Except Failure ClosedTrade := do
  FailureKind.value.unless (decide (t.entryTime ≤ t.exitTime))
    "trade exit_time must not precede entry_time"
  FailureKind.value.unless (decide (0 < t.quantity)) "quantity must be positive"
  FailureKind.value.unless (decide (0 < t.averageEntry)) "average_entry must be positive"
  FailureKind.value.unless (decide (0 < t.averageExit)) "average_exit must be positive"
  FailureKind.value.unless (decide (0 ≤ t.fees)) "fees must be nonnegative"
  FailureKind.value.unless (decide (t.netPnl = ctx.sub t.grossPnl t.fees))
    "trade net_pnl must equal gross_pnl minus fees"
  FailureKind.value.unless (!t.entryFillIds.isEmpty && !t.exitFillIds.isEmpty)
    "closed trade requires entry and exit fill ids"
  FailureKind.value.unless ((t.entryFillIds ++ t.exitFillIds).all isFillToken)
    "trade fill ids must be safe identifiers"
  return t

/-- A buy enlarges the open position, or opens one. -/
def OpenPosition.buy (o : OpenPosition) (fill : Fill) : OpenPosition :=
  { o with
    entryTime := if o.quantity = 0 then some fill.eventTime else o.entryTime
    entryCandleIndex := if o.quantity = 0 then fill.candleIndex else o.entryCandleIndex
    entryFillIds := (if o.quantity = 0 then [] else o.entryFillIds) ++ [fill.fillId]
    quantity := ctx.add o.quantity fill.quantity
    notional := ctx.add o.notional fill.notional
    fees := ctx.add o.fees fill.fee }

/-- The trade of a sale, before the checks of its constructor. -/
def OpenPosition.trade (o : OpenPosition) (entryTime : Instant) (fill : Fill) : ClosedTrade :=
  let fraction := ctx.div fill.quantity o.quantity
  let allocatedNotional := ctx.mul o.notional fraction
  let allocatedEntryFees := ctx.mul o.fees fraction
  let grossPnl := ctx.sub fill.notional allocatedNotional
  let fees := ctx.add allocatedEntryFees fill.fee
  let netPnl := ctx.sub grossPnl fees
  let economicBasis := ctx.add allocatedNotional allocatedEntryFees
  { entryTime := entryTime
    exitTime := fill.eventTime
    quantity := fill.quantity
    averageEntry := ctx.div allocatedNotional fill.quantity
    averageExit := fill.executionPrice
    grossPnl := grossPnl
    fees := fees
    netPnl := netPnl
    returnPct := if economicBasis = 0 then none else some (ctx.mul (ctx.div netPnl economicBasis) 100)
    barsHeld := fill.candleIndex - o.entryCandleIndex
    entryFillIds := o.entryFillIds
    exitFillIds := [fill.fillId] }

/-- The position that a sale leaves. -/
def OpenPosition.reduced (o : OpenPosition) (fill : Fill) (trade : ClosedTrade) : OpenPosition :=
  let fraction := ctx.div fill.quantity o.quantity
  let quantity := ctx.sub o.quantity fill.quantity
  if quantity = 0 then
    { o with
      quantity := quantity
      notional := 0
      fees := 0
      entryFillIds := []
      entryTime := none
      trades := o.trades ++ [trade] }
  else
    { o with
      quantity := quantity
      notional := ctx.sub o.notional (ctx.mul o.notional fraction)
      fees := ctx.sub o.fees (ctx.mul o.fees fraction)
      trades := o.trades ++ [trade] }

/-- One fill of the derivation. -/
def OpenPosition.next (o : OpenPosition) (fill : Fill) : Except Failure OpenPosition :=
  match fill.side with
  | .buy => .ok (o.buy ctx fill)
  | .sell =>
      match o.entryTime with
      | none =>
          FailureKind.value.raiseWith "sell fills cannot exceed the open average-cost position"
      | some entryTime => do
          FailureKind.value.unless (decide (fill.quantity ≤ o.quantity) && decide (0 < o.quantity))
            "sell fills cannot exceed the open average-cost position"
          let trade ← (o.trade ctx entryTime fill).validate ctx
          return o.reduced ctx fill trade

/-- `derive_closed_trades`. -/
def deriveClosedTrades (fills : List Fill) : Except Failure (List ClosedTrade) := do
  let o ← fills.foldlM (OpenPosition.next ctx) .init
  return o.trades

end

/-! ### The fills since the position was last flat -/

/-- The deals that fills are. -/
def fillDeals (fills : List Fill) : List (Deal ℚ) := fills.map Fill.deal

/-- The position that fills lead to. -/
def positionOf (fills : List Fill) : ℚ :=
  bought Deal.quantity (fillDeals fills) - sold Deal.quantity (fillDeals fills)

/-- After the fills `old` the position was flat, and it has not been flat since. -/
structure OpenSince (fills old new : List Fill) : Prop where
  split : fills = old ++ new
  flat : positionOf old = 0
  long : ∀ first, first <+: new → first ≠ [] → positionOf (old ++ first) ≠ 0

/-- **The trade of one sale** after the fills `before`: it sells at the average entry of the
portfolio, fees included, and its entries are the buys since the position was last flat. -/
structure TradeOf (capital : ℚ) (before : List Fill) (fill : Fill) (t : ClosedTrade) : Prop where
  average : ∃ s, portfolioRun .exact capital (before.map .fill) = .ok s ∧
    t.averageEntry + (t.fees - fill.fee) / t.quantity = s.averageEntryPrice
  quantity : t.quantity = fill.quantity
  entries : ∃ old new, OpenSince before old new ∧
    t.entryFillIds = (new.filter fun f => f.side == .buy).map Fill.fillId ∧
    some t.entryTime = new.head?.map Fill.eventTime
  exit : t.exitFillIds = [fill.fillId] ∧ t.exitTime = fill.eventTime

/-- How many of the fills are sales. -/
def countSells (fills : List Fill) : ℕ := fills.countP fun f => f.side == .sell

/-- The ids of the buys among the fills. -/
def buyIds (fills : List Fill) : List String :=
  (fills.filter fun f => f.side == .buy).map Fill.fillId

/-- A fill that its constructor accepts. -/
structure Fill.WellFormed (f : Fill) : Prop where
  valid : f.Valid .exact
  token : isFillToken f.fillId = true

variable {capital : ℚ} {fills before old new : List Fill} {fill : Fill} {o o' : OpenPosition}

theorem fillDeals_concat : fillDeals (before ++ [fill]) = fillDeals before ++ [fill.deal] := by
  simp [fillDeals]

theorem stepDeals_map (fills : List Fill) :
    stepDeals (fills.map .fill) = fillDeals fills := by
  simp [stepDeals, fillDeals, List.filterMap_map]

theorem positionOf_eq (capital : ℚ) (fills : List Fill) :
    positionOf fills = (replay capital (fillDeals fills)).position :=
  (replay_position capital (fillDeals fills)).symm

theorem positionOf_buy (h : fill.side = .buy) :
    positionOf (before ++ [fill]) = positionOf before + fill.quantity := by
  rw [positionOf_eq 0, positionOf_eq 0, fillDeals_concat, replay_concat]
  simp [Accounts.after, Fill.deal, h]

theorem positionOf_sell (h : fill.side = .sell) :
    positionOf (before ++ [fill]) = positionOf before - fill.quantity := by
  rw [positionOf_eq 0, positionOf_eq 0, fillDeals_concat, replay_concat]
  simp [Accounts.after, Fill.deal, h]

/-! ### Since when the position is open -/

/-- A flat position is open since now. -/
theorem OpenSince.of_flat (h : positionOf fills = 0) : OpenSince fills fills [] where
  split := (List.append_nil fills).symm
  flat := h
  long := by
    intro first hfirst hne
    exact absurd (List.prefix_nil.mp hfirst) hne

/-- The position is flat exactly when nothing was filled since. -/
theorem OpenSince.eq_nil_iff (h : OpenSince fills old new) : new = [] ↔ positionOf fills = 0 := by
  constructor
  · rintro rfl
    rw [h.split, List.append_nil]
    exact h.flat
  · intro hflat
    by_contra hne
    exact h.long new List.prefix_rfl hne (h.split ▸ hflat)

/-- One more fill that leaves the position open. -/
theorem OpenSince.concat (h : OpenSince before old new)
    (hopen : positionOf (before ++ [fill]) ≠ 0) :
    OpenSince (before ++ [fill]) old (new ++ [fill]) where
  split := by rw [h.split, List.append_assoc]
  flat := h.flat
  long := by
    intro first hfirst hne
    rcases List.prefix_concat_iff.mp hfirst with rfl | hfirst
    · rw [← List.append_assoc, ← h.split]
      exact hopen
    · exact h.long first hfirst hne

/-- There is one time since which the position is open. -/
theorem OpenSince.unique {old' new' : List Fill} (h : OpenSince fills old new)
    (h' : OpenSince fills old' new') : old = old' ∧ new = new' := by
  have hwlog : ∀ {old new old' new' : List Fill}, OpenSince fills old new →
      OpenSince fills old' new' → old.length ≤ old'.length → old = old' ∧ new = new' := by
    intro old new old' new' h h' hle
    obtain ⟨first, rfl⟩ := List.prefix_of_prefix_length_le (h.split ▸ List.prefix_append old new)
      (h'.split ▸ List.prefix_append old' new') hle
    have hnew : new = first ++ new' := by
      have hsplit := h.split.symm.trans h'.split
      rw [List.append_assoc] at hsplit
      exact List.append_cancel_left hsplit
    have hnil : first = [] := by
      by_contra hne
      exact h.long first (hnew ▸ List.prefix_append first new') hne h'.flat
    subst hnil
    exact ⟨by simp, by simpa using hnew⟩
  rcases le_total old.length old'.length with hle | hle
  · exact hwlog h h' hle
  · obtain ⟨hold, hnew⟩ := hwlog h' h hle
    exact ⟨hold.symm, hnew.symm⟩

/-! ### What the derivation carries -/

/-- **The open position of the derivation** is that of the accounts, split into notional and fees,
with the buys since it was last flat. -/
structure Tracks (capital : ℚ) (before old new : List Fill) (o : OpenPosition) : Prop where
  since : OpenSince before old new
  quantity : o.quantity = positionOf before
  basis : o.notional + o.fees = (replay capital (fillDeals before)).costBasis
  fees_nonneg : 0 ≤ o.fees
  notional_nonneg : 0 ≤ o.notional
  notional_pos : 0 < o.quantity → 0 < o.notional
  entries : o.entryFillIds = buyIds new
  entryTime : o.entryTime = new.head?.map Fill.eventTime
  opens : ∀ first ∈ new.head?, first.side = .buy
  sound : (replay capital (fillDeals before)).Sound
  realized : (o.trades.map ClosedTrade.netPnl).sum = (replay capital (fillDeals before)).realized

theorem tracks_init (capital : ℚ) : Tracks capital [] [] [] .init where
  since := .of_flat (by simp [positionOf, fillDeals, bought, sold])
  quantity := by simp [OpenPosition.init, positionOf, fillDeals, bought, sold]
  basis := by simp [OpenPosition.init, fillDeals, Accounts.start]
  fees_nonneg := le_rfl
  notional_nonneg := le_rfl
  notional_pos := fun h => absurd h (lt_irrefl 0)
  entries := rfl
  entryTime := rfl
  opens := by simp
  sound := Accounts.start_sound capital
  realized := rfl

theorem Tracks.quantity_nonneg (h : Tracks capital before old new o) : 0 ≤ o.quantity := by
  rw [h.quantity, positionOf_eq capital]
  exact h.sound.position_nonneg

theorem buyIds_concat_buy (hside : fill.side = .buy) :
    buyIds (new ++ [fill]) = buyIds new ++ [fill.fillId] := by
  simp [buyIds, hside]

theorem buyIds_concat_sell (hside : fill.side = .sell) : buyIds (new ++ [fill]) = buyIds new := by
  simp [buyIds, hside]

/-- **A buy is tracked.** -/
theorem Tracks.buy (h : Tracks capital before old new o) (hside : fill.side = .buy)
    (hfill : fill.WellFormed) :
    ∃ old' new', Tracks capital (before ++ [fill]) old' new' (o.buy .exact fill) := by
  have hvalid := hfill.valid
  have hopen : positionOf (before ++ [fill]) ≠ 0 := by
    rw [positionOf_buy hside, ← h.quantity]
    exact (add_pos_of_nonneg_of_pos h.quantity_nonneg hvalid.quantity_pos).ne'
  have hnotional : 0 < o.notional + fill.notional :=
    add_pos_of_nonneg_of_pos h.notional_nonneg hvalid.notional_pos
  have haccounts : (replay capital (fillDeals (before ++ [fill]))) =
      (replay capital (fillDeals before)).after fill.deal := by
    rw [fillDeals_concat, replay_concat]
  have hcommon : ∀ {old' new' : List Fill}, OpenSince (before ++ [fill]) old' new' →
      (o.buy .exact fill).entryFillIds = buyIds new' →
      (o.buy .exact fill).entryTime = new'.head?.map Fill.eventTime →
      (∀ first ∈ new'.head?, first.side = .buy) →
      Tracks capital (before ++ [fill]) old' new' (o.buy .exact fill) := by
    intro old' new' hsince hentries htime hopens
    refine
      { since := hsince
        quantity := by simp [OpenPosition.buy, positionOf_buy hside, h.quantity]
        basis := ?_
        fees_nonneg := add_nonneg h.fees_nonneg hvalid.fee_nonneg
        notional_nonneg := hnotional.le
        notional_pos := fun _ => hnotional
        entries := hentries
        entryTime := htime
        opens := hopens
        sound := ?_
        realized := ?_ }
    · rw [haccounts]
      simp only [OpenPosition.buy, Accounts.after, Fill.deal, hside, beq_self_eq_true, if_true,
        DecimalContext.exact_add, ← h.basis]
      ring
    · rw [haccounts]
      exact h.sound.after hvalid.proper (by simp [Fill.deal, hside])
    · rw [haccounts]
      simp [OpenPosition.buy, h.realized, Accounts.after, Fill.deal, hside]
  by_cases hflat : o.quantity = 0
  · have hzero : positionOf before = 0 := h.quantity ▸ hflat
    refine ⟨before, [] ++ [fill], hcommon ((OpenSince.of_flat hzero).concat hopen) ?_ ?_ ?_⟩
    · simp [OpenPosition.buy, hflat, buyIds, hside]
    · simp [OpenPosition.buy, hflat]
    · simp [hside]
  · have hne : new ≠ [] := fun hnil => hflat (h.quantity.trans (h.since.eq_nil_iff.mp hnil))
    refine ⟨old, new ++ [fill], hcommon (h.since.concat hopen) ?_ ?_ ?_⟩
    · simp [OpenPosition.buy, hflat, buyIds_concat_buy hside, h.entries]
    · simp [OpenPosition.buy, hflat, h.entryTime, List.head?_append_of_ne_nil _ hne]
    · rw [List.head?_append_of_ne_nil _ hne]
      exact h.opens

/-- The trade of a sale that is covered. -/
theorem Tracks.trade (h : Tracks capital before old new o) (hside : fill.side = .sell)
    (hfill : fill.WellFormed) (hcovered : fill.quantity ≤ o.quantity) :
    ∃ first rest, new = first :: rest ∧ o.entryTime = some first.eventTime ∧
      o.quantity ≠ 0 := by
  have hlong : o.quantity ≠ 0 := (hfill.valid.quantity_pos.trans_le hcovered).ne'
  have hne : new ≠ [] := fun hnil => hlong (h.quantity.trans (h.since.eq_nil_iff.mp hnil))
  obtain ⟨first, rest, rfl⟩ := List.exists_cons_of_ne_nil hne
  exact ⟨first, rest, rfl, by simpa using h.entryTime, hlong⟩

/-- The checks of the trade of a covered sale come down to its times. -/
theorem trade_validate_iff (h : Tracks capital before old new o) (hfill : fill.WellFormed)
    (hbefore : ∀ f ∈ before, f.WellFormed) (hcovered : fill.quantity ≤ o.quantity)
    {entryTime : Instant} {t : ClosedTrade} (hne : new ≠ []) :
    (o.trade .exact entryTime fill).validate .exact = .ok t ↔
      entryTime ≤ fill.eventTime ∧ t = o.trade .exact entryTime fill := by
  have hquantity := hfill.valid.quantity_pos
  have hlong : 0 < o.quantity := hquantity.trans_le hcovered
  have hfraction : 0 < fill.quantity / o.quantity := div_pos hquantity hlong
  have haverage : 0 < o.notional * (fill.quantity / o.quantity) / fill.quantity :=
    div_pos (mul_pos (h.notional_pos hlong) hfraction) hquantity
  have hfees : 0 ≤ o.fees * (fill.quantity / o.quantity) + fill.fee :=
    add_nonneg (mul_nonneg h.fees_nonneg hfraction.le) hfill.valid.fee_nonneg
  have hids : buyIds new ≠ [] := by
    obtain ⟨first, rest, rfl⟩ := List.exists_cons_of_ne_nil hne
    have hbuy := h.opens first (by simp)
    simp [buyIds, hbuy]
  have htokens : ∀ id ∈ buyIds new ++ [fill.fillId], isFillToken id = true := by
    intro id hid
    rcases List.mem_append.mp hid with hid | hid
    · obtain ⟨f, hf, rfl⟩ := List.mem_map.mp hid
      refine (hbefore f ?_).token
      rw [h.since.split]
      exact List.mem_append_right _ (List.mem_of_mem_filter hf)
    · rw [List.mem_singleton.mp hid]
      exact hfill.token
  simp only [ClosedTrade.validate, OpenPosition.trade, bind_eq_ok, FailureKind.unless_eq_ok,
    exists_const, decide_eq_true_eq, pure, Except.pure, Except.ok.injEq, DecimalContext.exact_mul,
    DecimalContext.exact_div, DecimalContext.exact_add, DecimalContext.exact_sub, h.entries]
  constructor
  · rintro ⟨htime, -, -, -, -, -, -, -, rfl⟩
    exact ⟨htime, rfl⟩
  · rintro ⟨htime, rfl⟩
    refine ⟨htime, hquantity, haverage, hfill.valid.executionPrice_pos, hfees, trivial, ?_, ?_, rfl⟩
    · simp [hids]
    · exact List.all_eq_true.mpr htokens

/-- When a covered sale is derived. -/
theorem Tracks.next_sell (h : Tracks capital before old new o) (hside : fill.side = .sell)
    (hfill : fill.WellFormed) (hbefore : ∀ f ∈ before, f.WellFormed)
    (hcovered : fill.quantity ≤ o.quantity) :
    ∃ first rest, new = first :: rest ∧ ∀ o', o.next .exact fill = .ok o' ↔
      first.eventTime ≤ fill.eventTime ∧
        o' = o.reduced .exact fill (o.trade .exact first.eventTime fill) := by
  obtain ⟨first, rest, hnew, htime, hlong⟩ := h.trade hside hfill hcovered
  have hpos : 0 < o.quantity := hfill.valid.quantity_pos.trans_le hcovered
  refine ⟨first, rest, hnew, fun o' => ?_⟩
  have hne : new ≠ [] := by simp [hnew]
  simp only [OpenPosition.next, hside, htime, bind_eq_ok, FailureKind.unless_eq_ok, exists_const,
    trade_validate_iff h hfill hbefore hcovered hne, pure, Except.pure, Except.ok.injEq,
    Bool.and_eq_true, decide_eq_true_eq]
  constructor
  · rintro ⟨-, t, ⟨hle, rfl⟩, rfl⟩
    exact ⟨hle, rfl⟩
  · rintro ⟨hle, rfl⟩
    exact ⟨⟨hcovered, hpos⟩, _, ⟨hle, rfl⟩, rfl⟩

theorem reduced_flat {t : ClosedTrade} (hflat : o.quantity - fill.quantity = 0) :
    o.reduced .exact fill t =
      { o with
        quantity := o.quantity - fill.quantity
        notional := 0
        fees := 0
        entryFillIds := []
        entryTime := none
        trades := o.trades ++ [t] } :=
  if_pos hflat

theorem reduced_long {t : ClosedTrade} (hlong : o.quantity - fill.quantity ≠ 0) :
    o.reduced .exact fill t =
      { o with
        quantity := o.quantity - fill.quantity
        notional := o.notional - o.notional * (fill.quantity / o.quantity)
        fees := o.fees - o.fees * (fill.quantity / o.quantity)
        trades := o.trades ++ [t] } :=
  if_neg hlong

/-- **A sale is tracked.** -/
theorem Tracks.sell (h : Tracks capital before old new o) (hside : fill.side = .sell)
    (hfill : fill.WellFormed) (hcovered : fill.quantity ≤ o.quantity) (entryTime : Instant) :
    ∃ old' new', Tracks capital (before ++ [fill]) old' new'
      (o.reduced .exact fill (o.trade .exact entryTime fill)) := by
  have hquantity := hfill.valid.quantity_pos
  have hlong : 0 < o.quantity := hquantity.trans_le hcovered
  have hposition : (replay capital (fillDeals before)).position = o.quantity := by
    rw [h.quantity, positionOf_eq capital]
  have hafter : replay capital (fillDeals (before ++ [fill])) =
      (replay capital (fillDeals before)).after fill.deal := by
    rw [fillDeals_concat, replay_concat]
  have hsound : (replay capital (fillDeals (before ++ [fill]))).Sound := by
    rw [hafter]
    exact h.sound.after hfill.valid.proper fun _ => hposition ▸ hcovered
  have hreleases : (replay capital (fillDeals before)).releases fill.quantity =
      (o.notional + o.fees) * (fill.quantity / o.quantity) := by
    rw [Accounts.releases, hposition, ← h.basis]
    by_cases hall : fill.quantity = o.quantity
    · rw [if_pos hall, hall, div_self hlong.ne', mul_one]
    · rw [if_neg hall, mul_div_assoc]
  have hrealized : (o.trades.map ClosedTrade.netPnl).sum +
      (o.trade .exact entryTime fill).netPnl =
        (replay capital (fillDeals (before ++ [fill]))).realized := by
    rw [hafter, h.realized]
    simp only [Accounts.after, Fill.deal, hside, hreleases, OpenPosition.trade,
      DecimalContext.exact_sub, DecimalContext.exact_mul, DecimalContext.exact_div,
      DecimalContext.exact_add, show (OrderSide.sell == OrderSide.buy) = false from rfl,
      Bool.false_eq_true, if_false]
    ring
  by_cases hflat : o.quantity - fill.quantity = 0
  · have hzero : positionOf (before ++ [fill]) = 0 := by
      rw [positionOf_sell hside, ← h.quantity, hflat]
    refine ⟨before ++ [fill], [], ?_⟩
    rw [reduced_flat hflat]
    refine
      { since := .of_flat hzero
        quantity := by rw [hflat, hzero]
        basis := ?_
        fees_nonneg := le_rfl
        notional_nonneg := le_rfl
        notional_pos := fun hpos => absurd hflat hpos.ne'
        entries := rfl
        entryTime := rfl
        opens := by simp
        sound := hsound
        realized := by simpa using hrealized }
    rw [add_zero, hsound.flat]
    rw [← positionOf_eq, hzero]
  · have hopen : positionOf (before ++ [fill]) ≠ 0 := by
      rw [positionOf_sell hside, ← h.quantity]
      exact hflat
    have hne : new ≠ [] := fun hnil => hlong.ne' (h.quantity.trans (h.since.eq_nil_iff.mp hnil))
    have hrest : 0 < 1 - fill.quantity / o.quantity := by
      rw [sub_pos, div_lt_one hlong]
      exact lt_of_le_of_ne hcovered fun heq => hflat (by rw [heq, sub_self])
    have hnotional : 0 < o.notional * (1 - fill.quantity / o.quantity) :=
      mul_pos (h.notional_pos hlong) hrest
    have hfees : 0 ≤ o.fees * (1 - fill.quantity / o.quantity) :=
      mul_nonneg h.fees_nonneg hrest.le
    rw [mul_sub, mul_one] at hnotional hfees
    refine ⟨old, new ++ [fill], ?_⟩
    rw [reduced_long hflat]
    refine
      { since := h.since.concat hopen
        quantity := by rw [positionOf_sell hside, h.quantity]
        basis := ?_
        fees_nonneg := hfees
        notional_nonneg := hnotional.le
        notional_pos := fun _ => hnotional
        entries := by rw [buyIds_concat_sell hside, h.entries]
        entryTime := by rw [h.entryTime, List.head?_append_of_ne_nil _ hne]
        opens := ?_
        sound := hsound
        realized := by simpa using hrealized }
    · rw [hafter]
      simp only [Accounts.after, Fill.deal, hside, hreleases, hposition, if_neg hflat, ← h.basis,
        DecimalContext.exact_mul, DecimalContext.exact_div,
        show (OrderSide.sell == OrderSide.buy) = false from rfl, Bool.false_eq_true, if_false]
      ring
    · rw [List.head?_append_of_ne_nil _ hne]
      exact h.opens

/-- **The trade of a sale sells at the average entry of the portfolio.** -/
theorem Tracks.tradeOf (h : Tracks capital before old new o) (hfill : fill.WellFormed)
    (hcovered : fill.quantity ≤ o.quantity) {s : PortfolioState}
    (hs : portfolioRun .exact capital (before.map .fill) = .ok s) {first : Fill}
    {rest : List Fill} (hnew : new = first :: rest) :
    TradeOf capital before fill (o.trade .exact first.eventTime fill) where
  average := by
    refine ⟨s, hs, ?_⟩
    have hquantity := hfill.valid.quantity_pos
    have hlong : 0 < o.quantity := hquantity.trans_le hcovered
    have hbooked := portfolioRun_booked hs
    have hcost : s.costBasis = o.notional + o.fees := by
      rw [h.basis, ← stepDeals_map]
      exact congrArg Accounts.costBasis hbooked.accounts
    have hposition : s.baseQuantity = o.quantity := by
      rw [h.quantity, positionOf_eq capital, ← stepDeals_map]
      exact congrArg Accounts.position hbooked.accounts
    rw [hbooked.shown.average, hcost, hposition]
    simp only [OpenPosition.trade, DecimalContext.exact_mul, DecimalContext.exact_div,
      DecimalContext.exact_add]
    field_simp
    ring
  quantity := rfl
  entries := ⟨old, new, h.since, h.entries, by simp [OpenPosition.trade, hnew]⟩
  exit := ⟨rfl, rfl⟩

/-! ### The whole derivation -/

/-- No sale comes, in time, before the fill that opened its position. -/
def SellsFollowEntries (fills : List Fill) : Prop :=
  AlongPrefixes (fun before fill => fill.side = .sell → ∀ old first rest,
    OpenSince before old (first :: rest) → first.eventTime ≤ fill.eventTime) fills

/-- Every sale has its trade, at its own place. -/
def SellsTraded (capital : ℚ) (fills : List Fill) (trades : List ClosedTrade) : Prop :=
  AlongPrefixes (fun before fill => fill.side = .sell →
    ∃ t, trades[countSells before]? = some t ∧ TradeOf capital before fill t) fills

theorem countSells_concat (fills : List Fill) (fill : Fill) :
    countSells (fills ++ [fill]) = countSells fills + if fill.side = .sell then 1 else 0 := by
  cases hside : fill.side <;> simp [countSells, hside]

/-- A run over one more fill. -/
theorem portfolioRun_fill {s : PortfolioState}
    (h : portfolioRun .exact capital ((before ++ [fill]).map .fill) = .ok s) :
    ∃ t mutation, portfolioRun .exact capital (before.map .fill) = .ok t ∧
      applyFill .exact t fill = .ok mutation ∧ s = mutation.after := by
  rw [List.map_append, List.map_singleton] at h
  obtain ⟨t, ht, hstep⟩ := portfolioRun_concat.mp h
  simp only [portfolioStep, bind_eq_ok, pure, Except.pure, Except.ok.injEq] at hstep
  obtain ⟨mutation, hmutation, rfl⟩ := hstep
  exact ⟨t, mutation, ht, hmutation, rfl⟩

/-- A sale that the portfolio accepts is covered by the open position. -/
theorem Tracks.covered (h : Tracks capital before old new o) (hside : fill.side = .sell)
    {s : PortfolioState} {mutation : PortfolioMutation}
    (hs : portfolioRun .exact capital (before.map .fill) = .ok s)
    (hfill : applyFill .exact s fill = .ok mutation) : fill.quantity ≤ o.quantity := by
  have hposition : s.baseQuantity = o.quantity := by
    rw [h.quantity, positionOf_eq capital, ← stepDeals_map]
    exact congrArg Accounts.position (portfolioRun_booked hs).accounts
  exact hposition ▸ applyFill_covered hfill hside

/-- **What a derivation that returns has derived.** -/
structure Derived (capital : ℚ) (fills : List Fill) (o : OpenPosition) : Prop where
  tracks : ∃ old new, Tracks capital fills old new o
  count : o.trades.length = countSells fills
  traded : SellsTraded capital fills o.trades
  follow : SellsFollowEntries fills

/-- **One more fill is derived** exactly when it does not sell before its entry. -/
theorem Derived.concat (h : Derived capital before o) (hbefore : ∀ f ∈ before, f.WellFormed)
    (hfill : fill.WellFormed) {s : PortfolioState}
    (hrun : portfolioRun .exact capital ((before ++ [fill]).map .fill) = .ok s) :
    (∀ o', o.next .exact fill = .ok o' → Derived capital (before ++ [fill]) o') ∧
      (SellsFollowEntries (before ++ [fill]) → ∃ o', o.next .exact fill = .ok o') := by
  obtain ⟨old, new, htracks⟩ := h.tracks
  obtain ⟨t, mutation, ht, hmutation, -⟩ := portfolioRun_fill hrun
  cases hside : fill.side with
  | buy =>
    have hbuy : fill.side ≠ .sell := by simp [hside]
    have hnext : o.next .exact fill = .ok (o.buy .exact fill) := by
      simp [OpenPosition.next, hside]
    refine ⟨fun o' ho' => ?_, fun _ => ⟨_, hnext⟩⟩
    obtain rfl : o.buy .exact fill = o' := Except.ok.inj (hnext.symm.trans ho')
    refine ⟨htracks.buy hside hfill, ?_, ?_, ?_⟩
    · rw [countSells_concat, if_neg hbuy]
      exact h.count
    · exact alongPrefixes_concat.mpr ⟨h.traded, fun hsell => absurd hsell hbuy⟩
    · exact alongPrefixes_concat.mpr ⟨h.follow, fun hsell => absurd hsell hbuy⟩
  | sell =>
    have hcovered := htracks.covered hside ht hmutation
    obtain ⟨first, rest, hnew, hnext⟩ := htracks.next_sell hside hfill hbefore hcovered
    constructor
    · intro o' ho'
      obtain ⟨htime, rfl⟩ := (hnext o').mp ho'
      obtain ⟨old', new', htracks'⟩ :=
        htracks.sell hside hfill hcovered first.eventTime
      have htrades : (o.reduced .exact fill (o.trade .exact first.eventTime fill)).trades =
          o.trades ++ [o.trade .exact first.eventTime fill] := by
        unfold OpenPosition.reduced
        simp only
        split <;> rfl
      refine ⟨⟨old', new', htracks'⟩, ?_, ?_, ?_⟩
      · rw [htrades, countSells_concat, if_pos hside, List.length_append, h.count]
        rfl
      · refine alongPrefixes_concat.mpr ⟨h.traded.imp fun before' fill' htrade hsell => ?_, ?_⟩
        · obtain ⟨trade, hget, htradeOf⟩ := htrade hsell
          obtain ⟨hlt, -⟩ := List.getElem?_eq_some_iff.mp hget
          rw [htrades]
          exact ⟨trade, (List.getElem?_append_left hlt).trans hget, htradeOf⟩
        · intro _
          rw [htrades]
          refine ⟨o.trade .exact first.eventTime fill, ?_, htracks.tradeOf hfill hcovered ht hnew⟩
          rw [← h.count]
          simp
      · refine alongPrefixes_concat.mpr ⟨h.follow, fun _ old'' first'' rest'' hsince => ?_⟩
        have hsame := (htracks.since.unique hsince).2
        rw [hnew] at hsame
        obtain ⟨rfl, -⟩ := List.cons.inj hsame
        exact htime
    · intro hfollow
      have htime := (alongPrefixes_concat.mp hfollow).2 hside old first rest (hnew ▸ htracks.since)
      exact ⟨_, (hnext _).mpr ⟨htime, rfl⟩⟩

/-- **The derivation returns exactly when no sale comes before its entry.** -/
theorem derived_of_run : ∀ {fills : List Fill} {s : PortfolioState},
    portfolioRun .exact capital (fills.map .fill) = .ok s → (∀ f ∈ fills, f.WellFormed) →
    (∀ o, fills.foldlM (OpenPosition.next .exact) .init = .ok o → Derived capital fills o) ∧
      (SellsFollowEntries fills → ∃ o, fills.foldlM (OpenPosition.next .exact) .init = .ok o) := by
  intro fills
  induction fills using List.reverseRecOn with
  | nil =>
    intro s _ _
    refine ⟨fun o ho => ?_, fun _ => ⟨.init, rfl⟩⟩
    cases ho
    exact ⟨⟨[], [], tracks_init capital⟩, rfl, alongPrefixes_nil, alongPrefixes_nil⟩
  | append_singleton fills fill ih =>
    intro s hrun hfills
    have hbefore : ∀ f ∈ fills, f.WellFormed := fun f hf => hfills f (List.mem_append_left _ hf)
    have hlast : fill.WellFormed := hfills fill (by simp)
    obtain ⟨t, mutation, ht, -, -⟩ := portfolioRun_fill hrun
    obtain ⟨hderived, hreturns⟩ := ih ht hbefore
    constructor
    · intro o' ho'
      obtain ⟨o, ho, hnext⟩ := foldlM_concat_eq_ok.mp ho'
      exact ((hderived o ho).concat hbefore hlast hrun).1 o' hnext
    · intro hfollow
      obtain ⟨o, ho⟩ := hreturns (alongPrefixes_concat.mp hfollow).1
      obtain ⟨o', hnext⟩ := ((hderived o ho).concat hbefore hlast hrun).2 hfollow
      exact ⟨o', foldlM_concat_eq_ok.mpr ⟨o, ho, hnext⟩⟩

/-- **Closed trades agree with the portfolio.**  For every sequence of fills that a portfolio
accepts one by one, the derivation of closed trades returns exactly when no sale comes, in time,
before the fill that opened its position; and what it returns has one trade for every sale, at its
place, whose entry with its fees is the portfolio's average entry before the sale and whose entries
are the buys since the position was last flat, and the trades earn what the portfolio realized. -/
theorem deriveClosedTrades_iff {s : PortfolioState}
    (hrun : portfolioRun .exact capital (fills.map .fill) = .ok s)
    (hfills : ∀ f ∈ fills, f.WellFormed) :
    ((∃ trades, deriveClosedTrades .exact fills = .ok trades) ↔ SellsFollowEntries fills) ∧
      ∀ trades, deriveClosedTrades .exact fills = .ok trades →
        trades.length = countSells fills ∧
          (trades.map ClosedTrade.netPnl).sum = s.realizedPnl ∧ SellsTraded capital fills trades := by
  obtain ⟨hderived, hreturns⟩ := derived_of_run hrun hfills
  simp only [deriveClosedTrades, bind_eq_ok, pure, Except.pure, Except.ok.injEq]
  refine ⟨⟨?_, ?_⟩, ?_⟩
  · rintro ⟨trades, o, ho, -⟩
    exact (hderived o ho).follow
  · intro hfollow
    obtain ⟨o, ho⟩ := hreturns hfollow
    exact ⟨o.trades, o, ho, rfl⟩
  · rintro trades ⟨o, ho, rfl⟩
    have hall := hderived o ho
    obtain ⟨old, new, htracks⟩ := hall.tracks
    refine ⟨hall.count, ?_, hall.traded⟩
    rw [htracks.realized, ← stepDeals_map]
    exact (congrArg Accounts.realized (portfolioRun_booked hrun).accounts).symm

theorem sampleFill_wellFormed {fillId : String} {side : OrderSide} {quantity price fee : ℚ}
    {eventTime : Instant} (hquantity : 0 < quantity) (hprice : 0 < price) (hfee : 0 ≤ fee)
    (hid : isFillToken fillId = true) :
    (sampleFill fillId side quantity price fee eventTime).WellFormed :=
  ⟨⟨hquantity, hprice, hprice, mul_pos hquantity hprice, hfee, le_rfl, rfl⟩, hid⟩

/-- One unit bought at 100 and half of it sold at 120. -/
def halfSoldFills : List Fill :=
  [sampleFill "F1" .buy 1 100 1 0, sampleFill "F2" .sell (1 / 2) 120 1 1]

theorem deriveClosedTrades_iff_half : ∃ s,
    portfolioRun .exact 1000 (halfSoldFills.map .fill) = .ok s ∧
      ∀ trades, deriveClosedTrades .exact halfSoldFills = .ok trades →
        trades.length = 1 ∧ (trades.map ClosedTrade.netPnl).sum = s.realizedPnl := by
  have hrun : (portfolioRun .exact 1000 (halfSoldFills.map .fill)).isOk = true := by decide +kernel
  have hfills : ∀ f ∈ halfSoldFills, f.WellFormed := by
    intro f hf
    simp only [halfSoldFills, List.mem_cons, List.not_mem_nil, or_false] at hf
    rcases hf with rfl | rfl
    · exact sampleFill_wellFormed (by norm_num) (by norm_num) (by norm_num) (by decide)
    · exact sampleFill_wellFormed (by norm_num) (by norm_num) (by norm_num) (by decide)
  obtain ⟨s, hs⟩ := isOk_iff.mp hrun
  refine ⟨s, hs, fun trades htrades => ?_⟩
  obtain ⟨hlength, hsum, -⟩ := (deriveClosedTrades_iff hs hfills).2 trades htrades
  exact ⟨hlength, hsum⟩

/-- A portfolio accepts a sale that is earlier than its entry; the derivation does not. -/
theorem deriveClosedTrades_refuses_early : ∃ s,
    portfolioRun .exact 1000 [.fill (sampleFill "F1" .buy 1 100 1 1),
      .fill (sampleFill "F2" .sell 1 120 1 0)] = .ok s ∧
    deriveClosedTrades .exact [sampleFill "F1" .buy 1 100 1 1, sampleFill "F2" .sell 1 120 1 0] =
      .error ⟨.value, "trade exit_time must not precede entry_time"⟩ := by
  have hrun : (portfolioRun .exact 1000 [.fill (sampleFill "F1" .buy 1 100 1 1),
      .fill (sampleFill "F2" .sell 1 120 1 0)]).isOk = true := by decide +kernel
  obtain ⟨s, hs⟩ := isOk_iff.mp hrun
  exact ⟨s, hs, by decide +kernel⟩

end Backtesting
end DryTrade
