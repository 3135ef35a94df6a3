import DryTrade.Backtesting.FillOrder

/-!
# The accounting identity of a portfolio

A portfolio changes by applying fills and by marks alone.  Whatever sequence of them
it accepts, its accounts are those of the deals that its fills are, its equity is the
capital with what was and what would be realized, and its peak is the highest of the
capital and of the equities it was marked at.

## Main definitions

* `PortfolioStep`, `portfolioStep` — one fill or one mark.
* `portfolioRun` — the portfolio after a sequence of them.
* `markedEquities` — the equities a portfolio was marked at along a run.

## Main results

* `portfolioRun_booked` — the invariant of a run.
* `portfolioRun_identity` — the accounting identity.
-/

namespace DryTrade
namespace Backtesting

/-- One way in which a portfolio changes. -/
inductive PortfolioStep
  | fill (fill : Fill)
  | mark (price : ℚ)

/-- The deals that the fills among the steps are. -/
def stepDeals (steps : List PortfolioStep) : List (Deal ℚ) :=
  steps.filterMap fun
    | .fill fill => some fill.deal
    | .mark _ => none

section

variable (ctx : DecimalContext)

/-- Apply one fill, or mark at one price. -/
def portfolioStep (s : PortfolioState) : PortfolioStep → Except Failure PortfolioState
  | .fill fill => do
      let mutation ← applyFill ctx s fill
      return mutation.after
  | .mark price => markToMarket ctx s price

/-- The portfolio of a capital after a sequence of steps. -/
def portfolioRun (capital : ℚ) (steps : List PortfolioStep) : Except Failure PortfolioState := do
  let s ← initializePortfolio ctx capital
  steps.foldlM (portfolioStep ctx) s

/-- The equities the portfolio was marked at, along a run. -/
def markedEquities (capital : ℚ) (steps : List PortfolioStep) : Set ℚ :=
  {x | ∃ done s, done <+: steps ∧ done ≠ [] ∧ portfolioRun ctx capital done = .ok s ∧ x = s.equity}

end

variable {capital : ℚ} {s t : PortfolioState} {steps : List PortfolioStep} {step : PortfolioStep}

theorem stepDeals_concat_fill (steps : List PortfolioStep) (fill : Fill) :
    stepDeals (steps ++ [.fill fill]) = stepDeals steps ++ [fill.deal] := by
  simp [stepDeals, List.filterMap_append]

theorem stepDeals_concat_mark (steps : List PortfolioStep) (price : ℚ) :
    stepDeals (steps ++ [.mark price]) = stepDeals steps := by
  simp [stepDeals, List.filterMap_append]

/-- A run is a shorter run and one more step. -/
theorem portfolioRun_concat {ctx : DecimalContext} :
    portfolioRun ctx capital (steps ++ [step]) = .ok t ↔
      ∃ s, portfolioRun ctx capital steps = .ok s ∧ portfolioStep ctx s step = .ok t := by
  simp only [portfolioRun, bind_eq_ok, foldlM_concat_eq_ok]
  constructor
  · rintro ⟨s₀, hs₀, s, hs, ht⟩
    exact ⟨s, ⟨s₀, hs₀, hs⟩, ht⟩
  · rintro ⟨s, ⟨s₀, hs₀, hs⟩, ht⟩
    exact ⟨s₀, hs₀, s, hs, ht⟩

/-! ### One step -/

/-- The portfolio shows its position at a price, and its average entry is that of its cost. -/
structure PortfolioState.Shown (s : PortfolioState) : Prop where
  valid : s.Valid .exact
  average : s.averageEntryPrice = s.costBasis / s.baseQuantity
  equity : s.equity = s.quoteCash + s.unrealizedPnl + s.costBasis

/-- **What one step does**: it is a deal or none, and it marks. -/
structure Stepped (s t : PortfolioState) (step : PortfolioStep) : Prop where
  accounts : t.snapshot.accounts = (stepDeals [step]).foldl Accounts.after s.snapshot.accounts
  initialEquity : t.initialEquity = s.initialEquity
  peak : t.peakEquity = max s.peakEquity t.equity
  shown : t.Shown

/-- A mark counts the position at its cost and at what it would realize. -/
theorem markedState_equity (s : PortfolioState) (price : ℚ) :
    (markedState .exact s price).equity = (markedState .exact s price).quoteCash +
      (markedState .exact s price).unrealizedPnl + (markedState .exact s price).costBasis := by
  simp only [markedState, DecimalContext.exact_add, DecimalContext.exact_mul,
    DecimalContext.exact_sub]
  ring

theorem portfolioStep_stepped (hs : s.averageEntryPrice = s.costBasis / s.baseQuantity)
    (h : portfolioStep .exact s step = .ok t) : Stepped s t step := by
  cases step with
  | fill fill =>
    simp only [portfolioStep, bind_eq_ok, pure, Except.pure, Except.ok.injEq] at h
    obtain ⟨mutation, hmutation, rfl⟩ := h
    obtain ⟨haccounts, haverage⟩ := applyFill_accounts hmutation
    obtain ⟨-, hvalid, hafter⟩ := applyFill_eq_ok hmutation
    refine ⟨haccounts, ?_, ?_, hvalid, haverage, ?_⟩
    · rw [hafter]
      cases hside : fill.side <;> simp [markedState, filledState, hside, boughtState, soldState]
    · rw [hafter]
      cases hside : fill.side <;> simp [markedState, filledState, hside, boughtState, soldState]
    · rw [hafter]
      exact markedState_equity _ _
  | mark price =>
    obtain ⟨-, hvalid, rfl⟩ := markToMarket_eq_ok.mp h
    exact ⟨rfl, rfl, rfl, hvalid, hs, markedState_equity _ _⟩

/-! ### A whole run -/

/-- **The invariant of a run**: the portfolio is that of the deals among its steps. -/
structure PortfolioState.Booked (s : PortfolioState) (capital : ℚ) (steps : List PortfolioStep) :
    Prop where
  accounts : s.snapshot.accounts = replay capital (stepDeals steps)
  initialEquity : s.initialEquity = capital
  peak : IsGreatest (insert capital (markedEquities .exact capital steps)) s.peakEquity
  shown : s.Shown

theorem initializePortfolio_booked (h : initializePortfolio .exact capital = .ok s) :
    s.Booked capital [] := by
  simp only [initializePortfolio, bind_eq_ok, FailureKind.unless_eq_ok, exists_const,
    PortfolioState.validate_eq_ok] at h
  obtain ⟨-, hvalid, rfl⟩ := h
  refine ⟨rfl, rfl, ?_, hvalid, by simp, by simp⟩
  have hnone : markedEquities .exact capital [] = ∅ := by
    refine Set.eq_empty_of_forall_notMem ?_
    rintro x ⟨done, s, hpre, hne, -⟩
    exact hne (List.prefix_nil.mp hpre)
  rw [hnone, insert_empty_eq]
  exact isGreatest_singleton

/-- The equities of a run and of one more step. -/
theorem markedEquities_concat (h : portfolioRun .exact capital (steps ++ [step]) = .ok t) :
    markedEquities .exact capital (steps ++ [step]) =
      insert t.equity (markedEquities .exact capital steps) := by
  ext x
  constructor
  · rintro ⟨done, s, hpre, hne, hs, rfl⟩
    rcases List.prefix_concat_iff.mp hpre with rfl | hpre
    · exact .inl (congrArg PortfolioState.equity (Except.ok.inj (hs.symm.trans h)))
    · exact .inr ⟨done, s, hpre, hne, hs, rfl⟩
  · rintro (rfl | ⟨done, s, hpre, hne, hs, rfl⟩)
    · exact ⟨steps ++ [step], t, List.prefix_rfl, by simp, h, rfl⟩
    · exact ⟨done, s, hpre.trans (List.prefix_append _ _), hne, hs, rfl⟩

/-- **A run keeps its invariant.** -/
theorem portfolioRun_booked (h : portfolioRun .exact capital steps = .ok s) :
    s.Booked capital steps := by
  induction steps using List.reverseRecOn generalizing s with
  | nil =>
    simp only [portfolioRun, bind_eq_ok] at h
    obtain ⟨s₀, hs₀, hnone⟩ := h
    cases hnone
    exact initializePortfolio_booked hs₀
  | append_singleton steps step ih =>
    obtain ⟨t, ht, hstep⟩ := portfolioRun_concat.mp h
    have hbooked := ih ht
    have hstepped := portfolioStep_stepped hbooked.shown.average hstep
    refine ⟨?_, hstepped.initialEquity.trans hbooked.initialEquity, ?_, hstepped.shown⟩
    · rw [hstepped.accounts, hbooked.accounts]
      cases step with
      | fill fill =>
        rw [stepDeals_concat_fill, replay_concat]
        rfl
      | mark price =>
        rw [stepDeals_concat_mark]
        rfl
    · rw [hstepped.peak, markedEquities_concat h, Set.insert_comm]
      rw [max_comm]
      exact hbooked.peak.insert s.equity

/-- **A sale of a part of the position leaves its average entry.** -/
theorem partialSale_average (hs : s.Shown) {fill : Fill} {mutation : PortfolioMutation}
    (h : applyFill .exact s fill = .ok mutation) (hside : fill.side = .sell)
    (hpart : fill.quantity ≠ s.baseQuantity) :
    mutation.after.averageEntryPrice = s.averageEntryPrice := by
  obtain ⟨hvalid, -, hafter⟩ := applyFill_eq_ok h
  have hrest : s.baseQuantity - fill.quantity ≠ 0 := sub_ne_zero.mpr (Ne.symm hpart)
  have haverage : mutation.after.averageEntryPrice =
      (s.costBasis - s.costBasis * fill.quantity / s.baseQuantity) /
        (s.baseQuantity - fill.quantity) := by
    rw [hafter]
    simp [markedState, filledState, hside, soldState, hrest, releasedCost, hpart]
  rw [haverage, hs.average]
  by_cases hflat : s.baseQuantity = 0
  · simp [hflat, (hs.valid.flat hflat).1]
  · field_simp

/-- A fill at the market, without slippage. -/
def sampleFill (fillId : String) (side : OrderSide) (quantity price fee : ℚ) (eventTime : Instant) :
    Fill where
  fillId := fillId
  orderId := fillId
  reason := .marketOpen
  liquidity := .taker
  side := side
  quantity := quantity
  basePrice := price
  executionPrice := price
  notional := quantity * price
  fee := fee
  slippageCost := 0
  eventTime := eventTime
  candleIndex := 0

/-- One unit bought at 100, half of it sold at 120, and the rest marked at 110. -/
def halfSold : List PortfolioStep :=
  [.fill (sampleFill "F1" .buy 1 100 1 0), .fill (sampleFill "F2" .sell (1 / 2) 120 1 1), .mark 110]

/-- **The accounting identity.**  After any sequence of fills and marks that a portfolio accepted,
its equity is the capital with what was and what would be realized; its cash, its position and its
fees are the sums over its fills; its cost basis is its position at its average entry, and both are
zero exactly when it is flat; a sale of a part of the position leaves the average entry; and its
peak is the highest of the capital and of the equities it was marked at. -/
theorem portfolioRun_identity (h : portfolioRun .exact capital steps = .ok s) :
    s.equity = s.initialEquity + s.realizedPnl + s.unrealizedPnl ∧ s.initialEquity = capital ∧
      s.quoteCash = s.initialEquity - bought (fun d => d.notional + d.fee) (stepDeals steps) +
        sold (fun d => d.notional - d.fee) (stepDeals steps) ∧
      s.baseQuantity =
        bought Deal.quantity (stepDeals steps) - sold Deal.quantity (stepDeals steps) ∧
      s.totalFees = ((stepDeals steps).map Deal.fee).sum ∧
      s.costBasis = s.averageEntryPrice * s.baseQuantity ∧
      (s.costBasis = 0 ↔ s.baseQuantity = 0) ∧ (s.averageEntryPrice = 0 ↔ s.baseQuantity = 0) ∧
      (∀ fill mutation, applyFill .exact s fill = .ok mutation → fill.side = .sell →
        fill.quantity ≠ s.baseQuantity →
          mutation.after.averageEntryPrice = s.averageEntryPrice) ∧
      IsGreatest (insert s.initialEquity (markedEquities .exact capital steps)) s.peakEquity := by
  have hs := portfolioRun_booked h
  have hcash : s.quoteCash = (replay capital (stepDeals steps)).cash :=
    congrArg Accounts.cash hs.accounts
  have hposition : s.baseQuantity = (replay capital (stepDeals steps)).position :=
    congrArg Accounts.position hs.accounts
  have hcost : s.costBasis = (replay capital (stepDeals steps)).costBasis :=
    congrArg Accounts.costBasis hs.accounts
  have hrealized : s.realizedPnl = (replay capital (stepDeals steps)).realized :=
    congrArg Accounts.realized hs.accounts
  have hfees : s.totalFees = (replay capital (stepDeals steps)).fees :=
    congrArg Accounts.fees hs.accounts
  have hflatCost : s.costBasis = 0 ↔ s.baseQuantity = 0 := by
    refine ⟨fun hzero => ?_, fun hflat => (hs.shown.valid.flat hflat).1⟩
    by_contra hlong
    exact (hs.shown.valid.long hlong).1.ne' hzero
  have hflatAverage : s.averageEntryPrice = 0 ↔ s.baseQuantity = 0 := by
    refine ⟨fun hzero => ?_, fun hflat => (hs.shown.valid.flat hflat).2⟩
    by_contra hlong
    exact (hs.shown.valid.long hlong).2.ne' hzero
  rw [hs.initialEquity]
  refine ⟨?_, rfl, ?_, ?_, ?_, ?_, hflatCost, hflatAverage, ?_, hs.peak⟩
  · have hvalue := replay_value capital (stepDeals steps)
    rw [← hcash, ← hcost, ← hrealized] at hvalue
    rw [hs.shown.equity]
    linear_combination hvalue
  · rw [hcash, replay_cash]
  · rw [hposition, replay_position]
  · rw [hfees, replay_fees]
  · rw [hs.shown.average]
    by_cases hflat : s.baseQuantity = 0
    · rw [hflat, mul_zero, hflatCost.mpr hflat]
    · rw [div_mul_cancel₀ _ hflat]
  · intro fill mutation hfill hside hpart
    exact partialSale_average hs.shown hfill hside hpart

/-- Half of a bought unit is sold and the rest is marked. -/
theorem portfolioRun_identity_half : ∃ s,
    portfolioRun .exact 1000 halfSold = .ok s ∧
      s.equity = s.initialEquity + s.realizedPnl + s.unrealizedPnl := by
  have hrun : (portfolioRun .exact 1000 halfSold).isOk = true := by decide +kernel
  obtain ⟨s, hs⟩ := isOk_iff.mp hrun
  exact ⟨s, hs, (portfolioRun_identity hs).1⟩

end Backtesting
end DryTrade
