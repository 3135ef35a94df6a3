import DryTrade.Backtesting.Engine

/-!
# Sized orders and the cash check

The sizer and the risk manager estimate the price, the fee and the reserve of an order
each on its own.  Both use the same price and the same fee rate, and the reserve of the
sizer is never below that of the risk manager, so a sized buy always leaves the cash
that the risk manager asks for.

## Main definitions

* `SizedBuy` — what the sizer promises of a buy.

## Main results

* `size_buy` — the sizer keeps its promise.
* `SizedBuy.evaluateOrder` — a promised buy is never refused for cash.
-/

namespace DryTrade
namespace Backtesting

/-! ### Truncation -/

/-- Under exact arithmetic a quantity is cut to the steps that it contains. -/
theorem truncateQuantity_exact {quantity step : ℚ} (hq : 0 ≤ quantity) (hstep : 0 < step) :
    truncateQuantity .exact quantity step = .ok (⌊quantity / step⌋₊ * step) := by
  have hdiv : 0 ≤ quantity / step := div_nonneg hq hstep.le
  simp only [truncateQuantity, bind_eq_ok, FailureKind.unless_eq_ok, exists_const,
    decide_eq_true_eq, DecimalContext.exact_mul, DecimalContext.exact_div, pure, Except.pure,
    toIntegralDown_of_nonneg hdiv, Except.ok.injEq]
  refine ⟨⟨hq, hstep⟩, ?_⟩
  rw [← natCast_floor_eq_intCast_floor hdiv]

theorem floor_steps_le {quantity step : ℚ} (hq : 0 ≤ quantity) (hstep : 0 < step) :
    (⌊quantity / step⌋₊ : ℚ) * step ≤ quantity :=
  calc (⌊quantity / step⌋₊ : ℚ) * step ≤ quantity / step * step :=
        mul_le_mul_of_nonneg_right (Nat.floor_le (div_nonneg hq hstep.le)) hstep.le
    _ = quantity := div_mul_cancel₀ _ hstep.ne'

/-- A multiple of the step is not cut. -/
theorem truncateQuantity_multiple (n : ℕ) {step : ℚ} (hstep : 0 < step) :
    truncateQuantity .exact (n * step) step = .ok (n * step) := by
  rw [truncateQuantity_exact (by positivity) hstep, mul_div_cancel_right₀ _ hstep.ne',
    Nat.floor_natCast]

/-! ### Prices and fees -/

theorem FeeModel.rate_nonneg (fees : FeeModel) (liquidity : FillLiquidity) :
    0 ≤ fees.rate .exact liquidity := by
  cases liquidity with
  | maker => exact div_nonneg fees.maker_valid.1 (by norm_num)
  | taker => exact div_nonneg fees.taker_valid.1 (by norm_num)

/-- A buy is expected to execute at a positive price. -/
theorem estimatedPrice_buy (slippage : SlippageModel) {intent : OrderIntent} {referencePrice : ℚ}
    (hside : intent.side = .buy) (href : 0 < referencePrice) :
    ∃ price, 0 < price ∧ estimatedPrice .exact slippage intent referencePrice = .ok price := by
  have hadverse : ∀ base : ℚ, 0 < base → 0 < adversePrice .exact slippage base .buy := by
    intro base hbase
    have hbps : 0 ≤ slippage.fixedBps / 10000 := div_nonneg slippage.valid.1 (by norm_num)
    exact mul_pos hbase (add_pos_of_pos_of_nonneg one_pos hbps)
  have hprices := intent.prices_valid
  unfold estimatedPrice
  cases horder : intent.orderType with
  | limit =>
    rw [horder] at hprices
    obtain ⟨⟨limit, hlimit, hpos⟩, -⟩ := hprices
    rw [Option.mem_def] at hlimit
    exact ⟨limit, hpos, by simp [hlimit]⟩
  | market =>
    rw [horder] at hprices
    refine ⟨_, ?_, rfl⟩
    rw [hside, hprices.2]
    exact hadverse _ href
  | stopMarket =>
    rw [horder] at hprices
    obtain ⟨⟨stop, hstop, hpos⟩, -⟩ := hprices
    rw [Option.mem_def] at hstop
    refine ⟨_, ?_, rfl⟩
    rw [hside, hstop]
    exact hadverse _ hpos

/-! ### A sized buy -/

/-- The reserve that the sizer of a run keeps. -/
def sizingReserve (limits : RiskLimits) (policy : PositionSizingPolicy) : ℚ :=
  max (effectiveReserve limits) policy.minimumQuoteReserve

/-- **What the sizer promises of a buy**: a multiple of the step that costs neither more than the
target nor more than the cash above the reserve. -/
structure SizedBuy (policy : PositionSizingPolicy) (constraints : InstrumentConstraints)
    (fees : FeeModel) (slippage : SlippageModel) (limits : RiskLimits) (intent : OrderIntent)
    (portfolio : PortfolioSnapshot) (referencePrice : ℚ) (d : PositionSizingDecision) : Prop where
  multiple : ∃ n : ℕ, d.quantity = n * constraints.quantityStep
  price : estimatedPrice .exact slippage intent referencePrice = .ok d.estimatedPrice
  price_pos : 0 < d.estimatedPrice
  target : targetNotional .exact policy portfolio = .ok d.targetNotional
  notional_le : d.quantity * d.estimatedPrice ≤ d.targetNotional
  fee : d.estimatedFee =
    d.quantity * d.estimatedPrice * fees.rate .exact (assumedLiquidity intent.orderType)
  cash : d.cashRequired = d.quantity * d.estimatedPrice + d.estimatedFee
  cash_le : d.cashRequired ≤ max 0 (portfolio.quoteCash - sizingReserve limits policy)

section

variable {policy : PositionSizingPolicy} {constraints : InstrumentConstraints} {fees : FeeModel}
  {slippage : SlippageModel} {limits : RiskLimits} {intent : OrderIntent}
  {portfolio : PortfolioSnapshot} {referencePrice : ℚ}

/-- The decision record of nonnegative amounts at a positive price. -/
theorem sizingDecision_exact {quantity target price : ℚ} (hq : 0 ≤ quantity) (ht : 0 ≤ target)
    (hp : 0 < price) (liquidity : FillLiquidity) :
    sizingDecision .exact fees quantity target price liquidity = .ok
      { quantity := quantity
        targetNotional := target
        estimatedPrice := price
        estimatedFee := quantity * price * fees.rate .exact liquidity
        cashRequired := quantity * price + quantity * price * fees.rate .exact liquidity } := by
  have hnotional : 0 ≤ quantity * price := mul_nonneg hq hp.le
  have hfee := mul_nonneg hnotional (fees.rate_nonneg liquidity)
  simp [sizingDecision, sizingDecision.requireNonnegativeFinite, hq, ht, hp, hp.le, hfee,
    add_nonneg hnotional hfee, FailureKind.unless, bind, Except.bind, pure, Except.pure]

/-- A policy that is not the strategy's own quantity aims at a nonnegative notional. -/
theorem targetNotional_nonneg (hkind : policy.kind ≠ .explicitQuantity)
    (hequity : 0 ≤ portfolio.equity) :
    ∃ target, 0 ≤ target ∧ targetNotional .exact policy portfolio = .ok target := by
  obtain ⟨value, hvalue, hpos⟩ := policy.value_pos hkind
  rw [Option.mem_def] at hvalue
  refine ⟨if policy.kind = .fixedNotional then value else portfolio.equity * value / 100, ?_, ?_⟩
  case refine_2 => simp [targetNotional, hvalue]
  split
  · exact hpos.le
  · exact div_nonneg (mul_nonneg hequity hpos.le) (by norm_num)

variable (constraints fees slippage limits) in
/-- **The sizer keeps its promise.** -/
theorem size_buy (hkind : policy.kind ≠ .explicitQuantity) (hside : intent.side = .buy)
    (href : 0 < referencePrice) (hequity : 0 ≤ portfolio.equity) :
    ∃ d, size .exact policy constraints fees slippage (effectiveReserve limits) intent portfolio
        referencePrice = .ok d ∧
      SizedBuy policy constraints fees slippage limits intent portfolio referencePrice d := by
  obtain ⟨price, hprice, hestimated⟩ := estimatedPrice_buy slippage hside href
  obtain ⟨target, htarget, haim⟩ := targetNotional_nonneg hkind hequity
  have hstep := constraints.quantityStep_pos
  set rate := fees.rate .exact (assumedLiquidity intent.orderType) with hrate
  have hmultiplier : 0 < 1 + rate :=
    add_pos_of_pos_of_nonneg one_pos (fees.rate_nonneg _)
  set available := max 0 (portfolio.quoteCash - sizingReserve limits policy) with havailable
  set bounded := min target (available / (1 + rate)) with hbounded
  have hnonneg : 0 ≤ bounded / price :=
    div_nonneg (le_min htarget (div_nonneg (le_max_left _ _) hmultiplier.le)) hprice.le
  set quantity : ℚ := ⌊bounded / price / constraints.quantityStep⌋₊ * constraints.quantityStep
    with hquantity
  have hnotional : quantity * price ≤ bounded :=
    (le_div_iff₀ hprice).mp (floor_steps_le hnonneg hstep)
  have hcash : quantity * price + quantity * price * rate ≤ available :=
    calc quantity * price + quantity * price * rate = quantity * price * (1 + rate) := by ring
      _ ≤ available / (1 + rate) * (1 + rate) :=
          mul_le_mul_of_nonneg_right (hnotional.trans (min_le_right _ _)) hmultiplier.le
      _ = available := div_mul_cancel₀ _ hmultiplier.ne'
  refine ⟨⟨quantity, target, price, quantity * price * rate,
    quantity * price + quantity * price * rate⟩, ?_, ⟨_, hquantity⟩, hestimated, hprice, haim,
    hnotional.trans (min_le_left _ _), rfl, rfl, hcash⟩
  simp only [size, bind_eq_ok, FailureKind.unless_eq_ok, exists_const, decide_eq_true_eq, hside,
    hkind, reduceCtorEq, or_self, if_false]
  refine ⟨href, price, hestimated, target, haim, quantity, ?_, ?_⟩
  · exact truncateQuantity_exact hnonneg hstep
  · exact sizingDecision_exact (by positivity) htarget hprice _

/-- A decision accepts an intent as it is, or refuses it for something other than cash. -/
def RiskDecision.SparesCash (intent : OrderIntent) : RiskDecision → Prop
  | .accepted normalized _ => normalized = intent
  | .rejected code _ => code ≠ .insufficientCash

theorem RiskDecision.SparesCash.ite {c : Prop} [Decidable c] {x y : RiskDecision}
    (hx : c → x.SparesCash intent) (hy : ¬ c → y.SparesCash intent) :
    (if c then x else y).SparesCash intent := by
  split
  · exact hx ‹_›
  · exact hy ‹_›

/-- A buy that leaves the reserve is not refused for cash. -/
theorem evaluateNotional_buy {price : ℚ} (hside : intent.side = .buy)
    (hcash : effectiveReserve limits ≤ portfolio.quoteCash - intent.quantity * price -
      intent.quantity * price * fees.rate .exact (assumedLiquidity intent.orderType)) :
    (evaluateNotional .exact constraints limits fees intent portfolio referencePrice
      price).SparesCash intent := by
  unfold evaluateNotional
  rw [hside]
  refine .ite (fun _ => by simp [RiskDecision.SparesCash]) fun _ => ?_
  refine .ite (fun _ => by simp [RiskDecision.SparesCash]) fun _ => ?_
  refine .ite (fun _ => by simp [RiskDecision.SparesCash]) fun _ => ?_
  refine .ite (fun hshort => absurd hshort (not_lt.mpr hcash)) fun _ => ?_
  exact .ite (fun _ => by simp [RiskDecision.SparesCash]) fun _ => rfl

/-- **A promised buy is never refused for cash**, and is accepted as it is. -/
theorem SizedBuy.evaluateOrder {d : PositionSizingDecision}
    (h : SizedBuy policy constraints fees slippage limits intent portfolio referencePrice d)
    (hside : intent.side = .buy) (hpos : 0 < d.quantity) (openCount total : ℕ) (halt : Bool) :
    ∃ r, Backtesting.evaluateOrder .exact constraints limits fees slippage
        (intent.withQuantity d.quantity hpos) portfolio referencePrice openCount total halt =
          .ok r ∧ r.SparesCash (intent.withQuantity d.quantity hpos) := by
  obtain ⟨n, hn⟩ := h.multiple
  have hcut : truncateQuantity .exact d.quantity constraints.quantityStep = .ok d.quantity := by
    rw [hn]
    exact truncateQuantity_multiple n constraints.quantityStep_pos
  have hrequired : 0 < d.cashRequired := by
    rw [h.cash, h.fee]
    have hnotional : 0 < d.quantity * d.estimatedPrice := mul_pos hpos h.price_pos
    exact add_pos_of_pos_of_nonneg hnotional (mul_nonneg hnotional.le (fees.rate_nonneg _))
  have hcash : effectiveReserve limits ≤ portfolio.quoteCash - d.quantity * d.estimatedPrice -
      d.quantity * d.estimatedPrice * fees.rate .exact (assumedLiquidity intent.orderType) := by
    have hreserve : effectiveReserve limits ≤ sizingReserve limits policy := le_max_left _ _
    have hle : d.cashRequired ≤ portfolio.quoteCash - sizingReserve limits policy :=
      (le_max_iff.mp h.cash_le).resolve_left (not_le.mpr hrequired)
    rw [h.cash, h.fee] at hle
    linarith
  unfold Backtesting.evaluateOrder
  split
  · exact ⟨_, rfl, by simp [RiskDecision.SparesCash]⟩
  · split
    · exact ⟨_, rfl, by simp [RiskDecision.SparesCash]⟩
    · split
      · exact ⟨_, rfl, by simp [RiskDecision.SparesCash]⟩
      · rw [OrderIntent.withQuantity_quantity, hcut, ok_bind]
        unfold evaluateQuantity
        split
        · exact ⟨_, rfl, by simp [RiskDecision.SparesCash]⟩
        · split
          · exact ⟨_, rfl, by simp [RiskDecision.SparesCash]⟩
          · split
            · exact ⟨_, rfl, by simp [RiskDecision.SparesCash]⟩
            · -- the price of an intent does not depend on its quantity
              have hprice : estimatedPrice .exact slippage
                  ((intent.withQuantity d.quantity hpos).withQuantity d.quantity hpos)
                  referencePrice = .ok d.estimatedPrice := h.price
              refine ⟨evaluateNotional .exact constraints limits fees
                (intent.withQuantity d.quantity hpos) portfolio referencePrice d.estimatedPrice, ?_,
                evaluateNotional_buy hside hcash⟩
              change (estimatedPrice _ _ _ _ >>= _) = _
              rw [hprice]
              rfl

/-- A sale is only ever cut. -/
theorem size_sell (hside : intent.side = .sell) {reserve : ℚ} {d : PositionSizingDecision}
    (h : size .exact policy constraints fees slippage reserve intent portfolio referencePrice =
      .ok d) : d.quantity ≤ intent.quantity := by
  have hq := intent.quantity_pos.le
  have hstep := constraints.quantityStep_pos
  simp only [size, bind_eq_ok, FailureKind.unless_eq_ok, exists_const, hside, true_or, if_true,
    truncateQuantity_exact hq hstep, Except.ok.injEq, sizingDecision, pure, Except.pure] at h
  obtain ⟨-, price, -, quantity, rfl, -, -, -, rfl⟩ := h
  exact floor_steps_le hq hstep

/-- **Sizing never proposes what risk must refuse for cash.**  Under exact arithmetic and for every
policy with a target of its own, a sized buy is a multiple of the step, costs at most the target and
at most the cash above the reserve, and whatever the open orders and the halt are, the risk manager
does not refuse it for cash and accepts no other quantity; a sized sale is never larger than what
the strategy asked for. -/
theorem size_sparesCash (policy : PositionSizingPolicy) (hkind : policy.kind ≠ .explicitQuantity)
    (constraints : InstrumentConstraints) (fees : FeeModel) (slippage : SlippageModel)
    (limits : RiskLimits) (intent : OrderIntent) (portfolio : PortfolioSnapshot)
    (hequity : 0 ≤ portfolio.equity) (referencePrice : ℚ) (href : 0 < referencePrice) :
    (intent.side = .buy → ∃ d, size .exact policy constraints fees slippage
        (effectiveReserve limits) intent portfolio referencePrice = .ok d ∧
      SizedBuy policy constraints fees slippage limits intent portfolio referencePrice d ∧
      d.cashRequired ≤ max 0 (portfolio.quoteCash - effectiveReserve limits) ∧
      ∀ (hpos : 0 < d.quantity) (openOrderCount totalOrderCount : ℕ) (riskHalt : Bool),
        ∃ r, evaluateOrder .exact constraints limits fees slippage
            (intent.withQuantity d.quantity hpos) portfolio referencePrice openOrderCount
            totalOrderCount riskHalt = .ok r ∧
          r.SparesCash (intent.withQuantity d.quantity hpos)) ∧
    (intent.side = .sell → ∀ d, size .exact policy constraints fees slippage
        (effectiveReserve limits) intent portfolio referencePrice = .ok d →
      d.quantity ≤ intent.quantity) := by
  refine ⟨fun hside => ?_, fun hside d h => size_sell hside h⟩
  obtain ⟨d, hsize, hd⟩ := size_buy constraints fees slippage limits hkind hside href hequity
  have hreserve : effectiveReserve limits ≤ sizingReserve limits policy := le_max_left _ _
  refine ⟨d, hsize, hd, ?_, fun hpos => hd.evaluateOrder hside hpos⟩
  exact hd.cash_le.trans (max_le_max_left 0 (by linarith))

end

/-- Half of the equity, above a reserve of 100. -/
def halfEquity : PositionSizingPolicy where
  kind := .equityPercent
  value := some 50
  minimumQuoteReserve := 100
  reserve_nonneg := by norm_num
  explicit_plain := by simp
  value_pos := fun _ => ⟨50, rfl, by norm_num⟩
  percent_le := by
    rintro - v ⟨⟩
    norm_num

/-- A flat portfolio of 1000. -/
def flatSnapshot : PortfolioSnapshot where
  quoteCash := 1000
  baseQuantity := 0
  averageEntryPrice := 0
  realizedPnl := 0
  unrealizedPnl := 0
  totalFees := 0
  totalSlippageCost := 0
  equity := 1000
  peakEquity := 1000
  drawdown := 0
  costBasis := 0
  drawdownPct := 0

/-- Half of the equity of 1000 is spent at 100, and risk takes the order. -/
theorem size_sparesCash_half :
    let config := holdConfig 10 validBps_ten false
    ∃ (d : PositionSizingDecision) (hpos : 0 < d.quantity) (r : RiskDecision),
      size .exact halfEquity config.constraints config.execution.fees config.execution.slippage
        (effectiveReserve config.riskLimits) buyOneUnit flatSnapshot 100 = .ok d ∧
      evaluateOrder .exact config.constraints config.riskLimits config.execution.fees
        config.execution.slippage (buyOneUnit.withQuantity d.quantity hpos) flatSnapshot 100 0 0
          false = .ok r ∧
      r.SparesCash (buyOneUnit.withQuantity d.quantity hpos) := by
  intro config
  obtain ⟨d, hsize, -, -, haccepted⟩ := (size_sparesCash halfEquity (by simp [halfEquity])
    config.constraints config.execution.fees config.execution.slippage config.riskLimits buyOneUnit
    flatSnapshot (by norm_num [flatSnapshot]) 100 (by norm_num)).1 rfl
  have hquantity : (size .exact halfEquity config.constraints config.execution.fees
      config.execution.slippage (effectiveReserve config.riskLimits) buyOneUnit flatSnapshot
        100).map (fun d => decide (0 < d.quantity)) = .ok true := by
    decide +kernel
  obtain ⟨d', hd', hpos⟩ := exists_of_map_eq_true hquantity
  obtain rfl : d' = d := Except.ok.inj (hd'.symm.trans hsize)
  obtain ⟨r, hr, hspares⟩ := haccepted (of_decide_eq_true hpos) 0 0 false
  exact ⟨d', of_decide_eq_true hpos, r, hsize, hr, hspares⟩

end Backtesting
end DryTrade
