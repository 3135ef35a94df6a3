import DryTrade.Indicators.Causality

/-!
# The bounds of the indicators

Under every rounding that keeps the order of the numbers, the relative strength index lies between
0 and 100, the average true range is not negative and the Bollinger bands are ordered; without a
rounding, a moving average lies between the least and the greatest of the values it has seen.

## Main results

* `rsiValue_mem`, `bandOf_ordered`, `trueRanges_nonneg`, `emaStep_between` — the bounds of one step.
* `indicators_causal` — the six indicators never look ahead, are aligned and keep their bounds.
-/

namespace DryTrade
namespace Indicators

open MarketData

/-! ### Averages of bounded values -/

section

variable (R : RealRounding)

theorem foldl_add_nonneg {xs : List ℚ} (h : ∀ x ∈ xs, 0 ≤ x) {total : ℚ} (ht : 0 ≤ total) :
    0 ≤ xs.foldl R.context.add total := by
  induction xs generalizing total with
  | nil => exact ht
  | cons x xs ih =>
    exact ih (fun y hy => h y (List.mem_cons_of_mem x hy))
      (R.round_nonneg (add_nonneg ht (h x List.mem_cons_self)))

theorem meanSeed_nonneg {period : ℕ} {xs : List ℚ} (h : ∀ x ∈ xs, 0 ≤ x) :
    0 ≤ meanSeed R.context.toDecimalContext period xs :=
  R.round_nonneg (R.round_nonneg (div_nonneg
    (foldl_add_nonneg R (fun x hx => h x (List.mem_of_mem_take hx)) le_rfl) period.cast_nonneg))

theorem atrStep_nonneg {period : ℕ} (hperiod : 1 ≤ period) {previous x : ℚ} (hp : 0 ≤ previous)
    (hx : 0 ≤ x) : 0 ≤ atrStep R.context.toDecimalContext period previous x := by
  have hweight : (0 : ℚ) ≤ (period : ℚ) - 1 := sub_nonneg.mpr (Nat.one_le_cast.mpr hperiod)
  have hproduct := R.round_nonneg (mul_nonneg hp hweight)
  exact R.round_nonneg (R.round_nonneg (div_nonneg (R.round_nonneg (add_nonneg hproduct hx))
    period.cast_nonneg))

end

/-! ### The relative strength index -/

section

variable (R : RealRounding)

/-- **The index lies between 0 and 100.** -/
theorem rsiValue_mem {s : WilderAverages} (hgain : 0 ≤ s.averageGain) (hloss : 0 ≤ s.averageLoss) :
    0 ≤ rsiValue R.context.toDecimalContext s ∧
      rsiValue R.context.toDecimalContext s ≤ 100 := by
  unfold rsiValue
  split
  · norm_num
  split
  · norm_num
  split
  · norm_num
  -- One plus the relative strength is at least one, so the hundredth part of it is at most 100.
  have hstrength : 0 ≤ R.context.round (R.context.div s.averageGain s.averageLoss) :=
    R.round_nonneg (R.round_nonneg (div_nonneg hgain hloss))
  have hdivisor : 1 ≤ R.context.add 1
      (R.context.round (R.context.div s.averageGain s.averageLoss)) :=
    R.one_le_round (by linarith)
  have hnonneg : 0 ≤ R.context.div 100 (R.context.add 1
      (R.context.round (R.context.div s.averageGain s.averageLoss))) :=
    R.round_nonneg (div_nonneg (by norm_num) (zero_le_one.trans hdivisor))
  have hle : R.context.div 100 (R.context.add 1
      (R.context.round (R.context.div s.averageGain s.averageLoss))) ≤ 100 :=
    R.round_le_hundred (div_le_self (by norm_num) hdivisor)
  exact ⟨R.round_nonneg (R.round_nonneg (by linarith)),
    R.round_le_hundred (R.round_le_hundred (by linarith))⟩

namespace RelativeStrengthIndex

variable (rsi : RelativeStrengthIndex)

theorem calculate_eq_ok (ctx : DecimalContext) (source : DecimalSeries) :
    rsi.calculate ctx source =
      .ok (seriesOf rsi.descriptor rsi.warmupPoints source.times (rsi.values ctx source.values)) :=
  alignedSeries_eq_ok (by rw [rsi.causal_values.length, source.length_values])
    source.chronological_times (rsi.missingBefore_values source.values)

theorem values_mem (xs : List ℚ) : ∀ v ∈ rsi.values R.context.toDecimalContext xs,
    ∀ q ∈ v, 0 ≤ q ∧ q ≤ 100 := by
  intro v hv q hq
  rw [rsi.values_eq] at hv
  rcases List.mem_append.mp hv with hv | hv
  · rw [List.eq_of_mem_replicate hv] at hq
    cases hq
  · refine forall_mem_seeded (P := fun s : WilderAverages => 0 ≤ s.averageGain ∧ 0 ≤ s.averageLoss)
      (Q := fun q : ℚ => 0 ≤ q ∧ q ≤ 100) (fun _ => ⟨?_, ?_⟩) (fun s change _ hs => ⟨?_, ?_⟩)
      (fun s hs => rsiValue_mem R hs.1 hs.2) v hv q hq
    · refine meanSeed_nonneg R fun x hx => ?_
      obtain ⟨change, -, rfl⟩ := List.mem_map.mp hx
      exact le_max_right _ _
    · refine meanSeed_nonneg R fun x hx => ?_
      obtain ⟨change, -, rfl⟩ := List.mem_map.mp hx
      exact le_max_right _ _
    · exact atrStep_nonneg R rsi.period_pos hs.1 (le_max_right _ _)
    · exact atrStep_nonneg R rsi.period_pos hs.2 (le_max_right _ _)

end RelativeStrengthIndex

/-! ### Bollinger bands -/

namespace BollingerBands

variable (bollinger : BollingerBands)

/-- The bands of a window, when the root exists. -/
def bandOf (ctx : RootContext) (window : List ℚ) : Band :=
  let middle := bollinger.mean ctx.toDecimalContext window
  let variance := bollinger.mean ctx.toDecimalContext (window.map fun value =>
    let difference := ctx.sub value middle
    ctx.round (ctx.mul difference difference))
  let distance := ctx.round (ctx.mul bollinger.standardDeviations (ctx.round (ctx.sqrt variance)))
  ⟨middle, ctx.round (ctx.add middle distance), ctx.round (ctx.sub middle distance)⟩

theorem mean_nonneg {window : List ℚ} (h : ∀ x ∈ window, 0 ≤ x) :
    0 ≤ bollinger.mean R.context.toDecimalContext window :=
  R.round_nonneg (R.round_nonneg (div_nonneg (foldl_add_nonneg R h le_rfl)
    bollinger.period.cast_nonneg))

/-- The variance is not negative, so the root exists. -/
theorem band_eq_ok (window : List ℚ) :
    bollinger.band R.context window = .ok (bollinger.bandOf R.context window) := by
  have hvariance : 0 ≤ bollinger.mean R.context.toDecimalContext (window.map fun value =>
      R.context.round (R.context.mul
        (R.context.sub value (bollinger.mean R.context.toDecimalContext window))
        (R.context.sub value (bollinger.mean R.context.toDecimalContext window)))) := by
    refine bollinger.mean_nonneg R fun x hx => ?_
    obtain ⟨value, -, rfl⟩ := List.mem_map.mp hx
    exact R.round_nonneg (R.round_nonneg (mul_self_nonneg _))
  simp only [band, squareRoot, bind_eq_ok, FailureKind.unless_eq_ok, exists_const,
    decide_eq_true_eq, pure, Except.pure]
  exact ⟨_, ⟨hvariance, rfl⟩, rfl⟩

/-- **The bands are ordered.** -/
theorem bandOf_ordered (window : List ℚ) :
    (bollinger.bandOf R.context window).lower ≤ (bollinger.bandOf R.context window).middle ∧
      (bollinger.bandOf R.context window).middle ≤ (bollinger.bandOf R.context window).upper := by
  have hmiddle : R.context.round (bollinger.bandOf R.context window).middle =
      (bollinger.bandOf R.context window).middle := R.round_round _
  have hdistance (variance : ℚ) : 0 ≤ R.context.round (R.context.mul bollinger.standardDeviations
      (R.context.round (R.context.sqrt variance))) :=
    R.round_nonneg (R.round_nonneg (mul_nonneg bollinger.standardDeviations_pos.le
      (R.round_nonneg (R.sqrt_nonneg variance))))
  exact ⟨R.round_sub_le hmiddle (hdistance _), R.le_round_add hmiddle (hdistance _)⟩

/-- The bands of the windows that end at each point. -/
def bandValues (ctx : RootContext) (xs : List ℚ) : List (Option Band) :=
  windowed bollinger.period (bollinger.bandOf ctx) xs

/-- One component of the bands. -/
def component (ctx : RootContext) (name : String) (part : Band → ℚ) (source : DecimalSeries) :
    IndicatorSeries :=
  seriesOf ⟨name, "1", bollinger.parameters⟩ bollinger.warmupPoints source.times
    (windowed bollinger.period (fun window => part (bollinger.bandOf ctx window)) source.values)

theorem calculate_eq_ok (source : DecimalSeries) : bollinger.calculate R.context source =
    .ok ⟨bollinger.descriptor,
      [("middle", bollinger.component R.context "bollinger_middle" (·.middle) source),
        ("upper", bollinger.component R.context "bollinger_upper" (·.upper) source),
        ("lower", bollinger.component R.context "bollinger_lower" (·.lower) source)]⟩ := by
  have hbands : bollinger.bands R.context source.values = .ok
      ((List.range' (bollinger.period - 1) (source.values.length - (bollinger.period - 1))).map
        fun endIndex => bollinger.bandOf R.context
          ((source.values.drop (endIndex + 1 - bollinger.period)).take bollinger.period)) :=
    mapM_eq_map fun _ _ => bollinger.band_eq_ok R _
  have hlength (part : Band → ℚ) : (windowed bollinger.period
      (fun window => part (bollinger.bandOf R.context window)) source.values).length =
        source.times.length := by
    rw [(causal_windowed bollinger.period_pos).length, source.length_values]
  have hvalues (part : Band → ℚ) : List.replicate (min bollinger.warmupPoints source.points.length)
      none ++ ((List.range' (bollinger.period - 1)
        (source.values.length - (bollinger.period - 1))).map fun endIndex =>
          bollinger.bandOf R.context ((source.values.drop (endIndex + 1 - bollinger.period)).take
            bollinger.period)).map (fun b => some (part b)) =
      windowed bollinger.period (fun window => part (bollinger.bandOf R.context window))
        source.values := by
    rw [windowed, List.map_map, DecimalSeries.values, List.length_map]
    rfl
  have hseries (name : String) (part : Band → ℚ) : alignedSeries ⟨name, "1", bollinger.parameters⟩
      bollinger.warmupPoints source.times (windowed bollinger.period
        (fun window => part (bollinger.bandOf R.context window)) source.values) =
      .ok (bollinger.component R.context name part source) :=
    alignedSeries_eq_ok (hlength part) source.chronological_times (missingBefore_windowed _)
  unfold calculate
  rw [hbands, ok_bind]
  simp only [hvalues, hseries, ok_bind]
  exact IndicatorBundle.construct_eq_ok (by decide) (by decide)
    (map_eventTime_seriesOf _ _ (hlength _)) (map_eventTime_seriesOf _ _ (hlength _))
    (map_eventTime_seriesOf _ _ (hlength _))

theorem component_take (ctx : RootContext) (name : String) (part : Band → ℚ)
    (source : DecimalSeries) (k : ℕ) : bollinger.component ctx name part (source.take k) =
      (bollinger.component ctx name part source).take k := by
  unfold component
  rw [source.times_take, source.values_take, (causal_windowed bollinger.period_pos).take,
    take_seriesOf]

theorem alignedTo_component (ctx : RootContext) (name : String) (part : Band → ℚ)
    (source : DecimalSeries) :
    (bollinger.component ctx name part source).AlignedTo source.times bollinger.warmupPoints :=
  alignedTo_seriesOf _ (by rw [(causal_windowed bollinger.period_pos).length, source.length_values])
    (missingBefore_windowed _)

/-- At each point the three bands are those of one window. -/
theorem valueAt_component (ctx : RootContext) (name : String) (part : Band → ℚ)
    (source : DecimalSeries) (i : ℕ) : (bollinger.component ctx name part source).valueAt i =
      ((bollinger.bandValues ctx source.values)[i]?.join).map part := by
  have hlength : (windowed bollinger.period (fun window => part (bollinger.bandOf ctx window))
      source.values).length = source.times.length := by
    rw [(causal_windowed bollinger.period_pos).length, source.length_values]
  unfold component
  rw [valueAt_seriesOf _ _ hlength, windowed_comp, List.getElem?_map]
  change ((bollinger.bandValues ctx source.values)[i]?.map (Option.map part)).join = _
  rcases (bollinger.bandValues ctx source.values)[i]? with _ | _ | b <;> rfl

theorem components_ordered (source : DecimalSeries) {i : ℕ} {lower middle upper : ℚ}
    (hlower : (bollinger.component R.context "bollinger_lower" (·.lower) source).valueAt i =
      some lower)
    (hmiddle : (bollinger.component R.context "bollinger_middle" (·.middle) source).valueAt i =
      some middle)
    (hupper : (bollinger.component R.context "bollinger_upper" (·.upper) source).valueAt i =
      some upper) : lower ≤ middle ∧ middle ≤ upper := by
  rw [valueAt_component] at hlower hmiddle hupper
  obtain ⟨b, hb, rfl⟩ := Option.map_eq_some_iff.mp hlower
  rw [hb] at hmiddle hupper
  cases hmiddle
  cases hupper
  have hmem : some b ∈ bollinger.bandValues R.context source.values :=
    List.mem_of_getElem? (Option.join_eq_some_iff.mp hb)
  exact forall_mem_windowed (Q := fun b : Band => b.lower ≤ b.middle ∧ b.middle ≤ b.upper)
    (bollinger.bandOf_ordered R) _ hmem b rfl

end BollingerBands

/-! ### The true range and its average -/

/-- No true range is negative: none is below the range of its candle. -/
theorem trueRanges_nonneg (candles : List Candle) :
    ∀ x ∈ trueRanges R.context.toDecimalContext candles, 0 ≤ x := by
  have hrange (c : Candle) : 0 ≤ R.context.sub c.high c.low := by
    have hlow := c.low_le.trans (min_le_right _ _)
    have hhigh := (le_max_right c.openPrice _).trans c.high_ge
    exact R.round_nonneg (sub_nonneg.mpr (hlow.trans (min_le_right _ _)))
  have hfrom : ∀ (cs : List Candle) (previous : Option ℚ),
      ∀ x ∈ trueRangesFrom R.context.toDecimalContext previous cs, 0 ≤ x := by
    intro cs
    induction cs with
    | nil =>
      intro previous x hx
      cases hx
    | cons c cs ih =>
      intro previous x hx
      rcases List.mem_cons.mp hx with rfl | hx
      · refine R.round_nonneg ?_
        cases previous with
        | none => exact hrange c
        | some close => exact (hrange c).trans ((le_max_left _ _).trans (le_max_left _ _))
      · exact ih _ x hx
  exact hfrom candles none

theorem trueRange_calculate_eq_ok (ctx : DecimalContext) (source : CandleSeries) :
    TrueRange.calculate ctx source = .ok (seriesOf TrueRange.descriptor TrueRange.warmupPoints
      source.times ((trueRanges ctx source.candles).map some)) :=
  alignedSeries_eq_ok (by rw [List.length_map, trueRanges_length, source.length_candles])
    source.chronological (missingBefore_map_some _)

namespace AverageTrueRange

variable (atr : AverageTrueRange)

theorem causal_values {ctx : DecimalContext} : Causal (atr.values ctx) :=
  (causal_seededAverage atr.period_pos).comp causal_trueRanges

theorem calculate_eq_ok (ctx : DecimalContext) (source : CandleSeries) :
    atr.calculate ctx source =
      .ok (seriesOf atr.descriptor atr.warmupPoints source.times (atr.values ctx source.candles)) :=
  alignedSeries_eq_ok (by rw [atr.causal_values.length, source.length_candles])
    source.chronological (missingBefore_seededAverage atr.period_pos _)

/-- The average that the regime detector computes. -/
theorem calculate_eq (ctx : DecimalContext) (source : CandleSeries) :
    atr.calculate ctx source = averageTrueRange ctx atr.period source := by
  rw [atr.calculate_eq_ok, averageTrueRange_eq_ok atr.period_pos, seriesOf, CandleSeries.times,
    List.zip_map_left, List.map_map]
  rfl

theorem values_nonneg (candles : List Candle) :
    ∀ v ∈ atr.values R.context.toDecimalContext candles, ∀ q ∈ v, 0 ≤ q := by
  have hranges := trueRanges_nonneg R candles
  unfold values
  rw [seededAverage_eq_seeded]
  exact forall_mem_seeded (P := fun q : ℚ => 0 ≤ q)
    (fun _ => meanSeed_nonneg R fun x hx => hranges x (List.mem_of_mem_take hx))
    (fun s x hx hs => atrStep_nonneg R atr.period_pos hs (hranges x hx)) fun _ hs => hs

end AverageTrueRange

end

/-! ### Moving averages without rounding -/

/-- A value between the old average and the new value. -/
theorem emaStep_between {period : ℕ} (hperiod : 1 ≤ period) {m M previous x : ℚ}
    (hprevious : m ≤ previous ∧ previous ≤ M) (hx : m ≤ x ∧ x ≤ M) :
    m ≤ emaStep .exact period previous x ∧ emaStep .exact period previous x ≤ M := by
  have hvalue : emaStep .exact period previous x =
      previous + 2 / ((period : ℚ) + 1) * (x - previous) := rfl
  have hcast : (1 : ℚ) ≤ period := Nat.one_le_cast.mpr hperiod
  have halpha : 0 ≤ 2 / ((period : ℚ) + 1) := by positivity
  have halpha_le : 2 / ((period : ℚ) + 1) ≤ 1 := (div_le_one (by linarith)).mpr (by linarith)
  have hconvex : previous + 2 / ((period : ℚ) + 1) * (x - previous) =
      (1 - 2 / ((period : ℚ) + 1)) * previous + 2 / ((period : ℚ) + 1) * x := by ring
  rw [hvalue, hconvex]
  generalize 2 / ((period : ℚ) + 1) = alpha at halpha halpha_le
  constructor
  · nlinarith [mul_le_mul_of_nonneg_left hprevious.1 (sub_nonneg.mpr halpha_le),
      mul_le_mul_of_nonneg_left hx.1 halpha]
  · nlinarith [mul_le_mul_of_nonneg_left hprevious.2 (sub_nonneg.mpr halpha_le),
      mul_le_mul_of_nonneg_left hx.2 halpha]

/-- The mean of values between two bounds. -/
theorem meanSeed_between {period : ℕ} (hperiod : 1 ≤ period) {xs : List ℚ} {m M : ℚ}
    (hlength : period ≤ xs.length) (h : ∀ x ∈ xs, m ≤ x ∧ x ≤ M) :
    m ≤ meanSeed .exact period xs ∧ meanSeed .exact period xs ≤ M := by
  have hmean : meanSeed .exact period xs = (xs.take period).sum / period := by
    rw [List.sum_eq_foldl]
    rfl
  have hpos : (0 : ℚ) < period := Nat.cast_pos.mpr hperiod
  have htake : (xs.take period).length = period := by rw [List.length_take, min_eq_left hlength]
  have hlower := List.card_nsmul_le_sum (xs.take period) m fun x hx =>
    (h x (List.mem_of_mem_take hx)).1
  have hupper := List.sum_le_card_nsmul (xs.take period) M fun x hx =>
    (h x (List.mem_of_mem_take hx)).2
  rw [htake, nsmul_eq_mul] at hlower hupper
  rw [hmean, le_div_iff₀ hpos, div_le_iff₀ hpos, mul_comm m, mul_comm M]
  exact ⟨hlower, hupper⟩

namespace ExponentialMovingAverage

variable (ema : ExponentialMovingAverage)

theorem values_between {xs : List ℚ} {m M : ℚ} (h : ∀ x ∈ xs, m ≤ x ∧ x ≤ M) :
    ∀ v ∈ ema.values .exact xs, ∀ q ∈ v, m ≤ q ∧ q ≤ M := by
  unfold values
  rw [seededAverage_eq_seeded]
  refine forall_mem_seeded (P := fun q : ℚ => m ≤ q ∧ q ≤ M) (fun hlength => ?_)
    (fun s x hx hs => emaStep_between ema.period_pos hs (h x hx)) fun _ hs => hs
  rw [meanSeed_take]
  exact meanSeed_between ema.period_pos hlength h

/-- **Between the least and the greatest value seen so far.** -/
theorem values_getElem?_between {xs : List ℚ} {i : ℕ} {v : ℚ}
    (h : (ema.values .exact xs)[i]? = some (some v)) :
    (xs.take (i + 1)).minimum ≤ v ∧ v ≤ (xs.take (i + 1)).maximum := by
  have hcausal : Causal (ema.values .exact) := ema.causal_values
  have hmem : some v ∈ ema.values .exact (xs.take (i + 1)) := by
    rw [hcausal.take]
    exact List.mem_of_getElem? (by rw [List.getElem?_take, if_pos (Nat.lt_succ_self i), h])
  have hlt : i < xs.length := by
    rw [← hcausal.length]
    exact (List.getElem?_eq_some_iff.mp h).1
  have hpos : 0 < (xs.take (i + 1)).length := by
    rw [List.length_take]
    omega
  have hleast := List.coe_minimum_of_length_pos hpos
  have hgreatest := List.coe_maximum_of_length_pos hpos
  have hbetween := ema.values_between (fun x hx =>
    ⟨List.minimum_of_length_pos_le_of_mem hx hpos, List.le_maximum_of_length_pos_of_mem hx hpos⟩)
      _ hmem v rfl
  rw [← hleast, ← hgreatest]
  exact ⟨WithTop.coe_le_coe.mpr hbetween.1, WithBot.coe_le_coe.mpr hbetween.2⟩

end ExponentialMovingAverage

/-! ### The six indicators -/

section

variable (R : RealRounding)

/-- A series of causal values is aligned to its source, and its prefixes are those of prefixes. -/
theorem aligned_and_causal {Source α : Type} {calculate : Source → Except Failure IndicatorSeries}
    {take : Source → ℕ → Source} {times : Source → List Instant} {data : Source → List α}
    {descriptor : IndicatorDescriptor} {warmup : ℕ} (values : List α → List (Option ℚ))
    (hcalculate : ∀ source, calculate source =
      .ok (seriesOf descriptor warmup (times source) (values (data source))))
    (htimes : ∀ source k, times (take source k) = (times source).take k)
    (hdata : ∀ source k, data (take source k) = (data source).take k)
    (hlength : ∀ source, (data source).length = (times source).length)
    (hcausal : Causal values) (hmissing : ∀ xs, MissingBefore warmup (values xs)) (source : Source) :
    (seriesOf descriptor warmup (times source) (values (data source))).AlignedTo (times source)
        warmup ∧
      ∀ k, calculate (take source k) =
        .ok ((seriesOf descriptor warmup (times source) (values (data source))).take k) :=
  ⟨alignedTo_seriesOf descriptor (by rw [hcausal.length, hlength]) (hmissing _), fun k => by
    rw [hcalculate, htimes, hdata, hcausal.take, take_seriesOf]⟩

/-- **The indicators never look ahead and stay aligned**, for every monotone and idempotent rounding
that keeps `0`, `1`, `50` and `100`. -/
theorem indicators_causal :
    (∀ (ema : ExponentialMovingAverage) (source : DecimalSeries), ∃ out,
      ema.calculate R.context.toDecimalContext source = .ok out ∧
      out.AlignedTo source.times ema.warmupPoints ∧
      ∀ k, ema.calculate R.context.toDecimalContext (source.take k) = .ok (out.take k)) ∧
    (∀ (ema : ExponentialMovingAverage) (source : DecimalSeries), ∃ out,
      ema.calculate .exact source = .ok out ∧ ∀ i v, out.valueAt i = some v →
        (source.values.take (i + 1)).minimum ≤ v ∧ v ≤ (source.values.take (i + 1)).maximum) ∧
    (∀ (rsi : RelativeStrengthIndex) (source : DecimalSeries), ∃ out,
      rsi.calculate R.context.toDecimalContext source = .ok out ∧
      out.AlignedTo source.times rsi.warmupPoints ∧
      (∀ k, rsi.calculate R.context.toDecimalContext (source.take k) = .ok (out.take k)) ∧
      ∀ i v, out.valueAt i = some v → 0 ≤ v ∧ v ≤ 100) ∧
    (∀ (macd : MovingAverageConvergenceDivergence) (source : DecimalSeries),
      ∃ line signal histogram available average,
      let out : IndicatorBundle :=
        ⟨macd.descriptor, [("macd", line), ("signal", signal), ("histogram", histogram)]⟩
      macd.calculate R.context.toDecimalContext source = .ok out ∧
      line.AlignedTo source.times (macd.slowPeriod - 1) ∧
      signal.AlignedTo source.times macd.warmupPoints ∧
      histogram.AlignedTo source.times macd.warmupPoints ∧
      (∀ k, macd.calculate R.context.toDecimalContext (source.take k) = .ok (out.take k)) ∧
      available.points = line.available ∧
      macd.signal.calculate R.context.toDecimalContext available = .ok average ∧
      signal.points.drop (macd.slowPeriod - 1) = average.points) ∧
    (∀ (bollinger : BollingerBands) (source : DecimalSeries), ∃ middle upper lower,
      let out : IndicatorBundle :=
        ⟨bollinger.descriptor, [("middle", middle), ("upper", upper), ("lower", lower)]⟩
      bollinger.calculate R.context source = .ok out ∧
      middle.AlignedTo source.times bollinger.warmupPoints ∧
      upper.AlignedTo source.times bollinger.warmupPoints ∧
      lower.AlignedTo source.times bollinger.warmupPoints ∧
      (∀ k, bollinger.calculate R.context (source.take k) = .ok (out.take k)) ∧
      ∀ i l m u, lower.valueAt i = some l → middle.valueAt i = some m → upper.valueAt i = some u →
        l ≤ m ∧ m ≤ u) ∧
    (∀ source : CandleSeries, ∃ out,
      TrueRange.calculate R.context.toDecimalContext source = .ok out ∧
      out.AlignedTo source.times TrueRange.warmupPoints ∧
      ∀ k, TrueRange.calculate R.context.toDecimalContext (source.take k) = .ok (out.take k)) ∧
    ∀ (atr : AverageTrueRange) (source : CandleSeries), ∃ out,
      atr.calculate R.context.toDecimalContext source = .ok out ∧
      out.AlignedTo source.times atr.warmupPoints ∧
      (∀ k, atr.calculate R.context.toDecimalContext (source.take k) = .ok (out.take k)) ∧
      ∀ i v, out.valueAt i = some v → 0 ≤ v := by
  refine ⟨fun ema source => ?_, fun ema source => ?_, fun rsi source => ?_, fun macd source => ?_,
    fun bollinger source => ?_, fun source => ?_, fun atr source => ?_⟩
  · exact ⟨_, ema.calculate_eq_ok _ source, aligned_and_causal _ (ema.calculate_eq_ok _)
      DecimalSeries.times_take DecimalSeries.values_take DecimalSeries.length_values
      ema.causal_values ema.missingBefore_values source⟩
  · refine ⟨_, ema.calculate_eq_ok _ source, fun i v h => ?_⟩
    exact ema.values_getElem?_between (mem_of_valueAt_seriesOf _ _
      (by rw [ema.causal_values.length, source.length_values]) h)
  · obtain ⟨haligned, hprefix⟩ := aligned_and_causal _
      (rsi.calculate_eq_ok R.context.toDecimalContext) DecimalSeries.times_take
      DecimalSeries.values_take DecimalSeries.length_values rsi.causal_values
      rsi.missingBefore_values source
    refine ⟨_, rsi.calculate_eq_ok _ source, haligned, hprefix, fun i v h => ?_⟩
    exact rsi.values_mem R _ _ (List.mem_of_getElem? (mem_of_valueAt_seriesOf _ _
      (by rw [rsi.causal_values.length, source.length_values]) h)) v rfl
  · refine ⟨_, _, _, macd.compact R.context.toDecimalContext source, _,
      macd.calculate_eq_ok _ source,
      alignedTo_seriesOf _ (by rw [macd.causal_lineValues.length, source.length_values])
        (macd.missingBefore_lineValues _),
      alignedTo_seriesOf _ (by rw [macd.causal_signalValues.length, source.length_values])
        (macd.missingBefore_signalValues _),
      alignedTo_seriesOf _ (by rw [macd.causal_histogramValues.length, source.length_values])
        (macd.missingBefore_histogramValues _), fun k => ?_, rfl,
      macd.signal.calculate_eq_ok _ _, macd.signalLine_eq _ source⟩
    obtain ⟨hline, hsignal, hhistogram⟩ :=
      macd.components_take R.context.toDecimalContext source k
    rw [macd.calculate_eq_ok, hline, hsignal, hhistogram]
    rfl
  · refine ⟨_, _, _, bollinger.calculate_eq_ok R source, bollinger.alignedTo_component _ _ _ _,
      bollinger.alignedTo_component _ _ _ _, bollinger.alignedTo_component _ _ _ _, fun k => ?_,
      fun i l m u => bollinger.components_ordered R source⟩
    rw [bollinger.calculate_eq_ok, bollinger.component_take, bollinger.component_take,
      bollinger.component_take]
    rfl
  · exact ⟨_, trueRange_calculate_eq_ok _ source, aligned_and_causal
      (fun cs => (trueRanges R.context.toDecimalContext cs).map some)
      (trueRange_calculate_eq_ok _) CandleSeries.times_take (fun _ _ => rfl)
      CandleSeries.length_candles ((Causal.map some).comp causal_trueRanges)
      (fun _ => missingBefore_map_some _) source⟩
  · obtain ⟨haligned, hprefix⟩ := aligned_and_causal _
      (atr.calculate_eq_ok R.context.toDecimalContext) CandleSeries.times_take (fun _ _ => rfl)
      CandleSeries.length_candles atr.causal_values
      (fun _ => missingBefore_seededAverage atr.period_pos _) source
    refine ⟨_, atr.calculate_eq_ok _ source, haligned, hprefix, fun i v h => ?_⟩
    exact atr.values_nonneg R _ _ (List.mem_of_getElem? (mem_of_valueAt_seriesOf _ _
      (by rw [atr.causal_values.length, source.length_candles]) h)) v rfl

end

end Indicators
end DryTrade
