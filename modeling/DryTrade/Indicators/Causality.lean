import DryTrade.Growth
import DryTrade.Indicators.Oscillators

/-!
# Indicators never look ahead

Every indicator is a causal function of the values of its source whose first values are missing, so
its calculation never raises, its output is aligned to the source, and the output of a prefix is the
prefix of the output.

## Main definitions

* `seriesOf` — the series of some values at the times of a source.
* `IndicatorSeries.AlignedTo` — one point per source point, missing exactly in the warmup.

## Main results

* `alignedSeries_eq_ok` — when the checks of an output pass.
* `RelativeStrengthIndex.causal_values`, `ExponentialMovingAverage.causal_values` — the values are
  causal.
* `MovingAverageConvergenceDivergence.calculate_eq_ok` — the composite calculation, step by step.
-/

namespace DryTrade
namespace Indicators

open MarketData

/-! ### Outputs -/

/-- Some values at some times, as a series. -/
def seriesOf (descriptor : IndicatorDescriptor) (warmupPoints : ℕ) (times : List Instant)
    (values : List (Option ℚ)) : IndicatorSeries where
  descriptor := descriptor
  warmupPoints := warmupPoints
  points := (times.zip values).map fun p => ⟨p.1, p.2⟩

/-- The first `k` points. -/
def IndicatorSeries.take (s : IndicatorSeries) (k : ℕ) : IndicatorSeries :=
  { s with points := s.points.take k }

/-- The first `k` points of every component. -/
def IndicatorBundle.take (b : IndicatorBundle) (k : ℕ) : IndicatorBundle :=
  { b with components := b.components.map fun c => (c.1, c.2.take k) }

/-- The value at an index, where it is available. -/
def IndicatorSeries.valueAt (s : IndicatorSeries) (i : ℕ) : Option ℚ := s.points[i]?.bind (·.value)

/-- One point per time, whose value is missing exactly in the first `warmup` ones. -/
structure IndicatorSeries.AlignedTo (s : IndicatorSeries) (times : List Instant) (warmup : ℕ) :
    Prop where
  warmupPoints : s.warmupPoints = warmup
  eventTimes : s.points.map (·.eventTime) = times
  missing : ∀ i p, s.points[i]? = some p → (p.value = none ↔ i < min warmup times.length)

theorem zipStrict_eq_ok {α β : Type} {left : List α} {right : List β}
    (h : left.length = right.length) : zipStrict left right = .ok (left.zip right) := by
  simp only [zipStrict, bind_eq_ok, FailureKind.unless_eq_ok, exists_const, decide_eq_true_eq,
    pure, Except.pure]
  exact ⟨h.le, h.ge, trivial⟩

section

variable (descriptor : IndicatorDescriptor) (warmup : ℕ) {times : List Instant}
  {values : List (Option ℚ)}

theorem map_eventTime_seriesOf (hlength : values.length = times.length) :
    (seriesOf descriptor warmup times values).points.map (·.eventTime) = times := by
  unfold seriesOf
  rw [List.map_map]
  exact List.map_fst_zip hlength.ge

theorem map_value_seriesOf (hlength : values.length = times.length) :
    (seriesOf descriptor warmup times values).points.map (·.value) = values := by
  unfold seriesOf
  rw [List.map_map]
  exact List.map_snd_zip hlength.le

theorem valueAt_seriesOf (hlength : values.length = times.length) (i : ℕ) :
    (seriesOf descriptor warmup times values).valueAt i = values[i]?.join := by
  unfold IndicatorSeries.valueAt
  conv_rhs => rw [← map_value_seriesOf descriptor warmup hlength, List.getElem?_map]
  cases (seriesOf descriptor warmup times values).points[i]? <;> rfl

/-- An available value of a series is one of its values. -/
theorem mem_of_valueAt_seriesOf (hlength : values.length = times.length) {i : ℕ} {v : ℚ}
    (h : (seriesOf descriptor warmup times values).valueAt i = some v) :
    values[i]? = some (some v) := by
  rw [valueAt_seriesOf descriptor warmup hlength] at h
  cases hi : values[i]? with
  | none =>
    rw [hi] at h
    cases h
  | some x =>
    rw [hi] at h
    exact congrArg some h

theorem take_seriesOf (k : ℕ) : (seriesOf descriptor warmup times values).take k =
    seriesOf descriptor warmup (times.take k) (values.take k) := by
  unfold seriesOf IndicatorSeries.take
  rw [← List.map_take, List.zip_eq_zipWith, List.take_zipWith, List.zip_eq_zipWith]

variable {warmup}

theorem alignedTo_seriesOf (hlength : values.length = times.length)
    (hmissing : MissingBefore warmup values) :
    (seriesOf descriptor warmup times values).AlignedTo times warmup where
  warmupPoints := rfl
  eventTimes := map_eventTime_seriesOf descriptor warmup hlength
  missing i p hp := by
    have hvalue : values[i]? = some p.value := by
      rw [← map_value_seriesOf descriptor warmup hlength, List.getElem?_map, hp]
      rfl
    have hlt := (List.getElem?_eq_some_iff.mp hvalue).1
    rw [hmissing i _ hvalue]
    omega

variable {descriptor}

/-- **The checks of an output pass** when it is aligned. -/
theorem alignedSeries_eq_ok (hlength : values.length = times.length)
    (hchronological : chronological times = true) (hmissing : MissingBefore warmup values) :
    alignedSeries descriptor warmup times values =
      .ok (seriesOf descriptor warmup times values) := by
  have htimes := map_eventTime_seriesOf descriptor warmup hlength
  have haligned := alignedTo_seriesOf descriptor hlength hmissing
  have hpoints : (seriesOf descriptor warmup times values).points.length = times.length := by
    simpa using congrArg List.length htimes
  obtain ⟨hbefore, hafter⟩ := warmup_checks (n := warmup)
    (p := fun point : IndicatorPoint => point.value.isNone)
    (l := (seriesOf descriptor warmup times values).points) (by
      intro i p hp
      have hlt := (List.getElem?_eq_some_iff.mp hp).1
      rw [Option.isNone_iff_eq_none, haligned.missing i p hp]
      omega)
  simp only [alignedSeries, zipStrict_eq_ok hlength.symm, ok_bind, IndicatorSeries.construct,
    bind_eq_ok, FailureKind.unless_eq_ok, exists_const, List.all_eq_true, pure, Except.pure]
  refine ⟨htimes.symm ▸ hchronological, hbefore, fun p hp => ?_, rfl⟩
  have hsome := hafter p hp
  rw [← Option.not_isNone, hsome]
  rfl

end

/-- Three components with identical times and names that differ are a bundle. -/
theorem IndicatorBundle.construct_eq_ok {descriptor : IndicatorDescriptor} {a b c : String}
    {x y z : IndicatorSeries} {times : List Instant}
    (hnames : ([a, b, c].all fun n => Backtesting.strip n == n && Backtesting.isFillToken n) = true)
    (hdistinct : [a, b, c].Nodup) (hx : x.points.map (·.eventTime) = times)
    (hy : y.points.map (·.eventTime) = times) (hz : z.points.map (·.eventTime) = times) :
    IndicatorBundle.construct descriptor [(a, x), (b, y), (c, z)] =
      .ok ⟨descriptor, [(a, x), (b, y), (c, z)]⟩ := by
  simp only [List.all_cons, List.all_nil, Bool.and_true, Bool.and_eq_true, beq_iff_eq] at hnames
  obtain ⟨⟨ha, hasafe⟩, ⟨hb, hbsafe⟩, hc, hcsafe⟩ := hnames
  simp only [List.nodup_cons, List.mem_cons, List.not_mem_nil, or_false, not_or,
    not_false_eq_true, List.nodup_nil, and_true] at hdistinct
  obtain ⟨⟨hab, hac⟩, hbc⟩ := hdistinct
  simp [IndicatorBundle.construct, checkComponents, FailureKind.unless, bind, Except.bind, pure,
    Except.pure, ha, hb, hc, hasafe, hbsafe, hcsafe, hx, hy, hz, Ne.symm hab, Ne.symm hac,
    Ne.symm hbc]

/-! ### Sources -/

theorem DecimalSeries.chronological_times (source : DecimalSeries) :
    chronological source.times = true := source.valid

/-- `prefix`: the first `k` points. -/
def DecimalSeries.take (source : DecimalSeries) (k : ℕ) : DecimalSeries where
  points := source.points.take k
  valid := by
    have h := source.valid
    rw [chronological_iff] at h ⊢
    rw [List.map_take]
    exact h.take k

@[simp] theorem DecimalSeries.times_take (source : DecimalSeries) (k : ℕ) :
    (source.take k).times = source.times.take k := List.map_take

@[simp] theorem DecimalSeries.values_take (source : DecimalSeries) (k : ℕ) :
    (source.take k).values = source.values.take k := List.map_take

theorem DecimalSeries.length_values (source : DecimalSeries) :
    source.values.length = source.times.length := by
  rw [DecimalSeries.values, DecimalSeries.times, List.length_map, List.length_map]

@[simp] theorem CandleSeries.times_take (source : CandleSeries) (k : ℕ) :
    (source.take k).times = source.times.take k := List.map_take

theorem CandleSeries.length_candles (source : CandleSeries) :
    source.candles.length = source.times.length := by
  rw [CandleSeries.times, List.length_map]

/-! ### Averages -/

section

variable {ctx : DecimalContext} {step : ℚ → ℚ → ℚ} {period : ℕ}

theorem smooth_eq_scan (previous : ℚ) (xs : List ℚ) :
    smooth step previous xs = (scan step id previous xs).map some := by
  induction xs generalizing previous with
  | nil => rfl
  | cons x xs ih => rw [smooth, ih]; rfl

theorem meanSeed_take (xs : List ℚ) : meanSeed ctx period (xs.take period) =
    meanSeed ctx period xs := by
  unfold meanSeed
  rw [List.take_take, min_self]

theorem seededAverage_eq_seeded (xs : List ℚ) : seededAverage ctx step period xs =
    seeded period (meanSeed ctx period) step id xs := by
  unfold seededAverage seeded
  rw [smooth_eq_scan, meanSeed_take]
  rfl

theorem causal_seededAverage (hperiod : 1 ≤ period) : Causal (seededAverage ctx step period) := by
  rw [show seededAverage ctx step period = seeded period (meanSeed ctx period) step id from
    funext seededAverage_eq_seeded]
  exact causal_seeded hperiod

theorem missingBefore_seededAverage (hperiod : 1 ≤ period) (xs : List ℚ) :
    MissingBefore (period - 1) (seededAverage ctx step period xs) := by
  rw [seededAverage_eq_seeded]
  exact missingBefore_seeded hperiod xs

theorem causal_trueRanges : Causal (trueRanges ctx) where
  nil := rfl
  concat cs c := ⟨_, trueRanges_concat cs c⟩

end

namespace RelativeStrengthIndex

variable (rsi : RelativeStrengthIndex) {ctx : DecimalContext}

/-- The values are those of a scan of the changes, delayed by one. -/
theorem values_eq (xs : List ℚ) : rsi.values ctx xs = List.replicate (min 1 xs.length) none ++
    seeded rsi.period (wilderSeed ctx rsi.period) (wilderStep ctx rsi.period) (rsiValue ctx)
      (changes ctx xs) := by
  have hperiod := rsi.period_pos
  have hlength : (changes ctx xs).length = xs.length - 1 := by
    rw [changes, List.length_zipWith, List.length_tail]
    omega
  have hseed : wilderSeed ctx rsi.period ((changes ctx xs).take rsi.period) =
      wilderSeed ctx rsi.period (changes ctx xs) := by
    unfold wilderSeed
    rw [List.map_take, List.map_take, meanSeed_take, meanSeed_take]
  unfold values seeded
  rw [hseed, hlength, ← List.append_assoc, ← List.replicate_add]
  by_cases hlt : rsi.period < xs.length
  · rw [if_pos hlt, if_pos (by omega), show min 1 xs.length + min (rsi.period - 1) (xs.length - 1) =
      min rsi.period xs.length by omega]
  · rw [if_neg hlt, if_neg (by omega), show min 1 xs.length + min (rsi.period - 1) (xs.length - 1) =
      min rsi.period xs.length by omega]

theorem causal_values : Causal (rsi.values ctx) := by
  rw [show rsi.values ctx = _ from funext rsi.values_eq]
  exact causal_delayed (delayed_differences _) (causal_seeded rsi.period_pos)

theorem missingBefore_values (xs : List ℚ) : MissingBefore rsi.period (rsi.values ctx xs) := by
  have hperiod := rsi.period_pos
  have h : MissingBefore (1 + (rsi.period - 1)) (rsi.values ctx xs) := by
    rw [values_eq]
    exact missingBefore_delayed (delayed_differences _) (causal_seeded hperiod)
      (missingBefore_seeded hperiod) xs
  rwa [Nat.add_sub_cancel' hperiod] at h

end RelativeStrengthIndex

namespace ExponentialMovingAverage

variable (ema : ExponentialMovingAverage) {ctx : DecimalContext}

theorem causal_values : Causal (ema.values ctx) := causal_seededAverage ema.period_pos

theorem missingBefore_values (xs : List ℚ) : MissingBefore ema.warmupPoints (ema.values ctx xs) :=
  missingBefore_seededAverage ema.period_pos xs

variable (ctx) in
theorem calculate_eq_ok (source : DecimalSeries) : ema.calculate ctx source =
    .ok (seriesOf ema.descriptor ema.warmupPoints source.times (ema.values ctx source.values)) :=
  alignedSeries_eq_ok (by rw [ema.causal_values.length, source.length_values])
    source.chronological_times (ema.missingBefore_values source.values)

/-- The average that the regime detector computes. -/
theorem calculate_eq (source : DecimalSeries) :
    ema.calculate ctx source = exponentialMovingAverage ctx ema.period source := by
  rw [ema.calculate_eq_ok, exponentialMovingAverage_eq_ok ema.period_pos, seriesOf,
    DecimalSeries.times, List.zip_map_left, List.map_map]
  rfl

end ExponentialMovingAverage

/-! ### Moving average convergence divergence -/

section

variable (ctx : DecimalContext)

/-- `value` less `subtrahend`, missing where one of them is. -/
def less (value subtrahend : Option ℚ) : Option ℚ :=
  subtrahend.bind fun s => value.map fun v => ctx.round (ctx.sub v s)

theorem lessAvailable_eq_ok {value subtrahend : Option ℚ} (h : value = none → subtrahend = none) :
    lessAvailable ctx value subtrahend = .ok (less ctx value subtrahend) := by
  cases subtrahend with
  | none => rfl
  | some s =>
    cases value with
    | none => cases h rfl
    | some v => rfl

variable {values subtrahends : List (Option ℚ)} {w w' : ℕ}

/-- The differences of two columns are available with the second one. -/
theorem mapM_lessAvailable (hv : MissingBefore w values) (hs : MissingBefore w' subtrahends)
    (hle : w ≤ w') : (values.zip subtrahends).mapM (fun p => lessAvailable ctx p.1 p.2) =
      .ok (List.zipWith (less ctx) values subtrahends) := by
  rw [← List.map_uncurry_zip_eq_zipWith]
  refine mapM_eq_map fun p hp => lessAvailable_eq_ok ctx fun hnone => ?_
  obtain ⟨i, hi⟩ := List.mem_iff_getElem?.mp hp
  obtain ⟨hfirst, hsecond⟩ := List.getElem?_zip_eq_some.mp hi
  exact (hs i _ hsecond).mpr (((hv i _ hfirst).mp hnone).trans_le hle)

theorem missingBefore_zipWith_less (hv : MissingBefore w values)
    (hs : MissingBefore w' subtrahends) (hle : w ≤ w') :
    MissingBefore w' (List.zipWith (less ctx) values subtrahends) := by
  intro i x hx
  obtain ⟨v, s, hfirst, hsecond, rfl⟩ := List.getElem?_zipWith_eq_some.mp hx
  rw [← hs i _ hsecond]
  cases s with
  | none => exact iff_of_true rfl rfl
  | some s =>
    cases v with
    | none =>
      have hlt := (hs i _ hsecond).mpr (((hv i _ hfirst).mp rfl).trans_le hle)
      cases hlt
    | some v => simp [less]

end

/-- The points of a series whose value is available. -/
def IndicatorSeries.available (s : IndicatorSeries) : List SeriesPoint :=
  s.points.filterMap fun p => p.value.map fun v => ⟨p.eventTime, v⟩

theorem available_seriesOf (descriptor : IndicatorDescriptor) (warmup : ℕ) (times : List Instant)
    (values : List (Option ℚ)) : (seriesOf descriptor warmup times values).available =
      (times.zip values).filterMap fun p => p.2.map fun v => ⟨p.1, v⟩ := by
  unfold IndicatorSeries.available seriesOf
  rw [List.filterMap_map]
  rfl

namespace MovingAverageConvergenceDivergence

variable (macd : MovingAverageConvergenceDivergence) (ctx : DecimalContext)

/-- The values of the MACD line. -/
def lineValues (xs : List ℚ) : List (Option ℚ) :=
  List.zipWith (less ctx) (macd.fast.values ctx xs) (macd.slow.values ctx xs)

/-- The values of the signal: the average of the available part of the line, realigned. -/
def signalValues (xs : List ℚ) : List (Option ℚ) :=
  List.replicate (min (macd.slowPeriod - 1) xs.length) none ++
    macd.signal.values ctx (macd.lineValues ctx xs).reduceOption

/-- The values of the histogram. -/
def histogramValues (xs : List ℚ) : List (Option ℚ) :=
  List.zipWith (less ctx) (macd.lineValues ctx xs) (macd.signalValues ctx xs)

variable {ctx}

theorem causal_lineValues : Causal (macd.lineValues ctx) :=
  Causal.zipWith (less ctx) macd.fast.causal_values macd.slow.causal_values

theorem fast_le_slow : macd.fast.warmupPoints ≤ macd.slow.warmupPoints :=
  Nat.sub_le_sub_right macd.fastPeriod_lt.le 1

theorem missingBefore_lineValues (xs : List ℚ) :
    MissingBefore (macd.slowPeriod - 1) (macd.lineValues ctx xs) :=
  missingBefore_zipWith_less ctx (macd.fast.missingBefore_values xs)
    (macd.slow.missingBefore_values xs) macd.fast_le_slow

theorem delayed_available :
    Delayed (macd.slowPeriod - 1) fun xs => (macd.lineValues ctx xs).reduceOption :=
  delayed_reduceOption macd.causal_lineValues macd.missingBefore_lineValues

theorem causal_signalValues : Causal (macd.signalValues ctx) :=
  causal_delayed macd.delayed_available macd.signal.causal_values

theorem warmupPoints_eq :
    macd.warmupPoints = macd.slowPeriod - 1 + macd.signal.warmupPoints := by
  have hslow := macd.fastPeriod_pos.trans macd.fastPeriod_lt.le
  have hsignal := macd.signalPeriod_pos
  change macd.slowPeriod + macd.signalPeriod - 2 = macd.slowPeriod - 1 + (macd.signalPeriod - 1)
  omega

theorem missingBefore_signalValues (xs : List ℚ) :
    MissingBefore macd.warmupPoints (macd.signalValues ctx xs) := by
  rw [warmupPoints_eq]
  exact missingBefore_delayed macd.delayed_available macd.signal.causal_values
    macd.signal.missingBefore_values xs

theorem line_le_warmup : macd.slowPeriod - 1 ≤ macd.warmupPoints := by
  rw [warmupPoints_eq]
  exact Nat.le_add_right _ _

theorem causal_histogramValues : Causal (macd.histogramValues ctx) :=
  Causal.zipWith (less ctx) macd.causal_lineValues macd.causal_signalValues

theorem missingBefore_histogramValues (xs : List ℚ) :
    MissingBefore macd.warmupPoints (macd.histogramValues ctx xs) :=
  missingBefore_zipWith_less ctx (macd.missingBefore_lineValues xs)
    (macd.missingBefore_signalValues xs) macd.line_le_warmup

variable (ctx)

/-- The three components of the bundle. -/
def line (source : DecimalSeries) : IndicatorSeries :=
  seriesOf ⟨"macd_line", "1", macd.parameters⟩ (macd.slowPeriod - 1) source.times
    (macd.lineValues ctx source.values)

@[inherit_doc line]
def signalLine (source : DecimalSeries) : IndicatorSeries :=
  seriesOf ⟨"macd_signal", "1", macd.parameters⟩ macd.warmupPoints source.times
    (macd.signalValues ctx source.values)

@[inherit_doc line]
def histogram (source : DecimalSeries) : IndicatorSeries :=
  seriesOf ⟨"macd_histogram", "1", macd.parameters⟩ macd.warmupPoints source.times
    (macd.histogramValues ctx source.values)

/-- The available part of the line begins where the slow average does. -/
theorem available_line (source : DecimalSeries) : (macd.line ctx source).available =
    List.zipWith SeriesPoint.mk (source.times.drop (macd.slowPeriod - 1))
      (macd.lineValues ctx source.values).reduceOption := by
  unfold line
  rw [available_seriesOf]
  exact (macd.missingBefore_lineValues source.values).filterMap_zip SeriesPoint.mk
    (by rw [macd.causal_lineValues.length, source.length_values])

theorem length_available (source : DecimalSeries) :
    (macd.lineValues ctx source.values).reduceOption.length =
      (source.times.drop (macd.slowPeriod - 1)).length := by
  rw [macd.delayed_available.length, source.length_values, List.length_drop]

theorem times_available (source : DecimalSeries) :
    (macd.line ctx source).available.map (·.eventTime) =
      source.times.drop (macd.slowPeriod - 1) := by
  rw [available_line, List.map_zipWith]
  have h := List.map_fst_zip (macd.length_available ctx source).ge
  rwa [List.zip_eq_zipWith, List.map_zipWith] at h

theorem values_available (source : DecimalSeries) :
    (macd.line ctx source).available.map (·.value) =
      (macd.lineValues ctx source.values).reduceOption := by
  rw [available_line, List.map_zipWith]
  have h := List.map_snd_zip (macd.length_available ctx source).le
  rwa [List.zip_eq_zipWith, List.map_zipWith] at h

/-- The available part of the line, as a source. -/
def compact (source : DecimalSeries) : DecimalSeries where
  points := (macd.line ctx source).available
  valid := by
    rw [times_available, chronological_iff]
    exact (chronological_iff.mp source.valid).drop _

/-- **The whole calculation**, step by step. -/
theorem calculate_eq_ok (source : DecimalSeries) : macd.calculate ctx source =
    .ok ⟨macd.descriptor, [("macd", macd.line ctx source), ("signal", macd.signalLine ctx source),
      ("histogram", macd.histogram ctx source)]⟩ := by
  have hline : (macd.lineValues ctx source.values).length = source.times.length := by
    rw [macd.causal_lineValues.length, source.length_values]
  have hsignal : (macd.signalValues ctx source.values).length = source.times.length := by
    rw [macd.causal_signalValues.length, source.length_values]
  have hhistogram : (macd.histogramValues ctx source.values).length = source.times.length := by
    rw [macd.causal_histogramValues.length, source.length_values]
  have hlength (ema : ExponentialMovingAverage) :
      (ema.values ctx source.values).length = source.times.length := by
    rw [ema.causal_values.length, source.length_values]
  have hpairs : (List.zip (seriesOf macd.fast.descriptor macd.fast.warmupPoints source.times
      (macd.fast.values ctx source.values)).points (seriesOf macd.slow.descriptor
        macd.slow.warmupPoints source.times (macd.slow.values ctx source.values)).points).mapM
          (fun p => lessAvailable ctx p.1.value p.2.value) =
        .ok (macd.lineValues ctx source.values) := by
    have h : ((macd.fast.values ctx source.values).zip (macd.slow.values ctx source.values)).mapM
        (fun p => lessAvailable ctx p.1 p.2) = .ok (macd.lineValues ctx source.values) :=
      mapM_lessAvailable ctx (macd.fast.missingBefore_values source.values)
        (macd.slow.missingBefore_values source.values) macd.fast_le_slow
    rwa [← map_value_seriesOf macd.fast.descriptor macd.fast.warmupPoints (hlength macd.fast),
      ← map_value_seriesOf macd.slow.descriptor macd.slow.warmupPoints (hlength macd.slow),
      List.zip_map, List.mapM_map] at h
  have hcompact : compactMacd source.times (macd.lineValues ctx source.values) =
      .ok (macd.compact ctx source) := by
    rw [compactMacd, zipStrict_eq_ok hline.symm, ok_bind]
    rw [← available_seriesOf ⟨"macd_line", "1", macd.parameters⟩ (macd.slowPeriod - 1),
      DecimalSeries.construct]
    exact dif_pos (macd.compact ctx source).valid
  have hvalues : List.replicate (min (macd.slowPeriod - 1) source.points.length) none ++
      (seriesOf macd.signal.descriptor macd.signal.warmupPoints (macd.compact ctx source).times
        (macd.signal.values ctx (macd.compact ctx source).values)).points.map (·.value) =
      macd.signalValues ctx source.values := by
    rw [map_value_seriesOf _ _ (by rw [macd.signal.causal_values.length, DecimalSeries.length_values]),
      signalValues, DecimalSeries.values, compact, values_available, DecimalSeries.values,
      List.length_map]
  unfold calculate
  rw [macd.fast.calculate_eq_ok ctx, ok_bind, macd.slow.calculate_eq_ok ctx, ok_bind,
    zipStrict_eq_ok (by simp [seriesOf, hlength]), ok_bind, hpairs, ok_bind, hcompact, ok_bind,
    macd.signal.calculate_eq_ok ctx, ok_bind]
  simp only [hvalues]
  rw [zipStrict_eq_ok (hline.trans hsignal.symm), ok_bind,
    mapM_lessAvailable ctx (macd.missingBefore_lineValues source.values)
      (macd.missingBefore_signalValues source.values) macd.line_le_warmup, ok_bind,
    alignedSeries_eq_ok hline source.chronological_times
      (macd.missingBefore_lineValues source.values), ok_bind,
    alignedSeries_eq_ok hsignal source.chronological_times
      (macd.missingBefore_signalValues source.values), ok_bind]
  change (alignedSeries _ _ _ (macd.histogramValues ctx source.values) >>= _) = _
  rw [alignedSeries_eq_ok hhistogram source.chronological_times
    (macd.missingBefore_histogramValues source.values), ok_bind]
  exact IndicatorBundle.construct_eq_ok (by decide) (by decide)
    (map_eventTime_seriesOf _ _ hline) (map_eventTime_seriesOf _ _ hsignal)
    (map_eventTime_seriesOf _ _ hhistogram)

/-- The components of a prefix. -/
theorem components_take (source : DecimalSeries) (k : ℕ) :
    macd.line ctx (source.take k) = (macd.line ctx source).take k ∧
      macd.signalLine ctx (source.take k) = (macd.signalLine ctx source).take k ∧
      macd.histogram ctx (source.take k) = (macd.histogram ctx source).take k := by
  unfold line signalLine histogram
  rw [source.times_take, source.values_take, macd.causal_lineValues.take,
    macd.causal_signalValues.take, macd.causal_histogramValues.take]
  exact ⟨(take_seriesOf _ _ k).symm, (take_seriesOf _ _ k).symm, (take_seriesOf _ _ k).symm⟩

/-- **The signal is the average of the available part of the line.** -/
theorem signalLine_eq (source : DecimalSeries) :
    (macd.signalLine ctx source).points.drop (macd.slowPeriod - 1) =
      (seriesOf macd.signal.descriptor macd.signal.warmupPoints (macd.compact ctx source).times
        (macd.signal.values ctx (macd.compact ctx source).values)).points := by
  have htimes : (macd.compact ctx source).times = source.times.drop (macd.slowPeriod - 1) :=
    macd.times_available ctx source
  have hvalues : (macd.signalValues ctx source.values).drop (macd.slowPeriod - 1) =
      macd.signal.values ctx (macd.compact ctx source).values := by
    have hcompact : (macd.compact ctx source).values =
        (macd.lineValues ctx source.values).reduceOption := macd.values_available ctx source
    rw [hcompact, signalValues]
    rcases Nat.lt_or_ge source.values.length (macd.slowPeriod - 1) with hlt | hge
    · rw [macd.delayed_available.short _ hlt.le, macd.signal.causal_values.nil, List.append_nil,
        List.drop_eq_nil_of_le (by rw [List.length_replicate]; omega)]
    · rw [min_eq_left hge, List.drop_left' List.length_replicate]
  unfold signalLine seriesOf
  rw [← List.map_drop, htimes, ← hvalues, List.zip_eq_zipWith, List.zip_eq_zipWith,
    List.drop_zipWith]

end MovingAverageConvergenceDivergence

end Indicators
end DryTrade
