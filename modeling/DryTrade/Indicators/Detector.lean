import DryTrade.Growth
import DryTrade.Indicators.Averages

/-!
# The batch detector of market regimes

`DeterministicMarketRegimeDetector.calculate` classifies a whole series of closed candles.  Candle
by candle the accumulator of `DryTrade.Indicators.Regime` keeps fixed-size state instead, and both
make the same points: what the accumulator holds after a prefix is computed from that prefix.

## Main definitions

* `MarketRegimeSeries`, `calculate` — the detector.
* `MarketRegimeAccumulator.feed` — the candles one by one.
* `stateAfter` — what the accumulator holds after some candles.

## Main results

* `update_stateAfter` — one candle more.
* `feed_eq_mapM` — the points of the accumulator are those of the detector's loop.
* `feed_eq_calculate` — the two agree, and a prefix has the points of the whole series.
-/

namespace DryTrade
namespace Indicators

open MarketData

/-- `warmup_points`. -/
def MarketRegimePolicy.warmupPoints (policy : MarketRegimePolicy) : ℕ :=
  max (policy.slowEmaPeriod - 1) (policy.atrPeriod - 1)

/-- A chronological series of classifications. -/
structure MarketRegimeSeries where
  policy : MarketRegimePolicy
  points : List MarketRegimePoint
  deriving DecidableEq

/-- `MarketRegimeSeries(...)`. -/
def MarketRegimeSeries.construct (policy : MarketRegimePolicy) (points : List MarketRegimePoint) :
    Except Failure MarketRegimeSeries := do
  FailureKind.invalidIndicatorInput.unless (chronological (points.map (·.eventTime)))
    "market-regime event times must be strictly chronological"
  let unavailable := min policy.warmupPoints points.length
  FailureKind.invalidIndicatorInput.unless
    ((points.take unavailable).all fun p => decide (p.regime = .warmup))
    "market-regime values must remain unavailable during warmup"
  FailureKind.invalidIndicatorInput.unless
    ((points.drop unavailable).all fun p => decide (p.regime ≠ .warmup))
    "market-regime values must be available after warmup"
  return ⟨policy, points⟩

/-- `_classify`. -/
def classify (fastEma slowEma atrRatio trendStrength : ℚ) (policy : MarketRegimePolicy) :
    MarketRegimeKind × TrendDirection :=
  if policy.volatileAtrRatio ≤ atrRatio then (.volatile, .none)
  else if policy.trendStrengthThreshold ≤ trendStrength ∧ fastEma ≠ slowEma then
    (.trend, if slowEma < fastEma then .up else .down)
  else (.range, .none)

section

variable (ctx : DecimalContext) (policy : MarketRegimePolicy)

/-- One turn of the detector's loop. -/
def regimePoint (candle : Candle) (fast slow atr : Option ℚ) : Except Failure MarketRegimePoint :=
  match fast, slow, atr with
  | some fastValue, some slowValue, some atrValue =>
    let atrRatio := ctx.round (ctx.div atrValue candle.close)
    let trendStrength :=
      if atrValue = 0 then 0 else ctx.round (ctx.div (ctx.abs (ctx.sub fastValue slowValue)) atrValue)
    let (regime, direction) := classify fastValue slowValue atrRatio trendStrength policy
    MarketRegimePoint.validate
      { eventTime := candle.closeTime
        regime := regime
        trendDirection := direction
        fastEma := some fastValue
        slowEma := some slowValue
        atr := some atrValue
        atrRatio := some atrRatio
        trendStrength := some trendStrength }
  | _, _, _ =>
    MarketRegimePoint.validate
      { eventTime := candle.closeTime
        regime := .warmup
        trendDirection := .none
        fastEma := none
        slowEma := none
        atr := none
        atrRatio := none
        trendStrength := none }

/-- `calculate`; the outputs of the indicators have the length of the source, so the strict zip
never raises. -/
def calculate (source : CandleSeries) : Except Failure MarketRegimeSeries := do
  FailureKind.invalidIndicatorInput.unless (source.candles.all fun c => decide (0 < c.close))
    "market-regime classification requires positive close prices"
  let closes ← DecimalSeries.fromCandles source.candles
  let fast ← exponentialMovingAverage ctx policy.fastEmaPeriod closes
  let slow ← exponentialMovingAverage ctx policy.slowEmaPeriod closes
  let atr ← averageTrueRange ctx policy.atrPeriod source
  let points ← (source.candles.zip (fast.points.zip (slow.points.zip atr.points))).mapM
    fun (candle, fastPoint, slowPoint, atrPoint) =>
      regimePoint ctx policy candle fastPoint.value slowPoint.value atrPoint.value
  MarketRegimeSeries.construct policy points

/-- The candles one by one: the points, and the accumulator after them. -/
def MarketRegimeAccumulator.feed (acc : MarketRegimeAccumulator) (candles : List Candle) :
    Except Failure (List MarketRegimePoint × MarketRegimeAccumulator) :=
  candles.foldlM
    (fun (points, acc) candle => do
      let (point, acc) ← acc.update ctx candle
      pure (points ++ [point], acc))
    ([], acc)

/-! ### The state of the accumulator -/

/-- The values of the fast average over some candles. -/
def fastValues (cs : List Candle) : List (Option ℚ) :=
  seededAverage ctx (emaStep ctx policy.fastEmaPeriod) policy.fastEmaPeriod (cs.map (·.close))

/-- The values of the slow average over some candles. -/
def slowValues (cs : List Candle) : List (Option ℚ) :=
  seededAverage ctx (emaStep ctx policy.slowEmaPeriod) policy.slowEmaPeriod (cs.map (·.close))

/-- The values of the average true range over some candles. -/
def atrValues (cs : List Candle) : List (Option ℚ) :=
  seededAverage ctx (atrStep ctx policy.atrPeriod) policy.atrPeriod (trueRanges ctx cs)

/-- What the accumulator holds after some candles. -/
def stateAfter (cs : List Candle) : MarketRegimeAccumulator where
  policy := policy
  count := cs.length
  previousCandle := cs.getLast?
  fastSeed := runningSeed ctx policy.fastEmaPeriod (cs.map (·.close))
  slowSeed := runningSeed ctx policy.slowEmaPeriod (cs.map (·.close))
  atrSeed := runningSeed ctx policy.atrPeriod (trueRanges ctx cs)
  fastEma := lastValue ctx (emaStep ctx policy.fastEmaPeriod) policy.fastEmaPeriod
    (cs.map (·.close))
  slowEma := lastValue ctx (emaStep ctx policy.slowEmaPeriod) policy.slowEmaPeriod
    (cs.map (·.close))
  atr := lastValue ctx (atrStep ctx policy.atrPeriod) policy.atrPeriod (trueRanges ctx cs)

/-- The rows of the detector's loop. -/
def rows (cs : List Candle) : List (Candle × Option ℚ × Option ℚ × Option ℚ) :=
  cs.zip ((fastValues ctx policy cs).zip ((slowValues ctx policy cs).zip (atrValues ctx policy cs)))

/-- The loop of the detector over the values of some candles. -/
def points (cs : List Candle) : Except Failure (List MarketRegimePoint) :=
  (rows ctx policy cs).mapM fun (candle, fast, slow, atr) =>
    regimePoint ctx policy candle fast slow atr

variable {ctx policy}

theorem pointFor_eq (candle : Candle) (fast slow atr : Option ℚ) :
    pointFor ctx candle fast slow atr policy = regimePoint ctx policy candle fast slow atr := rfl

theorem slowEmaPeriod_pos (policy : MarketRegimePolicy) : 1 ≤ policy.slowEmaPeriod :=
  policy.fastEmaPeriod_pos.trans policy.fast_lt_slow.le

theorem fastValues_length (cs : List Candle) : (fastValues ctx policy cs).length = cs.length := by
  rw [fastValues, seededAverage_length policy.fastEmaPeriod_pos, List.length_map]

theorem slowValues_length (cs : List Candle) : (slowValues ctx policy cs).length = cs.length := by
  rw [slowValues, seededAverage_length (slowEmaPeriod_pos policy), List.length_map]

theorem atrValues_length (cs : List Candle) : (atrValues ctx policy cs).length = cs.length := by
  rw [atrValues, seededAverage_length policy.atrPeriod_pos, trueRanges_length]

theorem rows_concat (hround : ∀ q, ctx.round (ctx.round q) = ctx.round q) (cs : List Candle)
    (c : Candle) :
    rows ctx policy (cs ++ [c]) = rows ctx policy cs ++
      [(c, (stateAfter ctx policy (cs ++ [c])).fastEma, (stateAfter ctx policy (cs ++ [c])).slowEma,
        (stateAfter ctx policy (cs ++ [c])).atr)] := by
  have hfast : fastValues ctx policy (cs ++ [c]) =
      fastValues ctx policy cs ++ [(stateAfter ctx policy (cs ++ [c])).fastEma] := by
    simp only [fastValues, stateAfter, List.map_append, List.map_singleton]
    exact seededAverage_concat_lastValue _ _ _ hround policy.fastEmaPeriod_pos
  have hslow : slowValues ctx policy (cs ++ [c]) =
      slowValues ctx policy cs ++ [(stateAfter ctx policy (cs ++ [c])).slowEma] := by
    simp only [slowValues, stateAfter, List.map_append, List.map_singleton]
    exact seededAverage_concat_lastValue _ _ _ hround (slowEmaPeriod_pos policy)
  have hatr : atrValues ctx policy (cs ++ [c]) =
      atrValues ctx policy cs ++ [(stateAfter ctx policy (cs ++ [c])).atr] := by
    simp only [atrValues, stateAfter, trueRanges_concat]
    exact seededAverage_concat_lastValue _ _ _ hround policy.atrPeriod_pos
  rw [rows, hfast, hslow, hatr, List.zip_append (by rw [slowValues_length, atrValues_length]),
    List.zip_append (by simp [fastValues_length, slowValues_length, atrValues_length]),
    List.zip_append (by simp [fastValues_length, slowValues_length, atrValues_length])]
  rfl

/-- **One candle more.**  After the candles of a series, the accumulator classifies the next one
as the detector's loop does, and holds what it computes from the longer series. -/
theorem update_stateAfter (hround : ∀ q, ctx.round (ctx.round q) = ctx.round q) (cs : List Candle)
    (c : Candle) (hvalid : validateCandleSeries (cs ++ [c]) = .ok ()) (hclose : 0 < c.close) :
    (stateAfter ctx policy cs).update ctx c =
      (regimePoint ctx policy c (stateAfter ctx policy (cs ++ [c])).fastEma
        (stateAfter ctx policy (cs ++ [c])).slowEma (stateAfter ctx policy (cs ++ [c])).atr).map
          fun point => (point, stateAfter ctx policy (cs ++ [c])) := by
  have hpair : validateCandleSeries (cs.getLast?.toList ++ [c]) = .ok () := by
    refine validateCandleSeries_infix hvalid (List.IsSuffix.isInfix ?_)
    cases hlast : cs.getLast? with
    | none => exact ⟨cs, rfl⟩
    | some d =>
      obtain ⟨init, rfl⟩ := List.getLast?_eq_some_iff.mp hlast
      exact ⟨init, by simp⟩
  have hfast := nextAverage_eq (emaStep ctx policy.fastEmaPeriod) (cs.map (·.close)) c.close hround
    policy.fastEmaPeriod_pos
  have hslow := nextAverage_eq (emaStep ctx policy.slowEmaPeriod) (cs.map (·.close)) c.close hround
    (slowEmaPeriod_pos policy)
  have hatr := nextAverage_eq (atrStep ctx policy.atrPeriod) (trueRanges ctx cs)
    (trueRange ctx c cs.getLast?) hround policy.atrPeriod_pos
  rw [List.length_map] at hfast hslow
  rw [trueRanges_length] at hatr
  have hstate : (stateAfter ctx policy cs).previousCandle = cs.getLast? := rfl
  unfold MarketRegimeAccumulator.update
  rw [hstate, hpair]
  simp only [hclose, decide_true, FailureKind.unless, if_true, ok_bind, pointFor_eq, nextEma_eq,
    nextAtr_eq]
  simp only [stateAfter, hfast, hslow, hatr, trueRanges_concat, List.map_append,
    List.map_singleton, List.length_append, List.length_singleton, List.getLast?_concat]
  rfl

theorem stateAfter_nil : stateAfter ctx policy [] = MarketRegimeAccumulator.init policy := by
  unfold stateAfter MarketRegimeAccumulator.init
  simp only [List.map_nil, trueRanges, trueRangesFrom, lastValue_nil policy.fastEmaPeriod_pos,
    lastValue_nil (slowEmaPeriod_pos policy), lastValue_nil policy.atrPeriod_pos, runningSeed,
    List.take_nil, List.foldl_nil, List.length_nil, List.getLast?_nil]

theorem points_concat (hround : ∀ q, ctx.round (ctx.round q) = ctx.round q) (cs : List Candle)
    (c : Candle) :
    points ctx policy (cs ++ [c]) = (do
      let ps ← points ctx policy cs
      let p ← regimePoint ctx policy c (stateAfter ctx policy (cs ++ [c])).fastEma
        (stateAfter ctx policy (cs ++ [c])).slowEma (stateAfter ctx policy (cs ++ [c])).atr
      pure (ps ++ [p])) := by
  rw [points, rows_concat hround, List.mapM_append, points]
  simp only [List.mapM_cons, List.mapM_nil, bind_assoc, pure_bind]

/-- **The loop of the accumulator.**  Fed the candles of a series, it makes the points of the
detector's loop. -/
theorem feed_eq_points (hround : ∀ q, ctx.round (ctx.round q) = ctx.round q) (cs : List Candle)
    (hvalid : validateCandleSeries cs = .ok ()) (hclose : ∀ c ∈ cs, 0 < c.close) :
    (MarketRegimeAccumulator.init policy).feed ctx cs =
      (points ctx policy cs).map fun ps => (ps, stateAfter ctx policy cs) := by
  induction cs using List.reverseRecOn with
  | nil =>
    rw [stateAfter_nil]
    rfl
  | append_singleton cs c ih =>
    have hpre := validateCandleSeries_infix hvalid (List.prefix_append cs [c]).isInfix
    have hfed := ih hpre fun d hd => hclose d (List.mem_append_left _ hd)
    have hupdate : (stateAfter ctx policy cs).update ctx c = _ :=
      update_stateAfter hround cs c hvalid (hclose c (by simp))
    unfold MarketRegimeAccumulator.feed at hfed ⊢
    rw [List.foldlM_append, hfed, points_concat hround]
    cases points ctx policy cs with
    | error e => rfl
    | ok ps =>
      simp only [Except.map, ok_bind, List.foldlM_cons, List.foldlM_nil, hupdate]
      cases regimePoint ctx policy c (stateAfter ctx policy (cs ++ [c])).fastEma
        (stateAfter ctx policy (cs ++ [c])).slowEma (stateAfter ctx policy (cs ++ [c])).atr with
      | error e => rfl
      | ok p => rfl

/-! ### The checks of the output -/

theorem MarketRegimePoint.validate_eq_ok {p q : MarketRegimePoint} (h : p.validate = .ok q) :
    q = p := by
  unfold validate at h
  split at h
  · simp only [bind_eq_ok, FailureKind.unless_eq_ok, exists_const, pure, Except.pure,
      Except.ok.injEq] at h
    exact h.2.symm
  · simp only [bind_eq_ok, FailureKind.unless_eq_ok, exists_const, pure, Except.pure] at h
    obtain ⟨-, -, -, h⟩ := h
    split at h
    · simp only [bind_eq_ok, FailureKind.unless_eq_ok, exists_const, Except.ok.injEq] at h
      exact h.2.symm
    · simp only [bind_eq_ok, FailureKind.unless_eq_ok, exists_const, Except.ok.injEq] at h
      exact h.2.symm

theorem classify_ne_warmup {fast slow atrRatio trendStrength : ℚ} :
    (classify fast slow atrRatio trendStrength policy).1 ≠ .warmup := by
  unfold classify
  split
  · nofun
  · split <;> nofun

/-- A point that is made carries the time of its candle, and is unclassified exactly where an
average is unavailable. -/
theorem regimePoint_eq_ok {candle : Candle} {fast slow atr : Option ℚ} {p : MarketRegimePoint}
    (h : regimePoint ctx policy candle fast slow atr = .ok p) :
    p.eventTime = candle.closeTime ∧ (p.regime = .warmup ↔
      fast.isNone = true ∨ slow.isNone = true ∨ atr.isNone = true) := by
  unfold regimePoint at h
  split at h
  · obtain rfl := MarketRegimePoint.validate_eq_ok h
    exact ⟨rfl, iff_of_false classify_ne_warmup (by simp)⟩
  · next hunavailable =>
    obtain rfl := MarketRegimePoint.validate_eq_ok h
    refine ⟨rfl, iff_of_true rfl ?_⟩
    cases fast with
    | none => exact .inl rfl
    | some f =>
      cases slow with
      | none => exact .inr (.inl rfl)
      | some s =>
        cases atr with
        | none => exact .inr (.inr rfl)
        | some a => exact (hunavailable f s a rfl rfl rfl).elim

/-- The points of the loop pass the checks of the series. -/
theorem construct_points {source : CandleSeries} {ps : List MarketRegimePoint}
    (h : points ctx policy source.candles = .ok ps) :
    MarketRegimeSeries.construct policy ps = .ok ⟨policy, ps⟩ := by
  have hall := forall₂_of_mapM h
  have hlength : source.candles.length ≤ ((fastValues ctx policy source.candles).zip
      ((slowValues ctx policy source.candles).zip (atrValues ctx policy source.candles))).length := by
    simp [fastValues_length, slowValues_length, atrValues_length]
  have htimes : ps.map (·.eventTime) = source.candles.map (·.closeTime) := by
    have hrows : (rows ctx policy source.candles).map (·.1.closeTime) =
        source.candles.map (·.closeTime) := by
      rw [rows, ← List.map_fst_zip hlength, List.map_map, List.map_fst_zip hlength]
      rfl
    rw [← hrows, eq_comm, ← List.forall₂_eq_eq_eq, List.forall₂_map_left_iff,
      List.forall₂_map_right_iff]
    exact hall.imp fun row p hp => (regimePoint_eq_ok hp).1.symm
  -- an average is unavailable before its period, and the slow period is the longer one
  have hindex : ∀ i p, ps[i]? = some p →
      (decide (p.regime = .warmup) = true ↔ i < policy.warmupPoints) := by
    intro i p hi
    obtain ⟨⟨c, fast, slow, atr⟩, hrow, hp⟩ := exists_of_forall₂ hall hi
    obtain ⟨-, hrow⟩ := List.getElem?_zip_eq_some.mp hrow
    obtain ⟨hfast, hrow⟩ := List.getElem?_zip_eq_some.mp hrow
    obtain ⟨hslow, hatr⟩ := List.getElem?_zip_eq_some.mp hrow
    rw [decide_eq_true_iff, (regimePoint_eq_ok hp).2, seededAverage_isNone hfast,
      seededAverage_isNone hslow, seededAverage_isNone hatr, MarketRegimePolicy.warmupPoints]
    have hperiods := policy.fast_lt_slow
    omega
  obtain ⟨hbefore, hafter⟩ := warmup_checks hindex
  simp only [MarketRegimeSeries.construct, bind_eq_ok, FailureKind.unless_eq_ok, exists_const,
    List.all_eq_true, pure, Except.pure]
  refine ⟨by rw [htimes]; exact source.chronological, hbefore, fun p hp => ?_, trivial⟩
  simpa using hafter p hp

/-- The values of the points of an indicator. -/
theorem map_value_zip {α : Type} (time : α → Instant) (items : List α) (values : List (Option ℚ))
    (hlength : values.length ≤ items.length) :
    ((items.zip values).map fun (a, v) => (⟨time a, v⟩ : IndicatorPoint)).map (·.value) =
      values := by
  rw [List.map_map]
  exact List.map_snd_zip hlength

/-- The loop of the detector reads the values of the indicators only. -/
theorem mapM_regimePoint {cs : List Candle} {fast slow atr : List IndicatorPoint}
    (hfast : fast.map (·.value) = fastValues ctx policy cs)
    (hslow : slow.map (·.value) = slowValues ctx policy cs)
    (hatr : atr.map (·.value) = atrValues ctx policy cs) :
    ((cs.zip (fast.zip (slow.zip atr))).mapM fun (candle, fastPoint, slowPoint, atrPoint) =>
      regimePoint ctx policy candle fastPoint.value slowPoint.value atrPoint.value) =
      points ctx policy cs := by
  rw [points, rows, ← hfast, ← hslow, ← hatr, List.zip_map, List.zip_map, List.zip_map_right,
    List.mapM_map]
  rfl

/-- What the detector computes. -/
theorem calculate_eq_points (source : CandleSeries) (hclose : ∀ c ∈ source.candles, 0 < c.close) :
    calculate ctx policy source =
      (points ctx policy source.candles).map fun ps => ⟨policy, ps⟩ := by
  obtain ⟨closes, hcloses, hpoints⟩ := fromCandles_eq_ok source
  have hpositive : source.candles.all (fun c => decide (0 < c.close)) = true := by
    simpa using hclose
  have hvalues : closes.points.map (·.value) = source.candles.map (·.close) := by
    rw [hpoints, List.map_map]
    rfl
  have hfast := map_value_zip (fun p : SeriesPoint => p.eventTime) closes.points
    (fastValues ctx policy source.candles) (by rw [hpoints, fastValues_length, List.length_map])
  have hslow := map_value_zip (fun p : SeriesPoint => p.eventTime) closes.points
    (slowValues ctx policy source.candles) (by rw [hpoints, slowValues_length, List.length_map])
  have hatr := map_value_zip (fun c : Candle => c.closeTime) source.candles
    (atrValues ctx policy source.candles) (by rw [atrValues_length])
  have hloop := mapM_regimePoint hfast hslow hatr
  unfold calculate
  rw [hpositive, hcloses]
  simp only [FailureKind.unless, if_true, ok_bind,
    exponentialMovingAverage_eq_ok policy.fastEmaPeriod_pos,
    exponentialMovingAverage_eq_ok (slowEmaPeriod_pos policy),
    averageTrueRange_eq_ok policy.atrPeriod_pos, hvalues]
  refine (congrArg (· >>= MarketRegimeSeries.construct policy) hloop).trans ?_
  cases hps : points ctx policy source.candles with
  | error e => rfl
  | ok ps => exact construct_points hps

theorem points_length {cs : List Candle} {ps : List MarketRegimePoint}
    (h : points ctx policy cs = .ok ps) : ps.length = cs.length := by
  rw [← (forall₂_of_mapM h).length_eq, rows]
  simp [fastValues_length, slowValues_length, atrValues_length]

/-- A prefix of the candles has the prefix of the points. -/
theorem points_take {cs : List Candle} {ps : List MarketRegimePoint}
    (hround : ∀ q, ctx.round (ctx.round q) = ctx.round q) (h : points ctx policy cs = .ok ps)
    (n : ℕ) : points ctx policy (cs.take n) = .ok (ps.take n) := by
  have hpre : ∀ (first rest : List Candle) (ps : List MarketRegimePoint),
      points ctx policy (first ++ rest) = .ok ps →
        points ctx policy first = .ok (ps.take first.length) := by
    intro first rest
    induction rest using List.reverseRecOn with
    | nil =>
      intro ps hps
      rw [List.append_nil] at hps
      rw [hps, ← points_length hps, List.take_length]
    | append_singleton rest c ih =>
      intro ps hps
      rw [← List.append_assoc, points_concat hround, bind_eq_ok] at hps
      obtain ⟨ps', hps', hlast⟩ := hps
      obtain ⟨p, -, hpure⟩ := bind_eq_ok.mp hlast
      cases hpure
      have hlength := points_length hps'
      rw [List.length_append] at hlength
      rw [ih ps' hps', List.take_append_of_le_length (by omega)]
  have htake := hpre (cs.take n) (cs.drop n) ps (by rwa [List.take_append_drop])
  rw [htake, List.length_take, ← points_length h, ← List.take_eq_take_min]

/-- **The accumulator is the detector.**  With any idempotent rounding, the candles of a valid
series of positive closes, fed one by one, give the points of the detector, or its failure; and
what the detector makes of a prefix is the prefix of what it makes of the whole series. -/
theorem feed_eq_calculate (hround : ∀ q, ctx.round (ctx.round q) = ctx.round q)
    (policy : MarketRegimePolicy) (source : CandleSeries)
    (hclose : ∀ c ∈ source.candles, 0 < c.close) :
    ((MarketRegimeAccumulator.init policy).feed ctx source.candles).map (·.1) =
        (calculate ctx policy source).map (·.points) ∧
      ∀ series, calculate ctx policy source = .ok series →
        ∀ n, calculate ctx policy (source.take n) = .ok ⟨policy, series.points.take n⟩ := by
  constructor
  · rw [feed_eq_points hround _ source.valid hclose, calculate_eq_points source hclose]
    cases points ctx policy source.candles <;> rfl
  · intro series hseries n
    rw [calculate_eq_points source hclose] at hseries
    cases hps : points ctx policy source.candles with
    | error e =>
      rw [hps] at hseries
      cases hseries
    | ok ps =>
      rw [hps] at hseries
      cases hseries
      rw [calculate_eq_points _ fun c hc => hclose c (List.mem_of_mem_take hc)]
      exact congrArg (Except.map _) (points_take hround hps n)

/-- Three rising days, under periods one, two and one. -/
theorem feed_eq_calculate_three :
    ∃ (policy : MarketRegimePolicy) (source : CandleSeries) (series : MarketRegimeSeries),
      source.candles.length = 3 ∧ calculate .exact policy source = .ok series ∧
        ((MarketRegimeAccumulator.init policy).feed .exact source.candles).map (·.1) =
          .ok series.points ∧
        calculate .exact policy (source.take 2) = .ok ⟨policy, series.points.take 2⟩ := by
  let policy : MarketRegimePolicy :=
    ⟨1, 2, 1, 1, 1 / 4, by decide, by decide, by decide, by decide, by norm_num⟩
  let source : CandleSeries :=
    ⟨[dailyCandle 0 10 11, dailyCandle 1 11 12, dailyCandle 2 12 14], by decide +kernel⟩
  have hclose : ∀ c ∈ source.candles, 0 < c.close := by decide +kernel
  obtain ⟨hfeed, htake⟩ := @feed_eq_calculate .exact (fun _ => rfl) policy source hclose
  have hok : (calculate .exact policy source).isOk = true := by decide +kernel
  obtain ⟨series, hseries⟩ := isOk_iff.mp hok
  exact ⟨policy, source, series, rfl, hseries, hfeed.trans (by rw [hseries]; rfl),
    htake series hseries 2⟩

end

end Indicators
end DryTrade
