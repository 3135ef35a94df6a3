import DryTrade.Indicators.Regime

/-!
# Indicators over whole series

The exponential moving average and the average true range of a whole series of closed candles.
Both are unavailable for the first points, start from the mean of the first `period` values and
then follow a recurrence, so both are one average with a step of its own; and the average of a
longer series extends the one of its prefix.

## Main definitions

* `CandleSeries`, `DecimalSeries`, `IndicatorSeries` — series that pass their checks.
* `seededAverage` — the values of an average with a given recurrence.
* `exponentialMovingAverage`, `averageTrueRange` — the two indicators.

## Main results

* `seededAverage_concat` — one more value, computed from the state of the accumulator.
* `exponentialMovingAverage_eq_ok`, `averageTrueRange_eq_ok` — the checks of the output pass.
-/

namespace DryTrade
namespace Indicators

open MarketData

/-! ### Series -/

/-- Consecutive times increase. -/
def chronological (times : List Instant) : Bool :=
  (times.zip times.tail).all fun (left, right) => decide (left < right)

/-- A series of closed candles. -/
structure CandleSeries where
  candles : List Candle
  valid : validateCandleSeries candles = .ok ()

/-- A value known at a time. -/
structure SeriesPoint where
  eventTime : Instant
  value : ℚ
  deriving DecidableEq, Repr

/-- A chronological series of values. -/
structure DecimalSeries where
  points : List SeriesPoint
  valid : chronological (points.map (·.eventTime)) = true

/-- `DecimalSeries(...)`. -/
def DecimalSeries.construct (points : List SeriesPoint) : Except Failure DecimalSeries :=
  if h : chronological (points.map (·.eventTime)) = true then .ok ⟨points, h⟩
  else FailureKind.invalidIndicatorInput.raiseWith
    "series event times must be strictly chronological"

/-- `DecimalSeries.from_candles(candles, field="close")`. -/
def DecimalSeries.fromCandles (candles : List Candle) : Except Failure DecimalSeries := do
  validateCandleSeries candles
  DecimalSeries.construct (candles.map fun c => ⟨c.closeTime, c.close⟩)

/-- A parameter of an indicator. -/
inductive IndicatorParameterValue
  | integer (n : ℕ)
  | decimal (d : ℚ)
  deriving DecidableEq, Repr

/-- The name of an indicator and its parameters. -/
structure IndicatorDescriptor where
  name : String
  version : String
  parameters : List (String × IndicatorParameterValue)
  deriving DecidableEq, Repr

/-- A value of an indicator; none during the warmup. -/
structure IndicatorPoint where
  eventTime : Instant
  value : Option ℚ
  deriving DecidableEq, Repr

/-- The output of an indicator, aligned to its source. -/
structure IndicatorSeries where
  descriptor : IndicatorDescriptor
  warmupPoints : ℕ
  points : List IndicatorPoint
  deriving DecidableEq

/-- `IndicatorSeries(...)`. -/
def IndicatorSeries.construct (descriptor : IndicatorDescriptor) (warmupPoints : ℕ)
    (points : List IndicatorPoint) : Except Failure IndicatorSeries := do
  FailureKind.invalidIndicatorInput.unless (chronological (points.map (·.eventTime)))
    "indicator event times must be strictly chronological"
  let unavailable := min warmupPoints points.length
  FailureKind.invalidIndicatorInput.unless ((points.take unavailable).all (·.value.isNone))
    "indicator values must remain unavailable during warmup"
  FailureKind.invalidIndicatorInput.unless ((points.drop unavailable).all (·.value.isSome))
    "indicator values must be available after warmup"
  return ⟨descriptor, warmupPoints, points⟩

/-! ### Averages -/

section

variable (ctx : DecimalContext) (step : ℚ → ℚ → ℚ)

/-- The values of a recurrence after `previous`. -/
def smooth : ℚ → List ℚ → List (Option ℚ)
  | _, [] => []
  | previous, x :: xs => some (step previous x) :: smooth (step previous x) xs

/-- The mean of the first values. -/
def meanSeed (period : ℕ) (xs : List ℚ) : ℚ :=
  ctx.round (ctx.div ((xs.take period).foldl ctx.add 0) period)

/-- An average that is seeded by the mean of the first `period` values. -/
def seededAverage (period : ℕ) (xs : List ℚ) : List (Option ℚ) :=
  List.replicate (min (period - 1) xs.length) none ++
    if period ≤ xs.length then
      some (meanSeed ctx period xs) :: smooth step (meanSeed ctx period xs) (xs.drop period)
    else []

/-- The recurrence of the exponential moving average. -/
def emaStep (period : ℕ) (previous close : ℚ) : ℚ :=
  let alpha := ctx.round (ctx.div 2 (period + 1))
  ctx.round (ctx.add previous (ctx.mul alpha (ctx.sub close previous)))

/-- The recurrence of the Wilder average. -/
def atrStep (period : ℕ) (previous range : ℚ) : ℚ :=
  ctx.round (ctx.div (ctx.add (ctx.mul previous ((period : ℚ) - 1)) range) period)

/-- `ExponentialMovingAverage(period).calculate`; the lengths of the source and the values agree
(`seededAverage_length`), so the strict zip never raises. -/
def exponentialMovingAverage (period : ℕ) (source : DecimalSeries) :
    Except Failure IndicatorSeries :=
  let values := seededAverage ctx (emaStep ctx period) period (source.points.map (·.value))
  IndicatorSeries.construct ⟨"ema", "1", [("period", .integer period)]⟩ (period - 1)
    ((source.points.zip values).map fun (p, value) => ⟨p.eventTime, value⟩)

/-- The loop of `_true_ranges`, after the close `previousClose`. -/
def trueRangesFrom : Option ℚ → List Candle → List ℚ
  | _, [] => []
  | previousClose, c :: cs =>
    let intrabarRange := ctx.sub c.high c.low
    let range :=
      match previousClose with
      | none => intrabarRange
      | some close => max (max intrabarRange (ctx.abs (ctx.sub c.high close)))
          (ctx.abs (ctx.sub c.low close))
    ctx.round range :: trueRangesFrom (some c.close) cs

/-- `_true_ranges`. -/
def trueRanges (candles : List Candle) : List ℚ := trueRangesFrom ctx none candles

/-- `AverageTrueRange(period).calculate`. -/
def averageTrueRange (period : ℕ) (source : CandleSeries) : Except Failure IndicatorSeries :=
  let values := seededAverage ctx (atrStep ctx period) period (trueRanges ctx source.candles)
  IndicatorSeries.construct ⟨"atr", "1", [("period", .integer period)]⟩ (period - 1)
    ((source.candles.zip values).map fun (c, value) => ⟨c.closeTime, value⟩)

/-! ### One more value -/

variable {ctx step} {period : ℕ} {xs : List ℚ} {x : ℚ}

theorem smooth_length (previous : ℚ) (xs : List ℚ) :
    (smooth step previous xs).length = xs.length := by
  induction xs generalizing previous with
  | nil => rfl
  | cons x xs ih => simp [smooth, ih]

theorem smooth_concat (previous : ℚ) (xs : List ℚ) (x : ℚ) :
    smooth step previous (xs ++ [x]) =
      smooth step previous xs ++ [some (step (xs.foldl step previous) x)] := by
  induction xs generalizing previous with
  | nil => rfl
  | cons y ys ih => simp [smooth, ih]

/-- The last value of a recurrence. -/
theorem getLast?_smooth (previous : ℚ) (xs : List ℚ) :
    (some previous :: smooth step previous xs).getLast? = some (some (xs.foldl step previous)) := by
  induction xs generalizing previous with
  | nil => rfl
  | cons x xs ih =>
    rw [smooth, List.getLast?_cons_cons]
    exact ih (step previous x)

theorem seededAverage_length (hperiod : 1 ≤ period) :
    (seededAverage ctx step period xs).length = xs.length := by
  unfold seededAverage
  split
  · simp only [List.length_append, List.length_replicate, List.length_cons, smooth_length,
      List.length_drop]
    omega
  · simp only [List.append_nil, List.length_replicate]
    omega

/-- A value is unavailable during the warmup and nowhere else. -/
theorem seededAverage_isNone {i : ℕ} {v : Option ℚ}
    (h : (seededAverage ctx step period xs)[i]? = some v) :
    v.isNone = true ↔ i < period - 1 := by
  have hsome : ∀ (previous : ℚ) (ys : List ℚ), ∀ v ∈ smooth step previous ys, v.isSome = true := by
    intro previous ys
    induction ys generalizing previous with
    | nil => simp [smooth]
    | cons y ys ih => simpa [smooth] using ih (step previous y)
  unfold seededAverage at h
  rw [List.getElem?_append] at h
  split at h
  · next hi =>
    rw [List.length_replicate] at hi
    rw [List.getElem?_replicate, if_pos hi] at h
    cases h
    exact iff_of_true rfl (by omega)
  · next hi =>
    rw [List.length_replicate] at hi
    have hmem := List.mem_of_getElem? h
    split at hmem
    · have hv : v.isSome = true := by
        rcases List.mem_cons.mp hmem with rfl | hmem
        · rfl
        · exact hsome _ _ v hmem
      exact iff_of_false (by cases v <;> simp_all) (by omega)
    · cases hmem

/-- The state of the accumulator after `xs`: the running seed of an average. -/
def runningSeed (ctx : DecimalContext) (period : ℕ) (xs : List ℚ) : ℚ :=
  (xs.take period).foldl ctx.add 0

/-- The state of the accumulator after `xs`: the last value of an average. -/
def lastValue (ctx : DecimalContext) (step : ℚ → ℚ → ℚ) (period : ℕ) (xs : List ℚ) : Option ℚ :=
  (seededAverage ctx step period xs).getLast?.join

theorem lastValue_nil (hperiod : 1 ≤ period) : lastValue ctx step period [] = none := by
  unfold lastValue seededAverage
  rw [if_neg (by rw [List.length_nil]; omega)]
  simp

/-- One step of an average. -/
def nextAverage (ctx : DecimalContext) (step : ℚ → ℚ → ℚ) (x : ℚ) (count period : ℕ) (seed : ℚ)
    (previous : Option ℚ) : Option ℚ × ℚ :=
  let seed := if count ≤ period then ctx.round (ctx.add seed x) else seed
  if count < period then (none, seed)
  else if count = period then (some (ctx.round (ctx.div seed period)), seed)
  else (previous.map fun p => step p x, seed)

theorem nextEma_eq (close : ℚ) (count period : ℕ) (seed : ℚ) (previous : Option ℚ) :
    nextEma ctx close count period seed previous =
      nextAverage ctx (emaStep ctx period) close count period seed previous := rfl

theorem nextAtr_eq (range : ℚ) (count period : ℕ) (seed : ℚ) (previous : Option ℚ) :
    nextAtr ctx range count period seed previous =
      nextAverage ctx (atrStep ctx period) range count period seed previous := rfl

/-- **One more value.**  With an idempotent rounding, the step of the accumulator extends the
values of the whole series and keeps its own state. -/
theorem seededAverage_concat (step : ℚ → ℚ → ℚ) (xs : List ℚ) (x : ℚ)
    (hround : ∀ q, ctx.round (ctx.round q) = ctx.round q) (hperiod : 1 ≤ period) :
    seededAverage ctx step period (xs ++ [x]) = seededAverage ctx step period xs ++
        [(nextAverage ctx step x (xs.length + 1) period (runningSeed ctx period xs)
          (lastValue ctx step period xs)).1] ∧
      runningSeed ctx period (xs ++ [x]) =
        (nextAverage ctx step x (xs.length + 1) period (runningSeed ctx period xs)
          (lastValue ctx step period xs)).2 := by
  have hadd : ∀ a b, ctx.round (ctx.add a b) = ctx.add a b := fun a b => hround _
  have hseed : runningSeed ctx period (xs ++ [x]) =
      if xs.length + 1 ≤ period then ctx.round (ctx.add (runningSeed ctx period xs) x)
      else runningSeed ctx period xs := by
    unfold runningSeed
    split
    · next h =>
      rw [List.take_of_length_le (by simpa using h), List.take_of_length_le (by omega),
        List.foldl_concat, hadd]
    · next h => rw [List.take_append_of_le_length (by omega)]
  unfold nextAverage
  rw [← hseed]
  rcases Nat.lt_trichotomy (xs.length + 1) period with hlt | heq | hgt
  · rw [if_pos hlt]
    refine ⟨?_, rfl⟩
    unfold seededAverage
    rw [if_neg (by simpa using hlt), if_neg (by omega), List.append_nil, List.append_nil,
      min_eq_right (by simp; omega), min_eq_right (by omega), List.length_append,
      List.length_singleton, List.replicate_succ']
  · rw [if_neg (by omega), if_pos heq]
    refine ⟨?_, rfl⟩
    unfold seededAverage
    rw [if_pos (by simp [heq]), if_neg (by omega), List.append_nil, List.length_append,
      List.length_singleton, min_eq_left (by omega), min_eq_left (by omega),
      List.drop_eq_nil_of_le (by simp [heq])]
    rfl
  · rw [if_neg (by omega), if_neg (by omega)]
    refine ⟨?_, rfl⟩
    have hmean : meanSeed ctx period (xs ++ [x]) = meanSeed ctx period xs := by
      unfold meanSeed
      rw [List.take_append_of_le_length (by omega)]
    have hlast : lastValue ctx step period xs =
        some ((xs.drop period).foldl step (meanSeed ctx period xs)) := by
      unfold lastValue seededAverage
      rw [if_pos (by omega), List.getLast?_append, getLast?_smooth]
      rfl
    rw [hlast]
    unfold seededAverage
    rw [if_pos (by simp; omega), if_pos (by omega), hmean, List.drop_append_of_le_length (by omega),
      smooth_concat, List.length_append, List.length_singleton, min_eq_left (by omega),
      min_eq_left (by omega)]
    simp only [Option.map_some, List.append_assoc, List.cons_append]

/-- One more true range, computed from the candle before. -/
theorem trueRanges_concat (cs : List Candle) (c : Candle) :
    trueRanges ctx (cs ++ [c]) = trueRanges ctx cs ++ [trueRange ctx c cs.getLast?] := by
  have hfrom : ∀ (cs : List Candle) (previous : Option Candle),
      trueRangesFrom ctx (previous.map (·.close)) (cs ++ [c]) =
        trueRangesFrom ctx (previous.map (·.close)) cs ++
          [trueRange ctx c (cs.getLast?.or previous)] := by
    intro cs
    induction cs with
    | nil =>
      intro previous
      cases previous <;> rfl
    | cons d ds ih =>
      intro previous
      have hrest := ih (some d)
      have hlast : (d :: ds).getLast?.or previous = ds.getLast?.or (some d) := by
        cases ds with
        | nil => rfl
        | cons e es => simp [List.getLast?_eq_some_getLast]
      rw [hlast, List.cons_append]
      exact congrArg (_ :: ·) hrest
  have hnone := hfrom cs none
  rwa [Option.or_none] at hnone

theorem trueRanges_length (cs : List Candle) : (trueRanges ctx cs).length = cs.length := by
  have hfrom : ∀ (cs : List Candle) (previous : Option ℚ),
      (trueRangesFrom ctx previous cs).length = cs.length := by
    intro cs
    induction cs with
    | nil =>
      intro previous
      rfl
    | cons d ds ih =>
      intro previous
      exact congrArg (· + 1) (ih (some d.close))
  exact hfrom cs none

/-- The step of the accumulator, as what it holds after one value more. -/
theorem nextAverage_eq (step : ℚ → ℚ → ℚ) (xs : List ℚ) (x : ℚ)
    (hround : ∀ q, ctx.round (ctx.round q) = ctx.round q) (hperiod : 1 ≤ period) :
    nextAverage ctx step x (xs.length + 1) period (runningSeed ctx period xs)
        (lastValue ctx step period xs) =
      (lastValue ctx step period (xs ++ [x]), runningSeed ctx period (xs ++ [x])) := by
  obtain ⟨hvalues, hseed⟩ := seededAverage_concat step xs x hround hperiod
  refine Prod.ext (Eq.symm ?_) hseed.symm
  change (seededAverage ctx step period (xs ++ [x])).getLast?.join = _
  rw [hvalues, List.getLast?_concat]
  rfl

theorem seededAverage_concat_lastValue (step : ℚ → ℚ → ℚ) (xs : List ℚ) (x : ℚ)
    (hround : ∀ q, ctx.round (ctx.round q) = ctx.round q) (hperiod : 1 ≤ period) :
    seededAverage ctx step period (xs ++ [x]) =
      seededAverage ctx step period xs ++ [lastValue ctx step period (xs ++ [x])] := by
  rw [(seededAverage_concat step xs x hround hperiod).1, nextAverage_eq step xs x hround hperiod]

end

/-! ### The checks of the series -/

/-- Consecutive elements are related. -/
theorem all_zip_tail {α : Type*} {R : α → α → Prop} [DecidableRel R] {l : List α} :
    ((l.zip l.tail).all fun (a, b) => decide (R a b)) = true ↔ l.IsChain R := by
  induction l with
  | nil => simp
  | cons a l ih =>
    cases l with
    | nil => simp
    | cons b l =>
      rw [List.isChain_cons_cons, ← ih]
      simp

theorem chronological_iff {times : List Instant} :
    chronological times = true ↔ times.IsChain (· < ·) := all_zip_tail

/-- What the constructor of a candle series accepts. -/
theorem validateCandleSeries_eq_ok {candles : List Candle} :
    validateCandleSeries candles = .ok () ↔ (∀ c ∈ candles, c.isClosed = true) ∧
      (∀ a ∈ candles, ∀ b ∈ candles, candleIdentity a = candleIdentity b) ∧
      candles.IsChain fun left right =>
        left.openTime < right.openTime ∧ left.closeTime < right.closeTime := by
  rw [← all_zip_tail]
  cases candles with
  | nil => simp [validateCandleSeries, FailureKind.unless, bind, Except.bind]
  | cons first rest =>
    simp only [validateCandleSeries, bind_eq_ok, FailureKind.unless_eq_ok, exists_const,
      List.all_eq_true, beq_iff_eq]
    refine and_congr_right fun _ => and_congr_left fun _ => ⟨fun h => ?_, fun h c hc => ?_⟩
    · have hfirst : ∀ c ∈ first :: rest, candleIdentity c = candleIdentity first := by
        rintro c (_ | ⟨_, hc⟩)
        · rfl
        · exact h c hc
      exact fun a ha b hb => (hfirst a ha).trans (hfirst b hb).symm
    · exact h c (List.mem_cons_of_mem first hc) first List.mem_cons_self

/-- Consecutive candles of a series are a series. -/
theorem validateCandleSeries_infix {candles part : List Candle}
    (h : validateCandleSeries candles = .ok ()) (hpart : part <:+: candles) :
    validateCandleSeries part = .ok () := by
  obtain ⟨hclosed, hidentity, hchain⟩ := validateCandleSeries_eq_ok.mp h
  have hmem := hpart.subset
  exact validateCandleSeries_eq_ok.mpr ⟨fun c hc => hclosed c (hmem hc),
    fun a ha b hb => hidentity a (hmem ha) b (hmem hb), hchain.infix hpart⟩

/-- `prefix`: the first `n` candles. -/
def CandleSeries.take (source : CandleSeries) (n : ℕ) : CandleSeries where
  candles := source.candles.take n
  valid := validateCandleSeries_infix source.valid (List.take_prefix n _).isInfix

theorem CandleSeries.chronological (source : CandleSeries) :
    chronological (source.candles.map (·.closeTime)) = true := by
  rw [chronological_iff, List.isChain_map]
  exact (validateCandleSeries_eq_ok.mp source.valid).2.2.imp fun _ _ h => h.2

/-- A check before and after the warmup, from what holds at each index. -/
theorem warmup_checks {α : Type*} {p : α → Bool} {l : List α} {n : ℕ}
    (h : ∀ i a, l[i]? = some a → (p a = true ↔ i < n)) :
    (∀ a ∈ l.take (min n l.length), p a = true) ∧
      ∀ a ∈ l.drop (min n l.length), p a = false := by
  constructor
  · intro a ha
    obtain ⟨i, hi⟩ := List.mem_iff_getElem?.mp ha
    rw [List.getElem?_take] at hi
    split at hi
    · exact (h i a hi).mpr (by omega)
    · cases hi
  · intro a ha
    obtain ⟨i, hi⟩ := List.mem_iff_getElem?.mp ha
    rw [List.getElem?_drop] at hi
    have hlt : min n l.length + i < l.length := (List.getElem?_eq_some_iff.mp hi).1
    rw [← Bool.not_eq_true, h _ a hi]
    omega

/-- The output of an indicator passes its checks. -/
theorem IndicatorSeries.construct_seededAverage {ctx : DecimalContext} {step : ℚ → ℚ → ℚ}
    {period : ℕ} {xs : List ℚ} {α : Type} {items : List α} {time : α → Instant}
    (descriptor : IndicatorDescriptor) (hperiod : 1 ≤ period) (hlength : items.length = xs.length)
    (hchronological : Indicators.chronological (items.map time) = true) :
    IndicatorSeries.construct descriptor (period - 1)
        ((items.zip (seededAverage ctx step period xs)).map fun (a, v) => ⟨time a, v⟩) =
      .ok ⟨descriptor, period - 1,
        (items.zip (seededAverage ctx step period xs)).map fun (a, v) => ⟨time a, v⟩⟩ := by
  have hvalues : items.length ≤ (seededAverage ctx step period xs).length := by
    rw [seededAverage_length hperiod, hlength]
  have htimes : ((items.zip (seededAverage ctx step period xs)).map fun (a, v) =>
      (⟨time a, v⟩ : IndicatorPoint)).map (·.eventTime) = items.map time := by
    rw [List.map_map, ← List.map_fst_zip hvalues, List.map_map, List.map_fst_zip hvalues]
    rfl
  obtain ⟨hbefore, hafter⟩ := warmup_checks (n := period - 1)
    (p := fun point : IndicatorPoint => point.value.isNone)
    (l := (items.zip (seededAverage ctx step period xs)).map fun (a, v) => ⟨time a, v⟩) (by
      intro i point hi
      obtain ⟨⟨a, v⟩, hget, rfl⟩ := Option.map_eq_some_iff.mp (List.getElem?_map ▸ hi)
      exact seededAverage_isNone (List.getElem?_zip_eq_some.mp hget).2)
  simp only [IndicatorSeries.construct, bind_eq_ok, FailureKind.unless_eq_ok, exists_const,
    List.all_eq_true, pure, Except.pure]
  refine ⟨htimes ▸ hchronological, hbefore, fun point hpoint => ?_, trivial⟩
  have hnone := hafter point hpoint
  cases hvalue : point.value with
  | none =>
    rw [hvalue] at hnone
    cases hnone
  | some v => rfl

section

variable {ctx : DecimalContext} {period : ℕ}

/-- The values of the moving average of a chronological series. -/
theorem exponentialMovingAverage_eq_ok (hperiod : 1 ≤ period) (source : DecimalSeries) :
    exponentialMovingAverage ctx period source = .ok ⟨⟨"ema", "1", [("period", .integer period)]⟩,
      period - 1, (source.points.zip (seededAverage ctx (emaStep ctx period) period
        (source.points.map (·.value)))).map fun (p, value) => ⟨p.eventTime, value⟩⟩ :=
  IndicatorSeries.construct_seededAverage _ hperiod (List.length_map _).symm source.valid

/-- The values of the average true range of a candle series. -/
theorem averageTrueRange_eq_ok (hperiod : 1 ≤ period) (source : CandleSeries) :
    averageTrueRange ctx period source = .ok ⟨⟨"atr", "1", [("period", .integer period)]⟩,
      period - 1, (source.candles.zip (seededAverage ctx (atrStep ctx period) period
        (trueRanges ctx source.candles))).map fun (c, value) => ⟨c.closeTime, value⟩⟩ :=
  IndicatorSeries.construct_seededAverage _ hperiod (trueRanges_length _).symm
    source.chronological

/-- The closes of a candle series. -/
theorem fromCandles_eq_ok (source : CandleSeries) :
    ∃ closes, DecimalSeries.fromCandles source.candles = .ok closes ∧
      closes.points = source.candles.map fun c => ⟨c.closeTime, c.close⟩ := by
  have hchronological : chronological
      ((source.candles.map fun c => (⟨c.closeTime, c.close⟩ : SeriesPoint)).map (·.eventTime)) =
        true := by
    rw [List.map_map]
    exact source.chronological
  refine ⟨⟨_, hchronological⟩, ?_, rfl⟩
  rw [DecimalSeries.fromCandles, source.valid]
  exact dif_pos hchronological

end

end Indicators
end DryTrade
