import DryTrade.Growth
import DryTrade.MarketData.Months

/-!
# Resampling

A derived dataset holds the candles of a longer cadence, each aggregated from the
complete group of RAW candles its window covers.  The resampler walks the windows
of a plan's range: a complete group is aggregated, an incomplete one is an error
under the strict gap policy and is skipped under the others.

## Main definitions

* `DerivedSeries` — which RAW series is resampled to which cadence, and how.
* `ResamplingPlan` — one planned materialization of a derived series.
* `completeGroup`, `aggregate` — the test of one group and its aggregation.
* `resample` — the resampler.
* `windowStarts r d` — the openings of the windows of a range.
* `resampleWindow` — what the resampler does with one window.

## Main results

* `resample_eq_ok` — the resampler returns exactly the candles of the windows, when no window
  raises.
* `resampleWindow_openTime` — an aggregated candle opens with its window.
-/

namespace DryTrade
namespace MarketData

/-! ### Cadences -/

/-- The cadence of `minutes` minutes. -/
def minuteTimeframe (code : String) (minutes : ℕ) (h : 0 < minutes) : Timeframe where
  code := code
  duration := 60000000 * minutes
  alignment := 0
  duration_pos := by positivity
  alignment_nonneg := Timeframe.epoch_nonneg
  alignment_lt := by positivity

theorem minuteTimeframe_thirty : 0 < 30 := by decide

/-- One minute. -/
def timeframe1m : Timeframe := minuteTimeframe "1m" 1 Nat.one_pos
/-- Five minutes. -/
def timeframe5m : Timeframe := minuteTimeframe "5m" 5 (by decide)
/-- Fifteen minutes. -/
def timeframe15m : Timeframe := minuteTimeframe "15m" 15 (by decide)
/-- Thirty minutes. -/
def timeframe30m : Timeframe := minuteTimeframe "30m" 30 minuteTimeframe_thirty
/-- One hour. -/
def timeframe1h : Timeframe := minuteTimeframe "1h" 60 (by decide)
/-- Four hours. -/
def timeframe4h : Timeframe := minuteTimeframe "4h" 240 (by decide)

/-- The supported resampling pairs, source first. -/
def supportedResampling : List (Timeframe × Timeframe) :=
  [(timeframe1m, timeframe5m), (timeframe1m, timeframe15m), (timeframe1m, timeframe30m),
    (timeframe1m, timeframe1h), (timeframe5m, timeframe15m), (timeframe5m, timeframe30m),
    (timeframe5m, timeframe1h), (timeframe15m, timeframe30m), (timeframe15m, timeframe1h),
    (timeframe30m, timeframe1h), (timeframe1h, timeframe4h), (timeframe1h, dailyTimeframe),
    (timeframe4h, dailyTimeframe)]

/-- What happens to an incomplete group. -/
inductive GapPolicy
  | strict
  | skipIncomplete
  | markIncomplete
  deriving DecidableEq, Repr

/-- The value of a gap policy. -/
def GapPolicy.value : GapPolicy → String
  | .strict => "STRICT"
  | .skipIncomplete => "SKIP_INCOMPLETE"
  | .markIncomplete => "MARK_INCOMPLETE"

/-- The value of a market family. -/
def MarketType.value : MarketType → String
  | .spot => "spot"
  | .forex => "forex"
  | .equity => "equity"
  | .futures => "futures"

/-- The value of an exchange. -/
def Exchange.value : Exchange → String
  | .binance => "binance"

/-- A derived dataset: the RAW series it resamples, the cadence it resamples it to and the gap
policy.  The identities of source and target are read off it. -/
structure DerivedSeries where
  exchange : Exchange
  marketType : MarketType
  symbol : String
  source : Timeframe
  target : Timeframe
  gapPolicy : GapPolicy
  /-- The schema version of the derived store. -/
  schemaVersion : ℕ
  supported : (source, target) ∈ supportedResampling
  deriving DecidableEq

namespace DerivedSeries

/-- The series of the source candles. -/
def sourceIdentity (d : DerivedSeries) : Exchange × MarketType × String × String :=
  (d.exchange, d.marketType, d.symbol, d.source.code)

/-- The series of the derived candles. -/
def targetIdentity (d : DerivedSeries) : Exchange × MarketType × String × String :=
  (d.exchange, d.marketType, d.symbol, d.target.code)

/-- `f"resample:{source.key}"`, the `source` of every derived candle. -/
def targetSource (d : DerivedSeries) : String :=
  "resample:raw:" ++ d.exchange.value ++ ":" ++ d.marketType.value ++ ":" ++ d.symbol ++ ":" ++
    d.source.code ++ ":canonical_parquet:source_native:v1"

end DerivedSeries

/-- `calendar.validate_pair`: how many source candles make a target candle. -/
def validatePair (source target : Timeframe) : Except Failure ℤ := do
  FailureKind.marketDataInconsistency.unless (decide (source.duration < target.duration))
    "O timeframe de destino deve ser maior que o de origem."
  FailureKind.marketDataInconsistency.unless
    (target.duration % source.duration == 0 && decide (2 ≤ target.duration / source.duration))
    "A duração de destino deve ser múltipla exata da origem."
  FailureKind.marketDataInconsistency.unless (source.alignment == target.alignment)
    "Os alinhamentos dos timeframes são incompatíveis."
  FailureKind.marketDataInconsistency.unless (target.code != "1d" || target.alignment == 0)
    "O timeframe diário deve iniciar à meia-noite UTC."
  return target.duration / source.duration

/-- `validate_timeframes`: the pair is supported and fits. -/
def validateTimeframes (source target : Timeframe) : Except Failure ℤ := do
  FailureKind.marketDataInconsistency.unless
    (supportedResampling.any fun p => p.1.code == source.code && p.2.code == target.code)
    "A combinação de timeframes não é suportada."
  validatePair source target

/-- The opening of the window of `target` an instant falls in. -/
def groupStart (t : Instant) (target : Timeframe) : ℤ :=
  target.alignment + (t - target.alignment) / target.duration * target.duration

/-! ### Plans -/

/-- One planned materialization. -/
structure ResamplingPlan where
  series : DerivedSeries
  dataRange : DataRange
  sourceDatasetVersion : String
  sourceChecksum : String
  sourceCandles : ℤ
  expectedGroups : ℤ
  estimatedPartitions : ℕ
  groupSize : ℤ
  sourceVersionAlgorithm : String
  deriving DecidableEq

/-- What the RAW catalog records of the source dataset. -/
structure RawMetadata where
  version : String
  versionAlgorithm : String
  deriving DecidableEq, Repr

/-- `DerivedDatasetService.plan`, for the RAW catalog entry found. -/
def planResampling (maxSource maxGroups : ℤ) (d : DerivedSeries) (dataRange : DataRange)
    (metadata : Option RawMetadata) : Except Failure ResamplingPlan := do
  let groupSize ← validateTimeframes d.source d.target
  FailureKind.marketDataInconsistency.unless
    (d.source.validateOpenTime dataRange.start && d.source.validateOpenTime dataRange.stop &&
      d.target.validateOpenTime dataRange.start && d.target.validateOpenTime dataRange.stop)
    "O intervalo deve estar alinhado aos dois timeframes."
  let sourceCount := (dataRange.stop - dataRange.start) / d.source.duration
  let groups := (dataRange.stop - dataRange.start) / d.target.duration
  FailureKind.marketDataInconsistency.unless
    (decide (sourceCount ≤ maxSource) && decide (groups ≤ maxGroups))
    "O plano de resampling excede o limite seguro."
  match metadata with
  | none => FailureKind.marketDataInconsistency.raiseWith "O dataset RAW de origem não existe."
  | some metadata =>
    return {
      series := d
      dataRange := dataRange
      sourceDatasetVersion := metadata.version
      sourceChecksum := metadata.version
      sourceCandles := sourceCount
      expectedGroups := groups
      estimatedPartitions := (monthsInRange dataRange).length
      groupSize := groupSize
      sourceVersionAlgorithm := metadata.versionAlgorithm }

/-! ### Serialization -/

/-- `_validate_decimal128_38_18`: at most 18 decimals and 38 digits in all. -/
def fitsDecimal128 (value : ℚ) : Except Failure Unit := do
  FailureKind.marketDataInconsistency.unless (decide ((value * 10 ^ 18).den = 1))
    "Decimal excede a escala 18 sem representação exata."
  FailureKind.marketDataInconsistency.unless (decide (|value| < 10 ^ 20))
    "Decimal excede a precisão decimal128(38,18)."

/-- The instant is a whole number of milliseconds. -/
def wholeMilliseconds (t : Instant) (fieldName : String) : Except Failure Unit :=
  FailureKind.marketDataInconsistency.unless (t % 1000 == 0)
    (fieldName ++ " deve possuir precisão exata de milissegundo.")

/-- `validate_candle_serialization`: the candle can be stored without loss. -/
def validateCandleSerialization (candle : Candle) (requireClosed : Bool) : Except Failure Unit := do
  FailureKind.marketDataInconsistency.unless (!requireClosed || candle.isClosed)
    "Candles abertos não podem ser persistidos."
  fitsDecimal128 candle.openPrice
  fitsDecimal128 candle.high
  fitsDecimal128 candle.low
  fitsDecimal128 candle.close
  fitsDecimal128 candle.volume
  candle.quoteVolume.forM fitsDecimal128
  wholeMilliseconds candle.openTime "open_time"
  wholeMilliseconds candle.closeTime "close_time"

/-! ### Groups -/

/-- The candles follow one another from `expected` to the end of the window. -/
def followsFrom (source : Timeframe) (stop : Instant) : Instant → List Candle → Bool
  | expected, [] => expected == stop
  | expected, candle :: candles =>
    candle.openTime == expected && candle.closeTime == expected + source.duration - 1000 &&
      followsFrom source stop (expected + source.duration) candles

/-- `_complete_group`: the group has every candle of the window, all closed. -/
def completeGroup (candles : List Candle) (start : Instant) (source target : Timeframe)
    (groupSize : ℤ) : Bool :=
  (candles.length : ℤ) == groupSize && candles.all (·.isClosed) &&
    followsFrom source (start + target.duration) start candles

/-- A complete group is not empty: its window is not. -/
theorem ne_nil_of_completeGroup {candles : List Candle} {start : Instant}
    {source target : Timeframe} {groupSize : ℤ}
    (h : completeGroup candles start source target groupSize = true) : candles ≠ [] := by
  rintro rfl
  have hpos := target.duration_pos
  simp only [completeGroup, followsFrom, Bool.and_eq_true, beq_iff_eq] at h
  exact absurd h.2 (ne_of_lt (lt_add_of_pos_right start hpos))

/-- `replace(first, …)`: the aggregated candle, checked by the constructor like any other. -/
def aggregatedCandle (first : Candle) (timeframe : Timeframe) (openTime closeTime : Instant)
    (high low close volume : ℚ) (quoteVolume : Option ℚ) (tradeCount : Option ℤ)
    (isClosed : Bool) (source : String) : Except Failure Candle :=
  if h₁ : timeframe.validateOpenTime openTime = true then
  if h₂ : openTime < closeTime then
  if h₃ : max first.openPrice (max close low) ≤ high then
  if h₄ : low ≤ min first.openPrice (min close high) then
  if h₅ : 0 ≤ volume ∧ ∀ v ∈ quoteVolume, 0 ≤ v then
  if h₆ : ∀ n ∈ tradeCount, 0 ≤ n then
    .ok { first with
      timeframe := timeframe
      openTime := openTime
      closeTime := closeTime
      high := high
      low := low
      close := close
      volume := volume
      quoteVolume := quoteVolume
      tradeCount := tradeCount
      isClosed := isClosed
      source := source
      openTime_aligned := h₁
      openTime_lt_closeTime := h₂
      high_ge := h₃
      low_le := h₄
      volume_nonneg := h₅.1
      quoteVolume_nonneg := h₅.2
      tradeCount_nonneg := h₆ }
  else FailureKind.marketDataInconsistency.raiseWith "trade_count não pode ser negativo."
  else FailureKind.marketDataInconsistency.raiseWith "Volumes não podem ser negativos."
  else FailureKind.marketDataInconsistency.raiseWith "low é maior que outro valor OHLC."
  else FailureKind.marketDataInconsistency.raiseWith "high é menor que outro valor OHLC."
  else FailureKind.marketDataInconsistency.raiseWith "close_time deve ser posterior a open_time."
  else FailureKind.marketDataInconsistency.raiseWith "open_time não está alinhado ao timeframe."

/-- `_aggregate`: the candle of a group.  Its optional totals are there when every candle of the
group has one. -/
def aggregate (ctx : DecimalContext) (candles : List Candle) (hne : candles ≠ [])
    (start : Instant) (timeframe : Timeframe) (source : String) : Except Failure Candle :=
  let first := candles.head hne
  let quoteVolume :=
    if candles.all (·.quoteVolume.isSome) then
      some ((candles.filterMap (·.quoteVolume)).foldl ctx.add 0)
    else none
  let tradeCount :=
    if candles.all (·.tradeCount.isSome) then some (candles.filterMap (·.tradeCount)).sum
    else none
  aggregatedCandle first timeframe start (start + timeframe.duration - 1000)
    ((candles.map (·.high)).foldl max first.high) ((candles.map (·.low)).foldl min first.low)
    (candles.getLast hne).close ((candles.map (·.volume)).foldl ctx.add 0) quoteVolume tradeCount
    (candles.all (·.isClosed)) source

/-! ### The resampler -/

/-- The openings of the windows of a range: `start += duration` while `start < stop`. -/
def windowStarts (r : DataRange) (duration : ℤ) : List ℤ :=
  (List.range ((r.stop - r.start + (duration - 1)) / duration).toNat).map
    fun n : ℕ => r.start + n * duration

/-- The window of `tf` that opens at `start`. -/
def windowRange (start : Instant) (tf : Timeframe) : DataRange :=
  ⟨start, start + tf.duration, lt_add_of_pos_right start tf.duration_pos⟩

/-- The checks of one source candle, given the one before it. -/
def checkSource (plan : ResamplingPlan) (previous : Option Candle) (candle : Candle) :
    Except Failure (Option Candle) := do
  validateCandleSerialization candle false
  FailureKind.marketDataInconsistency.unless (candle.identity == plan.series.sourceIdentity)
    "O candle possui identidade de origem divergente."
  FailureKind.marketDataInconsistency.unless
    (decide (plan.dataRange.start ≤ candle.openTime) &&
      decide (candle.openTime < plan.dataRange.stop))
    "O candle está fora do intervalo planejado."
  FailureKind.marketDataInconsistency.unless
    (previous.all fun p => decide (p.openTime < candle.openTime))
    "Os candles de origem não estão em ordem estrita."
  return some candle

theorem DerivedSeries.ne_nil_of_completeGroup (d : DerivedSeries) {components : List Candle}
    {start : Instant} {size : ℤ}
    (h : completeGroup components start d.source d.target size = true) : components ≠ [] :=
  MarketData.ne_nil_of_completeGroup h

/-- What the resampler does with the group of one window: the aggregated candle, or nothing. -/
def resampleWindow (ctx : DecimalContext) (d : DerivedSeries) (groupSize : ℤ)
    (components : List Candle) (start : Instant) : Except Failure (Option Candle) :=
  if h : completeGroup components start d.source d.target groupSize = true then
    some <$> aggregate ctx components (d.ne_nil_of_completeGroup h) start d.target d.targetSource
  else if d.gapPolicy = .strict then
    FailureKind.marketDataInconsistency.raiseWith
      "Um grupo de resampling está incompleto ou inválido."
  else .ok none

/-- Whether a call rebuilt anything. -/
inductive ResamplingAction
  | materialized
  | noop
  deriving DecidableEq, Repr

/-- What a resampling call returns; `checksum` digests the candles. -/
structure ResamplingResult (Digest : Type) where
  plan : ResamplingPlan
  candles : List Candle
  skippedRanges : List DataRange
  sourceCount : ℕ
  materializedCount : ℕ
  checksum : Digest
  action : ResamplingAction

/-- The candles of the window that opens at `start`. -/
def windowGroup (candles : List Candle) (target : Timeframe) (start : Instant) : List Candle :=
  candles.filter fun c => groupStart c.openTime target == start

/-- `resample`: one pass over the source candles, then one over the windows. -/
def resample {Digest : Type} (ctx : DecimalContext) (canonicalDigest : List Candle → Digest)
    (candles : List Candle) (plan : ResamplingPlan) : Except Failure (ResamplingResult Digest) := do
  let groupSize ← validateTimeframes plan.series.source plan.series.target
  FailureKind.marketDataInconsistency.unless (groupSize == plan.groupSize)
    "O tamanho do grupo diverge do plano."
  let _ ← candles.foldlM (checkSource plan) none
  let starts := windowStarts plan.dataRange plan.series.target.duration
  let windows ← starts.mapM fun start =>
    resampleWindow ctx plan.series groupSize (windowGroup candles plan.series.target start) start
  let output := windows.filterMap id
  return {
    plan := plan
    candles := output
    skippedRanges := (starts.zip windows).filterMap fun p =>
      if p.2.isNone then some (windowRange p.1 plan.series.target) else none
    sourceCount := candles.length
    materializedCount := output.length
    checksum := canonicalDigest output
    action := .materialized }

/-! ### Windows -/

/-- Every target cadence starts at midnight and divides the day into whole milliseconds. -/
theorem DerivedSeries.target_spec (d : DerivedSeries) : d.target.alignment = 0 ∧
    d.target.duration ∣ Instant.microsecondsPerDay ∧ (1000 : ℤ) ∣ d.target.duration := by
  have hall : ∀ p ∈ supportedResampling, p.2.alignment = 0 ∧
      p.2.duration ∣ Instant.microsecondsPerDay ∧ (1000 : ℤ) ∣ p.2.duration := by
    decide
  exact hall _ d.supported

/-- An instant belongs to the window that opens at or before it and closes after it. -/
theorem groupStart_eq_iff {d : DerivedSeries} {t w : ℤ} (hw : d.target.duration ∣ w) :
    groupStart t d.target = w ↔ w ≤ t ∧ t < w + d.target.duration := by
  obtain ⟨halign, -, -⟩ := d.target_spec
  have hpos := d.target.duration_pos
  obtain ⟨k, rfl⟩ := hw
  unfold groupStart
  rw [halign, zero_add, sub_zero, mul_comm, mul_right_inj' hpos.ne', Int.ediv_eq_iff_of_pos hpos]
  constructor
  · rintro ⟨h0, h1⟩
    constructor <;> linarith
  · rintro ⟨h0, h1⟩
    constructor <;> linarith

/-- A window lies in one month. -/
theorem monthOf_of_window {d : DerivedSeries} {t w : ℤ} (hw : d.target.duration ∣ w) (h0 : w ≤ t)
    (h1 : t < w + d.target.duration) : monthOf t = monthOf w := by
  obtain ⟨-, hday, -⟩ := d.target_spec
  rw [monthOf_eq_iff]
  refine ⟨(monthStart_monthOf_le w).trans h0, h1.trans_le ?_⟩
  -- both ends are multiples of the cadence, so the window cannot cross the next month's start
  obtain ⟨a, ha⟩ := hday.trans (dvd_monthStart (monthOf w + 1))
  obtain ⟨b, rfl⟩ := hw
  have hlt := lt_monthStart_monthOf (d.target.duration * b)
  rw [ha] at hlt ⊢
  have hab : b + 1 ≤ a := lt_of_mul_lt_mul_left hlt d.target.duration_pos.le
  calc d.target.duration * b + d.target.duration = d.target.duration * (b + 1) := by ring
    _ ≤ d.target.duration * a := mul_le_mul_of_nonneg_left hab d.target.duration_pos.le

theorem mem_windowStarts {r : DataRange} {duration w : ℤ} (hd : 0 < duration) :
    w ∈ windowStarts r duration ↔ r.start ≤ w ∧ w < r.stop ∧ duration ∣ w - r.start := by
  obtain ⟨start, stop, hr⟩ := r
  simp only [windowStarts, List.mem_map, List.mem_range]
  constructor
  · rintro ⟨n, hn, rfl⟩
    have hn' : (n : ℤ) + 1 ≤ (stop - start + (duration - 1)) / duration := by omega
    have hmul := (Int.le_ediv_iff_mul_le hd).mp hn'
    refine ⟨?_, ?_, ?_⟩
    · have : 0 ≤ (n : ℤ) * duration := by positivity
      linarith
    · have : ((n : ℤ) + 1) * duration = n * duration + duration := by ring
      linarith
    · exact ⟨n, by ring⟩
  · rintro ⟨h0, h1, k, hk⟩
    have hk0 : 0 ≤ k := by
      by_contra hneg
      have : duration * k < 0 := mul_neg_of_pos_of_neg hd (not_le.mp hneg)
      linarith
    have hk1 : k + 1 ≤ (stop - start + (duration - 1)) / duration := by
      rw [Int.le_ediv_iff_mul_le hd]
      have : (k + 1) * duration = duration * k + duration := by ring
      linarith
    refine ⟨k.toNat, by omega, ?_⟩
    rw [Int.toNat_of_nonneg hk0]
    linarith

theorem windowStarts_sorted {r : DataRange} {duration : ℤ} (hd : 0 < duration) :
    (windowStarts r duration).Pairwise (· < ·) := by
  unfold windowStarts
  rw [List.pairwise_map]
  refine List.pairwise_lt_range.imp fun {a b} hab => ?_
  have hab' : (a : ℤ) < b := by exact_mod_cast hab
  have := mul_lt_mul_of_pos_right hab' hd
  linarith

/-- The candle of a list that opens at an instant. -/
def candleAt (candles : List Candle) (t : Instant) : Option Candle :=
  candles.find? fun c => c.openTime == t

/-- What the constructor accepted has the values it was given. -/
theorem aggregatedCandle_eq_ok {first c : Candle} {timeframe : Timeframe}
    {openTime closeTime : Instant} {high low close volume : ℚ} {quoteVolume : Option ℚ}
    {tradeCount : Option ℤ} {isClosed : Bool} {source : String}
    (h : aggregatedCandle first timeframe openTime closeTime high low close volume quoteVolume
      tradeCount isClosed source = .ok c) :
    c.openTime = openTime ∧ c.closeTime = closeTime ∧
      c.identity = (first.exchange, first.marketType, first.symbol, timeframe.code) ∧
      c.isClosed = isClosed := by
  unfold aggregatedCandle at h
  split_ifs at h
  · cases h
    exact ⟨rfl, rfl, rfl, rfl⟩
  all_goals cases h

/-- An aggregated candle opens with its window, in the target series, closed as its group is. -/
theorem aggregate_eq_ok {ctx : DecimalContext} {candles : List Candle} {hne : candles ≠ []}
    {start : Instant} {timeframe : Timeframe} {source : String} {c : Candle}
    (h : aggregate ctx candles hne start timeframe source = .ok c) :
    c.openTime = start ∧ c.closeTime = start + timeframe.duration - 1000 ∧
      c.identity = ((candles.head hne).exchange, (candles.head hne).marketType,
        (candles.head hne).symbol, timeframe.code) ∧
      c.isClosed = candles.all (·.isClosed) := by
  exact aggregatedCandle_eq_ok h

/-- What a window yields opens with it and is closed. -/
theorem resampleWindow_eq_some {ctx : DecimalContext} {d : DerivedSeries} {groupSize : ℤ}
    {components : List Candle} {start : Instant} {c : Candle}
    (h : resampleWindow ctx d groupSize components start = .ok (some c)) :
    c.openTime = start ∧ c.closeTime = start + d.target.duration - 1000 ∧ c.isClosed = true ∧
      ∃ hne : components ≠ [], c.identity = ((components.head hne).exchange,
        (components.head hne).marketType, (components.head hne).symbol, d.target.code) := by
  unfold resampleWindow at h
  split_ifs at h with hc hs
  · obtain ⟨c', hc', heq⟩ : ∃ c', aggregate ctx components (ne_nil_of_completeGroup hc) start
        d.target d.targetSource = .ok c' ∧ c' = c := by
      cases hagg : aggregate ctx components (ne_nil_of_completeGroup hc) start d.target
          d.targetSource with
      | error e =>
        rw [hagg] at h
        cases h
      | ok c' =>
        rw [hagg] at h
        cases h
        exact ⟨c, rfl, rfl⟩
    subst heq
    obtain ⟨hopen, hclose, hid, hclosed⟩ := aggregate_eq_ok hc'
    have hall : components.all (·.isClosed) = true := by
      simp only [completeGroup, Bool.and_eq_true] at hc
      exact hc.1.2
    exact ⟨hopen, hclose, hclosed.trans hall, _, hid⟩
  · simp at h
  · cases h

/-- The candles of the windows, one lookup at a time. -/
theorem candleAt_filterMap {f : ℤ → Except Failure (Option Candle)}
    (hf : ∀ w c, f w = .ok (some c) → c.openTime = w) :
    ∀ {starts : List ℤ} {windows : List (Option Candle)}, starts.Nodup →
      starts.mapM f = .ok windows → ∀ t,
        (t ∈ starts → f t = .ok (candleAt (windows.filterMap id) t)) ∧
          (t ∉ starts → candleAt (windows.filterMap id) t = none) := by
  intro starts
  induction starts with
  | nil =>
    rintro windows - h t
    cases h
    exact ⟨fun ht => (List.not_mem_nil ht).elim, fun _ => rfl⟩
  | cons w starts ih =>
    intro windows hnodup h t
    obtain ⟨hw, hnodup'⟩ := List.nodup_cons.mp hnodup
    obtain ⟨v, windows', hv, hwindows', rfl⟩ := mapM_cons_eq_ok.mp h
    obtain ⟨hin, hout⟩ := ih hnodup' hwindows' t
    cases v with
    | none =>
      refine ⟨fun ht => ?_, fun ht => hout fun hmem => ht (List.mem_cons_of_mem w hmem)⟩
      rcases List.mem_cons.mp ht with rfl | ht
      · rw [hv]
        exact congrArg Except.ok (hout hw).symm
      · exact hin ht
    | some c =>
      have hc : c.openTime = w := hf w c hv
      have hhead : candleAt ((some c :: windows').filterMap id) t =
          if w = t then some c else candleAt (windows'.filterMap id) t := by
        change List.find? _ (c :: windows'.filterMap id) = _
        rw [List.find?_cons, hc]
        by_cases hwt : w = t
        · simp [hwt]
        · have hne : (w == t) = false := by simpa using hwt
          rw [hne, if_neg hwt]
          rfl
      rw [hhead]
      constructor
      · intro ht
        rcases List.mem_cons.mp ht with rfl | ht
        · rw [if_pos rfl, hv]
        · have hne : w ≠ t := fun hwt => hw (hwt ▸ ht)
          rw [if_neg hne]
          exact hin ht
      · intro ht
        have hne : w ≠ t := by
          rintro rfl
          exact ht List.mem_cons_self
        rw [if_neg hne]
        exact hout fun hmem => ht (List.mem_cons_of_mem w hmem)

/-- Where the candles of the windows open. -/
theorem openTime_mem_of_windows {f : ℤ → Except Failure (Option Candle)}
    (hf : ∀ w c, f w = .ok (some c) → c.openTime = w) {starts : List ℤ}
    {windows : List (Option Candle)} (h : starts.mapM f = .ok windows) {c : Candle}
    (hc : c ∈ windows.filterMap id) : c.openTime ∈ starts ∧ f c.openTime = .ok (some c) := by
  induction starts generalizing windows with
  | nil =>
    cases h
    cases hc
  | cons w starts ih =>
    obtain ⟨v, windows', hv, hwindows', rfl⟩ := mapM_cons_eq_ok.mp h
    have hcases : v = some c ∨ c ∈ windows'.filterMap id := by
      cases v with
      | none => exact .inr hc
      | some c' =>
        rcases List.mem_cons.mp hc with rfl | hc
        · exact .inl rfl
        · exact .inr hc
    rcases hcases with rfl | hc
    · rw [hf w c hv]
      exact ⟨List.mem_cons_self, hv⟩
    · obtain ⟨hmem, hval⟩ := ih hwindows' hc
      exact ⟨List.mem_cons_of_mem w hmem, hval⟩

/-- The candles of the windows are in the order of the windows. -/
theorem windows_sorted {f : ℤ → Except Failure (Option Candle)}
    (hf : ∀ w c, f w = .ok (some c) → c.openTime = w) :
    ∀ {starts : List ℤ} {windows : List (Option Candle)}, starts.Pairwise (· < ·) →
      starts.mapM f = .ok windows →
        (windows.filterMap id).Pairwise fun c c' => c.openTime < c'.openTime := by
  intro starts
  induction starts with
  | nil =>
    rintro windows - h
    cases h
    exact List.Pairwise.nil
  | cons w starts ih =>
    intro windows hsorted h
    obtain ⟨hlt, hsorted'⟩ := List.pairwise_cons.mp hsorted
    obtain ⟨v, windows', hv, hwindows', rfl⟩ := mapM_cons_eq_ok.mp h
    have htail := ih hsorted' hwindows'
    cases v with
    | none => exact htail
    | some c =>
      refine List.pairwise_cons.mpr ⟨fun c' hc' => ?_, htail⟩
      rw [hf w c hv]
      exact hlt _ (openTime_mem_of_windows hf hwindows' hc').1

/-- Source candles in order, of the planned series and range, pass the resampler's checks. -/
theorem foldlM_checkSource {plan : ResamplingPlan} {candles : List Candle}
    (hvalid : ∀ c ∈ candles, validateCandleSerialization c false = .ok () ∧
      c.identity = plan.series.sourceIdentity ∧ plan.dataRange.start ≤ c.openTime ∧
      c.openTime < plan.dataRange.stop)
    (hsorted : candles.Pairwise fun c c' => c.openTime < c'.openTime) :
    ∀ previous : Option Candle, (∀ p ∈ previous, ∀ c ∈ candles, p.openTime < c.openTime) →
      ∃ last, candles.foldlM (checkSource plan) previous = .ok last := by
  induction candles with
  | nil =>
    intro previous _
    exact ⟨previous, rfl⟩
  | cons c candles ih =>
    intro previous hprevious
    obtain ⟨hser, hid, hstart, hstop⟩ := hvalid c List.mem_cons_self
    obtain ⟨hhead, htail⟩ := List.pairwise_cons.mp hsorted
    have hstep : checkSource plan previous c = .ok (some c) := by
      have hbefore : (previous.all fun p => decide (p.openTime < c.openTime)) = true := by
        cases previous with
        | none => rfl
        | some p => simpa using hprevious p rfl c List.mem_cons_self
      simp [checkSource, hser, hid, hstart, hstop, hbefore, FailureKind.unless, ok_bind]
    obtain ⟨last, hlast⟩ := ih (fun c' hc' => hvalid c' (List.mem_cons_of_mem c hc')) htail (some c)
      (by
        rintro p ⟨⟩ c' hc'
        exact hhead c' hc')
    refine ⟨last, ?_⟩
    rw [List.foldlM_cons, hstep, ok_bind]
    exact hlast

/-- The resampler returns the candles of the windows, exactly when the source candles pass its
checks and no window raises. -/
theorem resample_eq_ok {Digest : Type} {ctx : DecimalContext}
    {canonicalDigest : List Candle → Digest} {candles : List Candle} {plan : ResamplingPlan}
    {r : ResamplingResult Digest} (h : resample ctx canonicalDigest candles plan = .ok r) :
    ∃ windows, (windowStarts plan.dataRange plan.series.target.duration).mapM (fun start =>
        resampleWindow ctx plan.series plan.groupSize
          (windowGroup candles plan.series.target start) start) = .ok windows ∧
      r.candles = windows.filterMap id ∧ r.action = .materialized := by
  simp only [resample, bind_eq_ok, pure, Except.pure, Except.ok.injEq, FailureKind.unless_eq_ok,
    exists_const, beq_iff_eq] at h
  obtain ⟨groupSize, -, rfl, -, -, windows, hwindows, rfl⟩ := h
  exact ⟨windows, hwindows, rfl, rfl⟩

theorem resample_ok {Digest : Type} (ctx : DecimalContext)
    (canonicalDigest : List Candle → Digest) {candles : List Candle} {plan : ResamplingPlan}
    {last : Option Candle} {windows : List (Option Candle)}
    (hsize : validateTimeframes plan.series.source plan.series.target = .ok plan.groupSize)
    (hchecks : candles.foldlM (checkSource plan) none = .ok last)
    (hwindows : (windowStarts plan.dataRange plan.series.target.duration).mapM (fun start =>
        resampleWindow ctx plan.series plan.groupSize
          (windowGroup candles plan.series.target start) start) = .ok windows) :
    ∃ r, resample ctx canonicalDigest candles plan = .ok r ∧ r.candles = windows.filterMap id := by
  unfold resample
  rw [hsize, ok_bind, beq_self_eq_true, hchecks]
  simp only [FailureKind.unless, if_true, ok_bind, hwindows]
  exact ⟨_, rfl, rfl⟩

end MarketData
end DryTrade
