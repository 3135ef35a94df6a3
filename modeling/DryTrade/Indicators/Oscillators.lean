import DryTrade.Causal
import DryTrade.RealRounding
import DryTrade.Backtesting.Records
import DryTrade.Indicators.Averages

/-!
# The technical indicators

The six indicators, each with its parameters and its computation over a whole source series, and
the bundle in which a composite indicator returns its components.

## Main definitions

* `IndicatorBundle` — aligned named outputs of one indicator.
* `ExponentialMovingAverage`, `RelativeStrengthIndex`, `MovingAverageConvergenceDivergence`,
  `BollingerBands`, `TrueRange`, `AverageTrueRange` — the indicators with admissible parameters.
* `calculate` of each of them.
-/

namespace DryTrade
namespace Indicators

open MarketData Backtesting

/-! ### Outputs -/

/-- `zip(left, right, strict=True)`. -/
def zipStrict {α β : Type} (left : List α) (right : List β) : Except Failure (List (α × β)) := do
  FailureKind.value.unless (decide (left.length ≤ right.length))
    "zip() argument 2 is shorter than argument 1"
  FailureKind.value.unless (decide (right.length ≤ left.length))
    "zip() argument 2 is longer than argument 1"
  return left.zip right

/-- `_aligned_series`. -/
def alignedSeries (descriptor : IndicatorDescriptor) (warmupPoints : ℕ) (times : List Instant)
    (values : List (Option ℚ)) : Except Failure IndicatorSeries := do
  let points ← zipStrict times values
  IndicatorSeries.construct descriptor warmupPoints (points.map fun p => ⟨p.1, p.2⟩)

/-- Aligned named outputs of one composite indicator. -/
structure IndicatorBundle where
  descriptor : IndicatorDescriptor
  components : List (String × IndicatorSeries)

/-- The checks of the components, after those with the names `seen` and the times `reference`. -/
def checkComponents : List String → Option (List Instant) → List (String × IndicatorSeries) →
    Except Failure (List (String × IndicatorSeries))
  | _, _, [] => .ok []
  | seen, reference, (rawName, series) :: components => do
    let name := strip rawName
    FailureKind.invalidIndicatorInput.unless (isFillToken name && !seen.contains name)
      "indicator component names must be unique safe identifiers"
    let eventTimes := series.points.map (·.eventTime)
    FailureKind.invalidIndicatorInput.unless (reference.all (· == eventTimes))
      "indicator bundle components must share identical event times"
    let checked ← checkComponents (name :: seen) (some (reference.getD eventTimes)) components
    return (name, series) :: checked

/-- `IndicatorBundle(...)`. -/
def IndicatorBundle.construct (descriptor : IndicatorDescriptor)
    (components : List (String × IndicatorSeries)) : Except Failure IndicatorBundle := do
  FailureKind.invalidIndicatorInput.unless (!components.isEmpty)
    "indicator bundles must contain at least one component"
  let checked ← checkComponents [] none components
  return ⟨descriptor, checked⟩

/-- The times of a source series. -/
def DecimalSeries.times (source : DecimalSeries) : List Instant := source.points.map (·.eventTime)

/-- The values of a source series. -/
def DecimalSeries.values (source : DecimalSeries) : List ℚ := source.points.map (·.value)

/-- The times of a candle series. -/
def CandleSeries.times (source : CandleSeries) : List Instant := source.candles.map (·.closeTime)

/-! ### The exponential moving average -/

/-- EMA seeded by the arithmetic mean of the first `period` values. -/
structure ExponentialMovingAverage where
  period : ℕ
  period_pos : 1 ≤ period

namespace ExponentialMovingAverage

variable (ema : ExponentialMovingAverage)

def descriptor : IndicatorDescriptor := ⟨"ema", "1", [("period", .integer ema.period)]⟩

def warmupPoints : ℕ := ema.period - 1

def values (ctx : DecimalContext) (xs : List ℚ) : List (Option ℚ) :=
  seededAverage ctx (emaStep ctx ema.period) ema.period xs

def calculate (ctx : DecimalContext) (source : DecimalSeries) : Except Failure IndicatorSeries :=
  alignedSeries ema.descriptor ema.warmupPoints source.times (ema.values ctx source.values)

end ExponentialMovingAverage

/-! ### The relative strength index -/

/-- Wilder RSI with an explicit warmup of `period` changes. -/
structure RelativeStrengthIndex where
  period : ℕ
  period_pos : 1 ≤ period

/-- The running averages of the gains and of the losses. -/
structure WilderAverages where
  averageGain : ℚ
  averageLoss : ℚ
  deriving DecidableEq

section

variable (ctx : DecimalContext)

/-- `_rsi_value`. -/
def rsiValue (s : WilderAverages) : ℚ :=
  if s.averageGain = 0 ∧ s.averageLoss = 0 then 50
  else if s.averageLoss = 0 then 100
  else if s.averageGain = 0 then 0
  else
    let relativeStrength := ctx.round (ctx.div s.averageGain s.averageLoss)
    ctx.round (ctx.sub 100 (ctx.div 100 (ctx.add 1 relativeStrength)))

/-- The part of a change that is a gain. -/
def gainOf (change : ℚ) : ℚ := max change 0

/-- The part of a change that is a loss. -/
def lossOf (change : ℚ) : ℚ := max (ctx.neg change) 0

/-- The averages of the first changes. -/
def wilderSeed (period : ℕ) (changes : List ℚ) : WilderAverages where
  averageGain := meanSeed ctx period (changes.map gainOf)
  averageLoss := meanSeed ctx period (changes.map (lossOf ctx))

/-- The averages after one more change. -/
def wilderStep (period : ℕ) (s : WilderAverages) (change : ℚ) : WilderAverages where
  averageGain := atrStep ctx period s.averageGain (gainOf change)
  averageLoss := atrStep ctx period s.averageLoss (lossOf ctx change)

/-- The changes from each value to the next. -/
def changes (xs : List ℚ) : List ℚ := List.zipWith (fun left right => ctx.sub right left) xs xs.tail

end

namespace RelativeStrengthIndex

variable (rsi : RelativeStrengthIndex)

def descriptor : IndicatorDescriptor := ⟨"rsi", "1", [("period", .integer rsi.period)]⟩

def warmupPoints : ℕ := rsi.period

def values (ctx : DecimalContext) (xs : List ℚ) : List (Option ℚ) :=
  List.replicate (min rsi.period xs.length) none ++
    if rsi.period < xs.length then
      let seed := wilderSeed ctx rsi.period (changes ctx xs)
      some (rsiValue ctx seed) ::
        (scan (wilderStep ctx rsi.period) (rsiValue ctx) seed
          ((changes ctx xs).drop rsi.period)).map some
    else []

def calculate (ctx : DecimalContext) (source : DecimalSeries) : Except Failure IndicatorSeries :=
  alignedSeries rsi.descriptor rsi.warmupPoints source.times (rsi.values ctx source.values)

end RelativeStrengthIndex

/-! ### Moving average convergence divergence -/

/-- MACD with SMA-seeded EMAs and an EMA signal line. -/
structure MovingAverageConvergenceDivergence where
  fastPeriod : ℕ
  slowPeriod : ℕ
  signalPeriod : ℕ
  fastPeriod_pos : 1 ≤ fastPeriod
  signalPeriod_pos : 1 ≤ signalPeriod
  fastPeriod_lt : fastPeriod < slowPeriod

/-- `_required`. -/
def required (value : Option ℚ) : Except Failure ℚ :=
  match value with
  | some v => .ok v
  | none => FailureKind.assertion.raiseWith "an aligned MACD value was unexpectedly unavailable"

/-- `value` less `subtrahend`, where that one is available. -/
def lessAvailable (ctx : DecimalContext) (value subtrahend : Option ℚ) :
    Except Failure (Option ℚ) :=
  match subtrahend with
  | none => .ok none
  | some s => do
    let v ← required value
    return some (ctx.round (ctx.sub v s))

namespace MovingAverageConvergenceDivergence

variable (macd : MovingAverageConvergenceDivergence)

def fast : ExponentialMovingAverage := ⟨macd.fastPeriod, macd.fastPeriod_pos⟩

def slow : ExponentialMovingAverage :=
  ⟨macd.slowPeriod, macd.fastPeriod_pos.trans macd.fastPeriod_lt.le⟩

def signal : ExponentialMovingAverage := ⟨macd.signalPeriod, macd.signalPeriod_pos⟩

/-- The parameters, in the order of their keys. -/
def parameters : List (String × IndicatorParameterValue) :=
  [("fast_period", .integer macd.fastPeriod), ("signal_period", .integer macd.signalPeriod),
    ("slow_period", .integer macd.slowPeriod)]

def descriptor : IndicatorDescriptor := ⟨"macd", "1", macd.parameters⟩

def warmupPoints : ℕ := macd.slowPeriod + macd.signalPeriod - 2

/-- The available part of the MACD line. -/
def compactMacd (times : List Instant) (values : List (Option ℚ)) :
    Except Failure DecimalSeries := do
  let points ← zipStrict times values
  DecimalSeries.construct (points.filterMap fun p => p.2.map fun v => ⟨p.1, v⟩)

def calculate (ctx : DecimalContext) (source : DecimalSeries) :
    Except Failure IndicatorBundle := do
  let fast ← macd.fast.calculate ctx source
  let slow ← macd.slow.calculate ctx source
  let pairs ← zipStrict fast.points slow.points
  let macdValues ← pairs.mapM fun p => lessAvailable ctx p.1.value p.2.value
  let compact ← compactMacd source.times macdValues
  let compactSignal ← macd.signal.calculate ctx compact
  let unavailablePrefix := min (macd.slowPeriod - 1) source.points.length
  let signalValues :=
    List.replicate unavailablePrefix none ++ compactSignal.points.map (·.value)
  let pairs ← zipStrict macdValues signalValues
  let histogramValues ← pairs.mapM fun p => lessAvailable ctx p.1 p.2
  let line ← alignedSeries ⟨"macd_line", "1", macd.parameters⟩ (macd.slowPeriod - 1) source.times
    macdValues
  let signal ← alignedSeries ⟨"macd_signal", "1", macd.parameters⟩ macd.warmupPoints source.times
    signalValues
  let histogram ← alignedSeries ⟨"macd_histogram", "1", macd.parameters⟩ macd.warmupPoints
    source.times histogramValues
  IndicatorBundle.construct macd.descriptor
    [("macd", line), ("signal", signal), ("histogram", histogram)]

end MovingAverageConvergenceDivergence

/-! ### Bollinger bands -/

/-- Population-standard-deviation bands around a rolling arithmetic mean. -/
structure BollingerBands where
  period : ℕ
  standardDeviations : ℚ
  period_pos : 1 ≤ period
  standardDeviations_pos : 0 < standardDeviations

/-- The bands at one point. -/
structure Band where
  middle : ℚ
  upper : ℚ
  lower : ℚ
  deriving DecidableEq

/-- `value.sqrt()`. -/
def squareRoot (ctx : RootContext) (value : ℚ) : Except Failure ℚ := do
  FailureKind.invalidOperation.unless (decide (0 ≤ value)) "sqrt(-x), x > 0"
  return ctx.sqrt value

namespace BollingerBands

variable (bollinger : BollingerBands)

def parameters : List (String × IndicatorParameterValue) :=
  [("period", .integer bollinger.period),
    ("standard_deviations", .decimal bollinger.standardDeviations)]

def descriptor : IndicatorDescriptor := ⟨"bollinger_bands", "1", bollinger.parameters⟩

def warmupPoints : ℕ := bollinger.period - 1

/-- The arithmetic mean of a window. -/
def mean (ctx : DecimalContext) (window : List ℚ) : ℚ :=
  ctx.round (ctx.div (window.foldl ctx.add 0) bollinger.period)

/-- The bands of a window. -/
def band (ctx : RootContext) (window : List ℚ) : Except Failure Band := do
  let middle := bollinger.mean ctx.toDecimalContext window
  let variance := bollinger.mean ctx.toDecimalContext (window.map fun value =>
    let difference := ctx.sub value middle
    ctx.round (ctx.mul difference difference))
  let root ← squareRoot ctx variance
  let deviation := ctx.round root
  let distance := ctx.round (ctx.mul bollinger.standardDeviations deviation)
  return ⟨middle, ctx.round (ctx.add middle distance), ctx.round (ctx.sub middle distance)⟩

/-- The bands of every window, in order. -/
def bands (ctx : RootContext) (xs : List ℚ) : Except Failure (List Band) :=
  (List.range' (bollinger.period - 1) (xs.length - (bollinger.period - 1))).mapM fun endIndex =>
    bollinger.band ctx ((xs.drop (endIndex + 1 - bollinger.period)).take bollinger.period)

def calculate (ctx : RootContext) (source : DecimalSeries) : Except Failure IndicatorBundle := do
  let unavailable := List.replicate (min bollinger.warmupPoints source.points.length) none
  let bands ← bollinger.bands ctx source.values
  let middle ← alignedSeries ⟨"bollinger_middle", "1", bollinger.parameters⟩
    bollinger.warmupPoints source.times (unavailable ++ bands.map fun b => some b.middle)
  let upper ← alignedSeries ⟨"bollinger_upper", "1", bollinger.parameters⟩
    bollinger.warmupPoints source.times (unavailable ++ bands.map fun b => some b.upper)
  let lower ← alignedSeries ⟨"bollinger_lower", "1", bollinger.parameters⟩
    bollinger.warmupPoints source.times (unavailable ++ bands.map fun b => some b.lower)
  IndicatorBundle.construct bollinger.descriptor
    [("middle", middle), ("upper", upper), ("lower", lower)]

end BollingerBands

/-! ### The true range and its average -/

namespace TrueRange

def descriptor : IndicatorDescriptor := ⟨"true_range", "1", []⟩

def warmupPoints : ℕ := 0

def calculate (ctx : DecimalContext) (source : CandleSeries) : Except Failure IndicatorSeries :=
  alignedSeries descriptor warmupPoints source.times ((trueRanges ctx source.candles).map some)

end TrueRange

/-- Wilder ATR seeded by the arithmetic mean of the first true ranges. -/
structure AverageTrueRange where
  period : ℕ
  period_pos : 1 ≤ period

namespace AverageTrueRange

variable (atr : AverageTrueRange)

def descriptor : IndicatorDescriptor := ⟨"atr", "1", [("period", .integer atr.period)]⟩

def warmupPoints : ℕ := atr.period - 1

def values (ctx : DecimalContext) (candles : List Candle) : List (Option ℚ) :=
  seededAverage ctx (atrStep ctx atr.period) atr.period (trueRanges ctx candles)

def calculate (ctx : DecimalContext) (source : CandleSeries) : Except Failure IndicatorSeries :=
  alignedSeries atr.descriptor atr.warmupPoints source.times (atr.values ctx source.candles)

end AverageTrueRange

end Indicators
end DryTrade
