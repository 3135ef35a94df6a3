import DryTrade.Failure
import DryTrade.MarketData.Domain

/-!
# Market regimes

The accumulator that classifies closed candles one at a time as trending, ranging
or volatile, from two exponential moving averages and the average true range.
It holds fixed-size state, so a candle is classified from the candles before it
only.

## Main definitions

* `MarketRegimePolicy`, `MarketRegimePoint` — thresholds and classifications.
* `MarketRegimeAccumulator.update` — consume one closed candle.
-/

namespace DryTrade
namespace Indicators

open MarketData

/-- Mutually exclusive regime classes. -/
inductive MarketRegimeKind
  | warmup
  | trend
  | range
  | volatile
  deriving DecidableEq, Repr

/-- Directional evidence, emitted only for the trend regime. -/
inductive TrendDirection
  | none
  | up
  | down
  deriving DecidableEq, Repr

/-- Thresholds and periods of the classification. -/
structure MarketRegimePolicy where
  fastEmaPeriod : ℕ
  slowEmaPeriod : ℕ
  atrPeriod : ℕ
  volatileAtrRatio : ℚ
  trendStrengthThreshold : ℚ
  fastEmaPeriod_pos : 1 ≤ fastEmaPeriod
  fast_lt_slow : fastEmaPeriod < slowEmaPeriod
  atrPeriod_pos : 1 ≤ atrPeriod
  volatileAtrRatio_pos : 0 < volatileAtrRatio
  trendStrengthThreshold_pos : 0 < trendStrengthThreshold
  deriving DecidableEq

/-- One closed-candle classification. -/
structure MarketRegimePoint where
  eventTime : Instant
  regime : MarketRegimeKind
  trendDirection : TrendDirection
  fastEma : Option ℚ
  slowEma : Option ℚ
  atr : Option ℚ
  atrRatio : Option ℚ
  trendStrength : Option ℚ
  deriving DecidableEq, Repr

/-- The metrics of a point, in the order its constructor checks them. -/
def MarketRegimePoint.metrics (p : MarketRegimePoint) : List (Option ℚ) :=
  [p.fastEma, p.slowEma, p.atr, p.atrRatio, p.trendStrength]

/-- The checks of the constructor of a point. -/
def MarketRegimePoint.validate (p : MarketRegimePoint) : Except Failure MarketRegimePoint :=
  if p.regime = .warmup then do
    FailureKind.invalidIndicatorInput.unless
      (decide (p.trendDirection = .none) && p.metrics.all Option.isNone)
      "warmup regime points must not expose classification metrics"
    return p
  else do
    FailureKind.invalidIndicatorInput.unless (p.metrics.all Option.isSome)
      "classified regime points require finite Decimal metrics"
    FailureKind.invalidIndicatorInput.unless (decide (0 ≤ p.atr.getD 0)) "ATR must be nonnegative"
    FailureKind.invalidIndicatorInput.unless
      (decide (0 ≤ p.atrRatio.getD 0) && decide (0 ≤ p.trendStrength.getD 0))
      "market-regime ratios and strengths must be nonnegative"
    if p.regime = .trend then
      FailureKind.invalidIndicatorInput.unless (decide (p.trendDirection ≠ .none))
        "trend regime points require an up or down direction"
    else
      FailureKind.invalidIndicatorInput.unless (decide (p.trendDirection = .none))
        "range and volatile regime points must use direction none"
    return p

/-- The fixed-memory state of the accumulator. -/
structure MarketRegimeAccumulator where
  policy : MarketRegimePolicy
  count : ℕ
  previousCandle : Option Candle
  fastSeed : ℚ
  slowSeed : ℚ
  atrSeed : ℚ
  fastEma : Option ℚ
  slowEma : Option ℚ
  atr : Option ℚ
  deriving DecidableEq

/-- The accumulator before the first candle. -/
def MarketRegimeAccumulator.init (policy : MarketRegimePolicy) : MarketRegimeAccumulator :=
  ⟨policy, 0, none, 0, 0, 0, none, none, none⟩

/-- `_candle_identity`. -/
def candleIdentity (c : Candle) : Exchange × MarketType × String × String × ℤ × ℤ :=
  (c.exchange, c.marketType, c.symbol, c.timeframe.code, c.timeframe.duration,
    c.timeframe.alignment)

/-- The checks of the constructor of a candle series. -/
def validateCandleSeries (candles : List Candle) : Except Failure Unit := do
  FailureKind.invalidIndicatorInput.unless (candles.all fun c => c.isClosed)
    "indicator candle series must contain only closed candles"
  match candles with
  | [] => pure ()
  | first :: rest =>
    FailureKind.invalidIndicatorInput.unless
      (rest.all fun c => candleIdentity c == candleIdentity first)
      "indicator candle series must use one instrument and timeframe"
  FailureKind.invalidIndicatorInput.unless
    ((candles.zip candles.tail).all fun (left, right) =>
      decide (left.openTime < right.openTime ∧ left.closeTime < right.closeTime))
    "indicator candles must be strictly chronological"

section

variable (ctx : DecimalContext)

/-- The true range of a candle. -/
def trueRange (candle : Candle) (previous : Option Candle) : ℚ :=
  let intrabar := ctx.sub candle.high candle.low
  match previous with
  | none => ctx.round intrabar
  | some p =>
      ctx.round (max (max intrabar (ctx.abs (ctx.sub candle.high p.close)))
        (ctx.abs (ctx.sub candle.low p.close)))

/-- One step of an exponential moving average: the value, if it is out of its
warmup, and the running seed. -/
def nextEma (close : ℚ) (count period : ℕ) (seed : ℚ) (previous : Option ℚ) : Option ℚ × ℚ :=
  let seed := if count ≤ period then ctx.round (ctx.add seed close) else seed
  if count < period then (none, seed)
  else if count = period then (some (ctx.round (ctx.div seed period)), seed)
  else
    let alpha := ctx.round (ctx.div 2 (period + 1))
    (previous.map fun e => ctx.round (ctx.add e (ctx.mul alpha (ctx.sub close e))), seed)

/-- One step of the Wilder average true range. -/
def nextAtr (range : ℚ) (count period : ℕ) (seed : ℚ) (previous : Option ℚ) : Option ℚ × ℚ :=
  let seed := if count ≤ period then ctx.round (ctx.add seed range) else seed
  if count < period then (none, seed)
  else if count = period then (some (ctx.round (ctx.div seed period)), seed)
  else
    (previous.map fun a =>
      ctx.round (ctx.div (ctx.add (ctx.mul a ((period : ℚ) - 1)) range) period), seed)

/-- The classification of a candle under the current averages. -/
def pointFor (candle : Candle) (fastEma slowEma atr : Option ℚ) (policy : MarketRegimePolicy) :
    Except Failure MarketRegimePoint :=
  match fastEma, slowEma, atr with
  | some fast, some slow, some range =>
      let atrRatio := ctx.round (ctx.div range candle.close)
      let trendStrength :=
        if range = 0 then 0 else ctx.round (ctx.div (ctx.abs (ctx.sub fast slow)) range)
      let classified : MarketRegimeKind × TrendDirection :=
        if policy.volatileAtrRatio ≤ atrRatio then (.volatile, .none)
        else if policy.trendStrengthThreshold ≤ trendStrength ∧ fast ≠ slow then
          (.trend, if slow < fast then .up else .down)
        else (.range, .none)
      MarketRegimePoint.validate
        { eventTime := candle.closeTime
          regime := classified.1
          trendDirection := classified.2
          fastEma := some fast
          slowEma := some slow
          atr := some range
          atrRatio := some atrRatio
          trendStrength := some trendStrength }
  | _, _, _ =>
      MarketRegimePoint.validate
        { eventTime := candle.closeTime
          regime := .warmup
          trendDirection := .none
          fastEma := none
          slowEma := none
          atr := none
          atrRatio := none
          trendStrength := none }

/-- Consume exactly one new closed candle and return its classification. -/
def MarketRegimeAccumulator.update (acc : MarketRegimeAccumulator) (candle : Candle) :
    Except Failure (MarketRegimePoint × MarketRegimeAccumulator) := do
  validateCandleSeries (acc.previousCandle.toList ++ [candle])
  FailureKind.invalidIndicatorInput.unless (decide (0 < candle.close))
    "market-regime classification requires positive close prices"
  let count := acc.count + 1
  let range := trueRange ctx candle acc.previousCandle
  let (fastEma, fastSeed) :=
    nextEma ctx candle.close count acc.policy.fastEmaPeriod acc.fastSeed acc.fastEma
  let (slowEma, slowSeed) :=
    nextEma ctx candle.close count acc.policy.slowEmaPeriod acc.slowSeed acc.slowEma
  let (atr, atrSeed) := nextAtr ctx range count acc.policy.atrPeriod acc.atrSeed acc.atr
  let point ← pointFor ctx candle fastEma slowEma atr acc.policy
  return (point,
    { acc with
      count := count
      previousCandle := some candle
      fastSeed := fastSeed
      slowSeed := slowSeed
      atrSeed := atrSeed
      fastEma := fastEma
      slowEma := slowEma
      atr := atr })

end

end Indicators
end DryTrade
