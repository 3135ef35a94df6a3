import DryTrade.Decimal

/-!
# Candles and time ranges

The market-data records every other part of the system reads.  An instant is the
number of microseconds since the epoch, in UTC, which is exactly what an aware
UTC `datetime` carries.  Records whose constructor checks its arguments carry
the outcome of the checks as fields, so an invalid one cannot be built.

## Main definitions

* `Uuid` — an identifier.
* `Instant`, `DataRange` — instants and half-open intervals of them.
* `Timeframe` — a candle cadence.
* `Candle` — one OHLCV candle.
-/

namespace DryTrade

/-- A UUID that is not zero. -/
structure Uuid where
  value : ℕ
  nonzero : value ≠ 0
  deriving DecidableEq, Repr

/-- An instant: microseconds since the epoch, in UTC. -/
abbrev Instant := ℤ

/-- Microseconds in one day. -/
def Instant.microsecondsPerDay : ℤ := 86400000000

theorem Instant.days_pos {days : ℕ} (h : 0 < days) : (0 : ℤ) < days * Instant.microsecondsPerDay :=
  mul_pos (Int.natCast_pos.mpr h) (by decide)

/-- The calendar day of an instant, counted from the epoch. -/
def Instant.date (t : Instant) : ℤ := t / Instant.microsecondsPerDay

namespace MarketData

/-- Canonical market families. -/
inductive MarketType
  | spot
  | forex
  | equity
  | futures
  deriving DecidableEq, Repr

/-- Canonical exchange identifiers. -/
inductive Exchange
  | binance
  deriving DecidableEq, Repr

/-- Half-open interval `[start, end)`. -/
structure DataRange where
  /-- The first instant of the range. -/
  start : Instant
  /-- The first instant after it. -/
  stop : Instant
  /-- A range is never empty. -/
  start_lt_stop : start < stop
  deriving DecidableEq, Repr

/-- A candle cadence. -/
structure Timeframe where
  /-- Its canonical code. -/
  code : String
  /-- Its length in microseconds. -/
  duration : ℤ
  /-- Its offset from the epoch. -/
  alignment : ℤ
  duration_pos : 0 < duration
  alignment_nonneg : 0 ≤ alignment
  alignment_lt : alignment < duration
  deriving DecidableEq, Repr

/-- `open_time` is aligned to the cadence. -/
def Timeframe.validateOpenTime (tf : Timeframe) (openTime : Instant) : Bool :=
  (openTime - tf.alignment) % tf.duration == 0

/-- One canonical OHLCV candle. -/
structure Candle where
  exchange : Exchange
  marketType : MarketType
  symbol : String
  timeframe : Timeframe
  openTime : Instant
  closeTime : Instant
  openPrice : ℚ
  high : ℚ
  low : ℚ
  close : ℚ
  volume : ℚ
  quoteVolume : Option ℚ
  tradeCount : Option ℤ
  isClosed : Bool
  source : String
  openTime_aligned : timeframe.validateOpenTime openTime = true
  openTime_lt_closeTime : openTime < closeTime
  high_ge : max openPrice (max close low) ≤ high
  low_le : low ≤ min openPrice (min close high)
  volume_nonneg : 0 ≤ volume
  quoteVolume_nonneg : ∀ v ∈ quoteVolume, 0 ≤ v
  tradeCount_nonneg : ∀ n ∈ tradeCount, 0 ≤ n
  deriving DecidableEq

/-- The series a candle belongs to. -/
def Candle.identity (c : Candle) : Exchange × MarketType × String × String :=
  (c.exchange, c.marketType, c.symbol, c.timeframe.code)

theorem Timeframe.epoch_nonneg : (0 : ℤ) ≤ 0 := le_rfl

/-- The daily cadence. -/
def dailyTimeframe : Timeframe where
  code := "1d"
  duration := Instant.microsecondsPerDay
  alignment := 0
  duration_pos := by decide
  alignment_nonneg := Timeframe.epoch_nonneg
  alignment_lt := by decide

theorem Candle.unitVolume_nonneg : (0 : ℚ) ≤ 1 := zero_le_one

theorem Candle.quoteVolume_none : ∀ v ∈ (none : Option ℚ), 0 ≤ v := by simp

theorem Candle.tradeCount_none : ∀ n ∈ (none : Option ℤ), 0 ≤ n := by simp

/-- The candle of day `day` that moves from `openPrice` to `close`. -/
def dailyCandle (day : ℕ) (openPrice close : ℚ) : Candle where
  exchange := .binance
  marketType := .spot
  symbol := "BTCUSDT"
  timeframe := dailyTimeframe
  openTime := day * Instant.microsecondsPerDay
  closeTime := day * Instant.microsecondsPerDay + (Instant.microsecondsPerDay - 1)
  openPrice := openPrice
  high := max openPrice close
  low := min openPrice close
  close := close
  volume := 1
  quoteVolume := none
  tradeCount := none
  isClosed := true
  source := "binance"
  openTime_aligned := by simp [Timeframe.validateOpenTime, dailyTimeframe]
  openTime_lt_closeTime := by simp [Instant.microsecondsPerDay]
  high_ge := by simp
  low_le := by simp
  volume_nonneg := Candle.unitVolume_nonneg
  quoteVolume_nonneg := Candle.quoteVolume_none
  tradeCount_nonneg := Candle.tradeCount_none

end MarketData
end DryTrade
