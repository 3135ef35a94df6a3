import DryTrade.Backtesting.Engine
import DryTrade.MarketData.Resampling

/-!
# Paper sessions

A paper session is one fixed configuration, replayed from its start whenever the
local candles grow.  A replay validates the batch it was given, runs the engine
over it without cancelling or closing anything at the end, and publishes the
orders, the fills and the portfolio the run ended with.

Digests are those of a SHA-256 over canonical JSON; which digest a document has is
not interpreted, so they are a parameter, `Encodings`.  A record whose constructor
checks its arguments carries the outcome of the checks as fields, and a check made
again on such a record is left out.

## Main definitions

* `PaperSessionConfig`, `PaperCandleBatch` — what is replayed, and over which candles.
* `PaperSessionState` — what a replay publishes.
* `validatePaperStateAgainstConfig` — the checks on a published state.
* `execute` — one replay.
-/

namespace DryTrade
namespace PaperTrading

open MarketData Indicators Backtesting

/-! ### Identifiers and digests -/

/-- A digit of a lowercase hexadecimal digest. -/
def isHexDigit (c : Char) : Bool := c.isDigit || (decide ('a' ≤ c) && decide (c ≤ 'f'))

/-- `_SHA256`: 64 lowercase hexadecimal digits. -/
def isSha256 (s : String) : Bool := s.toList.length == 64 && s.toList.all isHexDigit

/-- A SHA-256 digest. -/
structure Sha256 where
  text : String
  hex : isSha256 text = true
  deriving DecidableEq

/-- `_SAFE_TOKEN`: an identifier of at most 128 safe characters. -/
def isSafeToken (s : String) : Bool :=
  match s.toList with
  | [] => false
  | c :: cs => c.isAlphanum && cs.all isSafeChar && decide (cs.length ≤ 127)

/-- A tag is a token. -/
theorem isSafeToken_of_isSafeTag {s : String} (h : isSafeTag s = true) : isSafeToken s = true := by
  unfold isSafeTag at h
  unfold isSafeToken
  cases hs : s.toList with
  | nil => simp [hs] at h
  | cons c cs =>
    simp only [hs, Bool.and_eq_true, decide_eq_true_eq] at h ⊢
    exact ⟨h.1, h.2.trans (by decide)⟩

/-! ### Sessions -/

/-- `_ASSET_PATTERN`: a character of an asset after its first one. -/
def isAssetChar (c : Char) : Bool := c.isUpper || c.isDigit || c == '.' || c == '_' || c == '-'

/-- `_ASSET_PATTERN`. -/
def isAsset (s : String) : Bool :=
  match s.toList with
  | [] => false
  | c :: cs => (c.isUpper || c.isDigit) && cs.all isAssetChar && decide (cs.length ≤ 31)

/-- Canonical pair kept separate from an exchange-native symbol. -/
structure TradingPair where
  base : String
  quote : String
  base_valid : isAsset base = true
  quote_valid : isAsset quote = true
  base_ne_quote : base ≠ quote
  deriving DecidableEq

/-- The canonical display representation. -/
def TradingPair.symbol (pair : TradingPair) : String := pair.base ++ "/" ++ pair.quote

/-- Exact executable trading-horizon identity. -/
inductive PaperTradingHorizon
  | dayTrade
  | swingTrade
  deriving DecidableEq, Repr

/-- One fixed paper-trading identity replayed as local RAW data grows. -/
structure PaperSessionConfig where
  pair : TradingPair
  timeframe : Timeframe
  startAt : Instant
  warmupCandles : ℕ
  strategy : StrategyDescriptor
  strategyLifecycleVersion : ℕ
  initialCapital : ℚ
  execution : ExecutionAssumptions
  constraints : InstrumentConstraints
  riskLimits : RiskLimits
  historyWindow : ℕ
  maxCandles : ℕ
  maxOrders : ℕ
  maxEvents : ℕ
  engineVersion : String
  marketRegimePolicy : Option MarketRegimePolicy
  tradingHorizon : Option PaperTradingHorizon
  schemaVersion : ℕ
  startAt_aligned : timeframe.validateOpenTime startAt = true
  warmup_le : warmupCandles ≤ historyWindow
  lifecycle_supported : strategyLifecycleVersion = 1 ∨ strategyLifecycleVersion = 2
  warmup_lifecycle : 0 < warmupCandles → strategyLifecycleVersion = 2
  no_forceClose : execution.forceCloseAtEnd = false
  schema_supported : schemaVersion = 1 ∨ schemaVersion = 2 ∨ schemaVersion = 3
  schema_one : schemaVersion = 1 → marketRegimePolicy = none ∧ tradingHorizon = none
  schema_two : schemaVersion = 2 → marketRegimePolicy.isSome = true ∧ tradingHorizon = none
  schema_three : schemaVersion = 3 → tradingHorizon.isSome = true
  initialCapital_pos : 0 < initialCapital
  historyWindow_pos : 1 ≤ historyWindow
  historyWindow_le : historyWindow ≤ maxCandles
  maxOrders_pos : 1 ≤ maxOrders
  maxEvents_pos : 1 ≤ maxEvents
  engineVersion_safe : isSafeToken engineVersion = true

/-- The first candle a replay reads. -/
def PaperSessionConfig.contextStart (config : PaperSessionConfig) : Instant :=
  config.startAt - config.warmupCandles * config.timeframe.duration

/-- One immutable source projection used by a replay cycle. -/
structure PaperCandleBatch where
  dataRange : DataRange
  datasetVersion : Sha256
  sourceChecksum : Sha256
  candles : List Candle
  candles_ne : candles ≠ []

/-- The semantic payload of a state: everything but when it was replayed. -/
structure PaperStatePayload where
  schemaVersion : ℕ
  sessionId : Sha256
  configChecksum : Sha256
  datasetVersion : Sha256
  sourceChecksum : Sha256
  dataRange : DataRange
  evaluationRange : DataRange
  candlesProcessed : ℕ
  lastCandleOpenTime : Instant
  orders : List SimulatedOrder
  fills : List Fill
  portfolio : PortfolioSnapshot
  riskHalt : Bool
  latestMarketRegime : Option MarketRegimePoint
  deriving DecidableEq

/-- Complete verified state produced by replaying one session. -/
structure PaperSessionState extends PaperStatePayload where
  replayedAt : Instant
  stateId : Sha256
  checksum : Sha256
  deriving DecidableEq

/-- The digests of canonical documents, and the text of an instant. -/
structure Encodings where
  sessionId : PaperSessionConfig → Sha256
  configChecksum : PaperSessionConfig → Sha256
  /-- Of the session, the source checksum and the range. -/
  snapshotId : Sha256 → Sha256 → DataRange → Sha256
  sourceChecksum : List Candle → Sha256
  stateId : PaperStatePayload → Sha256
  /-- Of the payload, the time of the replay and the state id. -/
  stateChecksum : PaperStatePayload → Instant → Sha256 → Sha256
  /-- Of the session, the sequence of the trade and its first fill. -/
  tradeId : Sha256 → ℕ → String → Sha256
  isoformat : Instant → String

/-! ### The checks on a state -/

/-- The checks of the constructor of an order on its lifecycle fields. -/
def lifecycleCanonical (order : SimulatedOrder) : Bool :=
  match order.status with
  | .created => order.openedAt.isNone && order.terminalAt.isNone
  | .open => order.openedAt.isSome && order.terminalAt.isNone
  | .rejected => order.terminalAt.isSome && order.rejectionCode.any isSafeTag
  | .filled | .cancelled | .expired => order.terminalAt.isSome && order.rejectionCode.isNone

/-- The checks of the constructor of an order. -/
def orderCanonical (order : SimulatedOrder) : Bool :=
  isSafeToken order.orderId && decide (1 ≤ order.createdSequence) &&
    decide (-1 ≤ order.createdCandleIndex) &&
    decide (order.createdCandleIndex < order.eligibleCandleIndex) && lifecycleCanonical order

/-- The checks of the constructor of a fill. -/
def fillCanonical (ctx : DecimalContext) (fill : Fill) : Bool :=
  isSafeToken fill.fillId && isSafeToken fill.orderId && (fill.validate ctx).isOk

/-- `_revalidate_orders_and_fills`: the records are canonical, and the fills are those of exactly
the filled orders. -/
def ordersAndFillsCanonical (ctx : DecimalContext) (orders : List SimulatedOrder)
    (fills : List Fill) : Bool :=
  orders.all orderCanonical && decide (orders.map SimulatedOrder.orderId).Nodup &&
    decide (orders.map SimulatedOrder.createdSequence = List.range' 1 orders.length) &&
    fills.all (fillCanonical ctx) && decide (fills.map Fill.fillId).Nodup &&
    decide (fills.map Fill.orderId).Nodup &&
    (fills.all fun f => decide (f.orderId ∈ orders.map SimulatedOrder.orderId)) &&
    (orders.all fun o => decide (o.orderId ∈ fills.map Fill.orderId → o.status = .filled)) &&
    (orders.all fun o => decide (o.status = .filled → o.orderId ∈ fills.map Fill.orderId))

/-- The fields the constructor of a snapshot requires to be nonnegative. -/
def nonnegativeSnapshotFields (p : PortfolioSnapshot) : List ℚ :=
  [p.quoteCash, p.baseQuantity, p.averageEntryPrice, p.totalFees, p.totalSlippageCost, p.equity,
    p.peakEquity, p.drawdown, p.costBasis, p.drawdownPct]

/-- `_revalidate_portfolio`: the checks of the constructor of a snapshot. -/
def portfolioCanonical (ctx : DecimalContext) (p : PortfolioSnapshot) : Bool :=
  (nonnegativeSnapshotFields p).all (fun v => decide (0 ≤ v)) &&
    decide (p.baseQuantity = 0 → p.averageEntryPrice = 0 ∧ p.costBasis = 0) &&
    decide (0 < p.baseQuantity → 0 < p.averageEntryPrice ∧ 0 < p.costBasis) &&
    decide (p.equity ≤ p.peakEquity) && decide (p.drawdown = ctx.sub p.peakEquity p.equity) &&
    decide (p.drawdownPct = expectedDrawdownPct ctx p.peakEquity p.drawdown)

/-- The regime of a state fits its schema version. -/
def regimeCanonical (schemaVersion : ℕ) (regime : Option MarketRegimePoint) : Bool :=
  if schemaVersion = 1 then regime.isNone else regime.any fun point => point.validate.isOk

section

variable (ctx : DecimalContext) (encodings : Encodings)

/-- The checks of the constructor of a state. -/
def validatePaperSessionState (state : PaperSessionState) : Except Failure Unit := do
  FailureKind.paperSessionCorrupt.require
    (decide (state.schemaVersion = 1 ∨ state.schemaVersion = 2))
  FailureKind.paperSessionCorrupt.require
    (regimeCanonical state.schemaVersion state.latestMarketRegime)
  FailureKind.paperSessionCorrupt.require
    (decide (state.dataRange.start ≤ state.evaluationRange.start) &&
      decide (state.evaluationRange.stop = state.dataRange.stop))
  FailureKind.paperSessionCorrupt.require (decide (1 ≤ state.candlesProcessed))
  FailureKind.paperSessionCorrupt.require (ordersAndFillsCanonical ctx state.orders state.fills)
  FailureKind.paperSessionCorrupt.require (portfolioCanonical ctx state.portfolio)
  FailureKind.paperSessionCorrupt.require
    (decide (state.evaluationRange.start ≤ state.lastCandleOpenTime) &&
      decide (state.lastCandleOpenTime < state.dataRange.stop))
  FailureKind.paperSessionCorrupt.require
    (state.latestMarketRegime.all fun point =>
      decide (state.lastCandleOpenTime < point.eventTime) &&
        decide (point.eventTime ≤ state.dataRange.stop))
  FailureKind.paperSessionCorrupt.require
    (decide (encodings.stateId state.toPaperStatePayload = state.stateId))
  FailureKind.paperSessionCorrupt.require
    (decide (encodings.stateChecksum state.toPaperStatePayload state.replayedAt state.stateId =
      state.checksum))

/-- `warmup_points`: the prefix where at least one required input is unavailable. -/
def regimeWarmupPoints (policy : MarketRegimePolicy) : ℕ :=
  max (policy.slowEmaPeriod - 1) (policy.atrPeriod - 1)

/-- The regime of a state fits the policy of its session. -/
def regimeFitsPolicy (config : PaperSessionConfig) (state : PaperSessionState) : Bool :=
  match config.marketRegimePolicy with
  | none => decide (state.schemaVersion = 1) && state.latestMarketRegime.isNone
  | some policy =>
      decide (state.schemaVersion = 2) &&
        state.latestMarketRegime.any fun point =>
          decide ((point.regime = .warmup) ↔
            config.warmupCandles + state.candlesProcessed ≤ regimeWarmupPoints policy)

/-- The checks on a state of the given session. -/
def validatePaperStateAgainstConfig (state : PaperSessionState) (config : PaperSessionConfig) :
    Except Failure Unit := do
  validatePaperSessionState ctx encodings state
  FailureKind.paperSessionVerification.require
    (decide (state.sessionId = encodings.sessionId config) &&
      decide (state.configChecksum = encodings.configChecksum config) &&
      decide (state.dataRange.start = config.contextStart) &&
      decide (state.evaluationRange.start = config.startAt) &&
      decide (state.evaluationRange.stop = state.dataRange.stop))
  FailureKind.paperSessionVerification.require (regimeFitsPolicy config state)
  let duration := config.timeframe.duration
  FailureKind.paperSessionVerification.require
    (decide ((state.dataRange.stop - state.dataRange.start) % duration = 0))
  let expectedContext := (state.dataRange.stop - state.dataRange.start) / duration
  let expectedEvaluation := (state.evaluationRange.stop - state.evaluationRange.start) / duration
  FailureKind.paperSessionVerification.require
    (decide (expectedContext ≤ config.maxCandles) && decide (1 ≤ expectedEvaluation) &&
      decide ((state.candlesProcessed : ℤ) = expectedEvaluation) &&
      decide (state.lastCandleOpenTime = state.dataRange.stop - duration) &&
      decide (state.orders.length ≤ min config.maxOrders config.riskLimits.maxTotalOrders) &&
      decide (state.fills.length ≤ state.orders.length))

/-! ### Replaying a session -/

/-- The candles of a batch follow one another from `expected` to the end of its range. -/
def candlesFit (config : PaperSessionConfig) (stop : Instant) : Instant → List Candle → Bool
  | expected, [] => expected == stop
  | expected, candle :: candles =>
      (validateCandleSerialization candle true).isOk && candle.exchange == .binance &&
        candle.marketType == .spot && candle.symbol == config.pair.symbol &&
        decide (candle.timeframe = config.timeframe) && candle.openTime == expected &&
        (candle.closeTime == expected + config.timeframe.duration ||
          candle.closeTime == expected + config.timeframe.duration - 1000) &&
        candle.isClosed &&
        candlesFit config stop (expected + config.timeframe.duration) candles

/-- `_validate_batch`: the batch is the contiguous projection the session replays. -/
structure BatchFits (config : PaperSessionConfig) (batch : PaperCandleBatch) : Prop where
  start : batch.dataRange.start = config.contextStart
  startAt_lt : config.startAt < batch.dataRange.stop
  start_aligned : config.timeframe.validateOpenTime batch.dataRange.start = true
  stop_aligned : config.timeframe.validateOpenTime batch.dataRange.stop = true
  count_pos : 1 ≤ (batch.dataRange.stop - batch.dataRange.start) / config.timeframe.duration
  count_le :
    (batch.dataRange.stop - batch.dataRange.start) / config.timeframe.duration ≤ config.maxCandles
  count : (batch.candles.length : ℤ) =
    (batch.dataRange.stop - batch.dataRange.start) / config.timeframe.duration
  candles : candlesFit config batch.dataRange.stop batch.dataRange.start batch.candles = true
  checksum : encodings.sourceChecksum batch.candles = batch.sourceChecksum

end

theorem batchFits_iff {encodings : Encodings} {config : PaperSessionConfig}
    {batch : PaperCandleBatch} : BatchFits encodings config batch ↔
      batch.dataRange.start = config.contextStart ∧ config.startAt < batch.dataRange.stop ∧
      config.timeframe.validateOpenTime batch.dataRange.start = true ∧
      config.timeframe.validateOpenTime batch.dataRange.stop = true ∧
      1 ≤ (batch.dataRange.stop - batch.dataRange.start) / config.timeframe.duration ∧
      (batch.dataRange.stop - batch.dataRange.start) / config.timeframe.duration ≤
        config.maxCandles ∧
      (batch.candles.length : ℤ) =
        (batch.dataRange.stop - batch.dataRange.start) / config.timeframe.duration ∧
      candlesFit config batch.dataRange.stop batch.dataRange.start batch.candles = true ∧
      encodings.sourceChecksum batch.candles = batch.sourceChecksum :=
  ⟨fun h => ⟨h.1, h.2, h.3, h.4, h.5, h.6, h.7, h.8, h.9⟩,
    fun ⟨h1, h2, h3, h4, h5, h6, h7, h8, h9⟩ => ⟨h1, h2, h3, h4, h5, h6, h7, h8, h9⟩⟩

instance (encodings : Encodings) (config : PaperSessionConfig) (batch : PaperCandleBatch) :
    Decidable (BatchFits encodings config batch) := decidable_of_iff' _ batchFits_iff

section

variable {σ : Type}

/-- One registered strategy: its lifecycle, and what building it from parameters gives, or the
text of the exception it raises. -/
structure StrategyPlugin (σ : Type) where
  lifecycleVersion : ℕ
  build : List (String × StrategyParameterValue) → Except String (Strategy σ)

/-- Resolve a strategy by name and version, or raise. -/
abbrev StrategyPluginRegistry (σ : Type) := String → String → Except String (StrategyPlugin σ)

/-- `_build_strategy`. -/
def buildStrategy (registry : StrategyPluginRegistry σ) (config : PaperSessionConfig) :
    Except Failure (Strategy σ) :=
  match registry config.strategy.name config.strategy.version with
  | .error text => FailureKind.invalidPaperSession.raiseWith text
  | .ok plugin => do
      FailureKind.invalidPaperSession.unless
        (decide (plugin.lifecycleVersion = config.strategyLifecycleVersion))
        "O lifecycle da estratégia diverge da sessão."
      match plugin.build config.strategy.parameters with
      | .error text => FailureKind.invalidPaperSession.raiseWith text
      | .ok strategy => do
          FailureKind.invalidPaperSession.unless (decide (strategy.descriptor = config.strategy))
            "A estratégia diverge da configuração da sessão."
          return strategy

/-- The adapter exposing one frozen candle batch to the engine. -/
def inMemoryReader (snapshot : DatasetSnapshot) (candles : List Candle) :
    BacktestSnapshotReader where
  openSnapshot := fun snapshotId => if snapshotId = snapshot.snapshotId then some snapshot else none
  iterCandles := fun range => candles.filter fun candle =>
    decide (range.start ≤ candle.openTime) && decide (candle.openTime < range.stop)
  verifyUnchanged := some snapshot

/-- The configuration the engine runs a batch with. -/
def backtestConfig (config : PaperSessionConfig) (range : DataRange) (snapshotId : String)
    (hstart : range.start = config.contextStart) (hstop : config.startAt < range.stop) :
    BacktestConfig where
  snapshotId := snapshotId
  dataRange := range
  strategy := config.strategy
  initialCapital := config.initialCapital
  execution := config.execution
  constraints := config.constraints
  riskLimits := config.riskLimits
  historyWindow := config.historyWindow
  maxCandles := config.maxCandles
  maxOrders := config.maxOrders
  maxEvents := config.maxEvents
  evaluation := some
    { range := ⟨config.startAt, range.stop, hstop⟩
      strategyLifecycleVersion := config.strategyLifecycleVersion
      lifecycle_supported := config.lifecycle_supported }
  marketRegimePolicy := config.marketRegimePolicy
  initialCapital_pos := config.initialCapital_pos
  historyWindow_pos := config.historyWindow_pos
  historyWindow_le := config.historyWindow_le
  maxOrders_pos := config.maxOrders_pos
  maxEvents_pos := config.maxEvents_pos
  evaluation_inside := by
    rintro e he
    cases he
    have hwarmup : 0 ≤ (config.warmupCandles : ℤ) * config.timeframe.duration :=
      mul_nonneg (by positivity) config.timeframe.duration_pos.le
    refine ⟨?_, rfl, fun hone => ?_⟩
    · rw [hstart, PaperSessionConfig.contextStart]
      exact sub_le_self _ hwarmup
    · have hzero : config.warmupCandles = 0 := by
        by_contra hne
        have htwo := config.warmup_lifecycle (Nat.pos_of_ne_zero hne)
        change config.strategyLifecycleVersion = 1 at hone
        omega
      obtain ⟨start, stop, hlt⟩ := range
      simp only [PaperSessionConfig.contextStart, hzero] at hstart
      simp only [Nat.cast_zero, zero_mul, sub_zero] at hstart
      subst hstart
      rfl

/-- `build_paper_session_state`. -/
def buildPaperSessionState (ctx : DecimalContext) (encodings : Encodings)
    (config : PaperSessionConfig) (datasetVersion : Sha256) (batch : PaperCandleBatch)
    (hstop : config.startAt < batch.dataRange.stop) (result : BacktestExecutionResult)
    (replayedAt : Instant) : Except Failure PaperSessionState := do
  let schemaVersion := if config.marketRegimePolicy.isSome then 2 else 1
  let latestMarketRegime := result.marketRegimes.getLast?
  FailureKind.paperSessionCorrupt.require
    (!(decide (schemaVersion = 1) && latestMarketRegime.isSome))
  FailureKind.paperSessionCorrupt.require
    (!(decide (schemaVersion = 2) && latestMarketRegime.isNone))
  let payload : PaperStatePayload :=
    { schemaVersion := schemaVersion
      sessionId := encodings.sessionId config
      configChecksum := encodings.configChecksum config
      datasetVersion := datasetVersion
      sourceChecksum := batch.sourceChecksum
      dataRange := batch.dataRange
      evaluationRange := ⟨config.startAt, batch.dataRange.stop, hstop⟩
      candlesProcessed := result.candlesProcessed
      lastCandleOpenTime := (batch.candles.getLast batch.candles_ne).openTime
      orders := result.orders
      fills := result.fills
      portfolio := result.finalPortfolio
      riskHalt := result.riskHalt
      latestMarketRegime := latestMarketRegime }
  let stateId := encodings.stateId payload
  let state : PaperSessionState :=
    { payload with
      replayedAt := replayedAt
      stateId := stateId
      checksum := encodings.stateChecksum payload replayedAt stateId }
  validatePaperSessionState ctx encodings state
  return state

/-- The synthetic snapshot of a batch. -/
def paperSnapshot (encodings : Encodings) (config : PaperSessionConfig) (datasetVersion : Sha256)
    (batch : PaperCandleBatch) (replayTime : Instant) : DatasetSnapshot where
  snapshotId :=
    (encodings.snapshotId (encodings.sessionId config) batch.sourceChecksum batch.dataRange).text
  datasetKey := "raw:binance:spot:" ++ config.pair.symbol ++ ":" ++ config.timeframe.code
  datasetVersion := datasetVersion.text
  checksum := batch.sourceChecksum.text
  dataRange := batch.dataRange
  partitions := []
  manifestPath := "paper-trading/in-memory"
  createdAt := encodings.isoformat replayTime

/-- `PaperTradingService._execute`: one replay, at the given time. -/
def execute (ctx : DecimalContext) (encodings : Encodings)
    (calculateEntryHash : String → RawLedgerEntry → String) (registry : StrategyPluginRegistry σ)
    (config : PaperSessionConfig) (batch : PaperCandleBatch) (replayTime : Instant)
    (datasetVersionOverride : Option Sha256) : Except Failure PaperSessionState :=
  if fits : BatchFits encodings config batch then do
    let datasetVersion := datasetVersionOverride.getD batch.datasetVersion
    let snapshot := paperSnapshot encodings config datasetVersion batch replayTime
    let strategy ← buildStrategy registry config
    let runConfig := backtestConfig config batch.dataRange snapshot.snapshotId fits.start
      fits.startAt_lt
    let (result, _) ← run ctx calculateEntryHash strategy runConfig
      (inMemoryReader snapshot batch.candles) false
    let state ← buildPaperSessionState ctx encodings config datasetVersion batch fits.startAt_lt
      result replayTime
    validatePaperStateAgainstConfig ctx encodings state config
    return state
  else
    FailureKind.paperSessionVerification.raiseWith
      "A fonte de candles diverge do contrato da sessão."

end

end PaperTrading
end DryTrade
