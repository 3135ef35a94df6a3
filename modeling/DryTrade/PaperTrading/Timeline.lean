import DryTrade.Backtesting.LedgerRounding
import DryTrade.PaperTrading.Domain

/-!
# Portfolio timelines

The timeline of a published state is its portfolio at every close.  It is rebuilt
from the fills of the state and from the candles of its batch, and its observations
and their sequence are then checked against identities of the accounting.  Under a
rounding context each side of such an identity is computed with roundings of its own.

The digests of a timeline are not interpreted, so they are parameters.

## Main definitions

* `PaperPortfolioObservation`, `PaperPortfolioTimeline` — and the checks on them.
* `buildPaperPortfolioTimeline` — the timeline of a state.
-/

namespace DryTrade
namespace PaperTrading

open MarketData Backtesting

/-- One engine-accounting observation bound to one verified closed candle. -/
structure PaperPortfolioObservation extends PortfolioSnapshot where
  sessionId : Sha256
  configChecksum : Sha256
  stateId : Sha256
  datasetVersion : Sha256
  sourceChecksum : Sha256
  candleIndex : ℕ
  candleOpenTime : Instant
  candleCloseTime : Instant
  markPrice : ℚ
  riskHalt : Bool
  deriving DecidableEq

section

variable (ctx : DecimalContext)

/-- The accounts of an observation are those of its mark price. -/
def PaperPortfolioObservation.accountsFit (o : PaperPortfolioObservation) : Bool :=
  let marketValue := ctx.mul o.baseQuantity o.markPrice
  decide (o.equity = ctx.add o.quoteCash marketValue) &&
    decide (o.unrealizedPnl = ctx.sub marketValue o.costBasis) &&
    if 0 < o.baseQuantity then
      decide (o.averageEntryPrice = ctx.div o.costBasis o.baseQuantity)
    else decide (o.averageEntryPrice = 0) && decide (o.costBasis = 0)

/-- The checks of the constructor of an observation. -/
def PaperPortfolioObservation.validate (o : PaperPortfolioObservation) :
    Except Failure PaperPortfolioObservation := do
  FailureKind.paperSessionVerification.unless
    (decide (o.candleOpenTime < o.candleCloseTime) && decide (0 < o.markPrice) &&
      portfolioCanonical ctx o.toPortfolioSnapshot && o.accountsFit ctx)
    "Uma observação da timeline de portfólio é inválida."
  return o

end

/-- What the digests of a timeline are taken of. -/
structure TimelinePayload where
  sessionId : Sha256
  configChecksum : Sha256
  stateId : Sha256
  stateChecksum : Sha256
  engineVersion : String
  strategyLifecycleVersion : ℕ
  baseAsset : String
  quoteAsset : String
  timeframe : String
  datasetVersion : Sha256
  sourceChecksum : Sha256
  dataRange : DataRange
  evaluationRange : DataRange
  initialCapital : ℚ
  candlesProcessed : ℕ
  observations : List PaperPortfolioObservation
  deriving DecidableEq

/-- Content-addressed semantic timeline reconstructed from verified replay events. -/
structure PaperPortfolioTimeline extends TimelinePayload where
  timelineId : Sha256
  contentChecksum : Sha256
  deriving DecidableEq

/-- The digests of a timeline. -/
structure TimelineDigests where
  timelineId : TimelinePayload → Sha256
  contentChecksum : TimelinePayload → Sha256 → Sha256

/-! ### The checks on a timeline -/

/-- An observation belongs to its timeline. -/
def TimelinePayload.owns (t : TimelinePayload) (o : PaperPortfolioObservation) : Bool :=
  decide (o.sessionId = t.sessionId) && decide (o.configChecksum = t.configChecksum) &&
    decide (o.stateId = t.stateId) && decide (o.datasetVersion = t.datasetVersion) &&
    decide (o.sourceChecksum = t.sourceChecksum)

/-- The candle of the right observation opens after that of the left one, and not before it
closes. -/
def observationFollows (pair : PaperPortfolioObservation × PaperPortfolioObservation) : Bool :=
  decide (pair.1.candleOpenTime < pair.2.candleOpenTime) &&
    decide (pair.1.candleCloseTime ≤ pair.2.candleOpenTime)

section

variable (ctx : DecimalContext) (digests : TimelineDigests)

/-- The equity of an observation is the capital with both profits. -/
def equityFits (initialCapital : ℚ) (o : PaperPortfolioObservation) : Bool :=
  decide (o.equity = ctx.add (ctx.add initialCapital o.realizedPnl) o.unrealizedPnl)

/-- The checks of `validate_paper_portfolio_timeline`; its records are canonical already, and so are
the texts among its fields. -/
def PaperPortfolioTimeline.checks (t : PaperPortfolioTimeline) : Bool :=
  decide (t.strategyLifecycleVersion = 1 ∨ t.strategyLifecycleVersion = 2) &&
    decide (t.dataRange.start ≤ t.evaluationRange.start) &&
    decide (t.evaluationRange.stop = t.dataRange.stop) && decide (0 < t.initialCapital) &&
    decide (1 ≤ t.candlesProcessed) && decide (t.observations.length = t.candlesProcessed) &&
    (t.observations.all fun o => (o.validate ctx).isOk) &&
    decide (t.observations.map (·.candleIndex) = List.range t.observations.length) &&
    t.observations.all t.owns &&
    (t.observations.zip t.observations.tail).all observationFollows &&
    t.observations.all (equityFits ctx t.initialCapital) &&
    decide (t.observations.head?.map (·.candleOpenTime) = some t.evaluationRange.start) &&
    (t.observations.getLast?.any fun o => decide (o.candleOpenTime < t.evaluationRange.stop)) &&
    decide (t.timelineId = digests.timelineId t.toTimelinePayload) &&
    decide (t.contentChecksum = digests.contentChecksum t.toTimelinePayload t.timelineId)

/-- `validate_paper_portfolio_timeline`, which the constructor of a timeline calls. -/
def PaperPortfolioTimeline.validate (t : PaperPortfolioTimeline) :
    Except Failure PaperPortfolioTimeline := do
  FailureKind.paperSessionVerification.unless (t.checks ctx digests)
    "A timeline de portfólio é inválida."
  return t

/-! ### Rebuilding a timeline -/

/-- The candles of a batch follow one another from `expected` to the end of its range. -/
def timelineCandlesFit (config : PaperSessionConfig) :
    Instant → List Candle → Except Failure Instant
  | expected, [] => .ok expected
  | expected, candle :: candles => do
      validateCandleSerialization candle true
      FailureKind.paperSessionVerification.unless
        (candle.isClosed && candle.symbol == config.pair.symbol &&
          decide (candle.timeframe = config.timeframe) && candle.openTime == expected &&
          (candle.closeTime == expected + config.timeframe.duration ||
            candle.closeTime == expected + config.timeframe.duration - 1000))
        "Os candles da timeline divergem do contrato da sessão."
      timelineCandlesFit config (expected + config.timeframe.duration) candles

variable (encodings : Encodings)

/-- `_validate_batch_against_state`. -/
def validateBatchAgainstState (config : PaperSessionConfig) (batch : PaperCandleBatch)
    (state : PaperSessionState) : Except Failure Unit := do
  FailureKind.paperSessionVerification.unless
    (decide (state.sessionId = encodings.sessionId config) &&
      decide (state.configChecksum = encodings.configChecksum config) &&
      decide (batch.dataRange = state.dataRange) &&
      decide (batch.datasetVersion = state.datasetVersion) &&
      decide (batch.sourceChecksum = state.sourceChecksum))
    "O lote de candles diverge da identidade do estado."
  let expected ← timelineCandlesFit config config.contextStart batch.candles
  FailureKind.paperSessionVerification.unless
    (expected == batch.dataRange.stop &&
      decide (encodings.sourceChecksum batch.candles = batch.sourceChecksum))
    "O conteúdo dos candles da timeline foi alterado."

/-- The candles of a batch that a session evaluates. -/
def evaluationCandles (config : PaperSessionConfig) (batch : PaperCandleBatch) : List Candle :=
  batch.candles.filter fun candle => decide (config.startAt ≤ candle.openTime)

/-- The evaluated candles are those of the state, and every fill is at the open of one of them. -/
def checkEvaluation (config : PaperSessionConfig) (state : PaperSessionState)
    (candles : List Candle) : Except Failure Unit := do
  FailureKind.value.require
    (decide (candles.length = state.candlesProcessed) &&
      decide (candles.head?.map (·.openTime) = some config.startAt) &&
      decide (candles.getLast?.map (·.openTime) = some state.lastCandleOpenTime))
  FailureKind.value.require
    (state.fills.all fun fill =>
      candles[fill.candleIndex]?.any fun candle => fill.eventTime == candle.openTime)

/-- `fills_by_index.get(candle_index, ())`. -/
def fillsAt (state : PaperSessionState) (candleIndex : ℕ) : List Fill :=
  state.fills.filter fun fill => fill.candleIndex == candleIndex

/-- One fill of a candle. -/
def fillMove (s : PortfolioState) (fill : Fill) : Except Failure PortfolioState := do
  let mutation ← applyFill ctx s fill
  return mutation.after

/-- The portfolio after the fills of a candle, marked at its close. -/
def dayMove (s : PortfolioState) (day : List Fill × ℚ) : Except Failure PortfolioState := do
  let s ← day.1.foldlM (fillMove ctx) s
  markToMarket ctx s day.2

/-- The observation of a candle. -/
def observationOf (state : PaperSessionState) (candleIndex : ℕ) (candle : Candle)
    (snapshot : PortfolioSnapshot) (riskHalt : Bool) : PaperPortfolioObservation :=
  { snapshot with
    sessionId := state.sessionId
    configChecksum := state.configChecksum
    stateId := state.stateId
    datasetVersion := state.datasetVersion
    sourceChecksum := state.sourceChecksum
    candleIndex := candleIndex
    candleOpenTime := candle.openTime
    candleCloseTime := candle.closeTime
    markPrice := candle.close
    riskHalt := riskHalt }

/-- What the loop over the candles carries. -/
structure Reconstruction where
  portfolio : PortfolioState
  riskHalt : Bool
  observations : List PaperPortfolioObservation

/-- One turn of the loop over the candles. -/
def reconstructCandle (config : PaperSessionConfig) (state : PaperSessionState)
    (r : Reconstruction) (indexed : Candle × ℕ) : Except Failure Reconstruction := do
  let portfolio ← dayMove ctx r.portfolio (fillsAt state indexed.2, indexed.1.close)
  let riskHalt := r.riskHalt || drawdownHaltRequired config.riskLimits portfolio.snapshot
  let observation ←
    (observationOf state indexed.2 indexed.1 portfolio.snapshot riskHalt).validate ctx
  return { portfolio := portfolio
           riskHalt := riskHalt
           observations := r.observations ++ [observation] }

/-- The loop over the candles. -/
def reconstruct (config : PaperSessionConfig) (batch : PaperCandleBatch)
    (state : PaperSessionState) : Except Failure Reconstruction := do
  let portfolio ← initializePortfolio ctx config.initialCapital
  (evaluationCandles config batch).zipIdx.foldlM (reconstructCandle ctx config state)
    { portfolio := portfolio, riskHalt := false, observations := [] }

/-- The payload of the timeline of a state. -/
def timelinePayload (config : PaperSessionConfig) (state : PaperSessionState)
    (observations : List PaperPortfolioObservation) : TimelinePayload where
  sessionId := state.sessionId
  configChecksum := state.configChecksum
  stateId := state.stateId
  stateChecksum := state.checksum
  engineVersion := config.engineVersion
  strategyLifecycleVersion := config.strategyLifecycleVersion
  baseAsset := config.pair.base
  quoteAsset := config.pair.quote
  timeframe := config.timeframe.code
  datasetVersion := state.datasetVersion
  sourceChecksum := state.sourceChecksum
  dataRange := state.dataRange
  evaluationRange := state.evaluationRange
  initialCapital := config.initialCapital
  candlesProcessed := state.candlesProcessed
  observations := observations

/-- The timeline of a state with the given observations, before its checks. -/
def timelineOf (config : PaperSessionConfig) (state : PaperSessionState)
    (observations : List PaperPortfolioObservation) : PaperPortfolioTimeline :=
  let payload := timelinePayload config state observations
  let timelineId := digests.timelineId payload
  { toTimelinePayload := payload
    timelineId := timelineId
    contentChecksum := digests.contentChecksum payload timelineId }

/-- The failure that `build_paper_portfolio_timeline` raises for one raised inside it. -/
def timelineFailure (failure : Failure) : Failure :=
  if failure.kind = .paperSessionVerification then failure
  else ⟨.paperSessionVerification, "A timeline de portfólio não pôde ser reconstruída."⟩

/-- `build_paper_portfolio_timeline`: reconstruct every evaluated close without replaying strategy
decisions. -/
def buildPaperPortfolioTimeline (config : PaperSessionConfig) (batch : PaperCandleBatch)
    (state : PaperSessionState) : Except Failure PaperPortfolioTimeline :=
  let result : Except Failure PaperPortfolioTimeline := do
    validatePaperStateAgainstConfig ctx encodings state config
    validateBatchAgainstState encodings config batch state
    checkEvaluation config state (evaluationCandles config batch)
    let r ← reconstruct ctx config batch state
    FailureKind.paperSessionVerification.unless
      (decide (r.portfolio.snapshot = state.portfolio) && r.riskHalt == state.riskHalt)
      "A timeline reconstruída diverge do estado final verificado."
    (timelineOf digests config state r.observations).validate ctx digests
  result.mapError timelineFailure

end

end PaperTrading
end DryTrade
