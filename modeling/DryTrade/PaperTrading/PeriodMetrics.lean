import DryTrade.PaperTrading.CalendarPeriods
import DryTrade.PaperTrading.Journal

/-!
# Metrics by calendar period

The sells of the verified journals of a query are realizations of profit or loss.
Each is assigned to the calendar period of its event time, the realizations of each
period are aggregated, and the totals are taken over the aggregates.

The digests of a query and of its answer are not interpreted, so they are parameters.
An asset, an identifier and a digest of a record are those of a journal or of a query
that has been checked, and are not checked again.

## Main definitions

* `journalRealizations` — the realizations of one journal.
* `aggregate` — the aggregate of some realizations.
* `totalsOf` — the totals of a series.
* `buildSeries` — the series of a query.
-/

namespace DryTrade
namespace PaperTrading

open MarketData Backtesting

/-! ### Queries and realizations -/

/-- One bounded, single-quote-asset period-metrics query. -/
structure PaperPeriodMetricsFilter where
  quoteAsset : String
  periodFrom : Instant
  periodBefore : Instant
  sessionId : Option Sha256
  baseAsset : Option String
  timeframeCode : Option String
  strategyName : Option String
  strategyVersion : Option String
  quoteAsset_valid : isAsset quoteAsset = true
  baseAsset_valid : ∀ asset ∈ baseAsset, isAsset asset = true
  timeframeCode_safe : ∀ code ∈ timeframeCode, isSafeToken code = true
  strategyName_safe : ∀ name ∈ strategyName, isSafeToken name = true
  strategyVersion_safe : ∀ version ∈ strategyVersion, isSafeToken version = true
  periodFrom_lt_periodBefore : periodFrom < periodBefore

theorem PaperPeriodMetricsFilter.eq_iff {a b : PaperPeriodMetricsFilter} :
    (a.quoteAsset = b.quoteAsset ∧ a.periodFrom = b.periodFrom ∧ a.periodBefore = b.periodBefore ∧
      a.sessionId = b.sessionId ∧ a.baseAsset = b.baseAsset ∧ a.timeframeCode = b.timeframeCode ∧
      a.strategyName = b.strategyName ∧ a.strategyVersion = b.strategyVersion) ↔ a = b := by
  cases a
  cases b
  simp

instance : DecidableEq PaperPeriodMetricsFilter := fun _ _ =>
  decidable_of_iff _ PaperPeriodMetricsFilter.eq_iff

/-- Immutable paper-state identity consumed by one series. -/
structure PaperPeriodSourceState where
  sessionId : Sha256
  configChecksum : Sha256
  stateId : Sha256
  stateChecksum : Sha256
  baseAsset : String
  quoteAsset : String
  lastCandleOpenTime : Instant
  replayedAt : Instant
  deriving DecidableEq

/-- One sell with average-cost accounting allocated at its event time. -/
structure PaperRealization where
  sessionId : Sha256
  stateId : Sha256
  stateChecksum : Sha256
  baseAsset : String
  quoteAsset : String
  fillId : String
  eventTime : Instant
  exitNotional : ℚ
  releasedCostBasis : ℚ
  realizedFees : ℚ
  realizedSlippageCost : ℚ
  realizedPnl : ℚ
  deriving DecidableEq

/-- The checks of the constructor of a realization. -/
def PaperRealization.validate (r : PaperRealization) : Except Failure PaperRealization := do
  positive r.exitNotional "exit_notional"
  positive r.releasedCostBasis "released_cost_basis"
  nonnegative r.realizedFees "realized_fees"
  nonnegative r.realizedSlippageCost "realized_slippage_cost"
  return r

/-- What is open while the executions of a journal are walked over. -/
structure OpenPosition where
  quantity : ℚ
  notional : ℚ
  fees : ℚ
  slippage : ℚ
  deriving DecidableEq

/-- Nothing is open. -/
def OpenPosition.flat : OpenPosition := ⟨0, 0, 0, 0⟩

section

variable (ctx : DecimalContext)

/-- A sum of amounts, one after the other from zero. -/
def sumOf (amounts : List ℚ) : ℚ := amounts.foldl ctx.add 0

/-- The part of an amount that goes with a sale: all of it when the position closes. -/
def OpenPosition.releasedPart (p : OpenPosition) (quantity amount : ℚ) : ℚ :=
  if quantity = p.quantity then amount else ctx.mul amount (ctx.div quantity p.quantity)

/-- One more buy of an open position. -/
def OpenPosition.bought (p : OpenPosition) (e : PaperTradeExecution) : OpenPosition where
  quantity := ctx.add p.quantity e.quantity
  notional := ctx.add p.notional e.notional
  fees := ctx.add p.fees e.fee
  slippage := ctx.add p.slippage e.slippageCost

/-- What stays open after a sell. -/
def OpenPosition.sold (p : OpenPosition) (e : PaperTradeExecution) : OpenPosition :=
  let quantity := ctx.sub p.quantity e.quantity
  if quantity = 0 then .flat
  else
    { quantity := quantity
      notional := ctx.sub p.notional (p.releasedPart ctx e.quantity p.notional)
      fees := ctx.sub p.fees (p.releasedPart ctx e.quantity p.fees)
      slippage := ctx.sub p.slippage (p.releasedPart ctx e.quantity p.slippage) }

/-- The realization of a sell of an open position, before the checks of its constructor. -/
def OpenPosition.realization (p : OpenPosition) (journal : PaperTradeJournal)
    (e : PaperTradeExecution) : PaperRealization :=
  let releasedEntryFees := p.releasedPart ctx e.quantity p.fees
  let releasedCostBasis := ctx.add (p.releasedPart ctx e.quantity p.notional) releasedEntryFees
  { sessionId := journal.sessionId
    stateId := journal.stateId
    stateChecksum := journal.stateChecksum
    baseAsset := journal.pair.base
    quoteAsset := journal.pair.quote
    fillId := e.fillId
    eventTime := e.eventTime
    exitNotional := e.notional
    releasedCostBasis := releasedCostBasis
    realizedFees := ctx.add releasedEntryFees e.fee
    realizedSlippageCost :=
      ctx.add (p.releasedPart ctx e.quantity p.slippage) e.slippageCost
    realizedPnl := ctx.sub (ctx.sub e.notional e.fee) releasedCostBasis }

/-- One turn of the walk over the executions. -/
def realizeExecution (journal : PaperTradeJournal) :
    OpenPosition × List PaperRealization → PaperTradeExecution →
      Except Failure (OpenPosition × List PaperRealization)
  | (p, realizations), e =>
    match e.side with
    | .buy => .ok (p.bought ctx e, realizations)
    | .sell => do
        FailureKind.paperSessionVerification.unless
          (decide (0 < p.quantity) && decide (e.quantity ≤ p.quantity))
          "A realização não possui posição Spot correspondente."
        let realization ← (p.realization ctx journal e).validate
        return (p.sold ctx e, realizations ++ [realization])

/-- `_journal_realizations`. -/
def journalRealizations (journal : PaperTradeJournal) : Except Failure (List PaperRealization) := do
  let (_, realizations) ← journal.executions.foldlM (realizeExecution ctx journal) (.flat, [])
  FailureKind.paperSessionVerification.unless
    (decide (sumOf ctx (realizations.map PaperRealization.realizedPnl) = journal.totalRealizedPnl))
    "As realizações por saída divergem do PnL realizado do journal."
  return realizations

/-! ### Aggregates -/

/-- `_Aggregate`: what is counted and summed over realizations. -/
@[ext]
structure Aggregate where
  realizationsCount : ℕ
  winningRealizationsCount : ℕ
  losingRealizationsCount : ℕ
  breakevenRealizationsCount : ℕ
  sessionsCount : ℕ
  symbolsCount : ℕ
  exitNotional : ℚ
  releasedCostBasis : ℚ
  realizedFees : ℚ
  realizedSlippageCost : ℚ
  grossProfit : ℚ
  grossLoss : ℚ
  realizedPnl : ℚ
  winRatePct : Option ℚ
  profitFactor : Option ℚ
  deriving DecidableEq

/-- The percentage of winning realizations, if there are any. -/
def winRate (winning count : ℕ) : Option ℚ :=
  if count = 0 then none else some (ctx.mul (ctx.div winning count) 100)

/-- The profit for each unit of loss, if there is any. -/
def factorOf (grossProfit grossLoss : ℚ) : Option ℚ :=
  if grossLoss = 0 then none else some (ctx.div grossProfit (ctx.neg grossLoss))

/-- `_aggregate`. -/
def aggregate (realizations : List PaperRealization) : Aggregate :=
  let count := realizations.length
  let winning := realizations.countP fun r => decide (0 < r.realizedPnl)
  let losing := realizations.countP fun r => decide (r.realizedPnl < 0)
  let pnls := realizations.map PaperRealization.realizedPnl
  let grossProfit := sumOf ctx (pnls.filter fun pnl => decide (0 < pnl))
  let grossLoss := sumOf ctx (pnls.filter fun pnl => decide (pnl < 0))
  { realizationsCount := count
    winningRealizationsCount := winning
    losingRealizationsCount := losing
    breakevenRealizationsCount := count - winning - losing
    sessionsCount := (realizations.map PaperRealization.sessionId).dedup.length
    symbolsCount := (realizations.map fun r => (r.baseAsset, r.quoteAsset)).dedup.length
    exitNotional := sumOf ctx (realizations.map PaperRealization.exitNotional)
    releasedCostBasis := sumOf ctx (realizations.map PaperRealization.releasedCostBasis)
    realizedFees := sumOf ctx (realizations.map PaperRealization.realizedFees)
    realizedSlippageCost := sumOf ctx (realizations.map PaperRealization.realizedSlippageCost)
    grossProfit := grossProfit
    grossLoss := grossLoss
    realizedPnl := ctx.add grossProfit grossLoss
    winRatePct := winRate ctx winning count
    profitFactor := factorOf ctx grossProfit grossLoss }

/-- The fields of an aggregate that must not be negative. -/
def Aggregate.nonnegativeFields (a : Aggregate) : List (String × ℚ) :=
  [("exit_notional", a.exitNotional), ("released_cost_basis", a.releasedCostBasis),
    ("realized_fees", a.realizedFees), ("realized_slippage_cost", a.realizedSlippageCost),
    ("gross_profit", a.grossProfit)]

/-- `_validate_aggregate_values`, where `bucket` says that the aggregate is one of a bucket. -/
def Aggregate.validate (bucket : Bool) (a : Aggregate) : Except Failure Unit := do
  check (decide (a.realizationsCount = a.winningRealizationsCount + a.losingRealizationsCount +
      a.breakevenRealizationsCount)) "realization outcome counts are inconsistent"
  check (decide (a.symbolsCount ≤ a.sessionsCount)) "symbols_count exceeds sessions_count"
  check (!bucket || decide (a.sessionsCount ≤ a.realizationsCount))
    "bucket sessions_count exceeds realizations_count"
  check (!bucket || decide (a.realizationsCount = 0 → a.sessionsCount = 0 ∧ a.symbolsCount = 0))
    "empty bucket cannot reference sessions or symbols"
  a.nonnegativeFields.forM fun field => nonnegative field.2 field.1
  check (decide (a.grossLoss ≤ 0)) "gross_loss must be nonpositive"
  check (decide (a.realizedPnl = ctx.add a.grossProfit a.grossLoss))
    "realized_pnl must combine gross profit and loss"
  check (decide (a.winRatePct = winRate ctx a.winningRealizationsCount a.realizationsCount))
    "win_rate_pct is inconsistent"
  check (decide (a.profitFactor = factorOf ctx a.grossProfit a.grossLoss))
    "profit_factor is inconsistent"

/-! ### Buckets and totals -/

/-- Exact realized activity for one UTC calendar bucket. -/
structure PaperPeriodMetricsBucket extends Aggregate where
  periodStart : Instant
  periodEnd : Instant
  quoteAsset : String
  deriving DecidableEq

/-- The checks of the constructor of a bucket. -/
def PaperPeriodMetricsBucket.validate (b : PaperPeriodMetricsBucket) :
    Except Failure PaperPeriodMetricsBucket := do
  check (decide (b.periodStart < b.periodEnd)) "period bucket must be increasing and half-open"
  b.toAggregate.validate ctx true
  return b

/-- `_bucket`. -/
def bucketOf (periodStart periodEnd : Instant) (quoteAsset : String)
    (realizations : List PaperRealization) : Except Failure PaperPeriodMetricsBucket :=
  PaperPeriodMetricsBucket.validate ctx
    { toAggregate := aggregate ctx realizations
      periodStart := periodStart
      periodEnd := periodEnd
      quoteAsset := quoteAsset }

/-- Exact aggregate across every bucket in one series. -/
structure PaperPeriodMetricsTotals extends Aggregate where
  periodsCount : ℕ
  activePeriodsCount : ℕ
  quoteAsset : String
  deriving DecidableEq

/-- The checks of the constructor of totals. -/
def PaperPeriodMetricsTotals.validate (t : PaperPeriodMetricsTotals) :
    Except Failure PaperPeriodMetricsTotals := do
  check (decide (t.activePeriodsCount ≤ t.periodsCount))
    "active_periods_count exceeds periods_count"
  t.toAggregate.validate ctx false
  return t

/-- The aggregate of the buckets of a series and of its sources. -/
def totalsAggregate (items : List PaperPeriodMetricsBucket)
    (sourceStates : List PaperPeriodSourceState) : Aggregate :=
  let realizationsCount := (items.map fun b => b.realizationsCount).sum
  let winning := (items.map fun b => b.winningRealizationsCount).sum
  let grossProfit := sumOf ctx (items.map fun b => b.grossProfit)
  let grossLoss := sumOf ctx (items.map fun b => b.grossLoss)
  { realizationsCount := realizationsCount
    winningRealizationsCount := winning
    losingRealizationsCount := (items.map fun b => b.losingRealizationsCount).sum
    breakevenRealizationsCount := (items.map fun b => b.breakevenRealizationsCount).sum
    sessionsCount := sourceStates.length
    symbolsCount := (sourceStates.map fun s => (s.baseAsset, s.quoteAsset)).dedup.length
    exitNotional := sumOf ctx (items.map fun b => b.exitNotional)
    releasedCostBasis := sumOf ctx (items.map fun b => b.releasedCostBasis)
    realizedFees := sumOf ctx (items.map fun b => b.realizedFees)
    realizedSlippageCost := sumOf ctx (items.map fun b => b.realizedSlippageCost)
    grossProfit := grossProfit
    grossLoss := grossLoss
    realizedPnl := ctx.add grossProfit grossLoss
    winRatePct := winRate ctx winning realizationsCount
    profitFactor := factorOf ctx grossProfit grossLoss }

/-- `_totals`. -/
def totalsOf (items : List PaperPeriodMetricsBucket) (sourceStates : List PaperPeriodSourceState) :
    Except Failure PaperPeriodMetricsTotals :=
  match items.head? with
  | none => FailureKind.lookup.raise
  | some first =>
      PaperPeriodMetricsTotals.validate ctx
        { toAggregate := totalsAggregate ctx items sourceStates
          periodsCount := items.length
          activePeriodsCount := items.countP fun b => decide (0 < b.realizationsCount)
          quoteAsset := first.quoteAsset }

end

/-! ### Series -/

/-- Content-addressed calendar series bound to exact paper states. -/
structure PaperPeriodMetricsSeries where
  granularity : PaperPeriodGranularity
  filters : PaperPeriodMetricsFilter
  sourceStates : List PaperPeriodSourceState
  items : List PaperPeriodMetricsBucket
  totals : PaperPeriodMetricsTotals
  queryChecksum : Sha256
  contentChecksum : Sha256
  deriving DecidableEq

/-- The digests of a query and of its answer. -/
structure SeriesDigests where
  queryChecksum : PaperPeriodGranularity → PaperPeriodMetricsFilter → Sha256
  contentChecksum : PaperPeriodGranularity → PaperPeriodMetricsFilter →
    List PaperPeriodSourceState → List PaperPeriodMetricsBucket → PaperPeriodMetricsTotals →
      Sha256 → Sha256

/-- `sorted(source_states, key=lambda item: item.session_id)`. -/
def sortSources (sourceStates : List PaperPeriodSourceState) : List PaperPeriodSourceState :=
  sourceStates.insertionSort fun a b => a.sessionId.text ≤ b.sessionId.text

section

variable (ctx : DecimalContext) (digests : SeriesDigests)

/-- The checks of the constructor of a series. -/
def PaperPeriodMetricsSeries.validate (s : PaperPeriodMetricsSeries) :
    Except Failure PaperPeriodMetricsSeries := do
  check (s.sourceStates.all fun state => state.quoteAsset == s.filters.quoteAsset)
    "source quote asset diverges from the query"
  check (decide (sortSources s.sourceStates = s.sourceStates))
    "source_states must be sorted by session_id"
  check (decide (s.sourceStates.map PaperPeriodSourceState.sessionId).Nodup)
    "source_states contain duplicate sessions"
  check (!s.items.isEmpty) "items must contain the requested bounded calendar range"
  check (decide (s.items.length ≤ maxPeriodBuckets)) "items exceed the period-bucket limit"
  s.items.forM fun b => do
    let _ ← b.validate ctx
    check (b.quoteAsset == s.filters.quoteAsset) "bucket quote asset diverges from the query"
  check (decide (s.items.head?.map (·.periodStart) = some s.filters.periodFrom))
    "series does not start at period_from"
  check (decide (s.items.getLast?.map (·.periodEnd) = some s.filters.periodBefore))
    "series does not end at period_before"
  check ((s.items.zip s.items.tail).all fun pair => pair.1.periodEnd == pair.2.periodStart)
    "calendar buckets are not contiguous"
  let expected ← totalsOf ctx s.items s.sourceStates
  check (decide (s.totals = expected)) "totals diverge from calendar buckets"
  check (decide (s.queryChecksum = digests.queryChecksum s.granularity s.filters))
    "query checksum is inconsistent"
  check (decide (s.contentChecksum = digests.contentChecksum s.granularity s.filters s.sourceStates
      s.items s.totals s.queryChecksum)) "content checksum is inconsistent"
  return s

/-! ### Collecting the realizations of a query -/

/-- What the service reads: the stored sessions, and the check of a state against the artifacts
stored with it. -/
structure PaperTradingRepository where
  listSessionIds : Except Failure (List Sha256)
  loadConfig : Sha256 → Except Failure PaperSessionConfig
  loadState : Sha256 → Except Failure (Option PaperSessionState)
  verify : PaperSessionConfig → PaperSessionState → Except Failure Unit

/-- `_matches_config`. -/
def matchesConfig (filters : PaperPeriodMetricsFilter) (config : PaperSessionConfig) : Bool :=
  config.pair.quote == filters.quoteAsset &&
    filters.baseAsset.all (fun asset => config.pair.base == asset) &&
    filters.timeframeCode.all (fun code => config.timeframe.code == code) &&
    filters.strategyName.all (fun name => config.strategy.name == name) &&
    filters.strategyVersion.all fun version => config.strategy.version == version

/-- `_validate_aligned_range`. -/
def validateAlignedRange (filters : PaperPeriodMetricsFilter)
    (granularity : PaperPeriodGranularity) : Except Failure Unit := do
  FailureKind.invalidPaperSession.unless
    (decide (calendarPeriodStart filters.periodFrom granularity = filters.periodFrom))
    "period_from deve estar alinhado ao início UTC da granularidade."
  FailureKind.invalidPaperSession.unless
    (decide (calendarPeriodStart filters.periodBefore granularity = filters.periodBefore))
    "period_before deve estar alinhado ao início UTC da granularidade."

/-- The state a journal was built from. -/
def sourceState (journal : PaperTradeJournal) : PaperPeriodSourceState where
  sessionId := journal.sessionId
  configChecksum := journal.configChecksum
  stateId := journal.stateId
  stateChecksum := journal.stateChecksum
  baseAsset := journal.pair.base
  quoteAsset := journal.pair.quote
  lastCandleOpenTime := journal.lastCandleOpenTime
  replayedAt := journal.replayedAt

/-- What the loop over the sessions carries. -/
structure Collected where
  buckets : List (Instant × List PaperRealization)
  sourceStates : List PaperPeriodSourceState
  realizationsCount : ℕ

/-- The event time of a realization lies in the range of the query. -/
def inRange (filters : PaperPeriodMetricsFilter) (r : PaperRealization) : Bool :=
  decide (filters.periodFrom ≤ r.eventTime) && decide (r.eventTime < filters.periodBefore)

/-- `buckets[start].append(realization)`. -/
def appendRealization (start : Instant) (r : PaperRealization)
    (buckets : List (Instant × List PaperRealization)) :
    Except Failure (List (Instant × List PaperRealization)) :=
  if start ∈ buckets.map Prod.fst then .ok (addTo buckets start r) else FailureKind.lookup.raise

/-- One realization of a journal. -/
def collectRealization (filters : PaperPeriodMetricsFilter) (granularity : PaperPeriodGranularity)
    (c : Collected) (r : PaperRealization) : Except Failure Collected :=
  if inRange filters r then do
    let realizationsCount := c.realizationsCount + 1
    FailureKind.invalidPaperSession.unless (decide (realizationsCount ≤ 100000))
      "A consulta excede o limite de 100000 realizações."
    let buckets ← appendRealization (calendarPeriodStart r.eventTime granularity) r c.buckets
    return { c with buckets := buckets, realizationsCount := realizationsCount }
  else .ok c

/-- The journal of one session. -/
def collectJournal (filters : PaperPeriodMetricsFilter) (granularity : PaperPeriodGranularity)
    (c : Collected) (journal : PaperTradeJournal) : Except Failure Collected := do
  let c := { c with sourceStates := c.sourceStates ++ [sourceState journal] }
  FailureKind.invalidPaperSession.unless (decide (c.sourceStates.length ≤ 10000))
    "A consulta excede o limite de 10000 estados-fonte."
  let realizations ← journalRealizations ctx journal
  realizations.foldlM (collectRealization filters granularity) c

variable (encodings : Encodings) (repository : PaperTradingRepository)

/-- The journal of a session that the query selects, if it has a state. -/
def sessionJournal (filters : PaperPeriodMetricsFilter) (sessionId : Sha256) :
    Except Failure (Option PaperTradeJournal) := do
  let config ← repository.loadConfig sessionId
  FailureKind.invalidPaperSession.unless (decide (encodings.sessionId config = sessionId))
    "A identidade da sessão divergiu."
  if matchesConfig filters config then do
    let loaded ← repository.loadState sessionId
    match loaded with
    | none => return none
    | some state => do
        repository.verify config state
        let journal ← buildPaperTradeJournal encodings ctx config state
        return some journal
  else return none

/-- One turn of the loop over the sessions. -/
def collectSession (filters : PaperPeriodMetricsFilter) (granularity : PaperPeriodGranularity)
    (c : Collected) (sessionId : Sha256) : Except Failure Collected := do
  let journal ← sessionJournal ctx encodings repository filters sessionId
  match journal with
  | none => return c
  | some journal => collectJournal ctx filters granularity c journal

/-- The sessions a query reads. -/
def sessionIds (filters : PaperPeriodMetricsFilter) : Except Failure (List Sha256) :=
  match filters.sessionId with
  | none => repository.listSessionIds
  | some sessionId => .ok [sessionId]

/-- The bucket of one period. -/
def periodBucket (filters : PaperPeriodMetricsFilter) (granularity : PaperPeriodGranularity)
    (bucket : Instant × List PaperRealization) : Except Failure PaperPeriodMetricsBucket := do
  let periodEnd ← calendarPeriodEnd bucket.1 granularity
  bucketOf ctx bucket.1 periodEnd filters.quoteAsset bucket.2

/-- `PaperPeriodMetricsService.build_series`. -/
def buildSeries (filters : PaperPeriodMetricsFilter) (granularity : PaperPeriodGranularity) :
    Except Failure PaperPeriodMetricsSeries := do
  validateAlignedRange filters granularity
  let starts ← periodStarts filters.periodFrom filters.periodBefore granularity
  let ids ← sessionIds repository filters
  let c ← ids.foldlM (collectSession ctx encodings repository filters granularity)
    { buckets := starts.map fun start => (start, [])
      sourceStates := []
      realizationsCount := 0 }
  let items ← c.buckets.mapM (periodBucket ctx filters granularity)
  let sources := sortSources c.sourceStates
  let totals ← totalsOf ctx items sources
  let queryChecksum := digests.queryChecksum granularity filters
  PaperPeriodMetricsSeries.validate ctx digests
    { granularity := granularity
      filters := filters
      sourceStates := sources
      items := items
      totals := totals
      queryChecksum := queryChecksum
      contentChecksum := digests.contentChecksum granularity filters sources items totals
        queryChecksum }

end

end PaperTrading
end DryTrade
