import DryTrade.MarketData.CandleStore

/-!
# The quality scan of a RAW dataset

The scanner reads one monthly partition after the other, validates its rows and counts the
candles that are missing between them; from the partition results it computes the coverage of
the whole dataset.

## Main definitions

* `DataQualityIssue`, `validateRows` — the validator of a sequence of candles.
* `PartitionFile`, `scanRawPartition` — the scan of one partition.
* `CoverageSummary`, `globalCoverage` — the coverage of all of them.
-/

namespace DryTrade
namespace MarketData

/-! ### The validator -/

/-- Severity of a finding. -/
inductive QualitySeverity
  | error
  | warning
  | info
  deriving DecidableEq, Repr

/-- The severity as the scanner writes it, in capitals. -/
def QualitySeverity.upper : QualitySeverity → String
  | .error => "ERROR"
  | .warning => "WARNING"
  | .info => "INFO"

/-- One finding of the validator. -/
structure DataQualityIssue where
  code : String
  severity : QualitySeverity
  message : String
  openTime : Option Instant
  deriving DecidableEq, Repr

/-- `next_open_time`. -/
def Timeframe.nextOpenTime (tf : Timeframe) (t : Instant) : Except Failure Instant := do
  FailureKind.marketDataInconsistency.unless (tf.validateOpenTime t)
    "open_time não está alinhado ao timeframe."
  return t + tf.duration

/-- `_decimal_places` of a stored value: the columns have the scale 18. -/
def decimalPlaces (_ : ℚ) : ℕ := 18

/-- The findings of one candle, given the instants seen so far; `max_decimal_places` is 18. -/
def candleIssues (tf : Timeframe) (now : Instant) (seen : List Instant) (c : Candle) :
    List DataQualityIssue :=
  let finding (found : Bool) (code : String) (severity : QualitySeverity) (message : String) :=
    if found then [(⟨code, severity, message, some c.openTime⟩ : DataQualityIssue)] else []
  finding (seen.contains c.openTime) "duplicate" .error "Candle duplicado pela chave canônica." ++
  finding (!tf.validateOpenTime c.openTime) "misaligned_timestamp" .error
    "open_time desalinhado ao timeframe." ++
  finding (decide (c.high < max c.openPrice (max c.close c.low)) ||
      decide (min c.openPrice (min c.close c.high) < c.low)) "invalid_ohlc" .error
    "Relação OHLC inválida." ++
  finding (decide (c.volume < 0) || c.quoteVolume.any fun v => decide (v < 0)) "negative_volume"
    .error "Volume negativo." ++
  finding (c.isClosed && decide (now < c.closeTime)) "future_candle" .error
    "Candle fechado termina no futuro." ++
  finding (!c.isClosed) "open_candle" .warning "Candle ainda aberto." ++
  finding (([some c.openPrice, some c.high, some c.low, some c.close, some c.volume,
      c.quoteVolume].filterMap id).any fun v => decide (18 < decimalPlaces v))
    "unexpected_precision" .error "Precisão decimal excede o schema configurado."

/-- The findings between a candle and the one before it. -/
def intervalIssues (tf : Timeframe) (previous c : Candle) :
    Except Failure (List DataQualityIssue) := do
  let expectedOpen ← tf.nextOpenTime previous.openTime
  let order : List DataQualityIssue :=
    if c.openTime < previous.openTime then
      [⟨"out_of_order", .error, "Candles fora de ordem.", some c.openTime⟩] else []
  let gap : List DataQualityIssue :=
    if expectedOpen < c.openTime then
      let missingCount := (c.openTime - expectedOpen) / tf.duration
      [⟨"gap", .error, s!"Gap detectado com {missingCount} intervalo(s) ausente(s).",
          some expectedOpen⟩,
        ⟨"missing_interval", .info, "Intervalos ausentes não foram preenchidos artificialmente.",
          some expectedOpen⟩] else []
  let overlap : List DataQualityIssue :=
    if c.openTime ≤ previous.closeTime then
      [⟨"overlapping_interval", .error, "Intervalos de candles sobrepostos.", some c.openTime⟩]
    else []
  return order ++ gap ++ overlap

/-- `validate`, without an expected range: the loop over the candles. -/
def validateRows (tf : Timeframe) (now : Instant) :
    List Instant → Option Candle → List Candle → Except Failure (List DataQualityIssue)
  | _, _, [] => .ok []
  | seen, previous, c :: candles => do
    let between ← match previous with
      | none => .ok []
      | some p => intervalIssues tf p c
    let rest ← validateRows tf now (c.openTime :: seen) (some c) candles
    return candleIssues tf now seen c ++ between ++ rest

/-! ### Partitions -/

inductive QualityIssueCategory
  | structural
  | content
  | coverage
  deriving DecidableEq, Repr

def QualityIssueCategory.value : QualityIssueCategory → String
  | .structural => "STRUCTURE"
  | .content => "CONTENT"
  | .coverage => "COVERAGE"

/-- One finding of the scanner; a partition is named by its month. -/
structure AdvancedQualityIssue where
  code : String
  severity : String
  category : QualityIssueCategory
  partition : Option ℤ
  openTime : Option Instant
  deriving DecidableEq, Repr

/-- `_category`. -/
def issueCategory (code : String) : QualityIssueCategory :=
  if code = "gap" ∨ code = "missing_interval" ∨ code = "incomplete_range" then .coverage
  else if code = "duplicate" ∨ code = "out_of_order" ∨ code = "misaligned_timestamp" then
    .structural
  else .content

/-- A missing value sorts before every other. -/
def optionLe (a b : Option ℤ) : Bool :=
  match a, b with
  | none, _ => true
  | some _, none => false
  | some a, some b => decide (a ≤ b)

/-- The order of `_ordered_issues`. -/
def AdvancedQualityIssue.le (a b : AdvancedQualityIssue) : Bool :=
  if a.category ≠ b.category then decide (a.category.value < b.category.value)
  else if a.code ≠ b.code then decide (a.code < b.code)
  else if a.partition ≠ b.partition then optionLe a.partition b.partition
  else optionLe a.openTime b.openTime

/-- `_ordered_issues`. -/
def orderedIssues (issues : List AdvancedQualityIssue) (limit : ℕ) : List AdvancedQualityIssue :=
  (issues.insertionSort fun a b => a.le b = true).take limit

inductive QualityScanScope
  | fullDataset
  | range
  deriving DecidableEq, Repr

/-- The part of a `QualityScanPlan` that the scan of a partition reads. -/
structure QualityScanPlan where
  dataRange : Option DataRange
  scope : Option QualityScanScope
  deriving DecidableEq, Repr

/-- `_scope`. -/
def QualityScanPlan.effectiveScope (plan : QualityScanPlan) : QualityScanScope :=
  plan.scope.getD (if plan.dataRange.isSome then .range else .fullDataset)

/-- A partition as the scanner finds it: what `verify_schema` and `read_partition` give for it,
and the checksum of its bytes. -/
structure PartitionFile (Digest : Type) where
  month : ℤ
  schemaValid : Bool
  content : Except Failure (List Candle)
  physicalChecksum : Digest

/-- `QualityPartitionBaseline`. -/
structure QualityPartitionBaseline (Digest : Type) where
  summary : PartitionSummary Digest
  logicalChecksum : Digest
  internalGapCount : ℤ
  issues : List AdvancedQualityIssue

/-- The scanner: its clock and its limit on issues, and `raw_partition_logical_checksum`. -/
structure QualityScanner (Digest : Type) where
  now : Instant
  maxIssues : ℕ
  logicalChecksum : List Candle → Digest

/-- The exceptions that are a `MarketDataError`. -/
def FailureKind.isMarketData (kind : FailureKind) : Bool :=
  kind == .marketDataInconsistency || kind == .marketDataStorage || kind == .invalidDataRange

section

variable {Digest : Type} (scanner : QualityScanner Digest)

/-- `_empty_partition`. -/
def emptyPartition (file : PartitionFile Digest) (issues : List AdvancedQualityIssue) :
    QualityPartitionBaseline Digest where
  summary := ⟨file.month, 0, none, none, file.physicalChecksum⟩
  logicalChecksum := scanner.logicalChecksum []
  internalGapCount := 0
  issues := issues

/-- The rows of a partition that the plan is about. -/
def selectRows (plan : QualityScanPlan) (rows : List Candle) : List Candle :=
  rows.filter fun c => plan.effectiveScope == .fullDataset ||
    plan.dataRange.all fun r => r.contains c.openTime

/-- One turn of the loop that counts the gaps inside a partition. -/
def gapCountTurn (tf : Timeframe) (state : ℤ × Option Instant) (c : Candle) : ℤ × Option Instant :=
  match state.2 with
  | none => (state.1, some c.openTime)
  | some previous =>
    (if previous + tf.duration < c.openTime then
      state.1 + ((c.openTime - previous) / tf.duration - 1) else state.1, some c.openTime)

/-- `_scan_raw_partition`: the baseline of the partition and the findings of the validator. -/
def scanRawPartition (plan : QualityScanPlan) (tf : Timeframe) (file : PartitionFile Digest) :
    Except Failure (QualityPartitionBaseline Digest × List DataQualityIssue) :=
  if file.schemaValid = false then
    .ok (emptyPartition scanner file
      [⟨"parquet_schema_corrupt", "ERROR", .structural, some file.month, none⟩], [])
  else match file.content with
  | .error e =>
    if FailureKind.isMarketData e.kind then
      .ok (emptyPartition scanner file
        [⟨"partition_content_corrupt", "ERROR", .content, some file.month, none⟩], [])
    else .error e
  | .ok allRows => do
    let rows := selectRows plan allRows
    let report ← validateRows tf scanner.now [] none rows
    let issues := report.map (fun i => (⟨i.code, i.severity.upper, issueCategory i.code,
        some file.month, i.openTime⟩ : AdvancedQualityIssue)) ++
      (rows.filter fun c => c.closeTime != c.openTime + tf.duration - 1000).map fun c =>
        ⟨"incompatible_close_time", "ERROR", .content, some file.month, some c.openTime⟩
    let gaps := rows.foldl (gapCountTurn tf) (0, none)
    return (
      { summary :=
          { month := file.month
            candleCount := rows.length
            firstOpenTime := rows.head?.map (·.openTime)
            lastOpenTime := rows.getLast?.map (·.openTime)
            checksum := file.physicalChecksum }
        logicalChecksum := scanner.logicalChecksum rows
        internalGapCount := gaps.1
        issues := orderedIssues issues scanner.maxIssues }, report)

end

/-! ### Coverage -/

/-- `CoverageSummary`. -/
structure CoverageSummary where
  requestedStart : Option Instant
  requestedEnd : Option Instant
  firstOpenTime : Option Instant
  lastOpenTime : Option Instant
  expectedCount : Option ℤ
  observedCount : ℤ
  internalGapCount : ℤ
  missingAtStart : ℤ
  missingAtEnd : ℤ
  deriving DecidableEq, Repr

/-- `_required_datetime`. -/
def requiredDatetime (value : Option Instant) : Except Failure Instant :=
  match value with
  | none => FailureKind.marketDataStorage.raiseWith "O baseline possui limites inválidos."
  | some t => .ok t

section

variable {Digest : Type}

/-- One turn of the loop over the partitions that hold candles: the gaps, the issues and the
last open time so far. -/
def coverageTurn (duration : ℤ) (state : ℤ × List AdvancedQualityIssue × Option Instant)
    (item : QualityPartitionBaseline Digest) :
    Except Failure (ℤ × List AdvancedQualityIssue × Option Instant) := do
  let currentFirst ← requiredDatetime item.summary.firstOpenTime
  let border : ℤ × List AdvancedQualityIssue := match state.2.2 with
    | none => (state.1, state.2.1)
    | some previousLast =>
      if previousLast + duration < currentFirst then
        (state.1 + ((currentFirst - previousLast) / duration - 1),
          state.2.1 ++ [⟨"gap", "ERROR", .coverage, some item.summary.month, some currentFirst⟩])
      else (state.1, state.2.1)
  let previousLast ← requiredDatetime item.summary.lastOpenTime
  return (border.1, border.2, some previousLast)

/-- `_global_coverage`. -/
def globalCoverage (partitions : List (QualityPartitionBaseline Digest)) (duration : ℤ)
    (dataRange : Option DataRange) :
    Except Failure (CoverageSummary × List AdvancedQualityIssue) := do
  let nonempty := partitions.filter fun item => item.summary.candleCount != 0
  let first ← nonempty.head?.mapM fun item => requiredDatetime item.summary.firstOpenTime
  let last ← nonempty.getLast?.mapM fun item => requiredDatetime item.summary.lastOpenTime
  let internal := (partitions.map (·.internalGapCount)).sum
  let state ← nonempty.foldlM (coverageTurn duration) (internal, [], none)
  let expected := dataRange.map fun r => (r.stop - r.start) / duration
  let missingStart := match dataRange, first with
    | none, _ => 0
    | some r, none => (r.stop - r.start) / duration
    | some r, some first => max 0 ((first - r.start) / duration)
  let missingEnd := match dataRange, last with
    | some r, some last => max 0 ((r.stop - (last + duration)) / duration)
    | _, _ => 0
  let incomplete : List AdvancedQualityIssue :=
    if dataRange.isSome ∧ (missingStart ≠ 0 ∨ missingEnd ≠ 0) then
      [⟨"incomplete_range", "ERROR", .coverage, none, none⟩] else []
  return (
    { requestedStart := dataRange.map (·.start)
      requestedEnd := dataRange.map (·.stop)
      firstOpenTime := first
      lastOpenTime := last
      expectedCount := expected
      observedCount := (partitions.map fun item => (item.summary.candleCount : ℤ)).sum
      internalGapCount := state.1
      missingAtStart := missingStart
      missingAtEnd := missingEnd }, state.2.1 ++ incomplete)

end

end MarketData
end DryTrade
