import DryTrade.MarketData.Resampling

/-!
# The derived dataset store

One derived dataset is a directory of monthly partition files and a manifest.  The
manifest summarizes every partition and, with their physical checksums, the RAW
partitions its last plans read.  `materialize` rebuilds the whole range of its plan;
`materialize_incremental` compares those checksums with the RAW files and rebuilds
the span of months that changed, or nothing at all.

A commit either takes effect as a whole or leaves the dataset as it was, so it is
one step here.  The path of a partition is determined by its month, and stands for it.

## Main definitions

* `Storage` — how RAW files are decoded and digested.
* `DerivedState` — the RAW dataset, the derived partitions and the manifest.
* `Storage.commit` — replaces the derived candles of a plan's range.
* `Storage.verifyUnlocked` — checks the manifest against both datasets.
* `Storage.materialize`, `Storage.materializeIncremental` — the two ways to rebuild.
-/

namespace DryTrade
namespace MarketData

/-! ### Partition files -/

/-- How a RAW file is read and digested.  `decode` reads the table of a Parquet file into
candles, `fileChecksum` digests its bytes, `canonicalDigest` the canonical encoding of candles
and `composeDigest` the paths and digests of partitions. -/
structure Storage (Bytes Digest : Type) where
  decode : Bytes → Except Failure (List Candle)
  fileChecksum : Bytes → Digest
  /-- Physical checksums do not collide. -/
  fileChecksum_injective : Function.Injective fileChecksum
  canonicalDigest : List Candle → Digest
  composeDigest : List (ℤ × Digest) → Digest

/-- The RAW dataset: its partition files and its catalog entry. -/
structure RawDataset (Bytes : Type) where
  files : ℤ → Option Bytes
  metadata : Option RawMetadata

/-- The summary of one partition. -/
structure PartitionSummary (Digest : Type) where
  month : ℤ
  candleCount : ℕ
  firstOpenTime : Option ℤ
  lastOpenTime : Option ℤ
  checksum : Digest
  deriving DecidableEq

/-- The state of a dataset. -/
inductive DatasetState
  | complete
  | invalid
  | stale
  deriving DecidableEq, Repr

/-- The manifest of a derived dataset.  Its lineage repeats these values. -/
structure DatasetManifest (Digest : Type) where
  series : DerivedSeries
  sourceDatasetVersion : String
  sourceChecksum : String
  targetVersion : Digest
  targetChecksum : Digest
  firstOpenTime : Option ℤ
  lastOpenTime : Option ℤ
  candleCount : ℕ
  partitions : List (PartitionSummary Digest)
  sourcePartitions : List (PartitionSummary Digest)
  state : DatasetState
  sourceVersionAlgorithm : String

/-- Partition files: the months that have one, with the candles in it. -/
abbrev PartitionFiles := List (ℤ × List Candle)

/-- The file of a month. -/
def PartitionFiles.file (files : PartitionFiles) (month : ℤ) : Option (List Candle) :=
  (files.find? fun p => p.1 == month).map (·.2)

/-- The RAW dataset and the derived one. -/
structure DerivedState (Bytes Digest : Type) where
  raw : RawDataset Bytes
  partitions : PartitionFiles
  manifest : Option (DatasetManifest Digest)

/-- The uniqueness key of a candle. -/
def Candle.key (c : Candle) : Exchange × String × String × ℤ :=
  (c.exchange, c.symbol, c.timeframe.code, c.openTime)

/-- One row of a partition file, after the rows before it. -/
def readRow (identity : Exchange × MarketType × String × String) (month : ℤ) (rows : List Candle)
    (candle : Candle) : Except Failure (List Candle) := do
  FailureKind.marketDataInconsistency.unless (candle.identity == identity)
    "A identidade interna do Parquet diverge do caminho solicitado."
  validateCandleSerialization candle true
  FailureKind.marketDataInconsistency.unless (rows.all fun r => r.key != candle.key)
    "A partição Parquet contém uma chave duplicada."
  FailureKind.marketDataInconsistency.unless
    (rows.getLast?.all fun r => decide (r.openTime < candle.openTime))
    "A partição Parquet não está em ordem estritamente crescente."
  FailureKind.marketDataInconsistency.unless (monthOf candle.openTime == month)
    "Um candle não pertence ao ano e mês da partição."
  return rows ++ [candle]

/-- `read_partition`, for the rows of a file. -/
def readRows (identity : Exchange × MarketType × String × String) (month : ℤ)
    (candles : List Candle) : Except Failure (List Candle) :=
  candles.foldlM (readRow identity month) []

/-- A partition that does not exist reads as an empty one. -/
def readDerivedPartition (d : DerivedSeries) (partitions : PartitionFiles) (month : ℤ) :
    Except Failure (List Candle) :=
  match partitions.file month with
  | none => .ok []
  | some candles => readRows d.targetIdentity month candles

/-- The months of a range that have a file. -/
def RawDataset.partitionPaths {Bytes : Type} (raw : RawDataset Bytes) (r : DataRange) : List ℤ :=
  (monthsInRange r).filter fun m => (raw.files m).isSome

/-- `_summary_intersects`: the month of the summary meets the range. -/
def PartitionSummary.intersects {Digest : Type} (s : PartitionSummary Digest) (r : DataRange) :
    Bool :=
  decide (monthStart s.month < r.stop) && decide (r.start < monthStart (s.month + 1))

/-- The instant lies in the range. -/
def DataRange.contains (r : DataRange) (t : Instant) : Bool :=
  decide (r.start ≤ t) && decide (t < r.stop)

/-- `{c.open_time: c for c in candles}.values()`: of the candles that open together, the last. -/
def lastByOpenTime : List Candle → List Candle
  | [] => []
  | c :: candles =>
    if candles.any fun c' => c'.openTime == c.openTime then lastByOpenTime candles
    else c :: lastByOpenTime candles

/-- `sorted(…, key=open_time)`. -/
def sortByOpenTime (candles : List Candle) : List Candle :=
  candles.insertionSort fun c c' => c.openTime ≤ c'.openTime

/-- `sorted(…, key=(year, month))`. -/
def sortByMonth {Digest : Type} (summaries : List (PartitionSummary Digest)) :
    List (PartitionSummary Digest) :=
  summaries.insertionSort fun s s' => s.month ≤ s'.month

/-- `replace(plan, data_range=…)`, with the counts of the new range. -/
def ResamplingPlan.restrictTo (plan : ResamplingPlan) (r : DataRange) : ResamplingPlan :=
  { plan with
    dataRange := r
    sourceCandles := (r.stop - r.start) / plan.series.source.duration
    expectedGroups := (r.stop - r.start) / plan.series.target.duration
    estimatedPartitions := (monthsInRange r).length }

variable {Bytes Digest : Type} [DecidableEq Digest]

namespace Storage

variable (store : Storage Bytes Digest)

/-- `read_partition` of a RAW file. -/
def readPartition (d : DerivedSeries) (raw : RawDataset Bytes) (month : ℤ) :
    Except Failure (List Candle) :=
  match raw.files month with
  | none => .ok []
  | some bytes => do readRows d.sourceIdentity month (← store.decode bytes)

/-- `_file_checksum` of the RAW file of a month. -/
def rawChecksum (raw : RawDataset Bytes) (month : ℤ) : Option Digest :=
  (raw.files month).map store.fileChecksum

/-- `_partition_summary`: the summary of the candles written for a month. -/
def partitionSummary (month : ℤ) (candles : List Candle) : PartitionSummary Digest where
  month := month
  candleCount := candles.length
  firstOpenTime := candles.head?.map (·.openTime)
  lastOpenTime := candles.getLast?.map (·.openTime)
  checksum := store.canonicalDigest candles

/-- `_source_partition_summary`: the summary of a RAW file, read in full. -/
def sourcePartitionSummary (d : DerivedSeries) (raw : RawDataset Bytes) (month : ℤ) :
    Except Failure (PartitionSummary Digest) :=
  match raw.files month with
  | none => FailureKind.os.raise
  | some bytes => do
    let rows ← store.readPartition d raw month
    return {
      month := month
      candleCount := rows.length
      firstOpenTime := rows.head?.map (·.openTime)
      lastOpenTime := rows.getLast?.map (·.openTime)
      checksum := store.fileChecksum bytes }

/-- `_dataset_checksum`. -/
def datasetChecksum (summaries : List (PartitionSummary Digest)) : Digest :=
  store.composeDigest ((sortByMonth summaries).map fun s => (s.month, s.checksum))

/-! ### Building and committing -/

/-- The RAW candles of the range, partition after partition. -/
def rawRows (d : DerivedSeries) (raw : RawDataset Bytes) (r : DataRange) :
    Except Failure (List Candle) := do
  let partitions ← (raw.partitionPaths r).mapM (store.readPartition d raw)
  return partitions.flatten.filter fun c => r.contains c.openTime

/-- `_build_result`. -/
def buildResult (ctx : DecimalContext) (raw : RawDataset Bytes) (plan : ResamplingPlan) :
    Except Failure (ResamplingResult Digest) := do
  resample ctx store.canonicalDigest (← store.rawRows plan.series raw plan.dataRange) plan

/-- `load_manifest`, of a manifest that exists. -/
def loadManifest (plan : ResamplingPlan) (manifest : DatasetManifest Digest) :
    Except Failure (DatasetManifest Digest) := do
  FailureKind.marketDataStorage.unless
    (manifest.series.schemaVersion == plan.series.schemaVersion)
    "A versão de schema do manifest é incompatível."
  return manifest

/-- The candles of an earlier partition that lie outside the range. -/
def keptRows (partitions : PartitionFiles) (plan : ResamplingPlan) (month : ℤ) :
    Except Failure (ℤ × List Candle) := do
  let existing ← readDerivedPartition plan.series partitions month
  return (month, existing.filter fun c => !plan.dataRange.contains c.openTime)

/-- What a month holds after the commit: its new candles and the kept ones, in order. -/
def mergedRows (result : List Candle) (kept : List (ℤ × List Candle)) (month : ℤ) : List Candle :=
  sortByOpenTime (lastByOpenTime
    (result.filter (fun c => monthOf c.openTime == month) ++
      (kept.filter fun p => p.1 == month).flatMap (·.2)))

/-- `_commit`: the partitions that the range meets are rewritten, the others stay. -/
def commit (st : DerivedState Bytes Digest) (plan : ResamplingPlan)
    (result : ResamplingResult Digest) (sourceVersion : String) :
    Except Failure (DerivedState Bytes Digest) := do
  let previous ← st.manifest.mapM (loadManifest plan)
  let summaries := (previous.map (·.partitions)).getD []
  let kept ← (summaries.filter (·.intersects plan.dataRange)).mapM fun s =>
    keptRows st.partitions plan s.month
  let unchanged := summaries.filter fun s => !s.intersects plan.dataRange
  let grouped := (result.candles.map fun c => monthOf c.openTime) ++ kept.map (·.1)
  let months := grouped.dedup.insertionSort (· ≤ ·)
  let contents := mergedRows result.candles kept
  let written := months.filter fun m => !(contents m).isEmpty
  let partitions := sortByMonth
    (unchanged ++ written.map fun m => store.partitionSummary m (contents m))
  let priorSource := ((previous.map (·.sourcePartitions)).getD []).filter fun s =>
    !s.intersects plan.dataRange
  let source ← (st.raw.partitionPaths plan.dataRange).mapM
    (store.sourcePartitionSummary plan.series st.raw)
  -- preparing an artifact converts its candles to the storage schema
  months.forM fun m => (contents m).forM fun c => validateCandleSerialization c true
  return {
    raw := st.raw
    partitions := (st.partitions.filter fun p => p.1 ∉ months) ++
      written.map fun m => (m, contents m)
    manifest := some {
      series := plan.series
      sourceDatasetVersion := sourceVersion
      sourceChecksum := plan.sourceChecksum
      targetVersion := store.datasetChecksum partitions
      targetChecksum := store.datasetChecksum partitions
      firstOpenTime := partitions.findSome? (·.firstOpenTime)
      lastOpenTime := partitions.reverse.findSome? (·.lastOpenTime)
      candleCount := (partitions.map (·.candleCount)).sum
      partitions := partitions
      sourcePartitions := sortByMonth (priorSource ++ source)
      state := .complete
      sourceVersionAlgorithm := plan.sourceVersionAlgorithm } }

/-! ### Verification -/

/-- One RAW summary of the manifest against the RAW file, when its content is verified. -/
def checkSourceSummary (d : DerivedSeries) (raw : RawDataset Bytes)
    (s : PartitionSummary Digest) : Option DatasetState :=
  if store.rawChecksum raw s.month ≠ some s.checksum then some .stale
  else
    match store.readPartition d raw s.month with
    | .error _ => some .stale
    | .ok rows =>
      if rows.length ≠ s.candleCount ∨ rows.head?.map (·.openTime) ≠ s.firstOpenTime ∨
          rows.getLast?.map (·.openTime) ≠ s.lastOpenTime then some .invalid
      else none

/-- One derived summary of the manifest against the derived file. -/
def checkTargetSummary (d : DerivedSeries) (partitions : PartitionFiles)
    (s : PartitionSummary Digest) : Option DatasetState :=
  if (partitions.file s.month).isNone then some .invalid
  else
    match readDerivedPartition d partitions s.month with
    | .error _ => some .invalid
    | .ok rows => if store.partitionSummary s.month rows ≠ s then some .invalid else none

/-- One summary after the other: a month seen twice is invalid, and the first check that fails
decides. -/
def walkSummaries (check : PartitionSummary Digest → Option DatasetState) :
    List ℤ → List (PartitionSummary Digest) → Option DatasetState
  | _, [] => none
  | seen, s :: summaries =>
    if s.month ∈ seen then some .invalid
    else (check s).orElse fun _ => walkSummaries check (s.month :: seen) summaries

/-- `_verify_unlocked`: the state the manifest is changed to, when a check fails. -/
def verdict (st : DerivedState Bytes Digest) (plan : ResamplingPlan)
    (m : DatasetManifest Digest) (verifySourceContent : Bool) : Option DatasetState :=
  if m.series ≠ plan.series ∨ m.sourceVersionAlgorithm ≠ plan.sourceVersionAlgorithm ∨
      m.targetVersion ≠ m.targetChecksum then some .invalid
  else if st.raw.metadata ≠ some ⟨m.sourceDatasetVersion, m.sourceVersionAlgorithm⟩ ∨
      m.sourceDatasetVersion ≠ m.sourceChecksum then some .stale
  else
    (walkSummaries (fun s =>
        if verifySourceContent then store.checkSourceSummary plan.series st.raw s else none)
      [] m.sourcePartitions).orElse fun _ =>
    (walkSummaries (store.checkTargetSummary plan.series st.partitions) [] m.partitions).orElse
      fun _ =>
    if (∀ p ∈ st.partitions, ∃ s ∈ m.partitions, s.month = p.1) ∧
        m.partitions = sortByMonth m.partitions ∧
        (m.partitions.map (·.candleCount)).sum = m.candleCount ∧
        m.partitions.findSome? (·.firstOpenTime) = m.firstOpenTime ∧
        m.partitions.reverse.findSome? (·.lastOpenTime) = m.lastOpenTime ∧
        store.datasetChecksum m.partitions = m.targetChecksum then none
    else some .invalid

/-- `_verify_unlocked`: the manifest as it is left, with the state the checks gave it. -/
def verifyUnlocked (st : DerivedState Bytes Digest) (plan : ResamplingPlan)
    (verifySourceContent : Bool) :
    Except Failure (DatasetManifest Digest × DerivedState Bytes Digest) :=
  match st.manifest with
  | none => FailureKind.marketDataStorage.raiseWith "O manifest derivado é inválido."
  | some manifest => do
    let manifest ← loadManifest plan manifest
    match store.verdict st plan manifest verifySourceContent with
    | none => return (manifest, st)
    | some state =>
      let marked := { manifest with state := state }
      return (marked, { st with manifest := some marked })

/-! ### Materializing -/

/-- What a call returns or raises, and the datasets it leaves. -/
abbrev Outcome (Bytes Digest : Type) :=
  Except Failure (ResamplingResult Digest) × DerivedState Bytes Digest

/-- A transaction that raises leaves the datasets as they were. -/
def transact (st : DerivedState Bytes Digest)
    (x : Except Failure (ResamplingResult Digest × DerivedState Bytes Digest)) :
    Outcome Bytes Digest :=
  match x with
  | .ok (result, st') => (.ok result, st')
  | .error e => (.error e, st)

/-- The RAW version is the planned one. -/
def requireVersion (raw : RawDataset Bytes) (version message : String) : Except Failure Unit :=
  FailureKind.marketDataInconsistency.unless (raw.metadata.any fun m => m.version == version)
    message

/-- `_materialize_locked`: rebuild the whole range. -/
def materializeLocked (ctx : DecimalContext) (st : DerivedState Bytes Digest)
    (plan : ResamplingPlan) (dryRun : Bool) : Outcome Bytes Digest :=
  transact st do
    requireVersion st.raw plan.sourceDatasetVersion "A versão RAW mudou desde a criação do plano."
    let result ← store.buildResult ctx st.raw plan
    if dryRun then return (result, st)
    else return (result, ← store.commit st plan result plan.sourceDatasetVersion)

/-- `materialize`. -/
def materialize (ctx : DecimalContext) (st : DerivedState Bytes Digest) (plan : ResamplingPlan)
    (dryRun : Bool) : Outcome Bytes Digest :=
  store.materializeLocked ctx st plan dryRun

/-- The months of the range whose RAW file is not the one the manifest knows, and the known ones
that have no file any more. -/
def changedMonths (raw : RawDataset Bytes) (manifest : DatasetManifest Digest) (r : DataRange) :
    List ℤ :=
  let known (month : ℤ) : Option Digest :=
    (manifest.sourcePartitions.reverse.find? fun s => s.month == month).map (·.checksum)
  ((raw.partitionPaths r).filter fun m => known m != store.rawChecksum raw m) ++
    ((manifest.sourcePartitions.filter fun s =>
      s.intersects r && !(raw.partitionPaths r).contains s.month).map (·.month))

/-- The part of the range from the month `first` to the month `last`. -/
def affectedRange (r : DataRange) (first last : ℤ) : Except Failure DataRange :=
  if h : max r.start (monthStart first) < min r.stop (monthStart (last + 1)) then .ok ⟨_, _, h⟩
  else FailureKind.invalidDataRange.raise

/-- `_materialize_incremental_locked`. -/
def materializeIncrementalLocked (ctx : DecimalContext) (st : DerivedState Bytes Digest)
    (plan : ResamplingPlan) (sourceVersion : String) : Outcome Bytes Digest :=
  match st.manifest with
  | none => store.materializeLocked ctx st plan false
  | some manifest =>
    match loadManifest plan manifest with
    | .error e => (.error e, st)
    | .ok manifest =>
      let changed := store.changedMonths st.raw manifest plan.dataRange
      match changed.min?, changed.max? with
      | some first, some last =>
        transact st do
          let affected := plan.restrictTo (← affectedRange plan.dataRange first last)
          let result ← store.buildResult ctx st.raw affected
          requireVersion st.raw sourceVersion "A versão RAW mudou durante o resampling."
          return (result, ← store.commit st affected result sourceVersion)
      | _, _ =>
        if manifest.state = .complete ∧
            manifest.sourceDatasetVersion = plan.sourceDatasetVersion then
          match store.verifyUnlocked st plan false with
          | .error e => (.error e, st)
          | .ok (verified, st') =>
            if verified.state = .complete then
              (.ok {
                plan := plan
                candles := []
                skippedRanges := []
                sourceCount := 0
                materializedCount := 0
                checksum := verified.targetChecksum
                action := .noop }, st')
            else store.materializeLocked ctx st' plan false
        else store.materializeLocked ctx st plan false

/-- `materialize_incremental`: rebuild the span of the RAW partitions that changed. -/
def materializeIncremental (ctx : DecimalContext) (st : DerivedState Bytes Digest)
    (plan : ResamplingPlan) : Outcome Bytes Digest :=
  match requireVersion st.raw plan.sourceDatasetVersion
    "A versão RAW mudou desde a criação do plano." with
  | .error e => (.error e, st)
  | .ok _ => store.materializeIncrementalLocked ctx st plan plan.sourceDatasetVersion

/-- `verify`. -/
def verify (st : DerivedState Bytes Digest) (plan : ResamplingPlan) :
    Except Failure DatasetState × DerivedState Bytes Digest :=
  match store.verifyUnlocked st plan true with
  | .error e => (.error e, st)
  | .ok (verified, st') => (.ok verified.state, st')

end Storage
end MarketData
end DryTrade
