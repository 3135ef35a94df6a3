import DryTrade.KeyedRows
import DryTrade.MarketData.CandleStore

/-!
# Upserts of the RAW store

The RAW store keeps the closed candles of every series in monthly partition files.  An upsert
first plans: it checks every candle of the batch, keeps one of those that are equal, reads the
partitions the batch reaches and merges them with it, so that a candle which differs from the
stored one of its key rejects the whole batch.  Only the partitions that gain a candle are
planned; they are then written and promoted.  The plan also says what the catalog will record
about the dataset after the promotion.

The path of a partition is determined by its series and its month, which stand for it.  Prices
and volumes are numbers here, and the checksums of their text form are left out.

## Main definitions

* `RawStore.planUpsert` — the plan of one batch.
* `RawStore.futureDatasetIntegrity`, `PartitionFiles.firstLastCount` — the boundaries and the
  number of the candles, before the promotion and from the files.
* `RawStore.upsert` — one batch goes in.
* `RawStore.afterAll` — one batch after another.
-/

namespace DryTrade
namespace MarketData

/-- What tells one series from another. -/
abbrev SeriesIdentity := Exchange × MarketType × String × String

/-- The boundaries of a dataset and the number of its candles. -/
structure RawPartitionIntegritySnapshot where
  firstOpenTime : Option Instant
  lastOpenTime : Option Instant
  candleCount : ℕ
  deriving DecidableEq

/-- The snapshot of no candle. -/
def RawPartitionIntegritySnapshot.empty : RawPartitionIntegritySnapshot := ⟨none, none, 0⟩

/-- One more candle. -/
def RawPartitionIntegritySnapshot.count (s : RawPartitionIntegritySnapshot) (c : Candle) :
    RawPartitionIntegritySnapshot where
  firstOpenTime := some (s.firstOpenTime.elim c.openTime fun first => min first c.openTime)
  lastOpenTime := some (s.lastOpenTime.elim c.openTime fun last => max last c.openTime)
  candleCount := s.candleCount + 1

namespace PartitionFiles

variable (identity : SeriesIdentity) (files : PartitionFiles)

/-- `sorted(dataset.glob("year=*/month=*/candles.parquet"))`. -/
def sortedMonths : List ℤ := (files.map (·.1)).insertionSort (· ≤ ·)

/-- `first_last_count`: the rows of a file are in order. -/
def firstLastCount : Except Failure RawPartitionIntegritySnapshot :=
  files.sortedMonths.foldlM (fun s month => do
    let rows ← files.readFile identity month
    match rows.head?, rows.getLast? with
    | some first, some last => return {
        firstOpenTime := some (s.firstOpenTime.elim first.openTime (min · first.openTime))
        lastOpenTime := some (s.lastOpenTime.elim last.openTime (max · last.openTime))
        candleCount := s.candleCount + rows.length }
    | _, _ => return s) .empty

/-- The file of a month is replaced. -/
def replace (month : ℤ) (candles : List Candle) : PartitionFiles :=
  (files.filter fun p => p.1 != month) ++ [(month, candles)]

end PartitionFiles

/-- The RAW store: the partition files of every series. -/
abbrev RawStore := SeriesIdentity → PartitionFiles

namespace RawStore

/-- One fully validated monthly replacement. -/
structure PlannedPartition where
  month : ℤ
  hadOriginal : Bool
  candles : List Candle

/-- The result of validating and merging a batch. -/
structure ParquetUpsertPlan where
  partitions : List PlannedPartition
  storedCount : ℕ
  duplicateCount : ℕ
  firstOpenTime : Option Instant
  lastOpenTime : Option Instant
  candleCount : ℕ

/-- The plan of an empty batch. -/
def ParquetUpsertPlan.empty : ParquetUpsertPlan := ⟨[], 0, 0, none, none, 0⟩

/-- Two candles of a batch differ and share a key. -/
def batchConflict : Failure :=
  ⟨.marketDataInconsistency, "O lote contém candles conflitantes para a mesma chave."⟩

/-- A candle differs from the stored one of its key. -/
def storedConflict : Failure :=
  ⟨.marketDataInconsistency, "O dataset já possui conteúdo diferente para a mesma chave."⟩

/-- One candle of a batch of the series `identity`. -/
def collect (identity : SeriesIdentity) (unique : KeyedRows Candle) (candle : Candle) :
    Except Failure (KeyedRows Candle) := do
  validateCandleSerialization candle true
  FailureKind.marketDataInconsistency.unless (candle.identity == identity)
    "O lote mistura identidades de dataset."
  unique.insert Candle.key batchConflict candle

/-- `if item.key in mapping: raise`, and the item goes in otherwise. -/
def keep (message : String) (rows : List Candle) (item : Candle) :
    Except Failure (List Candle) := do
  FailureKind.marketDataInconsistency.unless (rows.all fun r => r.key != item.key) message
  return rows ++ [item]

/-- The months of candles, in order. -/
def groupedMonths (candles : List Candle) : List ℤ :=
  (candles.map fun c => monthOf c.openTime).dedup.insertionSort (· ≤ ·)

/-- The candles of a month. -/
def inMonth (month : ℤ) (candles : List Candle) : List Candle :=
  candles.filter fun c => monthOf c.openTime == month

/-- The partitions planned so far, with what was counted. -/
structure Planning where
  partitions : List PlannedPartition
  storedCount : ℕ
  duplicateCount : ℕ

/-- The candles of one month are merged with its partition. -/
def planMonth (identity : SeriesIdentity) (files : PartitionFiles) (unique : List Candle)
    (planned : Planning) (month : ℤ) : Except Failure Planning := do
  let existing ← files.readFile identity month
  let kept ← existing.foldlM (keep "A partição existente contém uma chave duplicada.") []
  let merged ← (inMonth month unique).foldlM (KeyedRows.insert Candle.key storedConflict)
    ⟨kept, 0, planned.duplicateCount⟩
  if merged.added = 0 then return { planned with duplicateCount := merged.duplicates }
  return {
    partitions := planned.partitions ++
      [⟨month, (files.file month).isSome, sortByOpenTime merged.rows⟩]
    storedCount := planned.storedCount + merged.added
    duplicateCount := merged.duplicates }

/-- `mapping[candle.key] = candle`. -/
def assignKey (rows : List Candle) (candle : Candle) : List Candle :=
  if rows.any fun r => r.key == candle.key then
    rows.map fun r => if r.key == candle.key then candle else r
  else rows ++ [candle]

/-- `_future_dataset_integrity`. -/
def futureDatasetIntegrity (identity : SeriesIdentity) (files : PartitionFiles)
    (incoming : List Candle) : Except Failure RawPartitionIntegritySnapshot := do
  let stored ← files.sortedMonths.foldlM (fun rows month => do
    let read ← files.readFile identity month
    read.foldlM (keep "O dataset contém chave duplicada entre partições.") rows) []
  let logical := incoming.foldl assignKey stored
  return ((groupedMonths logical).flatMap fun month => sortByOpenTime (inMonth month logical)).foldl
    RawPartitionIntegritySnapshot.count .empty

/-- `plan_upsert`: every value is validated and every conflicting key rejected. -/
def planUpsert (identity : SeriesIdentity) (files : PartitionFiles) (candles : List Candle) :
    Except Failure ParquetUpsertPlan := do
  let unique ← candles.foldlM (collect identity) ⟨[], 0, 0⟩
  let planned ← (groupedMonths unique.rows).foldlM (planMonth identity files unique.rows)
    ⟨[], 0, unique.duplicates⟩
  let future ← futureDatasetIntegrity identity files unique.rows
  return {
    partitions := planned.partitions
    storedCount := planned.storedCount
    duplicateCount := planned.duplicateCount
    firstOpenTime := future.firstOpenTime
    lastOpenTime := future.lastOpenTime
    candleCount := future.candleCount }

/-- `prepare_files`: every planned candle is checked again before it is written. -/
def prepareFiles (plan : ParquetUpsertPlan) : Except Failure Unit :=
  plan.partitions.forM fun p => p.candles.forM fun c => validateCandleSerialization c true

/-- Every planned partition is promoted. -/
def promote (files : PartitionFiles) (partitions : List PlannedPartition) : PartitionFiles :=
  partitions.foldl (fun files p => files.replace p.month p.candles) files

/-- `upsert`, for the series of the first candle. -/
def upsert (store : RawStore) : List Candle → Except Failure (RawStore × ParquetUpsertPlan)
  | [] => .ok (store, .empty)
  | candle :: candles => do
    let plan ← planUpsert candle.identity (store candle.identity) (candle :: candles)
    prepareFiles plan
    return (Function.update store candle.identity
      (promote (store candle.identity) plan.partitions), plan)

/-- One batch after another: a rejected batch changes nothing.  The batches that were accepted
are returned with the store. -/
def afterAll (store : RawStore) : List (List Candle) → RawStore × List (List Candle)
  | [] => (store, [])
  | batch :: batches =>
    match store.upsert batch with
    | .ok (store', _) => ((afterAll store' batches).1, batch :: (afterAll store' batches).2)
    | .error _ => afterAll store batches

end RawStore

end MarketData
end DryTrade
