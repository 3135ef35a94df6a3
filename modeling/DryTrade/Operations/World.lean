import DryTrade.Interference
import DryTrade.Operations.Jobs
import DryTrade.Operations.Repository

/-!
# What a worker works on

A worker reads and writes the operation table, the local job catalog, the stored candles with
the receipts of the chunks that were ingested, and the locks of the datasets.  Each access is one
action of a program.  The world also says what the environment has decided so far: what the clock
shows, which rows other transactions hold, how many heartbeats are due, what the public source
answers.

A chunk is ingested by one journaled transaction, so its candles and its receipt appear together.

## Main definitions

* `World`, `Ambient` — the state.
* `Point`, `Work` — where a worker stands, and its programs.
* `transaction`, `jobChange`, `ingest` — its actions.
-/

namespace DryTrade
namespace Operations

open MarketData

/-- `ChunkCommitReceipt`. -/
structure ChunkCommitReceipt where
  jobId : Uuid
  chunkIndex : ℕ
  dataset : MarketDatasetSelector
  dataRange : DataRange
  fetchedCount : ℕ
  storedCount : ℕ
  duplicateCount : ℕ
  requestCount : ℕ
  version : ℕ
  checksum : ℕ
  deriving DecidableEq, Repr

/-- What the environment decides. -/
structure Ambient where
  /-- The rows other transactions have locked. -/
  lockedRows : Uuid → Bool
  /-- Another worker has won the race for a dataset twice. -/
  claimRaceLost : Bool
  /-- Another process holds the dataset lock for longer than the timeout. -/
  lockBusy : Bool
  /-- How many heartbeats fall due before the executor goes on. -/
  heartbeatsDue : ℕ
  /-- The cancellation of the executor is delivered. -/
  interrupted : Bool
  /-- What the public source answers for a dataset: its requests and the content of each
  candle. -/
  fetch : MarketDatasetSelector → Except OperationError (ℕ × (ℤ → ℕ))

/-- An event of the control plane, kept as a history. -/
inductive ControlEvent
  | submitted
  | pauseAccepted
  | resumeAccepted
  | cancelAccepted
  | claimed
  deriving DecidableEq, Repr

/-- The state workers and administrators share. -/
structure World where
  table : OperationTable
  jobs : JobCatalog
  /-- The content of the stored candles, by open time. -/
  candles : MarketDatasetSelector → ℤ → Option ℕ
  /-- The receipts, newest first. -/
  receipts : List ChunkCommitReceipt
  /-- The dataset locks with their holders. -/
  locks : List (MarketDatasetSelector × Uuid)
  /-- What the heartbeat task of a worker has raised. -/
  heartbeatErrors : List (Uuid × OperationError)
  clock : ℤ
  ambient : Ambient
  /-- What administrators and claims have committed, oldest first. -/
  history : List (Uuid × ControlEvent)

/-- Where a worker stands when the environment moves. -/
inductive Point
  /-- No later write relies on what it has read of the table. -/
  | free
  /-- It has read the clock for a claim query. -/
  | claiming
  /-- It has read the row of the operation and is about to write it back. -/
  | held (operationId : Uuid)
  /-- It has read the row of the operation and is about to renew its lease. -/
  | renewing (operationId : Uuid)
  /-- It works on local files. -/
  | files
  deriving DecidableEq, Repr

/-- What leaves a function of the worker: an exception, or the cancellation of its task. -/
inductive Raised
  | error (e : OperationError)
  | cancelled
  deriving DecidableEq, Repr

/-- A program of a worker. -/
abbrev Work (α : Type) := Program World Point Raised α

/-- `raise`. -/
def raiseError {α : Type} (e : OperationError) : Work α := Program.raise (.error e)

/-- A computation without access to the world. -/
def compute {α : Type} (r : Except OperationError α) : Work α :=
  Program.ofExcept (r.mapError .error)

/-- `if not condition: raise e`. -/
def ensure (condition : Prop) [Decidable condition] (e : OperationError) : Work Unit :=
  compute (require condition e)

/-- `except Exception as error`. -/
def exceptError {α : Type} (p : Work α) (h : OperationError → Work α) : Work α :=
  Program.tryCatch (fun r => match r with
    | .error e => h e
    | .cancelled => Program.raise .cancelled) p

/-- Read something of the world. -/
def look {α : Type} (point : Point) (f : World → Except OperationError α) : Work α :=
  Program.read point fun w => (f w).mapError .error

/-- Change the world or raise. -/
def change {α : Type} (point : Point) (f : World → Except OperationError α × World) : Work α :=
  Program.action point fun w => ((f w).1.mapError .error, (f w).2)

/-- `clock()`. -/
def readClock (point : Point) : Work ℤ := look point fun w => .ok w.clock

/-- The world after a transaction, and what the transaction returns. -/
def World.commit {α : Type} (w : World) (r : Except OperationError (α × OperationTable)) :
    Except OperationError α × World :=
  match r with
  | .ok (a, t) => (.ok a, { w with table := t })
  | .error e => (.error e, w)

/-- One transaction of the repository. -/
def transaction {α : Type} (point : Point)
    (f : World → Except OperationError (α × OperationTable)) : Work α :=
  change point fun w => w.commit (f w)

/-! ### Files -/

/-- `MarketJobCatalog.get`. -/
def jobGet (jobId : Uuid) : Work MarketJobRecord := look .files fun w => w.jobs.get jobId

/-- `MarketJobCatalog.create`. -/
def jobCreate (planner : MarketDataPlanner) (plan : BackfillPlan) : Work MarketJobRecord :=
  change .files fun w =>
    let r := w.jobs.create planner.digest plan w.clock
    (r.1, { w with jobs := r.2 })

/-- `MarketJobCatalog._replace`. -/
def jobReplace (record : MarketJobRecord) (fields : JobFields) : Work MarketJobRecord :=
  change .files fun w =>
    let r := w.jobs.replace record fields
    (r.1, { w with jobs := r.2 })

/-- One change of the catalog: read the record, decide, write. -/
def jobChange (jobId : Uuid) (f : JobFields → ℤ → Except OperationError JobFields) :
    Work MarketJobRecord := do
  let record ← jobGet jobId
  let now ← readClock .files
  let fields ← compute (f record.toJobFields now)
  jobReplace record fields

/-- `MarketJobCatalog.start`. -/
def jobStart (jobId : Uuid) : Work MarketJobRecord := jobChange jobId JobFields.started

/-- `MarketJobCatalog.advance`. -/
def jobAdvance (jobId : Uuid) (receipt : ChunkCommitReceipt) (chunkIndex : ℕ) :
    Work MarketJobRecord :=
  jobChange jobId fun r now => r.advanced chunkIndex receipt.fetchedCount receipt.storedCount
    receipt.duplicateCount receipt.requestCount now

/-- `MarketJobCatalog.pause`. -/
def jobPause (jobId : Uuid) : Work MarketJobRecord := jobChange jobId JobFields.pausing

/-- `MarketJobCatalog.cancel`. -/
def jobCancel (jobId : Uuid) : Work MarketJobRecord := jobChange jobId JobFields.cancelling

/-- `MarketJobCatalog.fail`. -/
def jobFail (jobId : Uuid) (code : JobErrorCode) : Work Unit := do
  let record ← jobGet jobId
  let now ← readClock .files
  match record.toJobFields.failing code now with
  | none => pure ()
  | some fields => do
    let _ ← jobReplace record fields

/-- `_local_job_or_none`. -/
def localJobOrNone (jobId : Uuid) : Work (Option MarketJobRecord) :=
  look .files fun w => .ok (w.jobs.lookup jobId)

/-- Some process holds the lock of the dataset. -/
def World.locked (w : World) (dataset : MarketDatasetSelector) : Bool :=
  w.locks.any fun l => l.1 = dataset

/-- One record of `recover_abandoned`: a RUNNING job nobody executes has failed. -/
def recoverRecord (record : MarketJobRecord) : Work Unit :=
  change .files fun w =>
    if w.locked record.dataset || w.ambient.lockBusy then (.ok (), w)
    else if w.jobs.lookup record.jobId = some record ∧ record.status = .running then
      let fields : JobFields := { record.toJobFields with
        status := .failed
        updatedAt := w.clock
        finishedAt := some w.clock
        errorCode := some .interruptedJob }
      match fields.construct with
      | .ok failed => (.ok (), { w with jobs := w.jobs.put failed })
      | .error e => (.error e, w)
    else (.ok (), w)

/-- `MarketJobCatalog.recover_abandoned`. -/
def recoverAbandoned : Work Unit := do
  let records ← look .files fun w => .ok (w.jobs.filter (·.status = .running))
  records.forM recoverRecord

/-- `DatasetLockManager.acquire`. -/
def lockAcquire (ownerId : Uuid) (dataset : MarketDatasetSelector) : Work Unit :=
  change .files fun w =>
    if w.locked dataset || w.ambient.lockBusy then (.error .jobLockTimeout, w)
    else (.ok (), { w with locks := (dataset, ownerId) :: w.locks })

/-- The lock is given back. -/
def lockRelease (ownerId : Uuid) (dataset : MarketDatasetSelector) : Work Unit :=
  change .files fun w => (.ok (), { w with locks := w.locks.filter (· ≠ (dataset, ownerId)) })

/-- The open times of the candles of an aligned range. -/
def openTimes (tf : Timeframe) (r : DataRange) : List ℤ :=
  (List.range ((r.stop - r.start) / tf.duration).toNat).map fun i => r.start + i * tf.duration

/-- `verify`: the range is valid and has every candle. -/
def World.verified (w : World) (dataset : MarketDatasetSelector) (r : DataRange) : Bool :=
  (openTimes dataset.timeframe r).all fun t => (w.candles dataset t).isSome

/-- `HistoricalMarketDataService.verify`. -/
def verify (dataset : MarketDatasetSelector) (r : DataRange) : Work Bool :=
  look .files fun w => .ok (w.verified dataset r)

/-- `get_chunk_receipt`. -/
def World.receipt (w : World) (jobId : Uuid) (chunkIndex : ℕ) : Option ChunkCommitReceipt :=
  w.receipts.find? fun r => r.jobId = jobId ∧ r.chunkIndex = chunkIndex

/-- `HistoricalMarketDataService.get_chunk_receipt`. -/
def getChunkReceipt (point : Point) (jobId : Uuid) (chunkIndex : ℕ) :
    Work (Option ChunkCommitReceipt) :=
  look point fun w => .ok (w.receipt jobId chunkIndex)

/-- The dataset with the fetched candles. -/
def mergedCandles (stored : ℤ → Option ℕ) (times : List ℤ) (content : ℤ → ℕ) : ℤ → Option ℕ :=
  fun t => if t ∈ times then some (content t) else stored t

/-- The receipt of an ingested chunk. -/
def chunkReceipt (versionDigest : (ℤ → Option ℕ) → ℕ) (dataset : MarketDatasetSelector)
    (jobId : Uuid) (chunk : BackfillChunk) (stored : ℤ → Option ℕ) (requests : ℕ)
    (content : ℤ → ℕ) : ChunkCommitReceipt :=
  let times := openTimes dataset.timeframe chunk.dataRange
  let version := versionDigest (mergedCandles stored times content)
  { jobId := jobId
    chunkIndex := chunk.index
    dataset := dataset
    dataRange := chunk.dataRange
    fetchedCount := times.length
    storedCount := times.countP fun t => (stored t).isNone
    duplicateCount := times.countP fun t => (stored t).isSome
    requestCount := requests
    version := version
    checksum := version }

/-- `HistoricalMarketDataService.ingest`: the candles and the receipt of one chunk. -/
def World.ingest (versionDigest : (ℤ → Option ℕ) → ℕ) (w : World)
    (dataset : MarketDatasetSelector) (jobId : Uuid) (chunk : BackfillChunk) :
    Except OperationError ℕ × World :=
  match w.ambient.fetch dataset with
  | .error e => (.error e, w)
  | .ok (requests, content) =>
    let times := openTimes dataset.timeframe chunk.dataRange
    if times.all fun t => (w.candles dataset t).all (· = content t) then
      (.ok requests, { w with
        candles := fun d => if d = dataset then mergedCandles (w.candles dataset) times content
          else w.candles d
        receipts := chunkReceipt versionDigest dataset jobId chunk (w.candles dataset) requests
          content :: w.receipts })
    else (.error .inconsistency, w)

/-- `HistoricalMarketDataService.ingest`. -/
def ingest (versionDigest : (ℤ → Option ℕ) → ℕ) (dataset : MarketDatasetSelector) (jobId : Uuid)
    (chunk : BackfillChunk) : Work ℕ :=
  change .files fun w => w.ingest versionDigest dataset jobId chunk

end Operations
end DryTrade
