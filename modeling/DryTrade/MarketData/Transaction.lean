import DryTrade.MarketData.Catalog
import DryTrade.Process

/-!
# The ingestion transaction

The coordinator that replaces the partitions of a dataset and its catalog entries
together: a journal says PREPARED before the first file is touched and COMMITTED
after the last one was promoted, and a later recovery of the dataset undoes the
former and finishes the latter.

Every change of the disk is one operation of a process, so that a crash may cut
the run before any of them and any of them may raise; the `fsync` that follows a
change belongs to its operation.  The names of temporaries and backups are built
from the target and the transaction, as the checks on names require.

## Main definitions

* `Disk`, `MarketFile`, `FileContent` — the files below the market root.
* `JournalRecord`, `ValidRecord` — journals, and those the checks accept.
* `execute` — the protocol.
* `recoverDataset` — the recovery.
* `handleFailedIngestion`, `markAbandonedRunsFailed` — what the service does after a failure.
-/

namespace DryTrade
namespace MarketData

/-! ### Journals -/

inductive JournalState
  | prepared
  | committed
  deriving DecidableEq, Repr

/-- The partition file one transaction replaces. -/
structure JournalArtifact where
  /-- The `candles.parquet` of the partition. -/
  target : String
  hadOriginal : Bool
  deriving DecidableEq, Repr

/-- One journal. -/
structure JournalRecord extends CatalogMutation where
  transactionId : String
  state : JournalState
  partitions : List JournalArtifact
  catalogHadOriginal : Bool
  intendedVersion : String
  intendedChecksum : String
  deriving DecidableEq

/-- A hexadecimal digit as the identifiers are printed. -/
def isHexDigit (c : Char) : Bool := c.isDigit || (decide ('a' ≤ c) && decide (c ≤ 'f'))

/-- `_SHA256_PATTERN`. -/
def isSha256 (s : String) : Bool := s.toList.length == 64 && s.toList.all isHexDigit

/-- An identifier `uuid4` prints, with or without its hyphens. -/
def isUuid (s : String) : Bool :=
  let digits := s.toList.filter (· != '-')
  digits.length == 32 && digits.all isHexDigit

/-- The identities a journal must agree on. -/
def JournalRecord.identityValid (r : JournalRecord) : Bool :=
  r.datasetKey != "" && r.datasetIntended.key == r.datasetKey &&
    (r.datasetBefore.all fun d => d.key == r.datasetKey) &&
    r.datasetIntended.version == r.intendedVersion &&
    r.runBefore.runId == r.runId && r.runIntended.runId == r.runId &&
    r.runBefore.datasetKey == r.datasetKey && r.runIntended.datasetKey == r.datasetKey &&
    r.runBefore.status == .running && r.runIntended.status == .completed &&
    (r.receiptKey.isNone == (r.receiptBefore.isNone && r.receiptIntended.isNone)) &&
    (r.receiptIntended.all fun x => x.datasetKey == r.datasetKey &&
      x.version == r.intendedVersion && x.checksum == r.intendedChecksum &&
      r.receiptKey == some (receiptKey x.jobId x.chunkIndex))

/-- `_validate_record`, without the checks on names. -/
def JournalRecord.validate (r : JournalRecord) : Except Failure Unit := do
  FailureKind.marketDataStorage.unless (isUuid r.runId) "run_id transacional inválido."
  FailureKind.marketDataStorage.unless (isSha256 r.intendedVersion) "Versão transacional inválida."
  FailureKind.marketDataStorage.unless (isSha256 r.intendedChecksum)
    "Checksum transacional inválido."
  FailureKind.marketDataStorage.unless r.identityValid "Identidade transacional inválida."
  FailureKind.marketDataStorage.unless (decide (r.partitions.map (·.target)).Nodup)
    "Targets transacionais duplicados."
  FailureKind.marketDataStorage.unless (isUuid r.transactionId) "transaction_id inválido."

/-- A journal that passed its checks; no other is ever written. -/
structure ValidRecord extends JournalRecord where
  valid : toJournalRecord.validate = .ok ()

/-- The same journal in its COMMITTED state. -/
def ValidRecord.committed (r : ValidRecord) : ValidRecord :=
  { r with
    state := .committed
    valid := r.valid }

/-! ### The disk -/

/-- The files of the market root.  A catalog scratch file is the fresh one a plain catalog
write goes through. -/
inductive MarketFile
  | partition (target : String)
  | partitionTemporary (target transactionId : String)
  | partitionBackup (target transactionId : String)
  | catalog
  | catalogTemporary (transactionId : String)
  | catalogBackup (transactionId : String)
  | catalogScratch
  deriving DecidableEq

/-- What a file holds; one that is being written is incomplete. -/
inductive FileContent
  | incomplete
  | candles (rows : List Candle)
  | catalog (state : CatalogState)

/-- The market root: the journals in the order of their names, the incomplete journal writes,
and every other file. -/
structure Disk where
  journals : List ValidRecord
  journalTemporaries : List String
  files : MarketFile → Option FileContent

namespace Disk

/-- Put a file in place, or remove it. -/
def set (d : Disk) (file : MarketFile) (content : Option FileContent) : Disk :=
  { d with files := Function.update d.files file content }

@[simp] theorem set_files_self (d : Disk) (file : MarketFile) (content : Option FileContent) :
    (d.set file content).files file = content := Function.update_self ..

theorem set_files_of_ne (d : Disk) {file file' : MarketFile} (content : Option FileContent)
    (h : file' ≠ file) : (d.set file content).files file' = d.files file' :=
  Function.update_of_ne h ..

@[simp] theorem set_journals (d : Disk) (file : MarketFile) (content : Option FileContent) :
    (d.set file content).journals = d.journals := rfl

@[simp] theorem set_journalTemporaries (d : Disk) (file : MarketFile)
    (content : Option FileContent) :
    (d.set file content).journalTemporaries = d.journalTemporaries := rfl

/-- `path.exists()`. -/
def exist (d : Disk) (file : MarketFile) : Bool := (d.files file).isSome

/-- `os.replace(src, dst)`. -/
def replace (src dst : MarketFile) (d : Disk) : Option Disk :=
  (d.files src).map fun content => (d.set src none).set dst (some content)

/-- `os.link(src, dst)`. -/
def link (src dst : MarketFile) (d : Disk) : Option Disk :=
  match d.files src, d.files dst with
  | some content, none => some (d.set dst (some content))
  | _, _ => none

/-- The journals with one more, which replaces that of its transaction. -/
def insertJournal (d : Disk) (record : ValidRecord) : Disk :=
  { d with
    journals := (d.journals.filter fun r => r.transactionId != record.transactionId).orderedInsert
      (fun a b => a.transactionId ≤ b.transactionId) record }

/-- The journals without that of a transaction. -/
def removeJournal (d : Disk) (transactionId : String) : Disk :=
  { d with journals := d.journals.filter fun r => r.transactionId != transactionId }

/-- The journal directory without one incomplete write. -/
def removeJournalTemporary (d : Disk) (transactionId : String) : Disk :=
  { d with journalTemporaries := d.journalTemporaries.filter (· != transactionId) }

end Disk

/-- A process over the disk. -/
abbrev DiskProcess := Process Disk Failure

/-- `OSError`. -/
def osError : Failure := ⟨.os, ""⟩

/-- `MarketDataStorageError()`. -/
def storageError : Failure := ⟨.marketDataStorage, FailureKind.marketDataStorage.defaultMessage⟩

/-- One operation on the disk. -/
def operation (f : Disk → Option Disk) : DiskProcess Unit := Process.act osError f

/-- `path.unlink(missing_ok=True)`. -/
def unlink (file : MarketFile) : DiskProcess Unit := operation fun d => some (d.set file none)

/-- `os.replace(src, dst)`. -/
def replaceFile (src dst : MarketFile) : DiskProcess Unit := operation (Disk.replace src dst)

/-- Open a file for writing, then write it. -/
def writeFile (file : MarketFile) (content : FileContent) : DiskProcess Unit := do
  operation fun d => some (d.set file (some .incomplete))
  operation fun d => some (d.set file (some content))

/-- Raise what a pure check raised. -/
def ofExcept {α : Type} : Except Failure α → DiskProcess α
  | .ok a => pure a
  | .error e => Process.raise e

/-- `if condition: p`. -/
def onlyIf (condition : Bool) (p : DiskProcess Unit) : DiskProcess Unit :=
  if condition then p else pure ()

/-- Run a process on the current disk only if a condition on it holds. -/
def whenDisk (condition : Disk → Bool) (p : DiskProcess Unit) : DiskProcess Unit := do
  let d ← Process.read
  onlyIf (condition d) p

/-- `_write_journal`: the temporary is opened, written and renamed. -/
def writeJournal (record : ValidRecord) : DiskProcess Unit :=
  Process.orElse
    (do
      operation fun d => some
        { d with journalTemporaries := d.journalTemporaries.insert record.transactionId }
      operation some
      operation fun d =>
        some ((d.removeJournalTemporary record.transactionId).insertJournal record))
    (fun _ => do
      operation fun d => some (d.removeJournalTemporary record.transactionId)
      Process.raise storageError)

/-- `journal_path.unlink(missing_ok=True)`. -/
def unlinkJournal (transactionId : String) : DiskProcess Unit :=
  operation fun d => some (d.removeJournal transactionId)

/-! ### Plans -/

/-- One validated monthly replacement. -/
structure PlannedPartition where
  target : String
  hadOriginal : Bool
  candles : List Candle

/-- The part of an upsert plan that the transaction reads. -/
structure ParquetUpsertPlan where
  transactionId : String
  partitions : List PlannedPartition
  checksum : String

/-- `_record`. -/
def recordOf (parquetPlan : ParquetUpsertPlan) (catalogPlan : CatalogPlan)
    (intendedVersion : String) (state : JournalState) : JournalRecord :=
  { catalogPlan.toCatalogMutation with
    transactionId := parquetPlan.transactionId
    state := state
    partitions := parquetPlan.partitions.map fun p => ⟨p.target, p.hadOriginal⟩
    catalogHadOriginal := catalogPlan.hadOriginal
    intendedVersion := intendedVersion
    intendedChecksum := parquetPlan.checksum }

/-! ### The protocol -/

/-- Write the temporary of one partition. -/
def preparePartition (transactionId : String) (p : PlannedPartition) : DiskProcess Unit :=
  Process.orElse (writeFile (.partitionTemporary p.target transactionId) (.candles p.candles))
    fun _ => do
      unlink (.partitionTemporary p.target transactionId)
      Process.raise storageError

/-- Restore a target from its backup, or remove one that had no original. -/
def restore (target backup : MarketFile) (hadOriginal : Bool) : DiskProcess Unit := do
  let d ← Process.read
  if d.exist backup then do
    unlink target
    replaceFile backup target
  else if hadOriginal then pure ()
  else unlink target

/-- `_replace_partition`: replace one target and restore it on every error. -/
def promotePartition (transactionId : String) (p : PlannedPartition) : DiskProcess Unit :=
  Process.onRaise
    (do
      onlyIf p.hadOriginal
        (replaceFile (.partition p.target) (.partitionBackup p.target transactionId))
      replaceFile (.partitionTemporary p.target transactionId) (.partition p.target))
    (fun _ => do
      unlink (.partitionTemporary p.target transactionId)
      restore (.partition p.target) (.partitionBackup p.target transactionId) p.hadOriginal)

/-- Write the future catalog without promoting it. -/
def writePrepared (plan : CatalogPlan) : DiskProcess Unit :=
  Process.orElse (writeFile (.catalogTemporary plan.transactionId) (.catalog plan.content))
    fun _ => do
      unlink (.catalogTemporary plan.transactionId)
      Process.raise storageError

/-- Promote the catalog while preserving a backup. -/
def promoteCatalog (plan : CatalogPlan) : DiskProcess Unit :=
  Process.onRaise
    (do
      onlyIf plan.hadOriginal do
        unlink (.catalogBackup plan.transactionId)
        operation (Disk.link .catalog (.catalogBackup plan.transactionId))
      replaceFile (.catalogTemporary plan.transactionId) .catalog)
    (fun _ => do
      unlink (.catalogTemporary plan.transactionId)
      restore .catalog (.catalogBackup plan.transactionId) plan.hadOriginal)

/-- `_rollback_artifact` of a partition. -/
def rollbackPartition (transactionId : String) (a : JournalArtifact) : DiskProcess Unit :=
  restore (.partition a.target) (.partitionBackup a.target transactionId) a.hadOriginal

/-- `_cleanup_temporaries`. -/
def cleanupTemporaries (record : ValidRecord) : DiskProcess Unit := do
  Process.forEach record.partitions fun a =>
    unlink (.partitionTemporary a.target record.transactionId)
  unlink (.catalogTemporary record.transactionId)

/-- `_rollback_full`: the file-level rollback of the running process. -/
def rollbackFull (record : ValidRecord) : DiskProcess Unit := do
  restore .catalog (.catalogBackup record.transactionId) record.catalogHadOriginal
  Process.forEach record.partitions.reverse (rollbackPartition record.transactionId)
  cleanupTemporaries record
  unlink (.catalogBackup record.transactionId)

/-- `_rollback_before_commit`. -/
def rollbackBeforeCommit (record : ValidRecord) : DiskProcess Unit := do
  rollbackFull record
  unlinkJournal record.transactionId

/-- `_cleanup_artifacts`. -/
def cleanupArtifacts (record : ValidRecord) : DiskProcess Unit := do
  Process.forEach record.partitions fun a => do
    unlink (.partitionTemporary a.target record.transactionId)
    unlink (.partitionBackup a.target record.transactionId)
  unlink (.catalogTemporary record.transactionId)
  unlink (.catalogBackup record.transactionId)

/-- `_finalize`. -/
def finalize (record : ValidRecord) : DiskProcess Unit := do
  cleanupArtifacts record
  unlinkJournal record.transactionId

/-- The part of the protocol between the two journal writes. -/
def prepareAndPromote (parquetPlan : ParquetUpsertPlan) (catalogPlan : CatalogPlan) :
    DiskProcess Unit := do
  Process.forEach parquetPlan.partitions (preparePartition parquetPlan.transactionId)
  writePrepared catalogPlan
  Process.forEach parquetPlan.partitions (promotePartition parquetPlan.transactionId)
  promoteCatalog catalogPlan

/-- The part of the protocol that is rolled back when it raises. -/
def prepareAndCommit (parquetPlan : ParquetUpsertPlan) (catalogPlan : CatalogPlan)
    (record : ValidRecord) : DiskProcess Unit := do
  prepareAndPromote parquetPlan catalogPlan
  writeJournal record.committed

/-- What is done when the cleanup of a committed transaction raised. -/
def restoreCommittedJournal (record : ValidRecord) : DiskProcess Unit :=
  Process.orElse
    (whenDisk (fun d => !d.journals.any fun r => r.transactionId == record.transactionId)
      (writeJournal record))
    (fun _ => pure ())

/-- The protocol over a validated journal. -/
def executeRecord (parquetPlan : ParquetUpsertPlan) (catalogPlan : CatalogPlan)
    (record : ValidRecord) : DiskProcess Unit := do
  writeJournal record
  Process.onRaise (prepareAndCommit parquetPlan catalogPlan record) fun _ =>
    rollbackBeforeCommit record
  Process.orElse (finalize record.committed) fun _ => restoreCommittedJournal record.committed

/-- Execute the protocol and never downgrade a durably committed result. -/
def execute (parquetPlan : ParquetUpsertPlan) (catalogPlan : CatalogPlan)
    (intendedVersion : String) : DiskProcess Unit :=
  if parquetPlan.transactionId ≠ catalogPlan.transactionId then
    Process.raise ⟨.marketDataStorage, "Planos transacionais divergentes."⟩
  else
    match h : (recordOf parquetPlan catalogPlan intendedVersion .prepared).validate with
    | .error e => Process.raise e
    | .ok () =>
        executeRecord parquetPlan catalogPlan
          ⟨recordOf parquetPlan catalogPlan intendedVersion .prepared, h⟩

/-! ### Recovery -/

/-- `_load`. -/
def loadCatalog (d : Disk) : Except Failure CatalogState :=
  match d.files .catalog with
  | none => .ok .empty
  | some (.catalog state) => .ok state
  | some _ => .error storageError

/-- `_write`: through a fresh scratch file. -/
def writeCatalog (state : CatalogState) : DiskProcess Unit :=
  Process.orElse
    (do
      writeFile .catalogScratch (.catalog state)
      replaceFile .catalogScratch .catalog)
    (fun _ => do
      unlink .catalogScratch
      Process.raise storageError)

/-- `rollback_semantic` on the file. -/
def rollbackCatalog (record : ValidRecord) : DiskProcess Unit := do
  let d ← Process.read
  let state ← ofExcept (loadCatalog d)
  let reverted ← ofExcept (rollbackSemantic record.toCatalogMutation state)
  match reverted with
  | some reverted => writeCatalog reverted
  | none => pure ()

/-- `_rollback_late`: the rollback of a later process. -/
def rollbackLate (record : ValidRecord) : DiskProcess Unit := do
  rollbackCatalog record
  Process.forEach record.partitions.reverse (rollbackPartition record.transactionId)
  cleanupTemporaries record
  unlink (.catalogBackup record.transactionId)

/-- Undo or finish one journal. -/
def recoverRecord (record : ValidRecord) : DiskProcess Unit := do
  match record.state with
  | .prepared => rollbackLate record
  | .committed => cleanupArtifacts record
  unlinkJournal record.transactionId

/-- The journals of a dataset. -/
def Disk.pendingRecords (d : Disk) (datasetKey : String) : List ValidRecord :=
  d.journals.filter fun r => r.datasetKey == datasetKey

/-- `_remove_incomplete_journal_writes`. -/
def removeIncompleteJournalWrites : DiskProcess Unit := do
  let d ← Process.read
  Process.forEach d.journalTemporaries fun name =>
    operation fun d => some (d.removeJournalTemporary name)

/-- Recover one dataset while preserving unrelated catalog commits. -/
def recoverDataset (datasetKey : String) : DiskProcess Unit := do
  removeIncompleteJournalWrites
  let d ← Process.read
  Process.forEach (d.pendingRecords datasetKey) recoverRecord
  let d ← Process.read
  if (d.pendingRecords datasetKey).any fun r => r.state == .prepared then
    Process.raise ⟨.marketDataStorage, "A recuperação do dataset ficou incompleta."⟩
  else pure ()

/-! ### The service -/

/-- The code a failed ingestion records. -/
def ingestionErrorCode (e : Failure) : String :=
  if e.kind = .marketDataStorage then "market_data_storage" else "ingestion_failed"

/-- `fail_run` on the file. -/
def failRunOnDisk (runId datasetKey errorCode now : String) : DiskProcess Unit := do
  let d ← Process.read
  let state ← ofExcept (loadCatalog d)
  let failed ← ofExcept (failRun runId datasetKey errorCode now state)
  writeCatalog failed

/-- The error handling of an ingestion: the run fails, and a storage error on the way is
ignored. -/
def handleFailedIngestion (runId datasetKey now : String) (e : Failure) : DiskProcess Unit :=
  Process.orElse (failRunOnDisk runId datasetKey (ingestionErrorCode e) now) fun e' =>
    if e'.kind = .marketDataStorage then pure () else Process.raise e'

/-- `mark_abandoned_runs_failed` on the file, for the runs whose dataset is not locked. -/
def markAbandonedRunsFailed (now : String) (runIds : List String) : DiskProcess Unit :=
  Process.forEach runIds fun runId => do
    let d ← Process.read
    let state ← ofExcept (loadCatalog d)
    match markAbandonedRunFailed runId now state with
    | some failed => writeCatalog failed
    | none => pure ()

end MarketData
end DryTrade
