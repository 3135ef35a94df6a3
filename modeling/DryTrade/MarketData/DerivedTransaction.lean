import DryTrade.Files
import DryTrade.Growth
import DryTrade.MarketData.Derived
import DryTrade.MarketData.Transaction

/-!
# The transaction of a derived dataset

A commit of a derived dataset replaces, creates or deletes the partition files its
plan meets and replaces the manifest.  A journal says PREPARED before the first of
them is touched and COMMITTED after the last one was promoted; every original is
kept under a second name, a hard link, until then.

The files live in a file system with inodes, and each change of it is one operation
of a process; the `fsync` that follows a change belongs to its operation.  The keys
of a derived dataset and of its RAW source are those of a series, and the names of
temporaries and backups are built from the target and the transaction, as the checks
on names require.

## Main definitions

* `DerivedFile`, `DerivedContent` — the files below the derived root.
* `planCommit`, `CommitPlan` — the partitions and the manifest a commit is to leave.
* `transact` — the protocol.
* `commit` — `_commit`.
* `recoverDerivedDataset` — the recovery.

## Main results

* `commit_eq_planCommit` — the atomic commit is the plan, checked and applied.
-/

namespace DryTrade
namespace MarketData
namespace DerivedTransaction

/-! ### Files -/

/-- A file of a derived dataset. -/
inductive TargetName
  | partition (month : ℤ)
  | manifest
  deriving DecidableEq

/-- The files below the derived root. -/
inductive DerivedFile
  | target (series : DerivedSeries) (name : TargetName)
  | temporary (series : DerivedSeries) (name : TargetName) (transactionId : String)
  | backup (series : DerivedSeries) (name : TargetName) (transactionId : String)
  | journal (transactionId : String)
  | journalTemporary (transactionId : String)
  deriving DecidableEq

/-- What a commit does to its target. -/
inductive ArtifactKind
  | parquet
  | manifest
  | delete
  deriving DecidableEq

/-- The artifact of one target, as a journal lists it. -/
structure JournalArtifact where
  kind : ArtifactKind
  target : TargetName
  hadOriginal : Bool
  deriving DecidableEq

/-- One journal. -/
structure JournalRecord where
  transactionId : String
  state : JournalState
  series : DerivedSeries
  artifacts : List JournalArtifact
  deriving DecidableEq

/-- What a file holds; one that is being written is incomplete. -/
inductive DerivedContent (Digest : Type)
  | incomplete
  | candles (rows : List Candle)
  | manifest (manifest : DatasetManifest Digest)
  | journal (record : JournalRecord)

/-- The derived root. -/
abbrev DerivedFiles (Digest : Type) := FileSystem DerivedFile (DerivedContent Digest)

/-- The target is one of the kind of the artifact. -/
def JournalArtifact.validateTarget (a : JournalArtifact) : Except Failure Unit :=
  if a.kind = .manifest then
    FailureKind.marketDataStorage.unless (a.target == .manifest)
      "O target do manifest derivado é inválido."
  else
    FailureKind.marketDataStorage.unless (a.target != .manifest)
      "O target Parquet derivado é inválido."

/-- The artifacts of a journal, one after the other. -/
def validateArtifacts : List TargetName → List JournalArtifact → Except Failure Unit
  | _, [] => .ok ()
  | seen, a :: artifacts => do
    FailureKind.marketDataStorage.unless (!seen.contains a.target)
      "O journal derivado possui artefatos divergentes."
    a.validateTarget
    validateArtifacts (a.target :: seen) artifacts

/-- `_read_journal`, of a journal below the name of a transaction. -/
def JournalRecord.validate (r : JournalRecord) (transactionId : String) :
    Except Failure Unit := do
  FailureKind.marketDataStorage.unless
    (r.transactionId.toList.length == 32 && r.transactionId.toList.all isHexDigit)
    "O journal derivado é inválido."
  FailureKind.marketDataStorage.unless (r.transactionId == transactionId)
    "O journal derivado possui identidade divergente."
  validateArtifacts [] r.artifacts
  FailureKind.marketDataStorage.unless
    ((r.artifacts.filter fun a => a.kind == .manifest).length == 1)
    "O journal exige exatamente um manifest derivado."

/-! ### Operations -/

variable {Bytes Digest : Type}

/-- A process over the derived root. -/
abbrev FilesProcess (Digest : Type) := Process (DerivedFiles Digest) Failure

/-- One operation. -/
def operation (f : DerivedFiles Digest → Option (DerivedFiles Digest)) :
    FilesProcess Digest Unit := Process.act osError f

/-- `path.unlink(missing_ok=True)`. -/
def unlink (file : DerivedFile) : FilesProcess Digest Unit :=
  operation fun fs => some (fs.unlink file)

/-- `os.link(src, dst)`. -/
def link (src dst : DerivedFile) : FilesProcess Digest Unit :=
  operation fun fs => fs.link src dst

/-- `os.replace(src, dst)`. -/
def replaceFile (src dst : DerivedFile) : FilesProcess Digest Unit :=
  operation fun fs => fs.replace src dst

/-- Open a file for writing, then write it. -/
def writeFile (file : DerivedFile) (content : DerivedContent Digest) :
    FilesProcess Digest Unit := do
  operation fun fs => some (fs.openFile file .incomplete)
  operation fun fs => fs.write file content

/-- Raise what a pure check raised. -/
def ofExcept {α : Type} : Except Failure α → FilesProcess Digest α
  | .ok a => pure a
  | .error e => Process.raise e

/-- `if condition: p`. -/
def onlyIf (condition : Bool) (p : FilesProcess Digest Unit) : FilesProcess Digest Unit :=
  if condition then p else pure ()

/-- `_write_journal`. -/
def writeJournal (record : JournalRecord) : FilesProcess Digest Unit :=
  Process.orElse
    (do
      writeFile (.journalTemporary record.transactionId) (.journal record)
      replaceFile (.journalTemporary record.transactionId) (.journal record.transactionId))
    (fun _ => do
      unlink (.journalTemporary record.transactionId)
      Process.raise storageError)

/-! ### Plans -/

/-- What a commit puts at a target. -/
inductive Payload (Digest : Type)
  | parquet (rows : List Candle)
  | manifest (manifest : DatasetManifest Digest)
  | delete

/-- The artifact of one target, with what is written. -/
structure Artifact (Digest : Type) where
  target : TargetName
  hadOriginal : Bool
  payload : Payload Digest

def Payload.kind : Payload Digest → ArtifactKind
  | .parquet _ => .parquet
  | .manifest _ => .manifest
  | .delete => .delete

/-- The content a payload leaves at its target. -/
def Payload.content : Payload Digest → Option (DerivedContent Digest)
  | .parquet rows => some (.candles rows)
  | .manifest m => some (.manifest m)
  | .delete => none

/-- What the journal keeps of an artifact. -/
def Artifact.journaled (a : Artifact Digest) : JournalArtifact :=
  ⟨a.payload.kind, a.target, a.hadOriginal⟩

/-- The partitions a commit touches, with their candles, and the manifest it leaves. -/
structure CommitPlan (Digest : Type) where
  partitions : List (ℤ × List Candle)
  manifest : DatasetManifest Digest

/-- `_artifact` or `_deletion_artifact`. -/
def partitionPayload (rows : List Candle) : Payload Digest :=
  if rows.isEmpty then .delete else .parquet rows

/-- The artifacts of a plan, the manifest last. -/
def CommitPlan.artifacts (p : CommitPlan Digest) (series : DerivedSeries)
    (fs : DerivedFiles Digest) : List (Artifact Digest) :=
  p.partitions.map (fun q =>
      ⟨.partition q.1, fs.exist (.target series (.partition q.1)), partitionPayload q.2⟩) ++
    [⟨.manifest, fs.exist (.target series .manifest), .manifest p.manifest⟩]

/-- The partition files of a dataset. -/
def partitionFiles (series : DerivedSeries) (fs : DerivedFiles Digest) : PartitionFiles :=
  fs.names.filterMap fun n =>
    match n with
    | .target s (.partition month) =>
      if s = series then
        match fs.read n with
        | some (.candles rows) => some (month, rows)
        | _ => none
      else none
    | _ => none

/-- The manifest of a dataset. -/
def manifestOf (series : DerivedSeries) (fs : DerivedFiles Digest) :
    Option (DatasetManifest Digest) :=
  match fs.read (.target series .manifest) with
  | some (.manifest manifest) => some manifest
  | _ => none

/-- The dataset in the files. -/
def datasetOf (raw : RawDataset Bytes) (series : DerivedSeries) (fs : DerivedFiles Digest) :
    DerivedState Bytes Digest :=
  ⟨raw, partitionFiles series fs, manifestOf series fs⟩

section

variable [DecidableEq Digest] (store : Storage Bytes Digest)

/-- The first part of `_commit`: what it is to leave. -/
def planCommit (st : DerivedState Bytes Digest) (plan : ResamplingPlan)
    (result : ResamplingResult Digest) (sourceVersion : String) :
    Except Failure (CommitPlan Digest) := do
  let previous ← st.manifest.mapM (Storage.loadManifest plan)
  let summaries := (previous.map (·.partitions)).getD []
  let kept ← (summaries.filter (·.intersects plan.dataRange)).mapM fun s =>
    Storage.keptRows st.partitions plan s.month
  let unchanged := summaries.filter fun s => !s.intersects plan.dataRange
  let grouped := (result.candles.map fun c => monthOf c.openTime) ++ kept.map (·.1)
  let months := grouped.dedup.insertionSort (· ≤ ·)
  let contents := Storage.mergedRows result.candles kept
  let written := months.filter fun m => !(contents m).isEmpty
  let partitions := sortByMonth
    (unchanged ++ written.map fun m => store.partitionSummary m (contents m))
  let priorSource := ((previous.map (·.sourcePartitions)).getD []).filter fun s =>
    !s.intersects plan.dataRange
  let source ← (st.raw.partitionPaths plan.dataRange).mapM
    (store.sourcePartitionSummary plan.series st.raw)
  return {
    partitions := months.map fun m => (m, contents m)
    manifest := {
      series := plan.series
      sourceDatasetVersion := sourceVersion
      sourceChecksum := plan.sourceChecksum
      targetVersion := store.datasetChecksum partitions
      targetChecksum := store.datasetChecksum partitions
      firstOpenTime := partitions.findSome? (·.firstOpenTime)
      lastOpenTime := partitions.reverse.findSome? (·.lastOpenTime)
      candleCount := (partitions.map (·.candleCount)).sum
      partitions := partitions
      sourcePartitions := sortByMonth (priorSource ++ source)
      state := .complete
      sourceVersionAlgorithm := plan.sourceVersionAlgorithm } }

end

/-- The candles of a file convert to the storage schema. -/
def validateRows (rows : List Candle) : Except Failure Unit :=
  rows.forM fun c => validateCandleSerialization c true

/-- What a plan leaves of a dataset. -/
def CommitPlan.apply (p : CommitPlan Digest) (st : DerivedState Bytes Digest) :
    DerivedState Bytes Digest where
  raw := st.raw
  partitions := (st.partitions.filter fun q => q.1 ∉ p.partitions.map (·.1)) ++
    p.partitions.filter fun q => !q.2.isEmpty
  manifest := some p.manifest

/-! ### The protocol -/

section

variable (series : DerivedSeries) (transactionId : String)

/-- `_prepare_artifact`: write the temporary of one target. -/
def prepareArtifact (a : Artifact Digest) : FilesProcess Digest Unit :=
  match a.payload with
  | .parquet rows => do
    ofExcept (validateRows rows)
    writeFile (.temporary series a.target transactionId) (.candles rows)
  | .manifest manifest =>
    writeFile (.temporary series a.target transactionId) (.manifest manifest)
  | .delete => pure ()

/-- Bring the original of a target back from its backup. -/
def restore (target : TargetName) (hadOriginal : Bool) : FilesProcess Digest Unit := do
  let fs ← Process.read
  if fs.exist (.backup series target transactionId) then
    unlink (.target series target)
    replaceFile (.backup series target transactionId) (.target series target)
  else if hadOriginal then pure ()
  else unlink (.target series target)

/-- `_promote_artifact`: keep the original under a second name, then replace or remove it. -/
def promoteArtifact (a : Artifact Digest) : FilesProcess Digest Unit :=
  Process.onRaise
    (do
      onlyIf a.hadOriginal do
        unlink (.backup series a.target transactionId)
        link (.target series a.target) (.backup series a.target transactionId)
      if a.payload.kind = .delete then unlink (.target series a.target)
      else replaceFile (.temporary series a.target transactionId) (.target series a.target))
    fun _ => restore series transactionId a.target a.hadOriginal

/-- `_rollback_artifacts`, last artifact first. -/
def rollbackArtifacts (artifacts : List JournalArtifact) : FilesProcess Digest Unit :=
  Process.forEach artifacts.reverse fun a => do
    restore series transactionId a.target a.hadOriginal
    unlink (.temporary series a.target transactionId)

/-- `_cleanup_artifacts`. -/
def cleanupArtifacts (artifacts : List JournalArtifact) : FilesProcess Digest Unit :=
  Process.forEach artifacts fun a => do
    unlink (.temporary series a.target transactionId)
    unlink (.backup series a.target transactionId)

/-- The record of a transaction. -/
def recordOf (artifacts : List (Artifact Digest)) (state : JournalState) : JournalRecord :=
  ⟨transactionId, state, series, artifacts.map Artifact.journaled⟩

/-- Prepare every artifact, promote every artifact and say so in the journal. -/
def promoteAll (artifacts : List (Artifact Digest)) : FilesProcess Digest Unit := do
  Process.forEach artifacts (prepareArtifact series transactionId)
  Process.forEach artifacts (promoteArtifact series transactionId)
  writeJournal (recordOf series transactionId artifacts .committed)

/-- Undo a transaction and drop its journal. -/
def abandon (artifacts : List JournalArtifact) : FilesProcess Digest Unit := do
  rollbackArtifacts series transactionId artifacts
  unlink (.journal transactionId)

/-- Finish a transaction and drop its journal. -/
def finish (artifacts : List JournalArtifact) : FilesProcess Digest Unit := do
  cleanupArtifacts series transactionId artifacts
  unlink (.journal transactionId)

/-- The transaction of `_commit`: a cleanup that fails is left to a later recovery. -/
def transact (artifacts : List (Artifact Digest)) : FilesProcess Digest Unit := do
  writeJournal (recordOf series transactionId artifacts .prepared)
  Process.onRaise (promoteAll series transactionId artifacts)
    fun _ => abandon series transactionId (artifacts.map Artifact.journaled)
  Process.orElse (finish series transactionId (artifacts.map Artifact.journaled))
    fun _ => pure ()

end

/-- `_commit`. -/
def commit [DecidableEq Digest] (store : Storage Bytes Digest) (raw : RawDataset Bytes)
    (transactionId : String) (plan : ResamplingPlan) (result : ResamplingResult Digest)
    (sourceVersion : String) : FilesProcess Digest Unit := do
  let fs ← Process.read
  let p ← ofExcept (planCommit store (datasetOf raw plan.series fs) plan result sourceVersion)
  transact plan.series transactionId (p.artifacts plan.series fs)

/-! ### Recovery -/

/-- `_recover_path_locked`: undo a PREPARED transaction, finish a COMMITTED one. -/
def recoverPathLocked (series : DerivedSeries) (transactionId : String) :
    FilesProcess Digest Unit := do
  let fs ← Process.read
  match fs.read (.journal transactionId) with
  | none => pure ()
  | some (.journal record) =>
    ofExcept (record.validate transactionId)
    if record.series = series then
      match record.state with
      | .prepared => abandon series transactionId record.artifacts
      | .committed => finish series transactionId record.artifacts
    else ofExcept (FailureKind.marketDataStorage.raiseWith
      "O journal derivado mudou de identidade.")
  | some _ => ofExcept (FailureKind.marketDataStorage.raiseWith "O journal derivado é inválido.")

/-- The transactions that have a journal, in the order of their names. -/
def pendingJournals (fs : DerivedFiles Digest) : List String :=
  (fs.names.filterMap fun n => match n with
    | .journal transactionId => some transactionId
    | _ => none).insertionSort (· ≤ ·)

/-- One journal of `recover_derived_dataset`: those of other datasets are passed over. -/
def recoverJournal (series : DerivedSeries) (transactionId : String) :
    FilesProcess Digest Unit := do
  let fs ← Process.read
  match fs.read (.journal transactionId) with
  | none => pure ()
  | some (.journal record) =>
    if record.series = series then recoverPathLocked series transactionId else pure ()
  | some _ => ofExcept (FailureKind.marketDataStorage.raiseWith
      "A identidade do journal derivado é inválida.")

/-- `recover_derived_dataset`. -/
def recoverDerivedDataset (series : DerivedSeries) : FilesProcess Digest Unit := do
  let fs ← Process.read
  Process.forEach (pendingJournals fs) (recoverJournal series)

/-! ### The atomic commit -/

theorem validateRows_eq_ok {rows : List Candle} :
    validateRows rows = .ok () ↔ ∀ c ∈ rows, validateCandleSerialization c true = .ok () :=
  forM_eq_ok

/-- **The atomic commit** is the plan, with its rows checked, applied. -/
theorem commit_eq_planCommit [DecidableEq Digest] (store : Storage Bytes Digest)
    (st : DerivedState Bytes Digest) (plan : ResamplingPlan) (result : ResamplingResult Digest)
    (sourceVersion : String) :
    store.commit st plan result sourceVersion = (do
      let p ← planCommit store st plan result sourceVersion
      p.partitions.forM fun q => validateRows q.2
      return p.apply st) := by
  unfold Storage.commit planCommit
  simp only [bind_assoc, pure_bind]
  refine bind_congr fun previous => bind_congr fun kept => bind_congr fun source => ?_
  have hforM : ∀ (months : List ℤ) (contents : ℤ → List Candle),
      ((months.map fun m => (m, contents m)).forM fun q : ℤ × List Candle => validateRows q.2) =
        months.forM fun m => validateRows (contents m) := by
    intro months contents
    induction months with
    | nil => rfl
    | cons m months ih => exact congrArg (fun x => validateRows (contents m) >>= fun _ => x) ih
  rw [hforM]
  simp only [CommitPlan.apply, validateRows, List.map_map, Function.comp_def, List.map_id',
    List.filter_map]

end DerivedTransaction
end MarketData
end DryTrade
