import DryTrade.MarketData.Derived
import DryTrade.MarketData.Transaction
import DryTrade.Staging

/-!
# Snapshots of a derived dataset

A snapshot is a directory of hard links to the partition files that its range meets,
with a copy of the manifest and a file of metadata.  It is built under a temporary name
that only depends on the identity of the snapshot, and published by one rename; a
snapshot that is already published is read once more and returned.

The directories modelled are those of one snapshot: its identity is a function of the
dataset, its version and the range.  The derived dataset is at rest, so no transaction is
recovered, and `mkdir(parents=True)` of the temporary directory is one operation.

## Main definitions

* `SnapshotPath`, `SnapshotNode` — what a snapshot directory holds.
* `validateSnapshotContract` — the checks of a snapshot against its manifest.
* `iterCandles` — the reader.
* `prepare`, `create` — what is checked, and what is then built or found.
-/

namespace DryTrade
namespace MarketData
namespace Snapshots

/-! ### Directories -/

/-- The paths below a snapshot directory; a partition is that of a month. -/
inductive SnapshotPath
  | manifest
  | partitions
  | year (year : ℤ)
  | month (month : ℤ)
  | candles (month : ℤ)
  | metadata
  deriving DecidableEq

/-- The parts of a path, in the order of their names: `dataset-manifest.json`, `partitions` and
`snapshot.json` first. -/
def SnapshotPath.parts : SnapshotPath → List ℤ
  | .manifest => [0]
  | .partitions => [1]
  | .year y => [1, y]
  | .month m => [1, m / 12, m]
  | .candles m => [1, m / 12, m, 0]
  | .metadata => [2]

/-- The first path lies below the second. -/
def SnapshotPath.inside (p q : SnapshotPath) : Bool :=
  q.parts.isPrefixOf p.parts && q.parts != p.parts

/-- The order of paths, part by part. -/
def partsLe : List ℤ → List ℤ → Bool
  | [], _ => true
  | _ :: _, [] => false
  | a :: as, b :: bs => decide (a < b) || (a == b && partsLe as bs)

/-- One published snapshot; the dataset key is its series. -/
structure DatasetSnapshot (Digest : Type) where
  snapshotId : String
  series : DerivedSeries
  datasetVersion : Digest
  checksum : Digest
  dataRange : DataRange
  partitions : List ℤ
  manifestPath : String
  createdAt : String

/-- What is at a path; metadata that are being written are incomplete. -/
inductive SnapshotNode (Digest : Type)
  | directory
  | candles (rows : List Candle)
  | manifest (manifest : DatasetManifest Digest)
  | incomplete
  | metadata (snapshot : DatasetSnapshot Digest)

/-- A snapshot directory. -/
abbrev SnapshotTree (Digest : Type) := List (SnapshotPath × SnapshotNode Digest)

/-- The temporary and the published directory of one snapshot. -/
abbrev SnapshotArea (Digest : Type) := StagingArea SnapshotPath (SnapshotNode Digest)

variable {Bytes Digest : Type} [DecidableEq Digest]

/-! ### The contract of a snapshot -/

/-- How a snapshot is identified: the digest of its dataset, version, checksum and range. -/
abbrev SnapshotIdentity (Digest : Type) := DerivedSeries → Digest → Digest → DataRange → String

/-- `manifest_coverage`. -/
def manifestCoverage (m : DatasetManifest Digest) : Except Failure (ℤ × ℤ) :=
  match m.firstOpenTime, m.lastOpenTime with
  | some first, some last => do
    FailureKind.marketDataInconsistency.unless (decide (first ≤ last))
      "A cobertura do manifest não é canônica."
    return (first, last)
  | _, _ => FailureKind.marketDataInconsistency.raiseWith "A cobertura do manifest é inválida."

/-- `_validate_manifest_contract`. -/
def validateManifestContract (m : DatasetManifest Digest) : Except Failure Unit := do
  FailureKind.marketDataInconsistency.unless (decide (m.state = .complete))
    "O manifest do snapshot deve estar COMPLETE."
  FailureKind.marketDataInconsistency.unless
    (decide ((m.partitions.map (·.month)).Pairwise (· < ·)))
    "A ordem das partições do manifest não é canônica."
  let coverage ← manifestCoverage m
  FailureKind.marketDataInconsistency.unless
    (m.series.target.validateOpenTime coverage.1 && m.series.target.validateOpenTime coverage.2)
    "A cobertura do manifest está desalinhada."

/-- `_validate_snapshot_coverage`. -/
def validateSnapshotCoverage (m : DatasetManifest Digest) (r : DataRange) :
    Except Failure Unit := do
  let coverage ← manifestCoverage m
  FailureKind.marketDataInconsistency.unless
    (decide (coverage.1 ≤ r.start ∧ r.stop ≤ coverage.2 + m.series.target.duration))
    "O intervalo do snapshot excede a cobertura derivada."

/-- The summaries of the partitions that a range meets. -/
def selectedPartitions (m : DatasetManifest Digest) (r : DataRange) :
    List (PartitionSummary Digest) := m.partitions.filter (·.intersects r)

section

variable (identify : SnapshotIdentity Digest)

/-- `build_snapshot_id`. -/
def buildSnapshotId (m : DatasetManifest Digest) (r : DataRange) : Except Failure String := do
  validateManifestContract m
  return identify m.series m.targetVersion m.targetChecksum r

/-- `validate_snapshot_contract`. -/
def validateSnapshotContract (s : DatasetSnapshot Digest) (m : DatasetManifest Digest) :
    Except Failure Unit := do
  validateManifestContract m
  FailureKind.marketDataInconsistency.unless (s.manifestPath == "dataset-manifest.json")
    "O caminho do manifest do snapshot é inválido."
  FailureKind.marketDataInconsistency.unless
    (m.series.target.validateOpenTime s.dataRange.start &&
      m.series.target.validateOpenTime s.dataRange.stop)
    "O intervalo do snapshot está desalinhado."
  FailureKind.marketDataInconsistency.unless (decide (s.series = m.series))
    "O dataset key do snapshot diverge do manifest."
  FailureKind.marketDataInconsistency.unless (decide (s.datasetVersion = m.targetVersion))
    "A versão do snapshot diverge do manifest."
  FailureKind.marketDataInconsistency.unless (decide (s.checksum = m.targetChecksum))
    "O checksum do snapshot diverge do manifest."
  validateSnapshotCoverage m s.dataRange
  FailureKind.marketDataInconsistency.unless
    (s.snapshotId == identify s.series s.datasetVersion s.checksum s.dataRange)
    "O snapshot_id diverge da identidade determinística."
  FailureKind.marketDataInconsistency.unless (!(selectedPartitions m s.dataRange).isEmpty)
    "O snapshot não possui partições obrigatórias."
  FailureKind.marketDataInconsistency.unless
    (s.partitions == (selectedPartitions m s.dataRange).map (·.month))
    "As partições do snapshot divergem do manifest."

/-! ### The reader -/

/-- `_load_snapshot`. -/
def loadSnapshot (t : SnapshotTree Digest) : Except Failure (DatasetSnapshot Digest) :=
  match StagingArea.lookup t .metadata with
  | some (.metadata s) => .ok s
  | _ => FailureKind.marketDataStorage.raiseWith "O snapshot é inválido."

/-- The manifest of a snapshot directory. -/
def loadManifestCopy (t : SnapshotTree Digest) : Except Failure (DatasetManifest Digest) :=
  match StagingArea.lookup t .manifest with
  | some (.manifest m) => .ok m
  | _ => FailureKind.marketDataStorage.raiseWith "O manifest do snapshot é inválido."

/-- `open_snapshot`. -/
def openSnapshot (t : SnapshotTree Digest) (snapshotId : String) :
    Except Failure (DatasetSnapshot Digest × DatasetManifest Digest) := do
  let s ← loadSnapshot t
  let m ← loadManifestCopy t
  FailureKind.marketDataInconsistency.unless (s.snapshotId == snapshotId)
    "O snapshot diverge do manifest."
  validateSnapshotContract identify s m
  return (s, m)

end

/-- `read_partition` of a snapshot directory; a partition that is not there reads as an empty one. -/
def readSnapshotPartition (d : DerivedSeries) (t : SnapshotTree Digest) (month : ℤ) :
    Except Failure (List Candle) :=
  match StagingArea.lookup t (.candles month) with
  | none => .ok []
  | some (.candles rows) => readRows d.targetIdentity month rows
  | some _ => FailureKind.marketDataStorage.raiseWith "O arquivo Parquet é inválido."

/-- The rows of one partition, after the candles that were yielded before; `true` says that the
range has ended. -/
def iterRows (covered selected : DataRange) :
    List Candle → List Candle → Except Failure (List Candle × Bool)
  | [], out => .ok (out, false)
  | c :: rows, out =>
    if !covered.contains c.openTime then iterRows covered selected rows out
    else if c.openTime < selected.start then iterRows covered selected rows out
    else if selected.stop ≤ c.openTime then .ok (out, true)
    else do
      FailureKind.marketDataInconsistency.unless c.isClosed "Snapshot contém candle aberto."
      FailureKind.marketDataInconsistency.unless
        (out.getLast?.all fun p => decide (p.openTime < c.openTime))
        "Snapshot contém duplicata ou ordem inválida."
      iterRows covered selected rows (out ++ [c])

section

variable (store : Storage Bytes Digest)

/-- The partitions of a snapshot, one after the other. -/
def iterPartitions (t : SnapshotTree Digest) (m : DatasetManifest Digest)
    (covered selected : DataRange) : List ℤ → List Candle → Except Failure (List Candle)
  | [], out => .ok out
  | month :: months, out => do
    let rows ← readSnapshotPartition m.series t month
    FailureKind.marketDataInconsistency.unless
      ((m.partitions.find? fun s => s.month == month).any fun s =>
        decide (store.canonicalDigest rows = s.checksum))
      "O checksum da partição do snapshot diverge."
    let (out, finished) ← iterRows covered selected rows out
    if finished then .ok out
    else iterPartitions t m covered selected months out

/-- `iter_candles`, of an opened snapshot. -/
def iterCandles (t : SnapshotTree Digest) (s : DatasetSnapshot Digest) (m : DatasetManifest Digest)
    (selected : DataRange) : Except Failure (List Candle) := do
  FailureKind.marketDataInconsistency.unless
    (decide (s.dataRange.start ≤ selected.start ∧ selected.stop ≤ s.dataRange.stop))
    "O intervalo excede o snapshot aberto."
  iterPartitions store t m s.dataRange selected s.partitions []

/-! ### Checks before anything is built -/

/-- The rows of a strict partition, from the opening that is expected next. -/
def followStrict (step : ℤ) (r : DataRange) (expected : ℤ) : List Candle → Except Failure ℤ
  | [] => .ok expected
  | c :: rows =>
    if !r.contains c.openTime then followStrict step r expected rows
    else if c.openTime ≠ expected then
      FailureKind.marketDataInconsistency.raiseWith "O snapshot STRICT contém intervalo incompleto."
    else followStrict step r (expected + step) rows

/-- `_validate_strict_range`. -/
def validateStrictRange (partitions : PartitionFiles) (m : DatasetManifest Digest)
    (selected : List (PartitionSummary Digest)) (r : DataRange) : Except Failure Unit := do
  let reached ← selected.foldlM (fun expected s => do
    let rows ← readDerivedPartition m.series partitions s.month
    followStrict m.series.target.duration r expected rows) r.start
  FailureKind.marketDataInconsistency.unless (decide (reached = r.stop))
    "O snapshot STRICT contém intervalo incompleto."

/-- What `create` has checked: the manifest, the identity and the partitions of the snapshot. -/
structure Prepared (Digest : Type) where
  manifest : DatasetManifest Digest
  snapshotId : String
  selected : List (PartitionSummary Digest)

variable (identify : SnapshotIdentity Digest) (maxPartitions : ℕ)

/-- The first part of `create`. -/
def prepare (st : DerivedState Bytes Digest) (plan : ResamplingPlan) (r : DataRange) :
    Except Failure (Prepared Digest) := do
  FailureKind.marketDataInconsistency.unless
    (plan.series.target.validateOpenTime r.start && plan.series.target.validateOpenTime r.stop)
    "O intervalo do snapshot está desalinhado."
  let (m, _) ← store.verifyUnlocked st plan true
  FailureKind.marketDataInconsistency.unless (decide (m.state = .complete))
    "Somente dataset derivado COMPLETE pode gerar snapshot."
  let snapshotId ← buildSnapshotId identify m r
  validateSnapshotCoverage m r
  let selected := selectedPartitions m r
  FailureKind.marketDataInconsistency.unless (!selected.isEmpty)
    "O snapshot não possui partições."
  FailureKind.marketDataInconsistency.unless (decide (selected.length ≤ maxPartitions))
    "O snapshot excede o limite de partições."
  if m.series.gapPolicy = .strict then validateStrictRange st.partitions m selected r
  return ⟨m, snapshotId, selected⟩

/-- The snapshot that is built. -/
def Prepared.snapshot (p : Prepared Digest) (r : DataRange) (createdAt : String) :
    DatasetSnapshot Digest where
  snapshotId := p.snapshotId
  series := p.manifest.series
  datasetVersion := p.manifest.targetVersion
  checksum := p.manifest.targetChecksum
  dataRange := r
  partitions := p.selected.map (·.month)
  manifestPath := "dataset-manifest.json"
  createdAt := createdAt

/-- `_verify_existing`. -/
def verifyExisting (t : SnapshotTree Digest) (existing : DatasetSnapshot Digest) :
    Except Failure Unit := do
  let (s, m) ← openSnapshot identify t existing.snapshotId
  let candles ← iterCandles store t s m s.dataRange
  FailureKind.marketDataInconsistency.unless (!candles.isEmpty)
    "O snapshot idempotente está incompleto."

/-- A snapshot that is already published. -/
def findExisting (p : Prepared Digest) (r : DataRange) (t : SnapshotTree Digest) :
    Except Failure (DatasetSnapshot Digest) := do
  let existing ← loadSnapshot t
  FailureKind.marketDataInconsistency.unless
    (decide (existing.snapshotId = p.snapshotId ∧ existing.series = p.manifest.series ∧
      existing.datasetVersion = p.manifest.targetVersion ∧
      existing.checksum = p.manifest.targetChecksum ∧ existing.dataRange = r))
    "O snapshot idempotente diverge da solicitação."
  verifyExisting store identify t existing
  return existing

end

/-! ### Building -/

/-- A process over the directories of one snapshot. -/
abbrev SnapshotProcess (Digest : Type) := Process (SnapshotArea Digest) Failure

/-- One operation. -/
def operation (f : SnapshotArea Digest → Option (SnapshotArea Digest)) :
    SnapshotProcess Digest Unit := Process.act osError f

/-- Raise what a pure check raised. -/
def ofExcept {α : Type} : Except Failure α → SnapshotProcess Digest α
  | .ok a => pure a
  | .error e => Process.raise e

/-- The paths of the temporary directory. -/
def stagedPaths (a : SnapshotArea Digest) : List SnapshotPath := (a.staging.getD []).map (·.1)

/-- `path.mkdir(exist_ok=True)` below the temporary directory. -/
def ensureDirectory (p : SnapshotPath) : SnapshotProcess Digest Unit := do
  let a ← Process.read
  if p ∈ stagedPaths a then pure () else operation (StagingArea.addEntry p .directory)

/-- `os.link(source, destination)` into the temporary directory; it fails without a source. -/
def linkFile (source : Option (SnapshotNode Digest)) (p : SnapshotPath) :
    SnapshotProcess Digest Unit :=
  operation fun a => source.bind fun node => a.addEntry p node

/-- One partition: the directories of its month, and the link. -/
def linkPartition (partitions : PartitionFiles) (month : ℤ) : SnapshotProcess Digest Unit := do
  ensureDirectory .partitions
  ensureDirectory (.year (month / 12))
  ensureDirectory (.month month)
  linkFile ((partitions.file month).map .candles) (.candles month)

/-- `_write_snapshot`. -/
def writeSnapshot (s : DatasetSnapshot Digest) : SnapshotProcess Digest Unit := do
  operation (StagingArea.addEntry .metadata .incomplete)
  operation (StagingArea.setEntry .metadata (.metadata s))

/-- The order in which a tree is removed: the paths sorted, backwards. -/
def removalOrder (paths : List SnapshotPath) : List SnapshotPath :=
  paths.insertionSort fun p q => partsLe q.parts p.parts = true

/-- `_remove_staging_tree`. -/
def removeStagingTree : SnapshotProcess Digest Unit := do
  let a ← Process.read
  if a.staging.isSome then
    Process.forEach (removalOrder (stagedPaths a)) fun p =>
      operation (StagingArea.removeEntry SnapshotPath.inside p)
    operation StagingArea.removeStaging
  else pure ()

section

variable (identify : SnapshotIdentity Digest)

/-- What is done in the temporary directory, up to the rename. -/
def buildTree (st : DerivedState Bytes Digest) (p : Prepared Digest) (s : DatasetSnapshot Digest) :
    SnapshotProcess Digest Unit := do
  Process.forEach (p.selected.map (·.month)) (linkPartition st.partitions)
  linkFile (st.manifest.map .manifest) .manifest
  ofExcept (validateSnapshotContract identify s p.manifest)
  writeSnapshot s
  operation StagingArea.publish

/-- The second part of `create`: the snapshot is found, or built. -/
def publishSnapshot (store : Storage Bytes Digest) (st : DerivedState Bytes Digest)
    (p : Prepared Digest) (r : DataRange) (createdAt : String) :
    SnapshotProcess Digest (DatasetSnapshot Digest) := do
  let a ← Process.read
  match a.published with
  | some t =>
    if (StagingArea.lookup t .metadata).isSome then ofExcept (findExisting store identify p r t)
    else build
  | none => build
where
  /-- The snapshot is built. -/
  build : SnapshotProcess Digest (DatasetSnapshot Digest) := do
    operation StagingArea.makeStaging
    Process.onRaise (buildTree identify st p (p.snapshot r createdAt)) fun _ => removeStagingTree
    return p.snapshot r createdAt

/-- `DatasetSnapshotService.create`. -/
def create (store : Storage Bytes Digest) (maxPartitions : ℕ) (st : DerivedState Bytes Digest)
    (plan : ResamplingPlan) (r : DataRange) (createdAt : String) :
    SnapshotProcess Digest (DatasetSnapshot Digest) := do
  let p ← ofExcept (prepare store identify maxPartitions st plan r)
  publishSnapshot identify store st p r createdAt

end

end Snapshots
end MarketData
end DryTrade
