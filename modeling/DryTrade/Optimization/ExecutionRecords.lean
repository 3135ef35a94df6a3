import DryTrade.Optimization.Experiments

/-!
# Executed experiments

The manifest of an executed experiment has one record of every planned run, in the order of the
plan.  A successful record refers to the artifacts of its run; a failed one says why.

As in the plans, the texts of canonical payloads stand as the data they are made of, identifiers are
digests, and what has only one value is left out.

## Main definitions

* `isCanonicalArtifactPath` — the paths a record may refer to.
* `PlannedRunExecution`, `ExperimentExecutionManifest` — the records and their manifest.
* `validateExperimentExecutionManifest` — the checks of a manifest.
* `validateExecutionManifestAgainstPlan` — the checks of a manifest against the plan it executes.
-/

namespace DryTrade
namespace Optimization

open MarketData Snapshots Backtesting Strategies

/-! ### Errors -/

/-- The exception classes of the execution of experiments and folds. -/
inductive ExecutionErrorKind
  | incompatibleExperimentExecutionDocument
  | incompatibleSearchSpaceDocument
  | invalidWalkForwardWindowPolicy
  | missingWalkForwardMetric
  | invalidWalkForwardMetric
  | invalidWalkForwardCandidate
  | noEligibleWalkForwardCandidate
  | incompatibleWalkForwardSelection
  | invalidWalkForwardHoldout
  | incompatibleWalkForwardExecution
  | walkForwardChecksum
  | walkForwardIdentifier
  deriving DecidableEq, Repr

/-- The `code` of a class. -/
def ExecutionErrorKind.code : ExecutionErrorKind → String
  | .incompatibleExperimentExecutionDocument => "incompatible_experiment_execution_document"
  | .incompatibleSearchSpaceDocument => "incompatible_search_space_document"
  | .invalidWalkForwardWindowPolicy => "invalid_walk_forward_window_policy"
  | .missingWalkForwardMetric => "missing_walk_forward_metric"
  | .invalidWalkForwardMetric => "invalid_walk_forward_metric"
  | .invalidWalkForwardCandidate => "invalid_walk_forward_candidate"
  | .noEligibleWalkForwardCandidate => "no_eligible_walk_forward_candidate"
  | .incompatibleWalkForwardSelection => "incompatible_walk_forward_selection"
  | .invalidWalkForwardHoldout => "invalid_walk_forward_holdout"
  | .incompatibleWalkForwardExecution => "incompatible_walk_forward_execution"
  | .walkForwardChecksum => "walk_forward_checksum_error"
  | .walkForwardIdentifier => "walk_forward_identifier_error"

/-- The `default_message` of a class. -/
def ExecutionErrorKind.defaultMessage : ExecutionErrorKind → String
  | .incompatibleExperimentExecutionDocument => "O manifesto de execução é incompatível."
  | .incompatibleSearchSpaceDocument => "O documento do espaço de busca é incompatível."
  | .invalidWalkForwardWindowPolicy => "A política temporal de walk-forward é inváida."
  | .missingWalkForwardMetric => "A métrica de seleção está ausente."
  | .invalidWalkForwardMetric => "A métrica de seleção é inváida."
  | .invalidWalkForwardCandidate => "A evidência do candidato de walk-forward é inváida."
  | .noEligibleWalkForwardCandidate => "Nenhum candidato elegível foi encontrado no fold."
  | .incompatibleWalkForwardSelection => "A decisão de seleção de walk-forward é incompatível."
  | .invalidWalkForwardHoldout => "O holdout TEST selecionado é inváido."
  | .incompatibleWalkForwardExecution => "A execução walk-forward é incompatível."
  | .walkForwardChecksum => "O checksum walk-forward é inváido."
  | .walkForwardIdentifier => "A identidade walk-forward é inváida."

/-- A `DomainError` of another class: its code is one of the program, and its message that of its
class when it is given none. -/
structure DomainError where
  code : String
  message : String
  code_valid : code ≠ "" ∧ code.length ≤ 128
  message_ne : message ≠ ""

/-- One raised exception: of these classes, of another one of the program, or of none of them. -/
inductive RaisedError
  | execution (kind : ExecutionErrorKind) (message : String)
  | domain (error : DomainError)
  | other

/-- `IncompatibleExperimentExecutionDocumentError(message)`. -/
def recordError (message : String) : RaisedError :=
  .execution .incompatibleExperimentExecutionDocument message

/-! ### Paths -/

/-- `MAX_OPTIMIZATION_ARTIFACT_PATH_CHARACTERS`. -/
def maxArtifactPathCharacters : ℕ := 512

/-- `PurePosixPath(value).parts`, of a relative path. -/
def pathParts (value : List Char) : List (List Char) :=
  (value.splitOn '/').filter fun part => decide (part ≠ [] ∧ part ≠ ['.'])

/-- `PurePosixPath(value).as_posix()`, of a relative path. -/
def asPosix (value : List Char) : List Char :=
  if pathParts value = [] then ['.'] else List.intercalate ['/'] (pathParts value)

/-- `_WINDOWS_DRIVE.match(value)`. -/
def hasWindowsDrive : List Char → Bool
  | letter :: ':' :: _ => letter.isAlpha
  | _ => false

/-- `_URI_SCHEME.match(value)`. -/
def hasUriScheme : List Char → Bool
  | [] => false
  | letter :: rest => letter.isAlpha &&
      (rest.dropWhile fun c => c.isAlphanum || c = '+' || c = '.' || c = '-').head? == some ':'

/-- `is_canonical_artifact_path`: a relative path without steps back that ends in the run. -/
def isCanonicalArtifactPath (value runId : String) : Bool :=
  let path := value.toList
  decide (path ≠ [] ∧ path.length ≤ maxArtifactPathCharacters ∧ '\\' ∉ path) &&
    !hasWindowsDrive path && !hasUriScheme path &&
    decide (path.head? ≠ some '/' ∧ path = asPosix path ∧ pathParts path ≠ [] ∧
      ['.', '.'] ∉ pathParts path ∧ (pathParts path).getLast? = some runId.toList)

/-! ### Records -/

inductive PlannedRunExecutionStatus
  | pending
  | running
  | completed
  | failed
  | reused
  deriving DecidableEq, Repr

inductive ExperimentExecutionStatus
  | completed
  | partiallyFailed
  | failed
  deriving DecidableEq, Repr

/-- A status of a run whose result may be used. -/
def PlannedRunExecutionStatus.isSuccessful : PlannedRunExecutionStatus → Bool
  | .completed => true
  | .reused => true
  | _ => false

/-- Why a run has failed. -/
structure ExperimentExecutionFailure where
  code : String
  message : String
  deriving DecidableEq, Repr

/-- `_SAFE_CODE`. -/
def isSafeCode (code : String) : Bool :=
  (code.toList.head?.any Char.isLower) && decide (code.length ≤ 64) &&
    code.toList.all fun c => c.isLower || c.isDigit || c = '_'

/-- `message.strip().replace("\r", " ").replace("\n", " ")`. -/
def singleLine (message : String) : String :=
  String.ofList ((strip message).toList.map fun c => if c = '\r' ∨ c = '\n' then ' ' else c)

/-- `MAX_EXECUTION_ERROR_CHARACTERS`. -/
def maxExecutionErrorCharacters : ℕ := 500

/-- `validate_experiment_execution_failure`. -/
def validateExperimentExecutionFailure (e : ExperimentExecutionFailure) :
    Except RaisedError Unit :=
  require (isSafeCode e.code = true ∧ e.message ≠ "" ∧ e.message = singleLine e.message ∧
    e.message.length ≤ maxExecutionErrorCharacters)
    (recordError "failure contract is invalid")

/-- What a record says of its run: the payload of its checksum. -/
structure RunExecutionValues (Digest : Type) where
  runSpecId : Digest
  experimentId : Digest
  globalIndex : ℕ
  combinationIndex : ℕ
  combinationId : String
  segmentIndex : ℕ
  segmentId : Digest
  purpose : ExperimentRunPurpose
  status : PlannedRunExecutionStatus
  runId : Option Digest
  logicalResultChecksum : Option Digest
  artifactPath : Option String
  error : Option ExperimentExecutionFailure
  reused : Bool
  verified : Bool
  deriving DecidableEq

/-- The record of one planned run. -/
structure PlannedRunExecution (Digest : Type) where
  values : RunExecutionValues Digest
  checksum : Digest
  executionRecordId : Digest
  deriving DecidableEq

/-- The payload of a manifest. -/
structure ExecutionManifestValues (Digest : Type) where
  experimentId : Digest
  planChecksum : Digest
  totalCount : ℤ
  completedCount : ℤ
  reusedCount : ℤ
  failedCount : ℤ
  status : ExperimentExecutionStatus
  records : List (PlannedRunExecution Digest)
  deriving DecidableEq

/-- The manifest of an executed experiment. -/
@[ext]
structure ExperimentExecutionManifest (Digest : Type) where
  values : ExecutionManifestValues Digest
  checksum : Digest
  experimentExecutionId : Digest
  deriving DecidableEq

/-- The digests of the canonical payloads, and how a digest is written. -/
structure ExecutionDigests (Digest : Type) where
  hex : Digest → String
  recordChecksum : RunExecutionValues Digest → Digest
  recordId : Digest → Digest → Digest
  executionChecksum : ExecutionManifestValues Digest → Digest
  executionId : Digest → Digest → Digest

/-- `_PURPOSE_BY_SEGMENT_INDEX`. -/
def purposeBySegmentIndex : List ExperimentRunPurpose := [.training, .modelSelection, .finalHoldout]

/-! ### The checks of a manifest -/

section

variable {Digest : Type} [DecidableEq Digest] (digests : ExecutionDigests Digest)

/-- A successful record refers to verified artifacts, and to nothing else. -/
def isConsistentSuccess (v : RunExecutionValues Digest) : Bool :=
  match v.runId, v.logicalResultChecksum, v.artifactPath with
  | some runId, some _, some path => isCanonicalArtifactPath path (digests.hex runId) &&
      v.error.isNone && v.verified && v.reused == decide (v.status = .reused)
  | _, _, _ => false

/-- A failed record has a failure only. -/
def isConsistentFailure (v : RunExecutionValues Digest) : Bool :=
  v.runId.isNone && v.logicalResultChecksum.isNone && v.artifactPath.isNone &&
    v.error.isSome && !v.reused && !v.verified

/-- `validate_planned_run_execution`. -/
def validatePlannedRunExecution (record : PlannedRunExecution Digest) :
    Except RaisedError Unit := do
  let v := record.values
  require (v.segmentIndex < 3)
    (recordError "record segment index is invalid")
  require (v.globalIndex = v.combinationIndex * 3 + v.segmentIndex)
    (recordError "record global index diverges from combination and segment")
  require (purposeBySegmentIndex[v.segmentIndex]? = some v.purpose)
    (recordError "record purpose is invalid")
  v.error.toList.forM validateExperimentExecutionFailure
  if v.status.isSuccessful then
    require (isConsistentSuccess digests v = true)
      (recordError "successful execution record is inconsistent")
  else if v.status = .failed then
    require (isConsistentFailure v = true)
      (recordError "failed execution record is inconsistent")
  else .error (recordError "manifest record is not terminal")
  require (record.checksum = digests.recordChecksum v)
    (recordError "record checksum does not match")
  require (record.executionRecordId = digests.recordId v.runSpecId record.checksum)
    (recordError "record id does not match")

/-- The records of one combination; `seen` are the combinations before it. -/
def validateRecordGroup (records : List (PlannedRunExecution Digest)) (seen : List String)
    (index : ℕ) : Except RaisedError (List String) := do
  let group := (records.drop (index * 3)).take 3
  let first ← orRaise group.head?
    (recordError "record groups are out of canonical order")
  require (group.length = 3 ∧ first.values.combinationId ∉ seen ∧
      (∀ r ∈ group, r.values.combinationIndex = index) ∧
      group.map (·.values.segmentIndex) = [0, 1, 2] ∧
      ∀ r ∈ group, r.values.combinationId = first.values.combinationId)
    (recordError "record groups are out of canonical order")
  return first.values.combinationId :: seen

/-- How many records have a status. -/
def recordCount (status : PlannedRunExecutionStatus) (records : List (PlannedRunExecution Digest)) :
    ℕ := records.countP fun r => r.values.status = status

/-- The status of an execution. -/
def executionStatusOf (failed total : ℕ) : ExperimentExecutionStatus :=
  if failed = 0 then .completed else if failed = total then .failed else .partiallyFailed

/-- `validate_experiment_execution_manifest`. -/
def validateExperimentExecutionManifest (manifest : ExperimentExecutionManifest Digest) :
    Except RaisedError Unit := do
  let v := manifest.values
  require (1 ≤ v.totalCount ∧ v.totalCount = v.records.length)
    (recordError "execution cardinality is invalid")
  v.records.forM (validatePlannedRunExecution digests)
  require (v.records.map (·.values.globalIndex) = List.range v.records.length)
    (recordError "records are out of canonical order")
  require (v.records.map (·.values.runSpecId)).Nodup
    (recordError "record references are duplicated")
  require (v.records.map (·.executionRecordId)).Nodup
    (recordError "record identities are duplicated")
  require (∀ r ∈ v.records, r.values.experimentId = v.experimentId)
    (recordError "record experiment diverges")
  let _ ← (List.range ((v.records.length + 2) / 3)).foldlM (validateRecordGroup v.records) []
  let completed := recordCount .completed v.records
  let reused := recordCount .reused v.records
  let failed := recordCount .failed v.records
  require (v.completedCount = completed ∧ v.reusedCount = reused ∧ v.failedCount = failed ∧
      v.status = executionStatusOf failed v.records.length ∧
      completed + reused + failed = v.records.length)
    (recordError "aggregate status is inconsistent")
  require (manifest.checksum = digests.executionChecksum v)
    (recordError "execution checksum does not match")
  require (manifest.experimentExecutionId = digests.executionId v.experimentId manifest.checksum)
    (recordError "execution id does not match")

end

/-! ### The checks against the plan -/

section

variable {Digest : Type} [DecidableEq Digest] (sha256 : List Char → String)
  (identify : SnapshotIdentity Digest) (temporalDigests : TemporalDigests Digest)
  (experimentDigests : ExperimentDigests Digest) (digests : ExecutionDigests Digest)
  (buildRunId : ConfigRecord Decimal → DatasetSnapshot Digest → Except RaisedError Digest)

/-- `except ExperimentPlanningError as error: raise Incompatible...(error.message)`. -/
def ofPlanning (x : Except ExperimentError Unit) : Except RaisedError Unit :=
  x.mapError fun e =>
    match e with
    | .experiment _ message => recordError message
    | _ => recordError "experiment plan contract is invalid"

/-- One record against its planned run. -/
def validateRecordAgainstSpec (snapshot : DatasetSnapshot Digest)
    (item : PlannedRunExecution Digest × PlannedRunSpec Digest) :
    Except RaisedError Unit := do
  let (record, spec) := item
  let v := record.values
  require (v.runSpecId = spec.runSpecId ∧ v.experimentId = spec.experimentId ∧
      v.globalIndex = spec.globalIndex ∧ v.combinationIndex = spec.combination.index ∧
      v.combinationId = spec.combination.combinationId ∧
      v.segmentIndex = spec.segment.values.index ∧ v.segmentId = spec.segment.segmentId ∧
      v.purpose = spec.purpose)
    (recordError "an execution record diverges from its planned run")
  if v.status.isSuccessful then
    let expected ← buildRunId spec.backtestConfig snapshot
    require (v.runId = some expected)
      (recordError "execution run id diverges from its planned backtest")

/-- `validate_execution_manifest_against_plan`. -/
def validateExecutionManifestAgainstPlan (manifest : ExperimentExecutionManifest Digest)
    (plan : ExperimentPlan Digest) (snapshot : DatasetSnapshot Digest) :
    Except RaisedError Unit := do
  validateExperimentExecutionManifest digests manifest
  ofPlanning (validateExperimentPlan sha256 identify temporalDigests experimentDigests plan)
  require (snapshot.snapshotId = plan.snapshot.snapshotId ∧
      snapshot.checksum = plan.snapshot.snapshotChecksum ∧
      snapshot.series = plan.snapshot.series ∧
      snapshot.datasetVersion = plan.snapshot.datasetVersion ∧
      snapshot.dataRange = plan.snapshot.availableCoverage.dataRange)
    (recordError "dataset snapshot diverges from the execution plan")
  let v := manifest.values
  require (v.experimentId = plan.experimentId ∧ v.planChecksum = plan.checksum ∧
      v.totalCount = plan.cardinality ∧ v.records.length = plan.runSpecs.length)
    (recordError "execution manifest diverges from its plan")
  (v.records.zip plan.runSpecs).forM (validateRecordAgainstSpec buildRunId snapshot)

end

end Optimization
end DryTrade
