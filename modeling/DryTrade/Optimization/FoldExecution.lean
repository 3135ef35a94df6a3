import DryTrade.Optimization.BestCandidate

/-!
# Executed folds

Every fold of a walk-forward plan is executed, its best candidate is selected on VALIDATION, and
only then the winner's run on TEST is read; a fold that fails does not stop the others.  The
manifest that is assembled from the folds is checked by doing all of it again, from the executions
of the experiments and the artifacts of their runs, which stay as they are meanwhile.

## Main definitions

* `buildVerifiedHoldout` — the result of the winner on TEST.
* `WalkForwardFoldResult`, `validateWalkForwardFoldResult` — the result of a fold, and its checks.
* `executeFold` — `WalkForwardExecutionService._execute_fold`.
* `validateWalkForwardExecutionManifestAgainstPlan` — the check of a manifest.
* `executeFolds` — the part of `execute` after its preflight.
-/

namespace DryTrade
namespace Optimization

open MarketData Snapshots Backtesting Strategies

/-- `InvalidWalkForwardHoldoutError(message)`. -/
def holdoutError (message : String) : RaisedError :=
  .execution .invalidWalkForwardHoldout message

/-- What the execution of a plan may raise. -/
inductive WalkForwardExecutionError
  | planning (error : WalkForwardError)
  | raised (error : RaisedError)

/-! ### Failures -/

/-- Why a fold has failed. -/
structure WalkForwardFailure where
  code : String
  message : String
  deriving DecidableEq, Repr

/-- `MAX_WALK_FORWARD_ERROR_MESSAGE`. -/
def maxWalkForwardErrorMessage : ℕ := 500

/-- `validate_walk_forward_failure`. -/
def validateWalkForwardFailure (failure : WalkForwardFailure) : Except RaisedError Unit := do
  require (failure.code ≠ "" ∧ failure.code.length ≤ 128)
    (executionError "walk-forward failure code is invalid")
  require (failure.message ≠ "" ∧ failure.message.length ≤ maxWalkForwardErrorMessage)
    (executionError "walk-forward failure message is invalid")

/-- `message[:MAX_WALK_FORWARD_ERROR_MESSAGE]`. -/
def shortened (message : String) : String :=
  String.ofList (message.toList.take maxWalkForwardErrorMessage)

/-- `_safe_failure`. -/
def safeFailure : RaisedError → WalkForwardFailure
  | .execution kind message =>
    ⟨kind.code, shortened (if message = "" then kind.defaultMessage else message)⟩
  | .domain error => ⟨error.code, shortened error.message⟩
  | .other => ⟨"unexpected_walk_forward_error", "O fold falhou durante a execução local."⟩

/-! ### The holdout -/

/-- A metric of a result. -/
inductive MetricValue
  | none
  | int (n : ℤ)
  | decimal (d : Decimal)

/-- What `==` compares of a metric. -/
def MetricValue.compared : MetricValue → Option ℚ
  | .none => Option.none
  | .int n => some n
  | .decimal d => some d.value

/-- The result of the winner on TEST. -/
structure SelectedHoldoutResult (Digest : Type) where
  runSpecId : Digest
  runId : Digest
  logicalResultChecksum : Digest
  artifactPath : String
  metrics : List (String × MetricValue)

/-- `MAX_HOLDOUT_METRICS` and `MAX_HOLDOUT_METRIC_NAME_CHARACTERS`. -/
def maxHoldoutMetrics : ℕ := 128

/-- `_metric_value`. -/
def checkedMetric : MetricValue → Except RaisedError Unit
  | .none => .ok ()
  | .int n => require (n.natAbs < 10 ^ maximumIntegerDigits)
      (holdoutError "integer metric exceeds its digit limit")
  | .decimal d => require d.Fits (holdoutError "decimal metric exceeds its character limit")

section

variable {Digest : Type} [DecidableEq Digest] (setting : SelectionSetting Digest)

/-- `validate_holdout_result`. -/
def validateHoldoutResult (result : SelectedHoldoutResult Digest) : Except RaisedError Unit := do
  require (isCanonicalArtifactPath result.artifactPath
    (setting.execution.hex result.runId) = true) (holdoutError "holdout artifact path is invalid")
  require (result.metrics ≠ [] ∧ result.metrics.length ≤ maxHoldoutMetrics)
    (holdoutError "holdout metrics are empty")
  result.metrics.forM fun item => do
    require (item.1 ≠ "" ∧ item.1.length ≤ maxHoldoutMetrics)
      (holdoutError "holdout metric name is invalid")
    checkedMetric item.2
  let names := result.metrics.map Prod.fst
  require (names = sortedNames names ∧ names.Nodup)
    (holdoutError "holdout metrics are not canonically ordered")

/-- One metric of `_holdout_metrics`. -/
def holdoutMetric (stored : Option RawMetric) : Except RaisedError MetricValue :=
  match stored with
  | some .none => .ok .none
  | some (.int n) => .ok (.int n)
  | some (.text raw) => do
    let read ← orRaise (setting.readDecimal raw) (holdoutError "holdout decimal is invalid")
    let value ← orRaise read (holdoutError "holdout decimal is not canonical")
    let text ← value.boundedText (RaisedError.execution .incompatibleSearchSpaceDocument
      "Decimal canonical text exceeds 128 characters")
    require (text = raw.toList) (holdoutError "holdout decimal is not canonical")
    return .decimal value
  | some .other => .error (holdoutError "holdout metric type is invalid")
  | none => .error (holdoutError "holdout metric cannot be read")

/-- `_holdout_metrics`. -/
def holdoutMetrics (metrics : List (String × RawMetric)) :
    Except RaisedError (List (String × MetricValue)) := do
  require (1 ≤ metrics.length ∧ metrics.length ≤ maxHoldoutMetrics)
    (holdoutError "holdout metric count exceeds its limit")
  require (∀ item ∈ metrics, item.1 ≠ "" ∧ item.1.length ≤ maxHoldoutMetrics)
    (holdoutError "holdout metric name is invalid")
  (sortedNames (metrics.map Prod.fst)).mapM fun name => do
    let value ← holdoutMetric setting (metrics.lookup name)
    return (name, value)

/-- `_build_verified_holdout`. -/
def buildVerifiedHoldout (runs : PublishedRuns Digest) (fold : WalkForwardFoldPlan Digest)
    (execution : ExperimentExecutionManifest Digest) (decision : FoldSelectionDecision Digest)
    (snapshot : DatasetSnapshot Digest) : Except RaisedError (SelectedHoldoutResult Digest) := do
  let d := decision.values
  let offset := d.combinationIndex * 3 + 2
  let diverges := holdoutError "winner TEST record diverges from its plan"
  let spec ← orRaise fold.experimentPlan.runSpecs[offset]?
    (holdoutError "winner TEST spec is absent")
  let record ← orRaise execution.values.records[offset]?
    (holdoutError "winner TEST spec is absent")
  let v := record.values
  require (spec.purpose = .finalHoldout ∧ spec.combination.index = d.combinationIndex ∧
      spec.combination.combinationId = d.combinationId ∧
      comparedParameters spec.combination.parameters = comparedParameters d.parameters ∧
      v.runSpecId = spec.runSpecId ∧ v.combinationIndex = d.combinationIndex ∧
      v.combinationId = d.combinationId ∧ v.segmentIndex = 2 ∧ v.purpose = .finalHoldout ∧
      v.status.isSuccessful = true ∧ v.verified = true) diverges
  let runId ← orRaise v.runId diverges
  let checksum ← orRaise v.logicalResultChecksum diverges
  let path ← orRaise v.artifactPath diverges
  let expected ← setting.buildRunId spec.backtestConfig snapshot
  let expectedPath ← runs.relativeRunPath expected
  require (runId = expected ∧ path = expectedPath)
    (holdoutError "winner TEST reference is incompatible")
  let verification ← (runs.verify expected).mapError fun _ =>
    holdoutError "winner TEST verification failed"
  require (verification = (expected, checksum)) (holdoutError "winner TEST checksum diverges")
  let loaded ← (runs.loadMetrics expected).mapError fun _ =>
    holdoutError "winner TEST metrics cannot be read"
  let metrics ← orRaise loaded (holdoutError "winner TEST metrics are absent")
  let values ← holdoutMetrics setting metrics
  let result : SelectedHoldoutResult Digest :=
    ⟨spec.runSpecId, expected, checksum, expectedPath, values⟩
  -- the constructor validates the result
  validateHoldoutResult setting result
  return result

end

/-! ### Results -/

inductive WalkForwardFoldStatus
  | completed
  | failedExecution
  | failedNoEligibleCandidate
  | failedSelection
  | failedHoldout
  deriving DecidableEq, Repr

inductive WalkForwardExecutionStatus
  | completed
  | partiallyFailed
  | failed
  deriving DecidableEq, Repr

/-- The payload of the result of a fold. -/
structure FoldResultValues (Digest : Type) where
  foldId : Digest
  foldIndex : ℕ
  experimentId : Digest
  experimentExecutionId : Option Digest
  experimentExecutionChecksum : Option Digest
  status : WalkForwardFoldStatus
  selectionEvidence : Option (FoldSelectionEvidence Digest)
  selection : Option (FoldSelectionDecision Digest)
  holdout : Option (SelectedHoldoutResult Digest)
  failure : Option WalkForwardFailure

/-- The result of a fold. -/
structure WalkForwardFoldResult (Digest : Type) where
  values : FoldResultValues Digest
  checksum : Digest

/-- The payload of the manifest of an execution; its policies on failures and on order have one
value each. -/
structure WalkForwardManifestValues (Digest : Type) where
  walkForwardPlanId : Digest
  planChecksum : Digest
  snapshot : TemporalSnapshotReference Digest
  windowPolicy : WalkForwardWindowPolicy
  selectionPolicy : WalkForwardSelectionPolicy
  folds : List (WalkForwardFoldResult Digest)
  foldCount : ℕ
  completedCount : ℕ
  failedCount : ℕ
  status : WalkForwardExecutionStatus

/-- The manifest of an execution. -/
structure WalkForwardExecutionManifest (Digest : Type) where
  values : WalkForwardManifestValues Digest
  checksum : Digest
  walkForwardExecutionId : Digest

/-- The digests of results and of manifests. -/
structure ResultDigests (Digest : Type) where
  foldResultChecksum : FoldResultValues Digest → Digest
  manifestChecksum : WalkForwardManifestValues Digest → Digest
  manifestId : WalkForwardManifestValues Digest → Digest

section

variable {Digest : Type} [DecidableEq Digest] (setting : SelectionSetting Digest)
  (digests : ResultDigests Digest)

/-- The part of `validate_walk_forward_fold_result` on the evidence and the decision. -/
def validateResultSelection (r : FoldResultValues Digest) : Except RaisedError Unit := do
  r.selection.toList.forM fun decision => do
    validateSelectionDecision setting decision
    require (decision.values.foldId = r.foldId)
      (executionError "selection belongs to another fold")
    require (decision.values.foldIndex = r.foldIndex)
      (executionError "selection fold index diverges")
  r.selectionEvidence.toList.forM fun evidence => do
    validateFoldSelectionEvidence setting evidence
    require (evidence.values.foldId = r.foldId ∧ evidence.values.foldIndex = r.foldIndex ∧
        evidence.values.experimentId = r.experimentId)
      (executionError "selection evidence belongs elsewhere")
  r.selection.toList.forM fun decision => do
    let evidence ← orRaise r.selectionEvidence (executionError "selection evidence is absent")
    validateSelectionDecisionAgainstEvidence setting decision evidence

/-- What a result has, from its status. -/
def validateResultStatus (r : FoldResultValues Digest) : Except RaisedError Unit :=
  match r.status with
  | .completed =>
    require (r.selection.isSome = true ∧ r.holdout.isSome = true ∧ r.failure = none)
      (executionError "completed fold is incomplete")
  | .failedHoldout =>
    require (r.selectionEvidence.isSome = true ∧ r.selection.isSome = true ∧
      r.holdout.isNone = true ∧ r.failure.isSome = true)
      (executionError "failed holdout state is inconsistent")
  | .failedNoEligibleCandidate =>
    require (r.selectionEvidence.map (·.values.eligibleCount) = some 0 ∧
      r.selection.isNone = true ∧ r.holdout.isNone = true ∧ r.failure.isSome = true)
      (executionError "no-eligible fold state is inconsistent")
  | .failedSelection =>
    require (r.selection.isNone = true ∧ r.holdout.isNone = true ∧ r.failure.isSome = true)
      (executionError "failed selection state is inconsistent")
  | .failedExecution =>
    require (r.experimentExecutionId = none ∧ r.experimentExecutionChecksum = none ∧
      r.selectionEvidence.isNone = true ∧ r.selection.isNone = true ∧ r.holdout.isNone = true ∧
      r.failure.isSome = true) (executionError "failed execution state is inconsistent")

/-- `validate_walk_forward_fold_result`. -/
def validateWalkForwardFoldResult (result : WalkForwardFoldResult Digest) :
    Except RaisedError Unit := do
  let r := result.values
  boundedInt r.foldIndex "fold index" 0 (absoluteMaxFolds - 1)
  require (r.experimentExecutionId.isNone = r.experimentExecutionChecksum.isNone)
    (executionError "execution reference is incomplete")
  validateResultSelection setting r
  r.holdout.toList.forM (validateHoldoutResult setting)
  r.failure.toList.forM validateWalkForwardFailure
  require (r.status = .failedExecution ∨ r.experimentExecutionId.isSome = true)
    (executionError "post-execution fold reference is absent")
  validateResultStatus r
  require (result.checksum = digests.foldResultChecksum r)
    (RaisedError.execution .walkForwardChecksum "fold result checksum does not match")

/-- The status of an execution, from its completed folds. -/
def walkForwardStatusOf (completed total : ℕ) : WalkForwardExecutionStatus :=
  if total - completed = 0 then .completed else if completed = 0 then .failed else .partiallyFailed

/-- How many folds are completed. -/
def completedResults (folds : List (WalkForwardFoldResult Digest)) : ℕ :=
  folds.countP fun result => result.values.status = .completed

/-- The part of `validate_walk_forward_execution_manifest` on the folds. -/
def validateManifestFolds (manifest : WalkForwardExecutionManifest Digest) :
    Except RaisedError Unit := do
  let v := manifest.values
  require (2 ≤ v.folds.length) (executionError "execution folds are invalid")
  v.folds.zipIdx.forM fun item => do
    validateWalkForwardFoldResult setting digests item.1
    require (item.1.values.foldIndex = item.2) (executionError "execution folds are out of order")
  let completed := completedResults v.folds
  require (v.foldCount = v.folds.length ∧ v.completedCount = completed ∧
      v.failedCount = v.folds.length - completed ∧
      v.status = walkForwardStatusOf completed v.folds.length)
    (executionError "aggregate execution state is inconsistent")
  require (manifest.checksum = digests.manifestChecksum v) (RaisedError.execution
    .walkForwardChecksum "walk-forward execution checksum does not match")
  require (manifest.walkForwardExecutionId = digests.manifestId v) (RaisedError.execution
    .walkForwardIdentifier "walk-forward execution id does not match")

/-- `validate_walk_forward_execution_manifest`. -/
def validateWalkForwardExecutionManifest (manifest : WalkForwardExecutionManifest Digest) :
    Except WalkForwardExecutionError Unit := do
  (validateTemporalSnapshotReference setting.planning.identify manifest.values.snapshot).mapError
    fun e => .planning (.temporal e)
  (validateManifestFolds setting digests manifest).mapError .raised

/-! ### The execution -/

/-- A result with its checksum; the constructor validates it. -/
def sealResult (r : FoldResultValues Digest) :
    Except RaisedError (WalkForwardFoldResult Digest) := do
  let result : WalkForwardFoldResult Digest := ⟨r, digests.foldResultChecksum r⟩
  validateWalkForwardFoldResult setting digests result
  return result

/-- The payload of the result of a fold that has failed. -/
def failedValues (fold : WalkForwardFoldPlan Digest) (status : WalkForwardFoldStatus)
    (error : RaisedError) (execution : Option (ExperimentExecutionManifest Digest))
    (evidence : Option (FoldSelectionEvidence Digest))
    (selection : Option (FoldSelectionDecision Digest)) : FoldResultValues Digest where
  foldId := fold.foldId
  foldIndex := fold.foldIndex
  experimentId := fold.experimentPlan.experimentId
  experimentExecutionId := execution.map (·.experimentExecutionId)
  experimentExecutionChecksum := execution.map (·.checksum)
  status := status
  selectionEvidence := evidence
  selection := selection
  holdout := none
  failure := some (safeFailure error)

/-- `_failed_fold`. -/
def failedFold (fold : WalkForwardFoldPlan Digest) (status : WalkForwardFoldStatus)
    (error : RaisedError) (execution : Option (ExperimentExecutionManifest Digest))
    (evidence : Option (FoldSelectionEvidence Digest))
    (selection : Option (FoldSelectionDecision Digest)) :
    Except RaisedError (WalkForwardFoldResult Digest) :=
  sealResult setting digests (failedValues fold status error execution evidence selection)

/-- The payload of the result of a completed fold. -/
def completedValues (fold : WalkForwardFoldPlan Digest)
    (execution : ExperimentExecutionManifest Digest) (evidence : FoldSelectionEvidence Digest)
    (decision : FoldSelectionDecision Digest) (holdout : SelectedHoldoutResult Digest) :
    FoldResultValues Digest where
  foldId := fold.foldId
  foldIndex := fold.foldIndex
  experimentId := fold.experimentPlan.experimentId
  experimentExecutionId := some execution.experimentExecutionId
  experimentExecutionChecksum := some execution.checksum
  status := .completed
  selectionEvidence := some evidence
  selection := some decision
  holdout := some holdout
  failure := none

/-- The status of a fold whose selection has raised. -/
def selectionStatus : RaisedError → WalkForwardFoldStatus
  | .execution .noEligibleWalkForwardCandidate _ => .failedNoEligibleCandidate
  | _ => .failedSelection

/-- `_execute_fold` after the experiment is executed. -/
def executeSelection (runs : PublishedRuns Digest) (policy : WalkForwardSelectionPolicy)
    (snapshot : DatasetSnapshot Digest) (fold : WalkForwardFoldPlan Digest)
    (execution : ExperimentExecutionManifest Digest) :
    Except RaisedError (WalkForwardFoldResult Digest) :=
  match buildFoldSelectionEvidence setting runs fold execution policy snapshot with
  | .error e => failedFold setting digests fold (selectionStatus e) e (some execution) none none
  | .ok evidence =>
    match select setting evidence with
    | .error e =>
      failedFold setting digests fold (selectionStatus e) e (some execution) (some evidence) none
    | .ok decision =>
      match buildVerifiedHoldout setting runs fold execution decision snapshot with
      | .error e => failedFold setting digests fold .failedHoldout e (some execution)
          (some evidence) (some decision)
      | .ok holdout =>
        sealResult setting digests (completedValues fold execution evidence decision holdout)

/-- `_execute_fold`: the result of a fold, and the execution that it refers to. -/
def executeFold (runs : PublishedRuns Digest)
    (execute : WalkForwardFoldPlan Digest → Except RaisedError (ExperimentExecutionManifest Digest))
    (policy : WalkForwardSelectionPolicy) (snapshot : DatasetSnapshot Digest)
    (fold : WalkForwardFoldPlan Digest) : Except RaisedError
      (WalkForwardFoldResult Digest × Option (ExperimentExecutionManifest Digest)) :=
  match execute fold with
  | .error e => do
    let result ← failedFold setting digests fold .failedExecution e none none none
    return (result, none)
  | .ok execution =>
    match setting.validateExecution fold.experimentPlan snapshot execution with
    | .error e => do
      let result ← failedFold setting digests fold .failedExecution e none none none
      return (result, none)
    | .ok _ => do
      let result ← executeSelection setting digests runs policy snapshot fold execution
      return (result, some execution)

/-- `_build_execution_manifest`. -/
def buildExecutionManifest (plan : WalkForwardPlan Digest)
    (folds : List (WalkForwardFoldResult Digest)) :
    Except WalkForwardExecutionError (WalkForwardExecutionManifest Digest) := do
  let completed := completedResults folds
  let values : WalkForwardManifestValues Digest :=
    { walkForwardPlanId := plan.walkForwardPlanId
      planChecksum := plan.checksum
      snapshot := plan.values.snapshot
      windowPolicy := plan.values.windowPolicy
      selectionPolicy := plan.values.selectionPolicy
      folds := folds
      foldCount := folds.length
      completedCount := completed
      failedCount := folds.length - completed
      status := walkForwardStatusOf completed folds.length }
  let manifest : WalkForwardExecutionManifest Digest :=
    ⟨values, digests.manifestChecksum values, digests.manifestId values⟩
  -- the constructor validates the manifest
  validateWalkForwardExecutionManifest setting digests manifest
  return manifest

/-! ### The check of a manifest -/

/-- What `==` compares of a candidate. -/
structure ComparedCandidate (Digest : Type) where
  combination : ℕ × String × List (String × ParameterValue ℚ)
  status : SelectionCandidateStatus
  rejectionReason : Option String
  train : Option (SelectionExecutionReference Digest)
  validation : Option (SelectionExecutionReference Digest)
  validationMetric : ComparisonMetric
  validationScore : Option ℚ
  deriving DecidableEq

/-- What `==` compares of a candidate. -/
def SelectionCandidateEvidence.compared (c : SelectionCandidateEvidence Digest) :
    ComparedCandidate Digest where
  combination := (c.combinationIndex, c.combinationId, comparedParameters c.parameters)
  status := c.status
  rejectionReason := c.rejectionReason
  train := c.train
  validation := c.validation
  validationMetric := c.validationMetric
  validationScore := c.validationScore.map Decimal.value

/-- `evidence == other`. -/
def SameEvidence (a b : FoldSelectionEvidence Digest) : Prop :=
  a.values.foldId = b.values.foldId ∧ a.values.foldIndex = b.values.foldIndex ∧
    a.values.experimentId = b.values.experimentId ∧ a.values.policy = b.values.policy ∧
    a.values.candidates.map (·.compared) = b.values.candidates.map (·.compared) ∧
    a.values.eligibleCount = b.values.eligibleCount ∧
    a.values.rejectedCount = b.values.rejectedCount ∧ a.checksum = b.checksum ∧
    a.selectionEvidenceId = b.selectionEvidenceId

instance (a b : FoldSelectionEvidence Digest) : Decidable (SameEvidence a b) :=
  inferInstanceAs (Decidable (_ ∧ _ ∧ _ ∧ _ ∧ _ ∧ _ ∧ _ ∧ _ ∧ _))

/-- `decision == other`. -/
def SameDecision (a b : FoldSelectionDecision Digest) : Prop :=
  a.values.foldId = b.values.foldId ∧ a.values.foldIndex = b.values.foldIndex ∧
    a.values.policy = b.values.policy ∧
    a.values.combinationIndex = b.values.combinationIndex ∧
    a.values.combinationId = b.values.combinationId ∧
    comparedParameters a.values.parameters = comparedParameters b.values.parameters ∧
    a.values.score.value = b.values.score.value ∧ a.values.rank = b.values.rank ∧
    (a.values.eligibleCount = b.values.eligibleCount ∧
      a.values.rejectedCount = b.values.rejectedCount ∧
      a.values.rejectionReasons = b.values.rejectionReasons ∧ a.values.train = b.values.train ∧
      a.values.validation = b.values.validation ∧
      a.values.selectionEvidenceId = b.values.selectionEvidenceId ∧
      a.values.selectionEvidenceChecksum = b.values.selectionEvidenceChecksum ∧
      a.checksum = b.checksum ∧ a.selectionId = b.selectionId)

instance (a b : FoldSelectionDecision Digest) : Decidable (SameDecision a b) :=
  inferInstanceAs (Decidable (_ ∧ _ ∧ _ ∧ _ ∧ _ ∧ _ ∧ _ ∧ _ ∧ _ ∧ _ ∧ _ ∧ _ ∧ _ ∧ _ ∧ _ ∧ _ ∧ _))

/-- `holdout == other`. -/
def SameHoldout (a b : SelectedHoldoutResult Digest) : Prop :=
  a.runSpecId = b.runSpecId ∧ a.runId = b.runId ∧
    a.logicalResultChecksum = b.logicalResultChecksum ∧ a.artifactPath = b.artifactPath ∧
    a.metrics.map (fun item => (item.1, item.2.compared)) =
      b.metrics.map fun item => (item.1, item.2.compared)

instance (a b : SelectedHoldoutResult Digest) : Decidable (SameHoldout a b) :=
  inferInstanceAs (Decidable (_ ∧ _ ∧ _ ∧ _ ∧ _))

/-- The part of the check that selects and reads TEST again. -/
def replayDecision (runs : PublishedRuns Digest) (combinationCount : ℕ)
    (snapshot : DatasetSnapshot Digest) (fold : WalkForwardFoldPlan Digest)
    (execution : ExperimentExecutionManifest Digest) (r : FoldResultValues Digest)
    (evidence : FoldSelectionEvidence Digest) : Except RaisedError Unit :=
  match select setting evidence with
  | .error e =>
    require (r.status = .failedSelection ∧ r.selection.isNone = true ∧ r.holdout.isNone = true ∧
      r.failure = some (safeFailure e)) (executionError "selection failure is not reproducible")
  | .ok decision => do
    require (r.status ≠ .failedSelection)
      (executionError "failed selection state is not reproducible")
    let stored ← orRaise r.selection
      (executionError "stored selection decision is not reproducible")
    require (SameDecision stored decision)
      (executionError "stored selection decision is not reproducible")
    let combination ← orRaise
      fold.experimentPlan.combinations[decision.values.combinationIndex]? RaisedError.other
    require (combination.index = decision.values.combinationIndex ∧
        combination.combinationId = decision.values.combinationId ∧
        comparedParameters combination.parameters =
          comparedParameters decision.values.parameters ∧
        decision.values.eligibleCount + decision.values.rejectedCount = combinationCount)
      (executionError "selection winner diverges from experiment plan")
    match buildVerifiedHoldout setting runs fold execution decision snapshot with
    | .error e =>
      require (r.status = .failedHoldout ∧ r.holdout.isNone = true ∧
        r.failure = some (safeFailure e)) (executionError "holdout failure is not reproducible")
    | .ok holdout => do
      let found ← orRaise r.holdout
        (executionError "completed holdout result is not reproducible")
      require (r.status = .completed ∧ SameHoldout found holdout ∧ r.failure = none)
        (executionError "completed holdout result is not reproducible")

/-- The part of the check that builds the evidence again. -/
def replaySelection (runs : PublishedRuns Digest) (policy : WalkForwardSelectionPolicy)
    (combinationCount : ℕ) (snapshot : DatasetSnapshot Digest) (fold : WalkForwardFoldPlan Digest)
    (execution : ExperimentExecutionManifest Digest) (r : FoldResultValues Digest) :
    Except RaisedError Unit :=
  match buildFoldSelectionEvidence setting runs fold execution policy snapshot with
  | .error e =>
    require (r.status = .failedSelection ∧ r.selectionEvidence.isNone = true ∧
      r.selection.isNone = true ∧ r.holdout.isNone = true ∧ r.failure = some (safeFailure e))
      (executionError "selection evidence cannot be reproduced")
  | .ok evidence => do
    let stored ← orRaise r.selectionEvidence
      (executionError "stored selection evidence is not reproducible")
    require (SameEvidence stored evidence)
      (executionError "stored selection evidence is not reproducible")
    if evidence.values.eligibleCount = 0 then
      require (r.status = .failedNoEligibleCandidate ∧ r.selection.isNone = true ∧
        r.holdout.isNone = true ∧ r.failure = some (safeFailure
          (.execution .noEligibleWalkForwardCandidate
            ExecutionErrorKind.noEligibleWalkForwardCandidate.defaultMessage)))
        (executionError "fold state diverges from candidate eligibility")
    else replayDecision setting runs combinationCount snapshot fold execution r evidence

/-- The execution that was kept last for an experiment and an execution. -/
def loadExecution (executions : List (ExperimentExecutionManifest Digest))
    (experimentId executionId : Digest) : Option (ExperimentExecutionManifest Digest) :=
  executions.reverse.find? fun execution => decide (execution.values.experimentId = experimentId ∧
    execution.experimentExecutionId = executionId)

/-- The check of one fold against its plan. -/
def replayFold (runs : PublishedRuns Digest)
    (executions : List (ExperimentExecutionManifest Digest)) (policy : WalkForwardSelectionPolicy)
    (combinationCount : ℕ) (snapshot : DatasetSnapshot Digest)
    (item : WalkForwardFoldResult Digest × WalkForwardFoldPlan Digest) :
    Except RaisedError Unit := do
  let (result, fold) := item
  let r := result.values
  require (r.foldId = fold.foldId ∧ r.foldIndex = fold.foldIndex ∧
      r.experimentId = fold.experimentPlan.experimentId)
    (executionError "fold result diverges from its plan")
  match r.experimentExecutionId with
  | none =>
    require (r.status = .failedExecution)
      (executionError "post-execution fold has no execution reference")
  | some executionId => do
    let execution ← orRaise (loadExecution executions r.experimentId executionId)
      (executionError "referenced experiment execution cannot be loaded")
    require (execution.experimentExecutionId = executionId ∧
        some execution.checksum = r.experimentExecutionChecksum)
      (executionError "referenced experiment execution identity diverges")
    (setting.validateExecution fold.experimentPlan snapshot execution).mapError fun _ =>
      executionError "referenced experiment execution diverges from fold plan"
    replaySelection setting runs policy combinationCount snapshot fold execution r

/-- `except WalkForwardError: raise`, and any other exception of the contracts; what the folds of a
manifest raise is all of that class. -/
def ofContracts (x : Except WalkForwardExecutionError Unit) :
    Except WalkForwardExecutionError Unit :=
  x.mapError fun e =>
    match e with
    | .planning (.walkForward _ _) => e
    | .planning _ => .raised (executionError "walk-forward contracts cannot be validated")
    | .raised _ => e

/-- `validate_walk_forward_execution_manifest_against_plan`; the folds of the plan are valid with
it. -/
def validateWalkForwardExecutionManifestAgainstPlan (runs : PublishedRuns Digest)
    (executions : List (ExperimentExecutionManifest Digest)) (snapshot : DatasetSnapshot Digest)
    (plan : WalkForwardPlan Digest) (manifest : WalkForwardExecutionManifest Digest) :
    Except WalkForwardExecutionError Unit := do
  ofContracts ((validateWalkForwardPlan setting.planning plan).mapError .planning)
  ofContracts (validateWalkForwardExecutionManifest setting digests manifest)
  Except.mapError .raised do
    let v := manifest.values
    require (v.walkForwardPlanId = plan.walkForwardPlanId ∧ v.planChecksum = plan.checksum ∧
        v.snapshot = plan.values.snapshot ∧ v.windowPolicy = plan.values.windowPolicy ∧
        v.selectionPolicy = plan.values.selectionPolicy ∧
        v.folds.length = plan.values.folds.length)
      (executionError "execution manifest diverges from its plan")
    (v.folds.zip plan.values.folds).forM (replayFold setting runs executions
      plan.values.selectionPolicy plan.values.combinationCount snapshot)

/-- `execute` after its preflight and before the publication: the folds are executed in order, and
the manifest is assembled and checked. -/
def executeFolds (runs : PublishedRuns Digest)
    (execute : WalkForwardFoldPlan Digest → Except RaisedError (ExperimentExecutionManifest Digest))
    (snapshot : DatasetSnapshot Digest) (plan : WalkForwardPlan Digest) :
    Except WalkForwardExecutionError (WalkForwardExecutionManifest Digest) := do
  let outcomes ← (plan.values.folds.mapM (executeFold setting digests runs execute
    plan.values.selectionPolicy snapshot)).mapError .raised
  let manifest ← buildExecutionManifest setting digests plan (outcomes.map Prod.fst)
  validateWalkForwardExecutionManifestAgainstPlan setting digests runs
    (outcomes.filterMap Prod.snd) snapshot plan manifest
  return manifest

end

end Optimization
end DryTrade
