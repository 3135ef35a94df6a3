import DryTrade.Optimization.ExecutionRecords
import DryTrade.Optimization.WalkForward
import DryTrade.Ranking

/-!
# The selection in an executed fold

Of the executed runs of a fold, those of TRAIN and VALIDATION are verified against the published
artifacts, combination by combination; what cannot be verified, or has no canonical metric, is
rejected with a reason.  Of the candidates that are left the one with the best metric on VALIDATION
is selected, and the decision is checked by ranking the candidates again.

No key of a payload mentions TEST, so that check is left out.

## Main definitions

* `SelectionCandidateEvidence`, `FoldSelectionEvidence`, `FoldSelectionDecision` — the evidence of
  a fold, and the decision.
* `PublishedRuns` — what the artifacts of the runs say.
* `buildFoldSelectionEvidence` — the evidence of an execution.
* `select` — `WalkForwardSelectionService.select`.
* `validateSelectionDecisionAgainstEvidence` — the check of a decision.
-/

namespace DryTrade
namespace Optimization

open MarketData Snapshots Backtesting Strategies

/-! ### Errors -/

/-- `InvalidWalkForwardCandidateError(message)`. -/
def candidateError (message : String) : RaisedError :=
  .execution .invalidWalkForwardCandidate message

/-- `IncompatibleWalkForwardSelectionError(message)`. -/
def selectionError (message : String) : RaisedError :=
  .execution .incompatibleWalkForwardSelection message

/-- `IncompatibleWalkForwardExecutionError(message)`. -/
def executionError (message : String) : RaisedError :=
  .execution .incompatibleWalkForwardExecution message

/-- `_exact_int`. -/
def boundedInt (n : ℕ) (label : String) (minimum maximum : ℕ) : Except RaisedError Unit :=
  require (minimum ≤ n ∧ n ≤ maximum) (RaisedError.execution .invalidWalkForwardWindowPolicy
    (label ++ " is outside its exact integer limit"))

/-- `_finite_decimal`. -/
def finiteScore (score : Decimal) (label : String) : Except RaisedError Unit := do
  let _ ← score.boundedText (RaisedError.execution .invalidWalkForwardMetric
    (label ++ " exceeds its canonical character limit"))

/-! ### Parameters -/

/-- `_parameter_value`. -/
def candidateValue (v : ParameterValue Decimal) : Except RaisedError Unit :=
  match v with
  | .bool _ => .ok ()
  | .str s => require (s ≠ "" ∧ s = strip s ∧ s.length ≤ 128)
      (candidateError "candidate string value is invalid")
  | .int n => require (n.natAbs < 10 ^ maximumIntegerDigits)
      (candidateError "candidate integer value exceeds its limit")
  | .decimal d => require d.Fits (candidateError "candidate decimal value exceeds its limit")
  | .none => .error (candidateError "candidate parameter value is invalid")

/-- `_validate_parameters`. -/
def validateParameters (parameters : StrategyParameters) : Except RaisedError Unit := do
  parameters.forM fun q => do
    require (q.1 ≠ "") (candidateError "candidate parameter name is invalid")
    candidateValue q.2
  let names := parameters.map Prod.fst
  require (names = sortedNames names ∧ names.Nodup)
    (candidateError "candidate parameters are not canonical")

/-! ### Evidence -/

inductive SelectionCandidateStatus
  | eligible
  | rejected
  deriving DecidableEq, Repr

/-- A verified run; its status has one value. -/
structure SelectionExecutionReference (Digest : Type) where
  runSpecId : Digest
  runId : Digest
  logicalResultChecksum : Digest
  artifactPath : String
  deriving DecidableEq

/-- What is known of one combination without TEST. -/
structure SelectionCandidateEvidence (Digest : Type) where
  combinationIndex : ℕ
  combinationId : String
  parameters : StrategyParameters
  status : SelectionCandidateStatus
  rejectionReason : Option String
  train : Option (SelectionExecutionReference Digest)
  validation : Option (SelectionExecutionReference Digest)
  validationMetric : ComparisonMetric
  validationScore : Option Decimal

/-- The payload of the evidence. -/
structure SelectionEvidenceValues (Digest : Type) where
  foldId : Digest
  foldIndex : ℕ
  experimentId : Digest
  policy : WalkForwardSelectionPolicy
  candidates : List (SelectionCandidateEvidence Digest)
  eligibleCount : ℕ
  rejectedCount : ℕ

/-- The evidence of one complete set of candidates. -/
structure FoldSelectionEvidence (Digest : Type) where
  values : SelectionEvidenceValues Digest
  checksum : Digest
  selectionEvidenceId : Digest

/-- The payload of a decision. -/
structure SelectionDecisionValues (Digest : Type) where
  foldId : Digest
  foldIndex : ℕ
  policy : WalkForwardSelectionPolicy
  combinationIndex : ℕ
  combinationId : String
  parameters : StrategyParameters
  score : Decimal
  rank : ℕ
  eligibleCount : ℕ
  rejectedCount : ℕ
  rejectionReasons : List String
  train : SelectionExecutionReference Digest
  validation : SelectionExecutionReference Digest
  selectionEvidenceId : Digest
  selectionEvidenceChecksum : Digest

/-- The decision of a fold. -/
structure FoldSelectionDecision (Digest : Type) where
  values : SelectionDecisionValues Digest
  checksum : Digest
  selectionId : Digest

/-- A metric of a run as it is stored: absent, an integer, a text, or something else. -/
inductive RawMetric
  | none
  | int (n : ℤ)
  | text (raw : String)
  | other

/-- What the published artifacts say: the path of a run, its verified identity and logical
checksum, and the metrics of its summary. -/
structure PublishedRuns (Digest : Type) where
  relativeRunPath : Digest → Except RaisedError String
  verify : Digest → Except RaisedError (Digest × Digest)
  loadMetrics : Digest → Except RaisedError (Option (List (String × RawMetric)))

/-- What a selection is made with: the digests, `build_run_id`, and `Decimal(raw)`, which may raise
and may not be finite. -/
structure SelectionSetting (Digest : Type) where
  planning : PlanningDigests Digest
  execution : ExecutionDigests Digest
  evidenceChecksum : SelectionEvidenceValues Digest → Digest
  evidenceId : SelectionEvidenceValues Digest → Digest
  decisionChecksum : SelectionDecisionValues Digest → Digest
  decisionId : SelectionDecisionValues Digest → Digest
  buildRunId : ConfigRecord Decimal → DatasetSnapshot Digest → Except RaisedError Digest
  readDecimal : String → Option (Option Decimal)

/-- The `value` of a metric. -/
def ComparisonMetric.value : ComparisonMetric → String
  | .totalReturn => "total_return"
  | .cagr => "cagr"
  | .sharpeRatio => "sharpe_ratio"
  | .sortinoRatio => "sortino_ratio"
  | .maximumDrawdownPct => "maximum_drawdown_pct"
  | .netProfit => "net_profit"
  | .profitFactor => "profit_factor"

section

variable {Digest : Type}

/-- The candidates that may be selected. -/
def SelectionEvidenceValues.eligible (e : SelectionEvidenceValues Digest) :
    List (SelectionCandidateEvidence Digest) := e.candidates.filter fun c => c.status = .eligible

/-- The reasons the other candidates are rejected for. -/
def SelectionEvidenceValues.reasons (e : SelectionEvidenceValues Digest) :
    List (Option String) :=
  (e.candidates.filter fun c => c.status = .rejected).map (·.rejectionReason)

/-- `sorted(candidates, key=score, reverse=reverse)`, of candidates with their scores. -/
def scoreOrder (direction : SelectionDirection)
    (scored : List (SelectionCandidateEvidence Digest × Decimal)) :
    List (SelectionCandidateEvidence Digest × Decimal) :=
  match direction with
  | .maximize => sortBy (fun c => OrderDual.toDual c.2.value) scored
  | .minimize => sortBy (fun c => c.2.value) scored

/-- The winner among some candidates and the best score; `absent` is raised when one has none. -/
def rankedWinner (absent : RaisedError) (direction : SelectionDirection)
    (candidates : List (SelectionCandidateEvidence Digest)) :
    Except RaisedError (SelectionCandidateEvidence Digest × Decimal) := do
  let scored ← candidates.mapM fun c => do
    let score ← orRaise c.validationScore absent
    return (c, score)
  let order := scoreOrder direction scored
  let top ← orRaise order.head? RaisedError.other
  let winner ← orRaise (leastBy (fun c => toLex (c.1.combinationIndex, c.1.combinationId.toList))
    (order.filter fun c => decide (c.2.value = top.2.value))) RaisedError.other
  return (winner.1, top.2)

/-- `_compact_reasons`, and `_compact_rejection_reasons` before its limits; `invalid` is raised when
one is missing. -/
def compactReasons (invalid : RaisedError) (reasons : List (Option String)) :
    Except RaisedError (List String) := do
  let texts ← reasons.mapM fun reason => orRaise (reason.filter (· ≠ "")) invalid
  return (sortedNames texts.dedup).map fun text =>
    text ++ ":" ++ String.ofList (Decimal.digits (texts.count text))

end

/-! ### Checks -/

section

variable {Digest : Type} [DecidableEq Digest] (setting : SelectionSetting Digest)

/-- `validate_selection_reference`. -/
def validateSelectionReference (reference : SelectionExecutionReference Digest) :
    Except RaisedError Unit :=
  require (isCanonicalArtifactPath reference.artifactPath
    (setting.execution.hex reference.runId) = true)
    (candidateError "artifact path is unsafe or non-canonical")

/-- The checks of an eligible candidate. -/
def validateEligible (c : SelectionCandidateEvidence Digest) : Except RaisedError Unit := do
  require (c.rejectionReason = none)
    (candidateError "eligible candidate has a rejection reason")
  let train ← orRaise c.train (candidateError "eligible candidate evidence is incomplete")
  let validation ← orRaise c.validation
    (candidateError "eligible candidate evidence is incomplete")
  validateSelectionReference setting train
  validateSelectionReference setting validation
  require (train ≠ validation)
    (candidateError "TRAIN and VALIDATION references must differ")
  let score ← orRaise c.validationScore (RaisedError.execution .invalidWalkForwardMetric
    "validation score must be one finite Decimal")
  finiteScore score "validation score"

/-- `MAX_SELECTION_REJECTION_REASONS` and `MAX_SELECTION_REJECTION_REASON_CHARACTERS`. -/
def maxRejectionReasons : ℕ := 128

/-- The checks of a rejected candidate. -/
def validateRejected (c : SelectionCandidateEvidence Digest) : Except RaisedError Unit := do
  let reason ← orRaise c.rejectionReason
    (candidateError "rejected candidate evidence is inconsistent")
  require (reason ≠ "" ∧ reason.length ≤ maxRejectionReasons ∧ c.validationScore = none)
    (candidateError "rejected candidate evidence is inconsistent")
  c.train.toList.forM (validateSelectionReference setting)
  c.validation.toList.forM (validateSelectionReference setting)
  require (c.train = none ∨ c.validation = none ∨ c.train ≠ c.validation)
    (candidateError "TRAIN and VALIDATION references must differ")

/-- `validate_selection_candidate`. -/
def validateSelectionCandidate (c : SelectionCandidateEvidence Digest) :
    Except RaisedError Unit := do
  boundedInt c.combinationIndex "combination index" 0 100000
  validateParameters c.parameters
  if c.status = .eligible then validateEligible setting c else validateRejected setting c

/-- `validate_fold_selection_evidence`. -/
def validateFoldSelectionEvidence (evidence : FoldSelectionEvidence Digest) :
    Except RaisedError Unit := do
  let e := evidence.values
  boundedInt e.foldIndex "fold index" 0 (absoluteMaxFolds - 1)
  require (e.candidates ≠ []) (selectionError "candidate evidence set is invalid")
  e.candidates.forM (validateSelectionCandidate setting)
  let ordering : List (ℕ ×ₗ List Char) :=
    e.candidates.map fun c => toLex (c.combinationIndex, c.combinationId.toList)
  require (ordering = sortBy id ordering) (selectionError "candidate evidence order is invalid")
  require (e.candidates.map (·.combinationIndex) = List.range e.candidates.length ∧
      (e.candidates.map (·.combinationId)).Nodup)
    (selectionError "candidate evidence identities are duplicated or incomplete")
  require (∀ c ∈ e.candidates, c.validationMetric = e.policy.metric)
    (selectionError "candidate metric diverges from the selection policy")
  require (e.eligibleCount = e.eligible.length ∧
      e.rejectedCount = e.candidates.length - e.eligible.length)
    (selectionError "candidate evidence counts are invalid")
  require (evidence.checksum = setting.evidenceChecksum e)
    (RaisedError.execution .walkForwardChecksum "selection evidence checksum does not match")
  require (evidence.selectionEvidenceId = setting.evidenceId e)
    (RaisedError.execution .walkForwardIdentifier "selection evidence id does not match")

/-- `validate_selection_decision`. -/
def validateSelectionDecision (decision : FoldSelectionDecision Digest) :
    Except RaisedError Unit := do
  let d := decision.values
  boundedInt d.foldIndex "fold index" 0 (absoluteMaxFolds - 1)
  boundedInt d.combinationIndex "combination index" 0 100000
  validateParameters d.parameters
  finiteScore d.score "selection score"
  require (d.rank = 1) (selectionError "winner rank must be one")
  boundedInt d.eligibleCount "eligible count" 1 100000
  boundedInt d.rejectedCount "rejected count" 0 100000
  require (∀ reason ∈ d.rejectionReasons, reason ≠ "" ∧ reason.length ≤ 128)
    (selectionError "rejection reasons are invalid")
  validateSelectionReference setting d.train
  validateSelectionReference setting d.validation
  require (d.train ≠ d.validation)
    (selectionError "TRAIN and VALIDATION references must differ")
  require (decision.checksum = setting.decisionChecksum d)
    (RaisedError.execution .walkForwardChecksum "selection checksum does not match")
  require (decision.selectionId = setting.decisionId d)
    (RaisedError.execution .walkForwardIdentifier "selection id does not match")

/-- `validate_selection_decision_against_evidence`. -/
def validateSelectionDecisionAgainstEvidence (decision : FoldSelectionDecision Digest)
    (evidence : FoldSelectionEvidence Digest) : Except RaisedError Unit := do
  validateSelectionDecision setting decision
  validateFoldSelectionEvidence setting evidence
  let d := decision.values
  let e := evidence.values
  require (d.foldId = e.foldId ∧ d.foldIndex = e.foldIndex ∧ d.policy = e.policy ∧
      d.selectionEvidenceId = evidence.selectionEvidenceId ∧
      d.selectionEvidenceChecksum = evidence.checksum)
    (selectionError "selection decision diverges from its evidence set")
  require (e.eligible ≠ []) (selectionError "selection has no eligible candidate")
  let (winner, bestScore) ← rankedWinner (selectionError "eligible candidate score is absent")
    e.policy.direction e.eligible
  let compact ← compactReasons (selectionError "candidate rejection reason is invalid") e.reasons
  require (compact.length ≤ maxRejectionReasons ∧
      ∀ item ∈ compact, item.length ≤ maxRejectionReasons)
    (selectionError "selection rejection summary exceeds limits")
  require (d.combinationIndex = winner.combinationIndex ∧
      d.combinationId = winner.combinationId ∧
      comparedParameters d.parameters = comparedParameters winner.parameters ∧
      d.score.value = bestScore.value ∧ d.rank = 1 ∧ d.eligibleCount = e.eligibleCount ∧
      d.rejectedCount = e.rejectedCount ∧ d.rejectionReasons = compact ∧
      some d.train = winner.train ∧ some d.validation = winner.validation)
    (selectionError "selection winner is not reproducible")

/-! ### The decision -/

/-- The decision for a winner, with its checksum and its id. -/
def decisionOf (evidence : FoldSelectionEvidence Digest)
    (winner : SelectionCandidateEvidence Digest) (bestScore : Decimal)
    (train validation : SelectionExecutionReference Digest) (compact : List String) :
    FoldSelectionDecision Digest :=
  let e := evidence.values
  let values : SelectionDecisionValues Digest :=
    { foldId := e.foldId
      foldIndex := e.foldIndex
      policy := e.policy
      combinationIndex := winner.combinationIndex
      combinationId := winner.combinationId
      parameters := winner.parameters
      score := bestScore
      rank := 1
      eligibleCount := e.eligibleCount
      rejectedCount := e.rejectedCount
      rejectionReasons := compact
      train := train
      validation := validation
      selectionEvidenceId := evidence.selectionEvidenceId
      selectionEvidenceChecksum := evidence.checksum }
  ⟨values, setting.decisionChecksum values, setting.decisionId values⟩

/-- `WalkForwardSelectionService.select`. -/
def select (evidence : FoldSelectionEvidence Digest) :
    Except RaisedError (FoldSelectionDecision Digest) := do
  validateFoldSelectionEvidence setting evidence
  let e := evidence.values
  require (e.eligible ≠ []) (RaisedError.execution .noEligibleWalkForwardCandidate
    ExecutionErrorKind.noEligibleWalkForwardCandidate.defaultMessage)
  let (winner, bestScore) ← rankedWinner (candidateError "eligible candidate score is absent")
    e.policy.direction e.eligible
  let train ← orRaise winner.train (candidateError "winner evidence is incomplete")
  let validation ← orRaise winner.validation (candidateError "winner evidence is incomplete")
  let compact ← compactReasons (candidateError "candidate rejection reason is invalid") e.reasons
  let decision := decisionOf setting evidence winner bestScore train validation compact
  -- the constructor validates the decision, and so does the check against its evidence
  validateSelectionDecisionAgainstEvidence setting decision evidence
  return decision

/-! ### The evidence of an execution -/

/-- What is wrong with the artifacts of a run, if anything is. -/
def artifactFault (runs : PublishedRuns Digest) (runId checksum : Digest) (path : String) :
    Option String :=
  match runs.relativeRunPath runId with
  | .error _ => some "_artifact_verification_failed"
  | .ok expectedPath =>
    if path ≠ expectedPath then some "_artifact_path_mismatch"
    else
      match runs.verify runId with
      | .error _ => some "_artifact_verification_failed"
      | .ok verification =>
        if verification ≠ (runId, checksum) then some "_artifact_checksum_mismatch" else none

/-- `_verified_selection_reference`: a reference, or the reason why there is none. -/
def verifiedSelectionReference (runs : PublishedRuns Digest) (record : PlannedRunExecution Digest)
    (spec : PlannedRunSpec Digest) (snapshot : DatasetSnapshot Digest) (label : String) :
    Except RaisedError (Except String (SelectionExecutionReference Digest)) :=
  let v := record.values
  if v.status.isSuccessful = false ∨ v.verified = false then .ok (.error (label ++ "_not_verified"))
  else
    match v.runId, v.logicalResultChecksum, v.artifactPath with
    | some runId, some checksum, some path => do
      let expected ← setting.buildRunId spec.backtestConfig snapshot
      if runId ≠ expected then return .error (label ++ "_run_id_mismatch")
      else
        match artifactFault runs expected checksum path with
        | some fault => return .error (label ++ fault)
        | none => do
          let reference : SelectionExecutionReference Digest := ⟨v.runSpecId, runId, checksum, path⟩
          validateSelectionReference setting reference
          return .ok reference
    | _, _, _ => .ok (.error (label ++ "_record_incomplete"))

/-- `_selection_metric`; `stored` is what is stored under the name of the metric. -/
def selectionMetric (stored : Option RawMetric) : Except RaisedError Decimal :=
  match stored with
  | none => .error (.execution .missingWalkForwardMetric
      ExecutionErrorKind.missingWalkForwardMetric.defaultMessage)
  | some .none => .error (.execution .missingWalkForwardMetric
      ExecutionErrorKind.missingWalkForwardMetric.defaultMessage)
  | some (.text raw) => do
    let invalid := RaisedError.execution .invalidWalkForwardMetric
      ExecutionErrorKind.invalidWalkForwardMetric.defaultMessage
    require (raw ≠ "" ∧ raw = strip raw) invalid
    let read ← orRaise (setting.readDecimal raw) invalid
    let value ← orRaise read invalid
    let text ← value.boundedText (RaisedError.execution .incompatibleSearchSpaceDocument
      "Decimal canonical text exceeds 128 characters")
    require (text = raw.toList) invalid
    return value
  | some (.int _) => .error (.execution .invalidWalkForwardMetric
      ExecutionErrorKind.invalidWalkForwardMetric.defaultMessage)
  | some .other => .error (.execution .invalidWalkForwardMetric
      ExecutionErrorKind.invalidWalkForwardMetric.defaultMessage)

/-- What a selection reads of a summary: what is stored under the name of the metric. -/
def storedMetric (runs : PublishedRuns Digest) (metric : ComparisonMetric) (runId : Digest) :
    Except RaisedError (Option (Option RawMetric)) :=
  (runs.loadMetrics runId).map fun metrics => metrics.map fun m => m.lookup metric.value

/-- The reason of an exception. -/
def metricReason : RaisedError → String
  | .execution .missingWalkForwardMetric _ => ExecutionErrorKind.missingWalkForwardMetric.code
  | .execution .invalidWalkForwardMetric _ => ExecutionErrorKind.invalidWalkForwardMetric.code
  | _ => "validation_metric_unavailable"

/-- The score of a run on VALIDATION, or the reason why there is none. -/
def validationScore (runs : PublishedRuns Digest) (metric : ComparisonMetric) (runId : Digest) :
    Except String Decimal :=
  Except.mapError metricReason do
    let metrics ← storedMetric runs metric runId
    let stored ← orRaise metrics (RaisedError.execution .missingWalkForwardMetric
      ExecutionErrorKind.missingWalkForwardMetric.defaultMessage)
    selectionMetric setting stored

/-- The score of a candidate, or the reason why it is rejected. -/
def scoreOf (runs : PublishedRuns Digest) (policy : WalkForwardSelectionPolicy)
    (train validation : Except String (SelectionExecutionReference Digest)) :
    Except String Decimal := do
  -- the reason of TRAIN comes before that of VALIDATION, and both before that of the metric
  let _ ← train
  let reference ← validation
  validationScore setting runs policy.metric reference.runId

/-- The reason, if there is one. -/
def reasonOf (score : Except String Decimal) : Option String :=
  match score with
  | .ok _ => none
  | .error reason => some reason

/-- The candidate of a combination, with its references and its score. -/
def candidateOf (policy : WalkForwardSelectionPolicy) (combination : ParameterCombination)
    (train validation : Except String (SelectionExecutionReference Digest))
    (score : Except String Decimal) : SelectionCandidateEvidence Digest where
  combinationIndex := combination.index
  combinationId := combination.combinationId
  parameters := combination.parameters
  status := if reasonOf score = none then .eligible else .rejected
  rejectionReason := reasonOf score
  train := train.toOption
  validation := validation.toOption
  validationMetric := policy.metric
  validationScore := score.toOption

/-- One candidate of `build_fold_selection_evidence`. -/
def buildCandidate (runs : PublishedRuns Digest) (policy : WalkForwardSelectionPolicy)
    (snapshot : DatasetSnapshot Digest) (specs : List (PlannedRunSpec Digest))
    (records : List (PlannedRunExecution Digest)) (combination : ParameterCombination) :
    Except RaisedError (SelectionCandidateEvidence Digest) := do
  let offset := combination.index * 3
  require (offset + 1 < records.length) (executionError "candidate records are absent")
  let trainRecord ← orRaise records[offset]? RaisedError.other
  let validationRecord ← orRaise records[offset + 1]? RaisedError.other
  let trainSpec ← orRaise specs[offset]? RaisedError.other
  let validationSpec ← orRaise specs[offset + 1]? RaisedError.other
  let train ← verifiedSelectionReference setting runs trainRecord trainSpec snapshot "train"
  let validation ← verifiedSelectionReference setting runs validationRecord validationSpec snapshot
    "validation"
  let candidate := candidateOf policy combination train validation
    (scoreOf setting runs policy train validation)
  validateSelectionCandidate setting candidate
  return candidate

/-- `validate_execution_manifest_against_plan`, with the digests of the setting. -/
def SelectionSetting.validateExecution (plan : ExperimentPlan Digest)
    (snapshot : DatasetSnapshot Digest) (execution : ExperimentExecutionManifest Digest) :
    Except RaisedError Unit :=
  validateExecutionManifestAgainstPlan setting.planning.sha256 setting.planning.identify
    setting.planning.temporal setting.planning.experiment setting.execution setting.buildRunId
    execution plan snapshot

/-- `build_fold_selection_evidence`. -/
def buildFoldSelectionEvidence (runs : PublishedRuns Digest) (fold : WalkForwardFoldPlan Digest)
    (execution : ExperimentExecutionManifest Digest) (policy : WalkForwardSelectionPolicy)
    (snapshot : DatasetSnapshot Digest) : Except RaisedError (FoldSelectionEvidence Digest) := do
  (setting.validateExecution fold.experimentPlan snapshot execution).mapError fun _ =>
    executionError "experiment execution diverges from the fold plan"
  let candidates ← fold.experimentPlan.combinations.mapM (buildCandidate setting runs policy
    snapshot fold.experimentPlan.runSpecs execution.values.records)
  let eligibleCount := candidates.countP fun c => c.status = .eligible
  let values : SelectionEvidenceValues Digest :=
    { foldId := fold.foldId
      foldIndex := fold.foldIndex
      experimentId := fold.experimentPlan.experimentId
      policy := policy
      candidates := candidates
      eligibleCount := eligibleCount
      rejectedCount := candidates.length - eligibleCount }
  let evidence : FoldSelectionEvidence Digest :=
    ⟨values, setting.evidenceChecksum values, setting.evidenceId values⟩
  validateFoldSelectionEvidence setting evidence
  return evidence

end

end Optimization
end DryTrade
