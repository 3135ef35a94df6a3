import DryTrade.Optimization.FoldGeometry
import DryTrade.Optimization.FoldSelection

/-!
# The selection does not see TEST

Two executions of one fold whose records, artifacts and selected metrics agree on TRAIN and
VALIDATION have the same evidence, whatever their TEST runs are, and so the same decision.

## Main definitions

* `AgreeBeforeTest` — two executions agree on TRAIN and VALIDATION.

## Main results

* `purpose_of_valid` — the purpose of a planned run, from its place.
* `selection_blind` — the evidence and the decision are the same.
-/

namespace DryTrade
namespace Optimization

open MarketData Snapshots Backtesting Strategies

/-- A computation on every member only depends on what it does to the members. -/
theorem mapM_congr_of_mem {ε α β : Type} {f g : α → Except ε β} {l : List α}
    (h : ∀ a ∈ l, f a = g a) : l.mapM f = l.mapM g := by
  induction l with
  | nil => rfl
  | cons a l ih =>
    rw [List.mapM_cons, List.mapM_cons, h a List.mem_cons_self,
      ih fun b hb => h b (List.mem_cons_of_mem a hb)]

/-! ### Planned runs and their records -/

section

variable {Digest : Type} [DecidableEq Digest] {setting : SelectionSetting Digest}
  {plan : ExperimentPlan Digest} {snapshot : DatasetSnapshot Digest}
  {execution : ExperimentExecutionManifest Digest} {spec : PlannedRunSpec Digest} {i : ℕ}

/-- **The purpose of a planned run**, from its place. -/
theorem purpose_of_valid {sha256 : List Char → String} {identify : SnapshotIdentity Digest}
    {temporalDigests : TemporalDigests Digest} {digests : ExperimentDigests Digest}
    (h : validateExperimentPlan sha256 identify temporalDigests digests plan = .ok ())
    (hspec : plan.runSpecs[i]? = some spec) :
    purposeBySegmentIndex[i % 3]? = some spec.purpose := by
  simp only [validateExperimentPlan, bind_eq_ok, require_eq_ok, exists_const, forM_eq_ok] at h
  obtain ⟨u₁, hplan, n, -, u₂, -, -, u₃, -, -, -, u₄, -, cardinality, -, -, -, -, -, seen, hruns,
    -⟩ := h
  obtain ⟨before, after, hrun⟩ := forall_of_foldlM_eq_ok hruns (spec, i)
    (List.mem_zipIdx_iff_getElem?.mpr hspec)
  simp only [validatePlanRunSpec, validatePlannedRunSpec, bind_eq_ok, require_eq_ok,
    exists_const] at hrun
  obtain ⟨-, ⟨u₅, -, u₆, -, u₇, -, u₈, -, hpurpose, -⟩, -, combination, -, -, hsegment, -⟩ := hrun
  obtain ⟨s₀, s₁, s₂, hsegments, ⟨h₀, h₁, h₂⟩, -⟩ := segments_of_valid (mapError_eq_ok.mp hplan)
  rw [hsegments] at hsegment
  rw [hpurpose]
  -- the segments of a plan are TRAIN, VALIDATION and TEST
  have hlt : i % 3 < 3 := Nat.mod_lt i (by decide)
  rcases (show i % 3 = 0 ∨ i % 3 = 1 ∨ i % 3 = 2 by omega) with hi | hi | hi
  · rw [hi] at hsegment ⊢
    obtain rfl : s₀ = spec.segment := Option.some.inj hsegment
    rw [h₀]
    rfl
  · rw [hi] at hsegment ⊢
    obtain rfl : s₁ = spec.segment := Option.some.inj hsegment
    rw [h₁]
    rfl
  · rw [hi] at hsegment ⊢
    obtain rfl : s₂ = spec.segment := Option.some.inj hsegment
    rw [h₂]
    rfl

/-- What a valid execution says of its plan and of its records. -/
structure ExecutionOf (setting : SelectionSetting Digest) (plan : ExperimentPlan Digest)
    (snapshot : DatasetSnapshot Digest) (execution : ExperimentExecutionManifest Digest) :
    Prop where
  plan_valid : validateExperimentPlan setting.planning.sha256 setting.planning.identify
    setting.planning.temporal setting.planning.experiment plan = .ok ()
  experimentId_eq : execution.values.experimentId = plan.experimentId
  length_eq : execution.values.records.length = plan.runSpecs.length
  record_valid : ∀ {i : ℕ} {record : PlannedRunExecution Digest} {spec : PlannedRunSpec Digest},
    execution.values.records[i]? = some record → plan.runSpecs[i]? = some spec →
      record.values.purpose = spec.purpose ∧
        (record.values.status.isSuccessful = true →
          ∃ runId, setting.buildRunId spec.backtestConfig snapshot = .ok runId ∧
            record.values.runId = some runId)

theorem executionOf_of_valid (h : setting.validateExecution plan snapshot execution = .ok ()) :
    ExecutionOf setting plan snapshot execution := by
  simp only [SelectionSetting.validateExecution, validateExecutionManifestAgainstPlan, bind_eq_ok,
    require_eq_ok, exists_const, forM_eq_ok, ofPlanning, mapError_eq_ok] at h
  obtain ⟨u, -, u', hplan, -, ⟨hexperiment, -, -, hlength⟩, hrecords⟩ := h
  refine ⟨hplan, hexperiment, hlength, fun {i record spec} hrecord hspec => ?_⟩
  have hmem : (record, spec) ∈ execution.values.records.zip plan.runSpecs := by
    refine List.mem_of_getElem? (i := i) ?_
    rw [List.getElem?_zip_eq_some]
    exact ⟨hrecord, hspec⟩
  have hvalid := hrecords _ hmem
  simp only [validateRecordAgainstSpec, bind_eq_ok, require_eq_ok, exists_const] at hvalid
  obtain ⟨⟨-, -, -, -, -, -, -, hpurpose⟩, hrun⟩ := hvalid
  refine ⟨hpurpose, fun hstatus => ?_⟩
  rw [if_pos hstatus] at hrun
  simp only [bind_eq_ok, require_eq_ok] at hrun
  exact hrun

end

/-! ### References -/

section

variable {Digest : Type} [DecidableEq Digest] {setting : SelectionSetting Digest}
  {runs runs' : PublishedRuns Digest} {record : PlannedRunExecution Digest}
  {spec : PlannedRunSpec Digest} {snapshot : DatasetSnapshot Digest} {label : String}

/-- A reference only depends on the artifacts of its run. -/
theorem verifiedSelectionReference_congr
    (h : ∀ runId, setting.buildRunId spec.backtestConfig snapshot = .ok runId →
      runs.relativeRunPath runId = runs'.relativeRunPath runId ∧
        runs.verify runId = runs'.verify runId) :
    verifiedSelectionReference setting runs record spec snapshot label =
      verifiedSelectionReference setting runs' record spec snapshot label := by
  unfold verifiedSelectionReference
  cases hid : setting.buildRunId spec.backtestConfig snapshot with
  | error e => rfl
  | ok runId =>
    obtain ⟨hpath, hverify⟩ := h runId hid
    simp only [ok_bind, artifactFault, hpath, hverify]

/-- A reference is one to the run of its planned run. -/
theorem runId_of_verified {reference : SelectionExecutionReference Digest}
    (h : verifiedSelectionReference setting runs record spec snapshot label =
      .ok (.ok reference)) :
    setting.buildRunId spec.backtestConfig snapshot = .ok reference.runId := by
  simp only [verifiedSelectionReference] at h
  split at h
  · cases h
  · split at h
    · rename_i runId checksum path _ _ _
      rw [bind_eq_ok] at h
      obtain ⟨expected, hid, h⟩ := h
      split at h
      · cases h
      · rename_i heq
        split at h
        · cases h
        · rw [bind_eq_ok] at h
          obtain ⟨u, -, h⟩ := h
          obtain rfl := Except.ok.inj (Except.ok.inj h)
          rw [hid]
          exact congrArg Except.ok (not_not.mp heq).symm
    · cases h

/-- A score only depends on the selected metric of the run on VALIDATION. -/
theorem scoreOf_congr {policy : WalkForwardSelectionPolicy}
    {train validation : Except String (SelectionExecutionReference Digest)}
    (h : ∀ reference, validation = .ok reference →
      storedMetric runs policy.metric reference.runId =
        storedMetric runs' policy.metric reference.runId) :
    scoreOf setting runs policy train validation =
      scoreOf setting runs' policy train validation := by
  cases validation with
  | error reason => rfl
  | ok reference =>
    unfold scoreOf validationScore
    rw [ok_bind, ok_bind, h reference rfl]

end

/-! ### Evidence -/

section

variable {Digest : Type} [DecidableEq Digest]

/-- Two executions of a plan, and what is published of their runs, agree on TRAIN and VALIDATION:
on their records and artifacts, and on the selected metric on VALIDATION. -/
structure AgreeBeforeTest (setting : SelectionSetting Digest) (metric : ComparisonMetric)
    (plan : ExperimentPlan Digest) (snapshot : DatasetSnapshot Digest)
    (runs runs' : PublishedRuns Digest)
    (execution execution' : ExperimentExecutionManifest Digest) : Prop where
  records : ∀ {i : ℕ} {record record' : PlannedRunExecution Digest},
    execution.values.records[i]? = some record → execution'.values.records[i]? = some record' →
      record.values.purpose ≠ .finalHoldout → record = record'
  artifacts : ∀ {spec : PlannedRunSpec Digest} {runId : Digest}, spec ∈ plan.runSpecs →
    spec.purpose ≠ .finalHoldout → setting.buildRunId spec.backtestConfig snapshot = .ok runId →
      runs.relativeRunPath runId = runs'.relativeRunPath runId ∧
        runs.verify runId = runs'.verify runId
  metrics : ∀ {spec : PlannedRunSpec Digest} {runId : Digest}, spec ∈ plan.runSpecs →
    spec.purpose = .modelSelection → setting.buildRunId spec.backtestConfig snapshot = .ok runId →
      storedMetric runs metric runId = storedMetric runs' metric runId

variable {setting : SelectionSetting Digest} {policy : WalkForwardSelectionPolicy}
  {plan : ExperimentPlan Digest} {snapshot : DatasetSnapshot Digest}
  {runs runs' : PublishedRuns Digest}
  {execution execution' : ExperimentExecutionManifest Digest}

/-- A record that is not one of TEST is the same in both executions. -/
theorem AgreeBeforeTest.record_eq
    (hagree : AgreeBeforeTest setting policy.metric plan snapshot runs runs' execution execution')
    (h : ExecutionOf setting plan snapshot execution)
    (h' : ExecutionOf setting plan snapshot execution') {i : ℕ}
    (hi : i < execution.values.records.length) (htest : i % 3 < 2) :
    ∃ record spec, execution.values.records[i]? = some record ∧
      execution'.values.records[i]? = some record ∧ plan.runSpecs[i]? = some spec ∧
      spec ∈ plan.runSpecs ∧ purposeBySegmentIndex[i % 3]? = some spec.purpose ∧
      spec.purpose ≠ .finalHoldout := by
  have hspecs : i < plan.runSpecs.length := h.length_eq ▸ hi
  have hi' : i < execution'.values.records.length := by
    rw [h'.length_eq]
    exact hspecs
  have hspec := List.getElem?_eq_getElem hspecs
  have hrecord := List.getElem?_eq_getElem hi
  have hrecord' := List.getElem?_eq_getElem hi'
  have hpurpose := purpose_of_valid h.plan_valid hspec
  have hne : plan.runSpecs[i].purpose ≠ .finalHoldout := by
    intro hfinal
    rw [hfinal] at hpurpose
    rcases (show i % 3 = 0 ∨ i % 3 = 1 by omega) with hzero | hone
    · rw [hzero] at hpurpose
      cases hpurpose
    · rw [hone] at hpurpose
      cases hpurpose
  have heq := hagree.records hrecord hrecord' (by
    rw [(h.record_valid hrecord hspec).1]
    exact hne)
  refine ⟨_, _, hrecord, ?_, hspec, List.getElem_mem hspecs, hpurpose, hne⟩
  rw [hrecord', heq]

/-- The candidate of a combination is the same. -/
theorem AgreeBeforeTest.buildCandidate_eq
    (hagree : AgreeBeforeTest setting policy.metric plan snapshot runs runs' execution execution')
    (h : ExecutionOf setting plan snapshot execution)
    (h' : ExecutionOf setting plan snapshot execution') (combination : ParameterCombination) :
    buildCandidate setting runs policy snapshot plan.runSpecs execution.values.records combination =
      buildCandidate setting runs' policy snapshot plan.runSpecs execution'.values.records
        combination := by
  have hlength : execution'.values.records.length = execution.values.records.length := by
    rw [h.length_eq, h'.length_eq]
  simp only [buildCandidate]
  by_cases hlt : combination.index * 3 + 1 < execution.values.records.length
  · obtain ⟨train, trainSpec, htrain, htrain', htrainSpec, hmem, -, hne⟩ :=
      hagree.record_eq h h' (i := combination.index * 3) (by omega) (by omega)
    obtain ⟨validation, spec, hvalidation, hvalidation', hspec, hmem', hpurpose, hne'⟩ :=
      hagree.record_eq h h' (i := combination.index * 3 + 1) hlt (by omega)
    have hselection : spec.purpose = .modelSelection := by
      rw [show (combination.index * 3 + 1) % 3 = 1 by omega] at hpurpose
      exact (Option.some.inj hpurpose).symm
    have htrainReference : verifiedSelectionReference setting runs train trainSpec snapshot
        "train" = verifiedSelectionReference setting runs' train trainSpec snapshot "train" :=
      verifiedSelectionReference_congr fun _ hid => hagree.artifacts hmem hne hid
    have hreference : verifiedSelectionReference setting runs validation spec snapshot
        "validation" = verifiedSelectionReference setting runs' validation spec snapshot
        "validation" :=
      verifiedSelectionReference_congr fun _ hid => hagree.artifacts hmem' hne' hid
    simp only [htrain, htrain', htrainSpec, hvalidation, hvalidation', hspec, hlength, orRaise,
      ok_bind, htrainReference, hreference]
    refine congrArg _ (funext fun _ => congrArg _ (funext fun trainResult => ?_))
    cases hresult : verifiedSelectionReference setting runs' validation spec snapshot
      "validation" with
    | error e => rfl
    | ok result =>
      have hscore : scoreOf setting runs policy trainResult result =
          scoreOf setting runs' policy trainResult result := by
        refine scoreOf_congr fun reference hok => ?_
        rw [hok] at hresult
        exact hagree.metrics hmem' hselection (runId_of_verified hresult)
      rw [ok_bind, ok_bind, hscore]
  · have hrefused : ∀ n : ℕ, n = execution.values.records.length →
        require (combination.index * 3 + 1 < n) (executionError "candidate records are absent") =
          .error (executionError "candidate records are absent") := by
      intro n hn
      unfold require
      rw [if_neg (hn ▸ hlt)]
    rw [hrefused _ rfl, hrefused _ hlength]
    rfl

/-- **The selection does not see TEST.** Two valid executions of a fold that agree on the records
and the artifacts of TRAIN and VALIDATION, and on the selected metric on VALIDATION, have the same
evidence and the same decision, or are refused for the same reason. -/
theorem selection_blind (setting : SelectionSetting Digest) (runs runs' : PublishedRuns Digest)
    (fold : WalkForwardFoldPlan Digest) (policy : WalkForwardSelectionPolicy)
    (snapshot : DatasetSnapshot Digest)
    (execution execution' : ExperimentExecutionManifest Digest)
    (hvalid : setting.validateExecution fold.experimentPlan snapshot execution = .ok ())
    (hvalid' : setting.validateExecution fold.experimentPlan snapshot execution' = .ok ())
    (hagree : AgreeBeforeTest setting policy.metric fold.experimentPlan snapshot runs runs'
      execution execution') :
    buildFoldSelectionEvidence setting runs fold execution policy snapshot =
        buildFoldSelectionEvidence setting runs' fold execution' policy snapshot ∧
      (buildFoldSelectionEvidence setting runs fold execution policy snapshot >>= select setting) =
        (buildFoldSelectionEvidence setting runs' fold execution' policy snapshot >>=
          select setting) := by
  have h := executionOf_of_valid hvalid
  have h' := executionOf_of_valid hvalid'
  have hcandidates := mapM_congr_of_mem (l := fold.experimentPlan.combinations)
    fun combination _ => hagree.buildCandidate_eq h h' combination
  have heq : buildFoldSelectionEvidence setting runs fold execution policy snapshot =
      buildFoldSelectionEvidence setting runs' fold execution' policy snapshot := by
    unfold buildFoldSelectionEvidence
    rw [hvalid, hvalid', hcandidates]
  exact ⟨heq, by rw [heq]⟩

end

/-! ### An executed week -/

/-- The digests of a week, and the runs by the instants they end at. -/
def weekSetting : SelectionSetting ℕ where
  planning := indexDigests
  execution := ⟨fun n => String.ofList (Decimal.digits n), fun _ => 0, fun runSpecId _ => runSpecId,
    fun _ => 0, fun _ _ => 0⟩
  evidenceChecksum := fun _ => 0
  evidenceId := fun _ => 0
  decisionChecksum := fun _ => 0
  decisionId := fun _ => 0
  buildRunId := fun config _ => .ok config.dataRange.stop.toNat
  readDecimal := fun raw => (Decimal.ofText raw.toList).map some

/-- The published runs of a week, with a total return that is not selected by. -/
def weekRuns (totalReturn : String) : PublishedRuns ℕ where
  relativeRunPath := fun runId => .ok ("runs/" ++ String.ofList (Decimal.digits runId))
  verify := fun runId => .ok (runId, 0)
  loadMetrics := fun _ =>
    .ok (some [("total_return", .text totalReturn), ("sharpe_ratio", .text "1.5")])

/-- The record of a run that is completed, or that has failed on TEST. -/
def weekRecord (failure : String) (spec : PlannedRunSpec ℕ) : PlannedRunExecution ℕ where
  values :=
    let isTest := decide (spec.purpose = .finalHoldout)
    let runId := spec.backtestConfig.dataRange.stop.toNat
    { runSpecId := spec.runSpecId
      experimentId := spec.experimentId
      globalIndex := spec.globalIndex
      combinationIndex := spec.combination.index
      combinationId := spec.combination.combinationId
      segmentIndex := spec.segment.values.index
      segmentId := spec.segment.segmentId
      purpose := spec.purpose
      status := if isTest then .failed else .completed
      runId := if isTest then none else some runId
      logicalResultChecksum := if isTest then none else some 0
      artifactPath :=
        if isTest then none else some ("runs/" ++ String.ofList (Decimal.digits runId))
      error := if isTest then some ⟨"failed", failure⟩ else none
      reused := false
      verified := !isTest }
  checksum := 0
  executionRecordId := spec.runSpecId

/-- An execution of a plan of one combination. -/
def weekExecution (failure : String) (plan : ExperimentPlan ℕ) : ExperimentExecutionManifest ℕ where
  values :=
    { experimentId := plan.experimentId
      planChecksum := plan.checksum
      totalCount := 3
      completedCount := 2
      reusedCount := 0
      failedCount := 1
      status := .partiallyFailed
      records := plan.runSpecs.map (weekRecord failure) }
  checksum := 0
  experimentExecutionId := 0

/-- A fold of the week is executed, with two executions that fail on TEST for different reasons, and
has an eligible candidate. -/
def weekIsExecuted (fold : WalkForwardFoldPlan ℕ) : Bool :=
  (weekSetting.validateExecution fold.experimentPlan weekSnapshot
      (weekExecution "no candles" fold.experimentPlan)).isOk &&
    (weekSetting.validateExecution fold.experimentPlan weekSnapshot
      (weekExecution "no orders" fold.experimentPlan)).isOk &&
    (buildFoldSelectionEvidence weekSetting (weekRuns "1") fold
      (weekExecution "no candles" fold.experimentPlan) weekRequest.selectionPolicy
      weekSnapshot).toOption.any fun evidence => decide (evidence.values.eligible ≠ [])

theorem week_isExecuted : ((createWalkForward indexDigests sampleService weekSnapshot weekManifest
    weekRequest).toOption.bind fun plan => plan.values.folds.head?.map weekIsExecuted) =
      some true := by
  decide +kernel

/-- What is returned is what there is when errors are forgotten. -/
theorem toOption_eq_some {ε α : Type} {x : Except ε α} {a : α} :
    x.toOption = some a ↔ x = .ok a := by
  cases x with
  | error e => exact iff_of_false (fun h => by cases h) fun h => by cases h
  | ok b => exact ⟨fun h => congrArg Except.ok (Option.some.inj h), fun h => by rw [h]; rfl⟩

/-- The first fold of the week is executed. -/
theorem exists_executedFold : ∃ fold : WalkForwardFoldPlan ℕ,
    weekSetting.validateExecution fold.experimentPlan weekSnapshot
        (weekExecution "no candles" fold.experimentPlan) = .ok () ∧
      weekSetting.validateExecution fold.experimentPlan weekSnapshot
        (weekExecution "no orders" fold.experimentPlan) = .ok () ∧
      ∃ evidence, buildFoldSelectionEvidence weekSetting (weekRuns "1") fold
        (weekExecution "no candles" fold.experimentPlan) weekRequest.selectionPolicy
        weekSnapshot = .ok evidence ∧ evidence.values.eligible ≠ [] := by
  obtain ⟨plan, -, hplan⟩ := Option.bind_eq_some_iff.mp week_isExecuted
  obtain ⟨fold, -, hfold⟩ := Option.map_eq_some_iff.mp hplan
  simp only [weekIsExecuted, Bool.and_eq_true, isOk_iff, Option.any_eq_true, toOption_eq_some,
    decide_eq_true_eq] at hfold
  obtain ⟨⟨⟨u, hfirst⟩, u', hsecond⟩, hevidence⟩ := hfold
  exact ⟨fold, hfirst, hsecond, hevidence⟩

/-- The executions agree on TRAIN and VALIDATION. -/
theorem agreeBeforeTest_week (plan : ExperimentPlan ℕ) :
    AgreeBeforeTest weekSetting .sharpeRatio plan weekSnapshot (weekRuns "1") (weekRuns "2")
      (weekExecution "no candles" plan) (weekExecution "no orders" plan) := by
  refine ⟨fun {i record record'} hrecord hrecord' hpurpose => ?_, fun _ _ _ => ⟨rfl, rfl⟩,
    fun _ _ _ => rfl⟩
  simp only [weekExecution, List.getElem?_map, Option.map_eq_some_iff] at hrecord hrecord'
  obtain ⟨spec, hspec, rfl⟩ := hrecord
  obtain ⟨spec', hspec', rfl⟩ := hrecord'
  obtain rfl : spec = spec' := Option.some.inj (hspec.symm.trans hspec')
  have hne : spec.purpose ≠ .finalHoldout := hpurpose
  simp only [weekRecord, hne, decide_false, Bool.false_eq_true, if_false]

/-- The evidence of the week does not see them. -/
theorem selection_blind_week : ∃ fold : WalkForwardFoldPlan ℕ,
    buildFoldSelectionEvidence weekSetting (weekRuns "1") fold
        (weekExecution "no candles" fold.experimentPlan) weekRequest.selectionPolicy weekSnapshot =
      buildFoldSelectionEvidence weekSetting (weekRuns "2") fold
        (weekExecution "no orders" fold.experimentPlan) weekRequest.selectionPolicy
        weekSnapshot := by
  obtain ⟨fold, hfirst, hsecond, -⟩ := exists_executedFold
  exact ⟨fold, (selection_blind weekSetting (weekRuns "1") (weekRuns "2") fold
    weekRequest.selectionPolicy weekSnapshot _ _ hfirst hsecond
    (agreeBeforeTest_week fold.experimentPlan)).1⟩

end Optimization
end DryTrade
