import DryTrade.Optimization.FoldExecution

/-!
# An execution is reproduced from its evidence

The manifest that is assembled fold by fold passes the check that does all of it again, however the
folds end: an experiment that cannot be executed, an execution that is invalid, evidence that cannot
be built, no eligible candidate, a holdout that fails, or a completed fold.  So the execution of a
valid plan is never lost at its end because of the way one of its folds has failed.

## Main definitions

* `Replayed` — the result of a fold is valid, and it is found again from the execution.
* `Outcome` — a valid result, with the execution that it is found again from.

## Main results

* `safeFailure_valid` — every exception is a valid failure.
* `selectionStatus_of_build` — evidence that cannot be built is a failed selection.
* `executeSelection_replays` — the result of a fold is reproduced.
* `executeFolds_replays` — the manifest is assembled, and passes its check.
-/

namespace DryTrade
namespace Optimization

open MarketData Snapshots Backtesting Strategies

/-! ### Failures -/

theorem shortened_ne {message : String} (h : message ≠ "") : shortened message ≠ "" := by
  intro hempty
  have hlength : (shortened message).length = min maxWalkForwardErrorMessage message.length := by
    unfold shortened
    rw [String.length_ofList, List.length_take, String.length_toList]
  have hzero : (shortened message).length = 0 := by
    rw [hempty]
    rfl
  have hpos : message.length ≠ 0 := fun hlen => h (String.length_eq_zero_iff.mp hlen)
  unfold maxWalkForwardErrorMessage at hlength
  omega

theorem length_shortened_le (message : String) :
    (shortened message).length ≤ maxWalkForwardErrorMessage := by
  unfold shortened
  rw [String.length_ofList]
  exact List.length_take_le _ _

theorem code_valid (kind : ExecutionErrorKind) : kind.code ≠ "" ∧ kind.code.length ≤ 128 := by
  cases kind <;> decide

theorem defaultMessage_ne (kind : ExecutionErrorKind) : kind.defaultMessage ≠ "" := by
  cases kind <;> decide

/-- **Every exception is a valid failure.** -/
theorem safeFailure_valid (e : RaisedError) :
    validateWalkForwardFailure (safeFailure e) = .ok () := by
  simp only [validateWalkForwardFailure, bind_eq_ok, require_eq_ok, exists_const]
  cases e with
  | execution kind message =>
    have hne : (if message = "" then kind.defaultMessage else message) ≠ "" := by
      by_cases hempty : message = ""
      · rw [if_pos hempty]
        exact defaultMessage_ne kind
      · rw [if_neg hempty]
        exact hempty
    exact ⟨code_valid kind, shortened_ne hne, length_shortened_le _⟩
  | domain error =>
    exact ⟨error.code_valid, shortened_ne error.message_ne, length_shortened_le _⟩
  | other => decide

/-! ### Exceptions of the selection -/

/-- `NoEligibleWalkForwardCandidateError`. -/
def IsNoEligible (e : RaisedError) : Prop := selectionStatus e = .failedNoEligibleCandidate

theorem selectionStatus_of_not {e : RaisedError} (h : ¬ IsNoEligible e) :
    selectionStatus e = .failedSelection := by
  unfold IsNoEligible at h
  unfold selectionStatus at h ⊢
  split at h
  · exact absurd rfl h
  · rfl

theorem avoids_require_prop {bad : RaisedError → Prop} {condition : Prop} [Decidable condition]
    {error : RaisedError} (h : ¬ bad error) : Avoids bad (require condition error) := by
  unfold require
  split
  · exact avoids_ok
  · exact avoids_error.mpr h

theorem avoids_orRaise {α : Type} {bad : RaisedError → Prop} {value : Option α}
    {error : RaisedError} (h : ¬ bad error) : Avoids bad (orRaise value error) := by
  cases value with
  | none => exact avoids_error.mpr h
  | some a => exact avoids_ok

/-- A loop avoids what every turn of it does. -/
theorem avoids_forM {α : Type} {bad : RaisedError → Prop} {f : α → Except RaisedError Unit}
    {l : List α} (h : ∀ a ∈ l, Avoids bad (f a)) : Avoids bad (l.forM f) := by
  induction l with
  | nil => exact avoids_ok
  | cons a l ih =>
    change Avoids bad (f a >>= fun _ => l.forM f)
    rw [avoids_bind]
    exact ⟨h a List.mem_cons_self, fun _ _ => ih fun b hb => h b (List.mem_cons_of_mem a hb)⟩

/-- A map avoids what it does at every element. -/
theorem avoids_mapM {α β : Type} {bad : RaisedError → Prop} {f : α → Except RaisedError β}
    {l : List α} (h : ∀ a ∈ l, Avoids bad (f a)) : Avoids bad (l.mapM f) := by
  induction l with
  | nil => exact avoids_ok
  | cons a l ih =>
    rw [List.mapM_cons]
    simp only [avoids_bind]
    exact ⟨h a List.mem_cons_self, fun _ _ =>
      ⟨ih fun b hb => h b (List.mem_cons_of_mem a hb), fun _ _ => avoids_pure⟩⟩

theorem not_isNoEligible {kind : ExecutionErrorKind} {message : String}
    (h : kind ≠ .noEligibleWalkForwardCandidate) : ¬ IsNoEligible (.execution kind message) := by
  intro hstatus
  cases kind <;> first | exact h rfl | cases hstatus

theorem not_isNoEligible_other : ¬ IsNoEligible .other := by
  intro h
  cases h

section

variable {Digest : Type} [DecidableEq Digest] {setting : SelectionSetting Digest}

theorem avoids_validateParameters {parameters : StrategyParameters} :
    Avoids IsNoEligible (validateParameters parameters) := by
  simp only [validateParameters, avoids_bind]
  refine ⟨avoids_forM fun q _ => ?_, fun _ _ => avoids_require_prop (not_isNoEligible (by decide))⟩
  rw [avoids_bind]
  refine ⟨avoids_require_prop (not_isNoEligible (by decide)), fun _ _ => ?_⟩
  unfold candidateValue
  split
  · exact avoids_ok
  · exact avoids_require_prop (not_isNoEligible (by decide))
  · exact avoids_require_prop (not_isNoEligible (by decide))
  · exact avoids_require_prop (not_isNoEligible (by decide))
  · exact avoids_error.mpr (not_isNoEligible (by decide))

theorem avoids_validateSelectionReference {reference : SelectionExecutionReference Digest} :
    Avoids IsNoEligible (validateSelectionReference setting reference) :=
  avoids_require_prop (not_isNoEligible (by decide))

theorem avoids_boundedInt {n minimum maximum : ℕ} {label : String} :
    Avoids IsNoEligible (boundedInt n label minimum maximum) :=
  avoids_require_prop (not_isNoEligible (by decide))

theorem avoids_finiteScore {score : Decimal} {label : String} :
    Avoids IsNoEligible (finiteScore score label) := by
  unfold finiteScore
  rw [Decimal.boundedText_eq]
  split
  · exact avoids_ok
  · exact avoids_error.mpr (not_isNoEligible (by decide))

/-- No check of a candidate raises that there is none. -/
theorem avoids_validateSelectionCandidate {c : SelectionCandidateEvidence Digest} :
    Avoids IsNoEligible (validateSelectionCandidate setting c) := by
  have hrefuse : ∀ (condition : Prop) [Decidable condition] (message : String),
      Avoids IsNoEligible (require condition (candidateError message)) :=
    fun _ _ _ => avoids_require_prop (not_isNoEligible (by decide))
  have hpresent : ∀ {α : Type} (value : Option α) (message : String),
      Avoids IsNoEligible (orRaise value (candidateError message)) :=
    fun _ _ => avoids_orRaise (not_isNoEligible (by decide))
  simp only [validateSelectionCandidate, avoids_bind]
  refine ⟨avoids_boundedInt, fun _ _ => ⟨avoids_validateParameters, fun _ _ => ?_⟩⟩
  split
  · simp only [validateEligible, avoids_bind]
    exact ⟨hrefuse _ _, fun _ _ => ⟨hpresent _ _, fun _ _ => ⟨hpresent _ _, fun _ _ =>
      ⟨avoids_validateSelectionReference, fun _ _ => ⟨avoids_validateSelectionReference, fun _ _ =>
        ⟨hrefuse _ _, fun _ _ => ⟨avoids_orRaise (not_isNoEligible (by decide)), fun _ _ =>
          avoids_finiteScore⟩⟩⟩⟩⟩⟩⟩
  · simp only [validateRejected, avoids_bind]
    exact ⟨hpresent _ _, fun _ _ => ⟨hrefuse _ _, fun _ _ =>
      ⟨avoids_forM fun _ _ => avoids_validateSelectionReference, fun _ _ =>
        ⟨avoids_forM fun _ _ => avoids_validateSelectionReference, fun _ _ => hrefuse _ _⟩⟩⟩⟩

/-- No check of the evidence raises that there is no candidate. -/
theorem avoids_validateFoldSelectionEvidence {evidence : FoldSelectionEvidence Digest} :
    Avoids IsNoEligible (validateFoldSelectionEvidence setting evidence) := by
  have hrefuse : ∀ (condition : Prop) [Decidable condition] (message : String),
      Avoids IsNoEligible (require condition (selectionError message)) :=
    fun _ _ _ => avoids_require_prop (not_isNoEligible (by decide))
  simp only [validateFoldSelectionEvidence, avoids_bind]
  exact ⟨avoids_boundedInt, fun _ _ => ⟨hrefuse _ _, fun _ _ =>
    ⟨avoids_forM fun _ _ => avoids_validateSelectionCandidate, fun _ _ => ⟨hrefuse _ _, fun _ _ =>
      ⟨hrefuse _ _, fun _ _ => ⟨hrefuse _ _, fun _ _ => ⟨hrefuse _ _, fun _ _ =>
        ⟨avoids_require_prop (not_isNoEligible (by decide)), fun _ _ =>
          avoids_require_prop (not_isNoEligible (by decide))⟩⟩⟩⟩⟩⟩⟩⟩

variable {runs : PublishedRuns Digest} {policy : WalkForwardSelectionPolicy}
  {snapshot : DatasetSnapshot Digest} {fold : WalkForwardFoldPlan Digest}
  {execution : ExperimentExecutionManifest Digest}

/-- Of a run that is not successful nothing is read; that of a successful one has a name. -/
theorem avoids_verifiedSelectionReference {record : PlannedRunExecution Digest}
    {spec : PlannedRunSpec Digest} {label : String}
    (h : record.values.status.isSuccessful = true →
      ∃ runId, setting.buildRunId spec.backtestConfig snapshot = .ok runId) :
    Avoids IsNoEligible
      (verifiedSelectionReference setting runs record spec snapshot label) := by
  simp only [verifiedSelectionReference]
  split
  · exact avoids_ok
  · rename_i hstatus
    have hsuccess : record.values.status.isSuccessful = true := by
      by_contra hfalse
      exact hstatus (Or.inl (Bool.eq_false_of_not_eq_true hfalse))
    obtain ⟨runId, hid⟩ := h hsuccess
    split
    · rw [hid, ok_bind]
      split
      · exact avoids_ok
      · split
        · exact avoids_ok
        · rw [avoids_bind]
          exact ⟨avoids_validateSelectionReference, fun _ _ => avoids_ok⟩
    · exact avoids_ok

/-- **Evidence that cannot be built is a failed selection.** -/
theorem selectionStatus_of_build {e : RaisedError}
    (hvalid : setting.validateExecution fold.experimentPlan snapshot execution = .ok ())
    (h : buildFoldSelectionEvidence setting runs fold execution policy snapshot = .error e) :
    selectionStatus e = .failedSelection := by
  have hexecution := executionOf_of_valid hvalid
  have hcandidate : ∀ combination, Avoids IsNoEligible (buildCandidate setting runs policy snapshot
      fold.experimentPlan.runSpecs execution.values.records combination) := by
    intro combination
    have hother : ∀ {α : Type} (value : Option α), Avoids IsNoEligible
        (orRaise value RaisedError.other) :=
      fun _ => avoids_orRaise not_isNoEligible_other
    have hreference : ∀ {i : ℕ} {record : PlannedRunExecution Digest}
        {spec : PlannedRunSpec Digest} {label : String},
        execution.values.records[i]? = some record → fold.experimentPlan.runSpecs[i]? = some spec →
        Avoids IsNoEligible
          (verifiedSelectionReference setting runs record spec snapshot label) := by
      intro i record spec label hrecord hspec
      refine avoids_verifiedSelectionReference fun hstatus => ?_
      obtain ⟨runId, hid, -⟩ := (hexecution.record_valid hrecord hspec).2 hstatus
      exact ⟨runId, hid⟩
    simp only [buildCandidate, avoids_bind]
    refine ⟨avoids_require_prop (not_isNoEligible (by decide)), fun _ _ => ⟨hother _,
      fun train htrain => ⟨hother _, fun validation hvalidation => ⟨hother _,
        fun trainSpec htrainSpec => ⟨hother _, fun spec hspec => ⟨hreference
          (orRaise_eq_ok.mp htrain) (orRaise_eq_ok.mp htrainSpec), fun _ _ => ⟨hreference
          (orRaise_eq_ok.mp hvalidation) (orRaise_eq_ok.mp hspec), fun _ _ =>
            ⟨avoids_validateSelectionCandidate, fun _ _ => avoids_pure⟩⟩⟩⟩⟩⟩⟩⟩
  have havoids : Avoids IsNoEligible
      (buildFoldSelectionEvidence setting runs fold execution policy snapshot) := by
    simp only [buildFoldSelectionEvidence, avoids_bind]
    refine ⟨?_, fun _ _ => ⟨avoids_mapM fun combination _ => hcandidate combination, fun _ _ =>
      ⟨avoids_validateFoldSelectionEvidence, fun _ _ => avoids_pure⟩⟩⟩
    rw [hvalid]
    exact avoids_ok
  exact selectionStatus_of_not (havoids e h)

variable {digests : ResultDigests Digest} {combinationCount : ℕ}
  {evidence : FoldSelectionEvidence Digest} {decision : FoldSelectionDecision Digest}

/-! ### Results of folds -/

/-- What is said of the evidence and of the decision of a result. -/
structure SelectionOf (setting : SelectionSetting Digest) (r : FoldResultValues Digest) : Prop where
  evidence_valid : ∀ evidence, r.selectionEvidence = some evidence →
    validateFoldSelectionEvidence setting evidence = .ok () ∧ evidence.values.foldId = r.foldId ∧
      evidence.values.foldIndex = r.foldIndex ∧ evidence.values.experimentId = r.experimentId
  decision_valid : ∀ decision, r.selection = some decision → ∃ evidence,
    r.selectionEvidence = some evidence ∧
      validateSelectionDecisionAgainstEvidence setting decision evidence = .ok ()

/-- What a decision that passes its check shares with its evidence. -/
theorem decision_of_valid
    (h : validateSelectionDecisionAgainstEvidence setting decision evidence = .ok ()) :
    validateSelectionDecision setting decision = .ok () ∧
      decision.values.foldId = evidence.values.foldId ∧
      decision.values.foldIndex = evidence.values.foldIndex ∧
      decision.values.eligibleCount = evidence.values.eligibleCount ∧
      decision.values.rejectedCount = evidence.values.rejectedCount := by
  simp only [validateSelectionDecisionAgainstEvidence, bind_eq_ok, require_eq_ok,
    exists_const] at h
  obtain ⟨u, hdecision, u', -, ⟨hid, hindex, -⟩, -, winner, -, compact, -, -, hwinner⟩ := h
  exact ⟨hdecision, hid, hindex, hwinner.2.2.2.2.2.1, hwinner.2.2.2.2.2.2.1⟩

/-- Such a result passes the checks of its selection. -/
theorem SelectionOf.validate {r : FoldResultValues Digest} (h : SelectionOf setting r) :
    validateResultSelection setting r = .ok () := by
  simp only [validateResultSelection, bind_eq_ok, forM_eq_ok, require_eq_ok, exists_const,
    Option.mem_toList, orRaise_eq_ok]
  refine ⟨fun decision hdecision => ?_, fun evidence hevidence => ?_,
    fun decision hdecision => ?_⟩
  · obtain ⟨evidence, hevidence, hagainst⟩ := h.decision_valid decision hdecision
    obtain ⟨-, hid, hindex, -⟩ := h.evidence_valid evidence hevidence
    obtain ⟨hdecision, hid', hindex', -⟩ := decision_of_valid hagainst
    exact ⟨(), hdecision, hid'.trans hid, hindex'.trans hindex⟩
  · obtain ⟨hvalid, hid⟩ := h.evidence_valid evidence hevidence
    exact ⟨(), hvalid, hid⟩
  · exact h.decision_valid decision hdecision

/-- A result whose parts are valid, is valid. -/
theorem SelectionOf.valid {r : FoldResultValues Digest} (h : SelectionOf setting r)
    (hindex : r.foldIndex ≤ absoluteMaxFolds - 1)
    (hreference : r.experimentExecutionId.isNone = r.experimentExecutionChecksum.isNone)
    (hholdout : ∀ holdout, r.holdout = some holdout →
      validateHoldoutResult setting holdout = .ok ())
    (hfailure : ∀ failure, r.failure = some failure → validateWalkForwardFailure failure = .ok ())
    (hexecuted : r.status = .failedExecution ∨ r.experimentExecutionId.isSome = true)
    (hstatus : validateResultStatus r = .ok ()) :
    validateWalkForwardFoldResult setting digests ⟨r, digests.foldResultChecksum r⟩ = .ok () := by
  simp only [validateWalkForwardFoldResult, boundedInt, bind_eq_ok, forM_eq_ok, require_eq_ok,
    exists_const, Option.mem_toList]
  exact ⟨⟨Nat.zero_le _, hindex⟩, hreference, (), h.validate, hholdout, hfailure, hexecuted, (),
    hstatus, trivial⟩

/-- A valid result is sealed. -/
theorem sealResult_eq {r : FoldResultValues Digest}
    (h : validateWalkForwardFoldResult setting digests ⟨r, digests.foldResultChecksum r⟩ =
      .ok ()) :
    sealResult setting digests r = .ok ⟨r, digests.foldResultChecksum r⟩ := by
  simp only [sealResult, bind_eq_ok]
  exact ⟨(), h, rfl⟩

/-- What a valid plan says of a fold. -/
structure PlannedFold (fold : WalkForwardFoldPlan Digest) (combinationCount : ℕ) : Prop where
  foldIndex_le : fold.foldIndex ≤ absoluteMaxFolds - 1
  length_eq : fold.experimentPlan.combinations.length = combinationCount

/-- The result of an executed fold is valid, and it is found again from the execution. -/
structure Replayed (setting : SelectionSetting Digest) (digests : ResultDigests Digest)
    (runs : PublishedRuns Digest) (policy : WalkForwardSelectionPolicy) (combinationCount : ℕ)
    (snapshot : DatasetSnapshot Digest) (fold : WalkForwardFoldPlan Digest)
    (execution : ExperimentExecutionManifest Digest) (r : FoldResultValues Digest) : Prop where
  foldId_eq : r.foldId = fold.foldId
  foldIndex_eq : r.foldIndex = fold.foldIndex
  experimentId_eq : r.experimentId = fold.experimentPlan.experimentId
  executionId_eq : r.experimentExecutionId = some execution.experimentExecutionId
  checksum_eq : r.experimentExecutionChecksum = some execution.checksum
  valid : validateWalkForwardFoldResult setting digests ⟨r, digests.foldResultChecksum r⟩ = .ok ()
  replays : replaySelection setting runs policy combinationCount snapshot fold execution r = .ok ()

/-- The result of a fold that has failed is valid when its selection and its status are. -/
theorem failedValues_valid (hfold : PlannedFold fold combinationCount)
    {status : WalkForwardFoldStatus} {e : RaisedError}
    {execution : Option (ExperimentExecutionManifest Digest)}
    {evidence : Option (FoldSelectionEvidence Digest)}
    {selection : Option (FoldSelectionDecision Digest)}
    (hselection : SelectionOf setting (failedValues fold status e execution evidence selection))
    (hexecuted : status = .failedExecution ∨ execution.isSome = true)
    (hstatus : validateResultStatus (failedValues fold status e execution evidence selection) =
      .ok ()) :
    validateWalkForwardFoldResult setting digests
      ⟨failedValues fold status e execution evidence selection,
        digests.foldResultChecksum (failedValues fold status e execution evidence selection)⟩ =
      .ok () := by
  refine hselection.valid hfold.foldIndex_le ?_ (fun _ hholdout => ?_) (fun failure hfailure => ?_)
    ?_ hstatus
  · cases execution <;> rfl
  · cases hholdout
  · rw [← Option.some.inj hfailure]
    exact safeFailure_valid e
  · rcases hexecuted with hstatus | hsome
    · exact Or.inl hstatus
    · cases execution with
      | none => cases hsome
      | some execution => exact Or.inr rfl

/-- Nothing is said of the selection of a result without one. -/
theorem selectionOf_none {r : FoldResultValues Digest} (hevidence : r.selectionEvidence = none)
    (hselection : r.selection = none) : SelectionOf setting r := by
  refine ⟨fun _ hsome => ?_, fun _ hsome => ?_⟩
  · rw [hevidence] at hsome
    cases hsome
  · rw [hselection] at hsome
    cases hsome

/-- Evidence that cannot be built cannot be built again. -/
theorem replayed_of_build_error (hfold : PlannedFold fold combinationCount)
    (hvalid : setting.validateExecution fold.experimentPlan snapshot execution = .ok ())
    {e : RaisedError}
    (h : buildFoldSelectionEvidence setting runs fold execution policy snapshot = .error e) :
    ∃ r, executeSelection setting digests runs policy snapshot fold execution =
        .ok ⟨r, digests.foldResultChecksum r⟩ ∧
      Replayed setting digests runs policy combinationCount snapshot fold execution r := by
  have hresult : validateWalkForwardFoldResult setting digests
      ⟨failedValues fold .failedSelection e (some execution) none none, _⟩ = .ok () :=
    failedValues_valid hfold (selectionOf_none rfl rfl) (Or.inr rfl)
      (by simp [validateResultStatus, failedValues])
  refine ⟨failedValues fold .failedSelection e (some execution) none none, ?_, rfl, rfl, rfl, rfl,
    rfl, hresult, ?_⟩
  · simp only [executeSelection, h, selectionStatus_of_build hvalid h]
    exact sealResult_eq hresult
  · simp [replaySelection, h, failedValues]

/-- The evidence of an execution belongs to its fold. -/
theorem selectionOf_evidence (h : EvidenceOf setting fold policy evidence)
    {r : FoldResultValues Digest} (hevidence : r.selectionEvidence = some evidence)
    (hfoldId : r.foldId = fold.foldId) (hfoldIndex : r.foldIndex = fold.foldIndex)
    (hexperimentId : r.experimentId = fold.experimentPlan.experimentId)
    (hselection : ∀ decision, r.selection = some decision →
      validateSelectionDecisionAgainstEvidence setting decision evidence = .ok ()) :
    SelectionOf setting r := by
  refine ⟨fun found hfound => ?_, fun decision hdecision => ?_⟩
  · obtain rfl : evidence = found := Option.some.inj (hevidence.symm.trans hfound)
    exact ⟨h.valid, h.foldId_eq.trans hfoldId.symm, h.foldIndex_eq.trans hfoldIndex.symm,
      h.experimentId_eq.trans hexperimentId.symm⟩
  · exact ⟨evidence, hevidence, hselection decision hdecision⟩

/-- So does its decision, when it passes its check. -/
theorem selectionOf_decision (h : EvidenceOf setting fold policy evidence)
    (hagainst : validateSelectionDecisionAgainstEvidence setting decision evidence = .ok ())
    {r : FoldResultValues Digest} (hevidence : r.selectionEvidence = some evidence)
    (hselection : r.selection = some decision) (hfoldId : r.foldId = fold.foldId)
    (hfoldIndex : r.foldIndex = fold.foldIndex)
    (hexperimentId : r.experimentId = fold.experimentPlan.experimentId) :
    SelectionOf setting r := by
  refine selectionOf_evidence h hevidence hfoldId hfoldIndex hexperimentId fun found hfound => ?_
  rw [← Option.some.inj (hselection.symm.trans hfound)]
  exact hagainst

theorem sameEvidence_refl : SameEvidence evidence evidence := by
  simp [SameEvidence]

theorem sameDecision_refl : SameDecision decision decision := by
  simp [SameDecision]

theorem sameHoldout_refl {holdout : SelectedHoldoutResult Digest} :
    SameHoldout holdout holdout := by
  simp [SameHoldout]

/-- Without an eligible candidate there is none when the evidence is built again. -/
theorem replayed_of_not_eligible (hfold : PlannedFold fold combinationCount)
    (h : buildFoldSelectionEvidence setting runs fold execution policy snapshot = .ok evidence)
    (hnil : evidence.values.eligible = []) :
    ∃ r, executeSelection setting digests runs policy snapshot fold execution =
        .ok ⟨r, digests.foldResultChecksum r⟩ ∧
      Replayed setting digests runs policy combinationCount snapshot fold execution r := by
  have hevidence := evidenceOf_of_build h
  have hzero : evidence.values.eligibleCount = 0 := by
    rw [hevidence.checked.eligibleCount_eq, hnil]
    rfl
  let e : RaisedError := .execution .noEligibleWalkForwardCandidate
    ExecutionErrorKind.noEligibleWalkForwardCandidate.defaultMessage
  have hselect : select setting evidence = .error e := hevidence.select_eq_error hnil
  let r := failedValues fold .failedNoEligibleCandidate e (some execution) (some evidence) none
  have hselection : SelectionOf setting r :=
    selectionOf_evidence hevidence rfl rfl rfl rfl fun _ hsome => by cases hsome
  have hresult : validateWalkForwardFoldResult setting digests ⟨r, _⟩ = .ok () :=
    failedValues_valid hfold hselection (Or.inr rfl)
      (by simp [validateResultStatus, failedValues, hzero])
  refine ⟨r, ?_, rfl, rfl, rfl, rfl, rfl, hresult, ?_⟩
  · simp only [executeSelection, h, hselect]
    exact sealResult_eq hresult
  · simp only [replaySelection, h, bind_eq_ok, orRaise_eq_ok, require_eq_ok, exists_const, hzero,
      if_true]
    exact ⟨evidence, rfl, sameEvidence_refl, rfl, rfl, rfl, rfl⟩

/-- A candidate is where its index says, and so is its combination. -/
theorem EvidenceOf.combination_eq (h : EvidenceOf setting fold policy evidence)
    {c : SelectionCandidateEvidence Digest} (hc : c ∈ evidence.values.candidates) :
    ∃ combination, fold.experimentPlan.combinations[c.combinationIndex]? = some combination ∧
      SpeaksOf combination c := by
  obtain ⟨i, hi⟩ := List.mem_iff_getElem?.mp hc
  obtain ⟨hlt, hget⟩ := List.getElem?_eq_some_iff.mp hi
  have hindex : c.combinationIndex = i := by
    have heq := congrArg (fun indexes => indexes[i]?) h.checked.indexes
    simpa [hlt, hget] using heq
  rw [hindex]
  exact exists_of_forall₂ h.combinations hi

/-- The candidates are as many as the combinations of the plan. -/
theorem EvidenceOf.counts_eq (h : EvidenceOf setting fold policy evidence)
    (hfold : PlannedFold fold combinationCount) :
    evidence.values.eligibleCount + evidence.values.rejectedCount = combinationCount := by
  have hle : evidence.values.eligible.length ≤ evidence.values.candidates.length :=
    List.length_filter_le _ _
  rw [h.checked.eligibleCount_eq, h.checked.rejectedCount_eq, ← hfold.length_eq,
    h.combinations.length_eq]
  omega

/-- A holdout that is built is valid. -/
theorem holdout_valid {holdout : SelectedHoldoutResult Digest}
    (h : buildVerifiedHoldout setting runs fold execution decision snapshot = .ok holdout) :
    validateHoldoutResult setting holdout = .ok () := by
  simp only [buildVerifiedHoldout, bind_eq_ok, pure, Except.pure, Except.ok.injEq] at h
  obtain ⟨spec, -, record, -, u₁, -, runId, -, checksum, -, path, -, expected, -, expectedPath, -,
    u₂, -, verification, -, u₃, -, loaded, -, metrics, -, values, -, u₄, hvalid, rfl⟩ := h
  exact hvalid

/-- The checks of a decision that is selected again. -/
theorem replayDecision_eq (hfold : PlannedFold fold combinationCount)
    (hevidence : EvidenceOf setting fold policy evidence)
    (hselect : select setting evidence = .ok decision)
    (hagainst : validateSelectionDecisionAgainstEvidence setting decision evidence = .ok ())
    {winner : SelectionCandidateEvidence Digest} {score : Decimal}
    (hdecides : Decides evidence decision winner score) {r : FoldResultValues Digest}
    (hselection : r.selection = some decision) (hstatus : r.status ≠ .failedSelection)
    (hholdout : (∃ e, buildVerifiedHoldout setting runs fold execution decision snapshot =
        .error e ∧ r.status = .failedHoldout ∧ r.holdout = none ∧
          r.failure = some (safeFailure e)) ∨
      ∃ holdout, buildVerifiedHoldout setting runs fold execution decision snapshot =
        .ok holdout ∧ r.status = .completed ∧ r.holdout = some holdout ∧ r.failure = none) :
    replayDecision setting runs combinationCount snapshot fold execution r evidence = .ok () := by
  obtain ⟨-, -, -, heligible, hrejected⟩ := decision_of_valid hagainst
  have hmem : winner ∈ evidence.values.candidates := (List.mem_filter.mp hdecides.best.1).1
  obtain ⟨combination, hcombination, hindex, hid, hparameters⟩ := hevidence.combination_eq hmem
  have hcount : decision.values.eligibleCount + decision.values.rejectedCount =
      combinationCount := by
    rw [heligible, hrejected]
    exact hevidence.counts_eq hfold
  simp only [replayDecision, hselect, bind_eq_ok, orRaise_eq_ok, require_eq_ok, exists_const]
  refine ⟨hstatus, decision, hselection, sameDecision_refl, combination, ?_,
    ⟨?_, ?_, ?_, hcount⟩, ?_⟩
  · rw [hdecides.index_eq]
    exact hcombination
  · rw [hdecides.index_eq]
    exact hindex.symm
  · rw [hdecides.id_eq]
    exact hid.symm
  · rw [hdecides.parameters_eq, hparameters]
  · rcases hholdout with ⟨e, hbuilt, hfailed, hnone, hfailure⟩ |
      ⟨holdout, hbuilt, hcompleted, hsome, hfailure⟩
    · simp [hbuilt, hfailed, hnone, hfailure]
    · simp only [hbuilt, bind_eq_ok, orRaise_eq_ok, require_eq_ok]
      exact ⟨holdout, hsome, hcompleted, sameHoldout_refl, hfailure⟩

/-- With an eligible candidate the same one is selected again, and its run on TEST fails or
succeeds again. -/
theorem replayed_of_eligible (hfold : PlannedFold fold combinationCount)
    (h : buildFoldSelectionEvidence setting runs fold execution policy snapshot = .ok evidence)
    (hne : evidence.values.eligible ≠ []) :
    ∃ r, executeSelection setting digests runs policy snapshot fold execution =
        .ok ⟨r, digests.foldResultChecksum r⟩ ∧
      Replayed setting digests runs policy combinationCount snapshot fold execution r := by
  have hevidence := evidenceOf_of_build h
  have hcount : evidence.values.eligibleCount ≠ 0 := by
    rw [hevidence.checked.eligibleCount_eq]
    exact fun hzero => hne (List.length_eq_zero_iff.mp hzero)
  -- both the execution and the check select this decision, and then depend on TEST alone
  obtain ⟨decision, winner, score, hselect, hagainst, hdecides⟩ := hevidence.select_eq hne
  have hreplay : ∀ r : FoldResultValues Digest, r.selectionEvidence = some evidence →
      replayDecision setting runs combinationCount snapshot fold execution r evidence = .ok () →
      replaySelection setting runs policy combinationCount snapshot fold execution r = .ok () := by
    intro r hstored hdecision
    simp only [replaySelection, h, bind_eq_ok, orRaise_eq_ok, require_eq_ok, exists_const,
      if_neg hcount]
    exact ⟨evidence, hstored, sameEvidence_refl, hdecision⟩
  cases hholdout : buildVerifiedHoldout setting runs fold execution decision snapshot with
  | error e =>
    let r := failedValues fold .failedHoldout e (some execution) (some evidence) (some decision)
    have hselection : SelectionOf setting r :=
      selectionOf_decision hevidence hagainst rfl rfl rfl rfl rfl
    have hresult : validateWalkForwardFoldResult setting digests ⟨r, _⟩ = .ok () :=
      failedValues_valid hfold hselection (Or.inr rfl)
        (by simp [validateResultStatus, failedValues])
    refine ⟨r, ?_, rfl, rfl, rfl, rfl, rfl, hresult, hreplay r rfl ?_⟩
    · simp only [executeSelection, h, hselect, hholdout]
      exact sealResult_eq hresult
    · exact replayDecision_eq hfold hevidence hselect hagainst hdecides rfl
        (by simp [r, failedValues]) (Or.inl ⟨e, hholdout, rfl, rfl, rfl⟩)
  | ok holdout =>
    let r := completedValues fold execution evidence decision holdout
    have hselection : SelectionOf setting r :=
      selectionOf_decision hevidence hagainst rfl rfl rfl rfl rfl
    have hresult : validateWalkForwardFoldResult setting digests
        ⟨r, digests.foldResultChecksum r⟩ = .ok () := by
      refine hselection.valid hfold.foldIndex_le rfl (fun found hfound => ?_)
        (fun _ hsome => by cases hsome) (Or.inr rfl)
        (by simp [validateResultStatus, r, completedValues])
      rw [← Option.some.inj hfound]
      exact holdout_valid hholdout
    refine ⟨r, ?_, rfl, rfl, rfl, rfl, rfl, hresult, hreplay r rfl ?_⟩
    · simp only [executeSelection, h, hselect, hholdout]
      exact sealResult_eq hresult
    · exact replayDecision_eq hfold hevidence hselect hagainst hdecides rfl
        (by simp [r, completedValues]) (Or.inr ⟨holdout, hholdout, rfl, rfl, rfl⟩)

/-- **The result of an executed fold is found again**, however the fold ends. -/
theorem executeSelection_replays (hfold : PlannedFold fold combinationCount)
    (hvalid : setting.validateExecution fold.experimentPlan snapshot execution = .ok ()) :
    ∃ r, executeSelection setting digests runs policy snapshot fold execution =
        .ok ⟨r, digests.foldResultChecksum r⟩ ∧
      Replayed setting digests runs policy combinationCount snapshot fold execution r := by
  cases hbuild : buildFoldSelectionEvidence setting runs fold execution policy snapshot with
  | error e => exact replayed_of_build_error hfold hvalid hbuild
  | ok evidence =>
    by_cases hnil : evidence.values.eligible = []
    · exact replayed_of_not_eligible hfold hbuild hnil
    · exact replayed_of_eligible hfold hbuild hnil

/-- The outcome of a fold: a valid result that refers to no execution, or to one from which it is
found again. -/
structure Outcome (setting : SelectionSetting Digest) (digests : ResultDigests Digest)
    (runs : PublishedRuns Digest) (policy : WalkForwardSelectionPolicy) (combinationCount : ℕ)
    (snapshot : DatasetSnapshot Digest) (fold : WalkForwardFoldPlan Digest)
    (outcome : WalkForwardFoldResult Digest × Option (ExperimentExecutionManifest Digest)) :
    Prop where
  foldId_eq : outcome.1.values.foldId = fold.foldId
  foldIndex_eq : outcome.1.values.foldIndex = fold.foldIndex
  experimentId_eq : outcome.1.values.experimentId = fold.experimentPlan.experimentId
  valid : validateWalkForwardFoldResult setting digests outcome.1 = .ok ()
  executed : (outcome.1.values.experimentExecutionId = none ∧
      outcome.1.values.status = .failedExecution ∧ outcome.2 = none) ∨
    ∃ execution, outcome.2 = some execution ∧
      setting.validateExecution fold.experimentPlan snapshot execution = .ok () ∧
      Replayed setting digests runs policy combinationCount snapshot fold execution outcome.1.values

/-- Every fold has an outcome. -/
theorem executeFold_outcome (hfold : PlannedFold fold combinationCount)
    {execute : WalkForwardFoldPlan Digest → Except RaisedError
      (ExperimentExecutionManifest Digest)} :
    ∃ outcome, executeFold setting digests runs execute policy snapshot fold = .ok outcome ∧
      Outcome setting digests runs policy combinationCount snapshot fold outcome := by
  have hfailed : ∀ e : RaisedError, ∃ outcome,
      (do
        let result ← failedFold setting digests fold .failedExecution e none none none
        return (result, none)) = Except.ok outcome ∧
      Outcome setting digests runs policy combinationCount snapshot fold outcome := by
    intro e
    let r := failedValues fold .failedExecution e none none none
    have hresult : validateWalkForwardFoldResult setting digests
        ⟨r, digests.foldResultChecksum r⟩ = .ok () :=
      failedValues_valid hfold (selectionOf_none rfl rfl) (Or.inl rfl)
        (by simp [validateResultStatus, failedValues])
    refine ⟨(⟨r, digests.foldResultChecksum r⟩, none), ?_, rfl, rfl, rfl, hresult,
      Or.inl ⟨rfl, rfl, rfl⟩⟩
    rw [failedFold, sealResult_eq hresult]
    rfl
  unfold executeFold
  cases hexecute : execute fold with
  | error e => exact hfailed e
  | ok execution =>
    cases hvalid : setting.validateExecution fold.experimentPlan snapshot execution with
    | error e =>
      simp only [hvalid]
      exact hfailed e
    | ok u =>
      obtain ⟨r, hr, hreplayed⟩ : ∃ r,
          executeSelection setting digests runs policy snapshot fold execution =
            .ok ⟨r, digests.foldResultChecksum r⟩ ∧
          Replayed setting digests runs policy combinationCount snapshot fold execution r :=
        executeSelection_replays hfold hvalid
      refine ⟨(⟨r, digests.foldResultChecksum r⟩, some execution), ?_, hreplayed.foldId_eq,
        hreplayed.foldIndex_eq, hreplayed.experimentId_eq, hreplayed.valid,
        Or.inr ⟨execution, rfl, hvalid, hreplayed⟩⟩
      simp only [hvalid, hr]
      rfl

/-! ### The manifest -/

variable {plan : WalkForwardPlan Digest}

/-- The folds of a valid plan are planned folds, and stand in order. -/
theorem plannedFold_of_valid (h : validateWalkForwardPlan setting.planning plan = .ok ()) :
    validateTemporalSnapshotReference setting.planning.identify plan.values.snapshot = .ok () ∧
    2 ≤ plan.values.folds.length ∧ ∀ i fold, plan.values.folds[i]? = some fold →
      fold.foldIndex = i ∧ PlannedFold fold plan.values.combinationCount := by
  simp only [validateWalkForwardPlan, bind_eq_ok, mapError_eq_ok, require_eq_ok, exists_const,
    orRaise_eq_ok, forM_eq_ok] at h
  obtain ⟨u₁, hsnapshot, cardinality, hcardinality, u₂, -, u₃, -, htwo, -, -, firstStart, -, hfolds,
    -, hcount, -⟩ := h
  have hspace : plan.values.searchSpace.cardinality = cardinality := by
    simp only [validateSearchSpaceStructure, bind_eq_ok, require_eq_ok, exists_const, pure,
      Except.pure, Except.ok.injEq] at hcardinality
    obtain ⟨-, -, -, -, -, -, -, -, -, -, -, -, -, -, -, -, -, -, -, calculated, -, heq,
      rfl⟩ := hcardinality
    exact heq.symm
  refine ⟨hsnapshot, htwo, fun i fold hi => ?_⟩
  have hfold := hfolds (fold, i) (List.mem_zipIdx_iff_getElem?.mpr hi)
  simp only [validatePlanFold, validateWalkForwardFoldPlan, checkedInt, bind_eq_ok, mapError_eq_ok,
    require_eq_ok, exists_const] at hfold
  obtain ⟨⟨⟨-, hle⟩, u₄, -, -, u₅, hexperiment, -⟩, hindex, -, hsearch, -⟩ := hfold
  refine ⟨hindex, ?_, ?_⟩
  · unfold absoluteMaxFolds at hle ⊢
    omega
  · simp only [validateExperimentPlan, bind_eq_ok, require_eq_ok, exists_const] at hexperiment
    obtain ⟨u₆, -, n, -, u₇, -, -, u₈, -, -, -, u₉, -, total, -, -, hlength, -⟩ := hexperiment
    rw [hlength, hcount, ← hspace]
    exact congrArg (fun space => space.counts.1) hsearch

/-- The execution that a result refers to is loaded, since no two folds share an experiment. -/
theorem loadExecution_eq {policy : WalkForwardSelectionPolicy}
    {folds : List (WalkForwardFoldPlan Digest)}
    {outcomes : List (WalkForwardFoldResult Digest × Option (ExperimentExecutionManifest Digest))}
    (h : List.Forall₂ (Outcome setting digests runs policy combinationCount snapshot) folds
      outcomes)
    (hnodup : (folds.map (·.experimentPlan.experimentId)).Nodup)
    {outcome : WalkForwardFoldResult Digest × Option (ExperimentExecutionManifest Digest)}
    {i : ℕ} (hi : folds[i]? = some fold) (houtcome : outcomes[i]? = some outcome)
    (hexecution : outcome.2 = some execution)
    (hid : execution.values.experimentId = fold.experimentPlan.experimentId) :
    loadExecution (outcomes.filterMap Prod.snd) fold.experimentPlan.experimentId
      execution.experimentExecutionId = some execution := by
  have hmem : execution ∈ (outcomes.filterMap Prod.snd).reverse := by
    rw [List.mem_reverse, List.mem_filterMap]
    exact ⟨outcome, List.mem_of_getElem? houtcome, hexecution⟩
  -- something is found, since the execution itself matches
  unfold loadExecution
  cases hfind : (outcomes.filterMap Prod.snd).reverse.find? fun found =>
      decide (found.values.experimentId = fold.experimentPlan.experimentId ∧
        found.experimentExecutionId = execution.experimentExecutionId) with
  | none =>
    have hnot := List.find?_eq_none.mp hfind execution hmem
    exact (hnot (decide_eq_true ⟨hid, rfl⟩)).elim
  | some found =>
    have hmatches := List.find?_some hfind
    simp only [decide_eq_true_eq] at hmatches
    have hfound := List.mem_of_find?_eq_some hfind
    rw [List.mem_reverse, List.mem_filterMap] at hfound
    obtain ⟨outcome', hmem', hsome⟩ := hfound
    obtain ⟨j, hj⟩ := List.mem_iff_getElem?.mp hmem'
    obtain ⟨fold', hfold', houtcome'⟩ := exists_of_forall₂ h hj
    rcases houtcome'.executed with ⟨-, -, hnone⟩ | ⟨execution', hexecution', hvalid', -⟩
    · rw [hnone] at hsome
      cases hsome
    · obtain rfl : execution' = found := Option.some.inj (hexecution'.symm.trans hsome)
      -- both folds have the experiment of the execution, so they are the same
      have hsame : (folds.map (·.experimentPlan.experimentId))[i]? =
          (folds.map (·.experimentPlan.experimentId))[j]? := by
        rw [List.getElem?_map, List.getElem?_map, hi, hfold']
        change some fold.experimentPlan.experimentId = some fold'.experimentPlan.experimentId
        rw [← hmatches.1, (executionOf_of_valid hvalid').experimentId_eq]
      have hlt : i < (folds.map (·.experimentPlan.experimentId)).length := by
        rw [List.length_map]
        exact (List.getElem?_eq_some_iff.mp hi).1
      obtain rfl := (List.getElem?_inj hlt hnodup).mp hsame
      obtain rfl := Option.some.inj (hj.symm.trans houtcome)
      exact congrArg some (Option.some.inj (hexecution'.symm.trans hexecution))

/-- The result of a fold passes the check against its plan. -/
theorem replayFold_eq {policy : WalkForwardSelectionPolicy}
    {folds : List (WalkForwardFoldPlan Digest)}
    {outcomes : List (WalkForwardFoldResult Digest × Option (ExperimentExecutionManifest Digest))}
    (h : List.Forall₂ (Outcome setting digests runs policy combinationCount snapshot) folds
      outcomes)
    (hnodup : (folds.map (·.experimentPlan.experimentId)).Nodup)
    {outcome : WalkForwardFoldResult Digest × Option (ExperimentExecutionManifest Digest)}
    {i : ℕ} (hi : folds[i]? = some fold) (houtcome : outcomes[i]? = some outcome) :
    replayFold setting runs (outcomes.filterMap Prod.snd) policy combinationCount snapshot
      (outcome.1, fold) = .ok () := by
  obtain ⟨fold', hfold', hof⟩ := exists_of_forall₂ h houtcome
  obtain rfl : fold = fold' := Option.some.inj (hi.symm.trans hfold')
  simp only [replayFold, bind_eq_ok, require_eq_ok, exists_const]
  refine ⟨⟨hof.foldId_eq, hof.foldIndex_eq, hof.experimentId_eq⟩, ?_⟩
  rcases hof.executed with ⟨hnone, hstatus, -⟩ | ⟨execution, hexecution, hvalid, hreplayed⟩
  · simp only [hnone, hstatus, require_eq_ok]
  · have hload := loadExecution_eq h hnodup hi houtcome hexecution
      (executionOf_of_valid hvalid).experimentId_eq
    simp only [hreplayed.executionId_eq, hreplayed.checksum_eq, hof.experimentId_eq, hload,
      bind_eq_ok, orRaise_eq_ok, require_eq_ok, exists_const, mapError_eq_ok]
    exact ⟨execution, rfl, ⟨rfl, rfl⟩, (), hvalid, hreplayed.replays⟩

/-- What a manifest takes over from its plan. -/
structure ManifestOf (plan : WalkForwardPlan Digest) (folds : List (WalkForwardFoldResult Digest))
    (v : WalkForwardManifestValues Digest) : Prop where
  plan_eq : v.walkForwardPlanId = plan.walkForwardPlanId ∧ v.planChecksum = plan.checksum
  snapshot_eq : v.snapshot = plan.values.snapshot
  policies_eq : v.windowPolicy = plan.values.windowPolicy ∧
    v.selectionPolicy = plan.values.selectionPolicy
  folds_eq : v.folds = folds

/-- The manifest of valid results in order is assembled. -/
theorem buildExecutionManifest_eq (plan : WalkForwardPlan Digest)
    {folds : List (WalkForwardFoldResult Digest)}
    (hsnapshot : validateTemporalSnapshotReference setting.planning.identify plan.values.snapshot =
      .ok ()) (htwo : 2 ≤ folds.length)
    (hfolds : ∀ i result, folds[i]? = some result →
      validateWalkForwardFoldResult setting digests result = .ok () ∧
        result.values.foldIndex = i) :
    ∃ manifest, buildExecutionManifest setting digests plan folds = .ok manifest ∧
      validateWalkForwardExecutionManifest setting digests manifest = .ok () ∧
      ManifestOf plan folds manifest.values := by
  let values : WalkForwardManifestValues Digest :=
    { walkForwardPlanId := plan.walkForwardPlanId
      planChecksum := plan.checksum
      snapshot := plan.values.snapshot
      windowPolicy := plan.values.windowPolicy
      selectionPolicy := plan.values.selectionPolicy
      folds := folds
      foldCount := folds.length
      completedCount := completedResults folds
      failedCount := folds.length - completedResults folds
      status := walkForwardStatusOf (completedResults folds) folds.length }
  have hvalid : validateWalkForwardExecutionManifest setting digests
      ⟨values, digests.manifestChecksum values, digests.manifestId values⟩ = .ok () := by
    simp only [validateWalkForwardExecutionManifest, validateManifestFolds, bind_eq_ok,
      mapError_eq_ok, require_eq_ok, exists_const, forM_eq_ok]
    refine ⟨(), hsnapshot, htwo, fun item hitem => ?_, ⟨rfl, rfl, rfl, rfl⟩, trivial, trivial⟩
    obtain ⟨hresult, hindex⟩ := hfolds item.2 item.1 (List.mem_zipIdx_iff_getElem?.mp hitem)
    exact ⟨(), hresult, hindex⟩
  refine ⟨⟨values, digests.manifestChecksum values, digests.manifestId values⟩, ?_, hvalid,
    ⟨rfl, rfl⟩, rfl, ⟨rfl, rfl⟩, rfl⟩
  simp only [buildExecutionManifest, bind_eq_ok]
  exact ⟨(), hvalid, rfl⟩

/-- **An execution passes its own check.** The folds of a valid plan, no two of which share an
experiment, are executed whatever is raised on the way: every fold has a result, and the manifest of
the results passes the check that builds the evidence, selects and reads TEST again. -/
theorem executeFolds_replays (setting : SelectionSetting Digest) (digests : ResultDigests Digest)
    (runs : PublishedRuns Digest)
    (execute : WalkForwardFoldPlan Digest → Except RaisedError (ExperimentExecutionManifest Digest))
    (snapshot : DatasetSnapshot Digest) (plan : WalkForwardPlan Digest)
    (hplan : validateWalkForwardPlan setting.planning plan = .ok ())
    (hnodup : (plan.values.folds.map (·.experimentPlan.experimentId)).Nodup) :
    ∃ manifest, executeFolds setting digests runs execute snapshot plan = .ok manifest ∧
      List.Forall₂ (fun fold result => ∃ execution, Outcome setting digests runs
        plan.values.selectionPolicy plan.values.combinationCount snapshot fold (result, execution))
        plan.values.folds manifest.values.folds := by
  obtain ⟨hsnapshot, htwo, hplanned⟩ := plannedFold_of_valid hplan
  have hfold : ∀ fold ∈ plan.values.folds, ∃ outcome,
      executeFold setting digests runs execute plan.values.selectionPolicy snapshot fold =
        .ok outcome ∧ Outcome setting digests runs plan.values.selectionPolicy
          plan.values.combinationCount snapshot fold outcome := by
    intro fold hmem
    obtain ⟨i, hi⟩ := List.mem_iff_getElem?.mp hmem
    exact executeFold_outcome (hplanned i fold hi).2
  obtain ⟨outcomes, houtcomes⟩ := mapM_of_forall fun fold hmem =>
    let ⟨outcome, hrun, _⟩ := hfold fold hmem
    ⟨outcome, hrun⟩
  have hrelated : List.Forall₂ (Outcome setting digests runs plan.values.selectionPolicy
      plan.values.combinationCount snapshot) plan.values.folds outcomes := by
    have hforall := forall₂_of_mapM houtcomes
    rw [List.forall₂_iff_get] at hforall ⊢
    refine ⟨hforall.1, fun i h₁ h₂ => ?_⟩
    obtain ⟨outcome, hrun, hof⟩ := hfold _ (List.get_mem plan.values.folds ⟨i, h₁⟩)
    rw [Except.ok.inj ((hforall.2 i h₁ h₂).symm.trans hrun)]
    exact hof
  have hlength : (outcomes.map Prod.fst).length = plan.values.folds.length := by
    rw [List.length_map, hrelated.length_eq]
  -- the results are valid and in order
  obtain ⟨manifest, hmanifest, hvalid, hof⟩ := buildExecutionManifest_eq plan hsnapshot
    (hlength.symm ▸ htwo) fun i result hi => by
      rw [List.getElem?_map, Option.map_eq_some_iff] at hi
      obtain ⟨outcome, houtcome, rfl⟩ := hi
      obtain ⟨fold, hi, houtcome⟩ := exists_of_forall₂ hrelated houtcome
      exact ⟨houtcome.valid, houtcome.foldIndex_eq.trans (hplanned i fold hi).1⟩
  have hcheck : validateWalkForwardExecutionManifestAgainstPlan setting digests runs
      (outcomes.filterMap Prod.snd) snapshot plan manifest = .ok () := by
    simp only [validateWalkForwardExecutionManifestAgainstPlan, ofContracts, bind_eq_ok,
      mapError_eq_ok, require_eq_ok, exists_const, forM_eq_ok]
    refine ⟨(), hplan, (), hvalid, ⟨hof.plan_eq.1, hof.plan_eq.2, hof.snapshot_eq,
      hof.policies_eq.1, hof.policies_eq.2, ?_⟩, fun item hitem => ?_⟩
    · rw [hof.folds_eq]
      exact hlength
    · obtain ⟨i, hi⟩ := List.mem_iff_getElem?.mp hitem
      obtain ⟨hresult, hfold⟩ := List.getElem?_zip_eq_some.mp hi
      rw [hof.folds_eq, List.getElem?_map, Option.map_eq_some_iff] at hresult
      obtain ⟨outcome, houtcome, heq⟩ := hresult
      have hreplay := replayFold_eq hrelated hnodup hfold houtcome
      rw [heq] at hreplay
      exact hreplay
  refine ⟨manifest, ?_, ?_⟩
  · simp only [executeFolds, bind_eq_ok, mapError_eq_ok]
    exact ⟨outcomes, houtcomes, manifest, hmanifest, (), hcheck, rfl⟩
  · rw [hof.folds_eq, List.forall₂_map_right_iff]
    exact hrelated.imp fun _ outcome houtcome => ⟨outcome.2, houtcome⟩

end

/-! ### An executed plan -/

/-- Digests that also tell the experiments of a plan apart. -/
def foldDigests : PlanningDigests ℕ :=
  { indexDigests with
    experiment := ⟨fun _ => 0, fun _ _ values => values.globalIndex,
      fun values => values.temporalPlan.selectedCoverage.start.toNat, fun _ => 0⟩ }

theorem foldDigests_nodup : ((createWalkForward foldDigests sampleService weekSnapshot weekManifest
    weekRequest).toOption.map fun plan =>
      decide (plan.values.folds.map (·.experimentPlan.experimentId)).Nodup) = some true := by
  decide +kernel

/-- The plan of the week is executed, and its execution passes its own check. -/
theorem executeFolds_replays_week : ∃ plan manifest,
    createWalkForward foldDigests sampleService weekSnapshot weekManifest weekRequest = .ok plan ∧
    executeFolds { weekSetting with planning := foldDigests }
      ⟨fun _ => 0, fun _ => 0, fun _ => 0⟩ (weekRuns "1")
      (fun fold => .ok (weekExecution "no candles" fold.experimentPlan)) weekSnapshot plan =
      .ok manifest := by
  obtain ⟨plan, hfound, hnodup⟩ := Option.map_eq_some_iff.mp foldDigests_nodup
  have hplan : createWalkForward foldDigests sampleService weekSnapshot weekManifest weekRequest =
      .ok plan := toOption_eq_some.mp hfound
  obtain ⟨manifest, hmanifest, -⟩ := executeFolds_replays
    { weekSetting with planning := foldDigests } ⟨fun _ => 0, fun _ => 0, fun _ => 0⟩
    (weekRuns "1") (fun fold => .ok (weekExecution "no candles" fold.experimentPlan)) weekSnapshot
    plan (valid_of_createWalkForward hplan) (of_decide_eq_true hnodup)
  exact ⟨plan, manifest, hplan, hmanifest⟩

end Optimization
end DryTrade
