import DryTrade.Optimization.BlindSelection

/-!
# The selected candidate

When some candidate of the evidence of a fold is eligible, one is selected: no eligible candidate
has a better score, and none with as good a score comes before it.  The decision passes the check
against its evidence, since the reasons of the rejected candidates are few and short.

## Main definitions

* `NotWorse` — one score is at least as good as another.
* `BestAmong` — the candidate that ought to be selected.

## Main results

* `rankedWinner_spec` — the ranking finds the best candidate.
* `compactReasons_spec` — the summary of the reasons keeps its limits.
* `selection_best` — the selection in an executed fold.
-/

namespace DryTrade
namespace Optimization

open MarketData Snapshots Backtesting Strategies

/-- One score is at least as good as another. -/
def NotWorse (direction : SelectionDirection) (score other : Decimal) : Prop :=
  match direction with
  | .maximize => other.value ≤ score.value
  | .minimize => score.value ≤ other.value

/-! ### Ranking -/

section

variable {Digest : Type} {candidates : List (SelectionCandidateEvidence Digest)}
  {direction : SelectionDirection}

/-- No candidate has a better score, and none with as good a score comes before this one. -/
def BestAmong (direction : SelectionDirection)
    (candidates : List (SelectionCandidateEvidence Digest))
    (winner : SelectionCandidateEvidence Digest) (score : Decimal) : Prop :=
  winner ∈ candidates ∧ winner.validationScore = some score ∧
    ∀ c ∈ candidates, ∃ other, c.validationScore = some other ∧ NotWorse direction score other ∧
      (other.value = score.value → winner.combinationIndex ≤ c.combinationIndex)

/-- What is raised for a missing score does not matter when there is none. -/
theorem rankedWinner_congr (absent absent' : RaisedError)
    (h : ∀ c ∈ candidates, ∃ score, c.validationScore = some score) :
    rankedWinner absent direction candidates = rankedWinner absent' direction candidates := by
  unfold rankedWinner
  rw [mapM_congr_of_mem (g := fun c => do
    let score ← orRaise c.validationScore absent'
    return (c, score))]
  intro c hc
  obtain ⟨score, hscore⟩ := h c hc
  rw [hscore]
  rfl

/-- The ordered candidates are the candidates. -/
theorem mem_scoreOrder {scored : List (SelectionCandidateEvidence Digest × Decimal)}
    {c : SelectionCandidateEvidence Digest × Decimal} :
    c ∈ scoreOrder direction scored ↔ c ∈ scored := by
  cases direction with
  | maximize => exact (sortBy_perm scored).mem_iff
  | minimize => exact (sortBy_perm scored).mem_iff

/-- No candidate scores better than the first of the ordered ones. -/
theorem notWorse_of_head {scored : List (SelectionCandidateEvidence Digest × Decimal)}
    {top c : SelectionCandidateEvidence Digest × Decimal}
    (h : (scoreOrder direction scored).head? = some top) (hc : c ∈ scored) :
    NotWorse direction top.2 c.2 := by
  cases direction with
  | maximize =>
    exact @score_le_of_head? _ _ _ (fun c : SelectionCandidateEvidence Digest × Decimal =>
      OrderDual.toDual c.2.value) _ _ _ h hc
  | minimize =>
    exact @score_le_of_head? _ _ _ (fun c : SelectionCandidateEvidence Digest × Decimal =>
      c.2.value) _ _ _ h hc

/-- The candidates with their scores. -/
theorem scored_of_forall (absent : RaisedError)
    (h : ∀ c ∈ candidates, ∃ score, c.validationScore = some score) :
    ∃ scored, candidates.mapM (fun c => do
        let score ← orRaise c.validationScore absent
        return (c, score)) = Except.ok scored ∧
      ∀ c score, (c, score) ∈ scored ↔ c ∈ candidates ∧ c.validationScore = some score := by
  obtain ⟨scored, hscored⟩ : ∃ scored, candidates.mapM (fun c => do
      let score ← orRaise c.validationScore absent
      return (c, score)) = Except.ok scored := by
    refine mapM_of_forall fun c hc => ?_
    obtain ⟨score, hscore⟩ := h c hc
    exact ⟨(c, score), by rw [hscore]; rfl⟩
  refine ⟨scored, hscored, fun c score => ⟨fun hmem => ?_, fun ⟨hc, hscore⟩ => ?_⟩⟩
  · obtain ⟨c', hc, hpair⟩ := mem_of_mapM hscored hmem
    simp only [bind_eq_ok, orRaise_eq_ok, pure, Except.pure, Except.ok.injEq] at hpair
    obtain ⟨score', hscore, heq⟩ := hpair
    obtain ⟨rfl, rfl⟩ := Prod.mk.inj heq
    exact ⟨hc, hscore⟩
  · obtain ⟨pair, hmem, hpair⟩ := forall_of_mapM hscored c hc
    rw [hscore] at hpair
    exact (Except.ok.inj hpair) ▸ hmem

/-- Ordered candidates have a first one when there is one. -/
theorem exists_head_scoreOrder {scored : List (SelectionCandidateEvidence Digest × Decimal)}
    {c : SelectionCandidateEvidence Digest × Decimal} (hc : c ∈ scored) :
    ∃ top, (scoreOrder direction scored).head? = some top := by
  cases horder : scoreOrder direction scored with
  | nil =>
    have hmem : c ∈ scoreOrder direction scored := mem_scoreOrder.mpr hc
    rw [horder] at hmem
    cases hmem
  | cons top rest => exact ⟨top, rfl⟩

/-- **The ranking finds the best candidate**, and with it the best score. -/
theorem rankedWinner_spec (absent : RaisedError) (direction : SelectionDirection)
    (hne : candidates ≠ [])
    (h : ∀ c ∈ candidates, ∃ score, c.validationScore = some score) :
    ∃ winner score best, rankedWinner absent direction candidates = .ok (winner, best) ∧
      BestAmong direction candidates winner score ∧ best.value = score.value ∧
      ∃ c ∈ candidates, c.validationScore = some best := by
  obtain ⟨scored, hscored, hmemScored⟩ := scored_of_forall absent h
  -- there is a first candidate, and it is among those that score as well as it does
  obtain ⟨first, hfirst⟩ := List.exists_mem_of_ne_nil _ hne
  obtain ⟨firstScore, hfirstScore⟩ := h first hfirst
  obtain ⟨top, htop⟩ := @exists_head_scoreOrder _ direction _ _
    ((hmemScored first firstScore).mpr ⟨hfirst, hfirstScore⟩)
  have htopMem : top ∈ scoreOrder direction scored := List.mem_of_head? htop
  let key : SelectionCandidateEvidence Digest × Decimal → ℕ ×ₗ List Char :=
    fun c => toLex (c.1.combinationIndex, c.1.combinationId.toList)
  let ties := (scoreOrder direction scored).filter fun c => decide (c.2.value = top.2.value)
  obtain ⟨winner, hwinner⟩ : ∃ winner, leastBy key ties = some winner := by
    refine Option.ne_none_iff_exists'.mp fun hnone => ?_
    have hmem : top ∈ ties := List.mem_filter.mpr ⟨htopMem, decide_eq_true rfl⟩
    rw [leastBy_eq_none_iff.mp hnone] at hmem
    cases hmem
  obtain ⟨hwinnerMem, hleast⟩ := leastBy_spec hwinner
  obtain ⟨hwinnerOrder, hvalue⟩ := List.mem_filter.mp hwinnerMem
  have hvalue : winner.2.value = top.2.value := of_decide_eq_true hvalue
  obtain ⟨hcandidate, hscore⟩ := (hmemScored _ _).mp (mem_scoreOrder.mp hwinnerOrder)
  obtain ⟨htopCandidate, htopScore⟩ := (hmemScored _ _).mp (mem_scoreOrder.mp htopMem)
  refine ⟨winner.1, winner.2, top.2, ?_, ⟨hcandidate, hscore, fun c hc => ?_⟩, hvalue.symm,
    top.1, htopCandidate, htopScore⟩
  · unfold rankedWinner
    rw [hscored, ok_bind]
    simp only [htop]
    change (orRaise (leastBy key ties) RaisedError.other >>= _) = _
    rw [hwinner]
    rfl
  · obtain ⟨other, hother⟩ := h c hc
    have hmem := (hmemScored c other).mpr ⟨hc, hother⟩
    have hbest := notWorse_of_head htop hmem
    refine ⟨other, hother, ?_, fun heq => ?_⟩
    · unfold NotWorse at hbest ⊢
      rw [hvalue]
      exact hbest
    · have hle := hleast (c, other) (List.mem_filter.mpr
        ⟨mem_scoreOrder.mpr hmem, decide_eq_true (heq.trans hvalue)⟩)
      rcases Prod.Lex.le_iff.mp hle with hlt | ⟨heq, -⟩
      · exact le_of_lt hlt
      · exact le_of_eq heq

end

/-! ### Reasons -/

/-- What may be wrong with a run. -/
def selectionFaults : List String :=
  ["_not_verified", "_record_incomplete", "_run_id_mismatch", "_artifact_path_mismatch",
    "_artifact_verification_failed", "_artifact_checksum_mismatch"]

/-- The reasons a candidate may be rejected for. -/
def selectionReasons : List String :=
  selectionFaults.map ("train" ++ ·) ++ selectionFaults.map ("validation" ++ ·) ++
    [ExecutionErrorKind.missingWalkForwardMetric.code,
      ExecutionErrorKind.invalidWalkForwardMetric.code, "validation_metric_unavailable"]

theorem selectionReasons_short : ∀ reason ∈ selectionReasons, reason ≠ "" ∧ reason.length ≤ 64 := by
  decide +kernel

theorem selectionReasons_few : selectionReasons.length = 15 := rfl

/-- The summary of some reasons. -/
def compactOf (texts : List String) : List String :=
  (sortedNames texts.dedup).map fun text =>
    text ++ ":" ++ String.ofList (Decimal.digits (texts.count text))

section

variable {invalid : RaisedError} {reasons : List (Option String)}

/-- The summary of the reasons, which does not depend on what is raised for a missing one. -/
theorem compactReasons_eq (h : ∀ reason ∈ reasons, ∃ text ∈ selectionReasons, reason = some text) :
    compactReasons invalid reasons = .ok (compactOf (reasons.map (·.getD ""))) := by
  unfold compactReasons
  rw [mapM_eq_map (g := fun reason : Option String => reason.getD "")]
  · rfl
  · intro reason hreason
    obtain ⟨text, htext, rfl⟩ := h reason hreason
    rw [Option.filter_some, if_pos (decide_eq_true (selectionReasons_short text htext).1)]
    rfl

/-- **The summary of the reasons keeps its limits.** -/
theorem compactReasons_spec
    (h : ∀ reason ∈ reasons, ∃ text ∈ selectionReasons, reason = some text)
    (hlength : reasons.length ≤ 100000) :
    (compactOf (reasons.map (·.getD ""))).length ≤ maxRejectionReasons ∧
      ∀ item ∈ compactOf (reasons.map (·.getD "")),
        item ≠ "" ∧ item.length ≤ maxRejectionReasons := by
  have hmem : ∀ text ∈ reasons.map (·.getD ""), text ∈ selectionReasons := by
    intro text htext
    obtain ⟨reason, hreason, rfl⟩ := List.mem_map.mp htext
    obtain ⟨text, hknown, rfl⟩ := h reason hreason
    exact hknown
  constructor
  · have hdedup : (reasons.map (·.getD "")).dedup.length ≤ selectionReasons.length := by
      refine (List.subperm_of_subset (List.nodup_dedup _) fun text htext => ?_).length_le
      exact hmem text (List.mem_dedup.mp htext)
    unfold compactOf maxRejectionReasons
    rw [List.length_map, sortedNames, (sortBy_perm _).length_eq]
    rw [selectionReasons_few] at hdedup
    omega
  · intro item hitem
    obtain ⟨text, htext, rfl⟩ := List.mem_map.mp hitem
    have htext := hmem text (List.mem_dedup.mp ((sortBy_perm _).mem_iff.mp htext))
    obtain ⟨hne, hshort⟩ := selectionReasons_short text htext
    have hcount : (reasons.map (·.getD "")).count text < 10 ^ 6 := by
      have hle := List.count_le_length (a := text) (l := reasons.map (·.getD ""))
      rw [List.length_map] at hle
      omega
    have hdigits := Decimal.length_digits_le (by decide) hcount
    have hitemLength : (text ++ ":" ++ String.ofList (Decimal.digits
        ((reasons.map (·.getD "")).count text))).length =
        text.length + 1 + (Decimal.digits ((reasons.map (·.getD "")).count text)).length := by
      rw [String.length_append, String.length_append, String.length_ofList, String.length_ofList]
      rfl
    refine ⟨fun hempty => ?_, ?_⟩
    · rw [hempty] at hitemLength
      have hzero : ("" : String).length = 0 := rfl
      omega
    · rw [hitemLength]
      unfold maxRejectionReasons
      omega

end

/-! ### Candidates -/

section

variable {Digest : Type} [DecidableEq Digest] {setting : SelectionSetting Digest}
  {runs : PublishedRuns Digest} {record : PlannedRunExecution Digest}
  {spec : PlannedRunSpec Digest} {snapshot : DatasetSnapshot Digest} {label : String}

/-- An artifact is refused for one of the faults. -/
theorem artifactFault_mem {runId checksum : Digest} {path fault : String}
    (h : artifactFault runs runId checksum path = some fault) : fault ∈ selectionFaults := by
  unfold artifactFault at h
  split at h
  · obtain rfl := Option.some.inj h
    decide
  · split at h
    · obtain rfl := Option.some.inj h
      decide
    · split at h
      · obtain rfl := Option.some.inj h
        decide
      · split at h
        · obtain rfl := Option.some.inj h
          decide
        · cases h

/-- A run is refused for one of the faults. -/
theorem reason_of_verified {reason : String}
    (h : verifiedSelectionReference setting runs record spec snapshot label =
      .ok (.error reason)) : ∃ fault ∈ selectionFaults, reason = label ++ fault := by
  simp only [verifiedSelectionReference] at h
  split at h
  · exact ⟨_, by decide, (Except.error.inj (Except.ok.inj h)).symm⟩
  · split at h
    · rw [bind_eq_ok] at h
      obtain ⟨expected, -, h⟩ := h
      split at h
      · exact ⟨_, by decide, (Except.error.inj (Except.ok.inj h)).symm⟩
      · split at h
        · rename_i fault hfault
          exact ⟨fault, artifactFault_mem hfault, (Except.error.inj (Except.ok.inj h)).symm⟩
        · rw [bind_eq_ok] at h
          obtain ⟨u, -, h⟩ := h
          cases Except.ok.inj h
    · exact ⟨_, by decide, (Except.error.inj (Except.ok.inj h)).symm⟩

/-- A candidate is rejected for one of the reasons. -/
theorem reason_mem {policy : WalkForwardSelectionPolicy}
    {trainRecord validationRecord : PlannedRunExecution Digest}
    {trainSpec validationSpec : PlannedRunSpec Digest}
    {train validation : Except String (SelectionExecutionReference Digest)} {reason : String}
    (htrain : verifiedSelectionReference setting runs trainRecord trainSpec snapshot "train" =
      .ok train)
    (hvalidation : verifiedSelectionReference setting runs validationRecord validationSpec snapshot
      "validation" = .ok validation)
    (h : scoreOf setting runs policy train validation = .error reason) :
    reason ∈ selectionReasons := by
  unfold scoreOf at h
  cases train with
  | error trainReason =>
    obtain rfl := Except.error.inj h
    obtain ⟨fault, hmem, rfl⟩ := reason_of_verified htrain
    exact List.mem_append_left _ (List.mem_append_left _ (List.mem_map.mpr ⟨fault, hmem, rfl⟩))
  | ok trainReference =>
    cases validation with
    | error validationReason =>
      obtain rfl := Except.error.inj h
      obtain ⟨fault, hmem, rfl⟩ := reason_of_verified hvalidation
      exact List.mem_append_left _ (List.mem_append_right _ (List.mem_map.mpr ⟨fault, hmem, rfl⟩))
    | ok reference =>
      rw [ok_bind, ok_bind] at h
      refine List.mem_append_right _ ?_
      unfold validationScore Except.mapError at h
      split at h
      · rename_i error _
        obtain rfl := Except.error.inj h
        unfold metricReason
        split <;> simp
      · cases h

/-- A score passes its check when its text is short. -/
theorem finiteScore_eq_ok {score : Decimal} : finiteScore score label = .ok () ↔ score.Fits := by
  unfold finiteScore
  rw [Decimal.boundedText_eq]
  by_cases hfits : score.Fits
  · rw [if_pos hfits]
    exact iff_of_true rfl hfits
  · rw [if_neg hfits]
    exact iff_of_false (fun h => by cases h) hfits

/-- What a valid eligible candidate has. -/
structure EligibleEvidence (setting : SelectionSetting Digest)
    (c : SelectionCandidateEvidence Digest) : Prop where
  index_le : c.combinationIndex ≤ 100000
  parameters_valid : validateParameters c.parameters = .ok ()
  references : ∃ train validation, c.train = some train ∧ c.validation = some validation ∧
    validateSelectionReference setting train = .ok () ∧
    validateSelectionReference setting validation = .ok () ∧ train ≠ validation
  score : ∃ score, c.validationScore = some score ∧ score.Fits

theorem eligible_of_valid {c : SelectionCandidateEvidence Digest}
    (h : validateSelectionCandidate setting c = .ok ()) (hstatus : c.status = .eligible) :
    EligibleEvidence setting c := by
  simp only [validateSelectionCandidate, boundedInt, bind_eq_ok, require_eq_ok, exists_const,
    if_pos hstatus] at h
  obtain ⟨⟨-, hindex⟩, u, hparameters, h⟩ := h
  simp only [validateEligible, bind_eq_ok, require_eq_ok, exists_const, orRaise_eq_ok] at h
  obtain ⟨-, train, htrain, validation, hvalidation, u₁, htrainValid, u₂, hvalidationValid, hne,
    score, hscore, hfinite⟩ := h
  exact ⟨hindex, hparameters, ⟨train, validation, htrain, hvalidation, htrainValid,
    hvalidationValid, hne⟩, score, hscore, finiteScore_eq_ok.mp hfinite⟩

/-- A valid rejected candidate has a reason. -/
theorem reason_of_valid {c : SelectionCandidateEvidence Digest}
    (h : validateSelectionCandidate setting c = .ok ()) (hstatus : c.status = .rejected) :
    ∃ reason, c.rejectionReason = some reason := by
  have hne : c.status ≠ .eligible := by
    rw [hstatus]
    decide
  simp only [validateSelectionCandidate, bind_eq_ok, if_neg hne, validateRejected,
    orRaise_eq_ok] at h
  obtain ⟨u, -, u', -, reason, hreason, -⟩ := h
  exact ⟨reason, hreason⟩

end

/-! ### Evidence -/

section

variable {Digest : Type} [DecidableEq Digest] {setting : SelectionSetting Digest}
  {runs : PublishedRuns Digest} {fold : WalkForwardFoldPlan Digest}
  {execution : ExperimentExecutionManifest Digest} {policy : WalkForwardSelectionPolicy}
  {snapshot : DatasetSnapshot Digest} {evidence : FoldSelectionEvidence Digest}

/-- A candidate speaks of its combination. -/
def SpeaksOf (combination : ParameterCombination) (c : SelectionCandidateEvidence Digest) : Prop :=
  c.combinationIndex = combination.index ∧ c.combinationId = combination.combinationId ∧
    c.parameters = combination.parameters

/-- What the evidence of an execution says. -/
structure EvidenceOf (setting : SelectionSetting Digest) (fold : WalkForwardFoldPlan Digest)
    (policy : WalkForwardSelectionPolicy) (evidence : FoldSelectionEvidence Digest) : Prop where
  valid : validateFoldSelectionEvidence setting evidence = .ok ()
  foldId_eq : evidence.values.foldId = fold.foldId
  foldIndex_eq : evidence.values.foldIndex = fold.foldIndex
  experimentId_eq : evidence.values.experimentId = fold.experimentPlan.experimentId
  policy_eq : evidence.values.policy = policy
  length_le : evidence.values.candidates.length ≤ 100000
  combinations : List.Forall₂ SpeaksOf fold.experimentPlan.combinations evidence.values.candidates
  reasons : ∀ c ∈ evidence.values.candidates, ∀ reason, c.rejectionReason = some reason →
    reason ∈ selectionReasons

/-- A plan has at most a hundred thousand combinations. -/
theorem combinations_le {sha256 : List Char → String} {identify : SnapshotIdentity Digest}
    {temporalDigests : TemporalDigests Digest} {digests : ExperimentDigests Digest}
    {plan : ExperimentPlan Digest}
    (h : validateExperimentPlan sha256 identify temporalDigests digests plan = .ok ()) :
    plan.combinations.length ≤ 100000 := by
  simp only [validateExperimentPlan, bind_eq_ok, require_eq_ok, exists_const, forM_eq_ok] at h
  obtain ⟨u₁, -, n, -, u₂, -, -, u₃, -, -, -, u₄, -, cardinality, hcardinality, -, hlength, -⟩ := h
  simp only [calculateRunSpecCardinality, bind_eq_ok, require_eq_ok, exists_const] at hcardinality
  obtain ⟨u₅, -, -, hle, -⟩ := hcardinality
  rw [hlength]
  exact hle

theorem evidenceOf_of_build
    (h : buildFoldSelectionEvidence setting runs fold execution policy snapshot = .ok evidence) :
    EvidenceOf setting fold policy evidence := by
  simp only [buildFoldSelectionEvidence, bind_eq_ok, pure, Except.pure, Except.ok.injEq] at h
  obtain ⟨u, hexecution, candidates, hcandidates, u', hvalid, rfl⟩ := h
  have hplan := (executionOf_of_valid (mapError_eq_ok.mp hexecution)).plan_valid
  have hspeaks : ∀ combination c, buildCandidate setting runs policy snapshot
      fold.experimentPlan.runSpecs execution.values.records combination = .ok c →
      SpeaksOf combination c ∧
        ∀ reason, c.rejectionReason = some reason → reason ∈ selectionReasons := by
    intro combination c hc
    simp only [buildCandidate, bind_eq_ok, require_eq_ok, exists_const, orRaise_eq_ok, pure,
      Except.pure, Except.ok.injEq] at hc
    obtain ⟨-, trainRecord, -, validationRecord, -, trainSpec, -, validationSpec, -, train, htrain,
      validation, hvalidation, u'', -, rfl⟩ := hc
    refine ⟨⟨rfl, rfl, rfl⟩, fun reason hreason => ?_⟩
    change reasonOf (scoreOf setting runs policy train validation) = some reason at hreason
    refine reason_mem htrain hvalidation
      (?_ : scoreOf setting runs policy train validation = .error reason)
    cases hscore : scoreOf setting runs policy train validation with
    | ok score =>
      rw [hscore] at hreason
      cases hreason
    | error other =>
      rw [hscore] at hreason
      rw [Option.some.inj hreason]
  have hforall := forall₂_of_mapM hcandidates
  refine ⟨hvalid, rfl, rfl, rfl, rfl, ?_, hforall.imp fun _ _ hc => (hspeaks _ _ hc).1,
    fun c hc => ?_⟩
  · change candidates.length ≤ 100000
    rw [← hforall.length_eq]
    exact combinations_le hplan
  · obtain ⟨combination, -, hbuilt⟩ := mem_of_mapM hcandidates hc
    exact (hspeaks _ _ hbuilt).2

/-- What a decision takes over from the winner and from the evidence. -/
structure Decides (evidence : FoldSelectionEvidence Digest)
    (decision : FoldSelectionDecision Digest)
    (winner : SelectionCandidateEvidence Digest) (score : Decimal) : Prop where
  index_eq : decision.values.combinationIndex = winner.combinationIndex
  id_eq : decision.values.combinationId = winner.combinationId
  parameters_eq : decision.values.parameters = winner.parameters
  train_eq : winner.train = some decision.values.train
  validation_eq : winner.validation = some decision.values.validation
  score_eq : decision.values.score.value = score.value
  best : BestAmong evidence.values.policy.direction evidence.values.eligible winner score

/-- What the checks of evidence say of its candidates. -/
structure CheckedEvidence (setting : SelectionSetting Digest)
    (e : SelectionEvidenceValues Digest) : Prop where
  foldIndex_le : e.foldIndex ≤ absoluteMaxFolds - 1
  candidates_valid : ∀ c ∈ e.candidates, validateSelectionCandidate setting c = .ok ()
  indexes : e.candidates.map (·.combinationIndex) = List.range e.candidates.length
  eligibleCount_eq : e.eligibleCount = e.eligible.length
  rejectedCount_eq : e.rejectedCount = e.candidates.length - e.eligible.length

theorem EvidenceOf.checked (h : EvidenceOf setting fold policy evidence) :
    CheckedEvidence setting evidence.values := by
  have hvalid := h.valid
  simp only [validateFoldSelectionEvidence, boundedInt, bind_eq_ok, require_eq_ok, exists_const,
    forM_eq_ok] at hvalid
  obtain ⟨⟨-, hfold⟩, -, hcandidates, -, ⟨hindexes, -⟩, -, ⟨heligible, hrejected⟩, -, -⟩ := hvalid
  exact ⟨hfold, hcandidates, hindexes, heligible, hrejected⟩

/-- An eligible candidate has what an eligible one needs. -/
theorem EvidenceOf.eligible (h : EvidenceOf setting fold policy evidence)
    {c : SelectionCandidateEvidence Digest} (hc : c ∈ evidence.values.eligible) :
    EligibleEvidence setting c := by
  obtain ⟨hmem, hstatus⟩ := List.mem_filter.mp hc
  exact eligible_of_valid (h.checked.candidates_valid c hmem) (of_decide_eq_true hstatus)

/-- A rejected candidate is rejected for one of the reasons. -/
theorem EvidenceOf.reasons_known (h : EvidenceOf setting fold policy evidence) :
    ∀ reason ∈ evidence.values.reasons, ∃ text ∈ selectionReasons, reason = some text := by
  intro reason hreason
  obtain ⟨c, hc, rfl⟩ := List.mem_map.mp hreason
  obtain ⟨hmem, hstatus⟩ := List.mem_filter.mp hc
  obtain ⟨text, htext⟩ := reason_of_valid (h.checked.candidates_valid c hmem)
    (of_decide_eq_true hstatus)
  exact ⟨text, h.reasons c hmem text htext, htext⟩

/-- The summary of the reasons of valid evidence keeps its limits. -/
theorem EvidenceOf.compact_spec (h : EvidenceOf setting fold policy evidence) :
    (compactOf (evidence.values.reasons.map (·.getD ""))).length ≤ maxRejectionReasons ∧
      ∀ item ∈ compactOf (evidence.values.reasons.map (·.getD "")),
        item ≠ "" ∧ item.length ≤ maxRejectionReasons := by
  refine compactReasons_spec h.reasons_known ?_
  have hle : (evidence.values.candidates.filter fun c => c.status = .rejected).length ≤
      evidence.values.candidates.length := List.length_filter_le _ _
  unfold SelectionEvidenceValues.reasons
  rw [List.length_map]
  exact hle.trans h.length_le

/-- The decision for an eligible winner is valid. -/
theorem EvidenceOf.decision_valid (h : EvidenceOf setting fold policy evidence)
    {winner : SelectionCandidateEvidence Digest} (hwinner : winner ∈ evidence.values.eligible)
    {train validation : SelectionExecutionReference Digest} (htrain : winner.train = some train)
    (hvalidation : winner.validation = some validation) {score : Decimal} (hfits : score.Fits) :
    validateSelectionDecision setting (decisionOf setting evidence winner score train validation
      (compactOf (evidence.values.reasons.map (·.getD "")))) = .ok () := by
  have hchecked := h.checked
  obtain ⟨hindex, hparameters, ⟨train', validation', htrain', hvalidation', htrainValid,
    hvalidationValid, hdiffer⟩, -⟩ := h.eligible hwinner
  obtain rfl := Option.some.inj (htrain'.symm.trans htrain)
  obtain rfl := Option.some.inj (hvalidation'.symm.trans hvalidation)
  simp only [validateSelectionDecision, boundedInt, bind_eq_ok, require_eq_ok, exists_const]
  refine ⟨⟨Nat.zero_le _, hchecked.foldIndex_le⟩, ⟨Nat.zero_le _, hindex⟩, (), hparameters, (),
    finiteScore_eq_ok.mpr hfits, rfl, ⟨?_, ?_⟩, ⟨Nat.zero_le _, ?_⟩, h.compact_spec.2, (),
    htrainValid, (), hvalidationValid, hdiffer, rfl, rfl⟩
  · change 1 ≤ evidence.values.eligibleCount
    rw [hchecked.eligibleCount_eq]
    exact List.length_pos_iff.mpr (List.ne_nil_of_mem hwinner)
  · change evidence.values.eligibleCount ≤ 100000
    rw [hchecked.eligibleCount_eq]
    exact (List.length_filter_le _ _).trans h.length_le
  · change evidence.values.rejectedCount ≤ 100000
    rw [hchecked.rejectedCount_eq]
    exact (Nat.sub_le _ _).trans h.length_le

/-- With an eligible candidate, the best one is selected, and the decision passes its check. -/
theorem EvidenceOf.select_eq (h : EvidenceOf setting fold policy evidence)
    (hne : evidence.values.eligible ≠ []) :
    ∃ decision winner score, select setting evidence = .ok decision ∧
      validateSelectionDecisionAgainstEvidence setting decision evidence = .ok () ∧
      Decides evidence decision winner score := by
  have hscores : ∀ c ∈ evidence.values.eligible, ∃ score, c.validationScore = some score := by
    intro c hc
    obtain ⟨score, hscore, -⟩ := (h.eligible hc).score
    exact ⟨score, hscore⟩
  obtain ⟨winner, score, best, hrank, hbest, hvalue, top, htop, htopScore⟩ :=
    rankedWinner_spec (candidateError "eligible candidate score is absent")
      evidence.values.policy.direction hne hscores
  -- the check ranks the candidates again, and raises another error for a missing score
  have hrank' := hrank
  rw [rankedWinner_congr _ (selectionError "eligible candidate score is absent") hscores] at hrank'
  obtain ⟨train, validation, htrain, hvalidation, -⟩ := (h.eligible hbest.1).references
  obtain ⟨topScore, htopScore', hfits⟩ := (h.eligible htop).score
  obtain rfl : topScore = best := Option.some.inj (htopScore'.symm.trans htopScore)
  let compact := compactOf (evidence.values.reasons.map (·.getD ""))
  let decision := decisionOf setting evidence winner topScore train validation compact
  have hdecision : validateSelectionDecision setting decision = .ok () :=
    h.decision_valid hbest.1 htrain hvalidation hfits
  have hagainst : validateSelectionDecisionAgainstEvidence setting decision evidence = .ok () := by
    simp only [validateSelectionDecisionAgainstEvidence, bind_eq_ok, require_eq_ok, exists_const]
    refine ⟨(), hdecision, (), h.valid, ⟨rfl, rfl, rfl, rfl, rfl⟩, hne, _, hrank', compact,
      compactReasons_eq h.reasons_known, ⟨h.compact_spec.1, fun item hitem =>
        (h.compact_spec.2 item hitem).2⟩, ?_⟩
    exact ⟨rfl, rfl, rfl, rfl, rfl, rfl, rfl, rfl, htrain.symm, hvalidation.symm⟩
  refine ⟨decision, winner, score, ?_, hagainst,
    ⟨rfl, rfl, rfl, htrain, hvalidation, hvalue, hbest⟩⟩
  simp only [select, bind_eq_ok, require_eq_ok, exists_const, orRaise_eq_ok]
  exact ⟨(), h.valid, hne, _, hrank, train, htrain, validation, hvalidation, compact,
    compactReasons_eq h.reasons_known, (), hagainst, rfl⟩

/-- Without one, no candidate is selected. -/
theorem EvidenceOf.select_eq_error (h : EvidenceOf setting fold policy evidence)
    (hnil : evidence.values.eligible = []) :
    select setting evidence = .error (.execution .noEligibleWalkForwardCandidate
      ExecutionErrorKind.noEligibleWalkForwardCandidate.defaultMessage) := by
  unfold select
  rw [h.valid, ok_bind]
  have hrefused : ∀ error : RaisedError,
      require (evidence.values.eligible ≠ []) error = .error error := by
    intro error
    unfold require
    exact if_neg (not_not.mpr hnil)
  simp only [hrefused]
  rfl

/-- **The selection in an executed fold.** The evidence that is built of an execution has one
candidate of every combination.  When some candidate is eligible, the best one is selected: none has
a better score on VALIDATION, none with as good a score has a smaller index, and the decision passes
the check against the evidence.  When none is, that is what is raised. -/
theorem selection_best (setting : SelectionSetting Digest) (runs : PublishedRuns Digest)
    (fold : WalkForwardFoldPlan Digest) (policy : WalkForwardSelectionPolicy)
    (snapshot : DatasetSnapshot Digest) (execution : ExperimentExecutionManifest Digest)
    (evidence : FoldSelectionEvidence Digest)
    (h : buildFoldSelectionEvidence setting runs fold execution policy snapshot = .ok evidence) :
    evidence.values.policy = policy ∧
      List.Forall₂ SpeaksOf fold.experimentPlan.combinations evidence.values.candidates ∧
      (evidence.values.eligible ≠ [] → ∃ decision winner score,
        select setting evidence = .ok decision ∧
          validateSelectionDecisionAgainstEvidence setting decision evidence = .ok () ∧
          Decides evidence decision winner score) ∧
      (evidence.values.eligible = [] → select setting evidence =
        .error (.execution .noEligibleWalkForwardCandidate
          ExecutionErrorKind.noEligibleWalkForwardCandidate.defaultMessage)) := by
  have hevidence := evidenceOf_of_build h
  exact ⟨hevidence.policy_eq, hevidence.combinations, hevidence.select_eq,
    hevidence.select_eq_error⟩

end

/-- The best candidate of the week is selected. -/
theorem selection_best_week : ∃ (fold : WalkForwardFoldPlan ℕ) (evidence : FoldSelectionEvidence ℕ)
    (decision : FoldSelectionDecision ℕ) (winner : SelectionCandidateEvidence ℕ) (score : Decimal),
    buildFoldSelectionEvidence weekSetting (weekRuns "1") fold
        (weekExecution "no candles" fold.experimentPlan) weekRequest.selectionPolicy weekSnapshot =
      .ok evidence ∧
    List.Forall₂ SpeaksOf fold.experimentPlan.combinations evidence.values.candidates ∧
    select weekSetting evidence = .ok decision ∧ Decides evidence decision winner score := by
  obtain ⟨fold, -, -, evidence, hevidence, hne⟩ := exists_executedFold
  obtain ⟨-, hspeaks, hselect, -⟩ := selection_best weekSetting (weekRuns "1") fold
    weekRequest.selectionPolicy weekSnapshot _ evidence hevidence
  obtain ⟨decision, winner, score, hdecision, -, hdecides⟩ := hselect hne
  exact ⟨fold, evidence, decision, winner, score, hevidence, hspeaks, hdecision, hdecides⟩

end Optimization
end DryTrade
