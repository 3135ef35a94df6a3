import DryTrade.Optimization.FoldGeometry

/-!
# Planning the folds of a walk-forward evaluation

What the planner builds passes the checks that its constructors repeat.  Once the preflight has
counted the folds, every fold fits into the snapshot with its warmup and is segmented; a fold fails
only where its experiment does, and the plan of all folds is refused only for its length in bytes.

## Main results

* `preflight_spec` — the preflight counts the windows that fit.
* `createFold_cases` — a fold is created, or its experiment failed.
* `createWalkForward_cases` — a plan is created, or an experiment failed, or it is too long.
-/

namespace DryTrade
namespace Optimization

open MarketData Snapshots Backtesting

/-- A loop that fails fails at one of its elements. -/
theorem exists_of_mapM_eq_error {ε α β : Type} {f : α → Except ε β} {e : ε} :
    ∀ {l : List α}, l.mapM f = .error e → ∃ a ∈ l, f a = .error e := by
  intro l
  induction l with
  | nil =>
    intro h
    cases h
  | cons a l ih =>
    intro h
    rw [List.mapM_cons] at h
    cases ha : f a with
    | error e' =>
      rw [ha] at h
      cases h
      exact ⟨a, List.mem_cons_self, ha⟩
    | ok b =>
      rw [ha, ok_bind] at h
      cases hl : l.mapM f with
      | error e' =>
        rw [hl] at h
        cases h
        obtain ⟨a', hmem, ha'⟩ := ih hl
        exact ⟨a', List.mem_cons_of_mem _ hmem, ha'⟩
      | ok bs =>
        rw [hl] at h
        cases h

section

variable {Digest : Type} [DecidableEq Digest] {digests : PlanningDigests Digest}
  {service : ParameterSearchService} {snapshot : DatasetSnapshot Digest}
  {manifest : DatasetManifest Digest} {request : WalkForwardRequest} {p : Preflight}
  {reference : TemporalSnapshotReference Digest}

/-- **The preflight counts the windows that fit** after the warmup of the first fold. -/
theorem preflight_spec (h : preflight digests snapshot manifest request = .ok p) :
    ∃ usable : ℕ,
      snapshot.dataRange.stop = snapshot.dataRange.start +
        manifest.series.target.duration * (request.windowPolicy.warmupCandles + usable : ℕ) ∧
      p.foldCount = request.windowPolicy.windows.count usable ∧
      p.trailingCandles = request.windowPolicy.windows.trailing usable ∧
      request.windowPolicy.windowCandles ≤ usable ∧
      (2 ≤ p.foldCount ∧ p.foldCount ≤ request.windowPolicy.maxFolds) ∧
      validateSearchSpaceStructure request.searchSpace = .ok p.combinationCount ∧
      (1 ≤ request.maxTotalSpecs ∧ request.maxTotalSpecs ≤ absoluteMaxTotalSpecs) ∧
      p.foldCount * (p.combinationCount * 3) ≤ request.maxTotalSpecs := by
  simp only [preflight, slotCount, bind_eq_ok, mapError_eq_ok, require_eq_ok, exists_const, pure,
    Except.pure, Except.ok.injEq] at h
  obtain ⟨u₁, -, combinationCount, hspace, hlimit, total, ⟨hmod, htotal⟩, htwo, hmax, hspecs, -,
    rfl⟩ := h
  obtain ⟨usable, husable, hfits⟩ :=
    exists_usable request.windowPolicy (le_trans (by norm_num) htwo)
  have hspan : snapshot.dataRange.stop - snapshot.dataRange.start =
      manifest.series.target.duration * total := by
    rw [← htotal]
    exact (Int.mul_ediv_cancel' (Int.dvd_of_emod_eq_zero hmod)).symm
  have htotal' : total = (request.windowPolicy.warmupCandles + usable : ℕ) := by
    push_cast
    linarith
  rw [husable, foldCountOf_natCast] at htwo hmax hspecs ⊢
  refine ⟨usable, ?_, rfl, trailingOf_natCast _ hfits, hfits, ⟨htwo, hmax⟩, hspace, hlimit, hspecs⟩
  rw [← htotal']
  linarith

/-- What is created is an experiment of what it is created for, and passes its checks. -/
theorem createExperiment_spec {sha256 : List Char → String} {identify : SnapshotIdentity Digest}
    {temporalDigests : TemporalDigests Digest} {experimentDigests : ExperimentDigests Digest}
    {temporalPlan : TemporalSegmentationPlan Digest} {space : ParameterSearchSpace}
    {experiment : ExperimentRequest} {maxRunSpecs : ℕ} {plan : ExperimentPlan Digest}
    (h : createExperiment sha256 identify temporalDigests experimentDigests service snapshot
      manifest temporalPlan space experiment maxRunSpecs = .ok plan) :
    plan.temporalPlan = temporalPlan ∧ plan.snapshot = temporalPlan.snapshot ∧
      plan.searchSpace = space ∧ plan.backtestConfiguration = experiment.configuration ∧
      plan.plugin = ⟨space.pluginName, space.pluginVersion, space.pluginSchemaVersion,
        space.pluginLifecycleVersion⟩ ∧
      validateExperimentPluginReference plan.plugin = .ok () ∧
      validateExperimentBacktestConfiguration plan.backtestConfiguration = .ok () ∧
      validateExperimentPlan sha256 identify temporalDigests experimentDigests plan = .ok () := by
  simp only [createExperiment, bind_eq_ok, require_eq_ok, exists_const, pure, Except.pure,
    Except.ok.injEq] at h
  obtain ⟨u₁, -, descriptor, -, -, cardinality, -, u₂, hconfiguration, combinations, -, pending, -,
    u₃, -, u₄, hvalid, rfl⟩ := h
  have hchecks := hvalid
  simp only [validateExperimentPlan, bind_eq_ok, require_eq_ok, exists_const] at hchecks
  obtain ⟨u₅, -, n, -, u₆, -, -, u₇, hreference, -, hplugin, -⟩ := hchecks
  exact ⟨rfl, rfl, rfl, rfl, hplugin, hreference, hconfiguration, hvalid⟩

/-! ### Folds -/

variable {firstStart : Instant} {i specsPerFold : ℕ} {fold : WalkForwardFoldPlan Digest}
  {r : DataRange}

/-- The range of a fold is that of its window. -/
theorem foldRange_spec {duration : ℤ} {policy : WalkForwardWindowPolicy}
    (h : foldRange duration firstStart policy i = .ok r) :
    r.start = firstStart + duration * (policy.windows.start i : ℕ) ∧
      r.stop = firstStart + duration * (policy.windows.stop i : ℕ) := by
  simp only [foldRange, bind_eq_ok, orRaise_eq_ok, shifted_eq_some] at h
  obtain ⟨start, ⟨hstart, -⟩, stop, ⟨hstop, -⟩, hr⟩ := h
  split at hr
  · cases hr
    refine ⟨hstart, ?_⟩
    show stop = _
    rw [hstop, hstart]
    unfold RollingWindows.stop RollingWindows.start
    push_cast
    show firstStart + _ + _ = firstStart + _
    simp only [windows_step, windows_size]
    ring
  · cases hr

/-- A window between two instants of a `datetime` has a range. -/
theorem foldRange_ok {duration : ℤ} {policy : WalkForwardWindowPolicy} (hd : 0 < duration)
    (hlow : firstInstant ≤ firstStart)
    (hhigh : firstStart + duration * (policy.windows.stop i : ℕ) ≤ lastInstant) :
    ∃ r, foldRange duration firstStart policy i = .ok r := by
  have hstop : duration * (policy.windows.stop i : ℕ) =
      duration * (i * policy.testCandles : ℕ) + duration * (policy.windowCandles : ℕ) := by
    unfold RollingWindows.stop RollingWindows.start
    simp only [windows_step, windows_size]
    push_cast
    ring
  have hwindow : 0 < duration * (policy.windowCandles : ℤ) := by
    have hpos : 1 ≤ policy.windowCandles := policy.test_valid.1.trans (Nat.le_add_left _ _)
    exact mul_pos hd (by exact_mod_cast hpos)
  have hroll : 0 ≤ duration * ((i * policy.testCandles : ℕ) : ℤ) :=
    mul_nonneg hd.le (Int.natCast_nonneg _)
  rw [hstop] at hhigh
  have hlt : firstStart + duration * ((i * policy.testCandles : ℕ) : ℤ) <
      firstStart + duration * ((i * policy.testCandles : ℕ) : ℤ) +
        duration * (policy.windowCandles : ℤ) := lt_add_of_pos_right _ hwindow
  refine ⟨⟨_, _, hlt⟩, ?_⟩
  simp only [foldRange, bind_eq_ok, orRaise_eq_ok, shifted_eq_some]
  refine ⟨_, ⟨rfl, by linarith, by linarith⟩, _, ⟨rfl, by linarith, by linarith⟩, ?_⟩
  rw [dif_pos hlt]
  rfl

/-- What a created fold is: the plans of its range, with its digests. -/
structure CreatedFold (digests : PlanningDigests Digest)
    (reference : TemporalSnapshotReference Digest) (request : WalkForwardRequest)
    (r : DataRange) (i : ℕ) (fold : WalkForwardFoldPlan Digest) : Prop where
  index : fold.foldIndex = i
  segmentation : SegmentationOf digests.temporal reference r request.windowPolicy.trainCandles
    request.windowPolicy.validationCandles request.windowPolicy.testCandles
    request.windowPolicy.warmupCandles fold.temporalPlan
  coverage : fold.selectedCoverage = fold.temporalPlan.selectedCoverage
  plans : fold.experimentPlan.temporalPlan = fold.temporalPlan
  snapshot : fold.experimentPlan.snapshot = reference
  space : fold.experimentPlan.searchSpace = request.searchSpace
  configuration : fold.experimentPlan.backtestConfiguration = request.experiment.configuration
  plugin : fold.experimentPlan.plugin = ⟨request.searchSpace.pluginName,
    request.searchSpace.pluginVersion, request.searchSpace.pluginSchemaVersion,
    request.searchSpace.pluginLifecycleVersion⟩
  validPlugin : validateExperimentPluginReference fold.experimentPlan.plugin = .ok ()
  validConfiguration :
    validateExperimentBacktestConfiguration fold.experimentPlan.backtestConfiguration = .ok ()
  valid : validateWalkForwardFoldPlan digests fold = .ok ()

/-- What is created is a fold of its range. -/
theorem createFold_spec (hreference : snapshotReference digests.identify snapshot manifest =
      .ok reference)
    (h : createFold digests service snapshot manifest request specsPerFold firstStart i =
      .ok fold) :
    ∃ r, foldRange manifest.series.target.duration firstStart request.windowPolicy i = .ok r ∧
      CreatedFold digests reference request r i fold := by
  simp only [createFold, bind_eq_ok, mapError_eq_ok, pure, Except.pure, Except.ok.injEq] at h
  obtain ⟨r, hr, temporalPlan, htemporal, experimentPlan, hexperiment, u, hvalid, rfl⟩ := h
  obtain ⟨hshape, -⟩ := createSegmentation_shape hreference htemporal
  obtain ⟨hplans, hsnapshot, hspace, hconfiguration, hplugin, hvalidPlugin, hvalidConfiguration,
    -⟩ := createExperiment_spec hexperiment
  exact ⟨r, hr, rfl, hshape, rfl, hplans, hsnapshot.trans hshape.snapshot, hspace, hconfiguration,
    hplugin, hvalidPlugin, hvalidConfiguration, hvalid⟩

/-- **A fold that fits is created, or its experiment failed.** -/
theorem createFold_cases
    (hreference : snapshotReference digests.identify snapshot manifest = .ok reference)
    (hdatetimes : firstInstant ≤ snapshot.dataRange.start ∧ snapshot.dataRange.stop ≤ lastInstant)
    (hfirst : firstStart = snapshot.dataRange.start + manifest.series.target.duration *
      request.windowPolicy.warmupCandles)
    (hfits : firstStart + manifest.series.target.duration *
      (request.windowPolicy.windows.stop i : ℕ) ≤ snapshot.dataRange.stop)
    (hi : i < absoluteMaxFolds) :
    (∃ fold, createFold digests service snapshot manifest request specsPerFold firstStart i =
      .ok fold) ∨
    ∃ r temporalPlan error,
      foldRange manifest.series.target.duration firstStart request.windowPolicy i = .ok r ∧
      createSegmentation digests.identify digests.temporal snapshot manifest r
        request.windowPolicy.trainCandles request.windowPolicy.validationCandles
        request.windowPolicy.testCandles request.windowPolicy.warmupCandles = .ok temporalPlan ∧
      createExperiment digests.sha256 digests.identify digests.temporal digests.experiment service
        snapshot manifest temporalPlan request.searchSpace request.experiment specsPerFold =
          .error error ∧
      createFold digests service snapshot manifest request specsPerFold firstStart i =
        .error (.experiment error) := by
  obtain ⟨-, hseries, havailableStart, havailableStop, htimeframe, -⟩ :=
    snapshotReference_spec hreference
  have hd := manifest.series.target.duration_pos
  have hwarmup : 0 ≤ manifest.series.target.duration *
      (request.windowPolicy.warmupCandles : ℤ) := mul_nonneg hd.le (Int.natCast_nonneg _)
  obtain ⟨r, hr⟩ := foldRange_ok hd (show firstInstant ≤ firstStart by linarith [hdatetimes.1])
    (hfits.trans hdatetimes.2)
  obtain ⟨hstart, hstop⟩ := foldRange_spec hr
  obtain ⟨temporalPlan, htemporal⟩ : ∃ plan, createSegmentation digests.identify digests.temporal
      snapshot manifest r request.windowPolicy.trainCandles
      request.windowPolicy.validationCandles request.windowPolicy.testCandles
      request.windowPolicy.warmupCandles = .ok plan := by
    refine createSegmentation_ok hreference hdatetimes request.windowPolicy.train_valid
      request.windowPolicy.validation_valid request.windowPolicy.test_valid
      request.windowPolicy.warmup_valid ?_ ?_ ?_ (hstop ▸ hfits)
    · rw [hseries, hstart, hfirst, validateOpenTime_add_mul, validateOpenTime_add_mul,
        ← havailableStart, ← htimeframe]
      exact reference.availableCoverage.start_aligned
    · rw [hseries, hstop, hstart]
      unfold RollingWindows.stop
      push_cast
      show firstStart + _ = firstStart + _ + _
      simp only [windows_size, WalkForwardWindowPolicy.windowCandles, Nat.cast_add]
      ring
    · rw [hseries, hstart, hfirst]
      have hroll : 0 ≤ manifest.series.target.duration *
          (request.windowPolicy.windows.start i : ℤ) := mul_nonneg hd.le (Int.natCast_nonneg _)
      linarith
  obtain ⟨hshape, hplanValid⟩ := createSegmentation_shape hreference htemporal
  cases hexperiment : createExperiment digests.sha256 digests.identify digests.temporal
      digests.experiment service snapshot manifest temporalPlan request.searchSpace
      request.experiment specsPerFold with
  | error error =>
    refine .inr ⟨r, temporalPlan, error, hr, htemporal, hexperiment, ?_⟩
    simp only [createFold, hr, ok_bind, htemporal, hexperiment, Except.mapError]
    rfl
  | ok experimentPlan =>
    obtain ⟨hplans, -, -, -, -, -, -, hvalid⟩ := createExperiment_spec hexperiment
    set values : FoldValues Digest :=
      ⟨i, temporalPlan.selectedCoverage, temporalPlan, experimentPlan⟩ with hvalues
    refine .inl ⟨⟨i, temporalPlan.selectedCoverage, temporalPlan, experimentPlan,
      digests.encodings.foldChecksum values, digests.encodings.foldId values⟩, ?_⟩
    simp only [createFold, bind_eq_ok, mapError_eq_ok, pure, Except.pure, Except.ok.injEq]
    refine ⟨r, hr, temporalPlan, htemporal, experimentPlan, hexperiment, (), ?_, rfl⟩
    simp only [validateWalkForwardFoldPlan, checkedInt, bind_eq_ok, mapError_eq_ok, require_eq_ok,
      exists_const]
    refine ⟨⟨Int.natCast_nonneg _, ?_⟩, (), hplanValid, trivial, (), hvalid, hplans, rfl, rfl⟩
    unfold absoluteMaxFolds at hi ⊢
    push_cast
    omega

/-- The TEST segment of a created fold is the tail of its window. -/
theorem CreatedFold.test (h : CreatedFold digests reference request r i fold)
    (hr : foldRange reference.series.target.duration firstStart request.windowPolicy i = .ok r) :
    ∃ test, fold.segment 2 = some test ∧
      test.start = firstStart + reference.series.target.duration *
        (request.windowPolicy.windows.tail i : ℕ) ∧
      test.stop = firstStart + reference.series.target.duration *
        (request.windowPolicy.windows.stop i : ℕ) := by
  obtain ⟨hstart, hstop⟩ := foldRange_spec hr
  obtain ⟨values, hsegments, v₀, vs₀, rfl, -, v₁, vs₁, rfl, -, v₂, vs₂, rfl,
    ⟨-, -, hfirst, hlast, -⟩, -⟩ := h.segmentation.segments
  refine ⟨sealSegment digests.temporal fold.temporalPlan.planId v₂, ?_, ?_, ?_⟩
  · unfold WalkForwardFoldPlan.segment
    rw [hsegments]
    rfl
  · show v₂.evaluation.start = _
    rw [hfirst, hstart, windows_tail]
    unfold RollingWindows.start
    push_cast
    show firstStart + _ + _ + _ = firstStart + _
    simp only [windows_step]
    ring
  · show v₂.evaluation.stop = _
    rw [hlast, hstart]
    unfold RollingWindows.stop RollingWindows.start
    push_cast
    show firstStart + _ + _ + _ + _ = firstStart + _
    simp only [windows_step, windows_size, WalkForwardWindowPolicy.windowCandles, Nat.cast_add]
    ring

/-- The plan of some created folds has what each of them has. -/
structure CollectsFolds (digests : PlanningDigests Digest)
    (reference : TemporalSnapshotReference Digest) (request : WalkForwardRequest)
    (firstStart : Instant) (values : WalkForwardValues Digest) : Prop where
  snapshot : values.snapshot = reference
  policy : values.windowPolicy = request.windowPolicy
  space : values.searchSpace = request.searchSpace
  plugin : values.plugin = ⟨request.searchSpace.pluginName, request.searchSpace.pluginVersion,
    request.searchSpace.pluginSchemaVersion, request.searchSpace.pluginLifecycleVersion⟩
  configuration : values.backtestConfiguration = request.experiment.configuration
  folds : ∀ i fold, values.folds[i]? = some fold → ∃ r,
    foldRange reference.series.target.duration firstStart request.windowPolicy i = .ok r ∧
      CreatedFold digests reference request r i fold

/-- A created fold is accepted at its place. -/
theorem validatePlanFold_collected {values : WalkForwardValues Digest}
    (h : CollectsFolds digests reference request firstStart values)
    (hlow : firstInstant ≤ firstStart)
    (hhigh : firstStart + reference.series.target.duration *
      (request.windowPolicy.windows.stop i : ℕ) ≤ lastInstant)
    (hi : values.folds[i]? = some fold) :
    validatePlanFold digests values reference.series.target.duration firstStart (fold, i) =
      .ok () := by
  obtain ⟨r, hr, hfold⟩ := h.folds i fold hi
  obtain ⟨hstart, hstop⟩ := foldRange_spec hr
  obtain ⟨test, htest, htestStart, htestStop⟩ := hfold.test hr
  have hd := reference.series.target.duration_pos
  set d := reference.series.target.duration with hd'
  set w := request.windowPolicy.windows with hw
  have hbounds : ∀ k ≤ w.stop i,
      firstInstant ≤ firstStart + d * (k : ℕ) ∧ firstStart + d * (k : ℕ) ≤ lastInstant := by
    intro k hk
    have hnonneg : 0 ≤ d * ((k : ℕ) : ℤ) := mul_nonneg hd.le (Int.natCast_nonneg _)
    have hle : d * ((k : ℕ) : ℤ) ≤ d * ((w.stop i : ℕ) : ℤ) :=
      mul_le_mul_of_nonneg_left (by exact_mod_cast hk) hd.le
    exact ⟨by linarith, by linarith⟩
  have hadd : ∀ a b : ℕ, firstStart + d * ((a + b : ℕ) : ℤ) = firstStart + d * (a : ℤ) + d * b := by
    intro a b
    push_cast
    show _ = firstStart + _ + _
    ring
  have htail : w.tail i = w.start i +
      (request.windowPolicy.trainCandles + request.windowPolicy.validationCandles) := by
    rw [hw, windows_tail]
    rfl
  simp only [validatePlanFold, hfold.valid, ok_bind, bind_eq_ok, require_eq_ok, exists_const,
    orRaise_eq_ok, shifted_eq_some, h.snapshot, h.policy, h.space, h.plugin, h.configuration,
    hfold.segmentation.snapshot, hfold.space, hfold.plugin, hfold.configuration,
    hfold.coverage, hfold.segmentation.train_eq, hfold.segmentation.validation_eq,
    hfold.segmentation.test_eq, hfold.segmentation.warmup_eq, hfold.segmentation.start,
    hfold.segmentation.stop, hfold.segmentation.count, true_and]
  have hstop' : r.stop = firstStart + d * ((w.start i : ℕ) : ℤ) + d * w.size := by
    rw [hstop, ← hadd]
    rfl
  have htestStart' : test.start = firstStart + d * ((w.start i : ℕ) : ℤ) +
      d * (request.windowPolicy.trainCandles + request.windowPolicy.validationCandles : ℕ) := by
    rw [htestStart, htail, hadd]
  have htestStop' : test.stop = test.start + d * w.step := by
    rw [htestStop, htestStart, ← hadd, w.tail_add_step]
  refine ⟨hfold.index, firstStart + d * (w.start i : ℕ),
    ⟨rfl, hbounds _ (w.start_le_tail.trans w.tail_le_stop)⟩, r.stop, ⟨hstop', ?_⟩,
    ⟨hstart, rfl, rfl⟩, test, htest, test.start, ⟨htestStart', ?_⟩, test.stop, ⟨htestStop', ?_⟩,
    ⟨rfl, rfl⟩, ?_⟩
  · rw [hstop]
    exact hbounds _ le_rfl
  · rw [htestStart]
    exact hbounds _ w.tail_le_stop
  · rw [htestStop]
    exact hbounds _ le_rfl
  · -- the TEST segment of the fold before ends where the tail of its window does
    rcases i with _ | j
    · exact .inl rfl
    · have hj : j < values.folds.length :=
        (Nat.lt_succ_self j).trans (List.getElem?_eq_some_iff.mp hi).1
      have hprevious : values.folds[j]? = some values.folds[j] := List.getElem?_eq_getElem hj
      obtain ⟨r', hr', hfold'⟩ := h.folds j _ hprevious
      obtain ⟨test', htest', -, hend'⟩ := hfold'.test hr'
      refine .inr ?_
      rw [Nat.add_sub_cancel, hprevious, Option.bind_some, htest', Option.map_some, hend',
        htestStart, w.tail_succ]

/-! ### Plans -/

/-- The plan of all folds that fit passes its checks. -/
theorem validateWalkForwardPlan_collected {values : WalkForwardValues Digest} {usable : ℕ}
    (h : CollectsFolds digests reference request firstStart values)
    (hreference : validateTemporalSnapshotReference digests.identify reference = .ok ())
    (hdatetimes : firstInstant ≤ reference.availableCoverage.start ∧
      reference.availableCoverage.stop ≤ lastInstant)
    (hfirst : firstStart = reference.availableCoverage.start +
      reference.series.target.duration * request.windowPolicy.warmupCandles)
    (hstop : reference.availableCoverage.stop = reference.availableCoverage.start +
      reference.series.target.duration * (request.windowPolicy.warmupCandles + usable : ℕ))
    (hfits : request.windowPolicy.windowCandles ≤ usable)
    (hlength : values.folds.length = request.windowPolicy.windows.count usable)
    (hbounds : 2 ≤ values.folds.length ∧ values.folds.length ≤ request.windowPolicy.maxFolds)
    (hfoldCount : values.foldCount = request.windowPolicy.windows.count usable)
    (htrailing : values.trailingCandles = request.windowPolicy.windows.trailing usable)
    (hspace : validateSearchSpaceStructure request.searchSpace = .ok values.combinationCount)
    (hspecsPerFold : values.specsPerFold = values.combinationCount * 3)
    (htotal : values.totalSpecs = values.foldCount * values.specsPerFold)
    (hlimit : 1 ≤ values.maxTotalSpecs ∧ values.maxTotalSpecs ≤ absoluteMaxTotalSpecs)
    (hspecs : values.totalSpecs ≤ values.maxTotalSpecs) :
    validateWalkForwardPlan digests
      ⟨values, digests.encodings.planChecksum values, digests.encodings.planId values⟩ =
        .ok () := by
  set w := request.windowPolicy.windows with hw
  set d := reference.series.target.duration with hd'
  have hd : 0 < d := reference.series.target.duration_pos
  obtain ⟨k, hk⟩ : ∃ k, w.count usable = k + 1 :=
    ⟨w.count usable - 1, by omega⟩
  have hlast : w.stop k + w.trailing usable = usable := w.stop_add_trailing hk
  have hend : reference.availableCoverage.stop = firstStart + d * (usable : ℕ) := by
    rw [hstop, hfirst]
    push_cast
    show _ = reference.availableCoverage.start + _ + _
    ring
  have hroll : ∀ i ≤ k, firstStart + d * (w.stop i : ℕ) ≤ lastInstant := by
    intro i hi
    have hle : w.stop i ≤ usable := (w.stop_mono hi).trans (Nat.le.intro hlast)
    have hmul : d * ((w.stop i : ℕ) : ℤ) ≤ d * ((usable : ℕ) : ℤ) :=
      mul_le_mul_of_nonneg_left (by exact_mod_cast hle) hd.le
    linarith [hdatetimes.2]
  have hlow : firstInstant ≤ firstStart := by
    have hwarmup : 0 ≤ d * (request.windowPolicy.warmupCandles : ℤ) :=
      mul_nonneg hd.le (Int.natCast_nonneg _)
    linarith [hdatetimes.1]
  have hhigh : firstStart ≤ lastInstant := by
    have hnonneg : 0 ≤ d * ((w.stop k : ℕ) : ℤ) := mul_nonneg hd.le (Int.natCast_nonneg _)
    linarith [hroll k le_rfl]
  have hspan : reference.availableCoverage.stop - reference.availableCoverage.start =
      d * (request.windowPolicy.warmupCandles + usable : ℕ) := by
    rw [hstop]
    exact add_sub_cancel_left _ _
  have husable : (reference.availableCoverage.stop - reference.availableCoverage.start) / d -
      request.windowPolicy.warmupCandles = (usable : ℤ) := by
    rw [hspan, Int.mul_ediv_cancel_left _ hd.ne', Nat.cast_add]
    exact add_sub_cancel_left _ _
  have hlength' : values.folds.length = k + 1 := hlength.trans hk
  have hzero : values.folds[0]? = some values.folds[0] :=
    List.getElem?_eq_getElem (hlength'.symm ▸ Nat.succ_pos k)
  obtain ⟨r₀, -, hfold₀⟩ := h.folds 0 _ hzero
  have hplugin : validateExperimentPluginReference values.plugin = .ok () := by
    rw [h.plugin, ← hfold₀.plugin]
    exact hfold₀.validPlugin
  have hconfiguration :
      validateExperimentBacktestConfiguration values.backtestConfiguration = .ok () := by
    rw [h.configuration, ← hfold₀.configuration]
    exact hfold₀.validConfiguration
  obtain ⟨last, hk'⟩ : ∃ last, values.folds[k]? = some last :=
    ⟨_, List.getElem?_eq_getElem (hlength'.symm ▸ Nat.lt_succ_self k)⟩
  have hlastFold : values.folds.getLast? = some last := by
    rw [List.getLast?_eq_getElem?, hlength', Nat.add_sub_cancel]
    exact hk'
  obtain ⟨r, hr, hfold⟩ := h.folds k _ hk'
  have hconsumed : last.selectedCoverage.stop = firstStart + d * (w.stop k : ℕ) := by
    rw [hfold.coverage, hfold.segmentation.stop, (foldRange_spec hr).2]
  have hleft : reference.availableCoverage.stop =
      firstStart + d * (w.stop k : ℕ) + d * (w.trailing usable : ℕ) := by
    rw [hend]
    conv_lhs => rw [← hlast]
    push_cast
    show firstStart + _ = firstStart + _ + _
    ring
  have hcount : ((w.count usable : ℕ) : ℤ) ≠ 0 := by
    rw [hk]
    exact_mod_cast Nat.succ_ne_zero k
  have hplaced : ∀ a ∈ values.folds.zipIdx,
      validatePlanFold digests values d firstStart a = .ok () := by
    rintro ⟨fold, i⟩ hmem
    have hi := List.mem_zipIdx_iff_getElem?.mp hmem
    have hik : i ≤ k := by
      have hlt := (List.getElem?_eq_some_iff.mp hi).1
      omega
    exact validatePlanFold_collected h hlow (hroll i hik) hi
  have hmod : (reference.availableCoverage.stop - reference.availableCoverage.start) % d = 0 := by
    rw [hspan]
    exact Int.mul_emod_right _ _
  have htrailing' := w.trailing_lt hfits
  have htest := request.windowPolicy.test_valid.2
  simp only [validateWalkForwardPlan, checkedInt, bind_eq_ok, mapError_eq_ok, require_eq_ok,
    exists_const, orRaise_eq_ok, shifted_eq_some, forM_eq_ok, h.snapshot, h.policy, h.space,
    ← hd', husable, foldCountOf_natCast, ← hw, if_neg hcount]
  refine ⟨(), hreference, values.combinationCount, hspace, (), hplugin, (), hconfiguration,
    hbounds.1, hbounds.2, hmod, firstStart, ⟨hfirst, hlow, hhigh⟩, hplaced, hfoldCount, rfl,
    hspecsPerFold, ?_, ?_, ?_, last, hlastFold, reference.availableCoverage.stop,
    ⟨?_, ?_, hdatetimes.2⟩, rfl, by exact_mod_cast hlimit, hspecs, trivial, trivial⟩
  · rw [htotal, hfoldCount, hlength, hspecsPerFold]
  · rw [htrailing]
    unfold maxSegmentCandles at htest
    rw [hw, windows_step] at htrailing'
    exact ⟨Int.natCast_nonneg _, by exact_mod_cast htrailing'.le.trans htest⟩
  · rw [htrailing, hw, trailingOf_natCast _ hfits]
  · rw [hconsumed, htrailing]
    exact hleft
  · exact hdatetimes.1.trans reference.availableCoverage.start_lt_stop.le

/-- **The planner creates a plan, unless the experiment of a fold fails or the plan is too long.**
After the preflight no fold is refused for its range, its segments or its place, and the plan is not
refused for its folds or its counts. -/
theorem createWalkForward_cases (hp : preflight digests snapshot manifest request = .ok p)
    (hreference : snapshotReference digests.identify snapshot manifest = .ok reference)
    (hdatetimes :
      firstInstant ≤ snapshot.dataRange.start ∧ snapshot.dataRange.stop ≤ lastInstant) :
    (∃ plan, createWalkForward digests service snapshot manifest request = .ok plan) ∨
    (∃ (i : ℕ) (r : DataRange) (temporalPlan : TemporalSegmentationPlan Digest)
        (error : ExperimentError), (i : ℤ) < p.foldCount ∧
      foldRange manifest.series.target.duration (snapshot.dataRange.start +
        manifest.series.target.duration * request.windowPolicy.warmupCandles)
        request.windowPolicy i = .ok r ∧
      createSegmentation digests.identify digests.temporal snapshot manifest r
        request.windowPolicy.trainCandles request.windowPolicy.validationCandles
        request.windowPolicy.testCandles request.windowPolicy.warmupCandles = .ok temporalPlan ∧
      createExperiment digests.sha256 digests.identify digests.temporal digests.experiment service
        snapshot manifest temporalPlan request.searchSpace request.experiment
        (p.combinationCount * 3) = .error error ∧
      createWalkForward digests service snapshot manifest request = .error (.experiment error)) ∨
    createWalkForward digests service snapshot manifest request =
      .error (limitError "walk-forward plan exceeds its document byte limit") := by
  obtain ⟨usable, hspan, hfoldCount, htrailing, hfits, hbounds, hspace, hlimit, hspecs⟩ :=
    preflight_spec hp
  obtain ⟨hvalid, hseries, havailableStart, havailableStop, -, -⟩ :=
    snapshotReference_spec hreference
  have hd := manifest.series.target.duration_pos
  set d := manifest.series.target.duration with hd'
  set w := request.windowPolicy.windows with hw
  set firstStart := snapshot.dataRange.start + d * (request.windowPolicy.warmupCandles : ℤ)
    with hfirst
  have hend : snapshot.dataRange.stop = firstStart + d * (usable : ℕ) := by
    rw [hspan, hfirst]
    push_cast
    show _ = snapshot.dataRange.start + _ + _
    ring
  have hroll : ∀ i < w.count usable, firstStart + d * (w.stop i : ℕ) ≤ snapshot.dataRange.stop := by
    intro i hi
    have hmul : d * ((w.stop i : ℕ) : ℤ) ≤ d * ((usable : ℕ) : ℤ) :=
      mul_le_mul_of_nonneg_left (by exact_mod_cast w.lt_count_iff.mp hi) hd.le
    rw [hend]
    linarith
  have hshift : shifted snapshot.dataRange.start (d * request.windowPolicy.warmupCandles) =
      some firstStart := by
    have hwarmup : 0 ≤ d * (request.windowPolicy.warmupCandles : ℤ) :=
      mul_nonneg hd.le (Int.natCast_nonneg _)
    have husable : 0 ≤ d * ((usable : ℕ) : ℤ) := mul_nonneg hd.le (Int.natCast_nonneg _)
    exact shifted_eq_some.mpr ⟨rfl, by linarith [hdatetimes.1], by linarith [hdatetimes.2]⟩
  rw [hfoldCount] at hbounds
  have htoNat : p.foldCount.toNat = w.count usable := by
    rw [hfoldCount]
    exact Int.toNat_natCast _
  cases hfolds : (List.range p.foldCount.toNat).mapM (createFold digests service snapshot manifest
      request (p.combinationCount * 3) firstStart) with
  | error e =>
    have hcreate : createWalkForward digests service snapshot manifest request = .error e := by
      simp only [createWalkForward, hp, ok_bind, ← hd', hshift, orRaise, hfolds]
      rfl
    obtain ⟨i, hi, hfold⟩ := exists_of_mapM_eq_error hfolds
    rw [List.mem_range, htoNat] at hi
    have hmax : i < absoluteMaxFolds := by
      have hle := request.windowPolicy.maxFolds_valid.2
      have hlt : w.count usable ≤ request.windowPolicy.maxFolds := by exact_mod_cast hbounds.2
      omega
    have hcases : (∃ fold, createFold digests service snapshot manifest request
        (p.combinationCount * 3) firstStart i = .ok fold) ∨ _ :=
      createFold_cases hreference hdatetimes hfirst (hroll i hi) hmax
    rcases hcases with ⟨fold, hok⟩ | ⟨r, temporalPlan, error, hr, htemporal, hexperiment, herror⟩
    · rw [hok] at hfold
      cases hfold
    · rw [herror] at hfold
      cases hfold
      refine .inr (.inl ⟨i, r, temporalPlan, error, ?_, hr, htemporal, hexperiment, hcreate⟩)
      rw [hfoldCount]
      exact_mod_cast hi
  | ok folds =>
    obtain ⟨hlength, hget⟩ := List.forall₂_iff_get.mp (forall₂_of_mapM hfolds)
    rw [List.length_range, htoNat] at hlength
    have hfold : ∀ i fold, folds[i]? = some fold → createFold digests service snapshot manifest
        request (p.combinationCount * 3) firstStart i = .ok fold := by
      intro i fold hi
      obtain ⟨hlt, rfl⟩ := List.getElem?_eq_some_iff.mp hi
      have hi' : i < (List.range p.foldCount.toNat).length := by
        rw [List.length_range, htoNat, hlength]
        exact hlt
      have hcreated := hget i hi' hlt
      rwa [List.get_eq_getElem, List.getElem_range, List.get_eq_getElem] at hcreated
    obtain ⟨first, hfirstFold⟩ : ∃ first, folds[0]? = some first := by
      have htwo : 2 ≤ w.count usable := by exact_mod_cast hbounds.1
      exact ⟨_, List.getElem?_eq_getElem (by omega)⟩
    obtain ⟨r₀, -, hcreated⟩ := createFold_spec hreference (hfold 0 first hfirstFold)
    have hhead : folds.head? = some first := by rw [List.head?_eq_getElem?, hfirstFold]
    set values : WalkForwardValues Digest :=
      { snapshot := first.experimentPlan.snapshot
        windowPolicy := request.windowPolicy
        selectionPolicy := request.selectionPolicy
        searchSpace := request.searchSpace
        plugin := first.experimentPlan.plugin
        backtestConfiguration := request.experiment.configuration
        folds := folds
        foldCount := p.foldCount
        combinationCount := p.combinationCount
        specsPerFold := p.combinationCount * 3
        totalSpecs := p.foldCount * (p.combinationCount * 3 : ℕ)
        trailingCandles := p.trailingCandles
        maxTotalSpecs := request.maxTotalSpecs } with hvalues
    by_cases hbytes : digests.encodings.planBytes values ≤ maxWalkForwardManifestBytes
    · refine .inl ⟨⟨values, digests.encodings.planChecksum values,
        digests.encodings.planId values⟩, ?_⟩
      have hcollects : CollectsFolds digests reference request firstStart values := by
        refine ⟨hcreated.snapshot, rfl, rfl, hcreated.plugin, rfl, fun i fold hi => ?_⟩
        rw [hseries, ← hd']
        exact createFold_spec hreference (hfold i fold hi)
      have hplan := validateWalkForwardPlan_collected hcollects hvalid
        (by rw [havailableStart, havailableStop]; exact hdatetimes)
        (by rw [havailableStart, hseries])
        (by rw [havailableStart, havailableStop, hseries]; exact hspan) hfits hlength.symm
        (by rw [← hlength]; exact_mod_cast hbounds) hfoldCount htrailing hspace rfl rfl hlimit
        (by exact_mod_cast hspecs)
      simp only [createWalkForward, bind_eq_ok, require_eq_ok, exists_const, orRaise_eq_ok, pure,
        Except.pure, Except.ok.injEq]
      exact ⟨p, hp, firstStart, hshift, folds, hfolds, first, hhead, hbytes, (), hplan, rfl⟩
    · refine .inr (.inr ?_)
      simp only [createWalkForward, hp, ok_bind, ← hd', hshift, orRaise, hfolds, hhead, ← hvalues]
      rw [require, if_neg hbytes]
      rfl

end

/-- The planner, of the week. -/
theorem createWalkForward_cases_week : ∃ p,
    preflight indexDigests weekSnapshot weekManifest weekRequest = .ok p ∧
    ((∃ plan, createWalkForward indexDigests sampleService weekSnapshot weekManifest
        weekRequest = .ok plan) ∨
      (∃ (i : ℕ) (r : DataRange) (temporalPlan : TemporalSegmentationPlan ℕ)
          (error : ExperimentError), (i : ℤ) < p.foldCount ∧
        foldRange 86400000000 0 fourDayWindows i = .ok r ∧
        createSegmentation indexDigests.identify indexDigests.temporal weekSnapshot weekManifest
          r 1 1 2 0 = .ok temporalPlan ∧
        createExperiment indexDigests.sha256 indexDigests.identify indexDigests.temporal
          indexDigests.experiment sampleService weekSnapshot weekManifest temporalPlan oneChoice
          weekRequest.experiment (p.combinationCount * 3) = .error error ∧
        createWalkForward indexDigests sampleService weekSnapshot weekManifest weekRequest =
          .error (.experiment error)) ∨
      createWalkForward indexDigests sampleService weekSnapshot weekManifest weekRequest =
        .error (limitError "walk-forward plan exceeds its document byte limit")) := by
  obtain ⟨plan, hplan⟩ := exists_weekPlan
  obtain ⟨p, hp, -⟩ := bind_eq_ok.mp hplan
  have hreference : (snapshotReference indexDigests.identify weekSnapshot weekManifest).isOk =
      true := by
    decide +kernel
  cases h : snapshotReference indexDigests.identify weekSnapshot weekManifest with
  | error e =>
    rw [h] at hreference
    cases hreference
  | ok reference => exact ⟨p, hp, createWalkForward_cases hp h (by decide)⟩

end Optimization
end DryTrade
