import DryTrade.Optimization.Segmentation
import DryTrade.Optimization.WalkForward
import DryTrade.RollingWindows

/-!
# The geometry of walk-forward plans

The folds of a plan are the rolling windows of its policy, and their TEST segments are the tails.  A
plan that passes its checks, whether it was just created or read back from a document, holds every
instant out in exactly one TEST segment, from the first one to the candles that are left over; and
no run that trains a model or selects one reads anything of its TEST segment.

## Main definitions

* `WalkForwardWindowPolicy.windows` — the rolling windows of a policy.
* `HeldOut` — an instant is in the TEST segment of a fold.
* `WalksForward` — what a plan says of its snapshot.

## Main results

* `runSpec_of_valid` — what the runs of an experiment that passes its checks read.
* `walksForward_of_valid` — a walk-forward plan that passes its checks walks forward.
-/

namespace DryTrade
namespace Optimization

open MarketData Snapshots Backtesting

/-! ### Windows -/

/-- The windows of a policy, one for each fold; their tails are the TEST segments. -/
def WalkForwardWindowPolicy.windows (p : WalkForwardWindowPolicy) : RollingWindows where
  size := p.windowCandles
  step := p.testCandles
  step_pos := p.test_valid.1
  step_le := Nat.le_add_left _ _

section

variable (p : WalkForwardWindowPolicy) {usable : ℤ} {n : ℕ}

@[simp] theorem windows_size : p.windows.size = p.windowCandles := rfl

@[simp] theorem windows_step : p.windows.step = p.testCandles := rfl

theorem foldCountOf_natCast : foldCountOf p (n : ℤ) = p.windows.count n := by
  unfold foldCountOf
  rcases lt_or_ge n p.windowCandles with h | h
  · rw [if_pos (by exact_mod_cast h), p.windows.count_of_lt h]
    rfl
  · rw [if_neg (not_lt.mpr (by exact_mod_cast h)), p.windows.count_of_le h]
    simp only [windows_size, windows_step, Nat.cast_add, Nat.cast_one, Int.natCast_ediv,
      Nat.cast_sub h]

theorem trailingOf_natCast (h : p.windowCandles ≤ n) :
    trailingOf p (n : ℤ) (p.windows.count n) = p.windows.trailing n := by
  have hcount : p.windows.count n = (n - p.windowCandles) / p.testCandles + 1 := by
    rw [p.windows.count_of_le h, Nat.add_comm]
    rfl
  have hstop : ((p.windows.stop ((n - p.windowCandles) / p.testCandles) +
      p.windows.trailing n : ℕ) : ℤ) = n :=
    congrArg _ (p.windows.stop_add_trailing hcount)
  unfold trailingOf
  rw [hcount]
  simp only [RollingWindows.stop, RollingWindows.start, windows_size, windows_step, Nat.cast_add,
    Nat.cast_mul, Nat.cast_one] at hstop ⊢
  linarith

/-- A window that fits leaves a number of candles. -/
theorem exists_usable (h : 1 ≤ foldCountOf p usable) :
    ∃ n : ℕ, usable = n ∧ p.windowCandles ≤ n := by
  unfold foldCountOf at h
  split at h
  · exact absurd h (by norm_num)
  · next hge =>
    obtain ⟨n, rfl⟩ := Int.eq_ofNat_of_zero_le
      (le_trans (Int.natCast_nonneg p.windowCandles) (not_lt.mp hge))
    exact ⟨n, rfl, by exact_mod_cast not_lt.mp hge⟩

theorem windows_tail (i : ℕ) :
    p.windows.tail i = i * p.testCandles + (p.trainCandles + p.validationCandles) := by
  have hsub : p.windowCandles - p.testCandles = p.trainCandles + p.validationCandles := by
    unfold WalkForwardWindowPolicy.windowCandles
    omega
  unfold RollingWindows.tail RollingWindows.start
  show i * p.testCandles + (p.windowCandles - p.testCandles) = _
  rw [hsub]

end

/-! ### Runs -/

/-- A loop that ends has passed each of its elements. -/
theorem forall_of_foldlM_eq_ok {ε α β : Type} {f : β → α → Except ε β} :
    ∀ {l : List α} {b b' : β}, l.foldlM f b = .ok b' → ∀ a ∈ l, ∃ c c', f c a = .ok c' := by
  intro l
  induction l with
  | nil =>
    intro b b' _ a ha
    cases ha
  | cons a l ih =>
    intro b b' h a' ha'
    rw [List.foldlM_cons, bind_eq_ok] at h
    obtain ⟨c, hc, hrest⟩ := h
    rcases List.mem_cons.mp ha' with rfl | ha'
    · exact ⟨b, c, hc⟩
    · exact ih hrest a' ha'

section

variable {Digest : Type} [DecidableEq Digest] {sha256 : List Char → String}
  {identify : SnapshotIdentity Digest} {temporalDigests : TemporalDigests Digest}
  {digests : ExperimentDigests Digest} {plan : ExperimentPlan Digest} {spec : PlannedRunSpec Digest}

/-- **What a planned run reads and scores.**  It reads the context of its segment, which is one of
those of the temporal plan, and scores its evaluation; its purpose is that of the segment's role. -/
theorem runSpec_of_valid
    (h : validateExperimentPlan sha256 identify temporalDigests digests plan = .ok ())
    (hspec : spec ∈ plan.runSpecs) :
    spec.segment ∈ plan.temporalPlan.segments ∧
      spec.purpose = purposeByTemporalRole spec.segment.values.role ∧
      spec.eligibleForModelSelection = decide (spec.purpose = .modelSelection) ∧
      (spec.backtestConfig.dataRange.start = spec.segment.values.contextStart ∧
        spec.backtestConfig.dataRange.stop = spec.segment.stop) ∧
      spec.backtestConfig.evaluation.map (·.range) =
        some spec.segment.values.evaluation.dataRange := by
  simp only [validateExperimentPlan, bind_eq_ok, require_eq_ok, exists_const, forM_eq_ok] at h
  obtain ⟨u₁, -, n, -, u₂, -, -, u₃, -, -, -, u₄, -, cardinality, -, -, -, -, -, seen, hruns, -⟩ := h
  obtain ⟨i, hi, rfl⟩ := List.getElem_of_mem hspec
  obtain ⟨before, after, hrun⟩ := forall_of_foldlM_eq_ok hruns (plan.runSpecs[i], i)
    (List.mem_zipIdx_iff_getElem?.mpr (by simp [hi]))
  simp only [validatePlanRunSpec, validatePlannedRunSpec, bind_eq_ok, require_eq_ok,
    exists_const] at hrun
  obtain ⟨-, ⟨u₅, -, u₆, -, u₇, -, u₈, -, hpurpose, heligible, -, -, -, hcontext, hevaluation, -⟩,
    -, combination, -, -, hsegment, -⟩ := hrun
  refine ⟨List.mem_of_getElem? hsegment, hpurpose, ?_, ?_, hevaluation⟩
  · rw [heligible, hpurpose]
    cases plan.runSpecs[i].segment.values.role <;> rfl
  · unfold contextRange at hcontext
    split at hcontext
    · rw [Option.some.inj hcontext]
      exact ⟨rfl, rfl⟩
    · cases hcontext

end

/-! ### Folds -/

section

variable {Digest : Type}

/-- An instant is in the TEST segment of a fold. -/
def HeldOut (plan : WalkForwardValues Digest) (i : ℕ) (t : Instant) : Prop :=
  ∃ fold test, plan.folds[i]? = some fold ∧ fold.segment 2 = some test ∧
    test.start ≤ t ∧ t < test.stop

/-- Where the first TEST segment of a plan starts. -/
def WalkForwardValues.holdoutStart (plan : WalkForwardValues Digest) : Instant :=
  plan.snapshot.availableCoverage.start + plan.snapshot.series.target.duration *
    (plan.windowPolicy.warmupCandles + plan.windowPolicy.trainCandles +
      plan.windowPolicy.validationCandles : ℕ)

/-- Where the candles that are left over start. -/
def WalkForwardValues.holdoutStop (plan : WalkForwardValues Digest) : Instant :=
  plan.snapshot.availableCoverage.stop -
    plan.snapshot.series.target.duration * plan.trailingCandles

/-- What a run of a fold may read: nothing outside the snapshot, nothing after TEST, and nothing of
TEST unless it is the final holdout, which is scored on TEST and selects nothing. -/
def Confined (plan : WalkForwardValues Digest) (test : TemporalSegment Digest)
    (spec : PlannedRunSpec Digest) : Prop :=
  (plan.snapshot.availableCoverage.start ≤ spec.backtestConfig.dataRange.start ∧
      spec.backtestConfig.dataRange.stop ≤ plan.snapshot.availableCoverage.stop) ∧
    if spec.purpose = .finalHoldout then
      spec.eligibleForModelSelection = false ∧ spec.backtestConfig.dataRange.stop = test.stop ∧
        spec.backtestConfig.evaluation.map (·.range) = some test.values.evaluation.dataRange
    else spec.backtestConfig.dataRange.stop ≤ test.start

/-- **A plan walks forward.**  Its folds are as many as fit into the snapshot.  Each instant from
the start of the first TEST segment to the candles left over, which are too few for one more fold,
is held out by one fold; and the runs of a fold are confined by its TEST segment. -/
structure WalksForward (plan : WalkForwardValues Digest) : Prop where
  count : plan.foldCount = plan.folds.length
  bounds : 2 ≤ plan.folds.length ∧ plan.folds.length ≤ plan.windowPolicy.maxFolds
  trailing : 0 ≤ plan.trailingCandles ∧ plan.trailingCandles < plan.windowPolicy.testCandles
  heldOut : ∀ t, (plan.holdoutStart ≤ t ∧ t < plan.holdoutStop) ↔ ∃! i, HeldOut plan i t
  forward : ∀ i j t u, HeldOut plan i t → HeldOut plan j u → t ≤ u → i ≤ j
  confined : ∀ fold ∈ plan.folds, ∃ test, fold.segment 2 = some test ∧
    ∀ spec ∈ fold.experimentPlan.runSpecs, Confined plan test spec

/-- The instant of a slot after the warmup of the first fold. -/
def WalkForwardValues.slotInstant (plan : WalkForwardValues Digest) (slot : ℕ) : Instant :=
  plan.snapshot.availableCoverage.start +
    plan.snapshot.series.target.duration * (plan.windowPolicy.warmupCandles + slot : ℕ)

theorem slotInstant_add (plan : WalkForwardValues Digest) (a b : ℕ) :
    plan.slotInstant (a + b) = plan.slotInstant a + plan.snapshot.series.target.duration * b := by
  unfold WalkForwardValues.slotInstant
  push_cast
  show _ = plan.snapshot.availableCoverage.start + _ + _
  ring

/-- What a plan says of one of its folds: its range is that of its window, and its plans pass their
checks and belong to it. -/
structure PlacedFold (digests : PlanningDigests Digest) [DecidableEq Digest]
    (plan : WalkForwardValues Digest) (i : ℕ) (fold : WalkForwardFoldPlan Digest) : Prop where
  snapshot : fold.temporalPlan.snapshot = plan.snapshot
  stop : fold.selectedCoverage.stop = plan.slotInstant (plan.windowPolicy.windows.stop i)
  test : ∃ test, fold.segment 2 = some test ∧
    test.start = plan.slotInstant (plan.windowPolicy.windows.tail i) ∧
    test.stop = plan.slotInstant (plan.windowPolicy.windows.stop i)
  temporal : validateTemporalSegmentationPlan digests.identify digests.temporal
    fold.temporalPlan = .ok ()
  experiment : validateExperimentPlan digests.sha256 digests.identify digests.temporal
    digests.experiment fold.experimentPlan = .ok ()
  plans : fold.experimentPlan.temporalPlan = fold.temporalPlan

variable [DecidableEq Digest] {digests : PlanningDigests Digest} {plan : WalkForwardValues Digest}
  {fold : WalkForwardFoldPlan Digest} {firstStart : Instant} {i : ℕ}

theorem placedFold_of_valid
    (h : validatePlanFold digests plan plan.snapshot.series.target.duration (plan.slotInstant 0)
      (fold, i) = .ok ()) :
    PlacedFold digests plan i fold := by
  simp only [validatePlanFold, validateWalkForwardFoldPlan, bind_eq_ok, mapError_eq_ok,
    require_eq_ok, exists_const, orRaise_eq_ok, shifted_eq_some] at h
  obtain ⟨⟨u₁, -, u₂, htemporal, -, u₃, hexperiment, hplans, -, -⟩, -, hsnapshot, -, -, -, -, start,
    ⟨hstart, -⟩, stop, ⟨hstop, -⟩, ⟨-, hcoverage, -⟩, test, htest, testStart, ⟨htestStart, -⟩,
    testStop, ⟨htestStop, -⟩, ⟨hfirst, hlast⟩, -⟩ := h
  have hstart' : start = plan.slotInstant (plan.windowPolicy.windows.start i) := by
    rw [hstart, ← slotInstant_add, Nat.zero_add]
    rfl
  have htestStart' : testStart = plan.slotInstant (plan.windowPolicy.windows.tail i) := by
    rw [htestStart, hstart', ← slotInstant_add, windows_tail]
    rfl
  refine ⟨hsnapshot, ?_, ⟨test, htest, hfirst.trans htestStart', ?_⟩, htemporal, hexperiment,
    hplans⟩
  · rw [hcoverage, hstop, hstart', ← slotInstant_add]
    rfl
  · rw [hlast, htestStop, htestStart', ← slotInstant_add]
    exact congrArg _ plan.windowPolicy.windows.tail_add_step

/-- The runs of a fold are confined by its TEST segment. -/
theorem PlacedFold.confined (h : PlacedFold digests plan i fold) {test : TemporalSegment Digest}
    (htest : fold.segment 2 = some test) {spec : PlannedRunSpec Digest}
    (hspec : spec ∈ fold.experimentPlan.runSpecs) : Confined plan test spec := by
  obtain ⟨hsegment, hpurpose, heligible, ⟨hreadStart, hreadStop⟩, hevaluation⟩ :=
    runSpec_of_valid h.experiment hspec
  obtain ⟨s₀, s₁, s₂, hsegments, ⟨hrole₀, hrole₁, hrole₂⟩, ⟨-, hstart₁, hstart₂, hend⟩, hinside,
    hcontext⟩ := segments_of_valid h.temporal
  rw [h.snapshot] at hinside hcontext
  rw [h.plans] at hsegment
  have htest' : s₂ = test := by
    unfold WalkForwardFoldPlan.segment at htest
    rw [hsegments] at htest
    exact Option.some.inj htest
  subst htest'
  have hlt₁ : s₁.start < s₁.stop := s₁.values.evaluation.start_lt_stop
  have hlt₂ : s₂.start < s₂.stop := s₂.values.evaluation.start_lt_stop
  have hread : plan.snapshot.availableCoverage.start ≤ spec.backtestConfig.dataRange.start := by
    rw [hreadStart]
    exact (hcontext _ hsegment).1
  rw [hsegments] at hsegment
  unfold Confined
  rw [hreadStop, heligible, hpurpose, hevaluation]
  rcases List.mem_cons.mp hsegment with heq | hsegment
  · rw [heq, hrole₀, if_neg (by decide)]
    exact ⟨⟨hread, by linarith⟩, by linarith⟩
  rcases List.mem_cons.mp hsegment with heq | hsegment
  · rw [heq, hrole₁, if_neg (by decide)]
    exact ⟨⟨hread, by linarith⟩, hstart₂.ge⟩
  · rw [List.mem_singleton.mp hsegment, hrole₂, if_pos (by decide)]
    exact ⟨⟨hread, by linarith⟩, rfl, rfl, rfl⟩

/-! ### Plans -/

theorem slotInstant_le_iff {slot : ℕ} {t : Instant} : plan.slotInstant slot ≤ t ↔
    (slot : ℤ) ≤ (t - plan.slotInstant 0) / plan.snapshot.series.target.duration := by
  rw [Int.le_ediv_iff_mul_le plan.snapshot.series.target.duration_pos, ← Nat.zero_add slot,
    slotInstant_add, Nat.zero_add]
  constructor
  · intro h
    linarith
  · intro h
    linarith

theorem lt_slotInstant_iff {slot : ℕ} {t : Instant} : t < plan.slotInstant slot ↔
    (t - plan.slotInstant 0) / plan.snapshot.series.target.duration < (slot : ℤ) := by
  rw [← not_le, slotInstant_le_iff, not_le]

theorem slotInstant_mono {a b : ℕ} (h : a ≤ b) : plan.slotInstant a ≤ plan.slotInstant b := by
  rw [← Nat.add_sub_cancel' h, slotInstant_add]
  exact le_add_of_nonneg_right
    (mul_nonneg plan.snapshot.series.target.duration_pos.le (Int.natCast_nonneg _))

/-- An instant is held out by a fold when it is in the tail of its window. -/
theorem heldOut_iff
    (h : ∀ i fold, plan.folds[i]? = some fold → PlacedFold digests plan i fold) {t : Instant} :
    HeldOut plan i t ↔ i < plan.folds.length ∧
      plan.slotInstant (plan.windowPolicy.windows.tail i) ≤ t ∧
      t < plan.slotInstant (plan.windowPolicy.windows.stop i) := by
  constructor
  · rintro ⟨fold, test, hfold, htest, hstart, hstop⟩
    obtain ⟨test', htest', hstart', hstop'⟩ := (h i fold hfold).test
    obtain rfl : test' = test := Option.some.inj (htest'.symm.trans htest)
    exact ⟨(List.getElem?_eq_some_iff.mp hfold).1, hstart' ▸ hstart, hstop' ▸ hstop⟩
  · rintro ⟨hi, hstart, hstop⟩
    have hfold : plan.folds[i]? = some plan.folds[i] := List.getElem?_eq_getElem hi
    obtain ⟨test, htest, hstart', hstop'⟩ := (h i _ hfold).test
    exact ⟨_, test, hfold, htest, hstart'.symm ▸ hstart, hstop'.symm ▸ hstop⟩

/-- **Every instant from the first TEST segment to the last one is held out once.** -/
theorem existsUnique_heldOut_iff
    (h : ∀ i fold, plan.folds[i]? = some fold → PlacedFold digests plan i fold) {k : ℕ}
    (hlength : plan.folds.length = k + 1) {t : Instant} :
    (plan.slotInstant (plan.windowPolicy.windows.tail 0) ≤ t ∧
      t < plan.slotInstant (plan.windowPolicy.windows.stop k)) ↔ ∃! i, HeldOut plan i t := by
  set w := plan.windowPolicy.windows
  constructor
  · rintro ⟨hstart, hstop⟩
    have hfirst := slotInstant_le_iff.mp hstart
    have hlast := lt_slotInstant_iff.mp hstop
    obtain ⟨slot, hslot⟩ := Int.eq_ofNat_of_zero_le ((Int.natCast_nonneg (w.tail 0)).trans hfirst)
    rw [hslot] at hfirst hlast
    obtain ⟨i, htail, hend, hunique⟩ := w.exists_tail (by exact_mod_cast hfirst)
    refine ⟨i, (heldOut_iff h).mpr ⟨?_, ?_, ?_⟩, ?_⟩
    · by_contra hi
      have hki : k < i := by omega
      have htails := w.stop_le_tail hki
      have hlast' : slot < w.stop k := by exact_mod_cast hlast
      omega
    · rw [slotInstant_le_iff, hslot]
      exact_mod_cast htail
    · rw [lt_slotInstant_iff, hslot]
      exact_mod_cast hend
    · intro j hj
      obtain ⟨-, hjstart, hjstop⟩ := (heldOut_iff h).mp hj
      rw [slotInstant_le_iff, hslot] at hjstart
      rw [lt_slotInstant_iff, hslot] at hjstop
      exact hunique j (by exact_mod_cast hjstart) (by exact_mod_cast hjstop)
  · rintro ⟨i, hi, -⟩
    obtain ⟨hlt, hstart, hstop⟩ := (heldOut_iff h).mp hi
    exact ⟨(slotInstant_mono (w.tail_mono (Nat.zero_le i))).trans hstart,
      hstop.trans_le (slotInstant_mono (w.stop_mono (by omega)))⟩

/-- The folds of a plan that passes its checks are the windows that fit into its snapshot. -/
theorem count_of_valid {plan : WalkForwardPlan Digest}
    (h : validateWalkForwardPlan digests plan = .ok ()) :
    ∃ usable k : ℕ, plan.values.snapshot.availableCoverage.stop = plan.values.slotInstant usable ∧
      plan.values.windowPolicy.windows.count usable = k + 1 ∧
      plan.values.folds.length = k + 1 ∧
      plan.values.foldCount = (k + 1 : ℕ) ∧
      plan.values.trailingCandles = plan.values.windowPolicy.windows.trailing usable ∧
      (2 ≤ plan.values.folds.length ∧
        plan.values.folds.length ≤ plan.values.windowPolicy.maxFolds) ∧
      ∀ i fold, plan.values.folds[i]? = some fold → PlacedFold digests plan.values i fold := by
  simp only [validateWalkForwardPlan, checkedInt, bind_eq_ok, mapError_eq_ok, require_eq_ok,
    exists_const, orRaise_eq_ok, shifted_eq_some, forM_eq_ok] at h
  obtain ⟨u₁, -, cardinality, -, u₂, -, u₃, -, htwo, hmax, hmod, firstStart, ⟨hfirst, -⟩, hfolds,
    hcount, -, -, -, ⟨htrailing, -⟩, hexpected, last, hlast, consumed, ⟨hconsumed, -⟩, hend, -⟩ := h
  set values := plan.values
  set w := values.windowPolicy.windows with hw
  have hfirst' : firstStart = values.slotInstant 0 := hfirst
  subst hfirst'
  have hplaced : ∀ i fold, values.folds[i]? = some fold → PlacedFold digests values i fold :=
    fun i fold hi => placedFold_of_valid (hfolds _ (List.mem_zipIdx_iff_getElem?.mpr hi))
  obtain ⟨k, hk⟩ : ∃ k, values.folds.length = k + 1 := ⟨values.folds.length - 1, by omega⟩
  obtain ⟨r, hr⟩ := Int.eq_ofNat_of_zero_le htrailing
  have hd := values.snapshot.series.target.duration_pos
  rw [List.getLast?_eq_getElem?, hk, Nat.add_sub_cancel] at hlast
  have hstop : values.snapshot.availableCoverage.stop = values.slotInstant (w.stop k + r) := by
    rw [slotInstant_add, ← (hplaced k last hlast).stop, ← hend, hconsumed, hr]
  have husable : (values.snapshot.availableCoverage.stop -
      values.snapshot.availableCoverage.start) / values.snapshot.series.target.duration -
        values.windowPolicy.warmupCandles = (w.stop k + r : ℕ) := by
    have hspan : values.snapshot.availableCoverage.stop - values.snapshot.availableCoverage.start =
        values.snapshot.series.target.duration *
          (values.windowPolicy.warmupCandles + (w.stop k + r) : ℕ) := by
      rw [hstop]
      exact add_sub_cancel_left _ _
    rw [hspan, Int.mul_ediv_cancel_left _ hd.ne', Nat.cast_add]
    exact add_sub_cancel_left _ _
  have hfits : values.windowPolicy.windowCandles ≤ w.stop k + r :=
    (Nat.le_add_left _ _).trans (Nat.le_add_right _ _)
  have hpos : 0 < w.count (w.stop k + r) :=
    (Nat.zero_le k).trans_lt (w.lt_count_iff.mpr (Nat.le_add_right _ _))
  rw [husable, foldCountOf_natCast, ← hw] at hcount hexpected
  rw [if_neg (by exact_mod_cast hpos.ne'), trailingOf_natCast _ hfits, ← hw] at hexpected
  have hcount' : w.count (w.stop k + r) = k + 1 := by
    have hr' : r = w.trailing (w.stop k + r) := by exact_mod_cast hr.symm.trans hexpected
    exact w.count_of_stop_add_trailing (by rw [← hr'])
  refine ⟨w.stop k + r, k, hstop, hcount', hk, ?_, hexpected, ⟨htwo, hmax⟩, hplaced⟩
  rw [hcount, hcount']

/-- **A plan that passes its checks walks forward.** -/
theorem walksForward_of_valid {plan : WalkForwardPlan Digest}
    (h : validateWalkForwardPlan digests plan = .ok ()) : WalksForward plan.values := by
  obtain ⟨usable, k, hstop, hcount, hlength, hfoldCount, htrailing, hbounds, hplaced⟩ :=
    count_of_valid h
  set values := plan.values
  set w := values.windowPolicy.windows with hw
  have hstart : values.holdoutStart = values.slotInstant (w.tail 0) := by
    rw [hw, windows_tail, Nat.zero_mul, Nat.zero_add]
    exact congrArg (fun n : ℕ => values.snapshot.availableCoverage.start +
      values.snapshot.series.target.duration * n) (Nat.add_assoc _ _ _)
  have hend : values.holdoutStop = values.slotInstant (w.stop k) := by
    have husable : usable = w.stop k + w.trailing usable := (w.stop_add_trailing hcount).symm
    unfold WalkForwardValues.holdoutStop
    rw [hstop, htrailing, husable, slotInstant_add, ← husable]
    exact add_sub_cancel_right _ _
  have hfits : values.windowPolicy.windowCandles ≤ usable := by
    rw [← w.stop_add_trailing hcount]
    exact (Nat.le_add_left _ _).trans (Nat.le_add_right _ _)
  refine ⟨?_, hbounds, ?_, ?_, ?_, ?_⟩
  · rw [hfoldCount, hlength]
  · rw [htrailing]
    exact ⟨Int.natCast_nonneg _, by exact_mod_cast w.trailing_lt hfits⟩
  · intro t
    rw [hstart, hend]
    exact existsUnique_heldOut_iff hplaced hlength
  · intro i j t u hi hj htu
    by_contra hji
    obtain ⟨-, htail, -⟩ := (heldOut_iff hplaced).mp hi
    obtain ⟨-, -, hlast⟩ := (heldOut_iff hplaced).mp hj
    have hapart : values.slotInstant (w.stop j) ≤ values.slotInstant (w.tail i) :=
      slotInstant_mono (w.stop_le_tail (not_le.mp hji))
    exact absurd (hlast.trans_le (hapart.trans htail)) (not_lt.mpr htu)
  · intro fold hfold
    obtain ⟨i, hi⟩ := List.mem_iff_getElem?.mp hfold
    have hfold := hplaced i fold hi
    obtain ⟨test, htest, -⟩ := hfold.test
    exact ⟨test, htest, fun spec hspec => hfold.confined htest hspec⟩

/-- A plan that is created passes its checks. -/
theorem valid_of_createWalkForward {service : ParameterSearchService}
    {snapshot : DatasetSnapshot Digest} {manifest : DatasetManifest Digest}
    {request : WalkForwardRequest} {plan : WalkForwardPlan Digest}
    (h : createWalkForward digests service snapshot manifest request = .ok plan) :
    validateWalkForwardPlan digests plan = .ok () := by
  simp only [createWalkForward, bind_eq_ok, require_eq_ok, exists_const, pure, Except.pure,
    Except.ok.injEq] at h
  obtain ⟨p, -, firstStart, -, folds, -, first, -, -, u, hvalid, rfl⟩ := h
  exact hvalid

end

/-! ### A week of days -/

theorem dailyCandles_supported : (timeframe4h, dailyTimeframe) ∈ supportedResampling := by decide

/-- Days of four-hour candles. -/
def dailyCandles : DerivedSeries where
  exchange := .binance
  marketType := .spot
  symbol := "BTCUSDT"
  source := timeframe4h
  target := dailyTimeframe
  gapPolicy := .strict
  schemaVersion := 1
  supported := dailyCandles_supported

theorem week_nonempty : (0 : ℤ) < 604800000000 := by decide

/-- The first week since the epoch. -/
def weekSnapshot : DatasetSnapshot ℕ where
  snapshotId := "week"
  series := dailyCandles
  datasetVersion := 0
  checksum := 0
  dataRange := ⟨0, 604800000000, week_nonempty⟩
  partitions := [monthOf 0]
  manifestPath := "dataset-manifest.json"
  createdAt := ""

/-- Its manifest. -/
def weekManifest : DatasetManifest ℕ where
  series := dailyCandles
  sourceDatasetVersion := ""
  sourceChecksum := ""
  targetVersion := 0
  targetChecksum := 0
  firstOpenTime := some 0
  lastOpenTime := some 518400000000
  candleCount := 7
  partitions := [⟨monthOf 0, 7, some 0, some 518400000000, 0⟩]
  sourcePartitions := []
  state := .complete
  sourceVersionAlgorithm := ""

/-- Digests that only tell the runs of an experiment apart. -/
def indexDigests : PlanningDigests ℕ where
  sha256 := fun _ => ""
  identify := fun _ _ _ _ => "week"
  temporal := ⟨fun _ => 0, fun _ => 0, fun _ _ _ => 0, fun _ => 0⟩
  experiment := ⟨fun _ => 0, fun _ _ values => values.globalIndex, fun _ => 0, fun _ => 0⟩
  encodings := ⟨fun _ => 0, fun _ => 0, fun _ => 0, fun _ => 0, fun _ => 0, fun _ => 0⟩

theorem oneDay_valid : 1 ≤ 1 ∧ 1 ≤ maxSegmentCandles := by decide

theorem twoDays_valid : 1 ≤ 2 ∧ 2 ≤ maxSegmentCandles := by decide

theorem noWarmup_valid : 0 ≤ maxWarmupCandles := by decide

theorem tenFolds_valid : 2 ≤ 10 ∧ 10 ≤ absoluteMaxFolds := by decide

/-- A day of TRAIN, a day of VALIDATION and two days of TEST. -/
def fourDayWindows : WalkForwardWindowPolicy :=
  ⟨1, 1, 2, 0, 10, oneDay_valid, oneDay_valid, twoDays_valid, noWarmup_valid, tenFolds_valid⟩

/-- One period and one threshold. -/
def oneChoice : ParameterSearchSpace where
  pluginName := "sample"
  pluginVersion := "sample"
  pluginSchemaVersion := 1
  pluginLifecycleVersion := 1
  fixedParameters := []
  searchParameters :=
    [⟨"period", .integer, [.int 3]⟩, ⟨"threshold", .decimal, [.decimal ⟨false, 15, -1⟩]⟩]
  cardinality := 1
  maxCombinations := 6
  checksum := ""
  searchSpaceId := ""

/-- A configuration of ten candles. -/
def tenCandles : ExperimentBacktestConfiguration Decimal where
  initialCapital := ⟨false, 1000, 0⟩
  execution := ⟨⟨false, 10, 0⟩, ⟨false, 10, 0⟩, ⟨false, 5, 0⟩, false, none⟩
  constraints := ⟨⟨false, 1, -3⟩, ⟨false, 1, -3⟩, ⟨false, 1, -2⟩, ⟨false, 10, 0⟩, none⟩
  riskLimits := ⟨none, none, 10, 10, none, true, false, ⟨false, 0, 0⟩, none⟩
  historyWindow := 10
  maxCandles := 10
  maxOrders := 10
  maxEvents := 10
  engineVersion := "1"
  schemaVersion := 1

/-- Two folds of a week, with a day left over. -/
def weekRequest : WalkForwardRequest where
  searchSpace := oneChoice
  experiment := ⟨"sample", "sample", tenCandles⟩
  windowPolicy := fourDayWindows
  selectionPolicy := ⟨.sharpeRatio, .maximize⟩
  maxTotalSpecs := 100

theorem week_isOk : (createWalkForward indexDigests sampleService weekSnapshot weekManifest
    weekRequest).isOk = true := by
  decide +kernel

/-- The week is planned. -/
theorem exists_weekPlan : ∃ plan, createWalkForward indexDigests sampleService weekSnapshot
    weekManifest weekRequest = .ok plan := by
  have hrun := week_isOk
  cases h : createWalkForward indexDigests sampleService weekSnapshot weekManifest weekRequest with
  | error e =>
    rw [h] at hrun
    cases hrun
  | ok plan => exact ⟨plan, rfl⟩

/-- The plan of the week walks forward. -/
theorem walksForward_week : ∃ plan, createWalkForward indexDigests sampleService weekSnapshot
    weekManifest weekRequest = .ok plan ∧ WalksForward plan.values := by
  obtain ⟨plan, hplan⟩ := exists_weekPlan
  exact ⟨plan, hplan, walksForward_of_valid (valid_of_createWalkForward hplan)⟩

end Optimization
end DryTrade
