import DryTrade.Optimization.ParameterExpansion
import DryTrade.Optimization.Temporal

/-!
# Segments of a range

What a segmentation that is created looks like, and when one is: the segments of a range whose
context is inside the snapshot are cut one after the other, each with its warmup before it, and the
plan they make up passes every check that the constructors repeat.

## Main definitions

* `CutFrom` — segments that follow one another from an instant.
* `SegmentationOf` — the plan of a range.

## Main results

* `createSegmentation_shape` — what is created is the plan of its range.
* `createSegmentation_ok` — a range whose context fits is always segmented.
* `segments_of_valid` — the segments of a plan that passes its checks follow one another.
-/

namespace DryTrade
namespace Optimization

open MarketData Snapshots

@[simp] theorem orRaise_eq_ok {ε α : Type} {value : Option α} {error : ε} {a : α} :
    orRaise value error = .ok a ↔ value = some a := by
  cases value <;> simp [orRaise]

theorem shifted_eq_some {t u : Instant} {d : ℤ} :
    shifted t d = some u ↔ u = t + d ∧ firstInstant ≤ u ∧ u ≤ lastInstant := by
  unfold shifted
  split
  · next h =>
    constructor
    · intro hu
      obtain rfl : t + d = u := Option.some.inj hu
      exact ⟨rfl, h⟩
    · rintro ⟨rfl, -⟩
      rfl
  · next h =>
    constructor
    · intro hu
      cases hu
    · rintro ⟨rfl, hu⟩
      exact absurd hu h

theorem validateOpenTime_add_mul (tf : Timeframe) (t : Instant) (k : ℤ) :
    tf.validateOpenTime (t + tf.duration * k) = tf.validateOpenTime t := by
  unfold Timeframe.validateOpenTime
  rw [show t + tf.duration * k - tf.alignment = t - tf.alignment + tf.duration * k by ring,
    Int.add_mul_emod_self_left]

/-! ### Coverages -/

theorem TemporalCoverage.construct_eq_ok {start stop : Instant} {tf : Timeframe} {count : ℕ}
    {c : TemporalCoverage} :
    TemporalCoverage.construct start stop tf count = .ok c ↔
      c.start = start ∧ c.stop = stop ∧ c.timeframe = tf ∧ c.candleCount = count := by
  constructor
  · intro h
    unfold TemporalCoverage.construct at h
    split_ifs at h
    cases h
    exact ⟨rfl, rfl, rfl, rfl⟩
  · rintro ⟨rfl, rfl, rfl, rfl⟩
    have hmod : (c.stop - c.start) % c.timeframe.duration = 0 := by
      rw [c.duration_eq]
      exact Int.mul_emod_left _ _
    unfold TemporalCoverage.construct
    rw [dif_pos c.start_lt_stop, dif_pos c.start_aligned, dif_pos c.stop_aligned,
      dif_pos c.count_pos, dif_pos c.count_le, if_neg (not_not.mpr hmod), dif_pos c.duration_eq]

theorem coverageOf_eq_ok {r : DataRange} {tf : Timeframe} {c : TemporalCoverage} :
    coverageOf r tf = .ok c ↔ c.start = r.start ∧ c.stop = r.stop ∧ c.timeframe = tf := by
  simp only [coverageOf, bind_eq_ok, require_eq_ok, exists_const, TemporalCoverage.construct_eq_ok]
  constructor
  · rintro ⟨-, -, -, hstart, hstop, htf, -⟩
    exact ⟨hstart, hstop, htf⟩
  · rintro ⟨hstart, hstop, rfl⟩
    have hpos := c.timeframe.duration_pos
    have hquot : (r.stop - r.start) / c.timeframe.duration = c.candleCount := by
      rw [← hstart, ← hstop, c.duration_eq]
      exact Int.mul_ediv_cancel _ hpos.ne'
    have hmod : (r.stop - r.start) % c.timeframe.duration = 0 := by
      rw [← hstart, ← hstop, c.duration_eq]
      exact Int.mul_emod_left _ _
    have hle := c.count_le
    have hcount := c.count_pos
    rw [hquot]
    refine ⟨⟨?_, ?_⟩, hmod, ⟨by exact_mod_cast hcount, by exact_mod_cast hle⟩, hstart, hstop, rfl,
      by simp⟩
    · rw [← hstart]
      exact c.start_aligned
    · rw [← hstop]
      exact c.stop_aligned

/-- An aligned range with a number of candles within the limit is a coverage. -/
theorem exists_coverage {tf : Timeframe} {start : Instant} {count : ℕ}
    (haligned : tf.validateOpenTime start = true) (hpos : 1 ≤ count)
    (hle : count ≤ maxTemporalCoverageCandles) :
    ∃ c : TemporalCoverage, c.start = start ∧ c.stop = start + tf.duration * count ∧
      c.timeframe = tf ∧ c.candleCount = count := by
  have hd := tf.duration_pos
  have hmul : 0 < tf.duration * count := mul_pos hd (by exact_mod_cast hpos)
  refine ⟨⟨start, start + tf.duration * count, tf, count, ?_, haligned, ?_, hpos, hle, ?_⟩, rfl,
    rfl, rfl, rfl⟩
  · exact lt_add_of_pos_right start hmul
  · rw [validateOpenTime_add_mul]
    exact haligned
  · ring

/-! ### Cutting -/

/-- Segments that follow one another from an instant, each with its warmup before it. -/
def CutFrom (tf : Timeframe) (warmup : ℕ) :
    Instant → List (ℕ × TemporalSegmentRole × ℕ) → List SegmentValues → Prop
  | _, [], values => values = []
  | cursor, (index, role, count) :: rest, values => ∃ v vs, values = v :: vs ∧
      (v.role = role ∧ v.index = index ∧ v.evaluation.start = cursor ∧
        v.evaluation.stop = cursor + tf.duration * count ∧ v.evaluation.timeframe = tf ∧
        v.evaluation.candleCount = count ∧ v.contextStart = cursor - tf.duration * warmup ∧
        v.warmupCandles = warmup) ∧
      CutFrom tf warmup (cursor + tf.duration * count) rest vs

/-- The number of candles of some segments. -/
def countOf (items : List (ℕ × TemporalSegmentRole × ℕ)) : ℕ := (items.map fun i => i.2.2).sum

theorem cutFrom_of_cutSegments {tf : Timeframe} {warmup : ℕ} {cursor reached : Instant}
    {items : List (ℕ × TemporalSegmentRole × ℕ)} {values : List SegmentValues}
    (h : cutSegments tf warmup cursor items = .ok (values, reached)) :
    CutFrom tf warmup cursor items values := by
  induction items generalizing cursor values with
  | nil =>
    cases h
    rfl
  | cons item rest ih =>
    obtain ⟨index, role, count⟩ := item
    simp only [cutSegments, bind_eq_ok, orRaise_eq_ok, TemporalCoverage.construct_eq_ok, pure,
      Except.pure, Except.ok.injEq, Prod.mk.injEq, Prod.exists] at h
    obtain ⟨stop, hstop, context, hcontext, evaluation, ⟨hs, ht, htf, hcount⟩, vs, reached', hrest,
      rfl, rfl⟩ := h
    obtain ⟨rfl, -⟩ := shifted_eq_some.mp hstop
    obtain ⟨rfl, -⟩ := shifted_eq_some.mp hcontext
    refine ⟨_, vs, rfl, ⟨rfl, rfl, hs, ht, htf, hcount, ?_, rfl⟩, ih hrest⟩
    show cursor + -(tf.duration * warmup) = cursor - tf.duration * warmup
    ring

/-- Segments whose context is after `low` and that end before `high` are cut, where both are
instants of a `datetime`. -/
theorem cutSegments_ok {tf : Timeframe} {warmup : ℕ} {cursor low high : Instant}
    {items : List (ℕ × TemporalSegmentRole × ℕ)}
    (haligned : tf.validateOpenTime cursor = true)
    (hcounts : ∀ i ∈ items, 1 ≤ i.2.2 ∧ i.2.2 ≤ maxSegmentCandles)
    (hlow : firstInstant ≤ low) (hhigh : high ≤ lastInstant)
    (hcontext : low ≤ cursor - tf.duration * warmup)
    (hend : cursor + tf.duration * countOf items ≤ high) :
    ∃ values, cutSegments tf warmup cursor items =
      .ok (values, cursor + tf.duration * countOf items) := by
  have hd := tf.duration_pos
  induction items generalizing cursor with
  | nil => exact ⟨[], by simp [cutSegments, countOf]⟩
  | cons item rest ih =>
    obtain ⟨index, role, count⟩ := item
    have hcount := hcounts _ List.mem_cons_self
    have hsum : countOf ((index, role, count) :: rest) = count + countOf rest := rfl
    have hrestNonneg : 0 ≤ tf.duration * (countOf rest : ℤ) := by positivity
    have hcountNonneg : 0 ≤ tf.duration * (count : ℤ) := by positivity
    have hwarmNonneg : 0 ≤ tf.duration * (warmup : ℤ) := by positivity
    rw [hsum, Nat.cast_add, mul_add] at hend
    have hstop : shifted cursor (tf.duration * count) = some (cursor + tf.duration * count) :=
      shifted_eq_some.mpr ⟨rfl, by linarith, by linarith⟩
    have hstart : shifted cursor (-(tf.duration * warmup)) =
        some (cursor + -(tf.duration * warmup)) :=
      shifted_eq_some.mpr ⟨rfl, by linarith, by linarith⟩
    obtain ⟨c, hc⟩ := exists_coverage haligned hcount.1
      (hcount.2.trans (by unfold maxTemporalCoverageCandles; omega))
    have haligned' : tf.validateOpenTime (cursor + tf.duration * count) = true := by
      rw [validateOpenTime_add_mul]
      exact haligned
    obtain ⟨vs, hvs⟩ := ih haligned' (fun i hi => hcounts i (List.mem_cons_of_mem _ hi))
      (by linarith) (by linarith)
    refine ⟨⟨role, index, c, cursor + -(tf.duration * warmup), warmup⟩ :: vs, ?_⟩
    simp only [cutSegments, hstop, hstart, orRaise, ok_bind,
      TemporalCoverage.construct_eq_ok.mpr hc, hvs, pure, Except.pure, hsum, Nat.cast_add, mul_add,
      add_assoc]

/-! ### The plan of a range -/

section

variable {Digest : Type} [DecidableEq Digest] {identify : SnapshotIdentity Digest}
  {digests : TemporalDigests Digest} {snapshot : DatasetSnapshot Digest}
  {manifest : DatasetManifest Digest} {reference : TemporalSnapshotReference Digest}
  {r : DataRange} {train validation test warmup : ℕ} {plan : TemporalSegmentationPlan Digest}

/-- What a reference says of its snapshot. -/
theorem snapshotReference_spec
    (h : snapshotReference identify snapshot manifest = .ok reference) :
    validateTemporalSnapshotReference identify reference = .ok () ∧
      reference.series = manifest.series ∧
      reference.availableCoverage.start = snapshot.dataRange.start ∧
      reference.availableCoverage.stop = snapshot.dataRange.stop ∧
      reference.availableCoverage.timeframe = manifest.series.target ∧
      validateSnapshotContract identify snapshot manifest = .ok () := by
  simp only [snapshotReference, bind_eq_ok, mapError_eq_ok, require_eq_ok, exists_const,
    coverageOf_eq_ok, pure, Except.pure, Except.ok.injEq] at h
  obtain ⟨u, hcontract, -, coverage, ⟨hstart, hstop, htf⟩, u', -, u'', hreference, rfl⟩ := h
  exact ⟨hreference, rfl, hstart, hstop, htf, hcontract⟩

/-- **The plan of a range**: its three segments follow one another from the start of the range, each
with its warmup before it. -/
structure SegmentationOf (digests : TemporalDigests Digest)
    (reference : TemporalSnapshotReference Digest) (r : DataRange)
    (train validation test warmup : ℕ) (plan : TemporalSegmentationPlan Digest) : Prop where
  snapshot : plan.snapshot = reference
  start : plan.selectedCoverage.start = r.start
  stop : plan.selectedCoverage.stop = r.stop
  timeframe : plan.selectedCoverage.timeframe = reference.series.target
  count : plan.selectedCoverage.candleCount = train + validation + test
  train_eq : plan.trainCandles = train
  validation_eq : plan.validationCandles = validation
  test_eq : plan.testCandles = test
  warmup_eq : plan.warmupCandles = warmup
  segments : ∃ values, plan.segments = values.map (sealSegment digests plan.planId) ∧
    CutFrom reference.series.target warmup r.start
      [(0, .train, train), (1, .validation, validation), (2, .test, test)] values

/-- **What is created is the plan of its range.** -/
theorem createSegmentation_shape
    (hreference : snapshotReference identify snapshot manifest = .ok reference)
    (h : createSegmentation identify digests snapshot manifest r train validation test warmup =
      .ok plan) :
    SegmentationOf digests reference r train validation test warmup plan ∧
      validateTemporalSegmentationPlan identify digests plan = .ok () := by
  simp only [createSegmentation, hreference, ok_bind, bind_eq_ok, coverageOf_eq_ok, require_eq_ok,
    exists_const, orRaise_eq_ok, Prod.exists, pure, Except.pure, Except.ok.injEq] at h
  obtain ⟨selected, ⟨hstart, hstop, htf⟩, u₁, -, u₂, -, u₃, -, u₄, -, -, hcount, context, -, -,
    values, reached, hcut, -, u₅, -, u₆, hvalid, rfl⟩ := h
  have hcut := cutFrom_of_cutSegments hcut
  rw [hstart] at hcut
  exact ⟨⟨rfl, hstart, hstop, htf, hcount.symm, rfl, rfl, rfl, rfl, values, rfl, hcut⟩, hvalid⟩

/-- A sealed segment of a cut passes its checks. -/
theorem validateTemporalSegment_sealed {planId : Digest} {v : SegmentValues} {tf : Timeframe}
    (hrole : canonicalTemporalRoles[v.index]? = some v.role) (htf : v.evaluation.timeframe = tf)
    (hcount : v.evaluation.candleCount ≤ maxSegmentCandles)
    (hwarmup : v.warmupCandles ≤ maxWarmupCandles)
    (hcontext : v.contextStart = v.evaluation.start - tf.duration * v.warmupCandles)
    (hlow : firstInstant ≤ v.contextStart) (hhigh : v.evaluation.start ≤ lastInstant) :
    validateTemporalSegment digests (sealSegment digests planId v) = .ok () := by
  subst htf
  have hd := v.evaluation.timeframe.duration_pos
  have hnonneg : 0 ≤ v.evaluation.timeframe.duration * (v.warmupCandles : ℤ) := by positivity
  have hle : v.contextStart ≤ v.evaluation.start := by
    rw [hcontext]
    linarith
  have hindex : v.index ≤ 2 := by
    obtain ⟨hlt, -⟩ := List.getElem?_eq_some_iff.mp hrole
    simp only [canonicalTemporalRoles, List.length_cons, List.length_nil] at hlt
    omega
  have haligned : v.evaluation.timeframe.validateOpenTime v.contextStart = true := by
    rw [hcontext, show v.evaluation.start - v.evaluation.timeframe.duration * v.warmupCandles =
        v.evaluation.start + v.evaluation.timeframe.duration * (-(v.warmupCandles : ℤ)) by ring,
      validateOpenTime_add_mul]
    exact v.evaluation.start_aligned
  simp only [validateTemporalSegment, validatePositiveCount, validateWarmup, bind_eq_ok,
    require_eq_ok, exists_const, orRaise_eq_ok]
  refine ⟨hindex, hrole, ⟨v.evaluation.count_pos, hcount⟩, hwarmup, haligned, v.contextStart, ?_,
    rfl, hle, rfl, rfl⟩
  exact shifted_eq_some.mpr ⟨by
    rw [hcontext]
    show _ = v.evaluation.start + -(v.evaluation.timeframe.duration * v.warmupCandles)
    ring, hlow, hle.trans hhigh⟩

/-- One segment of a plan is accepted where the plan expects it. -/
theorem validatePlanSegment_sealed {expected : Instant} {v : SegmentValues} {tf : Timeframe}
    {index count : ℕ} {role : TemporalSegmentRole}
    (hvalid : validateTemporalSegment digests (sealSegment digests plan.planId v) = .ok ())
    (hrole : v.role = role) (hindex : v.index = index)
    (hplan : plan.selectedCoverage.timeframe = tf) (htf : v.evaluation.timeframe = tf)
    (hcount : v.evaluation.candleCount = count) (hwarmup : v.warmupCandles = plan.warmupCandles)
    (hstart : v.evaluation.start = expected)
    (hcontext : plan.snapshot.availableCoverage.start ≤ v.contextStart) :
    validatePlanSegment digests plan expected
      (index, sealSegment digests plan.planId v, role, count) = .ok v.evaluation.stop := by
  simp only [validatePlanSegment, hvalid, ok_bind, bind_eq_ok, require_eq_ok, exists_const, pure,
    Except.pure, Except.ok.injEq]
  exact ⟨⟨hrole, hindex⟩, rfl, htf.trans hplan.symm, hcount, hwarmup, hstart.ge, hstart.le,
    hcontext, rfl⟩

/-- The sealed segments of a cut pass their checks. -/
theorem validateTemporalSegment_cut {planId : Digest} {tf : Timeframe} {low cursor : Instant}
    {items : List (ℕ × TemporalSegmentRole × ℕ)} {values : List SegmentValues}
    (hcut : CutFrom tf warmup cursor items values)
    (hroles : ∀ i ∈ items, canonicalTemporalRoles[i.1]? = some i.2.1)
    (hcounts : ∀ i ∈ items, 1 ≤ i.2.2 ∧ i.2.2 ≤ maxSegmentCandles)
    (hwarmup : warmup ≤ maxWarmupCandles) (hlow : firstInstant ≤ low)
    (hcontext : low ≤ cursor - tf.duration * warmup)
    (hend : cursor + tf.duration * countOf items ≤ lastInstant) :
    ∀ v ∈ values, validateTemporalSegment digests (sealSegment digests planId v) = .ok () ∧
      low ≤ v.contextStart := by
  have hd := tf.duration_pos
  induction items generalizing cursor values with
  | nil =>
    obtain rfl : values = [] := hcut
    intro v hv
    cases hv
  | cons item rest ih =>
    obtain ⟨index, role, count⟩ := item
    obtain ⟨v, vs, rfl, ⟨hrole, hindex, hstart, -, htf, hcount, hctx, hwarm⟩, hrest⟩ := hcut
    have hsum : countOf ((index, role, count) :: rest) = count + countOf rest := rfl
    have hrestNonneg : 0 ≤ tf.duration * (countOf rest : ℤ) := by positivity
    have hcountNonneg : 0 ≤ tf.duration * (count : ℤ) := by positivity
    rw [hsum, Nat.cast_add, mul_add] at hend
    intro v' hv'
    rcases List.mem_cons.mp hv' with rfl | hv'
    · have hlow' : low ≤ v'.contextStart := by
        rw [hctx]
        exact hcontext
      refine ⟨validateTemporalSegment_sealed ?_ htf ?_ ?_ ?_ (hlow.trans hlow') ?_, hlow'⟩
      · rw [hindex, hrole]
        exact hroles _ List.mem_cons_self
      · rw [hcount]
        exact (hcounts _ List.mem_cons_self).2
      · rw [hwarm]
        exact hwarmup
      · rw [hctx, hstart, hwarm]
      · rw [hstart]
        linarith
    · exact ih hrest (fun i hi => hroles i (List.mem_cons_of_mem _ hi))
        (fun i hi => hcounts i (List.mem_cons_of_mem _ hi)) (by linarith) (by linarith) v' hv'

/-- The walk over the sealed segments of a cut reaches its end. -/
theorem foldlM_validatePlanSegment_cut {tf : Timeframe} {cursor : Instant}
    {items : List (ℕ × TemporalSegmentRole × ℕ)} {values : List SegmentValues}
    (hcut : CutFrom tf plan.warmupCandles cursor items values)
    (hplan : plan.selectedCoverage.timeframe = tf)
    (hvalid : ∀ v ∈ values,
      validateTemporalSegment digests (sealSegment digests plan.planId v) = .ok () ∧
        plan.snapshot.availableCoverage.start ≤ v.contextStart) :
    (List.zipWith (fun i v => (i.1, sealSegment digests plan.planId v, i.2)) items values).foldlM
      (validatePlanSegment digests plan) cursor = .ok (cursor + tf.duration * countOf items) := by
  induction items generalizing cursor values with
  | nil =>
    simp [countOf, pure, Except.pure]
  | cons item rest ih =>
    obtain ⟨index, role, count⟩ := item
    obtain ⟨v, vs, rfl, ⟨hrole, hindex, hstart, hstop, htf, hcount, -, hwarm⟩, hrest⟩ := hcut
    have hv := hvalid v List.mem_cons_self
    have hsum : countOf ((index, role, count) :: rest) = count + countOf rest := rfl
    rw [List.zipWith_cons_cons, List.foldlM_cons,
      validatePlanSegment_sealed hv.1 hrole hindex hplan htf hcount hwarm hstart hv.2, ok_bind,
      hstop, ih hrest fun v' hv' => hvalid v' (List.mem_cons_of_mem _ hv'), hsum, Nat.cast_add,
      mul_add, add_assoc]

/-- **A range whose context fits into the snapshot is segmented.** -/
theorem createSegmentation_ok
    (hreference : snapshotReference identify snapshot manifest = .ok reference)
    (hdatetimes : firstInstant ≤ snapshot.dataRange.start ∧ snapshot.dataRange.stop ≤ lastInstant)
    (htrain : 1 ≤ train ∧ train ≤ maxSegmentCandles)
    (hvalidation : 1 ≤ validation ∧ validation ≤ maxSegmentCandles)
    (htest : 1 ≤ test ∧ test ≤ maxSegmentCandles) (hwarmup : warmup ≤ maxWarmupCandles)
    (haligned : reference.series.target.validateOpenTime r.start = true)
    (hstop : r.stop = r.start + reference.series.target.duration * (train + validation + test : ℕ))
    (hlow : snapshot.dataRange.start ≤ r.start - reference.series.target.duration * warmup)
    (hhigh : r.stop ≤ snapshot.dataRange.stop) :
    ∃ plan, createSegmentation identify digests snapshot manifest r train validation test warmup =
      .ok plan := by
  obtain ⟨hvalid, hseries, havailableStart, havailableStop, -, -⟩ :=
    snapshotReference_spec hreference
  have hd := reference.series.target.duration_pos
  have hwarmNonneg : 0 ≤ reference.series.target.duration * (warmup : ℤ) := by positivity
  obtain ⟨selected, hselStart, hselStop, hselTf, hselCount⟩ := exists_coverage haligned
    (show 1 ≤ train + validation + test by omega)
    (show train + validation + test ≤ maxTemporalCoverageCandles by
      unfold maxTemporalCoverageCandles
      omega)
  set items : List (ℕ × TemporalSegmentRole × ℕ) :=
    [(0, .train, train), (1, .validation, validation), (2, .test, test)] with hitems
  have hcountOf : countOf items = train + validation + test := by
    simp [hitems, countOf]
    ring
  have hroles : ∀ i ∈ items, canonicalTemporalRoles[i.1]? = some i.2.1 := by
    simp [hitems, canonicalTemporalRoles]
  have hcounts : ∀ i ∈ items, 1 ≤ i.2.2 ∧ i.2.2 ≤ maxSegmentCandles := by
    intro i hi
    simp only [hitems, List.mem_cons, List.not_mem_nil, or_false] at hi
    rcases hi with rfl | rfl | rfl
    · exact htrain
    · exact hvalidation
    · exact htest
  have hend : r.start + reference.series.target.duration * countOf items ≤
      snapshot.dataRange.stop := by
    rw [hcountOf, ← hstop]
    exact hhigh
  obtain ⟨values, hcut⟩ := cutSegments_ok haligned hcounts hdatetimes.1 hdatetimes.2 hlow hend
  have hcutFrom := cutFrom_of_cutSegments hcut
  rw [hcountOf, ← hstop] at hcut
  set plan := sealPlan digests reference selected train validation test warmup values with hplan
  have hsegments : ∀ v ∈ values,
      validateTemporalSegment digests (sealSegment digests plan.planId v) = .ok () ∧
        snapshot.dataRange.start ≤ v.contextStart :=
    validateTemporalSegment_cut hcutFrom hroles hcounts hwarmup hdatetimes.1 hlow
      (hend.trans hdatetimes.2)
  have havailable : plan.snapshot.availableCoverage.start = snapshot.dataRange.start :=
    havailableStart
  have hwalk : (List.zipWith (fun i v => (i.1, sealSegment digests plan.planId v, i.2)) items
      values).foldlM (validatePlanSegment digests plan) r.start =
        .ok (r.start + reference.series.target.duration * countOf items) := by
    rw [← havailable] at hsegments
    exact foldlM_validatePlanSegment_cut hcutFrom hselTf hsegments
  rw [hcountOf, ← hstop] at hwalk
  have hzip : plan.segments.length = 3 ∧
      (List.range 3).zip
          (plan.segments.zip (canonicalTemporalRoles.zip [train, validation, test])) =
        List.zipWith (fun i v => (i.1, sealSegment digests plan.planId v, i.2)) items values := by
    obtain ⟨v₀, vs₀, rfl, -, v₁, vs₁, rfl, -, v₂, vs₂, rfl, -, rfl⟩ := hcutFrom
    exact ⟨rfl, rfl⟩
  have hselected : selected.start = r.start ∧ selected.stop = r.stop :=
    ⟨hselStart, by rw [hselStop, hstop]⟩
  have hinside : reference.availableCoverage.start ≤ selected.start ∧
      selected.stop ≤ reference.availableCoverage.stop := by
    rw [hselected.1, hselected.2, havailableStart, havailableStop]
    exact ⟨by linarith, hhigh⟩
  have hplanValid : validateTemporalSegmentationPlan identify digests plan = .ok () := by
    simp only [validateTemporalSegmentationPlan, validatePositiveCount, validateWarmup, bind_eq_ok,
      require_eq_ok, exists_const]
    refine ⟨(), hvalid, hselTf, hinside, htrain, hvalidation, htest, hwarmup, hselCount.symm,
      hzip.1, r.stop, ?_, hselected.2.le, hselected.2.ge, ?_, ?_⟩
    · rw [show plan.selectedCoverage.start = r.start from hselected.1]
      exact hzip.2 ▸ hwalk
    · simp only [hplan, sealPlan, TemporalSegmentationPlan.identityValues, sealSegment,
        List.map_map]
      rfl
    · rfl
  refine ⟨plan, ?_⟩
  simp only [createSegmentation, validatePositiveCount, validateWarmup, bind_eq_ok, require_eq_ok,
    exists_const, orRaise_eq_ok, Prod.exists, coverageOf_eq_ok, pure, Except.pure, Except.ok.injEq]
  refine ⟨reference, hreference, selected, ⟨hselected.1, hselected.2, hselTf⟩, htrain, hvalidation,
    htest, hwarmup, hinside, hselCount.symm, _, shifted_eq_some.mpr ⟨rfl, ?_, ?_⟩, ?_, values,
    r.stop, ?_, hselected.2.symm, (), ?_, (), hplanValid, rfl⟩
  · show firstInstant ≤ selected.start + -(reference.series.target.duration * warmup)
    rw [hselected.1]
    linarith [hdatetimes.1]
  · show selected.start + -(reference.series.target.duration * warmup) ≤ lastInstant
    have hlast := hdatetimes.2
    have hlt := r.start_lt_stop
    rw [hselected.1]
    linarith
  · show reference.availableCoverage.start ≤
      selected.start + -(reference.series.target.duration * warmup)
    rw [havailableStart, hselected.1]
    linarith
  · rw [hselected.1]
    exact hcut
  · refine forM_eq_ok.mpr fun s hs => ?_
    obtain ⟨v, hv, rfl⟩ := List.mem_map.mp hs
    exact (hsegments v hv).1

/-- What one step of the walk over the segments of a plan says of its segment. -/
theorem validatePlanSegment_spec {expected reached : Instant} {index count : ℕ}
    {s : TemporalSegment Digest} {role : TemporalSegmentRole}
    (h : validatePlanSegment digests plan expected (index, s, role, count) = .ok reached) :
    s.values.role = role ∧ s.start = expected ∧ reached = s.stop ∧
      s.values.warmupCandles = plan.warmupCandles ∧
      plan.snapshot.availableCoverage.start ≤ s.values.contextStart ∧
      s.values.contextStart ≤ s.start := by
  simp only [validatePlanSegment, validateTemporalSegment, bind_eq_ok, require_eq_ok, exists_const,
    pure, Except.pure, Except.ok.injEq] at h
  obtain ⟨⟨-, -, u, -, u', -, -, t, -, -, hpast, -, -⟩, ⟨hrole, -⟩, -, -, -, hwarmup, hge, hle,
    hcontext, hreached⟩ := h
  exact ⟨hrole, le_antisymm hle hge, hreached.symm, hwarmup, hcontext, hpast⟩

/-- **The segments of a plan that passes its checks follow one another**, inside the snapshot, and
none of them reads before it. -/
theorem segments_of_valid (h : validateTemporalSegmentationPlan identify digests plan = .ok ()) :
    ∃ s₀ s₁ s₂ : TemporalSegment Digest, plan.segments = [s₀, s₁, s₂] ∧
      (s₀.values.role = .train ∧ s₁.values.role = .validation ∧ s₂.values.role = .test) ∧
      (s₀.start = plan.selectedCoverage.start ∧ s₁.start = s₀.stop ∧ s₂.start = s₁.stop ∧
        s₂.stop = plan.selectedCoverage.stop) ∧
      plan.selectedCoverage.stop ≤ plan.snapshot.availableCoverage.stop ∧
      ∀ s ∈ plan.segments, plan.snapshot.availableCoverage.start ≤ s.values.contextStart ∧
        s.values.contextStart ≤ s.start := by
  simp only [validateTemporalSegmentationPlan, bind_eq_ok, require_eq_ok, exists_const] at h
  obtain ⟨u₁, -, -, ⟨-, hinside⟩, u₂, -, u₃, -, u₄, -, u₅, -, -, hlength, reached, hwalk, hge, hle,
    -, -⟩ := h
  obtain ⟨s₀, s₁, s₂, hsegments⟩ := List.length_eq_three.mp hlength
  rw [hsegments] at hwalk ⊢
  have hzip : (List.range 3).zip ([s₀, s₁, s₂].zip (canonicalTemporalRoles.zip
      [plan.trainCandles, plan.validationCandles, plan.testCandles])) =
      [(0, s₀, .train, plan.trainCandles), (1, s₁, .validation, plan.validationCandles),
        (2, s₂, .test, plan.testCandles)] := rfl
  simp only [hzip, List.foldlM_cons, List.foldlM_nil, bind_eq_ok, pure, Except.pure,
    Except.ok.injEq] at hwalk
  obtain ⟨t₀, h₀, t₁, h₁, t₂, h₂, rfl⟩ := hwalk
  obtain ⟨hrole₀, hstart₀, rfl, -, hcontext₀⟩ := validatePlanSegment_spec h₀
  obtain ⟨hrole₁, hstart₁, rfl, -, hcontext₁⟩ := validatePlanSegment_spec h₁
  obtain ⟨hrole₂, hstart₂, rfl, -, hcontext₂⟩ := validatePlanSegment_spec h₂
  refine ⟨s₀, s₁, s₂, rfl, ⟨hrole₀, hrole₁, hrole₂⟩, ⟨hstart₀, hstart₁, hstart₂, ?_⟩, hinside, ?_⟩
  · exact le_antisymm hle hge
  · simpa only [List.forall_mem_cons, List.not_mem_nil, false_imp_iff, implies_true, and_true] using
      ⟨hcontext₀, hcontext₁, hcontext₂⟩

end

end Optimization
end DryTrade
