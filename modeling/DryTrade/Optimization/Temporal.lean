import DryTrade.MarketData.Snapshots

/-!
# Temporal segmentation

A selected range of a snapshot is cut into a TRAIN, a VALIDATION and a TEST segment by their
numbers of candles.  Each segment may read some candles before it for its warmup, and none after
it.  The numbers of candles are natural numbers: a negative one is rejected like zero.

An instant is that of a `datetime` between the years 1 and 9999; arithmetic that leaves them
overflows.

## Main definitions

* `TemporalCoverage` — an aligned range with its number of candles.
* `snapshotReference` — the snapshot a plan is bound to.
* `TemporalSegmentationPlan`, `validateTemporalSegmentationPlan` — a plan and its checks.
* `createSegmentation` — `TemporalSegmentationService.create`.
-/

namespace DryTrade
namespace Optimization

open MarketData Snapshots

/-! ### Errors -/

/-- The exception classes of a segmentation. -/
inductive TemporalErrorKind
  | incompatibleTemporalSnapshot
  | invalidTemporalCoverage
  | invalidTemporalTimeframe
  | misalignedTemporalBoundary
  | invalidTemporalCandleCount
  | insufficientTemporalCoverage
  | temporalCandleCountMismatch
  | temporalSegmentOverlap
  | temporalSegmentOrder
  | temporalSegmentGap
  | invalidTemporalWarmup
  | temporalWarmupUnavailable
  | temporalChecksum
  | temporalIdentifier
  deriving DecidableEq, Repr

/-- The `default_message` of the classes that are called without an argument. -/
def TemporalErrorKind.defaultMessage : TemporalErrorKind → String
  | .misalignedTemporalBoundary => "Um limite temporal não está alinhado ao timeframe."
  | .temporalCandleCountMismatch => "A soma das velas diverge da cobertura selecionada."
  | .temporalSegmentOverlap => "Os segmentos temporais possuem sobreposição."
  | .temporalSegmentOrder => "Os segmentos temporais estão fora da ordem canônica."
  | .temporalSegmentGap => "A política temporal não permite lacunas entre segmentos."
  | .temporalWarmupUnavailable =>
    "O snapshot não possui histórico anterior suficiente para o warmup."
  | _ => "O plano de segmentação temporal é inválido."

/-- One raised exception. -/
structure TemporalError where
  kind : TemporalErrorKind
  message : String
  deriving DecidableEq, Repr

/-- `Class()`. -/
def TemporalErrorKind.error (kind : TemporalErrorKind) : TemporalError :=
  ⟨kind, kind.defaultMessage⟩

/-- A value, or an exception. -/
def orRaise {ε α : Type} (value : Option α) (error : ε) : Except ε α :=
  match value with
  | some a => .ok a
  | none => .error error

/-! ### Instants -/

/-- January 1st of the year 1. -/
def firstInstant : Instant := -62135596800000000

/-- The last microsecond of the year 9999. -/
def lastInstant : Instant := 253402300799999999

/-- `t + d`, where the result is a `datetime`. -/
def shifted (t : Instant) (d : ℤ) : Option Instant :=
  if firstInstant ≤ t + d ∧ t + d ≤ lastInstant then some (t + d) else none

/-! ### Coverages -/

/-- `MAX_SEGMENT_CANDLES`. -/
def maxSegmentCandles : ℕ := 10000000

/-- `MAX_TEMPORAL_COVERAGE_CANDLES`. -/
def maxTemporalCoverageCandles : ℕ := maxSegmentCandles * 3

/-- `MAX_WARMUP_CANDLES`. -/
def maxWarmupCandles : ℕ := 10000000

/-- An aligned half-open range with its exact number of candles. -/
@[ext]
structure TemporalCoverage where
  start : Instant
  stop : Instant
  timeframe : Timeframe
  candleCount : ℕ
  start_lt_stop : start < stop
  start_aligned : timeframe.validateOpenTime start = true
  stop_aligned : timeframe.validateOpenTime stop = true
  count_pos : 1 ≤ candleCount
  count_le : candleCount ≤ maxTemporalCoverageCandles
  duration_eq : stop - start = candleCount * timeframe.duration

instance : DecidableEq TemporalCoverage := fun _ _ =>
  decidable_of_iff _ TemporalCoverage.ext_iff.symm

/-- Its range. -/
def TemporalCoverage.dataRange (c : TemporalCoverage) : DataRange :=
  ⟨c.start, c.stop, c.start_lt_stop⟩

/-- `TemporalCoverage(...)`; an empty range is already refused by the constructor of the range. -/
def TemporalCoverage.construct (start stop : Instant) (timeframe : Timeframe) (count : ℕ) :
    Except TemporalError TemporalCoverage :=
  if hlt : start < stop then
    if hstart : timeframe.validateOpenTime start = true then
      if hstop : timeframe.validateOpenTime stop = true then
        if hpos : 1 ≤ count then
          if hle : count ≤ maxTemporalCoverageCandles then
            if (stop - start) % timeframe.duration ≠ 0 then
              .error ⟨.misalignedTemporalBoundary,
                "coverage duration is not a timeframe multiple"⟩
            else if heq : stop - start = count * timeframe.duration then
              .ok ⟨start, stop, timeframe, count, hlt, hstart, hstop, hpos, hle, heq⟩
            else .error ⟨.temporalCandleCountMismatch,
              "coverage candle count diverges from its exact duration"⟩
          else .error ⟨.invalidTemporalCandleCount,
            "coverage candle count exceeds the safe three-segment limit"⟩
        else .error ⟨.invalidTemporalCandleCount,
          "coverage candle count exceeds the safe three-segment limit"⟩
      else .error TemporalErrorKind.misalignedTemporalBoundary.error
    else .error TemporalErrorKind.misalignedTemporalBoundary.error
  else .error ⟨.invalidTemporalCoverage, "temporal coverage must be non-empty"⟩

/-- `_coverage`. -/
def coverageOf (r : DataRange) (timeframe : Timeframe) : Except TemporalError TemporalCoverage := do
  require (timeframe.validateOpenTime r.start = true ∧ timeframe.validateOpenTime r.stop = true)
    TemporalErrorKind.misalignedTemporalBoundary.error
  require ((r.stop - r.start) % timeframe.duration = 0)
    (⟨.misalignedTemporalBoundary, "coverage duration is not a timeframe multiple"⟩ : TemporalError)
  let quotient := (r.stop - r.start) / timeframe.duration
  require (1 ≤ quotient ∧ quotient ≤ maxTemporalCoverageCandles)
    (⟨.invalidTemporalCoverage, "coverage candle count exceeds the safe plan limit"⟩ :
      TemporalError)
  TemporalCoverage.construct r.start r.stop timeframe quotient.toNat

/-! ### Plans -/

/-- Canonical evaluation role of one temporal segment. -/
inductive TemporalSegmentRole
  | train
  | validation
  | test
  deriving DecidableEq, Repr

/-- `CANONICAL_TEMPORAL_ROLES`. -/
def canonicalTemporalRoles : List TemporalSegmentRole := [.train, .validation, .test]

/-- What a plan keeps of its snapshot and of the manifest; the dataset key, the identity and the gap
policy are those of the series. -/
structure TemporalSnapshotReference (Digest : Type) where
  snapshotId : String
  snapshotChecksum : Digest
  series : DerivedSeries
  datasetVersion : Digest
  availableCoverage : TemporalCoverage
  deriving DecidableEq

/-- What a segment says: the payload of its checksum. -/
structure SegmentValues where
  role : TemporalSegmentRole
  index : ℕ
  evaluation : TemporalCoverage
  contextStart : Instant
  warmupCandles : ℕ
  deriving DecidableEq

/-- What a plan says, with what its segments are identified by. -/
structure PlanValues (Digest Segment : Type) where
  snapshot : TemporalSnapshotReference Digest
  selected : TemporalCoverage
  trainCandles : ℕ
  validationCandles : ℕ
  testCandles : ℕ
  warmupCandles : ℕ
  segments : List Segment

/-- The digests of the canonical payloads. -/
structure TemporalDigests (Digest : Type) where
  segmentChecksum : SegmentValues → Digest
  planId : PlanValues Digest (SegmentValues × Digest) → Digest
  segmentId : Digest → Digest → SegmentValues → Digest
  planChecksum : PlanValues Digest (SegmentValues × Digest × Digest) → Digest

/-- One scored interval with the context it reads before it. -/
structure TemporalSegment (Digest : Type) where
  values : SegmentValues
  planId : Digest
  checksum : Digest
  segmentId : Digest
  deriving DecidableEq

section

variable {Digest : Type}

/-- `start`. -/
def TemporalSegment.start (s : TemporalSegment Digest) : Instant := s.values.evaluation.start

/-- `end`. -/
def TemporalSegment.stop (s : TemporalSegment Digest) : Instant := s.values.evaluation.stop

/-- `candle_count`. -/
def TemporalSegment.candleCount (s : TemporalSegment Digest) : ℕ := s.values.evaluation.candleCount

end

/-- The partition of one selected range. -/
structure TemporalSegmentationPlan (Digest : Type) where
  snapshot : TemporalSnapshotReference Digest
  selectedCoverage : TemporalCoverage
  trainCandles : ℕ
  validationCandles : ℕ
  testCandles : ℕ
  warmupCandles : ℕ
  segments : List (TemporalSegment Digest)
  checksum : Digest
  planId : Digest
  deriving DecidableEq

/-- `_validate_positive_count` and `_validate_requested_count`. -/
def validatePositiveCount (count : ℕ) (label : String) : Except TemporalError Unit :=
  require (1 ≤ count ∧ count ≤ maxSegmentCandles)
    (⟨.invalidTemporalCandleCount, label ++ " must be between 1 and 10000000"⟩ : TemporalError)

/-- `_validate_warmup` and `_validate_requested_warmup`. -/
def validateWarmup (warmup : ℕ) : Except TemporalError Unit :=
  require (warmup ≤ maxWarmupCandles)
    (⟨.invalidTemporalWarmup, "warmup must be between 0 and 10000000"⟩ : TemporalError)

section

variable {Digest : Type} [DecidableEq Digest] (identify : SnapshotIdentity Digest)

/-- `validate_temporal_snapshot_reference`. -/
def validateTemporalSnapshotReference (reference : TemporalSnapshotReference Digest) :
    Except TemporalError Unit := do
  require (reference.series.gapPolicy = .strict) (⟨.incompatibleTemporalSnapshot,
    "temporal slot counts require a STRICT snapshot dataset"⟩ : TemporalError)
  require (reference.series.target = reference.availableCoverage.timeframe)
    (⟨.incompatibleTemporalSnapshot, "snapshot timeframe diverges from identity"⟩ : TemporalError)
  require (reference.snapshotId = identify reference.series reference.datasetVersion
      reference.snapshotChecksum reference.availableCoverage.dataRange)
    (⟨.incompatibleTemporalSnapshot, "O snapshot_id diverge da identidade determinística."⟩ :
      TemporalError)

/-- `_validate_strict_manifest_cardinality`, of the coverage of a manifest. -/
def validateStrictManifestCardinality (m : DatasetManifest Digest) : Except TemporalError Unit := do
  let (first, last) ← (manifestCoverage m).mapError fun e =>
    (⟨.incompatibleTemporalSnapshot, e.message⟩ : TemporalError)
  let manifestEnd ← orRaise (shifted last m.series.target.duration)
    (⟨.incompatibleTemporalSnapshot, "snapshot manifest coverage overflowed"⟩ : TemporalError)
  require ((manifestEnd - first) % m.series.target.duration = 0 ∧
      (m.candleCount : ℤ) = (manifestEnd - first) / m.series.target.duration)
    (⟨.incompatibleTemporalSnapshot,
      "STRICT manifest candle count diverges from its temporal coverage"⟩ : TemporalError)

/-- `_snapshot_reference`. -/
def snapshotReference (snapshot : DatasetSnapshot Digest) (manifest : DatasetManifest Digest) :
    Except TemporalError (TemporalSnapshotReference Digest) := do
  (validateSnapshotContract identify snapshot manifest).mapError fun e =>
    (⟨.incompatibleTemporalSnapshot, e.message⟩ : TemporalError)
  require (manifest.series.gapPolicy = .strict) (⟨.incompatibleTemporalSnapshot,
    "temporal segmentation requires a STRICT dataset manifest"⟩ : TemporalError)
  let coverage ← coverageOf snapshot.dataRange manifest.series.target
  validateStrictManifestCardinality manifest
  let reference : TemporalSnapshotReference Digest :=
    ⟨snapshot.snapshotId, snapshot.checksum, manifest.series, snapshot.datasetVersion, coverage⟩
  validateTemporalSnapshotReference identify reference
  return reference

variable (digests : TemporalDigests Digest)

/-- `validate_temporal_segment`. -/
def validateTemporalSegment (s : TemporalSegment Digest) : Except TemporalError Unit := do
  require (s.values.index ≤ 2) (⟨.temporalSegmentOrder,
    "segment index is outside the three-way policy"⟩ : TemporalError)
  require (canonicalTemporalRoles[s.values.index]? = some s.values.role)
    (⟨.temporalSegmentOrder, "segment role and index are not canonically associated"⟩ :
      TemporalError)
  validatePositiveCount s.candleCount "segment candle count"
  validateWarmup s.values.warmupCandles
  let timeframe := s.values.evaluation.timeframe
  require (timeframe.validateOpenTime s.values.contextStart = true) (⟨.misalignedTemporalBoundary,
    "context start is not timeframe-aligned"⟩ : TemporalError)
  let expected ← orRaise (shifted s.start (-(timeframe.duration * s.values.warmupCandles)))
    (⟨.invalidTemporalWarmup, "warmup arithmetic overflowed"⟩ : TemporalError)
  require (s.values.contextStart = expected) (⟨.invalidTemporalWarmup,
    "context start diverges from retrospective warmup"⟩ : TemporalError)
  require (s.values.contextStart ≤ s.start)
    (⟨.invalidTemporalWarmup, "warmup context cannot read future candles"⟩ : TemporalError)
  require (s.checksum = digests.segmentChecksum s.values)
    (⟨.temporalChecksum, "segment checksum does not match its payload"⟩ : TemporalError)
  require (s.segmentId = digests.segmentId s.planId s.checksum s.values)
    (⟨.temporalIdentifier, "segment id does not match its plan and payload"⟩ : TemporalError)

/-- The payload of the identifier of a plan. -/
def TemporalSegmentationPlan.identityValues (plan : TemporalSegmentationPlan Digest) :
    PlanValues Digest (SegmentValues × Digest) :=
  ⟨plan.snapshot, plan.selectedCoverage, plan.trainCandles, plan.validationCandles,
    plan.testCandles, plan.warmupCandles, plan.segments.map fun s => (s.values, s.checksum)⟩

/-- The payload of the checksum of a plan. -/
def TemporalSegmentationPlan.values (plan : TemporalSegmentationPlan Digest) :
    PlanValues Digest (SegmentValues × Digest × Digest) :=
  ⟨plan.snapshot, plan.selectedCoverage, plan.trainCandles, plan.validationCandles,
    plan.testCandles, plan.warmupCandles,
    plan.segments.map fun s => (s.values, s.checksum, s.segmentId)⟩

/-- One segment of a plan, with its place, its role, its number of candles and the instant it is
expected to start at; the next one is expected where it ends. -/
def validatePlanSegment (plan : TemporalSegmentationPlan Digest) (expectedStart : Instant)
    (item : ℕ × TemporalSegment Digest × TemporalSegmentRole × ℕ) :
    Except TemporalError Instant := do
  let (index, s, role, count) := item
  validateTemporalSegment digests s
  require (s.values.role = role ∧ s.values.index = index)
    TemporalErrorKind.temporalSegmentOrder.error
  require (s.planId = plan.planId)
    (⟨.temporalIdentifier, "segment is bound to another plan"⟩ : TemporalError)
  require (s.values.evaluation.timeframe = plan.selectedCoverage.timeframe)
    (⟨.invalidTemporalTimeframe, "segment timeframe diverges from plan"⟩ : TemporalError)
  require (s.candleCount = count)
    (⟨.temporalCandleCountMismatch, "segment candle count diverges from plan"⟩ : TemporalError)
  require (s.values.warmupCandles = plan.warmupCandles)
    (⟨.invalidTemporalWarmup, "segment warmup diverges from plan"⟩ : TemporalError)
  require (expectedStart ≤ s.start) TemporalErrorKind.temporalSegmentOverlap.error
  require (s.start ≤ expectedStart) TemporalErrorKind.temporalSegmentGap.error
  require (plan.snapshot.availableCoverage.start ≤ s.values.contextStart)
    TemporalErrorKind.temporalWarmupUnavailable.error
  return s.stop

/-- `validate_temporal_segmentation_plan`. -/
def validateTemporalSegmentationPlan (plan : TemporalSegmentationPlan Digest) :
    Except TemporalError Unit := do
  validateTemporalSnapshotReference identify plan.snapshot
  require (plan.selectedCoverage.timeframe = plan.snapshot.series.target)
    (⟨.invalidTemporalTimeframe, "selected timeframe diverges from snapshot"⟩ : TemporalError)
  require (plan.snapshot.availableCoverage.start ≤ plan.selectedCoverage.start ∧
      plan.selectedCoverage.stop ≤ plan.snapshot.availableCoverage.stop)
    (⟨.insufficientTemporalCoverage, "selected coverage exceeds snapshot coverage"⟩ : TemporalError)
  validatePositiveCount plan.trainCandles "train candle count"
  validatePositiveCount plan.validationCandles "validation candle count"
  validatePositiveCount plan.testCandles "test candle count"
  validateWarmup plan.warmupCandles
  require (plan.trainCandles + plan.validationCandles + plan.testCandles =
    plan.selectedCoverage.candleCount) TemporalErrorKind.temporalCandleCountMismatch.error
  require (plan.segments.length = 3)
    (⟨.temporalSegmentOrder, "the policy requires exactly three segments"⟩ : TemporalError)
  let counts := [plan.trainCandles, plan.validationCandles, plan.testCandles]
  let reached ← ((List.range 3).zip (plan.segments.zip (canonicalTemporalRoles.zip counts))).foldlM
    (validatePlanSegment digests plan) plan.selectedCoverage.start
  require (plan.selectedCoverage.stop ≤ reached) (⟨.temporalSegmentGap,
    "segments do not consume the selected coverage"⟩ : TemporalError)
  require (reached ≤ plan.selectedCoverage.stop)
    (⟨.temporalSegmentOverlap, "segments exceed the selected coverage"⟩ : TemporalError)
  require (plan.planId = digests.planId plan.identityValues)
    (⟨.temporalIdentifier, "plan id does not match its semantic payload"⟩ : TemporalError)
  require (plan.checksum = digests.planChecksum plan.values)
    (⟨.temporalChecksum, "plan checksum does not match its canonical payload"⟩ : TemporalError)

/-! ### The service -/

/-- The loop that cuts the segments off, from a cursor; it returns the instant it reached. -/
def cutSegments (timeframe : Timeframe) (warmup : ℕ) :
    Instant → List (ℕ × TemporalSegmentRole × ℕ) →
    Except TemporalError (List SegmentValues × Instant)
  | cursor, [] => .ok ([], cursor)
  | cursor, (index, role, count) :: rest => do
    let stop ← orRaise (shifted cursor (timeframe.duration * count))
      (⟨.invalidTemporalCoverage, "temporal arithmetic overflowed"⟩ : TemporalError)
    let contextStart ← orRaise (shifted cursor (-(timeframe.duration * warmup)))
      (⟨.invalidTemporalCoverage, "temporal arithmetic overflowed"⟩ : TemporalError)
    let evaluation ← TemporalCoverage.construct cursor stop timeframe count
    let (segments, reached) ← cutSegments timeframe warmup stop rest
    return (⟨role, index, evaluation, contextStart, warmup⟩ :: segments, reached)

/-- A segment of a plan with its checksum and its identifier. -/
def sealSegment (planId : Digest) (values : SegmentValues) : TemporalSegment Digest :=
  let checksum := digests.segmentChecksum values
  ⟨values, planId, checksum, digests.segmentId planId checksum values⟩

/-- The plan of some segments: its identifier is in its segments, and these are in its checksum. -/
def sealPlan (reference : TemporalSnapshotReference Digest) (selected : TemporalCoverage)
    (train validation test warmup : ℕ) (values : List SegmentValues) :
    TemporalSegmentationPlan Digest :=
  let planId := digests.planId ⟨reference, selected, train, validation, test, warmup,
    values.map fun v => (v, digests.segmentChecksum v)⟩
  let segments := values.map (sealSegment digests planId)
  { snapshot := reference
    selectedCoverage := selected
    trainCandles := train
    validationCandles := validation
    testCandles := test
    warmupCandles := warmup
    segments := segments
    checksum := digests.planChecksum ⟨reference, selected, train, validation, test, warmup,
      segments.map fun s => (s.values, s.checksum, s.segmentId)⟩
    planId := planId }

/-- `TemporalSegmentationService.create`. -/
def createSegmentation (snapshot : DatasetSnapshot Digest) (manifest : DatasetManifest Digest)
    (selectedCoverage : DataRange) (train validation test warmup : ℕ) :
    Except TemporalError (TemporalSegmentationPlan Digest) := do
  let reference ← snapshotReference identify snapshot manifest
  let selected ← coverageOf selectedCoverage reference.series.target
  validatePositiveCount train "train candle count"
  validatePositiveCount validation "validation candle count"
  validatePositiveCount test "test candle count"
  validateWarmup warmup
  require (reference.availableCoverage.start ≤ selected.start ∧
      selected.stop ≤ reference.availableCoverage.stop)
    (⟨.insufficientTemporalCoverage, "selected coverage must be contained in snapshot coverage"⟩ :
      TemporalError)
  require (train + validation + test = selected.candleCount)
    TemporalErrorKind.temporalCandleCountMismatch.error
  let timeframe := reference.series.target
  let firstContextStart ← orRaise (shifted selected.start (-(timeframe.duration * warmup)))
    (⟨.invalidTemporalWarmup, "warmup arithmetic overflowed"⟩ : TemporalError)
  require (reference.availableCoverage.start ≤ firstContextStart)
    TemporalErrorKind.temporalWarmupUnavailable.error
  let (values, reached) ← cutSegments timeframe warmup selected.start
    ((List.range 3).zip (canonicalTemporalRoles.zip [train, validation, test]))
  require (reached = selected.stop) (⟨.temporalCandleCountMismatch,
    "calculated segment boundaries diverge from selected coverage"⟩ : TemporalError)
  let plan := sealPlan digests reference selected train validation test warmup values
  -- the constructors validate the segments and then the plan
  plan.segments.forM (validateTemporalSegment digests)
  validateTemporalSegmentationPlan identify digests plan
  return plan

/-- `TemporalSegmentationService.validate_for_snapshot`. -/
def validateForSnapshot (plan : TemporalSegmentationPlan Digest)
    (snapshot : DatasetSnapshot Digest) (manifest : DatasetManifest Digest) :
    Except TemporalError Unit := do
  validateTemporalSegmentationPlan identify digests plan
  let current ← snapshotReference identify snapshot manifest
  require (current = plan.snapshot) (⟨.incompatibleTemporalSnapshot,
    "temporal plan is bound to a different immutable snapshot"⟩ : TemporalError)

end

end Optimization
end DryTrade
