import DryTrade.Growth
import DryTrade.Operations.Domain

/-!
# Backfill plans

The planner cuts an aligned range into chunks of a bounded number of candles.  The plan is a
function of the range and of the planner's limits: the clock only decides whether the range is
already closed, so a plan that was made once is made again at any later time.

## Main definitions

* `BackfillPlan`, `MarketDataPlanner.backfill` — a plan and the planner.
* `PlanPayload`, `BackfillPlan.payload` — what the checksum of a plan is taken of.
* `Tiles` — chunks that follow one another from one instant to another.

## Main results

* `backfill_tiles` — the chunks of a plan tile its range.
* `backfill_later` — a plan is made again later, for any job.
-/

namespace DryTrade
namespace Operations

open MarketData

inductive MarketJobType
  | backfill
  | incremental
  | gapRepair
  deriving DecidableEq, Repr

inductive MarketJobStatus
  | planned
  | running
  | paused
  | completed
  | failed
  | cancelled
  deriving DecidableEq, Repr

structure BackfillChunk where
  index : ℕ
  dataRange : DataRange
  expectedCandles : ℕ
  deriving DecidableEq, Repr

structure BackfillPlan where
  jobId : Uuid
  dataset : MarketDatasetSelector
  dataRange : DataRange
  chunks : List BackfillChunk
  expectedCandles : ℕ
  chunkCandles : ℕ
  jobType : MarketJobType
  deriving DecidableEq, Repr

/-- What `backfill_plan_checksum` and `_record_checksum` digest. -/
structure PlanPayload where
  dataset : MarketDatasetSelector
  jobType : MarketJobType
  dataRange : DataRange
  expectedCandles : ℕ
  chunkCandles : ℕ
  chunkRanges : List DataRange
  deriving DecidableEq, Repr

/-- The payload of `backfill_plan_checksum`. -/
def BackfillPlan.payload (plan : BackfillPlan) : PlanPayload where
  dataset := plan.dataset
  jobType := plan.jobType
  dataRange := plan.dataRange
  expectedCandles := plan.expectedCandles
  chunkCandles := plan.chunkCandles
  chunkRanges := plan.chunks.map (·.dataRange)

/-- `expected_candle_count`. -/
def expectedCandleCount (r : DataRange) (tf : Timeframe) : Except OperationError ℕ := do
  require (tf.validateOpenTime r.start = true ∧ tf.validateOpenTime r.stop = true)
    .invalidDataRange
  let count := (r.stop - r.start) / tf.duration
  require (1 ≤ count ∧ r.start + count * tf.duration = r.stop) .invalidDataRange
  pure count.toNat

/-- `_latest_closed_end`. -/
def latestClosedEnd (now : ℤ) (tf : Timeframe) : ℤ :=
  tf.alignment + (now - tf.alignment) / tf.duration * tf.duration

/-- The limits of `MarketDataPlanner`, and the digest its checksums are made with. -/
structure MarketDataPlanner where
  chunkCandles : ℕ
  maxTotalCandles : ℕ
  maxChunks : ℕ
  digest : PlanPayload → ℕ
  chunkCandles_pos : 0 < chunkCandles

/-- The loop over `range(chunk_count)`: the chunks, the cursor and the remaining candles. -/
def chunkLoop (tf : Timeframe) (chunkCandles : ℕ) :
    ℕ → ℕ → ℤ → ℕ → Except OperationError (List BackfillChunk × ℤ × ℕ)
  | 0, _, cursor, remaining => .ok ([], cursor, remaining)
  | n + 1, index, cursor, remaining =>
    let size := min chunkCandles remaining
    let stop := cursor + size * tf.duration
    if h : cursor < stop then do
      let rest ← chunkLoop tf chunkCandles n (index + 1) stop (remaining - size)
      pure (⟨index, ⟨cursor, stop, h⟩, size⟩ :: rest.1, rest.2)
    else .error .invalidDataRange

/-- `MarketDataPlanner.backfill`. -/
def MarketDataPlanner.backfill (planner : MarketDataPlanner) (dataset : MarketDatasetSelector)
    (dataRange : DataRange) (jobType : MarketJobType) (jobId : Uuid) (latestClosedAt : ℤ) :
    Except OperationError BackfillPlan := do
  let total ← expectedCandleCount dataRange dataset.timeframe
  require (dataRange.stop ≤ latestClosedEnd latestClosedAt dataset.timeframe) .invalidDataRange
  require (total ≤ planner.maxTotalCandles) .invalidDataRange
  let chunkCount := (total + planner.chunkCandles - 1) / planner.chunkCandles
  require (chunkCount ≤ planner.maxChunks) .invalidDataRange
  let loop ← chunkLoop dataset.timeframe planner.chunkCandles chunkCount 0 dataRange.start total
  require (loop.2.1 = dataRange.stop ∧ loop.2.2 = 0) .invalidDataRange
  pure
    { jobId := jobId
      dataset := dataset
      dataRange := dataRange
      chunks := loop.1
      expectedCandles := total
      chunkCandles := planner.chunkCandles
      jobType := jobType }

/-- `backfill_plan_checksum`. -/
def MarketDataPlanner.checksum (planner : MarketDataPlanner) (plan : BackfillPlan) : ℕ :=
  planner.digest plan.payload

/-- `_operation_job_type`. -/
def operationJobType : MarketOperationType → MarketJobType
  | .rawBackfill => .backfill
  | .rawIncrementalUpdate => .incremental

/-- `_plan_summary`. -/
def MarketDataPlanner.planSummary (planner : MarketDataPlanner) (plan : BackfillPlan)
    (createdAt : ℤ) : OperationPlanSummary where
  checksum := planner.checksum plan
  chunksPlanned := plan.chunks.length
  estimatedCandles := plan.expectedCandles
  estimatedRequests := plan.chunks.length
  createdAt := createdAt

/-! ### The chunks of a plan -/

/-- The chunks go from `start` to `stop` without a gap, numbered from `index` on. -/
def Tiles (tf : Timeframe) : List BackfillChunk → ℕ → ℤ → ℤ → Prop
  | [], _, start, stop => start = stop
  | chunk :: rest, index, start, stop => chunk.index = index ∧ chunk.dataRange.start = start ∧
      chunk.dataRange.stop = start + chunk.expectedCandles * tf.duration ∧
      Tiles tf rest (index + 1) chunk.dataRange.stop stop

variable {tf : Timeframe} {chunks : List BackfillChunk} {index : ℕ} {start stop : ℤ}

/-- What the loop over the chunks returns. -/
theorem chunkLoop_tiles {size n remaining remaining' : ℕ} {cursor cursor' : ℤ}
    (h : chunkLoop tf size n index cursor remaining = .ok (chunks, cursor', remaining')) :
    Tiles tf chunks index cursor cursor' ∧ chunks.length = n ∧
      (chunks.map (·.expectedCandles)).sum + remaining' = remaining := by
  induction n generalizing index cursor remaining chunks with
  | zero =>
    cases h
    exact ⟨rfl, rfl, by simp⟩
  | succ n ih =>
    unfold chunkLoop at h
    dsimp only at h
    split at h
    · simp only [bind_eq_ok, pure, Except.pure, Except.ok.injEq, Prod.mk.injEq] at h
      obtain ⟨⟨rest, c, r⟩, hrest, rfl, rfl, rfl⟩ := h
      obtain ⟨htiles, hlength, hsum⟩ := ih hrest
      refine ⟨⟨rfl, rfl, rfl, htiles⟩, by rw [List.length_cons, hlength], ?_⟩
      rw [List.map_cons, List.sum_cons]
      dsimp only at hsum ⊢
      have hle : min size remaining ≤ remaining := min_le_right _ _
      omega
    · cases h

/-- What the planner checks, and the plan it makes. -/
theorem backfill_eq_ok {planner : MarketDataPlanner} {dataset : MarketDatasetSelector}
    {dataRange : DataRange} {jobType : MarketJobType} {jobId : Uuid} {now : ℤ}
    {plan : BackfillPlan}
    (h : planner.backfill dataset dataRange jobType jobId now = .ok plan) :
    plan.jobId = jobId ∧ plan.dataset = dataset ∧ plan.dataRange = dataRange ∧
      plan.jobType = jobType ∧ plan.chunkCandles = planner.chunkCandles ∧
      expectedCandleCount dataRange dataset.timeframe = .ok plan.expectedCandles ∧
      Tiles dataset.timeframe plan.chunks 0 dataRange.start dataRange.stop ∧
      (plan.chunks.map (·.expectedCandles)).sum = plan.expectedCandles := by
  simp only [MarketDataPlanner.backfill, bind_eq_ok, require_eq_ok, exists_const, pure,
    Except.pure, Except.ok.injEq] at h
  obtain ⟨total, htotal, -, -, -, ⟨chunks, cursor, remaining⟩, hloop, ⟨hcursor, hremaining⟩, rfl⟩ :=
    h
  obtain ⟨htiles, -, hsum⟩ := chunkLoop_tiles hloop
  dsimp only at hcursor hremaining
  subst hcursor hremaining
  exact ⟨rfl, rfl, rfl, rfl, rfl, htotal, htiles, by simpa using hsum⟩

/-- A later closed end is no earlier. -/
theorem latestClosedEnd_mono {now now' : ℤ} (h : now ≤ now') (tf : Timeframe) :
    latestClosedEnd now tf ≤ latestClosedEnd now' tf := by
  have hle : (now - tf.alignment) / tf.duration ≤ (now' - tf.alignment) / tf.duration :=
    Int.ediv_le_ediv tf.duration_pos (by omega)
  have hmul := mul_le_mul_of_nonneg_right hle tf.duration_pos.le
  unfold latestClosedEnd
  omega

/-- **A plan is made again** at any later time, for any job. -/
theorem backfill_later {planner : MarketDataPlanner} {dataset : MarketDatasetSelector}
    {dataRange : DataRange} {jobType : MarketJobType} {jobId : Uuid} {now now' : ℤ}
    {plan : BackfillPlan}
    (h : planner.backfill dataset dataRange jobType jobId now = .ok plan) (hle : now ≤ now')
    (jobId' : Uuid) :
    planner.backfill dataset dataRange jobType jobId' now' = .ok { plan with jobId := jobId' } := by
  simp only [MarketDataPlanner.backfill, bind_eq_ok, require_eq_ok, exists_const, pure,
    Except.pure, Except.ok.injEq] at h ⊢
  obtain ⟨total, htotal, hclosed, hmax, hcount, loop, hloop, hend, rfl⟩ := h
  exact ⟨total, htotal, hclosed.trans (latestClosedEnd_mono hle _), hmax, hcount, loop, hloop,
    hend, rfl⟩

/-- The job of a plan is not part of its checksum. -/
theorem payload_withJob (plan : BackfillPlan) (jobId : Uuid) :
    ({ plan with jobId := jobId } : BackfillPlan).payload = plan.payload := rfl

/-- What an aligned range counts. -/
theorem expectedCandleCount_eq_ok {r : DataRange} {count : ℕ} :
    expectedCandleCount r tf = .ok count ↔
      tf.validateOpenTime r.start = true ∧ r.stop = r.start + count * tf.duration := by
  simp only [expectedCandleCount, bind_eq_ok, require_eq_ok, exists_const, pure, Except.pure,
    Except.ok.injEq]
  have hpos := tf.duration_pos
  constructor
  · rintro ⟨⟨hstart, -⟩, ⟨hone, hstop⟩, rfl⟩
    refine ⟨hstart, ?_⟩
    rw [Int.toNat_of_nonneg (zero_le_one.trans hone)]
    exact hstop.symm
  · rintro ⟨hstart, hstop⟩
    have hdiff : r.stop - r.start = count * tf.duration := by linarith
    have hcount : (r.stop - r.start) / tf.duration = count := by
      rw [hdiff, Int.mul_ediv_cancel _ hpos.ne']
    have hlt := r.start_lt_stop
    have hone : (1 : ℤ) ≤ count := by
      by_contra hzero
      have hz : (count : ℤ) = 0 := by omega
      rw [hz, zero_mul, add_zero] at hstop
      exact hlt.ne' hstop
    refine ⟨⟨hstart, ?_⟩, ⟨by rw [hcount]; exact hone, by rw [hcount, hstop]⟩, by rw [hcount]; simp⟩
    unfold Timeframe.validateOpenTime at hstart ⊢
    rw [hstop, show r.start + (count : ℤ) * tf.duration - tf.alignment =
      r.start - tf.alignment + tf.duration * count by ring, Int.add_mul_emod_self_left]
    exact hstart

namespace Tiles

/-- The next chunk starts at an aligned instant too. -/
theorem aligned_stop {chunk : BackfillChunk} {rest : List BackfillChunk}
    (h : Tiles tf (chunk :: rest) index start stop) (hstart : tf.validateOpenTime start = true) :
    tf.validateOpenTime chunk.dataRange.stop = true := by
  obtain ⟨-, -, hstop, -⟩ := h
  unfold Timeframe.validateOpenTime at hstart ⊢
  rw [hstop, show start + (chunk.expectedCandles : ℤ) * tf.duration - tf.alignment =
    start - tf.alignment + tf.duration * chunk.expectedCandles by ring, Int.add_mul_emod_self_left]
  exact hstart

/-- Each chunk counts its own candles. -/
theorem expectedCandleCount (h : Tiles tf chunks index start stop)
    (hstart : tf.validateOpenTime start = true) {chunk : BackfillChunk} (hc : chunk ∈ chunks) :
    Operations.expectedCandleCount chunk.dataRange tf = .ok chunk.expectedCandles := by
  induction chunks generalizing index start with
  | nil => cases hc
  | cons first rest ih =>
    have hnext := h.aligned_stop hstart
    obtain ⟨-, hfirst, hstop, hrest⟩ := h
    rcases List.mem_cons.mp hc with rfl | hc
    · rw [expectedCandleCount_eq_ok, hfirst]
      exact ⟨hstart, hstop⟩
    · exact ih hrest hnext hc

/-- The chunks are numbered in order. -/
theorem index_getElem (h : Tiles tf chunks index start stop) {i : ℕ} (hi : i < chunks.length) :
    chunks[i].index = index + i := by
  induction chunks generalizing index start i with
  | nil => simp at hi
  | cons first rest ih =>
    obtain ⟨hindex, -, -, hrest⟩ := h
    cases i with
    | zero => simpa using hindex
    | succ i =>
      rw [List.getElem_cons_succ, ih hrest]
      omega

/-- Each chunk starts where the one before it ends. -/
theorem isChain (h : Tiles tf chunks index start stop) :
    (chunks.map (·.dataRange)).IsChain fun a b => a.stop = b.start := by
  induction chunks generalizing index start with
  | nil => exact .nil
  | cons first rest ih =>
    obtain ⟨-, -, -, hrest⟩ := h
    have htail := ih hrest
    cases rest with
    | nil => exact .singleton _
    | cons second rest =>
      rw [List.map_cons, List.map_cons, List.isChain_cons_cons]
      exact ⟨hrest.2.1.symm, by simpa using htail⟩

/-- The first chunk starts the range. -/
theorem head_start (h : Tiles tf chunks index start stop) {r : DataRange}
    (hr : r ∈ (chunks.map (·.dataRange)).head?) : r.start = start := by
  cases chunks with
  | nil => cases hr
  | cons first rest =>
    cases hr
    exact h.2.1

/-- The last chunk ends the range. -/
theorem getLast_stop (h : Tiles tf chunks index start stop) {r : DataRange}
    (hr : r ∈ (chunks.map (·.dataRange)).getLast?) : r.stop = stop := by
  induction chunks generalizing index start with
  | nil => cases hr
  | cons first rest ih =>
    obtain ⟨-, -, -, hrest⟩ := h
    cases rest with
    | nil =>
      cases hr
      exact hrest
    | cons second rest =>
      rw [List.map_cons, List.map_cons, List.getLast?_cons_cons] at hr
      exact ih hrest (by simpa using hr)

end Tiles

/-- A plan has a chunk. -/
theorem backfill_chunks_ne_nil {planner : MarketDataPlanner} {dataset : MarketDatasetSelector}
    {dataRange : DataRange} {jobType : MarketJobType} {jobId : Uuid} {now : ℤ}
    {plan : BackfillPlan}
    (h : planner.backfill dataset dataRange jobType jobId now = .ok plan) : plan.chunks ≠ [] := by
  obtain ⟨-, -, -, -, -, -, htiles, -⟩ := backfill_eq_ok h
  intro hnil
  rw [hnil] at htiles
  exact dataRange.start_lt_stop.ne htiles

end Operations
end DryTrade
