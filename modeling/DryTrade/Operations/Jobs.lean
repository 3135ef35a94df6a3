import DryTrade.Operations.Planning

/-!
# The local job catalog

`jobs.json` holds one record for each local job: the plan it executes, how many of its chunks
are confirmed, and its status.  A record carries the outcome of `_validate_record`, so the
catalog cannot hold an invalid one.  Every change first reads the record, checks its status,
and is written only if the record is still the one that was read.

## Main definitions

* `MarketJobRecord` — a record.
* `MarketJobRecord.started`, `.advanced`, `.pausing`, `.cancelling`, `.failing` — the changes.
* `JobCatalog.get`, `JobCatalog.create`, `JobCatalog.replace` — the catalog.

## Main results

* `recordPlan_eq` — a record gives back the plan it was made from.
* `plannedRecord_valid` — the record of a plan is valid.
-/

namespace DryTrade
namespace Operations

open MarketData

/-- The error code of a failed job. -/
inductive JobErrorCode
  | interruptedJob
  | raised (error : OperationError)
  deriving DecidableEq, Repr

/-- The columns of a job record. -/
structure JobFields where
  jobId : Uuid
  dataset : MarketDatasetSelector
  jobType : MarketJobType
  status : MarketJobStatus
  dataRange : DataRange
  chunkRanges : List DataRange
  nextChunkIndex : ℕ
  candlesExpected : ℕ
  chunkCandles : ℕ
  candlesFetched : ℕ
  candlesStored : ℕ
  duplicates : ℕ
  requestCount : ℕ
  startedAt : ℤ
  updatedAt : ℤ
  finishedAt : Option ℤ
  errorCode : Option JobErrorCode
  deriving DecidableEq, Repr

/-- The statuses of a job that has ended. -/
def MarketJobStatus.terminal : MarketJobStatus → Bool
  | .completed | .failed | .cancelled => true
  | _ => false

/-- The chunks cover the range: without a gap, or inside it for a repair. -/
def CoversRange (jobType : MarketJobType) (dataRange : DataRange) (ranges : List DataRange) :
    Prop :=
  if jobType = .gapRepair then
    ∀ r ∈ ranges, dataRange.start ≤ r.start ∧ r.stop ≤ dataRange.stop
  else (∀ r ∈ ranges.head?, r.start = dataRange.start) ∧
    (∀ r ∈ ranges.getLast?, r.stop = dataRange.stop) ∧
    ranges.IsChain fun a b => a.stop = b.start

instance {jobType : MarketJobType} {dataRange : DataRange} {ranges : List DataRange} :
    Decidable (CoversRange jobType dataRange ranges) := by
  unfold CoversRange
  infer_instance

/-- `_validate_record`. -/
structure JobFields.Valid (r : JobFields) : Prop where
  chunks : r.chunkRanges ≠ [] ∧ 1 ≤ r.chunkCandles
  next : r.nextChunkIndex ≤ r.chunkRanges.length
  counts : r.candlesStored + r.duplicates ≤ r.candlesFetched
  disjoint : r.chunkRanges.IsChain fun a b => a.stop ≤ b.start
  covers : CoversRange r.jobType r.dataRange r.chunkRanges
  expected : (r.chunkRanges.mapM (expectedCandleCount · r.dataset.timeframe)).map List.sum =
    .ok r.candlesExpected
  terminal : r.status.terminal = r.finishedAt.isSome
  completed : r.status = .completed → r.nextChunkIndex = r.chunkRanges.length ∧
    (r.jobType ≠ .gapRepair → r.candlesFetched = r.candlesExpected)
  error : r.errorCode.isSome = decide (r.status = .failed)

instance (r : JobFields) : Decidable r.Valid :=
  decidable_of_iff
    ((r.chunkRanges ≠ [] ∧ 1 ≤ r.chunkCandles) ∧ r.nextChunkIndex ≤ r.chunkRanges.length ∧
      r.candlesStored + r.duplicates ≤ r.candlesFetched ∧
      (r.chunkRanges.IsChain fun a b => a.stop ≤ b.start) ∧
      CoversRange r.jobType r.dataRange r.chunkRanges ∧
      (r.chunkRanges.mapM (expectedCandleCount · r.dataset.timeframe)).map List.sum =
        .ok r.candlesExpected ∧
      r.status.terminal = r.finishedAt.isSome ∧
      (r.status = .completed → r.nextChunkIndex = r.chunkRanges.length ∧
        (r.jobType ≠ .gapRepair → r.candlesFetched = r.candlesExpected)) ∧
      r.errorCode.isSome = decide (r.status = .failed))
    ⟨fun ⟨a, b, c, d, e, f, g, h, i⟩ => ⟨a, b, c, d, e, f, g, h, i⟩,
      fun ⟨a, b, c, d, e, f, g, h, i⟩ => ⟨a, b, c, d, e, f, g, h, i⟩⟩

/-- `MarketJobRecord`. -/
structure MarketJobRecord extends JobFields where
  valid : toJobFields.Valid

theorem MarketJobRecord.ext_fields {a b : MarketJobRecord}
    (h : a.toJobFields = b.toJobFields) : a = b := by
  cases a
  cases b
  cases h
  rfl

instance : DecidableEq MarketJobRecord := fun a b =>
  decidable_of_iff (a.toJobFields = b.toJobFields) ⟨MarketJobRecord.ext_fields, fun h => h ▸ rfl⟩

/-- The record a write validates first. -/
def JobFields.construct (r : JobFields) : Except OperationError MarketJobRecord :=
  if h : r.Valid then .ok ⟨r, h⟩ else .error .storage

theorem JobFields.construct_eq_ok {r : JobFields} {record : MarketJobRecord} :
    r.construct = .ok record ↔ record.toJobFields = r := by
  unfold JobFields.construct
  constructor
  · intro h
    split at h
    · cases h
      rfl
    · cases h
  · rintro rfl
    rw [dif_pos record.valid]

/-- The payload of `_record_checksum`. -/
def JobFields.payload (r : JobFields) : PlanPayload where
  dataset := r.dataset
  jobType := r.jobType
  dataRange := r.dataRange
  expectedCandles := r.candlesExpected
  chunkCandles := r.chunkCandles
  chunkRanges := r.chunkRanges

/-- The fields a record never changes. -/
def JobFields.plan (r : JobFields) : Uuid × PlanPayload := (r.jobId, r.payload)

/-! ### The changes of a record -/

/-- The record `create` writes for a plan. -/
def plannedRecord (plan : BackfillPlan) (now : ℤ) : JobFields where
  jobId := plan.jobId
  dataset := plan.dataset
  jobType := plan.jobType
  status := .planned
  dataRange := plan.dataRange
  chunkRanges := plan.chunks.map (·.dataRange)
  nextChunkIndex := 0
  candlesExpected := plan.expectedCandles
  chunkCandles := plan.chunkCandles
  candlesFetched := 0
  candlesStored := 0
  duplicates := 0
  requestCount := 0
  startedAt := now
  updatedAt := now
  finishedAt := none
  errorCode := none

/-- `start`. -/
def JobFields.started (r : JobFields) (now : ℤ) : Except OperationError JobFields := do
  require (r.status = .planned ∨ r.status = .paused ∨ r.status = .failed) .inconsistency
  pure { r with status := .running, updatedAt := now, finishedAt := none, errorCode := none }

/-- `advance`. -/
def JobFields.advanced (r : JobFields) (chunkIndex fetched stored duplicates requests : ℕ)
    (now : ℤ) : Except OperationError JobFields := do
  require (stored + duplicates ≤ fetched) .inconsistency
  require ((r.status = .running ∨ r.status = .paused ∨ r.status = .cancelled) ∧
    chunkIndex = r.nextChunkIndex) .inconsistency
  let completed := chunkIndex + 1 = r.chunkRanges.length
  pure { r with
    status := if completed ∧ r.status ≠ .cancelled then .completed else r.status
    nextChunkIndex := chunkIndex + 1
    candlesFetched := r.candlesFetched + fetched
    candlesStored := r.candlesStored + stored
    duplicates := r.duplicates + duplicates
    requestCount := r.requestCount + requests
    updatedAt := now
    finishedAt := if completed then some now else r.finishedAt }

/-- `pause`. -/
def JobFields.pausing (r : JobFields) (now : ℤ) : Except OperationError JobFields := do
  require (r.status = .running) .inconsistency
  pure { r with status := .paused, updatedAt := now }

/-- `cancel`. -/
def JobFields.cancelling (r : JobFields) (now : ℤ) : Except OperationError JobFields := do
  require (r.status = .planned ∨ r.status = .running ∨ r.status = .paused ∨ r.status = .failed)
    .inconsistency
  pure { r with status := .cancelled, updatedAt := now, finishedAt := some now }

/-- `fail`: what is written, or nothing when the job has already ended well or was cancelled. -/
def JobFields.failing (r : JobFields) (code : JobErrorCode) (now : ℤ) : Option JobFields :=
  if r.status = .completed ∨ r.status = .cancelled then none
  else some { r with
    status := .failed
    updatedAt := now
    finishedAt := some now
    errorCode := some code }

/-! ### The catalog -/

/-- The records of `jobs.json`. -/
abbrev JobCatalog := List MarketJobRecord

/-- The record of a job. -/
def JobCatalog.lookup (jobs : JobCatalog) (jobId : Uuid) : Option MarketJobRecord :=
  jobs.find? (·.jobId = jobId)

/-- `get`. -/
def JobCatalog.get (jobs : JobCatalog) (jobId : Uuid) : Except OperationError MarketJobRecord :=
  match jobs.lookup jobId with
  | some record => .ok record
  | none => .error .jobNotFound

/-- Write one record in the place of the one of the same job. -/
def JobCatalog.put (jobs : JobCatalog) (record : MarketJobRecord) : JobCatalog :=
  jobs.map fun r => if r.jobId = record.jobId then record else r

/-- `create`: the record of the plan, the one that is there or a new one. -/
def JobCatalog.create (jobs : JobCatalog) (digest : PlanPayload → ℕ) (plan : BackfillPlan)
    (now : ℤ) : Except OperationError MarketJobRecord × JobCatalog :=
  match jobs.lookup plan.jobId with
  | some existing =>
    (if digest existing.payload = digest plan.payload then .ok existing
      else .error .inconsistency, jobs)
  | none => match (plannedRecord plan now).construct with
    | .ok record => (.ok record, jobs ++ [record])
    | .error e => (.error e, jobs)

/-- `_replace`: write the change of a record that was read, unless it is another one by now. -/
def JobCatalog.replace (jobs : JobCatalog) (record : MarketJobRecord) (change : JobFields) :
    Except OperationError MarketJobRecord × JobCatalog :=
  match change.construct with
  | .error e => (.error e, jobs)
  | .ok updated =>
    if jobs.lookup record.jobId = some record then (.ok updated, jobs.put updated)
    else (.error .inconsistency, jobs)

/-- `_record_plan`. -/
def recordPlan (record : MarketJobRecord) : Except OperationError BackfillPlan := do
  let chunks ← record.chunkRanges.zipIdx.mapM fun item => do
    let expected ← expectedCandleCount item.1 record.dataset.timeframe
    pure (⟨item.2, item.1, expected⟩ : BackfillChunk)
  pure
    { jobId := record.jobId
      dataset := record.dataset
      dataRange := record.dataRange
      chunks := chunks
      expectedCandles := record.candlesExpected
      chunkCandles := record.chunkCandles
      jobType := record.jobType }

/-! ### Lookups -/

section

variable {jobs : JobCatalog} {record r : MarketJobRecord} {jobId : Uuid}

theorem JobCatalog.get_eq_ok : jobs.get jobId = .ok record ↔ jobs.lookup jobId = some record := by
  unfold JobCatalog.get
  cases jobs.lookup jobId <;> simp

theorem JobCatalog.lookup_jobId (h : jobs.lookup jobId = some record) : record.jobId = jobId := by
  simpa using List.find?_some h

theorem JobCatalog.lookup_append :
    JobCatalog.lookup (jobs ++ [record]) jobId =
      (jobs.lookup jobId).or (if record.jobId = jobId then some record else none) := by
  unfold JobCatalog.lookup
  rw [List.find?_append]
  by_cases h : record.jobId = jobId <;> simp [h]

theorem JobCatalog.lookup_put :
    (jobs.put record).lookup jobId =
      if record.jobId = jobId then (jobs.lookup jobId).map fun _ => record
      else jobs.lookup jobId := by
  unfold JobCatalog.lookup JobCatalog.put
  induction jobs with
  | nil => split <;> rfl
  | cons first rest ih =>
    rw [List.map_cons, List.find?_cons, List.find?_cons, ih]
    by_cases hfirst : first.jobId = record.jobId
    · rw [if_pos hfirst]
      by_cases hid : record.jobId = jobId
      · simp [hid, hfirst]
      · have hne : first.jobId ≠ jobId := fun h => hid (hfirst ▸ h)
        simp [hid, hne]
    · rw [if_neg hfirst]
      by_cases hid : record.jobId = jobId
      · have hne : first.jobId ≠ jobId := fun h => hfirst (h.trans hid.symm)
        simp [hid, hne]
      · by_cases hf : first.jobId = jobId <;> simp [hid, hf]

/-- What `_replace` writes. -/
theorem JobCatalog.replace_of_lookup {change : JobFields}
    (h : jobs.lookup record.jobId = some record) (hr : r.toJobFields = change) :
    jobs.replace record change = (.ok r, jobs.put r) := by
  unfold JobCatalog.replace
  rw [JobFields.construct_eq_ok.mpr hr]
  dsimp only
  rw [if_pos h]

end

/-! ### The record of a plan -/

section

variable {planner : MarketDataPlanner} {dataset : MarketDatasetSelector} {dataRange : DataRange}
  {jobType : MarketJobType} {jobId : Uuid} {now : ℤ} {plan : BackfillPlan} {tf : Timeframe}

/-- Every chunk counts its candles, so the counts can be taken again. -/
theorem mapM_expectedCandleCount {chunks : List BackfillChunk}
    (h : ∀ chunk ∈ chunks, expectedCandleCount chunk.dataRange tf = .ok chunk.expectedCandles) :
    (chunks.map (·.dataRange)).mapM (expectedCandleCount · tf) =
      .ok (chunks.map (·.expectedCandles)) := by
  induction chunks with
  | nil => rfl
  | cons first rest ih =>
    have hfirst := h first List.mem_cons_self
    have hrest := ih fun chunk hc => h chunk (List.mem_cons_of_mem _ hc)
    rw [List.map_cons, List.mapM_cons, hfirst, ok_bind, hrest]
    rfl

/-- The chunks of a record, numbered again. -/
theorem mapM_recordChunk {chunks : List BackfillChunk} {index : ℕ}
    (h : ∀ chunk ∈ chunks, expectedCandleCount chunk.dataRange tf = .ok chunk.expectedCandles)
    (hindex : ∀ (i : ℕ) (hi : i < chunks.length), chunks[i].index = index + i) :
    (((chunks.map (·.dataRange)).zipIdx index).mapM fun item => do
      let expected ← expectedCandleCount item.1 tf
      pure (⟨item.2, item.1, expected⟩ : BackfillChunk)) = .ok chunks := by
  induction chunks generalizing index with
  | nil => rfl
  | cons first rest ih =>
    have hfirst := h first List.mem_cons_self
    have hzero : first.index = index := hindex 0 (by simp)
    have hrest := ih (fun chunk hc => h chunk (List.mem_cons_of_mem _ hc))
      (show ∀ (i : ℕ) (hi : i < rest.length), rest[i].index = index + 1 + i from fun i hi => by
        have hnext := hindex (i + 1) (by simpa using hi)
        rw [List.getElem_cons_succ] at hnext
        omega)
    rw [List.map_cons, List.zipIdx_cons, List.mapM_cons]
    dsimp only
    rw [hfirst, ok_bind, hrest]
    change Except.ok (⟨index, first.dataRange, first.expectedCandles⟩ :: rest) = _
    rw [← hzero]

/-- What the planner has checked of every chunk. -/
theorem backfill_chunk (h : planner.backfill dataset dataRange jobType jobId now = .ok plan)
    {chunk : BackfillChunk} (hc : chunk ∈ plan.chunks) :
    expectedCandleCount chunk.dataRange dataset.timeframe = .ok chunk.expectedCandles := by
  obtain ⟨-, -, -, -, -, hcount, htiles, -⟩ := backfill_eq_ok h
  exact htiles.expectedCandleCount (expectedCandleCount_eq_ok.mp hcount).1 hc

/-- The chunks of a plan are numbered in order. -/
theorem backfill_index (h : planner.backfill dataset dataRange jobType jobId now = .ok plan)
    {i : ℕ} (hi : i < plan.chunks.length) : plan.chunks[i].index = i := by
  obtain ⟨-, -, -, -, -, -, htiles, -⟩ := backfill_eq_ok h
  rw [htiles.index_getElem hi, Nat.zero_add]

/-- The chunks of a record that kept the ranges of numbered chunks. -/
theorem recordPlan_of_chunks (hindex : ∀ (i : ℕ) (hi : i < plan.chunks.length),
      plan.chunks[i].index = i)
    (hchunk : ∀ chunk ∈ plan.chunks,
      expectedCandleCount chunk.dataRange plan.dataset.timeframe = .ok chunk.expectedCandles)
    {record : MarketJobRecord} (hjob : record.jobId = plan.jobId)
    (hpayload : record.payload = plan.payload) : recordPlan record = .ok plan := by
  have hset : record.dataset = plan.dataset := congrArg PlanPayload.dataset hpayload
  have hchunks : (record.chunkRanges.zipIdx.mapM fun item => do
      let expected ← expectedCandleCount item.1 record.dataset.timeframe
      pure (⟨item.2, item.1, expected⟩ : BackfillChunk)) = .ok plan.chunks := by
    have hranges : record.chunkRanges = plan.chunks.map (·.dataRange) :=
      congrArg PlanPayload.chunkRanges hpayload
    rw [hranges, hset]
    exact mapM_recordChunk hchunk fun i hi => by rw [hindex i hi, Nat.zero_add]
  unfold recordPlan
  rw [hchunks, ok_bind]
  have hrange : record.dataRange = plan.dataRange := congrArg PlanPayload.dataRange hpayload
  have hexpected : record.candlesExpected = plan.expectedCandles :=
    congrArg PlanPayload.expectedCandles hpayload
  have hsize : record.chunkCandles = plan.chunkCandles := congrArg PlanPayload.chunkCandles hpayload
  have htype : record.jobType = plan.jobType := congrArg PlanPayload.jobType hpayload
  rw [hjob, hset, hrange, hexpected, hsize, htype]
  rfl

/-- **A record gives back the plan it was made from.** -/
theorem recordPlan_eq (h : planner.backfill dataset dataRange jobType jobId now = .ok plan)
    {record : MarketJobRecord} (hjob : record.jobId = plan.jobId)
    (hpayload : record.payload = plan.payload) : recordPlan record = .ok plan := by
  obtain ⟨-, hdataset, -, -, -, -, -, -⟩ := backfill_eq_ok h
  refine recordPlan_of_chunks (fun i hi => backfill_index h hi) (fun chunk hc => ?_) hjob hpayload
  rw [hdataset]
  exact backfill_chunk h hc

/-- The record of a plan whose chunks follow one another and count their candles is valid. -/
theorem plannedRecord_valid_of_chunks (hne : plan.chunks ≠ []) (hsize : 1 ≤ plan.chunkCandles)
    (hordered : (plan.chunks.map (·.dataRange)).IsChain fun a b => a.stop ≤ b.start)
    (hcovers : CoversRange plan.jobType plan.dataRange (plan.chunks.map (·.dataRange)))
    (hchunk : ∀ chunk ∈ plan.chunks,
      expectedCandleCount chunk.dataRange plan.dataset.timeframe = .ok chunk.expectedCandles)
    (hsum : (plan.chunks.map (·.expectedCandles)).sum = plan.expectedCandles) (created : ℤ) :
    (plannedRecord plan created).Valid := by
  refine ⟨⟨?_, hsize⟩, Nat.zero_le _, le_rfl, hordered, hcovers, ?_, rfl, ?_, rfl⟩
  · exact fun hnil => hne (List.map_eq_nil_iff.mp hnil)
  · change Except.map List.sum ((plan.chunks.map (·.dataRange)).mapM
      (expectedCandleCount · plan.dataset.timeframe)) = .ok plan.expectedCandles
    rw [mapM_expectedCandleCount hchunk, ← hsum]
    rfl
  · intro hcompleted
    cases hcompleted

/-- **The record of a plan is valid.** -/
theorem plannedRecord_valid
    (h : planner.backfill dataset dataRange jobType jobId now = .ok plan)
    (hjob : jobType ≠ .gapRepair) (created : ℤ) : (plannedRecord plan created).Valid := by
  have hne := backfill_chunks_ne_nil h
  have hchunk : ∀ chunk ∈ plan.chunks,
      expectedCandleCount chunk.dataRange dataset.timeframe = .ok chunk.expectedCandles :=
    fun chunk hc => backfill_chunk h hc
  obtain ⟨-, hdataset, hrange, htype, hsize, -, htiles, hsum⟩ := backfill_eq_ok h
  have hchain := htiles.isChain
  refine plannedRecord_valid_of_chunks hne ?_ (hchain.imp fun a b hab => hab.le) ?_
    (hdataset ▸ hchunk) hsum created
  · rw [hsize]
    exact planner.chunkCandles_pos
  · rw [CoversRange, if_neg (htype ▸ hjob), hrange]
    exact ⟨fun r hr => htiles.head_start hr, fun r hr => htiles.getLast_stop hr, hchain⟩

end

end Operations
end DryTrade
