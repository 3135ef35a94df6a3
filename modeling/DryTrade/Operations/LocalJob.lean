import DryTrade.Operations.Session

/-!
# The local job of a served operation

Only the worker that serves an operation changes the files of its job.  Each change keeps the
job one of the plan, its counters only grow, and the jobs of the other operations are left as
they are; so the worker stays in service.

## Main definitions

* `FilesStep` — a change of the files of one job.
* `JobNext` — a later record of the same job.

## Main results

* `InService.files` — the worker stays in service over such a change.
* `jobChange_returns`, `jobCreate_returns`, `ingest_returns`, … — the changes the executor makes.
-/

namespace DryTrade
namespace Operations

open MarketData Program

/-- A change of the files that concerns the job of one plan. -/
structure FilesStep (plan : BackfillPlan) (f f' : Files) : Prop where
  others : ∀ id, id ≠ plan.jobId → f.SameJob f' id
  receipts : ∀ receipt ∈ f'.receipts, receipt.jobId = plan.jobId →
    receipt ∈ f.receipts ∨ ∃ chunk ∈ plan.chunks, ReceiptFits plan receipt chunk
  job : ∀ record, f'.jobs.lookup plan.jobId = some record → JobOf plan f'.receipts record
  publishes : ∀ o : SnapshotFields, Publishes o (f.jobs.lookup plan.jobId) →
    Publishes o (f'.jobs.lookup plan.jobId)
  quiet : f'.heartbeatErrors = f.heartbeatErrors

/-- A later record of the job of a plan. -/
structure JobNext (plan : BackfillPlan) (receipts : List ChunkCommitReceipt)
    (record next : MarketJobRecord) : Prop where
  job : JobOf plan receipts next
  chunks : record.nextChunkIndex ≤ next.nextChunkIndex
  received : record.candlesFetched ≤ next.candlesFetched
  persisted : record.candlesStored ≤ next.candlesStored
  requests : record.requestCount ≤ next.requestCount

section

variable {worker : Worker} {plan : BackfillPlan} {intent : OperationIntent}
  {observed : BackfillControl} {f f' : Files} {w w' : World} {α : Type} {point : Point}
  {record next : MarketJobRecord} {chunk : BackfillChunk}

theorem Mirrors.later {progress : OperationProgress} {receipts : List ChunkCommitReceipt}
    (h : Mirrors progress record.toJobFields) (hnext : JobNext plan receipts record next) :
    Mirrors progress next.toJobFields where
  chunks := h.chunks.trans hnext.chunks
  failed := h.failed
  received := h.received.trans hnext.received
  persisted := h.persisted.trans hnext.persisted
  requests := h.requests.trans hnext.requests

/-- The files that only differ in locks and candles. -/
theorem FilesStep.refl {locks : List (MarketDatasetSelector × Uuid)}
    (h : ∀ record, f.jobs.lookup plan.jobId = some record → JobOf plan f.receipts record) :
    FilesStep plan f { f with locks := locks } where
  others _ _ := ⟨rfl, fun _ _ => Iff.rfl⟩
  receipts _ hreceipt _ := .inl hreceipt
  job := h
  publishes _ ho := ho
  quiet := rfl

/-- A later record in the place of the one that is there. -/
theorem FilesStep.put (hlookup : f.jobs.lookup plan.jobId = some record)
    (hnext : JobNext plan f.receipts record next) :
    FilesStep plan f { f with jobs := f.jobs.put next } where
  others id hid := by
    refine ⟨?_, fun _ _ => Iff.rfl⟩
    change (f.jobs.put next).lookup id = _
    rw [JobCatalog.lookup_put, if_neg fun heq => hid (heq.symm.trans hnext.job.jobId)]
  receipts _ hreceipt _ := .inl hreceipt
  job r hr := by
    change (f.jobs.put next).lookup plan.jobId = _ at hr
    rw [JobCatalog.lookup_put, if_pos hnext.job.jobId, hlookup] at hr
    cases hr
    exact hnext.job
  publishes o ho := by
    change Publishes o ((f.jobs.put next).lookup plan.jobId)
    rw [hlookup] at ho
    rw [JobCatalog.lookup_put, if_pos hnext.job.jobId, hlookup]
    exact ⟨ho.1, ho.2.later hnext⟩
  quiet := rfl

/-- The record in service is one of the plan. -/
theorem InService.jobOf (h : InService worker plan intent observed f w)
    (hrecord : f.jobs.lookup plan.jobId = some record) : JobOf plan f.receipts record := by
  obtain ⟨o, hserving, -, -⟩ := h
  exact hserving.follows.job record (hserving.follows.jobId ▸ hrecord)

theorem InService.planned (h : InService worker plan intent observed f w) :
    PlannedAs worker.planner intent plan := by
  obtain ⟨o, hserving, hintent, -⟩ := h
  exact hintent ▸ hserving.follows.planned

theorem InService.fits (h : InService worker plan intent observed f w)
    {receipt : ChunkCommitReceipt} (hreceipt : receipt ∈ f.receipts)
    (hjob : receipt.jobId = plan.jobId) : ∃ chunk ∈ plan.chunks, ReceiptFits plan receipt chunk := by
  obtain ⟨o, hserving, -, -⟩ := h
  exact hserving.follows.receipts receipt hreceipt hjob

/-- **The worker stays in service** over a change of the files of its job. -/
theorem InService.files (h : InService worker plan intent observed f w)
    (hstep : FilesStep plan f f') (htable : w'.table = w.table) (hhistory : w'.history = w.history)
    (hclock : w'.clock = w.clock) (hfiles : w'.files = f') :
    InService worker plan intent observed f' w' := by
  obtain ⟨o, hserving, hintent, hobserves⟩ := h
  have hid : plan.jobId = o.id := hserving.follows.jobId
  have hold := hserving.files
  refine ⟨o, ⟨htable ▸ hserving.lookup, hfiles, hserving.lease, hserving.state,
    hhistory ▸ hserving.tells, ?_, hclock ▸ hserving.clock, ?_⟩, hintent, hobserves⟩
  · refine ⟨hserving.follows.planned, fun receipt hreceipt hjob => ?_, fun record hrecord => ?_, ?_⟩
    · rcases hstep.receipts receipt hreceipt hjob with hmem | hfits
      · exact hserving.follows.receipts receipt hmem hjob
      · exact hfits
    · exact hstep.job record (hid ▸ hrecord)
    · rw [← hid]
      exact hstep.publishes _ (hid ▸ hserving.follows.publishes)
  · have haround := hserving.around
    have hjobs : ∀ jobId, jobId ≠ o.id → w'.jobs.lookup jobId = w.jobs.lookup jobId := by
      intro jobId hne
      have hsame := (hstep.others jobId (hid ▸ hne)).job
      rw [← hfiles, ← hold] at hsame
      exact hsame
    refine ⟨fun r hr hne => ?_, fun jobId record hne hrecord => ?_, fun jobId record hrecord => ?_,
      fun receipt hreceipt => ?_, ?_⟩
    · rw [htable] at hr
      have hrest := haround.rows r hr hne
      have hother : r.id ≠ plan.jobId := fun heq => hne (congrArg some (heq.trans hid))
      rw [hhistory, hfiles]
      rw [hold] at hrest
      exact hrest.files (hstep.others r.id hother)
    · have hother : jobId ≠ o.id := fun heq => hne (congrArg some heq)
      exact haround.running jobId record hne (hjobs jobId hother ▸ hrecord)
    · rw [htable]
      by_cases hown : jobId = o.id
      · rw [hown, hserving.lookup]
        exact Option.some_ne_none _
      · exact haround.known jobId record (hjobs jobId hown ▸ hrecord)
    · rw [htable]
      by_cases hown : receipt.jobId = o.id
      · rw [hown, hserving.lookup]
        exact Option.some_ne_none _
      · refine haround.receipts receipt ?_
        have hiff := (hstep.others receipt.jobId (hid ▸ hown)).receipts receipt rfl
        rw [← hfiles, ← hold] at hiff
        exact hiff.mp hreceipt
    · have hquiet := hstep.quiet
      rw [← hfiles, ← hold] at hquiet
      exact hquiet.trans haround.quiet

/-! ### Reads -/

/-- What is read of the files is what the files hold. -/
theorem returns_readFiles {M : α → World → Prop} (h : InService worker plan intent observed f w)
    {g : World → Except OperationError α}
    (hg : ∀ w', w'.files = f → InService worker plan intent observed f w' →
      ∃ a, g w' = .ok a ∧ M a w') :
    Returns (calm worker) (look point g) w M := by
  refine returns_look fun w' hmove => ?_
  have h' := h.moved hmove
  obtain ⟨o, hserving, -, -⟩ := id h'
  exact hg w' hserving.files h'

theorem jobGet_returns (h : InService worker plan intent observed f w)
    (hrecord : f.jobs.lookup plan.jobId = some record) :
    Returns (calm worker) (jobGet plan.jobId) w fun r t =>
      r = record ∧ InService worker plan intent observed f t := by
  refine returns_readFiles h fun w' hfiles h' => ⟨record, ?_, rfl, h'⟩
  rw [← hfiles] at hrecord
  exact JobCatalog.get_eq_ok.mpr hrecord

theorem localJobOrNone_returns (h : InService worker plan intent observed f w) :
    Returns (calm worker) (localJobOrNone plan.jobId) w fun r t =>
      r = f.jobs.lookup plan.jobId ∧ InService worker plan intent observed f t :=
  returns_readFiles h fun _ hfiles h' => ⟨_, rfl, hfiles ▸ rfl, h'⟩

theorem verify_returns (h : InService worker plan intent observed f w)
    (dataset : MarketDatasetSelector) (r : DataRange) :
    Returns (calm worker) (verify dataset r) w fun _ t =>
      InService worker plan intent observed f t :=
  returns_readFiles h fun _ _ h' => ⟨_, rfl, h'⟩

/-- The receipt of a chunk, if one was found. -/
theorem getChunkReceipt_returns (h : InService worker plan intent observed f w) (index : ℕ) :
    Returns (calm worker) (getChunkReceipt point plan.jobId index) w fun found t =>
      found = f.receipts.find? (fun r => r.jobId = plan.jobId ∧ r.chunkIndex = index) ∧
        InService worker plan intent observed f t :=
  returns_readFiles h fun _ hfiles h' => ⟨_, rfl, hfiles ▸ rfl, h'⟩

theorem returns_clock (h : InService worker plan intent observed f w) :
    Returns (calm worker) (readClock point) w fun now t =>
      intent.createdAt ≤ now ∧ InService worker plan intent observed f t := by
  refine returns_readFiles h fun w' _ h' => ⟨w'.clock, rfl, ?_, h'⟩
  obtain ⟨o, hserving, hintent, -⟩ := h'
  exact hintent ▸ hserving.clock

/-! ### Changes -/

/-- A change of the files of the job. -/
theorem returns_changeFiles (h : InService worker plan intent observed f w)
    {g : World → Except OperationError α × World} {M : α → Files → Prop}
    (hg : ∀ w', CalmMove worker.planner point w w' → w'.files = f → ∃ a f', (g w').1 = .ok a ∧
      (g w').2.table = w'.table ∧ (g w').2.history = w'.history ∧ (g w').2.clock = w'.clock ∧
      (g w').2.files = f' ∧ FilesStep plan f f' ∧ M a f') :
    Returns (calm worker) (change point g) w fun a t =>
      ∃ f', M a f' ∧ InService worker plan intent observed f' t := by
  refine returns_change fun w' hmove => ?_
  have h' := h.moved hmove
  obtain ⟨o, hserving, -, -⟩ := id h'
  obtain ⟨a, f', ha, htable, hhistory, hclock, hfiles, hstep, hM⟩ := hg w' hmove hserving.files
  exact ⟨a, ha, f', hM, h'.files hstep htable hhistory hclock hfiles⟩

/-- **A change of the job record.** -/
theorem jobChange_returns (h : InService worker plan intent observed f w)
    (hrecord : f.jobs.lookup plan.jobId = some record)
    {change : JobFields → ℤ → Except OperationError JobFields} {N : MarketJobRecord → Prop}
    (hchange : ∀ now, ∃ next : MarketJobRecord,
      change record.toJobFields now = .ok next.toJobFields ∧ N next ∧
        JobNext plan f.receipts record next) :
    Returns (calm worker) (jobChange plan.jobId change) w fun r t => N r ∧
      r.jobId = plan.jobId ∧ InService worker plan intent observed
        { f with jobs := f.jobs.put r } t := by
  refine (jobGet_returns h hrecord).bind fun r t ⟨hr, ht⟩ => ?_
  rw [hr]
  refine (returns_clock ht).bind fun now t' ⟨_, ht'⟩ => ?_
  obtain ⟨next, hnow, hN, hnext⟩ := hchange now
  refine returns_compute_bind hnow ?_
  refine (returns_changeFiles ht' (M := fun r f' => r = next ∧
    f' = { f with jobs := f.jobs.put next }) fun w' _ hfiles => ?_).mono
    fun r t'' ⟨f', ⟨hr', hf'⟩, ht''⟩ => ?_
  · have hown : w'.jobs.lookup record.jobId = some record := by
      rw [(h.jobOf hrecord).jobId, ← hrecord, ← hfiles]
      rfl
    have hreplace := JobCatalog.replace_of_lookup hown (r := next) rfl
    refine ⟨next, { f with jobs := f.jobs.put next }, ?_, rfl, rfl, rfl, ?_,
      .put hrecord hnext, rfl, rfl⟩
    · exact congrArg Prod.fst hreplace
    · rw [← hfiles]
      dsimp only
      rw [hreplace]
      rfl
  · rw [hr']
    exact ⟨hN, hnext.job.jobId, hf' ▸ ht''⟩

/-! ### The changes of the executor -/

/-- Another status of the same record, short of completion. -/
theorem MarketJobRecord.validStatus (record : MarketJobRecord) (status : MarketJobStatus)
    (now : ℤ) (finishedAt : Option ℤ) (errorCode : Option JobErrorCode)
    (hterminal : status.terminal = finishedAt.isSome) (hopen : status ≠ .completed)
    (herror : errorCode.isSome = decide (status = .failed)) :
    JobFields.Valid { record.toJobFields with
      status := status, updatedAt := now, finishedAt := finishedAt, errorCode := errorCode } where
  chunks := record.valid.chunks
  next := record.valid.next
  counts := record.valid.counts
  disjoint := record.valid.disjoint
  covers := record.valid.covers
  expected := record.valid.expected
  terminal := hterminal
  completed h := absurd h hopen
  error := herror

/-- A record that is not complete and changes its status only is a later one. -/
theorem JobNext.status (h : JobOf plan f.receipts record) (hopen : record.status ≠ .completed)
    (hpayload : next.payload = record.payload) (hid : next.jobId = record.jobId)
    (hchunks : next.nextChunkIndex = record.nextChunkIndex)
    (hreceived : next.candlesFetched = record.candlesFetched)
    (hpersisted : next.candlesStored = record.candlesStored)
    (hrequests : next.requestCount = record.requestCount) :
    JobNext plan f.receipts record next where
  job := by
    refine ⟨hid.trans h.jobId, hpayload.trans h.payload, fun _ => ?_, ?_, fun i hi => ?_⟩
    · rw [hchunks]
      exact h.unfinished hopen
    · rw [hreceived, hchunks]
      exact h.fetched
    · exact h.receipts i (hchunks ▸ hi)
  chunks := hchunks.ge
  received := hreceived.ge
  persisted := hpersisted.ge
  requests := hrequests.ge

/-- A job that runs has no end and no error. -/
theorem MarketJobRecord.running_fields (hstatus : record.status = .running) :
    record.finishedAt = none ∧ record.errorCode = none := by
  have hterminal := record.valid.terminal
  have herror := record.valid.error
  rw [hstatus] at hterminal herror
  exact ⟨by simpa [MarketJobStatus.terminal] using hterminal, by simpa using herror⟩

theorem jobStart_returns (h : InService worker plan intent observed f w)
    (hrecord : f.jobs.lookup plan.jobId = some record)
    (hstatus : record.status = .planned ∨ record.status = .paused ∨ record.status = .failed) :
    Returns (calm worker) (jobStart plan.jobId) w fun r t =>
      (r.status = .running ∧ r.nextChunkIndex = record.nextChunkIndex) ∧
        r.jobId = plan.jobId ∧
        InService worker plan intent observed { f with jobs := f.jobs.put r } t := by
  refine jobChange_returns h hrecord fun now => ?_
  have hopen : record.status ≠ .completed := by
    rcases hstatus with hs | hs | hs <;> rw [hs] <;> decide
  refine ⟨⟨_, record.validStatus .running now none none rfl (by decide) rfl⟩, ?_, ⟨rfl, rfl⟩,
    .status (h.jobOf hrecord) hopen rfl rfl rfl rfl rfl rfl⟩
  unfold JobFields.started require
  rw [if_pos hstatus]
  rfl

theorem jobPause_returns (h : InService worker plan intent observed f w)
    (hrecord : f.jobs.lookup plan.jobId = some record) (hstatus : record.status = .running) :
    Returns (calm worker) (jobPause plan.jobId) w fun r t => r.status = .paused ∧
      r.jobId = plan.jobId ∧
      InService worker plan intent observed { f with jobs := f.jobs.put r } t := by
  refine jobChange_returns h hrecord fun now => ?_
  obtain ⟨hfinished, herror⟩ := MarketJobRecord.running_fields hstatus
  have hvalid := record.validStatus .paused now record.finishedAt record.errorCode
    (by rw [hfinished]; rfl) (by decide) (by rw [herror]; rfl)
  refine ⟨⟨_, hvalid⟩, ?_, rfl,
    .status (h.jobOf hrecord) (by rw [hstatus]; decide) rfl rfl rfl rfl rfl rfl⟩
  unfold JobFields.pausing require
  rw [if_pos hstatus]
  rfl

theorem jobCancel_returns (h : InService worker plan intent observed f w)
    (hrecord : f.jobs.lookup plan.jobId = some record)
    (hstatus : record.status = .running ∨ record.status = .paused) :
    Returns (calm worker) (jobCancel plan.jobId) w fun r t => r.status = .cancelled ∧
      r.jobId = plan.jobId ∧
      InService worker plan intent observed { f with jobs := f.jobs.put r } t := by
  refine jobChange_returns h hrecord fun now => ?_
  have herror : record.errorCode.isSome = decide (MarketJobStatus.cancelled = .failed) := by
    rw [record.valid.error]
    rcases hstatus with hs | hs <;> rw [hs] <;> rfl
  have hvalid := record.validStatus .cancelled now (some now) record.errorCode rfl (by decide)
    herror
  refine ⟨⟨_, hvalid⟩, ?_, rfl, .status (h.jobOf hrecord) ?_ rfl rfl rfl rfl rfl rfl⟩
  · unfold JobFields.cancelling require
    rw [if_pos (hstatus.elim (fun hs => .inr (.inl hs)) fun hs => .inr (.inr (.inl hs)))]
    rfl
  · rcases hstatus with hs | hs <;> rw [hs] <;> decide

/-- The chunk whose turn it is, with its receipt, is one more chunk of the job. -/
theorem JobOf.advanced (h : JobOf plan f.receipts record) (hplanned : PlannedAs worker.planner intent plan)
    (hstatus : record.status = .running) (hchunk : plan.chunks[record.nextChunkIndex]? = some chunk)
    {receipt : ChunkCommitReceipt} (hmem : receipt ∈ f.receipts)
    (hfits : ReceiptFits plan receipt chunk) (now : ℤ) :
    ∃ next : MarketJobRecord, record.toJobFields.advanced chunk.index receipt.fetchedCount
        receipt.storedCount receipt.duplicateCount receipt.requestCount now =
          .ok next.toJobFields ∧
      (next.nextChunkIndex = record.nextChunkIndex + 1 ∧
        (next.status = .completed ∧ next.nextChunkIndex = plan.chunks.length ∨
          next.status = .running ∧ next.nextChunkIndex < plan.chunks.length)) ∧
      JobNext plan f.receipts record next := by
  obtain ⟨hlt, hget⟩ := List.getElem?_eq_some_iff.mp hchunk
  have hindex : chunk.index = record.nextChunkIndex := by
    rw [← hget]
    exact backfill_index hplanned.backfill hlt
  have hranges : record.chunkRanges.length = plan.chunks.length := by
    rw [show record.chunkRanges = plan.chunks.map (·.dataRange) from
      congrArg PlanPayload.chunkRanges h.payload, List.length_map]
  have hfetched : record.candlesFetched + receipt.fetchedCount =
      ((plan.chunks.take (record.nextChunkIndex + 1)).map (·.expectedCandles)).sum := by
    rw [List.take_add_one, hchunk, List.map_append, List.sum_append, h.fetched, hfits.fetched]
    simp
  obtain ⟨hfinished, herror⟩ := MarketJobRecord.running_fields hstatus
  have hcounts : record.candlesStored + receipt.storedCount +
      (record.duplicates + receipt.duplicateCount) ≤
        record.candlesFetched + receipt.fetchedCount := by
    have hrecord := record.valid.counts
    have hreceipt := hfits.counts
    omega
  let fields : JobFields := { record.toJobFields with
    status := if chunk.index + 1 = record.chunkRanges.length ∧ record.status ≠ .cancelled
      then .completed else record.status
    nextChunkIndex := chunk.index + 1
    candlesFetched := record.candlesFetched + receipt.fetchedCount
    candlesStored := record.candlesStored + receipt.storedCount
    duplicates := record.duplicates + receipt.duplicateCount
    requestCount := record.requestCount + receipt.requestCount
    updatedAt := now
    finishedAt := if chunk.index + 1 = record.chunkRanges.length then some now
      else record.finishedAt }
  have hstatus' : fields.status = .completed ∧ chunk.index + 1 = plan.chunks.length ∧
        fields.finishedAt = some now ∨
      fields.status = .running ∧ chunk.index + 1 < plan.chunks.length ∧
        fields.finishedAt = none := by
    by_cases hlast : chunk.index + 1 = plan.chunks.length
    · refine .inl ⟨?_, hlast, if_pos (hranges.symm ▸ hlast)⟩
      exact if_pos ⟨hranges.symm ▸ hlast, by rw [hstatus]; decide⟩
    · refine .inr ⟨?_, by omega, (if_neg (hranges.symm ▸ hlast)).trans hfinished⟩
      exact (if_neg fun h => hlast (hranges ▸ h.1)).trans hstatus
  have hvalid : fields.Valid := by
    refine ⟨record.valid.chunks, ?_, hcounts, record.valid.disjoint, record.valid.covers,
      record.valid.expected, ?_, fun hcompleted => ?_, ?_⟩
    · change chunk.index + 1 ≤ record.chunkRanges.length
      omega
    · rcases hstatus' with ⟨hs, -, hf⟩ | ⟨hs, -, hf⟩ <;> rw [hs, hf] <;> rfl
    · rcases hstatus' with ⟨-, hlast, -⟩ | ⟨hs, -, -⟩
      · refine ⟨hlast.trans hranges.symm, fun _ => ?_⟩
        change record.candlesFetched + receipt.fetchedCount = record.candlesExpected
        rw [hfetched, ← hindex, hlast, List.take_length]
        obtain ⟨-, -, -, -, -, -, -, hsum⟩ := backfill_eq_ok hplanned.backfill
        rw [hsum]
        exact (congrArg PlanPayload.expectedCandles h.payload).symm
      · rw [hs] at hcompleted
        cases hcompleted
    · change record.errorCode.isSome = _
      rcases hstatus' with ⟨hs, -, -⟩ | ⟨hs, -, -⟩ <;> rw [hs, herror] <;> rfl
  refine ⟨⟨fields, hvalid⟩, ?_, ⟨congrArg (· + 1) hindex, ?_⟩, ?_⟩
  · unfold JobFields.advanced require
    rw [if_pos hfits.counts, ok_bind, if_pos ⟨.inl hstatus, hindex⟩]
    rfl
  · rcases hstatus' with ⟨hs, hlast, -⟩ | ⟨hs, hlast, -⟩
    · exact .inl ⟨hs, hlast⟩
    · exact .inr ⟨hs, hlast⟩
  · refine ⟨⟨h.jobId, h.payload, fun hopen => ?_, ?_, fun i hi => ?_⟩, ?_, Nat.le_add_right _ _,
      Nat.le_add_right _ _, Nat.le_add_right _ _⟩
    · rcases hstatus' with ⟨hs, -, -⟩ | ⟨-, hlast, -⟩
      · exact absurd hs hopen
      · exact hlast
    · change record.candlesFetched + receipt.fetchedCount =
        ((plan.chunks.take (chunk.index + 1)).map (·.expectedCandles)).sum
      rw [hindex]
      exact hfetched
    · rcases Nat.lt_succ_iff_lt_or_eq.mp (show i < chunk.index + 1 from hi) with hlt' | heq
      · exact h.receipts i (hindex ▸ hlt')
      · exact ⟨receipt, hmem, hfits.jobId, hfits.chunkIndex.trans heq.symm⟩
    · change record.nextChunkIndex ≤ chunk.index + 1
      omega

end

end Operations
end DryTrade
