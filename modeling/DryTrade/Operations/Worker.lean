import DryTrade.Operations.World

/-!
# The operation worker

One iteration of the worker claims an operation and settles it: it recovers an expired one,
acknowledges an unclaimed control, or starts a pending one and runs the backfill executor under
it.  The executor works chunk by chunk; before each chunk it observes the controls of the
administrator, after each it mirrors the local checkpoint.  Heartbeats renew the lease while the
executor waits; a failed heartbeat cancels the executor at one of its next waits.

## Main definitions

* `Worker` — a worker: its identity and its settings.
* `Worker.pollControl`, `Worker.heartbeat`, `Worker.checkpoint`, … — the session.
* `Worker.executeChunk`, `Worker.execute` — the executor.
* `Worker.runOnce` — one iteration.
-/

namespace DryTrade
namespace Operations

open MarketData

inductive BackfillControl
  | proceed
  | pause
  | cancel
  deriving DecidableEq, Repr

/-- The settings of a worker. -/
structure Worker where
  ownerId : Uuid
  leaseDuration : ℤ
  planner : MarketDataPlanner
  /-- The version of a dataset is a digest of its candles. -/
  versionDigest : (ℤ → Option ℕ) → ℕ
  leaseDuration_pos : 0 < leaseDuration

/-- `BackfillResult`. -/
structure BackfillResult where
  jobId : Uuid
  status : MarketJobStatus
  chunksCompleted : ℕ
  totalChunks : ℕ
  fetchedCount : ℕ
  storedCount : ℕ
  duplicateCount : ℕ
  requestCount : ℕ
  deriving DecidableEq, Repr

/-- `_result`. -/
def backfillResult (record : MarketJobRecord) (requests : ℕ) : BackfillResult where
  jobId := record.jobId
  status := record.status
  chunksCompleted := record.nextChunkIndex
  totalChunks := record.chunkRanges.length
  fetchedCount := record.candlesFetched
  storedCount := record.candlesStored
  duplicateCount := record.duplicates
  requestCount := max requests record.requestCount

/-- The job a row is bound to once a record was found for it. -/
def boundJob (o : SnapshotFields) (record : Option MarketJobRecord) : Option Uuid :=
  match record with
  | some record => some record.jobId
  | none => o.localJobId

/-- The row of a recovery that goes on executing. -/
def SnapshotFields.rerun (o : SnapshotFields) (progress : OperationProgress)
    (record : Option MarketJobRecord) (now : ℤ) : SnapshotFields :=
  { o with
    state := .running
    progress := progress
    localJobId := boundJob o record
    updatedAt := now
    recordVersion := o.recordVersion + 1 }

/-- The row of a recovery that ends the execution. -/
def SnapshotFields.recovered (o : SnapshotFields) (state : MarketOperationState)
    (progress : OperationProgress) (record : Option MarketJobRecord)
    (result : Option OperationResult) (failure : Option SanitizedOperationFailure) (now : ℤ) :
    SnapshotFields :=
  { o with
    state := state
    progress := progress
    localJobId := boundJob o record
    lease := none
    result := result
    failure := failure
    finishedAt := if state = .paused then none else some now
    updatedAt := now
    recordVersion := o.recordVersion + 1 }

namespace Worker

variable (worker : Worker)

/-! ### The session -/

/-- `_require_owned`. -/
def requireOwned (o : MarketOperationSnapshot) : Work Unit :=
  ensure (o.lease.any (·.ownerId = worker.ownerId) = true) .value

/-- The expiry of a lease taken now. -/
def expiry (now : ℤ) : ℤ := now + worker.leaseDuration

/-- A claim is kept in the history. -/
def claimCommitted (w : World) (r : Except OperationError (Option MarketOperationSnapshot ×
    OperationTable)) : Except OperationError (Option MarketOperationSnapshot) × World :=
  match r with
  | .ok (some o, t) =>
    (.ok (some o), { w with table := t, history := w.history ++ [(o.id, .claimed)] })
  | .ok (none, t) => (.ok none, { w with table := t })
  | .error e => (.error e, w)

/-- `claim_next`. -/
def claimNext : Work (Option MarketOperationSnapshot) := do
  let now ← readClock .free
  change .claiming fun w =>
    if w.ambient.claimRaceLost then (.error .invalidLease, w)
    else claimCommitted w (Operations.claimNext w.table w.ambient.lockedRows worker.ownerId now
      (worker.expiry now))

/-- `claim_next_expired`. -/
def claimNextExpired : Work (Option MarketOperationRecoveryClaim) := do
  let now ← readClock .free
  transaction .claiming fun w =>
    if w.ambient.claimRaceLost then .error .invalidLease
    else Operations.claimNextExpired w.table w.ambient.lockedRows worker.ownerId now
      (worker.expiry now)

/-- `settle_or_claim_next_unclaimed_control`. -/
def settleOrClaimNextUnclaimedControl : Work (Option MarketOperationSnapshot) := do
  let now ← readClock .free
  transaction .claiming fun w =>
    if w.ambient.claimRaceLost then .error .invalidLease
    else Operations.settleOrClaimNextUnclaimedControl w.table w.ambient.lockedRows worker.ownerId
      now (worker.expiry now)

/-- `request_state` for an owned operation. -/
def requestOwned (o : MarketOperationSnapshot) (target : MarketOperationState) :
    Work MarketOperationSnapshot := do
  let now ← readClock (.held o.id)
  transaction (.held o.id) fun w =>
    requestState w.table o.id target o.recordVersion now (some worker.ownerId)

/-- `start`. -/
def start (o : MarketOperationSnapshot) : Work MarketOperationSnapshot := do
  worker.requireOwned o
  if o.state = .running then pure o
  else do
    ensure (o.state = .claimed) .value
    worker.requestOwned o .running

/-- The row of an operation, as `get` returns it to its owner. -/
def getOwned (o : MarketOperationSnapshot) : Work MarketOperationSnapshot := do
  let current ← look .free fun w => match w.table.lookup o.id with
    | some current => .ok current
    | none => .error .value
  worker.requireOwned current
  pure current

/-- The renewal of the lease of a row that was just read. -/
def renew (current : MarketOperationSnapshot) : Work MarketOperationSnapshot := do
  let now ← readClock (.renewing current.id)
  match current.lease with
  | none => raiseError .value
  | some lease => do
    let renewed ← compute (renewLease lease worker.ownerId now (worker.expiry now))
    transaction (.held current.id) fun w =>
      renewLeaseRow w.table current.id worker.ownerId now renewed current.recordVersion

/-- `poll_control`. -/
def pollControl (o : MarketOperationSnapshot) :
    Work (MarketOperationSnapshot × BackfillControl) := do
  let current ← worker.getOwned o
  if current.state = .pauseRequested then pure (current, .pause)
  else if current.state = .cancelRequested then pure (current, .cancel)
  else do
    ensure (current.state = .claimed ∨ current.state = .running) .value
    let renewed ← worker.renew current
    pure (renewed, .proceed)

/-- `heartbeat`. -/
def heartbeat (o : MarketOperationSnapshot) : Work MarketOperationSnapshot := do
  let current ← worker.getOwned o
  ensure (current.state ∈ MarketOperationState.leaseStates) .value
  worker.renew current

/-- `_require_bound_record`. -/
def requireBoundRecord (o : SnapshotFields) (record : JobFields) : Except OperationError Unit := do
  require (record.jobId = o.localJobId.getD o.id ∧ record.dataset = o.dataset ∧
    record.jobType = operationJobType o.intent.request.operationType ∧
    record.chunkRanges.length = o.intent.plan.chunksPlanned ∧
    record.candlesExpected = o.intent.plan.estimatedCandles) .inconsistency
  require (worker.planner.digest record.payload = o.intent.plan.checksum) .planConflict

/-- `OperationProgress(...)`. -/
def constructProgress (o : SnapshotFields) (p : OperationProgress) :
    Except OperationError OperationProgress := do
  require (p.chunksCompleted + p.chunksFailed ≤ o.intent.plan.chunksPlanned ∧
    p.candlesPersisted ≤ p.candlesReceived) .invalidRequest
  pure p

/-- `_operation_progress_from_record`. -/
def operationProgressFromRecord (o : SnapshotFields) (record : JobFields) (updatedAt : ℤ) :
    Except OperationError OperationProgress := do
  worker.requireBoundRecord o record
  constructProgress o
    { chunksCompleted := record.nextChunkIndex
      chunksFailed := o.progress.chunksFailed
      candlesReceived := record.candlesFetched
      candlesPersisted := record.candlesStored
      requestsCompleted := record.requestCount
      updatedAt := updatedAt }

/-- `checkpoint`. -/
def checkpoint (o : MarketOperationSnapshot) (record : MarketJobRecord) :
    Work MarketOperationSnapshot := do
  let current ← worker.getOwned o
  ensure (current.state = .claimed ∨ current.state = .running ∨ current.state = .pauseRequested ∨
    current.state = .cancelRequested) .value
  let now ← readClock (.held current.id)
  let progress ← compute
    (worker.operationProgressFromRecord current.toSnapshotFields record.toJobFields now)
  transaction (.held current.id) fun w =>
    updateProgress w.table current.id worker.ownerId now progress record.jobId
      current.recordVersion

/-- `finish_success`. -/
def finishSuccess (o : MarketOperationSnapshot) (datasetVersion datasetChecksum : ℕ) :
    Work MarketOperationSnapshot := do
  worker.requireOwned o
  let now ← readClock (.held o.id)
  transaction (.held o.id) fun w =>
    complete w.table o.id worker.ownerId now ⟨datasetVersion, datasetChecksum, now⟩ o.progress
      o.recordVersion

/-- `finish_failure`. -/
def finishFailure (o : MarketOperationSnapshot) (code : MarketOperationFailureCode) :
    Work MarketOperationSnapshot := do
  worker.requireOwned o
  let now ← readClock (.held o.id)
  transaction (.held o.id) fun w =>
    fail w.table o.id worker.ownerId now ⟨code, now⟩ o.progress o.recordVersion

/-- `finish_pause`. -/
def finishPause (o : MarketOperationSnapshot) : Work MarketOperationSnapshot := do
  worker.requireOwned o
  if o.state = .paused then pure o
  else do
    ensure (o.state = .pauseRequested) .value
    worker.requestOwned o .paused

/-- `finish_cancel`. -/
def finishCancel (o : MarketOperationSnapshot) : Work MarketOperationSnapshot := do
  worker.requireOwned o
  if o.state = .cancelled then pure o
  else do
    ensure (o.state = .cancelRequested) .value
    worker.requestOwned o .cancelled

/-- `MarketOperationWorkerSession.reconcile`. -/
def reconcileOwned (current : MarketOperationSnapshot) (target : MarketOperationSnapshot) :
    Work MarketOperationSnapshot := do
  worker.requireOwned current
  ensure (target.id = current.id) .value
  if target.lease = none then pure () else worker.requireOwned target
  let now ← readClock (.held current.id)
  transaction (.held current.id) fun w =>
    reconcile w.table target.toSnapshotFields worker.ownerId now current.recordVersion

/-! ### The plan of an operation -/

/-- `build_operation_backfill_plan`. -/
def buildOperationBackfillPlan (o : SnapshotFields) (now : ℤ) :
    Except OperationError BackfillPlan := do
  require (o.localJobId.all (· = o.id) = true) .inconsistency
  let plan ← worker.planner.backfill o.dataset o.intent.request.dataRange
    (operationJobType o.intent.request.operationType) o.id now
  let checksum := worker.planner.checksum plan
  require (checksum = o.intent.request.planChecksum ∧ checksum = o.intent.plan.checksum ∧
    plan.chunks.length = o.intent.plan.chunksPlanned ∧
    plan.expectedCandles = o.intent.plan.estimatedCandles ∧
    plan.chunks.length = o.intent.plan.estimatedRequests) .planConflict
  pure plan

/-- `_require_record_matches_plan`. -/
def requireRecordMatchesPlan (o : SnapshotFields) (record : JobFields) (plan : BackfillPlan) :
    Except OperationError Unit := do
  match worker.requireBoundRecord o record with
  | .error .planConflict => .error .inconsistency
  | r => r
  require (plan.jobId = o.id ∧ record.dataRange = plan.dataRange ∧
    record.chunkRanges = plan.chunks.map (·.dataRange) ∧
    record.chunkCandles = plan.chunkCandles ∧ record.candlesExpected = plan.expectedCandles ∧
    worker.planner.digest record.payload = worker.planner.checksum plan) .inconsistency

/-- `_recovery_progress_from_record`. -/
def recoveryProgressFromRecord (o : SnapshotFields) (record : JobFields) (plan : BackfillPlan)
    (updatedAt : ℤ) : Except OperationError OperationProgress := do
  worker.requireRecordMatchesPlan o record plan
  let progress ← match worker.operationProgressFromRecord o record updatedAt with
    | .error .invalidRequest => .error .inconsistency
    | r => r
  match requireProgressNotRegressed o.progress progress with
  | .error _ => .error .inconsistency
  | .ok () => pure progress

/-! ### The executor -/

/-- The heartbeat task has raised, and the executor is cancelled at this wait. -/
def interruption : Work Unit := do
  let cut ← look .free fun w =>
    .ok (w.heartbeatErrors.any (·.1 = worker.ownerId) && w.ambient.interrupted)
  if cut then Program.raise .cancelled else pure ()

/-- What the heartbeat task raises is kept until the executor is joined. -/
def heartbeatFailed (e : OperationError) : Work Unit :=
  change .free fun w =>
    (.ok (), { w with heartbeatErrors := w.heartbeatErrors ++ [(worker.ownerId, e)] })

/-- Some heartbeats, one after the other, until one raises. -/
def heartbeats : ℕ → MarketOperationSnapshot → Work MarketOperationSnapshot
  | 0, o => pure o
  | n + 1, o => do
    let renewed ← exceptError (some <$> worker.heartbeat o) fun e => do
      worker.heartbeatFailed e
      pure none
    match renewed with
    | some renewed => heartbeats n renewed
    | none => pure o

/-- The heartbeats that fall due at one wait; none after one has raised. -/
def dueHeartbeats (o : MarketOperationSnapshot) : Work MarketOperationSnapshot := do
  let due ← look .free fun w =>
    .ok (if w.heartbeatErrors.any (·.1 = worker.ownerId) then 0 else w.ambient.heartbeatsDue)
  worker.heartbeats due o

/-- The executor waits. -/
def waiting (o : MarketOperationSnapshot) : Work MarketOperationSnapshot := do
  let renewed ← worker.dueHeartbeats o
  worker.interruption
  pure renewed

/-- `before_chunk`. -/
def beforeChunk (o : MarketOperationSnapshot) (record : MarketJobRecord) (chunk : BackfillChunk) :
    Work (MarketOperationSnapshot × BackfillControl) := do
  compute (worker.requireBoundRecord o.toSnapshotFields record.toJobFields)
  ensure (record.nextChunkIndex = chunk.index) .inconsistency
  worker.pollControl o

/-- `after_checkpoint`. -/
def afterCheckpoint (o : MarketOperationSnapshot) (record : MarketJobRecord)
    (chunk : BackfillChunk) : Work MarketOperationSnapshot := do
  compute (worker.requireBoundRecord o.toSnapshotFields record.toJobFields)
  ensure (record.nextChunkIndex = chunk.index + 1) .inconsistency
  worker.checkpoint o record

/-- `_validate_receipt`. -/
def validateReceipt (receipt : ChunkCommitReceipt) (record : JobFields) (chunk : BackfillChunk) :
    Except OperationError Unit :=
  require (receipt.jobId = record.jobId ∧ receipt.chunkIndex = chunk.index ∧
    receipt.dataset = record.dataset ∧ receipt.dataRange = chunk.dataRange ∧
    receipt.storedCount + receipt.duplicateCount ≤ receipt.fetchedCount) .inconsistency

/-- `_verify_repair`, after the last chunk of a repair. -/
def verifyRepair (plan : BackfillPlan) (chunk : BackfillChunk) : Work Unit :=
  if plan.jobType = .gapRepair ∧ chunk.index + 1 = plan.chunks.length then do
    let complete ← verify plan.dataset plan.dataRange
    ensure (complete = true) .inconsistency
  else pure ()

/-- `_checkpoint_confirmed_chunk`: a failed checkpoint is tried once more. -/
def checkpointConfirmedChunk (jobId : Uuid) (receipt : ChunkCommitReceipt)
    (chunk : BackfillChunk) : Work MarketJobRecord :=
  exceptError (jobAdvance jobId receipt chunk.index) fun _ => do
    let current ← jobGet jobId
    if current.nextChunkIndex = chunk.index + 1 then pure current
    else jobAdvance jobId receipt chunk.index

/-- What the loop over the chunks carries: the operation and the requests made so far. -/
structure Execution where
  operation : MarketOperationSnapshot
  requests : ℕ

/-- The rest of the loop body, once a chunk may be ingested. -/
def ingestChunk (plan : BackfillPlan) (x : Execution) (record : MarketJobRecord)
    (chunk : BackfillChunk) : Work Execution := do
  let stored ← verify plan.dataset chunk.dataRange
  let confirmed ← if stored then getChunkReceipt .files plan.jobId chunk.index else pure none
  match confirmed with
  | some receipt => do
    compute (validateReceipt receipt record.toJobFields chunk)
    verifyRepair plan chunk
    let advanced ← jobAdvance plan.jobId receipt receipt.chunkIndex
    let o ← worker.afterCheckpoint x.operation advanced chunk
    pure { x with operation := o }
  | none => do
    let o ← worker.waiting x.operation
    let requests ← ingest worker.versionDigest plan.dataset plan.jobId chunk
    let o ← worker.waiting o
    match ← getChunkReceipt .files plan.jobId chunk.index with
    | none => raiseError .inconsistency
    | some receipt => do
      compute (validateReceipt receipt record.toJobFields chunk)
      verifyRepair plan chunk
      let advanced ← checkpointConfirmedChunk plan.jobId receipt chunk
      let o ← worker.waiting o
      let o ← worker.afterCheckpoint o advanced chunk
      pure ⟨o, x.requests + requests⟩

/-- The loop body: the result of the job when it stops here. -/
def executeChunk (plan : BackfillPlan) (x : Execution) (chunk : BackfillChunk) :
    Work (Execution × Option BackfillResult) := do
  let current ← jobGet plan.jobId
  if current.status = .paused ∨ current.status = .cancelled then
    pure (x, some (backfillResult current x.requests))
  else do
    let o ← worker.waiting x.operation
    let observed ← worker.beforeChunk o current chunk
    match observed.2 with
    | .pause => do
      let paused ← jobPause plan.jobId
      pure ({ x with operation := observed.1 }, some (backfillResult paused x.requests))
    | .cancel => do
      let cancelled ← jobCancel plan.jobId
      pure ({ x with operation := observed.1 }, some (backfillResult cancelled x.requests))
    | .proceed => do
      let x' ← worker.ingestChunk plan { x with operation := observed.1 } current chunk
      pure (x', none)

/-- The loop over the chunks. -/
def executeChunks (plan : BackfillPlan) :
    List BackfillChunk → Execution → Work (Execution × Option BackfillResult)
  | [], x => pure (x, none)
  | chunk :: rest, x => do
    let body ← worker.executeChunk plan x chunk
    match body.2 with
    | some _ => pure body
    | none => executeChunks plan rest body.1

/-- `except Exception as error: jobs.fail(...); raise`. -/
def failingJob {α : Type} (jobId : Uuid) (p : Work α) : Work α :=
  exceptError p fun e => do
    jobFail jobId (.raised e)
    raiseError e

/-- `with locks.acquire(dataset)`: the lock is given back however the body ends. -/
def withLock {α : Type} (dataset : MarketDatasetSelector) (body : Work α) : Work α := do
  lockAcquire worker.ownerId dataset
  let result ← Program.tryCatch (fun r => do
    lockRelease worker.ownerId dataset
    Program.raise r) body
  lockRelease worker.ownerId dataset
  pure result

/-- `BackfillExecutor._execute`. -/
def execute (plan : BackfillPlan) (o : MarketOperationSnapshot) (record : MarketJobRecord) :
    Work (MarketOperationSnapshot × BackfillResult) := do
  ensure (record.dataset = o.dataset) .inconsistency
  let ended ← worker.withLock record.dataset do
    let started ← jobStart record.jobId
    failingJob record.jobId
      (worker.executeChunks plan (plan.chunks.drop started.nextChunkIndex) ⟨o, 0⟩)
  match ended.2 with
  | some result => pure (ended.1.operation, result)
  | none => do
    let final ← jobGet record.jobId
    pure (ended.1.operation, backfillResult final ended.1.requests)

/-- `BackfillExecutor.run`. -/
def run (plan : BackfillPlan) (o : MarketOperationSnapshot) :
    Work (MarketOperationSnapshot × BackfillResult) := do
  ensure (plan.chunks ≠ []) .inconsistency
  let record ← jobCreate worker.planner plan
  if record.status = .completed then pure (o, backfillResult record 0)
  else worker.execute plan o record

/-- `BackfillExecutor.resume`. -/
def resume (jobId : Uuid) (o : MarketOperationSnapshot) :
    Work (MarketOperationSnapshot × BackfillResult) := do
  let record ← jobGet jobId
  ensure (record.status = .paused ∨ record.status = .failed) .inconsistency
  let plan ← compute (recordPlan record)
  ensure (record.dataset = o.dataset) .inconsistency
  worker.execute plan o record

/-- What the heartbeat task has raised, if anything: it wins over the result of the executor. -/
def joinHeartbeat : Work Unit := do
  let raised ← look .free fun w => .ok (w.heartbeatErrors.find? (·.1 = worker.ownerId))
  match raised with
  | some (_, e) => raiseError e
  | none => pure ()

/-- `_execute_with_heartbeat`: a heartbeat in flight ends before the executor is joined. -/
def executeWithHeartbeat (o : MarketOperationSnapshot)
    (body : Work (MarketOperationSnapshot × BackfillResult)) :
    Work (MarketOperationSnapshot × BackfillResult) := do
  change .free fun w =>
    (.ok (), { w with heartbeatErrors := w.heartbeatErrors.filter (·.1 ≠ worker.ownerId) })
  let ended ← Program.tryCatch (fun r => do
    let _ ← worker.dueHeartbeats o
    worker.joinHeartbeat
    Program.raise r) body
  let last ← worker.dueHeartbeats ended.1
  worker.joinHeartbeat
  pure (last, ended.2)

/-- `_execute_operation`. -/
def executeOperation (o : MarketOperationSnapshot) (plan : BackfillPlan) :
    Work (MarketOperationSnapshot × BackfillResult) := do
  match ← localJobOrNone plan.jobId with
  | none => worker.executeWithHeartbeat o (worker.run plan o)
  | some record =>
    if record.status = .planned then worker.executeWithHeartbeat o (worker.run plan o)
    else do
      compute (worker.requireBoundRecord o.toSnapshotFields record.toJobFields)
      if record.status = .paused ∨ record.status = .failed then
        worker.executeWithHeartbeat o (worker.resume plan.jobId o)
      else do
        ensure (record.status = .completed) .inconsistency
        pure (o, { backfillResult record 0 with requestCount := record.requestCount })

/-! ### Settlement -/

/-- `_final_receipt`, read for the row the worker is about to write. -/
def finalReceipt (o : MarketOperationSnapshot) (plan : BackfillPlan) : Work ChunkCommitReceipt := do
  match plan.chunks.getLast? with
  | none => raiseError .value
  | some lastChunk => do
    match ← getChunkReceipt (.held o.id) plan.jobId lastChunk.index with
    | none => raiseError .inconsistency
    | some receipt => do
      ensure (receipt.jobId = plan.jobId ∧ receipt.chunkIndex = lastChunk.index ∧
        receipt.dataset = plan.dataset ∧ receipt.dataRange = lastChunk.dataRange ∧
        receipt.storedCount + receipt.duplicateCount ≤ receipt.fetchedCount) .inconsistency
      pure receipt

/-- `_settle_interruption`. -/
def settleInterruption (o : MarketOperationSnapshot) (status : MarketJobStatus) :
    Work MarketOperationSnapshot := do
  let polled ← worker.pollControl o
  if status = .paused ∧ polled.2 = .pause then worker.finishPause polled.1
  else if status = .cancelled ∧ polled.2 = .cancel then worker.finishCancel polled.1
  else raiseError .inconsistency

/-- `_settle_execution`. -/
def settleExecution (o : MarketOperationSnapshot) (plan : BackfillPlan)
    (execution : BackfillResult) : Work MarketOperationSnapshot := do
  if execution.status = .paused ∨ execution.status = .cancelled then
    worker.settleInterruption o execution.status
  else do
    ensure (execution.status = .completed) .inconsistency
    let record ← jobGet plan.jobId
    compute (worker.requireBoundRecord o.toSnapshotFields record.toJobFields)
    ensure (record.status = .completed) .inconsistency
    let current ← worker.checkpoint o record
    -- Final chunk completion is another safe control boundary.
    let polled ← worker.pollControl current
    match polled.2 with
    | .pause => worker.finishPause polled.1
    | .cancel => worker.finishCancel polled.1
    | .proceed => do
      let receipt ← finalReceipt polled.1 plan
      worker.finishSuccess polled.1 receipt.version receipt.checksum

/-- `_settle_failure`. -/
def settleFailure (o : MarketOperationSnapshot) (e : OperationError) :
    Work MarketOperationSnapshot := do
  let polled ← worker.pollControl o
  match polled.2 with
  | .pause => worker.finishPause polled.1
  | .cancel => worker.finishCancel polled.1
  | .proceed => worker.finishFailure polled.1 (operationFailureCode e)

/-- `except (InvalidOperationLeaseError, OperationVersionConflictError): raise`, then
`except Exception as error`. -/
def exceptOwnership {α : Type} (p : Work α) (h : OperationError → Work α) : Work α :=
  exceptError p fun e =>
    if e = .invalidLease ∨ e = .versionConflict then raiseError e else h e

/-- `_run_running_operation`. -/
def runRunningOperation (o : MarketOperationSnapshot) (given : Option BackfillPlan) :
    Work MarketOperationSnapshot :=
  exceptOwnership (do
    let plan ← match given with
      | some plan => pure plan
      | none => do
        let now ← readClock .free
        compute (worker.buildOperationBackfillPlan o.toSnapshotFields now)
    worker.requireOwned o
    let execution ← worker.executeOperation o plan
    worker.settleExecution execution.1 plan execution.2)
    fun e => worker.settleFailure o e

/-! ### Recovery -/

/-- `_reconcile_recovery_running`. -/
def reconcileRecoveryRunning (o : MarketOperationSnapshot) (plan : BackfillPlan)
    (record : Option MarketJobRecord) : Work MarketOperationSnapshot := do
  ensure (o.startedAt ≠ none) .inconsistency
  let now ← readClock (.held o.id)
  let progress ← match record with
    | none => pure o.progress
    | some record =>
      compute (worker.recoveryProgressFromRecord o.toSnapshotFields record.toJobFields plan now)
  let target ← compute (o.toSnapshotFields.rerun progress record now).construct
  worker.reconcileOwned o target

/-- `_reconcile_recovery_outcome`. -/
def reconcileRecoveryOutcome (o : MarketOperationSnapshot) (state : MarketOperationState)
    (plan : Option BackfillPlan) (record : Option MarketJobRecord)
    (failureCode : Option MarketOperationFailureCode) : Work MarketOperationSnapshot := do
  let now ← readClock (.held o.id)
  let progress ← match record, plan with
    | none, _ => pure o.progress
    | some _, none => raiseError .inconsistency
    | some record, some plan =>
      compute (worker.recoveryProgressFromRecord o.toSnapshotFields record.toJobFields plan now)
  let result ← match state, plan, record with
    | .completed, some plan, some record => do
      ensure (record.status = .completed) .inconsistency
      let receipt ← finalReceipt o plan
      pure (some (⟨receipt.version, receipt.checksum, now⟩ : OperationResult))
    | .completed, _, _ => raiseError .inconsistency
    | _, _, _ => pure none
  let failure ← match state, failureCode with
    | .cancelled, _ => pure (some (⟨.cancelledByAdmin, now⟩ : SanitizedOperationFailure))
    | .failed, some code => pure (some ⟨code, now⟩)
    | .failed, none => raiseError .inconsistency
    | .completed, _ | .paused, _ => pure none
    | _, _ => raiseError .inconsistency
  let target ← compute
    (o.toSnapshotFields.recovered state progress record result failure now).construct
  worker.reconcileOwned o target

/-- `_converge_recovery`. -/
def convergeRecovery (o : MarketOperationSnapshot) (recoveredFrom : MarketOperationState)
    (plan : BackfillPlan) (record : Option MarketJobRecord) : Work MarketOperationSnapshot := do
  let outcome (state : MarketOperationState) (record : Option MarketJobRecord) :=
    worker.reconcileRecoveryOutcome o state (some plan) record none
  let busy := worker.reconcileRecoveryOutcome o .failed none none (some .datasetBusy)
  let rerun (record : Option MarketJobRecord) : Work MarketOperationSnapshot := do
    let running ← worker.reconcileRecoveryRunning o plan record
    worker.runRunningOperation running (some plan)
  let status : Option MarketJobStatus := record.map fun r => r.status
  match recoveredFrom, status with
  | .claimed, none => do
    ensure (o.localJobId = none ∧ o.progress.unpublished) .inconsistency
    rerun none
  | .claimed, some _ => raiseError .inconsistency
  | .running, none => raiseError .inconsistency
  | .running, some .running => busy
  | .running, some .planned | .running, some .failed | .running, some .paused => rerun record
  | .running, some .completed => outcome .completed record
  | .running, some .cancelled => outcome .cancelled record
  | .pauseRequested, some .completed => outcome .completed record
  | .pauseRequested, some .running => busy
  | .pauseRequested, some .cancelled => outcome .cancelled record
  | .pauseRequested, none | .pauseRequested, some .planned | .pauseRequested, some .failed
  | .pauseRequested, some .paused => outcome .paused record
  | .cancelRequested, some .completed => outcome .completed record
  | .cancelRequested, some .running => busy
  | .cancelRequested, none | .cancelRequested, some .cancelled => outcome .cancelled record
  | .cancelRequested, some .planned | .cancelRequested, some .failed
  | .cancelRequested, some .paused => do
    let cancelled ← jobCancel plan.jobId
    compute (worker.requireRecordMatchesPlan o.toSnapshotFields cancelled.toJobFields plan)
    outcome .cancelled (some cancelled)
  | .recovering, some .completed => outcome .completed record
  | .recovering, some .cancelled => outcome .cancelled record
  | .recovering, some .paused => outcome .paused record
  | _, _ => raiseError .inconsistency

/-- `_recover_operation`. -/
def recoverOperation (claim : MarketOperationRecoveryClaim) : Work MarketOperationSnapshot :=
  exceptOwnership (do
    let now ← readClock .free
    let plan ← compute (worker.buildOperationBackfillPlan claim.operation.toSnapshotFields now)
    let record ← localJobOrNone plan.jobId
    match record with
    | none => pure ()
    | some record =>
      compute (worker.requireRecordMatchesPlan claim.operation.toSnapshotFields
        record.toJobFields plan)
    worker.convergeRecovery claim.operation claim.recoveredFrom plan record)
    fun e => worker.reconcileRecoveryOutcome claim.operation .failed none none
      (some (operationFailureCode e))

/-- How a claimed control ends, once the local progress is published. -/
inductive ControlSettlement
  | success
  | pause
  | cancel
  deriving DecidableEq, Repr

/-- `_settle_claimed_unleased_control`, up to the checkpoint that publishes the local progress:
what it returns without one, or the row and how to settle it. -/
def publishControl (o : MarketOperationSnapshot) (plan : BackfillPlan) (record : MarketJobRecord) :
    Work (MarketOperationSnapshot ⊕ (MarketOperationSnapshot × ControlSettlement)) := do
  if record.status = .completed then do
    let current ← worker.checkpoint o record
    pure (.inr (current, .success))
  else if record.status = .running then do
    let failed ← worker.finishFailure o .datasetBusy
    pure (.inl failed)
  else if o.state = .pauseRequested then do
    ensure (record.status ≠ .cancelled) .inconsistency
    let current ← worker.checkpoint o record
    pure (.inr (current, .pause))
  else do
    let cancelled ← if record.status ≠ .cancelled then do
        let cancelled ← jobCancel record.jobId
        compute (worker.requireRecordMatchesPlan o.toSnapshotFields cancelled.toJobFields plan)
        pure cancelled
      else pure record
    let current ← worker.checkpoint o cancelled
    pure (.inr (current, .cancel))

/-- `_settle_claimed_unleased_control`, after that checkpoint. -/
def settleControl (current : MarketOperationSnapshot) (plan : BackfillPlan) :
    ControlSettlement → Work MarketOperationSnapshot
  | .success => do
    let receipt ← finalReceipt current plan
    worker.finishSuccess current receipt.version receipt.checksum
  | .pause => worker.finishPause current
  | .cancel => worker.finishCancel current

/-- `_settle_claimed_unleased_control`: an exception fails the latest row that was written. -/
def settleClaimedUnleasedControl (o : MarketOperationSnapshot) : Work MarketOperationSnapshot := do
  let failing (current : MarketOperationSnapshot) (e : OperationError) :=
    worker.finishFailure current (operationFailureCode e)
  let published ← exceptOwnership (do
    ensure (o.state.isControl = true) .inconsistency
    let now ← readClock .free
    let plan ← compute (worker.buildOperationBackfillPlan o.toSnapshotFields now)
    match ← localJobOrNone plan.jobId with
    | none => raiseError .inconsistency
    | some record => do
      compute (worker.requireRecordMatchesPlan o.toSnapshotFields record.toJobFields plan)
      let now ← readClock .free
      let _ ← compute
        (worker.recoveryProgressFromRecord o.toSnapshotFields record.toJobFields plan now)
      let settlement ← worker.publishControl o plan record
      pure (settlement.map id fun s => (s.1, s.2, plan)))
    fun e => Sum.inl <$> failing o e
  match published with
  | .inl settled => pure settled
  | .inr (current, settlement, plan) =>
    exceptOwnership (worker.settleControl current plan settlement) (failing current)

/-- `run_once`. -/
def runOnce : Work (Option MarketOperationSnapshot) := do
  recoverAbandoned
  match ← worker.claimNextExpired with
  | some recovery => some <$> worker.recoverOperation recovery
  | none => do
    match ← worker.settleOrClaimNextUnclaimedControl with
    | some control =>
      if control.state = .paused ∨ control.state = .cancelled then pure (some control)
      else some <$> worker.settleClaimedUnleasedControl control
    | none => do
      match ← worker.claimNext with
      | none => pure none
      | some claimed => do
        let operation ← worker.start claimed
        some <$> worker.runRunningOperation operation none

end Worker
end Operations
end DryTrade
