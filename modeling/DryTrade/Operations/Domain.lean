import DryTrade.Failure
import DryTrade.MarketData.Domain

/-!
# Market-data operations

The operational control plane keeps one row for each submitted operation: what was asked for,
which state the operation is in, how far it got, and which worker holds its lease.  A snapshot
of a row carries the outcome of the checks its constructor and the table make, so an invalid one
cannot be built.  Instants are microseconds since the epoch, in UTC.

## Main definitions

* `MarketOperationState`, `requireTransition`, `requireReconciliationTransition` — the state
  machine.
* `WorkerLease`, `renewLease` — the lease of a worker.
* `MarketOperationSnapshot` — a row.
* `validateOperationUpdate` — what recovery may change.

## Main results

* `construct_eq_ok` — what the constructor accepts.
* `renewLease_eq_ok` — what a renewal asks and gives.
-/

namespace DryTrade
namespace Operations

open MarketData

/-- The exceptions of the operation service, its worker and what they call. -/
inductive OperationError
  | invalidRequest
  | versionConflict
  | idempotencyConflict
  | invalidLease
  | invalidTransition
  | terminal
  | progressRegression
  | notFound
  | persistence
  | planConflict
  | invalidDataRange
  | inconsistency
  | jobNotFound
  | jobLockTimeout
  | storage
  | rateLimit
  | invalidResponse
  | unavailable
  | value
  deriving DecidableEq, Repr

inductive MarketOperationType
  | rawBackfill
  | rawIncrementalUpdate
  deriving DecidableEq, Repr

inductive MarketOperationState
  | pending
  | claimed
  | running
  | pauseRequested
  | paused
  | cancelRequested
  | cancelled
  | completed
  | failed
  | recovering
  deriving DecidableEq, Repr

inductive MarketOperationFailureCode
  | invalidRequest
  | planConflict
  | datasetBusy
  | leaseLost
  | workerUnavailable
  | localStateInvalid
  | networkFailure
  | rateLimited
  | cancelledByAdmin
  | internalError
  deriving DecidableEq, Repr

/-- `_operation_failure_code`. -/
def operationFailureCode : OperationError → MarketOperationFailureCode
  | .planConflict => .planConflict
  | .invalidRequest => .invalidRequest
  | .jobLockTimeout => .datasetBusy
  | .rateLimit => .rateLimited
  | .invalidResponse | .unavailable => .networkFailure
  | .inconsistency | .jobNotFound => .localStateInvalid
  | _ => .internalError

namespace MarketOperationState

/-- `TERMINAL_OPERATION_STATES`. -/
def terminalStates : List MarketOperationState := [.cancelled, .completed, .failed]

/-- `_LEASE_STATES`. -/
def leaseStates : List MarketOperationState :=
  [.claimed, .running, .pauseRequested, .cancelRequested, .recovering]

/-- `_CLEAR_LEASE_STATES`. -/
def clearLeaseStates : List MarketOperationState :=
  [.pending, .paused, .cancelled, .completed, .failed]

/-- `_NORMAL_TRANSITIONS`. -/
def normalTransitions : MarketOperationState → List MarketOperationState
  | .pending => [.claimed, .pauseRequested, .cancelRequested]
  | .claimed => [.running, .pauseRequested, .cancelRequested, .failed]
  | .running => [.pauseRequested, .cancelRequested, .completed, .failed]
  | .pauseRequested => [.paused, .completed, .failed]
  | .paused => [.pending, .cancelRequested]
  | .cancelRequested => [.cancelled, .completed, .failed]
  | .cancelled | .completed | .failed | .recovering => []

/-- `_RECONCILIATION_TRANSITIONS`. -/
def reconciliationTransitions : MarketOperationState → List MarketOperationState
  | .claimed => [.recovering]
  | .running => [.cancelled, .recovering]
  | .pauseRequested => [.recovering]
  | .cancelRequested => [.recovering]
  | .recovering => [.claimed, .running, .paused, .completed, .cancelled, .failed]
  | _ => []

/-- The transitions `protect_market_data_operation` lets pass. -/
def approvedTransitions : MarketOperationState → List MarketOperationState
  | .pending => [.claimed, .pauseRequested, .cancelRequested]
  | .claimed => [.running, .pauseRequested, .cancelRequested, .failed, .recovering]
  | .running => [.pauseRequested, .cancelRequested, .completed, .failed, .recovering, .cancelled]
  | .pauseRequested => [.paused, .completed, .failed, .recovering]
  | .paused => [.pending, .cancelRequested]
  | .cancelRequested => [.cancelled, .completed, .failed, .recovering]
  | .recovering => [.claimed, .running, .paused, .completed, .cancelled, .failed]
  | .cancelled | .completed | .failed => []

/-- The table and the domain agree on the graph. -/
theorem mem_approvedTransitions (current target : MarketOperationState) :
    target ∈ current.approvedTransitions ↔
      target ∈ current.normalTransitions ∨ target ∈ current.reconciliationTransitions := by
  cases current <;> cases target <;> decide

/-- The states in which a row counts as the active execution of its dataset. -/
def isActive : MarketOperationState → Bool
  | .claimed | .running | .recovering => true
  | _ => false

/-- The states of an unconsumed control. -/
def isControl : MarketOperationState → Bool
  | .pauseRequested | .cancelRequested => true
  | _ => false

end MarketOperationState

/-- `require_transition`. -/
def requireTransition (current target : MarketOperationState) : Except OperationError Unit := do
  require (current ∉ MarketOperationState.terminalStates) .terminal
  require (target ∈ current.normalTransitions) .invalidTransition

/-- `require_reconciliation_transition`. -/
def requireReconciliationTransition (current target : MarketOperationState) :
    Except OperationError Unit := do
  require (current ∉ MarketOperationState.terminalStates) .terminal
  require (target ∈ current.reconciliationTransitions) .invalidTransition

@[simp] theorem requireTransition_eq_ok {current target : MarketOperationState} {u : Unit} :
    requireTransition current target = .ok u ↔ target ∈ current.normalTransitions := by
  simp only [requireTransition, bind_eq_ok, require_eq_ok, exists_const, and_iff_right_iff_imp]
  cases current <;> simp [MarketOperationState.terminalStates,
    MarketOperationState.normalTransitions]

@[simp] theorem requireReconciliationTransition_eq_ok {current target : MarketOperationState}
    {u : Unit} : requireReconciliationTransition current target = .ok u ↔
      target ∈ current.reconciliationTransitions := by
  simp only [requireReconciliationTransition, bind_eq_ok, require_eq_ok, exists_const,
    and_iff_right_iff_imp]
  cases current <;> simp [MarketOperationState.terminalStates,
    MarketOperationState.reconciliationTransitions]

/-- `request_pause`. -/
def requestPause (state : MarketOperationState) : Except OperationError MarketOperationState :=
  if state = .pauseRequested ∨ state = .paused then .ok state
  else do
    requireTransition state .pauseRequested
    pure .pauseRequested

/-- `request_resume`. -/
def requestResume (state : MarketOperationState) : Except OperationError MarketOperationState :=
  if state = .pending then .ok state
  else do
    requireTransition state .pending
    pure .pending

/-- `request_cancel`. -/
def requestCancel (state : MarketOperationState) : Except OperationError MarketOperationState :=
  if state = .cancelRequested ∨ state = .cancelled then .ok state
  else do
    requireTransition state .cancelRequested
    pure .cancelRequested

/-! ### Leases -/

/-- The lease of one worker on one operation. -/
structure WorkerLease where
  ownerId : Uuid
  claimedAt : ℤ
  heartbeatAt : ℤ
  leaseExpiresAt : ℤ
  claimed_le_heartbeat : claimedAt ≤ heartbeatAt
  heartbeat_lt_expires : heartbeatAt < leaseExpiresAt
  deriving DecidableEq, Repr

/-- `WorkerLease(...)`. -/
def WorkerLease.construct (ownerId : Uuid) (claimedAt heartbeatAt leaseExpiresAt : ℤ) :
    Except OperationError WorkerLease :=
  if h : claimedAt ≤ heartbeatAt ∧ heartbeatAt < leaseExpiresAt then
    .ok ⟨ownerId, claimedAt, heartbeatAt, leaseExpiresAt, h.1, h.2⟩
  else .error .invalidLease

/-- `is_active`. -/
def WorkerLease.isActive (lease : WorkerLease) (now : ℤ) : Except OperationError Bool :=
  if now < lease.heartbeatAt then .error .invalidLease
  else .ok (decide (now < lease.leaseExpiresAt))

/-- The clock stands between the last heartbeat and the expiry. -/
def WorkerLease.ActiveAt (lease : WorkerLease) (now : ℤ) : Prop :=
  lease.heartbeatAt ≤ now ∧ now < lease.leaseExpiresAt

@[simp] theorem WorkerLease.isActive_eq_true {lease : WorkerLease} {now : ℤ} :
    lease.isActive now = .ok true ↔ lease.ActiveAt now := by
  unfold isActive ActiveAt
  split
  · simpa using fun h => absurd h (by omega)
  · simpa using fun _ => by omega

/-- `renew_lease`. -/
def renewLease (lease : WorkerLease) (ownerId : Uuid) (now leaseExpiresAt : ℤ) :
    Except OperationError WorkerLease := do
  require (lease.ownerId = ownerId) .invalidLease
  let active ← lease.isActive now
  require (active = true) .invalidLease
  require (lease.heartbeatAt ≤ now ∧ now < leaseExpiresAt ∧ lease.leaseExpiresAt < leaseExpiresAt)
    .invalidLease
  WorkerLease.construct lease.ownerId lease.claimedAt now leaseExpiresAt

theorem WorkerLease.construct_eq_ok {ownerId : Uuid} {claimedAt heartbeatAt leaseExpiresAt : ℤ}
    {lease : WorkerLease} :
    WorkerLease.construct ownerId claimedAt heartbeatAt leaseExpiresAt = .ok lease ↔
      lease.ownerId = ownerId ∧ lease.claimedAt = claimedAt ∧ lease.heartbeatAt = heartbeatAt ∧
        lease.leaseExpiresAt = leaseExpiresAt := by
  unfold construct
  constructor
  · intro h
    split at h
    · cases h
      exact ⟨rfl, rfl, rfl, rfl⟩
    · cases h
  · rintro ⟨rfl, rfl, rfl, rfl⟩
    rw [dif_pos ⟨lease.claimed_le_heartbeat, lease.heartbeat_lt_expires⟩]

/-- What a renewal asks, and the lease it gives. -/
theorem renewLease_eq_ok {lease renewed : WorkerLease} {ownerId : Uuid} {now expires : ℤ} :
    renewLease lease ownerId now expires = .ok renewed ↔
      (lease.ownerId = ownerId ∧ lease.ActiveAt now ∧ now < expires ∧
        lease.leaseExpiresAt < expires) ∧
      renewed.ownerId = lease.ownerId ∧ renewed.claimedAt = lease.claimedAt ∧
        renewed.heartbeatAt = now ∧ renewed.leaseExpiresAt = expires := by
  simp only [renewLease, bind_eq_ok, require_eq_ok, exists_const, WorkerLease.construct_eq_ok]
  constructor
  · rintro ⟨howner, active, hactive, rfl, ⟨-, hlater, hgrows⟩, hrenewed⟩
    exact ⟨⟨howner, WorkerLease.isActive_eq_true.mp hactive, hlater, hgrows⟩, hrenewed⟩
  · rintro ⟨⟨howner, hactive, hlater, hgrows⟩, hrenewed⟩
    exact ⟨howner, true, WorkerLease.isActive_eq_true.mpr hactive, rfl,
      ⟨hactive.1, hlater, hgrows⟩, hrenewed⟩

/-! ### Snapshots -/

/-- The RAW dataset an operation works on; exchange and market are fixed. -/
structure MarketDatasetSelector where
  pair : String
  timeframe : Timeframe
  deriving DecidableEq, Repr

/-- What the administrator asked for. -/
structure MarketOperationRequest where
  operationType : MarketOperationType
  dataset : MarketDatasetSelector
  dataRange : DataRange
  planChecksum : ℕ
  idempotencyKey : String
  requestedBy : Uuid
  deriving DecidableEq, Repr

/-- `OperationPlanSummary`. -/
structure OperationPlanSummary where
  checksum : ℕ
  chunksPlanned : ℕ
  estimatedCandles : ℕ
  estimatedRequests : ℕ
  createdAt : ℤ
  deriving DecidableEq, Repr

/-- The counters of an operation; the totals are those of its plan. -/
structure OperationProgress where
  chunksCompleted : ℕ
  chunksFailed : ℕ
  candlesReceived : ℕ
  candlesPersisted : ℕ
  requestsCompleted : ℕ
  updatedAt : ℤ
  deriving DecidableEq, Repr

structure OperationResult where
  datasetVersion : ℕ
  datasetChecksum : ℕ
  completedAt : ℤ
  deriving DecidableEq, Repr

structure SanitizedOperationFailure where
  code : MarketOperationFailureCode
  failedAt : ℤ
  deriving DecidableEq, Repr

/-- What submission fixes: never changed afterwards. -/
structure OperationIntent where
  operationId : Uuid
  request : MarketOperationRequest
  plan : OperationPlanSummary
  createdAt : ℤ
  deriving DecidableEq, Repr

/-- The columns of a row. -/
structure SnapshotFields where
  intent : OperationIntent
  state : MarketOperationState
  progress : OperationProgress
  updatedAt : ℤ
  recordVersion : ℕ
  localJobId : Option Uuid
  lease : Option WorkerLease
  result : Option OperationResult
  failure : Option SanitizedOperationFailure
  finishedAt : Option ℤ
  startedAt : Option ℤ
  deriving DecidableEq, Repr

/-- `_validate_outcome`: the result, the failure and the end that go with a state. -/
def OutcomeFits (state : MarketOperationState) (result : Option OperationResult)
    (failure : Option SanitizedOperationFailure) (finishedAt : Option ℤ) : Prop :=
  match state with
  | .completed => failure = none ∧ finishedAt.isSome ∧
      result.map (·.completedAt) = finishedAt
  | .cancelled => result = none ∧ finishedAt.isSome ∧
      failure.map (·.failedAt) = finishedAt ∧ failure.map (·.code) = some .cancelledByAdmin
  | .failed => result = none ∧ finishedAt.isSome ∧
      failure.map (·.failedAt) = finishedAt ∧ failure.map (·.code) ≠ some .cancelledByAdmin
  | _ => result = none ∧ failure = none ∧ finishedAt = none

instance {state : MarketOperationState} {result : Option OperationResult}
    {failure : Option SanitizedOperationFailure} {finishedAt : Option ℤ} :
    Decidable (OutcomeFits state result failure finishedAt) := by
  unfold OutcomeFits
  split <;> infer_instance

/-- The checks of the constructor together with those of the table. -/
structure SnapshotFields.Valid (o : SnapshotFields) : Prop where
  planned : o.intent.plan.createdAt ≤ o.intent.createdAt
  checksum : o.intent.plan.checksum = o.intent.request.planChecksum
  totals : 1 ≤ o.intent.plan.chunksPlanned ∧ 1 ≤ o.intent.plan.estimatedCandles
  version : 1 ≤ o.recordVersion
  chronology : o.intent.createdAt ≤ o.progress.updatedAt ∧ o.progress.updatedAt ≤ o.updatedAt
  started : ∀ t ∈ o.startedAt, o.intent.createdAt ≤ t ∧ t ≤ o.updatedAt
  finished : ∀ t ∈ o.finishedAt, o.intent.createdAt ≤ t ∧ t ≤ o.updatedAt
  counters : o.progress.chunksCompleted + o.progress.chunksFailed ≤ o.intent.plan.chunksPlanned ∧
    o.progress.candlesPersisted ≤ o.progress.candlesReceived
  lease : ∀ l ∈ o.lease, o.intent.createdAt ≤ l.claimedAt ∧ l.heartbeatAt ≤ o.updatedAt ∧
    o.state ∈ MarketOperationState.leaseStates ∧ ∀ t ∈ o.startedAt, t ≤ l.claimedAt
  owned : o.state = .claimed ∨ o.state = .running → o.lease.isSome ∧ o.startedAt.isSome
  outcome : OutcomeFits o.state o.result o.failure o.finishedAt

instance (o : SnapshotFields) : Decidable o.Valid :=
  decidable_of_iff
    (o.intent.plan.createdAt ≤ o.intent.createdAt ∧
      o.intent.plan.checksum = o.intent.request.planChecksum ∧
      (1 ≤ o.intent.plan.chunksPlanned ∧ 1 ≤ o.intent.plan.estimatedCandles) ∧
      1 ≤ o.recordVersion ∧
      (o.intent.createdAt ≤ o.progress.updatedAt ∧ o.progress.updatedAt ≤ o.updatedAt) ∧
      (∀ t ∈ o.startedAt, o.intent.createdAt ≤ t ∧ t ≤ o.updatedAt) ∧
      (∀ t ∈ o.finishedAt, o.intent.createdAt ≤ t ∧ t ≤ o.updatedAt) ∧
      (o.progress.chunksCompleted + o.progress.chunksFailed ≤ o.intent.plan.chunksPlanned ∧
        o.progress.candlesPersisted ≤ o.progress.candlesReceived) ∧
      (∀ l ∈ o.lease, o.intent.createdAt ≤ l.claimedAt ∧ l.heartbeatAt ≤ o.updatedAt ∧
        o.state ∈ MarketOperationState.leaseStates ∧ ∀ t ∈ o.startedAt, t ≤ l.claimedAt) ∧
      (o.state = .claimed ∨ o.state = .running → o.lease.isSome ∧ o.startedAt.isSome) ∧
      OutcomeFits o.state o.result o.failure o.finishedAt)
    ⟨fun ⟨a, b, c, d, e, f, g, h, i, j, k⟩ => ⟨a, b, c, d, e, f, g, h, i, j, k⟩,
      fun ⟨a, b, c, d, e, f, g, h, i, j, k⟩ => ⟨a, b, c, d, e, f, g, h, i, j, k⟩⟩

/-- One persisted operation. -/
structure MarketOperationSnapshot extends SnapshotFields where
  valid : toSnapshotFields.Valid

theorem MarketOperationSnapshot.ext_fields {a b : MarketOperationSnapshot}
    (h : a.toSnapshotFields = b.toSnapshotFields) : a = b := by
  cases a
  cases b
  cases h
  rfl

instance : DecidableEq MarketOperationSnapshot := fun a b =>
  decidable_of_iff (a.toSnapshotFields = b.toSnapshotFields)
    ⟨MarketOperationSnapshot.ext_fields, fun h => h ▸ rfl⟩

/-- `MarketOperationSnapshot(...)`, and `replace(operation, ...)`. -/
def SnapshotFields.construct (o : SnapshotFields) :
    Except OperationError MarketOperationSnapshot :=
  if h : o.Valid then .ok ⟨o, h⟩ else .error .invalidRequest

/-- The constructor accepts exactly the valid fields. -/
theorem construct_eq_ok {o : SnapshotFields} {snapshot : MarketOperationSnapshot} :
    o.construct = .ok snapshot ↔ snapshot.toSnapshotFields = o := by
  unfold SnapshotFields.construct
  constructor
  · intro h
    split at h
    · cases h
      rfl
    · cases h
  · rintro rfl
    rw [dif_pos snapshot.valid]

/-- No counter went back, and neither did the clock. -/
structure OperationProgress.Extends (current previous : OperationProgress) : Prop where
  updatedAt : previous.updatedAt ≤ current.updatedAt
  chunksCompleted : previous.chunksCompleted ≤ current.chunksCompleted
  chunksFailed : previous.chunksFailed ≤ current.chunksFailed
  candlesReceived : previous.candlesReceived ≤ current.candlesReceived
  candlesPersisted : previous.candlesPersisted ≤ current.candlesPersisted
  requestsCompleted : previous.requestsCompleted ≤ current.requestsCompleted

instance (current previous : OperationProgress) : Decidable (current.Extends previous) :=
  decidable_of_iff
    (previous.updatedAt ≤ current.updatedAt ∧
      previous.chunksCompleted ≤ current.chunksCompleted ∧
      previous.chunksFailed ≤ current.chunksFailed ∧
      previous.candlesReceived ≤ current.candlesReceived ∧
      previous.candlesPersisted ≤ current.candlesPersisted ∧
      previous.requestsCompleted ≤ current.requestsCompleted)
    ⟨fun ⟨a, b, c, d, e, f⟩ => ⟨a, b, c, d, e, f⟩, fun ⟨a, b, c, d, e, f⟩ => ⟨a, b, c, d, e, f⟩⟩

/-- `require_progress_not_regressed`. -/
def requireProgressNotRegressed (previous current : OperationProgress) :
    Except OperationError Unit :=
  require (current.Extends previous) .progressRegression

@[simp] theorem requireProgressNotRegressed_eq_ok {previous current : OperationProgress}
    {u : Unit} :
    requireProgressNotRegressed previous current = .ok u ↔ current.Extends previous :=
  require_eq_ok

theorem OperationProgress.Extends.refl (p : OperationProgress) : p.Extends p :=
  ⟨le_rfl, le_rfl, le_rfl, le_rfl, le_rfl, le_rfl⟩

/-- `validate_operation_update(..., reconciliation=True)`. -/
def validateOperationUpdate (previous current : SnapshotFields) : Except OperationError Unit := do
  require (previous.state ∉ MarketOperationState.terminalStates) .terminal
  require (current.intent = previous.intent ∧
    (previous.startedAt ≠ none → current.startedAt = previous.startedAt)) .invalidRequest
  require (previous.localJobId ≠ none → current.localJobId = previous.localJobId) .invalidRequest
  require (current.recordVersion = previous.recordVersion + 1) .versionConflict
  require (previous.updatedAt ≤ current.updatedAt) .progressRegression
  requireProgressNotRegressed previous.progress current.progress
  if current.state = previous.state then pure ()
  else requireReconciliationTransition previous.state current.state

end Operations
end DryTrade
