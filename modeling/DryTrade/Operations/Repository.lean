import DryTrade.Operations.Planning
import DryTrade.Operations.Table

/-!
# The operation repository

Each function of the repository is one short transaction: it locks the row, compares its
version, checks the lease of the caller where the caller needs one, and writes the row with the
next version.  The three claim queries pick a row by their own predicate and order instead; rows
another transaction has locked are skipped.

## Main definitions

* `requestState`, `renewLeaseRow`, `updateProgress`, `complete`, `fail`, `reconcile` — the
  transactions on one row.
* `claimNext`, `claimNextExpired`, `settleOrClaimNextUnclaimedControl` — the claim queries.
* `createIdempotently` — the submission.
-/

namespace DryTrade
namespace Operations

open MarketData

/-- `_require_owned_active_lease`. -/
def requireOwnedActiveLease (o : SnapshotFields) (ownerId : Uuid) (now : ℤ) :
    Except OperationError WorkerLease :=
  match o.lease with
  | none => .error .invalidLease
  | some lease => do
    require (o.updatedAt ≤ now ∧ lease.ownerId = ownerId) .invalidLease
    let active ← lease.isActive now
    require (active = true) .invalidLease
    pure lease

theorem requireOwnedActiveLease_eq_ok {o : SnapshotFields} {ownerId : Uuid} {now : ℤ}
    {lease : WorkerLease} :
    requireOwnedActiveLease o ownerId now = .ok lease ↔
      o.lease = some lease ∧ o.updatedAt ≤ now ∧ lease.ownerId = ownerId ∧ lease.ActiveAt now := by
  unfold requireOwnedActiveLease
  cases o.lease with
  | none => simp
  | some l =>
    simp only [bind_eq_ok, require_eq_ok, exists_const, pure, Except.pure, Except.ok.injEq,
      Option.some.injEq]
    constructor
    · rintro ⟨⟨hupdated, howner⟩, active, hactive, rfl, rfl⟩
      exact ⟨rfl, hupdated, howner, WorkerLease.isActive_eq_true.mp hactive⟩
    · rintro ⟨rfl, hupdated, howner, hactive⟩
      exact ⟨⟨hupdated, howner⟩, true, WorkerLease.isActive_eq_true.mpr hactive, rfl, rfl⟩

/-- The states a worker moves an operation into under its lease. -/
def MarketOperationState.workerTargets : List MarketOperationState :=
  [.running, .paused, .cancelled]

/-- What `request_state` writes. -/
def SnapshotFields.requested (o : SnapshotFields) (target : MarketOperationState) (now : ℤ) :
    SnapshotFields :=
  { o with
    state := target
    lease := if target ∈ MarketOperationState.clearLeaseStates then none else o.lease
    failure := if target = .cancelled then some ⟨.cancelledByAdmin, now⟩ else none
    finishedAt := if target = .cancelled then some now else none
    updatedAt := now
    recordVersion := o.recordVersion + 1 }

/-- `request_state`. -/
def requestState (t : OperationTable) (operationId : Uuid) (target : MarketOperationState)
    (expectedVersion : ℕ) (now : ℤ) (ownerId : Option Uuid) :
    Except OperationError (MarketOperationSnapshot × OperationTable) := do
  require (target ≠ .recovering) .invalidTransition
  let current ← t.lockedOperation operationId expectedVersion
  if current.state = target then pure (current, t)
  else do
    requireTransition current.state target
    if target ∈ MarketOperationState.workerTargets ∧ current.lease ≠ none then
      match ownerId with
      | none => .error .invalidLease
      | some owner => let _ ← requireOwnedActiveLease current.toSnapshotFields owner now
    require (target ≠ .completed ∧ target ≠ .failed) .invalidTransition
    t.updateRow current (current.toSnapshotFields.requested target now)

/-- `renew_lease`. -/
def renewLeaseRow (t : OperationTable) (operationId ownerId : Uuid) (now : ℤ)
    (lease : WorkerLease) (expectedVersion : ℕ) : Except OperationError (MarketOperationSnapshot × OperationTable) := do
  let current ← t.lockedOperation operationId expectedVersion
  let currentLease ← requireOwnedActiveLease current.toSnapshotFields ownerId now
  let expected ← renewLease currentLease ownerId now lease.leaseExpiresAt
  require (expected = lease ∧ current.updatedAt ≤ lease.heartbeatAt) .invalidLease
  t.updateRow current { current.toSnapshotFields with
    lease := some expected
    updatedAt := now
    recordVersion := current.recordVersion + 1 }

/-- `update_progress`. -/
def updateProgress (t : OperationTable) (operationId ownerId : Uuid) (now : ℤ)
    (progress : OperationProgress) (localJobId : Uuid) (expectedVersion : ℕ) :
    Except OperationError (MarketOperationSnapshot × OperationTable) := do
  let current ← t.lockedOperation operationId expectedVersion
  requireProgressNotRegressed current.progress progress
  require (current.updatedAt ≤ progress.updatedAt ∧ progress.updatedAt ≤ now) .progressRegression
  let _ ← requireOwnedActiveLease current.toSnapshotFields ownerId now
  require (current.localJobId = none ∨ current.localJobId = some localJobId) .invalidRequest
  t.updateRow current { current.toSnapshotFields with
    progress := progress
    localJobId := some (current.localJobId.getD localJobId)
    updatedAt := now
    recordVersion := current.recordVersion + 1 }

/-- `complete`. -/
def complete (t : OperationTable) (operationId ownerId : Uuid) (now : ℤ)
    (result : OperationResult) (progress : OperationProgress) (expectedVersion : ℕ) :
    Except OperationError (MarketOperationSnapshot × OperationTable) := do
  let current ← t.lockedOperation operationId expectedVersion
  requireTransition current.state .completed
  requireProgressNotRegressed current.progress progress
  let _ ← requireOwnedActiveLease current.toSnapshotFields ownerId now
  require (progress.updatedAt ≤ result.completedAt ∧ result.completedAt ≤ now) .progressRegression
  t.updateRow current { current.toSnapshotFields with
    state := .completed
    progress := progress
    lease := none
    result := some result
    finishedAt := some result.completedAt
    updatedAt := now
    recordVersion := current.recordVersion + 1 }

/-- `fail`. -/
def fail (t : OperationTable) (operationId ownerId : Uuid) (now : ℤ)
    (failure : SanitizedOperationFailure) (progress : OperationProgress) (expectedVersion : ℕ) :
    Except OperationError (MarketOperationSnapshot × OperationTable) := do
  require (failure.code ≠ .cancelledByAdmin) .invalidRequest
  let current ← t.lockedOperation operationId expectedVersion
  requireTransition current.state .failed
  requireProgressNotRegressed current.progress progress
  require (progress.updatedAt ≤ failure.failedAt ∧ failure.failedAt ≤ now) .progressRegression
  let _ ← requireOwnedActiveLease current.toSnapshotFields ownerId now
  t.updateRow current { current.toSnapshotFields with
    state := .failed
    progress := progress
    lease := none
    failure := some failure
    finishedAt := some failure.failedAt
    updatedAt := now
    recordVersion := current.recordVersion + 1 }

/-- `reconcile`. -/
def reconcile (t : OperationTable) (operation : SnapshotFields) (ownerId : Uuid) (now : ℤ)
    (expectedVersion : ℕ) : Except OperationError (MarketOperationSnapshot × OperationTable) := do
  let current ← t.lockedOperation operation.id expectedVersion
  require (current.state = .recovering) .invalidTransition
  let currentLease ← requireOwnedActiveLease current.toSnapshotFields ownerId now
  validateOperationUpdate current.toSnapshotFields operation
  require (operation.updatedAt ≤ now) .progressRegression
  require (operation.state = .claimed ∨ operation.state = .running ∨
    operation.state = .recovering → operation.lease = some currentLease) .invalidLease
  t.updateRow current operation

/-! ### Claims -/

/-- The first row, in the order of the query, of those the query selects. -/
def firstRow (select : MarketOperationSnapshot → Bool)
    (earlier : MarketOperationSnapshot → MarketOperationSnapshot → Bool) :
    List MarketOperationSnapshot → Option MarketOperationSnapshot
  | [] => none
  | o :: rest =>
    let later := firstRow select earlier rest
    if select o && later.all (earlier o) then some o else later

/-- A query finds a row it selects. -/
theorem firstRow_eq_some {select : MarketOperationSnapshot → Bool}
    {earlier : MarketOperationSnapshot → MarketOperationSnapshot → Bool}
    {rows : List MarketOperationSnapshot} {o : MarketOperationSnapshot}
    (h : firstRow select earlier rows = some o) : o ∈ rows ∧ select o = true := by
  induction rows with
  | nil => cases h
  | cons first rest ih =>
    unfold firstRow at h
    dsimp only at h
    split at h
    · next hselect =>
      cases h
      rw [Bool.and_eq_true] at hselect
      exact ⟨List.mem_cons_self, hselect.1⟩
    · obtain ⟨hmem, hselect⟩ := ih h
      exact ⟨List.mem_cons_of_mem _ hmem, hselect⟩

/-- A query that finds nothing selects no row. -/
theorem firstRow_eq_none {select : MarketOperationSnapshot → Bool}
    {earlier : MarketOperationSnapshot → MarketOperationSnapshot → Bool}
    {rows : List MarketOperationSnapshot} :
    firstRow select earlier rows = none ↔ ∀ o ∈ rows, select o = false := by
  induction rows with
  | nil => simp [firstRow]
  | cons first rest ih =>
    rw [List.forall_mem_cons, ← ih, firstRow]
    generalize firstRow select earlier rest = later
    cases hselect : select first with
    | false => simp
    | true =>
      cases later with
      | none => simp
      | some b => cases hearlier : earlier first b <;> simp [hearlier]

/-- The owner holds no lease. -/
def OperationTable.unowned (t : OperationTable) (ownerId : Uuid) : Bool :=
  t.rows.all fun o => o.lease.all fun l => l.ownerId ≠ ownerId

/-- No row of the dataset is its active execution. -/
def OperationTable.idle (t : OperationTable) (dataset : MarketDatasetSelector) : Bool :=
  t.rows.all fun o => !(decide (o.dataset = dataset) && o.activeExecution)

/-- `order by operation.created_at, operation.id`. -/
def createdBefore (a b : MarketOperationSnapshot) : Bool :=
  decide (a.intent.createdAt < b.intent.createdAt) ||
    (a.intent.createdAt == b.intent.createdAt && decide (a.id.value < b.id.value))

/-- The rows `claim_next` selects. -/
def OperationTable.claimable (t : OperationTable) (ownerId : Uuid)
    (o : MarketOperationSnapshot) : Bool :=
  o.state == .pending && t.unowned ownerId && t.idle o.dataset

/-- `claim_next`; rows another transaction has locked are skipped. -/
def claimNext (t : OperationTable) (locked : Uuid → Bool) (ownerId : Uuid)
    (now leaseExpiresAt : ℤ) :
    Except OperationError (Option MarketOperationSnapshot × OperationTable) := do
  let lease ← WorkerLease.construct ownerId now now leaseExpiresAt
  match firstRow (fun o => t.claimable ownerId o && !locked o.id) createdBefore t.rows with
  | none => pure (none, t)
  | some candidate => do
    let claimed ← t.updateRow candidate { candidate.toSnapshotFields with
      state := .claimed
      lease := some lease
      startedAt := some (candidate.startedAt.getD now)
      updatedAt := now
      recordVersion := candidate.recordVersion + 1 }
    pure (some claimed.1, claimed.2)

/-- What a recovery claims: the operation, and the state it was found in. -/
structure MarketOperationRecoveryClaim where
  operation : MarketOperationSnapshot
  recoveredFrom : MarketOperationState

/-- The lease has run out. -/
def SnapshotFields.leaseExpired (o : SnapshotFields) (now : ℤ) : Bool :=
  o.lease.any fun l => l.leaseExpiresAt ≤ now

/-- `order by (operation.status = 'RECOVERING') desc, operation.lease_expires_at asc nulls first,
operation.created_at, operation.id`. -/
def expiredBefore (a b : MarketOperationSnapshot) : Bool :=
  if (a.state == .recovering) == (b.state == .recovering) then
    match a.lease, b.lease with
    | none, none => createdBefore a b
    | none, some _ => true
    | some _, none => false
    | some l, some l' => decide (l.leaseExpiresAt < l'.leaseExpiresAt) ||
        (l.leaseExpiresAt == l'.leaseExpiresAt && createdBefore a b)
  else a.state == .recovering

/-- The rows `claim_next_expired` selects. -/
def OperationTable.expiredRow (t : OperationTable) (ownerId : Uuid) (now : ℤ)
    (o : MarketOperationSnapshot) : Bool :=
  t.unowned ownerId &&
    (((o.state == .claimed || o.state == .running || o.state.isControl) && o.leaseExpired now) ||
      (o.state == .recovering && (o.lease.isNone || o.leaseExpired now)))

/-- `claim_next_expired`: an expired lease is cleared first, then the new one is written. -/
def claimNextExpired (t : OperationTable) (locked : Uuid → Bool) (ownerId : Uuid)
    (now leaseExpiresAt : ℤ) :
    Except OperationError (Option MarketOperationRecoveryClaim × OperationTable) := do
  let lease ← WorkerLease.construct ownerId now now leaseExpiresAt
  match firstRow (fun o => t.expiredRow ownerId now o && !locked o.id) expiredBefore t.rows with
  | none => pure (none, t)
  | some candidate => do
    let cleared ← if candidate.lease = none then pure (candidate, t)
      else t.updateRow candidate { candidate.toSnapshotFields with
        state := .recovering
        lease := none
        updatedAt := now
        recordVersion := candidate.recordVersion + 1 }
    let claimed ← cleared.2.updateRow cleared.1 { cleared.1.toSnapshotFields with
      lease := some lease
      updatedAt := now
      recordVersion := cleared.1.recordVersion + 1 }
    pure (some ⟨claimed.1, candidate.state⟩, claimed.2)

/-- `_has_published_progress`, negated. -/
def OperationProgress.unpublished (p : OperationProgress) : Prop :=
  p.chunksCompleted = 0 ∧ p.chunksFailed = 0 ∧ p.candlesReceived = 0 ∧ p.candlesPersisted = 0 ∧
    p.requestsCompleted = 0

instance (p : OperationProgress) : Decidable p.unpublished := by
  unfold OperationProgress.unpublished
  infer_instance

/-- The rows `settle_or_claim_next_unclaimed_control` selects. -/
def OperationTable.unclaimedControl (t : OperationTable) (ownerId : Uuid)
    (o : MarketOperationSnapshot) : Bool :=
  o.state.isControl && o.lease.isNone &&
    ((o.startedAt.isNone && o.localJobId.isNone && decide o.progress.unpublished) ||
      (o.startedAt.isSome && decide (o.localJobId = some o.id) && t.unowned ownerId &&
        t.idle o.dataset))

/-- What the query writes for a control of an operation that never started. -/
def SnapshotFields.settledControl (o : SnapshotFields) (now : ℤ) : SnapshotFields :=
  { o with
    state := if o.state = .pauseRequested then .paused else .cancelled
    failure := if o.state = .cancelRequested then some ⟨.cancelledByAdmin, now⟩ else o.failure
    finishedAt := if o.state = .cancelRequested then some now else o.finishedAt
    updatedAt := now
    recordVersion := o.recordVersion + 1 }

/-- `settle_or_claim_next_unclaimed_control`. -/
def settleOrClaimNextUnclaimedControl (t : OperationTable) (locked : Uuid → Bool) (ownerId : Uuid)
    (now leaseExpiresAt : ℤ) :
    Except OperationError (Option MarketOperationSnapshot × OperationTable) := do
  let lease ← WorkerLease.construct ownerId now now leaseExpiresAt
  match firstRow (fun o => t.unclaimedControl ownerId o && !locked o.id) createdBefore t.rows with
  | none => pure (none, t)
  | some candidate => do
    let updated ← t.updateRow candidate
      (if candidate.startedAt = none then candidate.toSnapshotFields.settledControl now
      else { candidate.toSnapshotFields with
        lease := some lease
        updatedAt := now
        recordVersion := candidate.recordVersion + 1 })
    pure (some updated.1, updated.2)

/-! ### Submission -/

/-- The row `create_idempotently` inserts. -/
def submittedRow (operationId : Uuid) (request : MarketOperationRequest)
    (plan : OperationPlanSummary) (now : ℤ) : SnapshotFields where
  intent := ⟨operationId, request, plan, now⟩
  state := .pending
  progress := ⟨0, 0, 0, 0, 0, now⟩
  updatedAt := now
  recordVersion := 1
  localJobId := none
  lease := none
  result := none
  failure := none
  finishedAt := none
  startedAt := none

/-- Append a row; a violated key or index raises. -/
def OperationTable.insertRow (t : OperationTable) (o : MarketOperationSnapshot) :
    Except OperationError OperationTable :=
  if hkey : ((t.rows ++ [o]).map fun r => r.id).Nodup then
    if h : UniqueIndexes (t.rows ++ [o]) then .ok ⟨t.rows ++ [o], hkey, h⟩
    else .error .invalidLease
  else .error .invalidRequest

/-- `create_idempotently`: one row for each administrator and key. -/
def createIdempotently (t : OperationTable) (operationId : Uuid)
    (request : MarketOperationRequest) (plan : OperationPlanSummary) (now : ℤ) :
    Except OperationError (MarketOperationSnapshot × OperationTable) := do
  require (plan.checksum = request.planChecksum ∧ plan.createdAt ≤ now) .invalidRequest
  match t.rows.find? (fun o => o.intent.request.requestedBy = request.requestedBy ∧
      o.intent.request.idempotencyKey = request.idempotencyKey) with
  | some existing => do
    require (existing.intent.request = request) .idempotencyConflict
    pure (existing, t)
  | none => do
    let o ← (submittedRow operationId request plan now).construct
    let t' ← t.insertRow o
    pure (o, t')

/-- `submit`: the plan is made again before the intent is persisted. -/
def submit (planner : MarketDataPlanner) (t : OperationTable) (operationId : Uuid)
    (request : MarketOperationRequest) (now : ℤ) :
    Except OperationError (MarketOperationSnapshot × OperationTable) := do
  let plan ← planner.backfill request.dataset request.dataRange
    (operationJobType request.operationType) operationId now
  require (planner.checksum plan = request.planChecksum) .planConflict
  createIdempotently t operationId request (planner.planSummary plan now) now

end Operations
end DryTrade
