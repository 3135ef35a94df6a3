import DryTrade.Failure
import DryTrade.MarketData.Domain

/-!
# The lifecycle of an operational epoch

An epoch is a row that records what an administrator wants, what a worker has observed, and
which worker holds the lease.  Its `Contract` says what a domain fixes at the START and checks in
the constructor; the states, the claim and the transitions of the workers are the same for every
contract.  Times are microseconds since the Unix epoch, in UTC.

## Main definitions

* `WorkerClaim` — the lease of a worker, with its chronology.
* `EpochFields`, `Epoch` — the fields of an epoch, and the fields that pass the checks.
* `claimEpoch`, `renewClaim`, `recoverEpoch`, … — the transitions.

## Main results

* `construct_eq_ok` — what a constructor accepts.
* `EpochFields.Shape.moved`, `EpochFields.Shape.failed`, … — what keeps the shape of an epoch.
-/

namespace DryTrade
namespace Epochs

/-! ### Values -/

/-- A SHA-256 digest: the number its 64 hexadecimal digits spell. -/
abbrev Sha256 := Fin (2 ^ 256)

/-- `_POSTGRESQL_BIGINT_MAX`. -/
def bigintMax : ℕ := 2 ^ 63 - 1

inductive DesiredState
  | running
  | paused
  | stopped
  deriving DecidableEq, Repr

inductive ObservedState
  | pending
  | starting
  | running
  | paused
  | recovering
  | stopping
  | stopped
  | failed
  deriving DecidableEq, Repr

inductive CommandType
  | start
  | pause
  | resume
  | stop
  deriving DecidableEq, Repr

/-- The exceptions of the epoch domains; a transition conflict may carry a failure code. -/
inductive EpochError (κ : Type)
  | invalidSpecification
  | boundsExceeded
  | checksumMismatch
  | stateTransitionConflict (failureCode : Option κ)
  | commandConflict
  | lease
  | notFound
  | recordVersionConflict
  | currentEpochConflict
  deriving DecidableEq, Repr

/-- `_ALLOWED_OBSERVED_TRANSITIONS`. -/
def ObservedState.allowedTransitions : ObservedState → List ObservedState
  | .pending => [.starting, .paused, .stopped, .failed]
  | .starting => [.running, .paused, .recovering, .stopping, .failed]
  | .running => [.paused, .recovering, .stopping, .failed]
  | .paused => [.starting, .stopped, .failed]
  | .recovering => [.starting, .paused, .stopping, .stopped, .failed]
  | .stopping => [.recovering, .stopped, .failed]
  | .stopped => []
  | .failed => []

/-- `_ALLOWED_DESIRED_COMMANDS`. -/
def DesiredState.allowedCommands : DesiredState → List CommandType
  | .running => [.pause, .stop]
  | .paused => [.resume, .stop]
  | .stopped => []

/-- `command_target`. -/
def CommandType.target : CommandType → DesiredState
  | .start => .running
  | .pause => .paused
  | .resume => .running
  | .stop => .stopped

/-- The terminal states. -/
def ObservedState.isTerminal : ObservedState → Bool
  | .stopped | .failed => true
  | _ => false

/-- The states in which a worker holds the epoch. -/
def ObservedState.isClaimed : ObservedState → Bool
  | .starting | .running | .recovering | .stopping => true
  | _ => false

/-- `require_transition`. -/
def requireTransition {κ : Type} (current target : ObservedState) : Except (EpochError κ) Unit :=
  require (target ∈ current.allowedTransitions) (.stateTransitionConflict none)

@[simp] theorem requireTransition_eq_ok {κ : Type} {current target : ObservedState} {u : Unit} :
    (requireTransition current target : Except (EpochError κ) Unit) = .ok u ↔
      target ∈ current.allowedTransitions := require_eq_ok

/-! ### Claims -/

/-- The lease of a worker. -/
structure WorkerClaim where
  epochId : Uuid
  workerId : Uuid
  fencingToken : ℕ
  claimedAt : ℤ
  heartbeatAt : ℤ
  leaseExpiresAt : ℤ
  fence : 1 ≤ fencingToken ∧ fencingToken ≤ bigintMax
  chronology : claimedAt ≤ heartbeatAt ∧ heartbeatAt < leaseExpiresAt
  deriving DecidableEq

/-- `WorkerClaim(...)`. -/
def WorkerClaim.construct {κ : Type} (epochId workerId : Uuid) (fencingToken : ℕ)
    (claimedAt heartbeatAt leaseExpiresAt : ℤ) : Except (EpochError κ) WorkerClaim :=
  if hbound : fencingToken ≤ bigintMax then
    if h : 1 ≤ fencingToken ∧ claimedAt ≤ heartbeatAt ∧ heartbeatAt < leaseExpiresAt then
      .ok ⟨epochId, workerId, fencingToken, claimedAt, heartbeatAt, leaseExpiresAt,
        ⟨h.1, hbound⟩, h.2⟩
    else .error .lease
  else .error .boundsExceeded

/-- `belongs_to`. -/
def WorkerClaim.belongsTo (claim : WorkerClaim) (workerId : Uuid) (fencingToken : ℕ) : Prop :=
  claim.workerId = workerId ∧ claim.fencingToken = fencingToken

instance (claim : WorkerClaim) (workerId : Uuid) (fencingToken : ℕ) :
    Decidable (claim.belongsTo workerId fencingToken) :=
  inferInstanceAs (Decidable (_ ∧ _))

/-- `is_active`: raises when the clock is behind the heartbeat. -/
def WorkerClaim.isActive {κ : Type} (claim : WorkerClaim) (now : ℤ) :
    Except (EpochError κ) Bool :=
  if now < claim.heartbeatAt then .error .lease else .ok (now < claim.leaseExpiresAt)

/-- `is_expired`. -/
def WorkerClaim.isExpired {κ : Type} (claim : WorkerClaim) (now : ℤ) :
    Except (EpochError κ) Bool := do
  let active ← claim.isActive now
  pure !active

/-- The clock is between the heartbeat and the expiry. -/
def WorkerClaim.ActiveAt (claim : WorkerClaim) (now : ℤ) : Prop :=
  claim.heartbeatAt ≤ now ∧ now < claim.leaseExpiresAt

section

variable {κ : Type} {claim : WorkerClaim} {now : ℤ}

theorem WorkerClaim.construct_eq_ok {epochId workerId : Uuid} {fencingToken : ℕ}
    {claimedAt heartbeatAt leaseExpiresAt : ℤ} :
    (WorkerClaim.construct epochId workerId fencingToken claimedAt heartbeatAt leaseExpiresAt :
      Except (EpochError κ) WorkerClaim) = .ok claim ↔
      claim.epochId = epochId ∧ claim.workerId = workerId ∧ claim.fencingToken = fencingToken ∧
        claim.claimedAt = claimedAt ∧ claim.heartbeatAt = heartbeatAt ∧
        claim.leaseExpiresAt = leaseExpiresAt := by
  unfold construct
  constructor
  · intro h
    split at h
    · split at h
      · cases h
        exact ⟨rfl, rfl, rfl, rfl, rfl, rfl⟩
      · cases h
    · cases h
  · rintro ⟨rfl, rfl, rfl, rfl, rfl, rfl⟩
    rw [dif_pos claim.fence.2, dif_pos ⟨claim.fence.1, claim.chronology⟩]

@[simp] theorem WorkerClaim.isActive_eq_true :
    (claim.isActive now : Except (EpochError κ) Bool) = .ok true ↔ claim.ActiveAt now := by
  unfold isActive ActiveAt
  split
  · simp [*]
  · simpa using fun _ => not_lt.mp ‹_›

@[simp] theorem WorkerClaim.isExpired_eq_true :
    (claim.isExpired now : Except (EpochError κ) Bool) = .ok true ↔ claim.leaseExpiresAt ≤ now := by
  have hchronology := claim.chronology
  unfold isExpired isActive
  split
  · simp only [bind, Except.bind, reduceCtorEq, false_iff]
    omega
  · simp [bind, Except.bind, pure, Except.pure]

end

/-! ### Epochs -/

/-- What START fixes: never changed afterwards. -/
structure EpochIdentity (S : Type) where
  epochId : Uuid
  epochChecksum : Sha256
  specification : S
  startRequestedBy : Uuid
  startRequestedAt : ℤ
  startIdempotencyKey : String
  startIntentFingerprint : Sha256
  deriving DecidableEq

/-- Why an epoch failed, and when. -/
structure EpochFailure (κ : Type) where
  code : κ
  failedAt : ℤ
  deriving DecidableEq

/-- The fields of an epoch. -/
structure EpochFields (S κ : Type) where
  identity : EpochIdentity S
  desiredState : DesiredState
  observedState : ObservedState
  recordVersion : ℕ
  fencingToken : ℕ
  workerClaim : Option WorkerClaim
  failure : Option (EpochFailure κ)
  terminalAt : Option ℤ
  deriving DecidableEq

/-- Which fields belong together. -/
structure EpochFields.Shape {S κ : Type} (f : EpochFields S κ) : Prop where
  version : 1 ≤ f.recordVersion ∧ f.recordVersion ≤ bigintMax
  fence : f.fencingToken ≤ bigintMax
  claimed : f.workerClaim.isSome = f.observedState.isClaimed
  claim : ∀ c ∈ f.workerClaim, c.epochId = f.identity.epochId ∧
    c.fencingToken = f.fencingToken ∧ f.identity.startRequestedAt ≤ c.claimedAt
  terminal : f.terminalAt.isSome = f.observedState.isTerminal
  failure : f.failure.isSome = decide (f.observedState = .failed)
  failedAt : ∀ x ∈ f.failure, f.terminalAt = some x.failedAt
  stopped : f.observedState = .stopped → f.desiredState = .stopped
  stopping : f.observedState = .stopping → f.desiredState = .stopped
  chronology : ∀ t ∈ f.terminalAt, f.identity.startRequestedAt ≤ t

/-- What a domain decides by itself: the checks of its constructor, and what they amount to. -/
structure Contract (S κ : Type) where
  validateIdentity : EpochIdentity S → Except (EpochError κ) Unit
  postInit : EpochFields S κ → Except (EpochError κ) Unit
  postInit_eq_ok : ∀ f, postInit f = .ok () ↔ validateIdentity f.identity = .ok () ∧ f.Shape

/-- An epoch: fields that pass the checks of their domain. -/
structure Epoch {S κ : Type} (D : Contract S κ) extends EpochFields S κ where
  valid : D.postInit toEpochFields = .ok ()

section

variable {S κ : Type} {D : Contract S κ}

theorem Epoch.shape (epoch : Epoch D) : epoch.toEpochFields.Shape :=
  ((D.postInit_eq_ok _).mp epoch.valid).2

theorem Epoch.validIdentity (epoch : Epoch D) : D.validateIdentity epoch.identity = .ok () :=
  ((D.postInit_eq_ok _).mp epoch.valid).1

theorem Epoch.ext_fields {a b : Epoch D} (h : a.toEpochFields = b.toEpochFields) : a = b := by
  cases a
  cases b
  cases h
  rfl

instance [DecidableEq S] [DecidableEq κ] : DecidableEq (Epoch D) := fun a b =>
  decidable_of_iff (a.toEpochFields = b.toEpochFields) ⟨Epoch.ext_fields, fun h => h ▸ rfl⟩

/-- `Epoch(...)`, and `replace(epoch, ...)`. -/
def EpochFields.construct (D : Contract S κ) (f : EpochFields S κ) :
    Except (EpochError κ) (Epoch D) :=
  match h : D.postInit f with
  | .error e => .error e
  | .ok () => .ok ⟨f, h⟩

/-- **What a constructor accepts.** -/
theorem construct_eq_ok {f : EpochFields S κ} {epoch : Epoch D} :
    f.construct D = .ok epoch ↔
      (D.validateIdentity f.identity = .ok () ∧ f.Shape) ∧ epoch.toEpochFields = f := by
  unfold EpochFields.construct
  constructor
  · intro h
    split at h
    · cases h
    · next hvalid =>
      cases h
      exact ⟨(D.postInit_eq_ok f).mp hvalid, rfl⟩
  · rintro ⟨hshape, rfl⟩
    split
    · next e herror =>
      rw [epoch.valid] at herror
      cases herror
    · rfl

/-! ### Transitions -/

/-- `_next_record_version`; an epoch's version is positive. -/
def nextRecordVersion (current : ℕ) : Except (EpochError κ) ℕ :=
  if bigintMax ≤ current then .error .boundsExceeded else .ok (current + 1)

/-- `_next_fencing_token`. -/
def nextFencingToken (current : ℕ) : Except (EpochError κ) ℕ :=
  if bigintMax ≤ current then .error .boundsExceeded else .ok (current + 1)

@[simp] theorem nextRecordVersion_eq_ok {current next : ℕ} :
    (nextRecordVersion current : Except (EpochError κ) ℕ) = .ok next ↔
      current < bigintMax ∧ next = current + 1 := by
  unfold nextRecordVersion
  split
  · simp [not_lt.mpr ‹bigintMax ≤ current›]
  · simp [not_le.mp ‹¬ bigintMax ≤ current›, eq_comm]

@[simp] theorem nextFencingToken_eq_ok {current next : ℕ} :
    (nextFencingToken current : Except (EpochError κ) ℕ) = .ok next ↔
      current < bigintMax ∧ next = current + 1 := nextRecordVersion_eq_ok

/-- `_require_current_active_claim`. -/
def requireCurrentActiveClaim (epoch : Epoch D) (workerId : Uuid) (fencingToken : ℕ) (now : ℤ) :
    Except (EpochError κ) WorkerClaim :=
  match epoch.workerClaim with
  | none => .error .lease
  | some claim => do
    require (claim.belongsTo workerId fencingToken) .lease
    let active ← claim.isActive now
    require (active = true) .lease
    pure claim

@[simp] theorem requireCurrentActiveClaim_eq_ok {epoch : Epoch D} {workerId : Uuid}
    {fencingToken : ℕ} {now : ℤ} {claim : WorkerClaim} :
    requireCurrentActiveClaim epoch workerId fencingToken now = .ok claim ↔
      epoch.workerClaim = some claim ∧ claim.belongsTo workerId fencingToken ∧
        claim.ActiveAt now := by
  unfold requireCurrentActiveClaim
  cases hclaim : epoch.workerClaim with
  | none => simp
  | some c =>
    simp only [bind_eq_ok, require_eq_ok, exists_const, pure, Except.pure, Except.ok.injEq]
    constructor
    · rintro ⟨hbelongs, active, hactive, rfl, rfl⟩
      exact ⟨rfl, hbelongs, WorkerClaim.isActive_eq_true.mp hactive⟩
    · rintro ⟨hsome, hbelongs, hactive⟩
      obtain rfl := Option.some.inj hsome
      exact ⟨hbelongs, true, WorkerClaim.isActive_eq_true.mpr hactive, rfl, rfl⟩

/-- The checks of `claim_…_epoch` on the epoch and the times. -/
def claimGuards (epoch : Epoch D) (claimedAt leaseExpiresAt : ℤ) :
    Except (EpochError κ) Unit := do
  require (epoch.observedState.isTerminal = false) .commandConflict
  require (epoch.desiredState = .running ∧ epoch.observedState ∈ [.pending, .paused] ∧
    epoch.workerClaim = none) .lease
  require (epoch.identity.startRequestedAt ≤ claimedAt ∧ claimedAt < leaseExpiresAt) .lease

/-- `claim_…_epoch`. -/
def claimEpoch (epoch : Epoch D) (workerId : Uuid) (claimedAt leaseExpiresAt : ℤ) :
    Except (EpochError κ) (Epoch D) := do
  claimGuards epoch claimedAt leaseExpiresAt
  let fencingToken ← nextFencingToken epoch.fencingToken
  let claim ← WorkerClaim.construct epoch.identity.epochId workerId fencingToken claimedAt
    claimedAt leaseExpiresAt
  requireTransition epoch.observedState .starting
  let recordVersion ← nextRecordVersion epoch.recordVersion
  EpochFields.construct D
    { epoch.toEpochFields with
      observedState := .starting
      recordVersion
      fencingToken
      workerClaim := some claim }

/-- The checks of `renew_…_worker_claim`: the claim that is renewed. -/
def renewGuards (epoch : Epoch D) (workerId : Uuid) (fencingToken : ℕ)
    (heartbeatAt leaseExpiresAt : ℤ) : Except (EpochError κ) WorkerClaim := do
  let claim ← requireCurrentActiveClaim epoch workerId fencingToken heartbeatAt
  require (claim.heartbeatAt < heartbeatAt ∧ heartbeatAt < leaseExpiresAt ∧
    claim.leaseExpiresAt < leaseExpiresAt) .lease
  pure claim

/-- `renew_…_worker_claim`. -/
def renewClaim (epoch : Epoch D) (workerId : Uuid) (fencingToken : ℕ)
    (heartbeatAt leaseExpiresAt : ℤ) : Except (EpochError κ) (Epoch D) := do
  let claim ← renewGuards epoch workerId fencingToken heartbeatAt leaseExpiresAt
  let renewed ← WorkerClaim.construct claim.epochId claim.workerId claim.fencingToken
    claim.claimedAt heartbeatAt leaseExpiresAt
  let recordVersion ← nextRecordVersion epoch.recordVersion
  EpochFields.construct D { epoch.toEpochFields with recordVersion, workerClaim := some renewed }

/-- The checks of `recover_…_epoch`. -/
def recoverGuards (epoch : Epoch D) (recoveredAt leaseExpiresAt : ℤ) :
    Except (EpochError κ) Unit := do
  require (epoch.observedState.isTerminal = false) .commandConflict
  match epoch.workerClaim with
  | none => .error .lease
  | some previous =>
    require (epoch.observedState ∈ [.starting, .running, .recovering, .stopping]) .lease
    let expired ← previous.isExpired recoveredAt
    require (expired = true) .lease
    require (recoveredAt < leaseExpiresAt) .lease

/-- `recover_…_epoch`. -/
def recoverEpoch (epoch : Epoch D) (workerId : Uuid) (recoveredAt leaseExpiresAt : ℤ) :
    Except (EpochError κ) (Epoch D) := do
  recoverGuards epoch recoveredAt leaseExpiresAt
  let fencingToken ← nextFencingToken epoch.fencingToken
  let claim ← WorkerClaim.construct epoch.identity.epochId workerId fencingToken recoveredAt
    recoveredAt leaseExpiresAt
  if epoch.observedState ≠ .recovering then requireTransition epoch.observedState .recovering
  let recordVersion ← nextRecordVersion epoch.recordVersion
  EpochFields.construct D
    { epoch.toEpochFields with
      observedState := .recovering
      recordVersion
      fencingToken
      workerClaim := some claim }

/-- The fields after a move to `target`: a state without a worker releases the claim, and a
terminal one keeps the time. -/
def EpochFields.moved (f : EpochFields S κ) (target : ObservedState) (observedAt : ℤ) :
    EpochFields S κ :=
  { f with
    observedState := target
    recordVersion := f.recordVersion + 1
    workerClaim := if target.isClaimed then f.workerClaim else none
    terminalAt := if target.isTerminal then some observedAt else f.terminalAt }

/-- The checks of a move. -/
def moveGuards (desired : DesiredState) (sources : List ObservedState) (epoch : Epoch D)
    (workerId : Uuid) (fencingToken : ℕ) (observedAt : ℤ) : Except (EpochError κ) Unit := do
  require (epoch.observedState ∈ sources ∧ epoch.desiredState = desired)
    (.stateTransitionConflict none)
  let _ ← requireCurrentActiveClaim epoch workerId fencingToken observedAt

/-- The moves a worker makes while it holds the claim: from one of `sources`, under the desired
state `desired`, to `target`. -/
def moveEpoch (desired : DesiredState) (sources : List ObservedState) (target : ObservedState)
    (epoch : Epoch D) (workerId : Uuid) (fencingToken : ℕ) (observedAt : ℤ) :
    Except (EpochError κ) (Epoch D) := do
  moveGuards desired sources epoch workerId fencingToken observedAt
  requireTransition epoch.observedState target
  let _ ← nextRecordVersion epoch.recordVersion
  (epoch.toEpochFields.moved target observedAt).construct D

/-- `mark_…_epoch_starting`. -/
def markEpochStarting : Epoch D → Uuid → ℕ → ℤ → Except (EpochError κ) (Epoch D) :=
  moveEpoch .running [.recovering] .starting

/-- `mark_…_epoch_running`. -/
def markEpochRunning : Epoch D → Uuid → ℕ → ℤ → Except (EpochError κ) (Epoch D) :=
  moveEpoch .running [.starting] .running

/-- `settle_…_epoch_paused`. -/
def settleEpochPaused : Epoch D → Uuid → ℕ → ℤ → Except (EpochError κ) (Epoch D) :=
  moveEpoch .paused [.starting, .running, .recovering] .paused

/-- `mark_…_epoch_stopping`. -/
def markEpochStopping : Epoch D → Uuid → ℕ → ℤ → Except (EpochError κ) (Epoch D) :=
  moveEpoch .stopped [.starting, .running, .recovering] .stopping

/-- `settle_…_epoch_stopped`. -/
def settleEpochStopped : Epoch D → Uuid → ℕ → ℤ → Except (EpochError κ) (Epoch D) :=
  moveEpoch .stopped [.stopping] .stopped

/-- `settle_unclaimed_…_epoch`, up to the state it moves to: none where nothing is left to do. -/
def settleUnclaimedTarget (epoch : Epoch D) (observedAt : ℤ) :
    Except (EpochError κ) (Option ObservedState) :=
  if epoch.observedState.isTerminal = true then .ok none
  else do
    require (epoch.workerClaim = none) .lease
    require (epoch.identity.startRequestedAt ≤ observedAt) .invalidSpecification
    match epoch.desiredState with
    | .paused =>
      if epoch.observedState = .paused then pure none
      else do
        require (epoch.observedState = .pending) (.stateTransitionConflict none)
        pure (some .paused)
    | .stopped => do
      require (epoch.observedState ∈ [.pending, .paused]) (.stateTransitionConflict none)
      pure (some .stopped)
    | .running => .error (.stateTransitionConflict none)

/-- `settle_unclaimed_…_epoch`. -/
def settleUnclaimedEpoch (epoch : Epoch D) (observedAt : ℤ) :
    Except (EpochError κ) (Epoch D) := do
  match ← settleUnclaimedTarget epoch observedAt with
  | none => pure epoch
  | some target => do
    requireTransition epoch.observedState target
    let _ ← nextRecordVersion epoch.recordVersion
    (epoch.toEpochFields.moved target observedAt).construct D

/-- The fields after a failure. -/
def EpochFields.failed (f : EpochFields S κ) (code : κ) (failedAt : ℤ) : EpochFields S κ :=
  { f with
    observedState := .failed
    recordVersion := f.recordVersion + 1
    workerClaim := none
    failure := some ⟨code, failedAt⟩
    terminalAt := some failedAt }

/-- The checks of `fail_claimed_…_epoch`. -/
def failClaimedGuards (epoch : Epoch D) (workerId : Uuid) (fencingToken : ℕ) (failedAt : ℤ) :
    Except (EpochError κ) Unit := do
  require (epoch.observedState.isTerminal = false) (.stateTransitionConflict none)
  require (epoch.observedState ∈ [.starting, .running, .recovering, .stopping])
    (.stateTransitionConflict none)
  let _ ← requireCurrentActiveClaim epoch workerId fencingToken failedAt

/-- `fail_claimed_…_epoch`. -/
def failClaimedEpoch (epoch : Epoch D) (workerId : Uuid) (fencingToken : ℕ) (code : κ)
    (failedAt : ℤ) : Except (EpochError κ) (Epoch D) := do
  failClaimedGuards epoch workerId fencingToken failedAt
  requireTransition epoch.observedState .failed
  let _ ← nextRecordVersion epoch.recordVersion
  (epoch.toEpochFields.failed code failedAt).construct D

/-- The checks of `fail_unclaimed_…_epoch`. -/
def failUnclaimedGuards (epoch : Epoch D) (failedAt : ℤ) : Except (EpochError κ) Unit := do
  require (epoch.observedState.isTerminal = false) (.stateTransitionConflict none)
  require (epoch.workerClaim = none ∧ epoch.observedState ∈ [.pending, .paused]) .lease
  require (epoch.identity.startRequestedAt ≤ failedAt) .invalidSpecification

/-- `fail_unclaimed_…_epoch`. -/
def failUnclaimedEpoch (epoch : Epoch D) (code : κ) (failedAt : ℤ) :
    Except (EpochError κ) (Epoch D) := do
  failUnclaimedGuards epoch failedAt
  requireTransition epoch.observedState .failed
  let _ ← nextRecordVersion epoch.recordVersion
  (epoch.toEpochFields.failed code failedAt).construct D

/-! ### What the operations accept -/

variable {epoch epoch' : Epoch D} {workerId : Uuid} {fencingToken : ℕ} {now leaseExpiresAt : ℤ}

theorem claimGuards_eq_ok :
    claimGuards epoch now leaseExpiresAt = .ok () ↔ epoch.observedState.isTerminal = false ∧
      (epoch.desiredState = .running ∧ epoch.observedState ∈ [.pending, .paused] ∧
        epoch.workerClaim = none) ∧
      epoch.identity.startRequestedAt ≤ now ∧ now < leaseExpiresAt := by
  simp only [claimGuards, bind_eq_ok, require_eq_ok, exists_const]

/-- A claim opens a lease with the next token. -/
theorem claimEpoch_eq_ok :
    claimEpoch epoch workerId now leaseExpiresAt = .ok epoch' ↔
      claimGuards epoch now leaseExpiresAt = .ok () ∧ epoch.fencingToken < bigintMax ∧
        .starting ∈ epoch.observedState.allowedTransitions ∧ epoch.recordVersion < bigintMax ∧
        ∃ claim, WorkerClaim.construct epoch.identity.epochId workerId (epoch.fencingToken + 1) now
            now leaseExpiresAt = (.ok claim : Except (EpochError κ) _) ∧
          EpochFields.construct D
            { epoch.toEpochFields with
              observedState := .starting
              recordVersion := epoch.recordVersion + 1
              fencingToken := epoch.fencingToken + 1
              workerClaim := some claim } = .ok epoch' := by
  simp only [claimEpoch, bind_eq_ok, nextFencingToken_eq_ok, nextRecordVersion_eq_ok,
    requireTransition_eq_ok, exists_const]
  constructor
  · rintro ⟨⟨⟩, hguards, token, ⟨hfence, rfl⟩, claim, hclaim, htransition, version,
      ⟨hversion, rfl⟩, hepoch⟩
    exact ⟨hguards, hfence, htransition, hversion, claim, hclaim, hepoch⟩
  · rintro ⟨hguards, hfence, htransition, hversion, claim, hclaim, hepoch⟩
    exact ⟨(), hguards, _, ⟨hfence, rfl⟩, claim, hclaim, htransition, _, ⟨hversion, rfl⟩, hepoch⟩

theorem renewGuards_eq_ok {claim : WorkerClaim} :
    renewGuards epoch workerId fencingToken now leaseExpiresAt = .ok claim ↔
      (epoch.workerClaim = some claim ∧ claim.belongsTo workerId fencingToken ∧
        claim.ActiveAt now) ∧
      claim.heartbeatAt < now ∧ now < leaseExpiresAt ∧ claim.leaseExpiresAt < leaseExpiresAt := by
  simp only [renewGuards, bind_eq_ok, requireCurrentActiveClaim_eq_ok, require_eq_ok, exists_const,
    pure, Except.pure, Except.ok.injEq]
  constructor
  · rintro ⟨c, hclaim, htimes, rfl⟩
    exact ⟨hclaim, htimes⟩
  · rintro ⟨hclaim, htimes⟩
    exact ⟨claim, hclaim, htimes, rfl⟩

/-- A renewal keeps the token. -/
theorem renewClaim_eq_ok :
    renewClaim epoch workerId fencingToken now leaseExpiresAt = .ok epoch' ↔
      ∃ claim, renewGuards epoch workerId fencingToken now leaseExpiresAt = .ok claim ∧
        epoch.recordVersion < bigintMax ∧
        ∃ renewed, WorkerClaim.construct claim.epochId claim.workerId claim.fencingToken
            claim.claimedAt now leaseExpiresAt = (.ok renewed : Except (EpochError κ) _) ∧
          EpochFields.construct D
            { epoch.toEpochFields with
              recordVersion := epoch.recordVersion + 1
              workerClaim := some renewed } = .ok epoch' := by
  simp only [renewClaim, bind_eq_ok, nextRecordVersion_eq_ok]
  constructor
  · rintro ⟨claim, hguards, renewed, hrenewed, version, ⟨hversion, rfl⟩, hepoch⟩
    exact ⟨claim, hguards, hversion, renewed, hrenewed, hepoch⟩
  · rintro ⟨claim, hguards, hversion, renewed, hrenewed, hepoch⟩
    exact ⟨claim, hguards, renewed, hrenewed, _, ⟨hversion, rfl⟩, hepoch⟩

theorem recoverGuards_eq_ok :
    recoverGuards epoch now leaseExpiresAt = .ok () ↔ epoch.observedState.isTerminal = false ∧
      (∃ previous, epoch.workerClaim = some previous ∧ previous.leaseExpiresAt ≤ now) ∧
      epoch.observedState ∈ [.starting, .running, .recovering, .stopping] ∧
      now < leaseExpiresAt := by
  simp only [recoverGuards, bind_eq_ok, require_eq_ok, exists_const]
  cases epoch.workerClaim with
  | none => simp
  | some previous =>
    simp only [bind_eq_ok, require_eq_ok, exists_const, Option.some.injEq, exists_eq_left']
    constructor
    · rintro ⟨hopen, hstate, expired, hexpired, rfl, hlease⟩
      exact ⟨hopen, WorkerClaim.isExpired_eq_true.mp hexpired, hstate, hlease⟩
    · rintro ⟨hopen, hexpired, hstate, hlease⟩
      exact ⟨hopen, hstate, true, WorkerClaim.isExpired_eq_true.mpr hexpired, rfl, hlease⟩

/-- A recovery opens a lease with the next token. -/
theorem recoverEpoch_eq_ok :
    recoverEpoch epoch workerId now leaseExpiresAt = .ok epoch' ↔
      recoverGuards epoch now leaseExpiresAt = .ok () ∧ epoch.fencingToken < bigintMax ∧
        (epoch.observedState ≠ .recovering → .recovering ∈ epoch.observedState.allowedTransitions) ∧
        epoch.recordVersion < bigintMax ∧
        ∃ claim, WorkerClaim.construct epoch.identity.epochId workerId (epoch.fencingToken + 1) now
            now leaseExpiresAt = (.ok claim : Except (EpochError κ) _) ∧
          EpochFields.construct D
            { epoch.toEpochFields with
              observedState := .recovering
              recordVersion := epoch.recordVersion + 1
              fencingToken := epoch.fencingToken + 1
              workerClaim := some claim } = .ok epoch' := by
  simp only [recoverEpoch, bind_eq_ok, nextFencingToken_eq_ok]
  constructor
  · rintro ⟨⟨⟩, hguards, token, ⟨hfence, rfl⟩, claim, hclaim, hepoch⟩
    split at hepoch
    · simp only [bind_eq_ok, requireTransition_eq_ok, nextRecordVersion_eq_ok] at hepoch
      obtain ⟨-, htransition, version, ⟨hversion, rfl⟩, hepoch⟩ := hepoch
      exact ⟨hguards, hfence, fun _ => htransition, hversion, claim, hclaim, hepoch⟩
    · next hrecovering =>
      obtain ⟨version, hnext, hepoch⟩ := bind_eq_ok.mp hepoch
      obtain ⟨hversion, rfl⟩ := nextRecordVersion_eq_ok.mp hnext
      exact ⟨hguards, hfence, fun h => absurd h hrecovering, hversion, claim, hclaim, hepoch⟩
  · rintro ⟨hguards, hfence, htransition, hversion, claim, hclaim, hepoch⟩
    refine ⟨(), hguards, _, ⟨hfence, rfl⟩, claim, hclaim, ?_⟩
    split
    · next h =>
      simp only [bind_eq_ok, requireTransition_eq_ok, nextRecordVersion_eq_ok]
      exact ⟨(), htransition h, _, ⟨hversion, rfl⟩, hepoch⟩
    · exact bind_eq_ok.mpr ⟨_, nextRecordVersion_eq_ok.mpr ⟨hversion, rfl⟩, hepoch⟩

theorem moveGuards_eq_ok {desired : DesiredState} {sources : List ObservedState} :
    moveGuards desired sources epoch workerId fencingToken now = .ok () ↔
      (epoch.observedState ∈ sources ∧ epoch.desiredState = desired) ∧
        ∃ claim, epoch.workerClaim = some claim ∧ claim.belongsTo workerId fencingToken ∧
          claim.ActiveAt now := by
  simp only [moveGuards, bind_eq_ok, require_eq_ok, exists_const, requireCurrentActiveClaim_eq_ok,
    pure, Except.pure, and_true]

/-- A move of the holder. -/
theorem moveEpoch_eq_ok {desired : DesiredState} {sources : List ObservedState}
    {target : ObservedState} :
    moveEpoch desired sources target epoch workerId fencingToken now = .ok epoch' ↔
      moveGuards desired sources epoch workerId fencingToken now = .ok () ∧
        target ∈ epoch.observedState.allowedTransitions ∧ epoch.recordVersion < bigintMax ∧
        (epoch.toEpochFields.moved target now).construct D = .ok epoch' := by
  simp only [moveEpoch, bind_eq_ok, requireTransition_eq_ok, nextRecordVersion_eq_ok, exists_const]
  constructor
  · rintro ⟨⟨⟩, hguards, htransition, version, ⟨hversion, -⟩, hepoch⟩
    exact ⟨hguards, htransition, hversion, hepoch⟩
  · rintro ⟨hguards, htransition, hversion, hepoch⟩
    exact ⟨(), hguards, htransition, _, ⟨hversion, rfl⟩, hepoch⟩

/-- The move of an epoch without a worker. -/
theorem settleUnclaimedTarget_eq_some {target : ObservedState} :
    settleUnclaimedTarget epoch now = .ok (some target) ↔
      epoch.observedState.isTerminal = false ∧ epoch.workerClaim = none ∧
        epoch.identity.startRequestedAt ≤ now ∧
        (epoch.desiredState = .paused ∧ epoch.observedState = .pending ∧ target = .paused ∨
          epoch.desiredState = .stopped ∧ epoch.observedState ∈ [.pending, .paused] ∧
            target = .stopped) := by
  unfold settleUnclaimedTarget
  by_cases hterminal : epoch.observedState.isTerminal = true
  · simp [hterminal]
  · rw [if_neg hterminal]
    rw [Bool.not_eq_true] at hterminal
    cases epoch.desiredState with
    | running =>
      simp only [bind_eq_ok, require_eq_ok, exists_const, reduceCtorEq, and_false, false_and,
        or_false]
    | paused =>
      simp only [bind_eq_ok, require_eq_ok, exists_const, reduceCtorEq, false_and, or_false,
        true_and, hterminal]
      by_cases hpaused : epoch.observedState = .paused
      · simp [hpaused, pure, Except.pure]
      · rw [if_neg hpaused]
        simp only [bind_eq_ok, require_eq_ok, exists_const, pure, Except.pure, Except.ok.injEq,
          Option.some.injEq, eq_comm (a := target)]
    | stopped =>
      simp only [bind_eq_ok, require_eq_ok, exists_const, reduceCtorEq, false_and, false_or,
        true_and, hterminal, pure, Except.pure, Except.ok.injEq, Option.some.injEq,
        eq_comm (a := target)]

/-- Settling an epoch without a worker. -/
theorem settleUnclaimedEpoch_eq_ok :
    settleUnclaimedEpoch epoch now = .ok epoch' ↔
      settleUnclaimedTarget epoch now = .ok none ∧ epoch' = epoch ∨
        ∃ target, settleUnclaimedTarget epoch now = .ok (some target) ∧
          target ∈ epoch.observedState.allowedTransitions ∧ epoch.recordVersion < bigintMax ∧
          (epoch.toEpochFields.moved target now).construct D = .ok epoch' := by
  simp only [settleUnclaimedEpoch, bind_eq_ok]
  constructor
  · rintro ⟨found, hfound, hepoch⟩
    cases found with
    | none =>
      cases hepoch
      exact .inl ⟨hfound, rfl⟩
    | some target =>
      simp only [bind_eq_ok, requireTransition_eq_ok, nextRecordVersion_eq_ok] at hepoch
      obtain ⟨-, htransition, version, ⟨hversion, -⟩, hepoch⟩ := hepoch
      exact .inr ⟨target, hfound, htransition, hversion, hepoch⟩
  · rintro (⟨hnone, rfl⟩ | ⟨target, hsome, htransition, hversion, hepoch⟩)
    · exact ⟨none, hnone, rfl⟩
    · refine ⟨some target, hsome, ?_⟩
      simp only [bind_eq_ok, requireTransition_eq_ok, nextRecordVersion_eq_ok]
      exact ⟨(), htransition, _, ⟨hversion, rfl⟩, hepoch⟩

theorem failClaimedGuards_eq_ok :
    failClaimedGuards epoch workerId fencingToken now = .ok () ↔
      epoch.observedState.isTerminal = false ∧
        epoch.observedState ∈ [.starting, .running, .recovering, .stopping] ∧
        ∃ claim, epoch.workerClaim = some claim ∧ claim.belongsTo workerId fencingToken ∧
          claim.ActiveAt now := by
  simp only [failClaimedGuards, bind_eq_ok, require_eq_ok, exists_const,
    requireCurrentActiveClaim_eq_ok, pure, Except.pure, and_true]

theorem failUnclaimedGuards_eq_ok :
    failUnclaimedGuards epoch now = .ok () ↔ epoch.observedState.isTerminal = false ∧
      (epoch.workerClaim = none ∧ epoch.observedState ∈ [.pending, .paused]) ∧
      epoch.identity.startRequestedAt ≤ now := by
  simp only [failUnclaimedGuards, bind_eq_ok, require_eq_ok, exists_const]

/-- A failure, after either guard. -/
theorem failed_eq_ok {guards : Except (EpochError κ) Unit} {code : κ} :
    (do
      guards
      requireTransition epoch.observedState .failed
      let _ ← nextRecordVersion epoch.recordVersion
      (epoch.toEpochFields.failed code now).construct D) = .ok epoch' ↔
      guards = .ok () ∧ .failed ∈ epoch.observedState.allowedTransitions ∧
        epoch.recordVersion < bigintMax ∧
        (epoch.toEpochFields.failed code now).construct D = .ok epoch' := by
  simp only [bind_eq_ok, requireTransition_eq_ok, nextRecordVersion_eq_ok, exists_const]
  constructor
  · rintro ⟨⟨⟩, hguards, htransition, version, ⟨hversion, -⟩, hepoch⟩
    exact ⟨hguards, htransition, hversion, hepoch⟩
  · rintro ⟨hguards, htransition, hversion, hepoch⟩
    exact ⟨(), hguards, htransition, _, ⟨hversion, rfl⟩, hepoch⟩

/-! ### The shape of an epoch -/

variable {f : EpochFields S κ} {claim : WorkerClaim} {target : ObservedState}

theorem EpochFields.Shape.claim_eq_none (h : f.Shape) (hstate : f.observedState.isClaimed = false) :
    f.workerClaim = none := by
  have hclaimed := h.claimed
  rw [hstate, Option.isSome_eq_false_iff, Option.isNone_iff_eq_none] at hclaimed
  exact hclaimed

theorem EpochFields.Shape.exists_claim (h : f.Shape) (hstate : f.observedState.isClaimed = true) :
    ∃ claim, f.workerClaim = some claim := by
  have hclaimed := h.claimed
  rwa [hstate, Option.isSome_iff_exists] at hclaimed

theorem EpochFields.Shape.terminalAt_eq_none (h : f.Shape)
    (hstate : f.observedState.isTerminal = false) : f.terminalAt = none ∧ f.failure = none := by
  have hterminal := h.terminal
  have hfailure := h.failure
  have hne : f.observedState ≠ .failed := by
    intro hfailed
    rw [hfailed] at hstate
    cases hstate
  rw [hstate, Option.isSome_eq_false_iff, Option.isNone_iff_eq_none] at hterminal
  rw [decide_eq_false hne, Option.isSome_eq_false_iff, Option.isNone_iff_eq_none] at hfailure
  exact ⟨hterminal, hfailure⟩

/-- An epoch with a claim is not terminal. -/
theorem isTerminal_of_claim {claim : WorkerClaim} (hclaim : epoch.workerClaim = some claim) :
    epoch.observedState.isTerminal = false := by
  have hclaimed := epoch.shape.claimed
  rw [hclaim] at hclaimed
  revert hclaimed
  cases epoch.observedState <;> simp [ObservedState.isClaimed, ObservedState.isTerminal]

/-- A claim, a renewal or a recovery keeps the shape. -/
theorem EpochFields.Shape.withClaim (h : f.Shape) (hopen : f.observedState.isTerminal = false)
    (htarget : target.isClaimed = true) (hversion : f.recordVersion < bigintMax)
    (hepoch : claim.epochId = f.identity.epochId)
    (hstart : f.identity.startRequestedAt ≤ claim.claimedAt)
    (hstopping : target = .stopping → f.desiredState = .stopped) :
    EpochFields.Shape { f with
      observedState := target
      recordVersion := f.recordVersion + 1
      fencingToken := claim.fencingToken
      workerClaim := some claim } := by
  obtain ⟨hterminal, hfailure⟩ := h.terminalAt_eq_none hopen
  have hnotTerminal : target.isTerminal = false ∧ target ≠ .failed ∧ target ≠ .stopped := by
    cases target <;> simp_all [ObservedState.isClaimed, ObservedState.isTerminal]
  exact
    { version := ⟨Nat.le_add_left .., hversion⟩
      fence := claim.fence.2
      claimed := htarget.symm
      claim := fun c hc => by
        cases hc
        exact ⟨hepoch, rfl, hstart⟩
      terminal := by
        rw [hnotTerminal.1, hterminal]
        rfl
      failure := by
        rw [decide_eq_false hnotTerminal.2.1, hfailure]
        rfl
      failedAt := h.failedAt
      stopped := fun hstopped => absurd hstopped hnotTerminal.2.2
      stopping := hstopping
      chronology := h.chronology }

/-- A move keeps the shape. -/
theorem EpochFields.Shape.moved (h : f.Shape) (hopen : f.observedState.isTerminal = false)
    (hversion : f.recordVersion < bigintMax)
    (hclaimed : target.isClaimed = true → f.observedState.isClaimed = true)
    (hnotFailed : target ≠ .failed) (hstart : f.identity.startRequestedAt ≤ now)
    (hstopped : target = .stopped ∨ target = .stopping → f.desiredState = .stopped) :
    (f.moved target now).Shape := by
  obtain ⟨hterminal, hfailure⟩ := h.terminalAt_eq_none hopen
  unfold EpochFields.moved
  refine
    { version := ⟨Nat.le_add_left .., hversion⟩
      fence := h.fence
      claimed := ?_
      claim := fun c hc => ?_
      terminal := ?_
      failure := ?_
      failedAt := fun x hx => ?_
      stopped := fun heq => hstopped (.inl heq)
      stopping := fun heq => hstopped (.inr heq)
      chronology := fun t ht => ?_ }
  · dsimp only
    split
    · next htarget => rw [htarget, h.claimed, hclaimed htarget]
    · next htarget => simpa using htarget
  · dsimp only at hc
    split at hc
    · exact h.claim c hc
    · cases hc
  · dsimp only
    split
    · next htarget => rw [htarget]; rfl
    · next htarget =>
      rw [hterminal]
      simpa using htarget
  · rw [decide_eq_false hnotFailed]
    dsimp only
    rw [hfailure]
    rfl
  · dsimp only at hx
    rw [hfailure] at hx
    cases hx
  · dsimp only at ht ⊢
    split at ht
    · cases ht
      exact hstart
    · rw [hterminal] at ht
      cases ht

/-- A failure keeps the shape. -/
theorem EpochFields.Shape.failed (h : f.Shape) (hversion : f.recordVersion < bigintMax) (code : κ)
    (hstart : f.identity.startRequestedAt ≤ now) : (f.failed code now).Shape where
  version := ⟨Nat.le_add_left .., hversion⟩
  fence := h.fence
  claimed := rfl
  claim _ hc := by cases hc
  terminal := rfl
  failure := rfl
  failedAt x hx := by
    cases hx
    rfl
  stopped heq := by cases heq
  stopping heq := by cases heq
  chronology t ht := by
    cases ht
    exact hstart

/-- An active claim is no earlier than the START. -/
theorem EpochFields.Shape.start_le (h : f.Shape) (hclaim : f.workerClaim = some claim)
    (hactive : claim.ActiveAt now) : f.identity.startRequestedAt ≤ now :=
  ((h.claim claim hclaim).2.2.trans claim.chronology.1).trans hactive.1

end

end Epochs
end DryTrade
