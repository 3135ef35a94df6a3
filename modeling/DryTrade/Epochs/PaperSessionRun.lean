import DryTrade.Epochs.Lifecycle

/-!
# Paper-session run epochs

The epoch of a paper-session run: what it binds, the checks of its constructor, its START and
its commands.  Checksums and fingerprints are SHA-256 digests of canonical payloads; the digests
are a parameter.

## Main definitions

* `RunSpecification`, `RunDigests` — what an epoch runs, and its digests.
* `runContract`, `RunEpoch` — the checks of an epoch, and an epoch that passes them.
* `startEpoch`, `requestCommand` — START and the later commands.
* `Operation`, `Operation.apply`, `runOperations` — everything that is done to an epoch.
-/

namespace DryTrade
namespace Epochs

/-- A positive `bigint`. -/
abbrev PositiveBigint := { n : ℕ // 1 ≤ n ∧ n ≤ bigintMax }

/-- `OperationalPaperSessionRunFailureCode`. -/
inductive RunFailureCode
  | authorityLost
  | activationRevoked
  | configUnavailable
  | configIdentityConflict
  | pluginUnavailable
  | rawNotReady
  | localRunnerBusy
  | localStateInvalid
  | leaseLost
  | internalError
  deriving DecidableEq, Repr

abbrev RunError := EpochError RunFailureCode

structure AuthorizationBinding where
  authorizationId : Uuid
  authorizationChecksum : Sha256
  deriving DecidableEq

structure ProfileBinding where
  profileId : Uuid
  approvedRevision : PositiveBigint
  specificationChecksum : Sha256
  deriving DecidableEq

structure MandateBinding where
  mandateId : Uuid
  approvedRevision : PositiveBigint
  specificationChecksum : Sha256
  deriving DecidableEq

/-- `OperationalPaperSessionRunEpochSpecification`; both contract versions are 1. -/
structure RunSpecification where
  activationId : Uuid
  activationChecksum : Sha256
  materializationId : Uuid
  materializationChecksum : Sha256
  authorizationBinding : AuthorizationBinding
  profileBinding : ProfileBinding
  mandateBinding : MandateBinding
  simulationId : Uuid
  sessionId : Sha256
  configChecksum : Sha256
  deriving DecidableEq

structure StartIntent where
  activationId : Uuid
  activationChecksum : Sha256
  deriving DecidableEq

structure CommandIntent where
  epochId : Uuid
  epochChecksum : Sha256
  commandType : CommandType
  expectedRecordVersion : PositiveBigint
  notStart : commandType ≠ .start
  deriving DecidableEq

/-- The digests of the payloads. -/
structure RunDigests where
  specificationChecksum : RunSpecification → Sha256
  startFingerprint : StartIntent → Sha256
  commandFingerprint : CommandIntent → Sha256

/-- `_SAFE_TOKEN`. -/
def isSafeToken (s : String) : Bool :=
  match s.toList with
  | [] => false
  | first :: rest => first.isAlphanum && decide (rest.length ≤ 127) &&
      rest.all fun c => c.isAlphanum || c == '.' || c == '_' || c == ':' || c == '-'

/-- `validate_…_idempotency_key`. -/
def validateIdempotencyKey (key : String) : Except RunError Unit := do
  require (1 ≤ key.length ∧ key.length ≤ 128) .boundsExceeded
  require (isSafeToken key = true) .invalidSpecification

/-- `_require_positive_bigint`. -/
def requirePositiveBigint (n : ℕ) : Except RunError Unit := do
  require (1 ≤ n) .invalidSpecification
  require (n ≤ bigintMax) .boundsExceeded

@[simp] theorem requirePositiveBigint_eq_ok {n : ℕ} {u : Unit} :
    requirePositiveBigint n = .ok u ↔ 1 ≤ n ∧ n ≤ bigintMax := by
  simp only [requirePositiveBigint, bind_eq_ok, require_eq_ok, exists_const]

section

variable (digests : RunDigests)

/-- The START intent an epoch records. -/
def RunSpecification.startIntent (s : RunSpecification) : StartIntent :=
  ⟨s.activationId, s.activationChecksum⟩

/-- The checks on what START fixes. -/
def validateRunIdentity (identity : EpochIdentity RunSpecification) : Except RunError Unit := do
  require (digests.specificationChecksum identity.specification = identity.epochChecksum)
    .checksumMismatch
  validateIdempotencyKey identity.startIdempotencyKey
  require (identity.startIntentFingerprint =
    digests.startFingerprint identity.specification.startIntent) .invalidSpecification

/-- The checks on the claim. -/
def validateClaim (f : EpochFields RunSpecification RunFailureCode) : Except RunError Unit :=
  match f.workerClaim with
  | some claim => do
    require (claim.epochId = f.identity.epochId ∧ claim.fencingToken = f.fencingToken ∧
      f.identity.startRequestedAt ≤ claim.claimedAt) .lease
    require (f.observedState.isClaimed = true) .lease
  | none => require (f.observedState.isClaimed = false) .lease

/-- The checks on the end. -/
def validateEnd (f : EpochFields RunSpecification RunFailureCode) : Except RunError Unit := do
  if f.observedState = .failed then
    require (f.failure.isSome = true ∧ f.terminalAt.isSome = true ∧
      f.failure.map (·.failedAt) = f.terminalAt ∧ f.workerClaim = none) .invalidSpecification
  else if f.observedState = .stopped then
    require (f.desiredState = .stopped ∧ f.failure = none ∧ f.terminalAt.isSome = true ∧
      f.workerClaim = none) .invalidSpecification
  else require (f.failure = none ∧ f.terminalAt = none) .invalidSpecification
  require (∀ t ∈ f.terminalAt, f.identity.startRequestedAt ≤ t) .invalidSpecification

/-- `OperationalPaperSessionRunEpoch.__post_init__`. -/
def runPostInit (f : EpochFields RunSpecification RunFailureCode) : Except RunError Unit := do
  require (¬(f.observedState = .stopping ∧ f.desiredState ≠ .stopped)) .invalidSpecification
  requirePositiveBigint f.recordVersion
  require (f.fencingToken ≤ bigintMax) .boundsExceeded
  validateRunIdentity digests f.identity
  validateClaim f
  validateEnd f

theorem validateClaim_eq_ok {f : EpochFields RunSpecification RunFailureCode} :
    validateClaim f = .ok () ↔ f.workerClaim.isSome = f.observedState.isClaimed ∧
      ∀ c ∈ f.workerClaim, c.epochId = f.identity.epochId ∧ c.fencingToken = f.fencingToken ∧
        f.identity.startRequestedAt ≤ c.claimedAt := by
  unfold validateClaim
  cases f.workerClaim with
  | none =>
    rw [require_eq_ok]
    exact ⟨fun h => ⟨h.symm, nofun⟩, fun h => h.1.symm⟩
  | some claim =>
    simp only [bind_eq_ok, require_eq_ok, exists_const, Option.isSome_some, Option.mem_def,
      Option.some.injEq, forall_eq']
    exact ⟨fun ⟨h, hstate⟩ => ⟨hstate.symm, h⟩, fun ⟨hstate, h⟩ => ⟨h, hstate.symm⟩⟩

theorem validateEnd_eq_ok {f : EpochFields RunSpecification RunFailureCode}
    (hclaimed : f.workerClaim.isSome = f.observedState.isClaimed) :
    validateEnd f = .ok () ↔ f.terminalAt.isSome = f.observedState.isTerminal ∧
      f.failure.isSome = decide (f.observedState = .failed) ∧
      (∀ x ∈ f.failure, f.terminalAt = some x.failedAt) ∧
      (f.observedState = .stopped → f.desiredState = .stopped) ∧
      ∀ t ∈ f.terminalAt, f.identity.startRequestedAt ≤ t := by
  unfold validateEnd
  have hnone : f.observedState.isClaimed = false → f.workerClaim = none := by
    intro hstate
    rw [hstate, Option.isSome_eq_false_iff, Option.isNone_iff_eq_none] at hclaimed
    exact hclaimed
  revert hnone
  generalize f.observedState = observed
  intro hnone
  by_cases hfailed : observed = .failed
  · subst hfailed
    simp only [if_true, bind_eq_ok, require_eq_ok, exists_const, hnone rfl]
    cases f.failure with
    | none => simp
    | some x =>
      cases f.terminalAt with
      | none => simp [ObservedState.isTerminal]
      | some t =>
        constructor
        · rintro ⟨⟨-, -, hfailed, -⟩, hstart⟩
          exact ⟨rfl, rfl, fun y hy => by cases hy; exact hfailed.symm,
            fun h => (by cases h), hstart⟩
        · rintro ⟨-, -, hfailed, -, hstart⟩
          exact ⟨⟨rfl, rfl, (hfailed x rfl).symm, trivial⟩, hstart⟩
  · rw [if_neg hfailed]
    by_cases hstopped : observed = .stopped
    · subst hstopped
      simp only [if_true, bind_eq_ok, require_eq_ok, exists_const, hnone rfl]
      cases f.failure <;> cases f.terminalAt <;> simp [ObservedState.isTerminal]
    · rw [if_neg hstopped]
      have hopen : observed.isTerminal = false := by
        cases observed <;> simp_all [ObservedState.isTerminal]
      simp only [bind_eq_ok, require_eq_ok, exists_const, hopen]
      cases f.failure <;> cases f.terminalAt <;> simp [hfailed, hstopped]

/-- The checks of the constructor, as the shape of an epoch. -/
theorem runPostInit_eq_ok (f : EpochFields RunSpecification RunFailureCode) :
    runPostInit digests f = .ok () ↔ validateRunIdentity digests f.identity = .ok () ∧ f.Shape := by
  simp only [runPostInit, bind_eq_ok, require_eq_ok, exists_const, requirePositiveBigint_eq_ok]
  constructor
  · rintro ⟨hstopping, hversion, hfence, ⟨⟩, hidentity, ⟨⟩, hvalid, hend⟩
    obtain ⟨hclaimed, hclaim⟩ := validateClaim_eq_ok.mp hvalid
    obtain ⟨hterminal, hfailure, hfailedAt, hstopped, hchronology⟩ :=
      (validateEnd_eq_ok hclaimed).mp hend
    exact ⟨hidentity, ⟨hversion, hfence, hclaimed, hclaim, hterminal, hfailure, hfailedAt,
      hstopped, fun hs => not_not.mp fun hne => hstopping ⟨hs, hne⟩, hchronology⟩⟩
  · rintro ⟨hidentity, hshape⟩
    exact ⟨fun h => h.2 (hshape.stopping h.1), hshape.version, hshape.fence, (), hidentity, (),
      validateClaim_eq_ok.mpr ⟨hshape.claimed, hshape.claim⟩,
      (validateEnd_eq_ok hshape.claimed).mpr ⟨hshape.terminal, hshape.failure, hshape.failedAt,
        hshape.stopped, hshape.chronology⟩⟩

/-- The contract of a paper-session run. -/
def runContract : Contract RunSpecification RunFailureCode where
  validateIdentity := validateRunIdentity digests
  postInit := runPostInit digests
  postInit_eq_ok := runPostInit_eq_ok digests

/-- `OperationalPaperSessionRunEpoch`. -/
abbrev RunEpoch := Epoch (runContract digests)

/-! ### Commands -/

/-- The fields of a command. -/
structure RunCommandFields where
  commandId : Uuid
  epochId : Uuid
  epochChecksum : Sha256
  commandType : CommandType
  desiredState : DesiredState
  expectedRecordVersion : Option ℕ
  resultingRecordVersion : ℕ
  actorId : Uuid
  requestedAt : ℤ
  idempotencyKey : String
  intentFingerprint : Sha256
  deriving DecidableEq

/-- The fingerprint a later command must carry. -/
def RunCommandFields.fingerprint (c : RunCommandFields) : Option Sha256 :=
  match c.expectedRecordVersion with
  | none => none
  | some v =>
    if h : (1 ≤ v ∧ v ≤ bigintMax) ∧ c.commandType ≠ .start then
      some (digests.commandFingerprint ⟨c.epochId, c.epochChecksum, c.commandType, ⟨v, h.1⟩, h.2⟩)
    else none

/-- `OperationalPaperSessionRunEpochCommand.__post_init__`; the contract version is 1. -/
def commandPostInit (c : RunCommandFields) : Except RunError Unit := do
  require (c.desiredState = c.commandType.target) .invalidSpecification
  requirePositiveBigint c.resultingRecordVersion
  if c.commandType = .start then
    require (c.expectedRecordVersion = none ∧ c.resultingRecordVersion = 1) .invalidSpecification
  else match c.expectedRecordVersion with
    | none => .error .invalidSpecification
    | some v => do
      requirePositiveBigint v
      require (c.resultingRecordVersion = v + 1) .invalidSpecification
  validateIdempotencyKey c.idempotencyKey
  if c.commandType = .start then pure ()
  else require (c.fingerprint digests = some c.intentFingerprint) .invalidSpecification

/-- `OperationalPaperSessionRunEpochCommand`. -/
structure RunCommand extends RunCommandFields where
  valid : commandPostInit digests toRunCommandFields = .ok ()

/-- `OperationalPaperSessionRunEpochCommand(...)`. -/
def RunCommandFields.construct (c : RunCommandFields) : Except RunError (RunCommand digests) :=
  match h : commandPostInit digests c with
  | .error e => .error e
  | .ok () => .ok ⟨c, h⟩

/-- `start_operational_paper_session_run_epoch`. -/
def startEpoch (epochId commandId : Uuid) (specification : RunSpecification)
    (startIntent : StartIntent) (requestedBy : Uuid) (requestedAt : ℤ) (idempotencyKey : String) :
    Except RunError (RunEpoch digests × RunCommand digests) := do
  require (startIntent.activationId = specification.activationId ∧
    startIntent.activationChecksum = specification.activationChecksum) .commandConflict
  validateIdempotencyKey idempotencyKey
  let epochChecksum := digests.specificationChecksum specification
  let fingerprint := digests.startFingerprint startIntent
  let epoch ← EpochFields.construct (runContract digests)
    { identity :=
        { epochId := epochId
          epochChecksum := epochChecksum
          specification := specification
          startRequestedBy := requestedBy
          startRequestedAt := requestedAt
          startIdempotencyKey := idempotencyKey
          startIntentFingerprint := fingerprint }
      desiredState := .running
      observedState := .pending
      recordVersion := 1
      fencingToken := 0
      workerClaim := none
      failure := none
      terminalAt := none }
  let command ← RunCommandFields.construct digests
    { commandId := commandId
      epochId := epochId
      epochChecksum := epochChecksum
      commandType := .start
      desiredState := .running
      expectedRecordVersion := none
      resultingRecordVersion := 1
      actorId := requestedBy
      requestedAt := requestedAt
      idempotencyKey := idempotencyKey
      intentFingerprint := fingerprint }
  pure (epoch, command)

variable {digests}

/-- `is_operational_paper_session_run_command_allowed`. -/
def isCommandAllowed (epoch : RunEpoch digests) (commandType : CommandType) : Bool :=
  if commandType = .start then false
  else if epoch.observedState.isTerminal then false
  else decide (commandType ∈ epoch.desiredState.allowedCommands)

/-- The checks of `request_operational_paper_session_run_epoch_command`. -/
def commandGuards (epoch : RunEpoch digests) (intent : CommandIntent) (requestedAt : ℤ)
    (idempotencyKey : String) : Except RunError Unit := do
  require (epoch.observedState.isTerminal = false) .commandConflict
  require (intent.epochId = epoch.identity.epochId ∧
    intent.epochChecksum = epoch.identity.epochChecksum ∧
    intent.expectedRecordVersion.1 = epoch.recordVersion) .commandConflict
  require (isCommandAllowed epoch intent.commandType = true) .commandConflict
  require (epoch.identity.startRequestedAt ≤ requestedAt) .invalidSpecification
  validateIdempotencyKey idempotencyKey

/-- `request_operational_paper_session_run_epoch_command`. -/
def requestCommand (epoch : RunEpoch digests) (commandId : Uuid) (intent : CommandIntent)
    (actorId : Uuid) (requestedAt : ℤ) (idempotencyKey : String) :
    Except RunError (RunEpoch digests × RunCommand digests) := do
  commandGuards epoch intent requestedAt idempotencyKey
  require (epoch.recordVersion + 1 ≤ bigintMax) .boundsExceeded
  let updated ← EpochFields.construct (runContract digests)
    { epoch.toEpochFields with
      desiredState := intent.commandType.target
      recordVersion := epoch.recordVersion + 1 }
  let command ← RunCommandFields.construct digests
    { commandId := commandId
      epochId := epoch.identity.epochId
      epochChecksum := epoch.identity.epochChecksum
      commandType := intent.commandType
      desiredState := intent.commandType.target
      expectedRecordVersion := some epoch.recordVersion
      resultingRecordVersion := epoch.recordVersion + 1
      actorId := actorId
      requestedAt := requestedAt
      idempotencyKey := idempotencyKey
      intentFingerprint := digests.commandFingerprint intent }
  pure (updated, command)

/-! ### Everything that is done to an epoch -/

/-- An operation with its arguments. -/
inductive Operation
  | command (commandId : Uuid) (intent : CommandIntent) (actorId : Uuid) (requestedAt : ℤ)
      (idempotencyKey : String)
  | claim (workerId : Uuid) (claimedAt leaseExpiresAt : ℤ)
  | renew (workerId : Uuid) (fencingToken : ℕ) (heartbeatAt leaseExpiresAt : ℤ)
  | recover (workerId : Uuid) (recoveredAt leaseExpiresAt : ℤ)
  | markStarting (workerId : Uuid) (fencingToken : ℕ) (observedAt : ℤ)
  | markRunning (workerId : Uuid) (fencingToken : ℕ) (observedAt : ℤ)
  | markStopping (workerId : Uuid) (fencingToken : ℕ) (observedAt : ℤ)
  | settlePaused (workerId : Uuid) (fencingToken : ℕ) (observedAt : ℤ)
  | settleStopped (workerId : Uuid) (fencingToken : ℕ) (observedAt : ℤ)
  | settleUnclaimed (observedAt : ℤ)
  | failClaimed (workerId : Uuid) (fencingToken : ℕ) (code : RunFailureCode) (failedAt : ℤ)
  | failUnclaimed (code : RunFailureCode) (failedAt : ℤ)

namespace Operation

/-- What an operation does to an epoch, or why it is rejected. -/
def apply (epoch : RunEpoch digests) : Operation → Except RunError (RunEpoch digests)
  | .command commandId intent actorId requestedAt key =>
    (requestCommand epoch commandId intent actorId requestedAt key).map (·.1)
  | .claim workerId claimedAt leaseExpiresAt => claimEpoch epoch workerId claimedAt leaseExpiresAt
  | .renew workerId fencingToken heartbeatAt leaseExpiresAt =>
    renewClaim epoch workerId fencingToken heartbeatAt leaseExpiresAt
  | .recover workerId recoveredAt leaseExpiresAt =>
    recoverEpoch epoch workerId recoveredAt leaseExpiresAt
  | .markStarting workerId fencingToken at' => markEpochStarting epoch workerId fencingToken at'
  | .markRunning workerId fencingToken at' => markEpochRunning epoch workerId fencingToken at'
  | .markStopping workerId fencingToken at' => markEpochStopping epoch workerId fencingToken at'
  | .settlePaused workerId fencingToken at' => settleEpochPaused epoch workerId fencingToken at'
  | .settleStopped workerId fencingToken at' => settleEpochStopped epoch workerId fencingToken at'
  | .settleUnclaimed at' => settleUnclaimedEpoch epoch at'
  | .failClaimed workerId fencingToken code at' =>
    failClaimedEpoch epoch workerId fencingToken code at'
  | .failUnclaimed code at' => failUnclaimedEpoch epoch code at'

/-- The checks an operation makes itself, before it builds a record. -/
def guards (epoch : RunEpoch digests) : Operation → Except RunError Unit
  | .command _ intent _ requestedAt key => commandGuards epoch intent requestedAt key
  | .claim _ claimedAt leaseExpiresAt => claimGuards epoch claimedAt leaseExpiresAt
  | .renew workerId fencingToken heartbeatAt leaseExpiresAt =>
    (renewGuards epoch workerId fencingToken heartbeatAt leaseExpiresAt).map fun _ => ()
  | .recover _ recoveredAt leaseExpiresAt => recoverGuards epoch recoveredAt leaseExpiresAt
  | .markStarting workerId fencingToken at' =>
    moveGuards .running [.recovering] epoch workerId fencingToken at'
  | .markRunning workerId fencingToken at' =>
    moveGuards .running [.starting] epoch workerId fencingToken at'
  | .markStopping workerId fencingToken at' =>
    moveGuards .stopped [.starting, .running, .recovering] epoch workerId fencingToken at'
  | .settlePaused workerId fencingToken at' =>
    moveGuards .paused [.starting, .running, .recovering] epoch workerId fencingToken at'
  | .settleStopped workerId fencingToken at' =>
    moveGuards .stopped [.stopping] epoch workerId fencingToken at'
  | .settleUnclaimed at' => (settleUnclaimedTarget epoch at').map fun _ => ()
  | .failClaimed workerId fencingToken _ at' => failClaimedGuards epoch workerId fencingToken at'
  | .failUnclaimed _ at' => failUnclaimedGuards epoch at'

/-- The worker and the token an operation carries. -/
def holder : Operation → Option (Uuid × ℕ)
  | .renew workerId fencingToken _ _ | .markStarting workerId fencingToken _
  | .markRunning workerId fencingToken _ | .markStopping workerId fencingToken _
  | .settlePaused workerId fencingToken _ | .settleStopped workerId fencingToken _
  | .failClaimed workerId fencingToken _ _ => some (workerId, fencingToken)
  | _ => none

/-- A worker takes the epoch over. -/
def takesOver : Operation → Bool
  | .claim .. | .recover .. => true
  | _ => false

/-- The time an operation is made at. -/
def time : Operation → ℤ
  | .command _ _ _ t _ | .claim _ t _ | .renew _ _ t _ | .recover _ t _ | .markStarting _ _ t
  | .markRunning _ _ t | .markStopping _ _ t | .settlePaused _ _ t | .settleStopped _ _ t
  | .settleUnclaimed t | .failClaimed _ _ _ t | .failUnclaimed _ t => t

/-- The worker that makes an operation. -/
def workerId : Operation → Option Uuid
  | .claim workerId _ _ | .renew workerId _ _ _ | .recover workerId _ _
  | .markStarting workerId _ _ | .markRunning workerId _ _ | .markStopping workerId _ _
  | .settlePaused workerId _ _ | .settleStopped workerId _ _ | .failClaimed workerId _ _ _ =>
    some workerId
  | .command .. | .settleUnclaimed _ | .failUnclaimed .. => none

/-- An administrator's command. -/
def isCommand : Operation → Bool
  | .command .. => true
  | _ => false

end Operation

/-- One operation; a rejected one leaves the epoch as it is. -/
def stepOperation (epoch : RunEpoch digests) (operation : Operation) : RunEpoch digests :=
  match operation.apply epoch with
  | .ok epoch' => epoch'
  | .error _ => epoch

/-- Operations one after the other, all of them accepted. -/
def performOperations (epoch : RunEpoch digests) (operations : List Operation) :
    Except RunError (RunEpoch digests) :=
  operations.foldlM Operation.apply epoch

/-- Operations one after the other. -/
def runOperations (epoch : RunEpoch digests) (operations : List Operation) : RunEpoch digests :=
  operations.foldl stepOperation epoch

end

end Epochs
end DryTrade
