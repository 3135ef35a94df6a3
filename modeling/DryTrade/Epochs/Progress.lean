import DryTrade.Epochs.PaperSessionRun

/-!
# Run epochs do not get stuck

The guards of the operations, the table of the transitions and the checks of the constructors say
the same about an epoch: an operation that passes its guards builds a valid record, and an epoch
that has not ended can be brought to what its administrator wants, by one worker and without
another command.

## Main definitions

* `DesiredState.observed` — the state that agrees with a desired one.
* `HeldBy` — a worker holds the epoch.

## Main results

* `apply_of_guards` — an operation that passes its guards is accepted.
* `exists_settled` — a worker brings an open epoch to its desired state.
* `runEpoch_progress` — both, and the same for START.
-/

namespace DryTrade
namespace Epochs

variable {digests : RunDigests} {epoch epoch' : RunEpoch digests} {op : Operation}

/-! ### Guards suffice -/

/-- Every state that has not ended can fail. -/
theorem failed_mem_allowedTransitions {s : ObservedState} (h : s.isTerminal = false) :
    .failed ∈ s.allowedTransitions := by
  revert h
  cases s <;> decide

/-- A record of the right shape about the same START is built. -/
theorem construct_of_shape {f : EpochFields RunSpecification RunFailureCode}
    (epoch : RunEpoch digests) (hshape : f.Shape) (hidentity : f.identity = epoch.identity) :
    ∃ epoch', f.construct (runContract digests) = .ok epoch' ∧ epoch'.toEpochFields = f := by
  have hvalid : (runContract digests).validateIdentity f.identity = .ok () :=
    hidentity ▸ epoch.validIdentity
  exact ⟨⟨f, ((runContract digests).postInit_eq_ok f).mpr ⟨hvalid, hshape⟩⟩,
    construct_eq_ok.mpr ⟨⟨hvalid, hshape⟩, rfl⟩, rfl⟩

/-- The lease of a worker that takes an epoch over. -/
theorem construct_claim (epochId workerId : Uuid) {fencingToken : ℕ} {now leaseExpiresAt : ℤ}
    (htoken : fencingToken < bigintMax) (hlease : now < leaseExpiresAt) :
    ∃ claim : WorkerClaim, WorkerClaim.construct epochId workerId (fencingToken + 1) now now
      leaseExpiresAt = (.ok claim : Except RunError WorkerClaim) ∧ claim.epochId = epochId ∧
      claim.workerId = workerId ∧ claim.fencingToken = fencingToken + 1 ∧
      claim.claimedAt = now ∧ claim.heartbeatAt = now ∧ claim.leaseExpiresAt = leaseExpiresAt :=
  ⟨⟨epochId, workerId, fencingToken + 1, now, now, leaseExpiresAt, ⟨Nat.le_add_left .., htoken⟩,
    le_rfl, hlease⟩, WorkerClaim.construct_eq_ok.mpr ⟨rfl, rfl, rfl, rfl, rfl, rfl⟩,
    rfl, rfl, rfl, rfl, rfl, rfl⟩

/-- What a command changes keeps the shape. -/
theorem EpochFields.Shape.commanded {f : EpochFields RunSpecification RunFailureCode}
    (h : f.Shape) (hversion : f.recordVersion < bigintMax)
    (hopen : f.observedState.isTerminal = false)
    (hdesired : f.desiredState ≠ .stopped) (desired : DesiredState) :
    EpochFields.Shape { f with desiredState := desired, recordVersion := f.recordVersion + 1 } where
  version := ⟨Nat.le_add_left .., hversion⟩
  fence := h.fence
  claimed := h.claimed
  claim := h.claim
  terminal := h.terminal
  failure := h.failure
  failedAt := h.failedAt
  stopped hstopped := absurd (h.stopped hstopped) hdesired
  stopping hstopping := absurd (h.stopping hstopping) hdesired
  chronology := h.chronology

theorem commandGuards_eq_ok {intent : CommandIntent} {requestedAt : ℤ} {key : String} :
    commandGuards epoch intent requestedAt key = .ok () ↔
      epoch.observedState.isTerminal = false ∧
      (intent.epochId = epoch.identity.epochId ∧
        intent.epochChecksum = epoch.identity.epochChecksum ∧
        intent.expectedRecordVersion.1 = epoch.recordVersion) ∧
      isCommandAllowed epoch intent.commandType = true ∧
      epoch.identity.startRequestedAt ≤ requestedAt ∧ validateIdempotencyKey key = .ok () := by
  simp only [commandGuards, bind_eq_ok, require_eq_ok, exists_const]

/-- A command is allowed only while STOPPED is not desired. -/
theorem desiredState_of_isCommandAllowed {commandType : CommandType}
    (h : isCommandAllowed epoch commandType = true) : epoch.desiredState ≠ .stopped := by
  intro hstopped
  unfold isCommandAllowed at h
  rw [hstopped] at h
  split at h
  · cases h
  · split at h
    · cases h
    · simp [DesiredState.allowedCommands] at h

/-- A command that passes its checks is built. -/
theorem construct_command {command : RunCommandFields}
    (hvalid : commandPostInit digests command = .ok ()) :
    ∃ c, command.construct digests = .ok c := by
  unfold RunCommandFields.construct
  split
  · next e herror =>
    rw [hvalid] at herror
    cases herror
  · exact ⟨_, rfl⟩

theorem requestCommand_of_guards (commandId : Uuid) {intent : CommandIntent} (actorId : Uuid)
    {requestedAt : ℤ} {key : String} (hversion : epoch.recordVersion < bigintMax)
    (hguards : commandGuards epoch intent requestedAt key = .ok ()) :
    ∃ r, requestCommand epoch commandId intent actorId requestedAt key = .ok r := by
  obtain ⟨hopen, ⟨hid, hchecksum, hexpected⟩, hallowed, -, hkey⟩ := commandGuards_eq_ok.mp hguards
  obtain ⟨updated, hupdated, -⟩ := construct_of_shape epoch
    (epoch.shape.commanded hversion hopen (desiredState_of_isCommandAllowed hallowed)
      intent.commandType.target) rfl
  obtain ⟨intentEpoch, intentChecksum, commandType, ⟨expected, hbound⟩, hnotStart⟩ := intent
  dsimp only at hid hchecksum hexpected
  subst hid hchecksum hexpected
  let command : RunCommandFields :=
    { commandId, epochId := epoch.identity.epochId, epochChecksum := epoch.identity.epochChecksum,
      commandType, desiredState := commandType.target,
      expectedRecordVersion := some epoch.recordVersion,
      resultingRecordVersion := epoch.recordVersion + 1, actorId, requestedAt,
      idempotencyKey := key,
      intentFingerprint := digests.commandFingerprint
        ⟨epoch.identity.epochId, epoch.identity.epochChecksum, commandType,
          ⟨epoch.recordVersion, hbound⟩, hnotStart⟩ }
  -- the command rebuilds the intent it was asked with
  have hvalid : commandPostInit digests command = .ok () := by
    have hfingerprint : command.fingerprint digests = some command.intentFingerprint :=
      dif_pos ⟨hbound, hnotStart⟩
    simp only [commandPostInit, bind_eq_ok, require_eq_ok, exists_const,
      requirePositiveBigint_eq_ok]
    refine ⟨rfl, ⟨Nat.le_add_left .., hversion⟩, ?_⟩
    rw [if_neg hnotStart, if_neg hnotStart]
    simp only [command, bind_eq_ok, require_eq_ok, exists_const, requirePositiveBigint_eq_ok]
    exact ⟨hbound, trivial, (), hkey, hfingerprint⟩
  obtain ⟨c, hc⟩ := construct_command hvalid
  simp only [requestCommand, bind_eq_ok, require_eq_ok, exists_const]
  exact ⟨(updated, c), (), hguards, hversion, updated, hupdated, c, hc, rfl⟩

/-- START builds a valid epoch and a valid command. -/
theorem startEpoch_of_guards (epochId commandId : Uuid) {specification : RunSpecification}
    {startIntent : StartIntent} (requestedBy : Uuid) (requestedAt : ℤ) {key : String}
    (hintent : startIntent.activationId = specification.activationId ∧
      startIntent.activationChecksum = specification.activationChecksum)
    (hkey : validateIdempotencyKey key = .ok ()) :
    ∃ r, startEpoch digests epochId commandId specification startIntent requestedBy requestedAt
      key = .ok r := by
  let epoch : EpochFields RunSpecification RunFailureCode :=
    { identity :=
        { epochId := epochId
          epochChecksum := digests.specificationChecksum specification
          specification := specification
          startRequestedBy := requestedBy
          startRequestedAt := requestedAt
          startIdempotencyKey := key
          startIntentFingerprint := digests.startFingerprint startIntent }
      desiredState := .running
      observedState := .pending
      recordVersion := 1
      fencingToken := 0
      workerClaim := none
      failure := none
      terminalAt := none }
  have hidentity : (runContract digests).validateIdentity epoch.identity = .ok () := by
    have hstart : startIntent = specification.startIntent := by
      cases startIntent
      cases hintent.1
      cases hintent.2
      rfl
    simp only [runContract, validateRunIdentity, bind_eq_ok, require_eq_ok, exists_const]
    exact ⟨rfl, (), hkey, congrArg digests.startFingerprint hstart⟩
  have hshape : epoch.Shape := by
    exact ⟨⟨le_rfl, show 1 ≤ bigintMax by decide⟩, Nat.zero_le _, rfl, nofun, rfl, rfl, nofun,
      nofun, nofun, nofun⟩
  have hepoch : epoch.construct (runContract digests) =
      .ok ⟨epoch, ((runContract digests).postInit_eq_ok epoch).mpr ⟨hidentity, hshape⟩⟩ :=
    construct_eq_ok.mpr ⟨⟨hidentity, hshape⟩, rfl⟩
  let command : RunCommandFields :=
    { commandId := commandId
      epochId := epochId
      epochChecksum := digests.specificationChecksum specification
      commandType := .start
      desiredState := .running
      expectedRecordVersion := none
      resultingRecordVersion := 1
      actorId := requestedBy
      requestedAt := requestedAt
      idempotencyKey := key
      intentFingerprint := digests.startFingerprint startIntent }
  have hvalid : commandPostInit digests command = .ok () := by
    simp only [commandPostInit, command, if_true, bind_eq_ok, require_eq_ok, exists_const,
      requirePositiveBigint_eq_ok]
    exact ⟨rfl, ⟨le_rfl, by decide⟩, ⟨trivial, trivial⟩, (), hkey, rfl⟩
  obtain ⟨c, hc⟩ := construct_command hvalid
  simp only [startEpoch, bind_eq_ok, require_eq_ok, exists_const]
  exact ⟨_, hintent, (), hkey, _, hepoch, c, hc, rfl⟩

/-- A claim, a renewal or a recovery that passes its checks. -/
theorem construct_withClaim {c : WorkerClaim} (target : ObservedState)
    (hversion : epoch.recordVersion < bigintMax) (hopen : epoch.observedState.isTerminal = false)
    (htarget : target.isClaimed = true) (hepoch : c.epochId = epoch.identity.epochId)
    (hstart : epoch.identity.startRequestedAt ≤ c.claimedAt)
    (hstopping : target = .stopping → epoch.desiredState = .stopped) :
    ∃ epoch' : RunEpoch digests, EpochFields.construct (runContract digests)
        { epoch.toEpochFields with
          observedState := target
          recordVersion := epoch.recordVersion + 1
          fencingToken := c.fencingToken
          workerClaim := some c } = .ok epoch' := by
  obtain ⟨epoch', hepoch', -⟩ := construct_of_shape epoch
    (epoch.shape.withClaim hopen htarget hversion hepoch hstart hstopping) rfl
  exact ⟨epoch', hepoch'⟩

theorem claimEpoch_of_guards (workerId : Uuid) {claimedAt leaseExpiresAt : ℤ}
    (hversion : epoch.recordVersion < bigintMax) (htoken : epoch.fencingToken < bigintMax)
    (hguards : claimGuards epoch claimedAt leaseExpiresAt = .ok ()) :
    ∃ epoch', claimEpoch epoch workerId claimedAt leaseExpiresAt = .ok epoch' := by
  obtain ⟨hopen, ⟨hdesired, hobserved, -⟩, hstart, hlease⟩ := claimGuards_eq_ok.mp hguards
  obtain ⟨claim, hclaim, hid, -, hfence, hclaimedAt, -, -⟩ :=
    construct_claim epoch.identity.epochId workerId htoken hlease
  obtain ⟨epoch', hepoch'⟩ := construct_withClaim .starting hversion hopen rfl hid
    (hclaimedAt ▸ hstart) nofun
  rw [hfence] at hepoch'
  have htransition : .starting ∈ epoch.observedState.allowedTransitions := by
    revert hobserved
    cases epoch.observedState <;> decide
  exact ⟨epoch', claimEpoch_eq_ok.mpr ⟨hguards, htoken, htransition, hversion, claim, hclaim,
    hepoch'⟩⟩

theorem renewClaim_of_guards {workerId : Uuid} {fencingToken : ℕ}
    {heartbeatAt leaseExpiresAt : ℤ} {claim : WorkerClaim}
    (hversion : epoch.recordVersion < bigintMax)
    (hguards : renewGuards epoch workerId fencingToken heartbeatAt leaseExpiresAt = .ok claim) :
    ∃ epoch', renewClaim epoch workerId fencingToken heartbeatAt leaseExpiresAt = .ok epoch' := by
  obtain ⟨⟨hclaim, -, hactive⟩, hlater, hlease, -⟩ := renewGuards_eq_ok.mp hguards
  obtain ⟨hid, hfence, hstart⟩ := epoch.shape.claim claim hclaim
  let renewed : WorkerClaim :=
    { claim with
      heartbeatAt
      leaseExpiresAt
      chronology := ⟨claim.chronology.1.trans hactive.1, hlease⟩ }
  have hclaimed : epoch.observedState.isClaimed = true := by
    rw [← epoch.shape.claimed, hclaim]
    rfl
  obtain ⟨epoch', hepoch'⟩ := construct_withClaim (c := renewed) _ hversion
    (isTerminal_of_claim hclaim) hclaimed hid hstart epoch.shape.stopping
  rw [show renewed.fencingToken = epoch.fencingToken from hfence] at hepoch'
  exact ⟨epoch', renewClaim_eq_ok.mpr ⟨claim, hguards, hversion, renewed,
    WorkerClaim.construct_eq_ok.mpr ⟨rfl, rfl, rfl, rfl, rfl, rfl⟩, hepoch'⟩⟩

theorem recoverEpoch_of_guards (workerId : Uuid) {recoveredAt leaseExpiresAt : ℤ}
    (hversion : epoch.recordVersion < bigintMax) (htoken : epoch.fencingToken < bigintMax)
    (hguards : recoverGuards epoch recoveredAt leaseExpiresAt = .ok ()) :
    ∃ epoch', recoverEpoch epoch workerId recoveredAt leaseExpiresAt = .ok epoch' := by
  obtain ⟨hopen, ⟨previous, hprevious, hexpired⟩, hobserved, hlease⟩ :=
    recoverGuards_eq_ok.mp hguards
  obtain ⟨claim, hclaim, hid, -, hfence, hclaimedAt, -, -⟩ :=
    construct_claim epoch.identity.epochId workerId htoken hlease
  have hstart : epoch.identity.startRequestedAt ≤ recoveredAt := by
    have hbegan := (epoch.shape.claim previous hprevious).2.2
    have hchronology := previous.chronology
    omega
  obtain ⟨epoch', hepoch'⟩ := construct_withClaim .recovering hversion hopen rfl hid
    (hclaimedAt ▸ hstart) nofun
  rw [hfence] at hepoch'
  have htransition : epoch.observedState ≠ .recovering →
      .recovering ∈ epoch.observedState.allowedTransitions := by
    revert hobserved
    cases epoch.observedState <;> decide
  exact ⟨epoch', recoverEpoch_eq_ok.mpr ⟨hguards, htoken, htransition, hversion, claim, hclaim,
    hepoch'⟩⟩

/-- A move of the holder that passes its checks. -/
theorem moveEpoch_of_guards {desired : DesiredState} {sources : List ObservedState}
    {target : ObservedState} {workerId : Uuid} {fencingToken : ℕ} {observedAt : ℤ}
    (hversion : epoch.recordVersion < bigintMax)
    (hguards : moveGuards desired sources epoch workerId fencingToken observedAt = .ok ())
    (htable : ∀ s ∈ sources, target ∈ s.allowedTransitions) (hnotFailed : target ≠ .failed)
    (hstopped : target = .stopped ∨ target = .stopping → desired = .stopped) :
    ∃ epoch', moveEpoch desired sources target epoch workerId fencingToken observedAt =
      .ok epoch' := by
  obtain ⟨⟨hsource, hdesired⟩, claim, hclaim, -, hactive⟩ := moveGuards_eq_ok.mp hguards
  have hclaimed : epoch.observedState.isClaimed = true := by
    rw [← epoch.shape.claimed, hclaim]
    rfl
  obtain ⟨epoch', hepoch', -⟩ := construct_of_shape epoch
    (epoch.shape.moved (isTerminal_of_claim hclaim) hversion
      (fun _ => hclaimed) hnotFailed (epoch.shape.start_le hclaim hactive)
      fun h => hdesired.trans (hstopped h)) rfl
  exact ⟨epoch', moveEpoch_eq_ok.mpr ⟨hguards, htable _ hsource, hversion, hepoch'⟩⟩

theorem settleUnclaimedEpoch_of_target {observedAt : ℤ} {target : Option ObservedState}
    (hversion : epoch.recordVersion < bigintMax)
    (htarget : settleUnclaimedTarget epoch observedAt = .ok target) :
    ∃ epoch', settleUnclaimedEpoch epoch observedAt = .ok epoch' := by
  cases target with
  | none => exact ⟨epoch, settleUnclaimedEpoch_eq_ok.mpr (.inl ⟨htarget, rfl⟩)⟩
  | some target =>
    obtain ⟨hopen, hclaim, hstart, hcases⟩ := settleUnclaimedTarget_eq_some.mp htarget
    have htransition : target ∈ epoch.observedState.allowedTransitions ∧
        target.isClaimed = false ∧ target ≠ .failed ∧
        (target = .stopped ∨ target = .stopping → epoch.desiredState = .stopped) := by
      obtain ⟨-, hobserved, rfl⟩ | ⟨hdesired, hobserved, rfl⟩ := hcases
      · rw [hobserved]
        exact ⟨by decide, rfl, nofun, by rintro (h | h) <;> cases h⟩
      · refine ⟨?_, rfl, nofun, fun _ => hdesired⟩
        revert hobserved
        cases epoch.observedState <;> decide
    obtain ⟨htransition, hreleased, hnotFailed, hstopped⟩ := htransition
    obtain ⟨epoch', hepoch', -⟩ := construct_of_shape epoch
      (epoch.shape.moved hopen hversion
        (fun h => by rw [hreleased] at h; cases h) hnotFailed hstart hstopped) rfl
    exact ⟨epoch', settleUnclaimedEpoch_eq_ok.mpr
      (.inr ⟨target, htarget, htransition, hversion, hepoch'⟩)⟩

/-- **The guards suffice.**  An operation that passes its own guards passes the table of the
transitions and builds a valid record, and a valid command where it makes one. -/
theorem apply_of_guards (hversion : epoch.recordVersion < bigintMax)
    (htoken : epoch.fencingToken < bigintMax) (hguards : op.guards epoch = .ok ()) :
    ∃ epoch', op.apply epoch = .ok epoch' := by
  cases op with
  | command commandId intent actorId requestedAt key =>
    obtain ⟨r, hr⟩ := requestCommand_of_guards commandId actorId hversion hguards
    exact ⟨r.1, by rw [Operation.apply, hr]; rfl⟩
  | claim => exact claimEpoch_of_guards _ hversion htoken hguards
  | renew workerId fencingToken heartbeatAt leaseExpiresAt =>
    simp only [Operation.guards] at hguards
    cases hclaim : renewGuards epoch workerId fencingToken heartbeatAt leaseExpiresAt with
    | error e =>
      rw [hclaim] at hguards
      cases hguards
    | ok claim => exact renewClaim_of_guards hversion hclaim
  | recover => exact recoverEpoch_of_guards _ hversion htoken hguards
  | markStarting => exact moveEpoch_of_guards hversion hguards (by decide) nofun (by decide)
  | markRunning => exact moveEpoch_of_guards hversion hguards (by decide) nofun (by decide)
  | markStopping => exact moveEpoch_of_guards hversion hguards (by decide) nofun (by decide)
  | settlePaused => exact moveEpoch_of_guards hversion hguards (by decide) nofun (by decide)
  | settleStopped => exact moveEpoch_of_guards hversion hguards (by decide) nofun (by decide)
  | settleUnclaimed observedAt =>
    simp only [Operation.guards] at hguards
    cases htarget : settleUnclaimedTarget epoch observedAt with
    | error e =>
      rw [htarget] at hguards
      cases hguards
    | ok target => exact settleUnclaimedEpoch_of_target hversion htarget
  | failClaimed workerId fencingToken code failedAt =>
    obtain ⟨hopen, hobserved, claim, hclaim, -, hactive⟩ := failClaimedGuards_eq_ok.mp hguards
    obtain ⟨epoch', hepoch', -⟩ := construct_of_shape epoch
      (epoch.shape.failed hversion code (epoch.shape.start_le hclaim hactive)) rfl
    exact ⟨epoch', failed_eq_ok.mpr ⟨hguards, failed_mem_allowedTransitions hopen, hversion,
      hepoch'⟩⟩
  | failUnclaimed code failedAt =>
    obtain ⟨hopen, -, hstart⟩ := failUnclaimedGuards_eq_ok.mp hguards
    obtain ⟨epoch', hepoch', -⟩ := construct_of_shape epoch
      (epoch.shape.failed hversion code hstart) rfl
    exact ⟨epoch', failed_eq_ok.mpr ⟨hguards, failed_mem_allowedTransitions hopen, hversion,
      hepoch'⟩⟩

/-! ### Towards the desired state -/

/-- The state that agrees with a desired one. -/
def DesiredState.observed : DesiredState → ObservedState
  | .running => .running
  | .paused => .paused
  | .stopped => .stopped

/-- A worker holds the epoch, with the present token and an active lease. -/
def HeldBy (epoch : RunEpoch digests) (workerId : Uuid) (now : ℤ) : Prop :=
  ∃ claim, epoch.workerClaim = some claim ∧ claim.belongsTo workerId epoch.fencingToken ∧
    claim.ActiveAt now

/-- Operations of one worker at one time, none of them a command. -/
def ByWorker (workerId : Uuid) (now : ℤ) (ops : List Operation) : Prop :=
  ∀ op ∈ ops, op.isCommand = false ∧ op.time = now ∧ ∀ w ∈ op.workerId, w = workerId

/-- Operations of a worker bring the epoch to its desired state. -/
def Settles (epoch : RunEpoch digests) (workerId : Uuid) (now : ℤ) : Prop :=
  ∃ ops final, ByWorker workerId now ops ∧ performOperations epoch ops = .ok final ∧
    final.desiredState = epoch.desiredState ∧ final.observedState = epoch.desiredState.observed

variable {workerId : Uuid} {now : ℤ}

theorem Settles.done (h : epoch.observedState = epoch.desiredState.observed) :
    Settles epoch workerId now := ⟨[], epoch, nofun, rfl, rfl, h⟩

theorem Settles.step (op : Operation) {fields : EpochFields RunSpecification RunFailureCode}
    (hop : op.isCommand = false ∧ op.time = now ∧ ∀ w ∈ op.workerId, w = workerId)
    (happly : op.apply epoch = .ok epoch') (hfields : epoch'.toEpochFields = fields)
    (hdesired : fields.desiredState = epoch.desiredState) (h : Settles epoch' workerId now) :
    Settles epoch workerId now := by
  obtain ⟨ops, final, hops, hperform, hsame, hfinal⟩ := h
  have hepoch' : epoch'.desiredState = epoch.desiredState := by rw [hfields, hdesired]
  refine ⟨op :: ops, final, ?_, ?_, hsame.trans hepoch', hepoch' ▸ hfinal⟩
  · rintro op' (_ | ⟨_, hmem⟩)
    · exact hop
    · exact hops op' hmem
  · rw [performOperations, List.foldlM_cons, happly]
    exact hperform

/-- A move of the holder, and what it leaves. -/
theorem exists_moved {desired : DesiredState} (sources : List ObservedState)
    (target : ObservedState) (hheld : HeldBy epoch workerId now)
    (hversion : epoch.recordVersion < bigintMax) (hsource : epoch.observedState ∈ sources)
    (hdesired : epoch.desiredState = desired)
    (htable : ∀ s ∈ sources, target ∈ s.allowedTransitions) (hnotFailed : target ≠ .failed)
    (hstopped : target = .stopped ∨ target = .stopping → desired = .stopped) :
    ∃ epoch', moveEpoch desired sources target epoch workerId epoch.fencingToken now = .ok epoch' ∧
      epoch'.toEpochFields = epoch.toEpochFields.moved target now ∧
      (target.isClaimed = true → HeldBy epoch' workerId now) := by
  obtain ⟨claim, hclaim, hbelongs, hactive⟩ := hheld
  obtain ⟨epoch', hmove⟩ := moveEpoch_of_guards hversion
    (moveGuards_eq_ok.mpr ⟨⟨hsource, hdesired⟩, claim, hclaim, hbelongs, hactive⟩) htable
    hnotFailed hstopped
  obtain ⟨-, -, -, hepoch'⟩ := moveEpoch_eq_ok.mp hmove
  have hfields := (construct_eq_ok.mp hepoch').2
  refine ⟨epoch', hmove, hfields, fun htarget => ⟨claim, ?_, ?_, hactive⟩⟩
  · rw [hfields, EpochFields.moved, if_pos htarget, hclaim]
  · rw [hfields]
    exact hbelongs

/-- The holder of a STARTING epoch that should run makes it run. -/
theorem settles_of_starting (hheld : HeldBy epoch workerId now)
    (hversion : epoch.recordVersion < bigintMax) (hobserved : epoch.observedState = .starting)
    (hdesired : epoch.desiredState = .running) : Settles epoch workerId now := by
  obtain ⟨epoch₁, hmove, hfields, -⟩ := exists_moved [.starting] .running
    hheld hversion (by simp [hobserved]) hdesired (by decide) nofun (by decide)
  refine .step (.markRunning workerId epoch.fencingToken now)
    ⟨rfl, rfl, fun _ h => (Option.some.inj h).symm⟩ hmove hfields rfl (.done ?_)
  rw [hfields]
  exact (congrArg DesiredState.observed hdesired).symm

/-- The holder of a RECOVERING epoch brings it to its desired state. -/
theorem settles_of_recovering (hheld : HeldBy epoch workerId now)
    (hversion : epoch.recordVersion + 1 < bigintMax)
    (hobserved : epoch.observedState = .recovering) : Settles epoch workerId now := by
  have hversion₀ : epoch.recordVersion < bigintMax := by omega
  cases hdesired : epoch.desiredState with
  | running =>
    obtain ⟨epoch₁, hmove, hfields, hheld₁⟩ := exists_moved [.recovering] .starting hheld
      hversion₀ (by simp [hobserved]) hdesired (by decide) nofun (by decide)
    refine .step (.markStarting workerId epoch.fencingToken now)
      ⟨rfl, rfl, fun _ h => (Option.some.inj h).symm⟩ hmove hfields rfl
      (settles_of_starting (hheld₁ rfl) ?_ ?_ ?_)
    · rwa [hfields]
    · rw [hfields]
      rfl
    · rw [hfields]
      exact hdesired
  | paused =>
    obtain ⟨epoch₁, hmove, hfields, -⟩ := exists_moved [.starting, .running, .recovering] .paused
      hheld hversion₀ (by simp [hobserved]) hdesired (by decide) nofun (by decide)
    refine .step (.settlePaused workerId epoch.fencingToken now)
      ⟨rfl, rfl, fun _ h => (Option.some.inj h).symm⟩ hmove hfields rfl (.done ?_)
    rw [hfields]
    exact (congrArg DesiredState.observed hdesired).symm
  | stopped =>
    obtain ⟨epoch₁, hmove, hfields, hheld₁⟩ := exists_moved [.starting, .running, .recovering]
      .stopping hheld hversion₀ (by simp [hobserved]) hdesired (by decide) nofun (by decide)
    have hdesired₁ : epoch₁.desiredState = .stopped := by
      rw [hfields]
      exact hdesired
    refine .step (.markStopping workerId epoch.fencingToken now)
      ⟨rfl, rfl, fun _ h => (Option.some.inj h).symm⟩ hmove hfields rfl ?_
    obtain ⟨epoch₂, hmove₂, hfields₂, -⟩ := exists_moved [.stopping] .stopped (hheld₁ rfl)
      (by rwa [hfields]) (by simp [hfields, EpochFields.moved]) hdesired₁ (by decide) nofun
      (by decide)
    refine .step (.settleStopped workerId epoch₁.fencingToken now)
      ⟨rfl, rfl, fun _ h => (Option.some.inj h).symm⟩ hmove₂ hfields₂ rfl (.done ?_)
    rw [hfields₂]
    exact (congrArg DesiredState.observed hdesired₁).symm

/-- A lease that was taken now. -/
theorem heldBy_of_construct {claim : WorkerClaim} {epochId : Uuid}
    (hclaim : WorkerClaim.construct epochId workerId (epoch.fencingToken + 1) now now (now + 1) =
      (.ok claim : Except RunError WorkerClaim))
    (hfields : epoch'.workerClaim = some claim ∧ epoch'.fencingToken = epoch.fencingToken + 1) :
    HeldBy epoch' workerId now := by
  obtain ⟨-, hworker, htoken, -, hheartbeat, hlease⟩ := WorkerClaim.construct_eq_ok.mp hclaim
  refine ⟨claim, hfields.1, ⟨hworker, by rw [htoken, hfields.2]⟩, ?_, ?_⟩
  · rw [hheartbeat]
  · rw [hlease]
    exact Int.lt_succ now

/-- Any worker takes over an epoch whose lease has run out. -/
theorem settles_of_expired {previous : WorkerClaim} (hclaim : epoch.workerClaim = some previous)
    (hexpired : previous.leaseExpiresAt ≤ now) (hversion : epoch.recordVersion + 2 < bigintMax)
    (htoken : epoch.fencingToken < bigintMax) : Settles epoch workerId now := by
  have hobserved : epoch.observedState ∈ [.starting, .running, .recovering, .stopping] := by
    have hclaimed := epoch.shape.claimed
    rw [hclaim] at hclaimed
    revert hclaimed
    cases epoch.observedState <;> simp [ObservedState.isClaimed]
  obtain ⟨epoch₁, hrecover⟩ := recoverEpoch_of_guards workerId
    (by omega : epoch.recordVersion < bigintMax) htoken
    (recoverGuards_eq_ok.mpr ⟨isTerminal_of_claim hclaim, ⟨previous, hclaim, hexpired⟩, hobserved,
      Int.lt_succ now⟩)
  obtain ⟨-, -, -, -, claim, hlease, hepoch₁⟩ := recoverEpoch_eq_ok.mp hrecover
  have hfields := (construct_eq_ok.mp hepoch₁).2
  have hheld : HeldBy epoch₁ workerId now :=
    heldBy_of_construct hlease (by rw [hfields]; exact ⟨rfl, rfl⟩)
  refine .step (.recover workerId now (now + 1))
    ⟨rfl, rfl, fun _ h => (Option.some.inj h).symm⟩ hrecover hfields rfl
    (settles_of_recovering hheld ?_ ?_)
  · rw [hfields]
    dsimp only
    omega
  · rw [hfields]

/-- Any worker settles or claims an epoch without a worker. -/
theorem settles_of_unclaimed (hclaim : epoch.workerClaim = none)
    (hopen : epoch.observedState.isTerminal = false)
    (hstart : epoch.identity.startRequestedAt ≤ now)
    (hversion : epoch.recordVersion + 1 < bigintMax)
    (htoken : epoch.fencingToken < bigintMax) : Settles epoch workerId now := by
  have hobserved : epoch.observedState ∈ [.pending, .paused] := by
    have hclaimed := epoch.shape.claimed
    rw [hclaim] at hclaimed
    revert hclaimed hopen
    cases epoch.observedState <;> simp [ObservedState.isClaimed, ObservedState.isTerminal]
  have hsettle : ∀ target, settleUnclaimedTarget epoch now = .ok (some target) →
      target = epoch.desiredState.observed → Settles epoch workerId now := by
    intro target htarget hagrees
    obtain ⟨epoch₁, hepoch₁⟩ := settleUnclaimedEpoch_of_target
      (by omega : epoch.recordVersion < bigintMax) htarget
    obtain ⟨hnone, -⟩ | ⟨target', hsome, -, -, hconstruct⟩ := settleUnclaimedEpoch_eq_ok.mp hepoch₁
    · rw [htarget] at hnone
      cases hnone
    · rw [htarget] at hsome
      cases hsome
      have hfields := (construct_eq_ok.mp hconstruct).2
      refine .step (.settleUnclaimed now) ⟨rfl, rfl, fun _ h => by cases h⟩ hepoch₁ hfields rfl (.done ?_)
      rw [hfields]
      exact hagrees
  cases hdesired : epoch.desiredState with
  | running =>
    obtain ⟨epoch₁, hclaimed⟩ := claimEpoch_of_guards workerId
      (by omega : epoch.recordVersion < bigintMax) htoken
      (claimGuards_eq_ok.mpr ⟨hopen, ⟨hdesired, hobserved, hclaim⟩, hstart, Int.lt_succ now⟩)
    obtain ⟨-, -, -, -, claim, hlease, hepoch₁⟩ := claimEpoch_eq_ok.mp hclaimed
    have hfields := (construct_eq_ok.mp hepoch₁).2
    have hheld : HeldBy epoch₁ workerId now :=
      heldBy_of_construct hlease (by rw [hfields]; exact ⟨rfl, rfl⟩)
    refine .step (.claim workerId now (now + 1))
      ⟨rfl, rfl, fun _ h => (Option.some.inj h).symm⟩ hclaimed hfields rfl
      (settles_of_starting hheld ?_ ?_ ?_)
    · rwa [hfields]
    · rw [hfields]
    · rw [hfields]
      exact hdesired
  | paused =>
    by_cases hpaused : epoch.observedState = .paused
    · exact .done (by rw [hpaused, hdesired]; rfl)
    · have hpending : epoch.observedState = .pending := by simpa [hpaused] using hobserved
      exact hsettle .paused (settleUnclaimedTarget_eq_some.mpr ⟨hopen, hclaim, hstart,
        .inl ⟨hdesired, hpending, rfl⟩⟩) (by rw [hdesired]; rfl)
  | stopped =>
    exact hsettle .stopped (settleUnclaimedTarget_eq_some.mpr ⟨hopen, hclaim, hstart,
      .inr ⟨hdesired, hobserved, rfl⟩⟩) (by rw [hdesired]; rfl)

/-- **No deadlock.**  Any worker brings an epoch that has not ended to its desired state, by
operations at some later time. -/
theorem exists_settled (workerId : Uuid) (earliest : ℤ)
    (hopen : epoch.observedState.isTerminal = false)
    (hversion : epoch.recordVersion + 2 < bigintMax) (htoken : epoch.fencingToken < bigintMax) :
    ∃ now, earliest ≤ now ∧ Settles epoch workerId now := by
  cases hclaim : epoch.workerClaim with
  | none =>
    exact ⟨max earliest epoch.identity.startRequestedAt, le_max_left .., settles_of_unclaimed hclaim
      hopen (le_max_right ..) (by omega) htoken⟩
  | some previous =>
    exact ⟨max earliest previous.leaseExpiresAt, le_max_left .., settles_of_expired hclaim
      (le_max_right ..) hversion htoken⟩

/-- **Guards, table and constructors agree, and no epoch is stuck.**  START and every operation
that pass their own guards build valid records, below the bounds of the version and the token;
and, with three versions and one token left, any single worker brings an epoch that has not
ended to its desired state, with accepted operations at some later time and no command. -/
theorem runEpoch_progress (digests : RunDigests) :
    (∀ epochId commandId specification (startIntent : StartIntent) requestedBy requestedAt key,
      startIntent.activationId = specification.activationId ∧
          startIntent.activationChecksum = specification.activationChecksum →
        validateIdempotencyKey key = .ok () →
        ∃ r, startEpoch digests epochId commandId specification startIntent requestedBy requestedAt
          key = .ok r) ∧
      ∀ epoch : RunEpoch digests, epoch.fencingToken < bigintMax →
        (∀ op : Operation, epoch.recordVersion < bigintMax → op.guards epoch = .ok () →
          ∃ epoch', op.apply epoch = .ok epoch') ∧
        (∀ (workerId : Uuid) (earliest : ℤ), epoch.observedState.isTerminal = false →
          epoch.recordVersion + 2 < bigintMax →
          ∃ now ops final, earliest ≤ now ∧
            (∀ op ∈ ops, op.isCommand = false ∧ op.time = now ∧
              ∀ w ∈ op.workerId, w = workerId) ∧
            performOperations epoch ops = .ok final ∧ final.desiredState = epoch.desiredState ∧
            final.observedState = epoch.desiredState.observed) := by
  refine ⟨fun epochId commandId _ _ requestedBy requestedAt _ hintent hkey =>
      startEpoch_of_guards epochId commandId requestedBy requestedAt hintent hkey,
    fun epoch htoken => ⟨fun op hversion hguards => apply_of_guards hversion htoken hguards,
      fun workerId earliest hopen hversion => ?_⟩⟩
  obtain ⟨now, hlater, ops, final, hops, hperform, hdesired, hobserved⟩ :=
    exists_settled workerId earliest hopen hversion htoken
  exact ⟨now, ops, final, hlater, hops, hperform, hdesired, hobserved⟩

/-- An epoch that was just started: it can be claimed, and it can be made to run. -/
theorem runEpoch_progress_started :
    ∃ epoch : RunEpoch ⟨fun _ => 0, fun _ => 0, fun _ => 0⟩, epoch.observedState = .pending ∧
      (∃ epoch', (Operation.claim ⟨1, by decide⟩ 0 1).apply epoch = .ok epoch') ∧
      ∃ now ops final, 5 ≤ now ∧
        (∀ op ∈ ops, op.isCommand = false ∧ op.time = now ∧ ∀ w ∈ op.workerId, w = ⟨2, by decide⟩) ∧
        performOperations epoch ops = .ok final ∧ final.desiredState = .running ∧
        final.observedState = .running := by
  let id : Uuid := ⟨1, by decide⟩
  let specification : RunSpecification :=
    ⟨id, 0, id, 0, ⟨id, 0⟩, ⟨id, ⟨1, by decide⟩, 0⟩, ⟨id, ⟨1, by decide⟩, 0⟩, id, 0, 0⟩
  let fields : EpochFields RunSpecification RunFailureCode :=
    ⟨⟨id, 0, specification, id, 0, "a", 0⟩, .running, .pending, 1, 0, none, none, none⟩
  let epoch : RunEpoch ⟨fun _ => 0, fun _ => 0, fun _ => 0⟩ := ⟨fields, by decide +kernel⟩
  obtain ⟨happly, hsettles⟩ := (runEpoch_progress _).2 epoch (by decide)
  exact ⟨epoch, rfl, happly (.claim ⟨1, by decide⟩ 0 1) (by decide) (by decide +kernel),
    hsettles ⟨2, by decide⟩ 5 rfl (by decide)⟩

end Epochs
end DryTrade
