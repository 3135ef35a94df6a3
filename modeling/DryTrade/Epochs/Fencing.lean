import DryTrade.Epochs.PaperSessionRun

/-!
# Fencing of run epochs

A worker that takes an epoch over gets the next fencing token, and every operation of a worker
that holds the epoch carries its token.  So a worker that was replaced never changes the epoch
again, whatever the clocks of the workers show.

## Main definitions

* `Effect` — what an accepted operation does to an epoch.

## Main results

* `apply_effect` — an accepted operation has that effect, or nothing was left to do.
* `runOperations_since` — what no sequence of operations undoes.
* `runOperations_fenced` — the lease and the token of an epoch over any sequence of operations.
-/

namespace DryTrade
namespace Epochs

variable {digests : RunDigests} {epoch epoch' : RunEpoch digests} {op : Operation}

/-- What an accepted operation does, unless it leaves the epoch as it is. -/
structure Effect (epoch : RunEpoch digests) (op : Operation) (epoch' : RunEpoch digests) :
    Prop where
  live : epoch.observedState.isTerminal = false
  identity : epoch'.identity = epoch.identity
  version : epoch'.recordVersion = epoch.recordVersion + 1
  token : epoch'.fencingToken = epoch.fencingToken + if op.takesOver = true then 1 else 0
  desired : epoch'.desiredState = epoch.desiredState ∨ epoch.desiredState ≠ .stopped
  running : epoch'.observedState = .running → epoch.observedState ≠ .running →
    epoch.desiredState = .running ∧ epoch'.desiredState = .running
  holder : ∀ h ∈ op.holder, ∃ claim, epoch.workerClaim = some claim ∧ claim.belongsTo h.1 h.2
  expired : ∀ workerId recoveredAt leaseExpiresAt,
    op = .recover workerId recoveredAt leaseExpiresAt →
    ∃ claim, epoch.workerClaim = some claim ∧ claim.leaseExpiresAt ≤ recoveredAt

theorem command_effect {commandId : Uuid} {intent : CommandIntent} {actorId : Uuid}
    {requestedAt : ℤ} {key : String} {command : RunCommand digests}
    (h : requestCommand epoch commandId intent actorId requestedAt key = .ok (epoch', command)) :
    Effect epoch (.command commandId intent actorId requestedAt key) epoch' := by
  simp only [requestCommand, commandGuards, bind_eq_ok, require_eq_ok, exists_const,
    construct_eq_ok, pure, Except.pure, Except.ok.injEq, Prod.mk.injEq] at h
  obtain ⟨-, ⟨hlive, -, hallowed, -, -⟩, -, updated, ⟨-, hfields⟩, -, -, rfl, -⟩ := h
  refine ⟨hlive, by rw [hfields], by rw [hfields], by rw [hfields]; rfl, .inr ?_, ?_, nofun, nofun⟩
  · intro hstopped
    unfold isCommandAllowed at hallowed
    rw [hstopped, hlive] at hallowed
    split at hallowed
    · cases hallowed
    · simp [DesiredState.allowedCommands] at hallowed
  · intro hrunning hne
    rw [hfields] at hrunning
    exact absurd hrunning hne

theorem claim_effect {workerId : Uuid} {claimedAt leaseExpiresAt : ℤ}
    (h : claimEpoch epoch workerId claimedAt leaseExpiresAt = .ok epoch') :
    Effect epoch (.claim workerId claimedAt leaseExpiresAt) epoch' := by
  obtain ⟨hguards, -, -, -, claim, -, hepoch⟩ := claimEpoch_eq_ok.mp h
  obtain ⟨-, hfields⟩ := construct_eq_ok.mp hepoch
  refine ⟨(claimGuards_eq_ok.mp hguards).1, by rw [hfields], by rw [hfields],
    by rw [hfields]; rfl, .inl (by rw [hfields]), ?_, nofun, nofun⟩
  intro hrunning
  rw [hfields] at hrunning
  cases hrunning

theorem renew_effect {workerId : Uuid} {fencingToken : ℕ} {heartbeatAt leaseExpiresAt : ℤ}
    (h : renewClaim epoch workerId fencingToken heartbeatAt leaseExpiresAt = .ok epoch') :
    Effect epoch (.renew workerId fencingToken heartbeatAt leaseExpiresAt) epoch' := by
  obtain ⟨claim, hguards, -, renewed, -, hepoch⟩ := renewClaim_eq_ok.mp h
  obtain ⟨⟨hclaim, hbelongs, -⟩, -⟩ := renewGuards_eq_ok.mp hguards
  obtain ⟨-, hfields⟩ := construct_eq_ok.mp hepoch
  refine ⟨isTerminal_of_claim hclaim, by rw [hfields], by rw [hfields], by rw [hfields]; rfl,
    .inl (by rw [hfields]), ?_, ?_, nofun⟩
  · intro hrunning hne
    rw [hfields] at hrunning
    exact absurd hrunning hne
  · intro holder hholder
    cases hholder
    exact ⟨claim, hclaim, hbelongs⟩

theorem recover_effect {workerId : Uuid} {recoveredAt leaseExpiresAt : ℤ}
    (h : recoverEpoch epoch workerId recoveredAt leaseExpiresAt = .ok epoch') :
    Effect epoch (.recover workerId recoveredAt leaseExpiresAt) epoch' := by
  obtain ⟨hguards, -, -, -, claim, -, hepoch⟩ := recoverEpoch_eq_ok.mp h
  obtain ⟨hlive, hprevious, -⟩ := recoverGuards_eq_ok.mp hguards
  obtain ⟨-, hfields⟩ := construct_eq_ok.mp hepoch
  refine ⟨hlive, by rw [hfields], by rw [hfields], by rw [hfields]; rfl, .inl (by rw [hfields]),
    ?_, nofun, ?_⟩
  · intro hrunning
    rw [hfields] at hrunning
    cases hrunning
  · rintro workerId recoveredAt leaseExpiresAt ⟨⟩
    exact hprevious

/-- A move of the present holder. -/
theorem move_effect {desired : DesiredState} {sources : List ObservedState}
    {target : ObservedState} {workerId : Uuid} {fencingToken : ℕ} {observedAt : ℤ}
    (h : moveEpoch desired sources target epoch workerId fencingToken observedAt = .ok epoch')
    (hrunning : target = .running → desired = .running)
    (hholder : op.holder = some (workerId, fencingToken)) (hover : op.takesOver = false) :
    Effect epoch op epoch' := by
  obtain ⟨hguards, -, -, hepoch⟩ := moveEpoch_eq_ok.mp h
  obtain ⟨⟨-, hdesired⟩, claim, hclaim, hbelongs, -⟩ := moveGuards_eq_ok.mp hguards
  obtain ⟨-, hfields⟩ := construct_eq_ok.mp hepoch
  refine ⟨isTerminal_of_claim hclaim, by rw [hfields]; rfl, by rw [hfields]; rfl, ?_,
    .inl (by rw [hfields]; rfl), ?_, ?_, ?_⟩
  · rw [hfields, hover]
    rfl
  · intro htarget _
    rw [hfields] at htarget ⊢
    have hrun := hdesired.trans (hrunning htarget)
    exact ⟨hrun, hrun⟩
  · intro holder hmem
    rw [hholder] at hmem
    cases hmem
    exact ⟨claim, hclaim, hbelongs⟩
  · rintro w r l rfl
    cases hover

theorem settleUnclaimed_effect {observedAt : ℤ}
    (h : settleUnclaimedEpoch epoch observedAt = .ok epoch') :
    epoch' = epoch ∨ Effect epoch (.settleUnclaimed observedAt) epoch' := by
  obtain ⟨-, rfl⟩ | ⟨target, htarget, -, -, hepoch⟩ := settleUnclaimedEpoch_eq_ok.mp h
  · exact .inl rfl
  · obtain ⟨hlive, -, -, htarget⟩ := settleUnclaimedTarget_eq_some.mp htarget
    obtain ⟨-, hfields⟩ := construct_eq_ok.mp hepoch
    refine .inr ⟨hlive, by rw [hfields]; rfl, by rw [hfields]; rfl,
      by rw [hfields]; rfl, .inl (by rw [hfields]; rfl), ?_, nofun, nofun⟩
    intro hrunning
    rw [hfields] at hrunning
    obtain ⟨-, -, rfl⟩ | ⟨-, -, rfl⟩ := htarget
    · cases hrunning
    · cases hrunning

/-- A failure, by the holder or of an epoch without one. -/
theorem failed_effect {code : RunFailureCode} {failedAt : ℤ}
    (hlive : epoch.observedState.isTerminal = false)
    (hfields : epoch'.toEpochFields = epoch.toEpochFields.failed code failedAt)
    (hover : op.takesOver = false)
    (hholder : ∀ h ∈ op.holder, ∃ claim, epoch.workerClaim = some claim ∧ claim.belongsTo h.1 h.2) :
    Effect epoch op epoch' := by
  refine ⟨hlive, by rw [hfields]; rfl, by rw [hfields]; rfl, ?_, .inl (by rw [hfields]; rfl), ?_,
    hholder, ?_⟩
  · rw [hfields, hover]
    rfl
  · intro hrunning
    rw [hfields] at hrunning
    cases hrunning
  · rintro w r l rfl
    cases hover

theorem failClaimed_effect {workerId : Uuid} {fencingToken : ℕ} {code : RunFailureCode}
    {failedAt : ℤ} (h : failClaimedEpoch epoch workerId fencingToken code failedAt = .ok epoch') :
    Effect epoch (.failClaimed workerId fencingToken code failedAt) epoch' := by
  obtain ⟨hguards, -, -, hepoch⟩ := failed_eq_ok.mp h
  obtain ⟨hlive, -, claim, hclaim, hbelongs, -⟩ := failClaimedGuards_eq_ok.mp hguards
  refine failed_effect hlive (construct_eq_ok.mp hepoch).2 rfl fun holder hmem => ?_
  cases hmem
  exact ⟨claim, hclaim, hbelongs⟩

/-- **What an accepted operation does.** -/
theorem apply_effect (h : op.apply epoch = .ok epoch') :
    epoch' = epoch ∨ Effect epoch op epoch' := by
  cases op with
  | command commandId intent actorId requestedAt key =>
    simp only [Operation.apply] at h
    cases hrequest : requestCommand epoch commandId intent actorId requestedAt key with
    | error e =>
      rw [hrequest] at h
      cases h
    | ok r =>
      rw [hrequest] at h
      cases h
      exact .inr (command_effect hrequest)
  | claim => exact .inr (claim_effect h)
  | renew => exact .inr (renew_effect h)
  | recover => exact .inr (recover_effect h)
  | markStarting => exact .inr (move_effect h nofun rfl rfl)
  | markRunning => exact .inr (move_effect h (fun _ => rfl) rfl rfl)
  | markStopping => exact .inr (move_effect h nofun rfl rfl)
  | settlePaused => exact .inr (move_effect h nofun rfl rfl)
  | settleStopped => exact .inr (move_effect h nofun rfl rfl)
  | settleUnclaimed => exact settleUnclaimed_effect h
  | failClaimed => exact .inr (failClaimed_effect h)
  | failUnclaimed code failedAt =>
    obtain ⟨hguards, -, -, hepoch⟩ := failed_eq_ok.mp h
    exact .inr (failed_effect (failUnclaimedGuards_eq_ok.mp hguards).1
      (construct_eq_ok.mp hepoch).2 rfl nofun)

/-! ### Sequences of operations -/

/-- A step leaves the epoch as it is, or has the effect of an accepted operation. -/
theorem stepOperation_cases (epoch : RunEpoch digests) (op : Operation) :
    stepOperation epoch op = epoch ∨
      op.apply epoch = .ok (stepOperation epoch op) ∧ Effect epoch op (stepOperation epoch op) := by
  unfold stepOperation
  cases hop : op.apply epoch with
  | error e => exact .inl rfl
  | ok epoch' =>
    rcases apply_effect hop with rfl | heffect
    · exact .inl rfl
    · exact .inr ⟨rfl, heffect⟩

/-- An operation that takes the epoch over never leaves it as it is. -/
theorem effect_of_takesOver (h : op.apply epoch = .ok epoch') (hover : op.takesOver = true) :
    Effect epoch op epoch' := by
  cases op with
  | claim => exact claim_effect h
  | recover => exact recover_effect h
  | _ => cases hover

/-- What no operation undoes. -/
structure Since (epoch epoch' : RunEpoch digests) : Prop where
  token : epoch.fencingToken ≤ epoch'.fencingToken
  terminal : epoch.observedState.isTerminal = true → epoch' = epoch
  stopped : epoch.desiredState = .stopped → epoch'.desiredState = .stopped

theorem Since.refl (epoch : RunEpoch digests) : Since epoch epoch :=
  ⟨le_rfl, fun _ => rfl, id⟩

theorem Since.trans {a b c : RunEpoch digests} (hab : Since a b) (hbc : Since b c) : Since a c where
  token := hab.token.trans hbc.token
  terminal h := by
    have hb := hab.terminal h
    subst hb
    exact hbc.terminal h
  stopped h := hbc.stopped (hab.stopped h)

theorem Effect.since (h : Effect epoch op epoch') : Since epoch epoch' where
  token := by
    rw [h.token]
    exact Nat.le_add_right ..
  terminal hterminal := by
    rw [h.live] at hterminal
    cases hterminal
  stopped hstopped := by
    rcases h.desired with heq | hne
    · rw [heq, hstopped]
    · exact absurd hstopped hne

theorem stepOperation_since (epoch : RunEpoch digests) (op : Operation) :
    Since epoch (stepOperation epoch op) := by
  rcases stepOperation_cases epoch op with heq | ⟨-, heffect⟩
  · rw [heq]
    exact .refl epoch
  · exact heffect.since

theorem runOperations_since (epoch : RunEpoch digests) (ops : List Operation) :
    Since epoch (runOperations epoch ops) := by
  induction ops generalizing epoch with
  | nil => exact .refl epoch
  | cons op ops ih => exact (stepOperation_since epoch op).trans (ih _)

/-- The token grows by one where the epoch is taken over, and nowhere else. -/
theorem stepOperation_token (epoch : RunEpoch digests) (op : Operation) :
    (stepOperation epoch op).fencingToken =
      epoch.fencingToken +
        if op.takesOver = true ∧ (op.apply epoch).isOk = true then 1 else 0 := by
  cases hop : op.apply epoch with
  | error e => simp [stepOperation, hop, Except.isOk, Except.toBool]
  | ok epoch' =>
    have hstep : stepOperation epoch op = epoch' := by simp [stepOperation, hop]
    rw [hstep]
    by_cases hover : op.takesOver = true
    · rw [(effect_of_takesOver hop hover).token, if_pos hover, if_pos ⟨hover, rfl⟩]
    · rw [if_neg fun h => hover h.1]
      rcases apply_effect hop with rfl | heffect
      · rfl
      · rw [heffect.token, if_neg hover]

/-- Only the present holder is let through. -/
theorem rejected_of_not_belongsTo {workerId : Uuid} {fencingToken : ℕ}
    (hholder : op.holder = some (workerId, fencingToken))
    (hother : ∀ claim ∈ epoch.workerClaim, ¬ claim.belongsTo workerId fencingToken) :
    ∃ e, op.apply epoch = .error e := by
  cases hop : op.apply epoch with
  | error e => exact ⟨e, rfl⟩
  | ok epoch' =>
    exfalso
    have heffect : Effect epoch op epoch' := by
      rcases apply_effect hop with rfl | heffect
      · cases op with
        | renew => exact renew_effect hop
        | markStarting => exact move_effect hop nofun rfl rfl
        | markRunning => exact move_effect hop (fun _ => rfl) rfl rfl
        | markStopping => exact move_effect hop nofun rfl rfl
        | settlePaused => exact move_effect hop nofun rfl rfl
        | settleStopped => exact move_effect hop nofun rfl rfl
        | failClaimed => exact failClaimed_effect hop
        | _ => cases hholder
      · exact heffect
    obtain ⟨claim, hclaim, hbelongs⟩ := heffect.holder _ hholder
    exact hother claim hclaim hbelongs

/-- A token below the present one is no longer let through. -/
theorem rejected_of_token_lt {workerId : Uuid} {fencingToken : ℕ}
    (hholder : op.holder = some (workerId, fencingToken))
    (hold : fencingToken < epoch.fencingToken) : ∃ e, op.apply epoch = .error e := by
  refine rejected_of_not_belongsTo hholder fun claim hclaim hbelongs => ?_
  have htoken := (epoch.shape.claim claim hclaim).2.1
  have hsame := hbelongs.2
  omega

/-- **Fencing of a run epoch.**  Any workers do any operations in any order and at any times:
`earlier`, then `op`, then `later`, and a rejected one leaves the epoch as it is.  The token grows
by one at an accepted claim or recovery and nowhere else; an effective operation makes the next
version; only the present holder is let through, so no holder from before a take-over ever is
again; a recovery is not before the expiry of the lease it ends; STOPPED and FAILED are
absorbing, a desired STOPPED is too, and RUNNING is entered only while it is desired. -/
theorem runOperations_fenced (epoch : RunEpoch digests) (earlier : List Operation)
    (op : Operation) (later : List Operation) :
    let before := runOperations epoch earlier
    let after := stepOperation before op
    let final := runOperations after later
    after.fencingToken = before.fencingToken +
        (if op.takesOver = true ∧ (op.apply before).isOk = true then 1 else 0) ∧
      before.fencingToken ≤ final.fencingToken ∧
      (after = before ∨ after.recordVersion = before.recordVersion + 1) ∧
      (∀ holder ∈ op.holder,
        (∀ claim ∈ before.workerClaim, ¬ claim.belongsTo holder.1 holder.2) →
          ∃ e, op.apply before = .error e) ∧
      (op.takesOver = true → (op.apply before).isOk = true →
        ∀ claim ∈ epoch.workerClaim, ∀ op' : Operation,
          op'.holder = some (claim.workerId, claim.fencingToken) →
            ∃ e, op'.apply final = .error e) ∧
      (∀ workerId recoveredAt leaseExpiresAt, op = .recover workerId recoveredAt leaseExpiresAt →
        (op.apply before).isOk = true →
          ∃ claim, before.workerClaim = some claim ∧ claim.leaseExpiresAt ≤ recoveredAt) ∧
      (before.observedState.isTerminal = true → final = before) ∧
      (before.desiredState = .stopped → final.desiredState = .stopped) ∧
      (after.observedState = .running → before.observedState ≠ .running →
        before.desiredState = .running ∧ after.desiredState = .running) := by
  intro before after final
  have hstep := stepOperation_since before op
  have hrun : Since before final := hstep.trans (runOperations_since after later)
  refine ⟨stepOperation_token before op, hrun.token, ?_, fun holder hholder hother => ?_,
    fun hover hok claim hclaim op' hholder => ?_, fun w r l hop hok => ?_, hrun.terminal,
    hrun.stopped, fun hrunning hne => ?_⟩
  · rcases stepOperation_cases before op with heq | ⟨-, heffect⟩
    · exact .inl heq
    · exact .inr heffect.version
  · exact rejected_of_not_belongsTo hholder hother
  · -- the token of `claim` is at most that of `before`, which the take-over leaves behind
    have hclaimToken := (epoch.shape.claim claim hclaim).2.1
    have hbefore : epoch.fencingToken ≤ before.fencingToken :=
      (runOperations_since epoch earlier).token
    have hafter : after.fencingToken = before.fencingToken + 1 := by
      rw [stepOperation_token before op, if_pos ⟨hover, hok⟩]
    have hlater : after.fencingToken ≤ final.fencingToken := (runOperations_since after later).token
    exact rejected_of_token_lt hholder (by omega)
  · obtain ⟨epoch', hok⟩ := isOk_iff.mp hok
    exact (effect_of_takesOver hok (by rw [hop]; rfl)).expired w r l hop
  · rcases stepOperation_cases before op with heq | ⟨-, heffect⟩
    · exact absurd (heq ▸ hrunning) hne
    · exact heffect.running hrunning hne

end Epochs
end DryTrade
