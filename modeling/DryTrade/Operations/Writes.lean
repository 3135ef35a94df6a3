import DryTrade.Operations.Rest

/-!
# Writes of a worker that go through

A worker writes the row of the operation it serves.  When the row is the one it has read, its
lease is live, no stamp is ahead of the clock and the other rows are idle, each transaction of
the repository goes through and changes this one row.

## Main definitions

* `Owned` — the row and the lease a write finds.
* `Written` — the row and the table after a write.

## Main results

* `requestState_returns`, `renewLeaseRow_returns`, `updateProgress_returns`, `complete_returns`
  — the writes under a lease.
* `claimNext_returns`, `settleOrClaim_returns` — the claims in a world at rest.
-/

namespace DryTrade
namespace Operations

open MarketData

/-- The row a worker is about to write at `now`, under its lease. -/
structure Owned (t : OperationTable) (o : MarketOperationSnapshot) (ownerId : Uuid) (now : ℤ)
    (l : WorkerLease) : Prop where
  lookup : t.lookup o.id = some o
  alone : Alone t o.id
  lease : o.lease = some l
  owner : l.ownerId = ownerId
  active : l.ActiveAt now
  updatedAt : o.updatedAt ≤ now

/-- The transaction returns the row with the new columns and changes nothing else. -/
def Written (t : OperationTable) (o : MarketOperationSnapshot) (new : SnapshotFields)
    (r : Except OperationError (MarketOperationSnapshot × OperationTable)) : Prop :=
  ∃ o' t', r = .ok (o', t') ∧ o'.toSnapshotFields = new ∧ o'.id = o.id ∧ OneRow t t' o'

section

variable {t : OperationTable} {o : MarketOperationSnapshot} {new : SnapshotFields} {now : ℤ}
  {ownerId : Uuid} {l : WorkerLease}

/-- The columns of the next version of a row are valid. -/
theorem validNext (o : MarketOperationSnapshot) (hle : o.updatedAt ≤ now)
    (hintent : new.intent = o.intent) (hversion : new.recordVersion = o.recordVersion + 1)
    (hupdated : new.updatedAt = now)
    (hprogress : new.progress = o.progress ∨ (new.progress.updatedAt = now ∧
      new.progress.chunksCompleted + new.progress.chunksFailed ≤ o.intent.plan.chunksPlanned ∧
      new.progress.candlesPersisted ≤ new.progress.candlesReceived))
    (hstarted : ∀ s ∈ new.startedAt, o.intent.createdAt ≤ s ∧ s ≤ now)
    (hfinished : new.finishedAt = none ∨ new.finishedAt = some now)
    (hlease : ∀ l ∈ new.lease, o.intent.createdAt ≤ l.claimedAt ∧ l.heartbeatAt ≤ now ∧
      new.state ∈ MarketOperationState.leaseStates ∧ ∀ s ∈ new.startedAt, s ≤ l.claimedAt)
    (howned : new.state = .claimed ∨ new.state = .running →
      new.lease.isSome = true ∧ new.startedAt.isSome = true)
    (houtcome : OutcomeFits new.state new.result new.failure new.finishedAt) : new.Valid := by
  have hcreated : o.intent.createdAt ≤ now :=
    (o.valid.chronology.1.trans o.valid.chronology.2).trans hle
  refine ⟨?_, ?_, ?_, ?_, ?_, ?_, ?_, ?_, ?_, howned, houtcome⟩
  · rw [hintent]
    exact o.valid.planned
  · rw [hintent]
    exact o.valid.checksum
  · rw [hintent]
    exact o.valid.totals
  · rw [hversion]
    exact Nat.le_add_left 1 _
  · rw [hintent, hupdated]
    rcases hprogress with hsame | ⟨hnow, -, -⟩
    · rw [hsame]
      exact ⟨o.valid.chronology.1, o.valid.chronology.2.trans hle⟩
    · rw [hnow]
      exact ⟨hcreated, le_rfl⟩
  · rw [hintent, hupdated]
    exact hstarted
  · rw [hintent, hupdated]
    intro s hs
    rcases hfinished with hnone | hsome
    · rw [hnone] at hs
      cases hs
    · rw [hsome] at hs
      cases hs
      exact ⟨hcreated, le_rfl⟩
  · rw [hintent]
    rcases hprogress with hsame | ⟨-, hcounters⟩
    · rw [hsame]
      exact o.valid.counters
    · exact hcounters
  · rw [hintent, hupdated]
    exact hlease

/-- The start of a row lies between its creation and its last change. -/
theorem started_le (o : MarketOperationSnapshot) (hle : o.updatedAt ≤ now) :
    ∀ s ∈ o.startedAt, o.intent.createdAt ≤ s ∧ s ≤ now :=
  fun s hs => ⟨(o.valid.started s hs).1, (o.valid.started s hs).2.trans hle⟩

/-- A row under a lease is not terminal. -/
theorem live_of_lease (h : o.lease = some l) :
    o.state ∉ MarketOperationState.terminalStates := by
  have hstate := o.leaseState h
  revert hstate
  cases o.state <;> decide

/-- What the trigger asks of the next version of a row under a lease. -/
theorem Owned.protected (h : Owned t o ownerId now l) (hintent : new.intent = o.intent)
    (hstarted : new.startedAt = o.startedAt) (hversion : new.recordVersion = o.recordVersion + 1)
    (hupdated : new.updatedAt = now)
    (hjob : o.localJobId = none ∨ new.localJobId = o.localJobId)
    (hprogress : new.progress.Extends o.progress) (hlease : LeaseProtected o.lease new.lease)
    (hstate : new.state = o.state ∨ new.state ∈ o.state.normalTransitions) :
    Protected o.toSnapshotFields new where
  live := live_of_lease h.lease
  intent := hintent
  startedAt := .inl hstarted
  version := hversion
  localJobId := hjob
  progress := hprogress
  updatedAt := hupdated ▸ h.updatedAt
  lease := hlease
  transition := hstate.imp id fun hnext =>
    (MarketOperationState.mem_approvedTransitions _ _).mpr (.inl hnext)

/-- An update the trigger accepts goes through. -/
theorem Written.update (hlookup : t.lookup o.id = some o) (halone : Alone t o.id)
    (hprotected : Protected o.toSnapshotFields new) (hvalid : new.Valid) :
    Written t o new (t.updateRow o new) := by
  obtain ⟨o', t', hupdate, ho', hrows⟩ := exists_updateRow halone hprotected hvalid
  have hid : o'.id = o.id := by
    rw [SnapshotFields.id, ho', hprotected.intent]
  exact ⟨o', t', hupdate, ho', hid, .of_replaced hlookup hid hrows⟩

theorem Owned.locked (h : Owned t o ownerId now l) :
    t.lockedOperation o.id o.recordVersion = .ok o :=
  lockedOperation_eq_ok.mpr ⟨h.lookup, rfl⟩

theorem Owned.requireLease (h : Owned t o ownerId now l) :
    requireOwnedActiveLease o.toSnapshotFields ownerId now = .ok l :=
  requireOwnedActiveLease_eq_ok.mpr ⟨h.lease, h.updatedAt, h.owner, h.active⟩

theorem LeaseProtected.none_right {old : Option WorkerLease} : LeaseProtected old none := by
  intro l _ l' hl'
  cases hl'

theorem LeaseProtected.refl (old : Option WorkerLease) : LeaseProtected old old := by
  intro l hl l' hl'
  rw [hl] at hl'
  cases hl'
  exact ⟨rfl, rfl, le_rfl, le_rfl⟩

/-- What validity says of the lease of a row. -/
theorem Owned.claimed (h : Owned t o ownerId now l) : o.intent.createdAt ≤ l.claimedAt ∧
    ∀ s ∈ o.startedAt, s ≤ l.claimedAt :=
  ⟨(o.valid.lease l h.lease).1, (o.valid.lease l h.lease).2.2.2⟩

/-- A row under a lease has no outcome. -/
theorem outcome_of_lease (h : o.lease = some l) :
    o.result = none ∧ o.failure = none ∧ o.finishedAt = none := by
  have hstate := o.leaseState h
  have houtcome := o.valid.outcome
  revert hstate houtcome
  cases o.state <;> simp [MarketOperationState.leaseStates, OutcomeFits]

/-- **`request_state`** by the owner of the lease: a start, a pause or a cancellation. -/
theorem requestState_returns (h : Owned t o ownerId now l) (target : MarketOperationState)
    (htarget : target ∈ MarketOperationState.workerTargets)
    (hnext : target ∈ o.state.normalTransitions)
    (hstarted : target = .running → o.startedAt.isSome = true) :
    Written t o (o.toSnapshotFields.requested target now)
      (requestState t o.id target o.recordVersion now (some ownerId)) := by
  have hne : o.state ≠ target := by
    rintro rfl
    revert hnext
    cases o.state <;> decide
  have hwrite : requestState t o.id target o.recordVersion now (some ownerId) =
      t.updateRow o (o.toSnapshotFields.requested target now) := by
    have htransition : requireTransition o.state target = .ok () :=
      requireTransition_eq_ok.mpr hnext
    have hrecovering : target ≠ .recovering := by
      rintro rfl
      revert htarget
      decide
    have hfinal : target ≠ .completed ∧ target ≠ .failed := by
      constructor
      all_goals
        rintro rfl
        revert htarget
        decide
    simp only [requestState, h.locked, require, if_pos hrecovering, if_neg hne, htransition,
      h.requireLease, if_pos hfinal, ok_bind]
    rw [if_pos ⟨htarget, by rw [h.lease]; exact Option.some_ne_none l⟩]
  rw [hwrite]
  have hresult := outcome_of_lease h.lease
  refine .update h.lookup h.alone ?_ ?_
  · refine h.protected rfl rfl rfl rfl (.inr rfl) (.refl _) ?_ (.inr hnext)
    unfold SnapshotFields.requested
    dsimp only
    split
    · exact .none_right
    · exact .refl _
  · refine validNext o h.updatedAt rfl rfl rfl (.inl rfl) (started_le o h.updatedAt) ?_ ?_ ?_ ?_
    · unfold SnapshotFields.requested
      dsimp only
      split
      · exact .inr rfl
      · exact .inl rfl
    · intro l' hl'
      have hcleared : target ∉ MarketOperationState.clearLeaseStates := by
        intro hclear
        unfold SnapshotFields.requested at hl'
        rw [if_pos hclear] at hl'
        cases hl'
      unfold SnapshotFields.requested at hl'
      rw [if_neg hcleared, h.lease] at hl'
      cases hl'
      refine ⟨h.claimed.1, h.active.1, ?_, h.claimed.2⟩
      change target ∈ _
      revert hcleared
      cases target <;> decide
    · intro howned
      have hrun : target = .running := by
        revert htarget howned
        unfold SnapshotFields.requested
        cases target <;> simp [MarketOperationState.workerTargets]
      refine ⟨?_, hstarted hrun⟩
      unfold SnapshotFields.requested
      rw [hrun, if_neg (by decide), h.lease]
      rfl
    · unfold SnapshotFields.requested
      rw [hresult.1]
      revert htarget
      cases target <;> simp [MarketOperationState.workerTargets, OutcomeFits]

/-- **`renew_lease`**. -/
theorem renewLeaseRow_returns (h : Owned t o ownerId now l) {renewed : WorkerLease} {expires : ℤ}
    (hrenewed : renewLease l ownerId now expires = .ok renewed) :
    Written t o { o.toSnapshotFields with
        lease := some renewed, updatedAt := now, recordVersion := o.recordVersion + 1 }
      (renewLeaseRow t o.id ownerId now renewed o.recordVersion) := by
  obtain ⟨⟨howner, hactive, -, hgrows⟩, howner', hclaimed, hheartbeat, hexpires⟩ :=
    renewLease_eq_ok.mp hrenewed
  have hwrite : renewLeaseRow t o.id ownerId now renewed o.recordVersion =
      t.updateRow o { o.toSnapshotFields with
        lease := some renewed, updatedAt := now, recordVersion := o.recordVersion + 1 } := by
    have hlease : o.updatedAt ≤ renewed.heartbeatAt := hheartbeat ▸ h.updatedAt
    rw [← hexpires] at hrenewed
    simp only [renewLeaseRow, h.locked, h.requireLease, hrenewed, require, ok_bind]
    rw [if_pos ⟨trivial, hlease⟩, ok_bind]
  rw [hwrite]
  refine .update h.lookup h.alone ?_ ?_
  · refine h.protected rfl rfl rfl rfl (.inr rfl) (.refl _) ?_ (.inl rfl)
    intro l₀ hl₀ l' hl'
    rw [h.lease] at hl₀
    cases hl₀
    cases hl'
    exact ⟨howner', hclaimed, hheartbeat ▸ hactive.1, hexpires ▸ hgrows.le⟩
  · refine validNext o h.updatedAt rfl rfl rfl (.inl rfl) (started_le o h.updatedAt) ?_ ?_ ?_
      o.valid.outcome
    · exact .inl (outcome_of_lease h.lease).2.2
    · intro l' hl'
      cases hl'
      exact ⟨hclaimed ▸ h.claimed.1, hheartbeat.le, o.leaseState h.lease, hclaimed ▸ h.claimed.2⟩
    · exact fun howned => ⟨rfl, (o.valid.owned howned).2⟩

/-- **`update_progress`**. -/
theorem updateProgress_returns (h : Owned t o ownerId now l) {progress : OperationProgress}
    {jobId : Uuid} (hnow : progress.updatedAt = now) (hextends : progress.Extends o.progress)
    (hcounters : progress.chunksCompleted + progress.chunksFailed ≤ o.intent.plan.chunksPlanned ∧
      progress.candlesPersisted ≤ progress.candlesReceived)
    (hjob : o.localJobId = none ∨ o.localJobId = some jobId) :
    Written t o { o.toSnapshotFields with
        progress := progress, localJobId := some jobId, updatedAt := now,
        recordVersion := o.recordVersion + 1 }
      (updateProgress t o.id ownerId now progress jobId o.recordVersion) := by
  have hbound : o.localJobId.getD jobId = jobId := by
    rcases hjob with hnone | hsome
    · rw [hnone]
      rfl
    · rw [hsome]
      rfl
  have hwrite : updateProgress t o.id ownerId now progress jobId o.recordVersion =
      t.updateRow o { o.toSnapshotFields with
        progress := progress, localJobId := some jobId, updatedAt := now,
        recordVersion := o.recordVersion + 1 } := by
    have hstamp : o.updatedAt ≤ progress.updatedAt ∧ progress.updatedAt ≤ now := by
      rw [hnow]
      exact ⟨h.updatedAt, le_rfl⟩
    simp only [updateProgress, h.locked, h.requireLease, require, requireProgressNotRegressed,
      if_pos hextends, if_pos hstamp, if_pos hjob, ok_bind, hbound]
  rw [hwrite]
  refine .update h.lookup h.alone ?_ ?_
  · refine h.protected rfl rfl rfl rfl ?_ hextends (.refl _) (.inl rfl)
    exact hjob.imp id Eq.symm
  · refine validNext o h.updatedAt rfl rfl rfl (.inr ⟨hnow, hcounters⟩)
      (started_le o h.updatedAt) ?_ ?_ o.valid.owned o.valid.outcome
    · exact .inl (outcome_of_lease h.lease).2.2
    · intro l' hl'
      obtain ⟨hcreated, hheartbeat, hstate, hstarted⟩ := o.valid.lease l' hl'
      exact ⟨hcreated, hheartbeat.trans h.updatedAt, hstate, hstarted⟩

/-- **`complete`**. -/
theorem complete_returns (h : Owned t o ownerId now l) (version checksum : ℕ)
    (hnext : MarketOperationState.completed ∈ o.state.normalTransitions) :
    Written t o { o.toSnapshotFields with
        state := .completed, lease := none, result := some ⟨version, checksum, now⟩,
        finishedAt := some now, updatedAt := now, recordVersion := o.recordVersion + 1 }
      (complete t o.id ownerId now ⟨version, checksum, now⟩ o.progress o.recordVersion) := by
  have hwrite : complete t o.id ownerId now ⟨version, checksum, now⟩ o.progress o.recordVersion =
      t.updateRow o { o.toSnapshotFields with
        state := .completed, lease := none, result := some ⟨version, checksum, now⟩,
        finishedAt := some now, updatedAt := now, recordVersion := o.recordVersion + 1 } := by
    have htransition : requireTransition o.state .completed = .ok () :=
      requireTransition_eq_ok.mpr hnext
    have hstamp : o.progress.updatedAt ≤ now ∧ now ≤ now :=
      ⟨o.valid.chronology.2.trans h.updatedAt, le_rfl⟩
    simp only [complete, h.locked, h.requireLease, htransition, requireProgressNotRegressed,
      require, if_pos (OperationProgress.Extends.refl o.progress), if_pos hstamp, ok_bind]
  rw [hwrite]
  refine .update h.lookup h.alone ?_ ?_
  · exact h.protected rfl rfl rfl rfl (.inr rfl) (.refl _) .none_right (.inr hnext)
  · refine validNext o h.updatedAt rfl rfl rfl (.inl rfl) (started_le o h.updatedAt) (.inr rfl)
      ?_ ?_ ?_
    · intro l' hl'
      cases hl'
    · rintro (hclaimed | hrunning)
      · cases hclaimed
      · cases hrunning
    · exact ⟨(outcome_of_lease h.lease).2.1, rfl, rfl⟩

/-! ### Claims -/

/-- The lease a claim writes. -/
def claimedLease (ownerId : Uuid) (now : ℤ) {expires : ℤ} (h : now < expires) : WorkerLease :=
  ⟨ownerId, now, now, expires, le_rfl, h⟩

theorem construct_claimedLease {expires : ℤ} (h : now < expires) :
    WorkerLease.construct ownerId now now expires = .ok (claimedLease ownerId now h) :=
  WorkerLease.construct_eq_ok.mpr ⟨rfl, rfl, rfl, rfl⟩

theorem AtRest.alone {planner : MarketDataPlanner} {w : World} (h : AtRest planner w) (id : Uuid) :
    Alone w.table id :=
  (h.around id).alone

/-- **`claim_next`** at rest: nothing is pending, or a pending row is claimed. -/
theorem claimNext_returns {planner : MarketDataPlanner} {w : World} (hrest : AtRest planner w)
    (locked : Uuid → Bool) {expires : ℤ} (hexpires : now < expires)
    (hstamps : ∀ o ∈ w.table.rows, o.state = .pending → o.updatedAt ≤ now) :
    claimNext w.table locked ownerId now expires = .ok (none, w.table) ∨
      ∃ o ∈ w.table.rows, ∃ o' t', o.state = .pending ∧
        claimNext w.table locked ownerId now expires = .ok (some o', t') ∧
        o'.toSnapshotFields = { o.toSnapshotFields with
          state := .claimed
          lease := some (claimedLease ownerId now hexpires)
          startedAt := some (o.startedAt.getD now)
          updatedAt := now
          recordVersion := o.recordVersion + 1 } ∧
        o'.id = o.id ∧ OneRow w.table t' o' := by
  unfold claimNext
  rw [construct_claimedLease hexpires, ok_bind]
  cases hfirst : firstRow (fun o => w.table.claimable ownerId o && !locked o.id) createdBefore
      w.table.rows with
  | none => exact .inl rfl
  | some o =>
    obtain ⟨hmem, hselect⟩ := firstRow_eq_some hfirst
    have hpending : o.state = .pending := by
      simp only [OperationTable.claimable, Bool.and_eq_true, beq_iff_eq] at hselect
      exact hselect.1.1.1
    have hle := hstamps o hmem hpending
    have hresult : o.result = none ∧ o.failure = none ∧ o.finishedAt = none := by
      have houtcome := o.valid.outcome
      rw [hpending] at houtcome
      exact houtcome
    have hstart : ∀ s ∈ some (o.startedAt.getD now), o.intent.createdAt ≤ s ∧ s ≤ now := by
      intro s hs
      cases hs
      cases hstarted : o.startedAt with
      | none => exact ⟨(o.valid.chronology.1.trans o.valid.chronology.2).trans hle, le_rfl⟩
      | some s => exact started_le o hle s hstarted
    let new : SnapshotFields := { o.toSnapshotFields with
      state := .claimed
      lease := some (claimedLease ownerId now hexpires)
      startedAt := some (o.startedAt.getD now)
      updatedAt := now
      recordVersion := o.recordVersion + 1 }
    have hwritten : Written w.table o new (w.table.updateRow o new) :=
      .update (OperationTable.lookup_of_mem hmem) (hrest.alone o.id) ?_ ?_
    · obtain ⟨o', t', hupdate, ho', hid, hone⟩ := hwritten
      refine .inr ⟨o, hmem, o', t', hpending, ?_, ho', hid, hone⟩
      dsimp only
      rw [hupdate]
      rfl
    · refine ⟨by rw [hpending]; decide, rfl, ?_, rfl, .inr rfl, .refl _, hle, ?_, ?_⟩
      · cases hstarted : o.startedAt with
        | none => exact .inr ⟨rfl, hpending, rfl⟩
        | some s =>
          have hkept : new.startedAt = some (o.startedAt.getD now) := rfl
          rw [hstarted] at hkept
          exact .inl hkept
      · rw [(hrest.rows o hmem (Option.some_ne_none _)).lease]
        intro l hl
        cases hl
      · rw [hpending]
        exact .inr (show MarketOperationState.claimed ∈ _ by decide)
    · refine validNext o hle rfl rfl rfl (.inl rfl) hstart (.inl hresult.2.2) ?_ ?_ hresult
      · intro l hl
        cases hl
        exact ⟨(o.valid.chronology.1.trans o.valid.chronology.2).trans hle, le_rfl,
          show MarketOperationState.claimed ∈ _ by decide, fun s hs => (hstart s hs).2⟩
      · exact fun _ => ⟨rfl, rfl⟩

/-- **`settle_or_claim_next_unclaimed_control`** at rest: there is no control, or one that never
started is settled, or one that has a job is claimed. -/
theorem settleOrClaim_returns {planner : MarketDataPlanner} {w : World}
    (hrest : AtRest planner w) (locked : Uuid → Bool) {expires : ℤ} (hexpires : now < expires)
    (hstamps : ∀ o ∈ w.table.rows, o.state.isControl = true → o.updatedAt ≤ now) :
    settleOrClaimNextUnclaimedControl w.table locked ownerId now expires = .ok (none, w.table) ∨
      ∃ o ∈ w.table.rows, ∃ o' t', o.state.isControl = true ∧
        settleOrClaimNextUnclaimedControl w.table locked ownerId now expires =
          .ok (some o', t') ∧
        ((o.startedAt = none ∧ o'.toSnapshotFields = o.toSnapshotFields.settledControl now) ∨
          (o.localJobId = some o.id ∧ o'.toSnapshotFields = { o.toSnapshotFields with
            lease := some (claimedLease ownerId now hexpires)
            updatedAt := now
            recordVersion := o.recordVersion + 1 })) ∧
        o'.id = o.id ∧ OneRow w.table t' o' := by
  unfold settleOrClaimNextUnclaimedControl
  rw [construct_claimedLease hexpires, ok_bind]
  cases hfirst : firstRow (fun o => w.table.unclaimedControl ownerId o && !locked o.id)
      createdBefore w.table.rows with
  | none => exact .inl rfl
  | some o =>
    obtain ⟨hmem, hselect⟩ := firstRow_eq_some hfirst
    simp only [OperationTable.unclaimedControl, Bool.and_eq_true, Bool.or_eq_true,
      decide_eq_true_eq] at hselect
    obtain ⟨⟨⟨hcontrol, -⟩, hkind⟩, -⟩ := hselect
    have hle := hstamps o hmem hcontrol
    have hnone := (hrest.rows o hmem (Option.some_ne_none _)).lease
    have hcreated := (o.valid.chronology.1.trans o.valid.chronology.2).trans hle
    have hresult : o.result = none ∧ o.failure = none ∧ o.finishedAt = none := by
      have houtcome := o.valid.outcome
      revert hcontrol houtcome
      cases o.state <;> simp [MarketOperationState.isControl, OutcomeFits]
    have hlive : o.state ∉ MarketOperationState.terminalStates := by
      revert hcontrol
      cases o.state <;> simp [MarketOperationState.isControl, MarketOperationState.terminalStates]
    have hstartless : ∀ lease, LeaseProtected o.lease lease := by
      intro lease l hl
      rw [hnone] at hl
      cases hl
    dsimp only
    by_cases hstarted : o.startedAt = none
    · have hwritten : Written w.table o (o.toSnapshotFields.settledControl now)
          (w.table.updateRow o (o.toSnapshotFields.settledControl now)) :=
        .update (OperationTable.lookup_of_mem hmem) (hrest.alone o.id) ?_ ?_
      · obtain ⟨o', t', hupdate, ho', hid, hone⟩ := hwritten
        refine .inr ⟨o, hmem, o', t', hcontrol, ?_, .inl ⟨hstarted, ho'⟩, hid, hone⟩
        rw [if_pos hstarted, hupdate]
        rfl
      · refine ⟨hlive, rfl, .inl rfl, rfl, .inr rfl, .refl _, hle, hstartless _, .inr ?_⟩
        unfold SnapshotFields.settledControl
        revert hcontrol
        cases o.state <;> simp [MarketOperationState.isControl,
          MarketOperationState.approvedTransitions]
      · refine validNext o hle rfl rfl rfl (.inl rfl) (started_le o hle) ?_ ?_ ?_ ?_
        · unfold SnapshotFields.settledControl
          dsimp only
          split
          · exact .inr rfl
          · exact .inl hresult.2.2
        · unfold SnapshotFields.settledControl
          intro l hl
          rw [hnone] at hl
          cases hl
        · unfold SnapshotFields.settledControl
          dsimp only
          intro howned
          split at howned
          · simp at howned
          · simp at howned
        · unfold SnapshotFields.settledControl
          rw [hresult.1, hresult.2.1, hresult.2.2]
          revert hcontrol
          cases o.state <;> simp [MarketOperationState.isControl, OutcomeFits]
    · have hjob : o.localJobId = some o.id := by
        rcases hkind with ⟨⟨hno, -⟩, -⟩ | ⟨⟨⟨-, hjob⟩, -⟩, -⟩
        · exact absurd (Option.isNone_iff_eq_none.mp hno) hstarted
        · exact hjob
      have hleaseState : o.state ∈ MarketOperationState.leaseStates := by
        revert hcontrol
        cases o.state <;> simp [MarketOperationState.isControl, MarketOperationState.leaseStates]
      let new : SnapshotFields := { o.toSnapshotFields with
        lease := some (claimedLease ownerId now hexpires)
        updatedAt := now
        recordVersion := o.recordVersion + 1 }
      have hwritten : Written w.table o new (w.table.updateRow o new) :=
        .update (OperationTable.lookup_of_mem hmem) (hrest.alone o.id) ?_ ?_
      · obtain ⟨o', t', hupdate, ho', hid, hone⟩ := hwritten
        refine .inr ⟨o, hmem, o', t', hcontrol, ?_, .inr ⟨hjob, ho'⟩, hid, hone⟩
        rw [if_neg hstarted, hupdate]
        rfl
      · exact ⟨hlive, rfl, .inl rfl, rfl, .inr rfl, .refl _, hle, hstartless _, .inl rfl⟩
      · refine validNext o hle rfl rfl rfl (.inl rfl) (started_le o hle) (.inl hresult.2.2) ?_ ?_
          o.valid.outcome
        · intro l hl
          cases hl
          exact ⟨hcreated, le_rfl, hleaseState, fun s hs => (started_le o hle s hs).2⟩
        · rintro (hclaimed | hrunning)
          · rw [show o.state = .claimed from hclaimed] at hcontrol
            cases hcontrol
          · rw [show o.state = .running from hrunning] at hcontrol
            cases hcontrol

/-- Nothing has expired at rest. -/
theorem claimNextExpired_returns {planner : MarketDataPlanner} {w : World}
    (hrest : AtRest planner w) (locked : Uuid → Bool) {expires : ℤ} (hexpires : now < expires) :
    claimNextExpired w.table locked ownerId now expires = .ok (none, w.table) := by
  have hnone : firstRow (fun o => w.table.expiredRow ownerId now o && !locked o.id) expiredBefore
      w.table.rows = none := by
    refine firstRow_eq_none.mpr fun o ho => ?_
    have hrow := hrest.rows o ho (Option.some_ne_none _)
    have hstate := hrow.state
    have hlease := hrow.lease
    unfold OperationTable.expiredRow SnapshotFields.leaseExpired
    rw [hlease]
    revert hstate
    cases o.state <;> simp
  unfold claimNextExpired
  rw [construct_claimedLease hexpires, ok_bind, hnone]
  rfl

end

end Operations
end DryTrade
