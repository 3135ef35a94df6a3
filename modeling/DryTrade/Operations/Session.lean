import DryTrade.Operations.Writes

/-!
# The session of a healthy worker

What the functions of the session do while the worker serves an operation in a calm environment:
each returns, the worker goes on serving, and an observed control is still there afterwards.

## Main definitions

* `calm` — what the worker relies on.
* `InService` — the worker serves the operation of a plan, and an observed control stands.
* `Settled` — the operation has ended and everything is at rest.

## Main results

* `pollControl_returns`, `heartbeat_returns`, `checkpoint_returns` — the worker goes on serving.
* `start_returns`, `finishPause_returns`, `finishCancel_returns`, `finishSuccess_returns` — it ends.
-/

namespace DryTrade
namespace Operations

open MarketData Program

/-- A calm environment. -/
def calm (worker : Worker) : RelyGuarantee World Point where
  rely := CalmMove worker.planner
  guarantee _ _ _ := True

/-! ### Primitive actions -/

section

variable {worker : Worker} {α : Type} {M : α → World → Prop} {w : World} {point : Point}

theorem returns_look {f : World → Except OperationError α}
    (h : ∀ w', CalmMove worker.planner point w w' → ∃ a, f w' = .ok a ∧ M a w') :
    Returns (calm worker) (look point f) w M := by
  refine Returns.read fun w' hmove => ⟨trivial, ?_⟩
  obtain ⟨a, ha, hM⟩ := h w' hmove
  exact ⟨a, by rw [ha]; rfl, hM⟩

theorem returns_change {f : World → Except OperationError α × World}
    (h : ∀ w', CalmMove worker.planner point w w' → ∃ a, (f w').1 = .ok a ∧ M a (f w').2) :
    Returns (calm worker) (change point f) w M := by
  refine Returns.action fun w' hmove => ⟨trivial, ?_⟩
  obtain ⟨a, ha, hM⟩ := h w' hmove
  exact ⟨a, by dsimp only; rw [ha]; rfl, hM⟩

theorem returns_transaction {f : World → Except OperationError (α × OperationTable)}
    (h : ∀ w', CalmMove worker.planner point w w' →
      ∃ a t, f w' = .ok (a, t) ∧ M a { w' with table := t }) :
    Returns (calm worker) (transaction point f) w M := by
  refine returns_change fun w' hmove => ?_
  obtain ⟨a, t, ha, hM⟩ := h w' hmove
  refine ⟨a, ?_, ?_⟩
  · rw [ha]
    rfl
  · rw [ha]
    exact hM

theorem returns_compute {r : Except OperationError α} {a : α} (hr : r = .ok a) (h : M a w) :
    Returns (calm worker) (compute r) w M := by
  refine Returns.ofExcept (a := a) ?_ h
  rw [hr]
  rfl

theorem returns_ensure {condition : Prop} [Decidable condition] {e : OperationError}
    {M : Unit → World → Prop} (hc : condition) (h : M () w) :
    Returns (calm worker) (ensure condition e) w M :=
  returns_compute (require_eq_ok.mpr hc) h

theorem returns_ensure_bind {β : Type} {condition : Prop} [Decidable condition]
    {e : OperationError} {q : Unit → Work β} {M : β → World → Prop} (hc : condition)
    (h : Returns (calm worker) (q ()) w M) :
    Returns (calm worker) (ensure condition e >>= q) w M :=
  Returns.bind (M := fun _ t => t = w) (returns_ensure hc rfl) fun _ _ ht => ht ▸ h

theorem returns_compute_bind {β : Type} {r : Except OperationError α} {a : α} {q : α → Work β}
    {M : β → World → Prop} (hr : r = .ok a) (h : Returns (calm worker) (q a) w M) :
    Returns (calm worker) (compute r >>= q) w M :=
  Returns.bind (M := fun b t => b = a ∧ t = w) (returns_compute hr ⟨rfl, rfl⟩)
    fun _ _ ⟨hb, ht⟩ => hb ▸ ht ▸ h

/-- A handler of exceptions is not reached. -/
theorem returns_exceptError {p : Work α} {handler : OperationError → Work α}
    (h : Returns (calm worker) p w M) : Returns (calm worker) (exceptError p handler) w M :=
  Returns.tryCatch h

theorem returns_exceptOwnership {p : Work α} {handler : OperationError → Work α}
    (h : Returns (calm worker) p w M) :
    Returns (calm worker) (Worker.exceptOwnership p handler) w M :=
  returns_exceptError h

end

/-! ### Serving, step by step -/

section

variable {worker : Worker} {plan : BackfillPlan} {o o' : MarketOperationSnapshot} {f : Files}
  {w w' : World} {t : OperationTable} {point : Point} {now : ℤ} {l : WorkerLease}

/-- The lease of a row at the time of a write. -/
structure Ready (worker : Worker) (o : MarketOperationSnapshot) (now : ℤ) (l : WorkerLease) :
    Prop where
  lease : o.lease = some l
  owner : l.ownerId = worker.ownerId
  expiry : l.leaseExpiresAt = l.heartbeatAt + worker.leaseDuration
  active : l.ActiveAt now
  updatedAt : o.updatedAt ≤ now

theorem Serving.owned (h : Serving worker plan o f w) (hready : Ready worker o now l) :
    Owned w.table o worker.ownerId now l :=
  ⟨h.lookup, h.around.alone, hready.lease, hready.owner, hready.active, hready.updatedAt⟩

/-- The clock read for a write. -/
theorem returns_readClock {M : ℤ → World → Prop} (h : Serving worker plan o f w)
    (hpoint : point = .held o.id ∨ point = .renewing o.id)
    (hM : ∀ w' l, Serving worker plan o f w' → CalmMove worker.planner point w w' →
      Ready worker o w'.clock l → M w'.clock w') :
    Returns (calm worker) (readClock point) w M := by
  refine returns_look fun w' hmove => ⟨w'.clock, rfl, ?_⟩
  obtain ⟨hserving, hstamp, hactive⟩ := h.held hmove hpoint
  obtain ⟨l, hl, howner, hexpiry⟩ := h.lease
  exact hM w' l hserving hmove ⟨hl, howner, hexpiry, hactive l hl, hstamp⟩

theorem returns_heldClock (h : Serving worker plan o f w) :
    Returns (calm worker) (readClock (.held o.id)) w fun now t =>
      ∃ l, Serving worker plan o f t ∧ Ready worker o now l :=
  returns_readClock h (.inl rfl) fun _ l hserving _ hready => ⟨l, hserving, hready⟩

/-- The transaction of a write. -/
theorem returns_write {M : MarketOperationSnapshot → World → Prop} {new : SnapshotFields}
    {g : World → Except OperationError (MarketOperationSnapshot × OperationTable)}
    (h : Serving worker plan o f w) (hready : Ready worker o now l)
    (hwrite : ∀ w', Owned w'.table o worker.ownerId now l → Written w'.table o new (g w'))
    (hM : ∀ w' o' t, Serving worker plan o f w' → o'.toSnapshotFields = new → o'.id = o.id →
      OneRow w'.table t o' → M o' { w' with table := t }) :
    Returns (calm worker) (transaction (.held o.id) g) w M := by
  refine returns_transaction fun w' hmove => ?_
  have hserving := (h.held hmove (.inl rfl)).1
  obtain ⟨o', t, hok, ho', hid, hone⟩ := hwrite w' (hserving.owned hready)
  exact ⟨o', t, hok, hM w' o' t hserving ho' hid hone⟩

/-- A write of the served row leaves the others at rest. -/
theorem Around.written {planner : MarketDataPlanner} (h : Around planner (some o.id) w)
    (hone : OneRow w.table t o') (hid : o'.id = o.id) :
    Around planner (some o'.id) { w with table := t } where
  rows r hr hne := by
    rcases hone.rows r hr with rfl | ⟨hold, -⟩
    · exact absurd rfl hne
    · exact h.rows r hold (hid ▸ hne)
  running jobId record hne := h.running jobId record (hid ▸ hne)
  known jobId record hrecord := hone.lookup_ne_none (h.known jobId record hrecord)
  receipts receipt hreceipt := hone.lookup_ne_none (h.receipts receipt hreceipt)
  quiet := h.quiet

/-- The worker goes on serving after a write that keeps its lease. -/
theorem Serving.written (h : Serving worker plan o f w) (hone : OneRow w.table t o')
    (hintent : o'.intent = o.intent)
    (hlease : ∃ l, o'.lease = some l ∧ l.ownerId = worker.ownerId ∧
      l.leaseExpiresAt = l.heartbeatAt + worker.leaseDuration)
    (hstate : o'.state = .claimed ∨ o'.state = .running ∨ o'.state.isControl = true)
    (htells : StateTells o'.state (lastEvent w.history o.id))
    (hfollows : Follows worker.planner plan o'.toSnapshotFields f) :
    Serving worker plan o' f { w with table := t } := by
  have hid : o'.id = o.id := congrArg OperationIntent.operationId hintent
  exact ⟨hone.lookup_self, h.files, hlease, hstate, hid ▸ htells, hfollows, hintent ▸ h.clock,
    h.around.written hone hid⟩

/-- The state a row must be in for what was observed of it. -/
def Observes (observed : BackfillControl) (state : MarketOperationState) : Prop :=
  match observed with
  | .proceed => state = .running ∨ state.isControl = true
  | .pause => state = .pauseRequested
  | .cancel => state = .cancelRequested

/-- The worker serves an operation by its plan, with the files `f`; a control that was observed
still stands. -/
def InService (worker : Worker) (plan : BackfillPlan) (intent : OperationIntent)
    (observed : BackfillControl) (f : Files) (w : World) : Prop :=
  ∃ o, Serving worker plan o f w ∧ o.intent = intent ∧ Observes observed o.state

/-- A snapshot of the served row the worker carries; the row may have moved on since. -/
structure Carried (worker : Worker) (intent : OperationIntent) (o : MarketOperationSnapshot) :
    Prop where
  intent : o.intent = intent
  job : o.localJobId = none ∨ o.localJobId = some o.id
  owner : o.lease.any (·.ownerId = worker.ownerId) = true

variable {intent : OperationIntent} {observed : BackfillControl} {carried : MarketOperationSnapshot}

/-- What was observed stays observed. -/
theorem Observes.steady {a b : MarketOperationState} (h : Observes observed a)
    (hb : b = .claimed ∨ b = .running ∨ b.isControl = true) (hne : a ≠ .claimed → b ≠ .claimed)
    (hsteady : Steady a b) : Observes observed b := by
  cases observed with
  | proceed =>
    have ha : a ≠ .claimed := by
      rintro rfl
      rcases h with h | h <;> cases h
    exact hb.resolve_left (hne ha)
  | pause => exact (hsteady (by rw [show a = .pauseRequested from h]; rfl)).trans h
  | cancel => exact (hsteady (by rw [show a = .cancelRequested from h]; rfl)).trans h

theorem Observes.serving (h : Observes observed o.state) :
    o.state = .claimed ∨ o.state = .running ∨ o.state.isControl = true := by
  cases observed with
  | proceed => exact .inr h
  | pause => exact .inr (.inr (by rw [show o.state = .pauseRequested from h]; rfl))
  | cancel => exact .inr (.inr (by rw [show o.state = .cancelRequested from h]; rfl))

/-- The calm environment keeps the worker in service. -/
theorem InService.moved (h : InService worker plan intent observed f w)
    (hmove : CalmMove worker.planner point w w') : InService worker plan intent observed f w' := by
  obtain ⟨o, hserving, hintent, hobserves⟩ := h
  obtain ⟨o', hserving', hsame, hsteady, hclaimed⟩ := hserving.moved hmove
  exact ⟨o', hserving', hsame.trans hintent, hobserves.steady hserving'.state hclaimed hsteady⟩

theorem Publishes.job {progress : SnapshotFields} {found : Option MarketJobRecord}
    (h : Publishes progress found) :
    progress.localJobId = none ∨ progress.localJobId = some progress.id := by
  cases found with
  | none => exact .inl h.1
  | some record => exact h.1

theorem Serving.ownsLease (h : Serving worker plan o f w) :
    o.lease.any (·.ownerId = worker.ownerId) = true := by
  obtain ⟨l, hl, howner, -⟩ := h.lease
  rw [hl]
  simpa using howner

/-- The served row, as the worker carries it on. -/
theorem Serving.snapshot (h : Serving worker plan o f w) : Carried worker o.intent o :=
  ⟨rfl, h.follows.publishes.job, h.ownsLease⟩

/-- **The row as its owner reads it.** -/
theorem getOwned_returns (h : InService worker plan intent observed f w)
    (hcarried : carried.intent = intent) :
    Returns (calm worker) (worker.getOwned carried) w fun cur t =>
      Serving worker plan cur f t ∧ cur.intent = intent ∧ Observes observed cur.state := by
  refine Returns.bind (M := fun cur t => Serving worker plan cur f t ∧ cur.intent = intent ∧
    Observes observed cur.state) (returns_look fun w' hmove => ?_) fun cur t ht => ?_
  · obtain ⟨o, hserving, hintent, hobserves⟩ := h.moved hmove
    have hid : carried.id = o.id := by rw [SnapshotFields.id, hcarried, ← hintent]
    refine ⟨o, ?_, hserving, hintent, hobserves⟩
    rw [hid, hserving.lookup]
  · exact returns_ensure_bind ht.1.ownsLease (.pure ht)

/-- A renewal goes through when the clock has moved on since the last one. -/
theorem Ready.renewLease (h : Ready worker o now l) (hlater : l.heartbeatAt < now) :
    ∃ renewed, renewLease l worker.ownerId now (worker.expiry now) = .ok renewed ∧
      renewed.ownerId = worker.ownerId ∧ renewed.heartbeatAt = now ∧
      renewed.leaseExpiresAt = now + worker.leaseDuration := by
  have hpos := worker.leaseDuration_pos
  have hexpiry : now < worker.expiry now := by
    unfold Worker.expiry
    omega
  let renewed : WorkerLease :=
    ⟨l.ownerId, l.claimedAt, now, worker.expiry now, l.claimed_le_heartbeat.trans hlater.le, hexpiry⟩
  refine ⟨renewed, renewLease_eq_ok.mpr ⟨⟨h.owner, h.active, hexpiry, ?_⟩, rfl, rfl, rfl, rfl⟩,
    h.owner, rfl, rfl⟩
  rw [h.expiry]
  unfold Worker.expiry
  omega

/-- **A renewal keeps the worker in service.** -/
theorem renew_returns (h : Serving worker plan o f w) :
    Returns (calm worker) (worker.renew o) w fun o' t =>
      Serving worker plan o' f t ∧ o'.intent = o.intent ∧ o'.state = o.state := by
  refine (returns_readClock h (.inr rfl) (M := fun now t => ∃ l, Serving worker plan o f t ∧
    Ready worker o now l ∧ l.heartbeatAt < now) fun w' l hserving hmove hready => ?_).bind
    fun now t ⟨l, hserving, hready, hlater⟩ => ?_
  · exact ⟨l, hserving, hready, hmove.renewing o.id rfl o hserving.lookup l hready.lease⟩
  · obtain ⟨renewed, hrenewed, howner, hheartbeat, hexpires⟩ := hready.renewLease hlater
    rw [hready.lease]
    refine returns_compute_bind hrenewed ?_
    refine returns_write hserving hready (fun w' howned => renewLeaseRow_returns howned hrenewed)
      fun w' o' t' hserving' ho' hid hone => ?_
    have hintent : o'.intent = o.intent := by rw [ho']
    have hstate : o'.state = o.state := by rw [ho']
    refine ⟨hserving'.written hone hintent ?_ (hstate ▸ h.state) (hstate ▸ hserving'.tells) ?_,
      hintent, hstate⟩
    · exact ⟨renewed, by rw [ho'], howner, by rw [hexpires, hheartbeat]⟩
    · exact hserving'.follows.row hintent (by rw [ho']) (by rw [ho'])

/-- **`poll_control`** tells what stands. -/
theorem pollControl_returns (h : InService worker plan intent observed f w)
    (hcarried : carried.intent = intent) :
    Returns (calm worker) (worker.pollControl carried) w fun r t =>
      Serving worker plan r.1 f t ∧ r.1.intent = intent ∧
      (observed = .proceed ∨ r.2 = observed) ∧
      match r.2 with
        | .proceed => r.1.state = .running
        | .pause => r.1.state = .pauseRequested
        | .cancel => r.1.state = .cancelRequested := by
  refine (getOwned_returns h hcarried).bind fun cur t hcur => ?_
  obtain ⟨hserving, hintent, hobserves⟩ := hcur
  by_cases hpause : cur.state = .pauseRequested
  · rw [if_pos hpause]
    refine .pure ⟨hserving, hintent, ?_, hpause⟩
    cases observed with
    | proceed => exact .inl rfl
    | pause => exact .inr rfl
    | cancel => exact absurd (hpause.symm.trans hobserves) (by decide)
  · rw [if_neg hpause]
    by_cases hcancel : cur.state = .cancelRequested
    · rw [if_pos hcancel]
      refine .pure ⟨hserving, hintent, ?_, hcancel⟩
      cases observed with
      | proceed => exact .inl rfl
      | pause => exact absurd hobserves hpause
      | cancel => exact .inr rfl
    · rw [if_neg hcancel]
      have hproceed : observed = .proceed := by
        cases observed with
        | proceed => rfl
        | pause => exact absurd hobserves hpause
        | cancel => exact absurd hobserves hcancel
      have hrunning : cur.state = .running := by
        rw [hproceed] at hobserves
        refine hobserves.resolve_right fun hcontrol => ?_
        revert hpause hcancel hcontrol
        cases cur.state <;> simp [MarketOperationState.isControl]
      refine returns_ensure_bind (.inr hrunning) ?_
      refine (renew_returns hserving).bind fun renewed t' hrenewed => ?_
      obtain ⟨hserving', hintent', hstate'⟩ := hrenewed
      exact .pure ⟨hserving', hintent'.trans hintent, .inl hproceed, hstate'.trans hrunning⟩

/-- **`heartbeat`** keeps the worker in service. -/
theorem heartbeat_returns (h : InService worker plan intent observed f w)
    (hcarried : carried.intent = intent) :
    Returns (calm worker) (worker.heartbeat carried) w fun o t =>
      InService worker plan intent observed f t ∧ Carried worker intent o := by
  refine (getOwned_returns h hcarried).bind fun cur t ⟨hserving, hintent, hobserves⟩ => ?_
  obtain ⟨l, hl, -⟩ := hserving.lease
  refine returns_ensure_bind (cur.leaseState hl) ?_
  refine (renew_returns hserving).mono fun renewed t' ⟨hserving', hintent', hstate'⟩ => ?_
  have hsame : renewed.intent = intent := hintent'.trans hintent
  exact ⟨⟨renewed, hserving', hsame, hstate' ▸ hobserves⟩, hsame ▸ hserving'.snapshot⟩

/-! ### Checkpoints -/

section

variable {record : MarketJobRecord} {receipts : List ChunkCommitReceipt}

/-- The record of the plan is bound to a row that follows the plan. -/
theorem requireBoundRecord_of_jobOf {o : SnapshotFields}
    (hplanned : PlannedAs worker.planner o.intent plan) (hjob : JobOf plan receipts record)
    (hbound : o.localJobId = none ∨ o.localJobId = some o.id) :
    worker.requireBoundRecord o record.toJobFields = .ok () := by
  have hid : record.jobId = o.localJobId.getD o.id := by
    rw [hjob.jobId, hplanned.jobId]
    rcases hbound with hnone | hsome
    · rw [hnone]
      rfl
    · rw [hsome]
      rfl
  have hset : record.dataset = o.dataset :=
    (congrArg PlanPayload.dataset hjob.payload).trans hplanned.dataset
  have htype : record.jobType = operationJobType o.intent.request.operationType :=
    (congrArg PlanPayload.jobType hjob.payload).trans hplanned.jobType
  have hlength : record.chunkRanges.length = o.intent.plan.chunksPlanned := by
    rw [hplanned.summary,
      show record.chunkRanges = plan.chunks.map (·.dataRange) from
        congrArg PlanPayload.chunkRanges hjob.payload, List.length_map]
    rfl
  have hexpected : record.candlesExpected = o.intent.plan.estimatedCandles := by
    rw [hplanned.summary]
    exact congrArg PlanPayload.expectedCandles hjob.payload
  have hdigest : worker.planner.digest record.payload = o.intent.plan.checksum := by
    rw [hjob.payload, hplanned.summary]
    rfl
  simp only [Worker.requireBoundRecord, require, if_pos hdigest]
  rw [if_pos ⟨hid, hset, htype, hlength, hexpected⟩]
  rfl

/-- The counters a checkpoint publishes. -/
def publishedProgress (record : JobFields) (now : ℤ) : OperationProgress :=
  ⟨record.nextChunkIndex, 0, record.candlesFetched, record.candlesStored, record.requestCount, now⟩

theorem operationProgressFromRecord_of_jobOf {o : SnapshotFields} (now : ℤ)
    (hplanned : PlannedAs worker.planner o.intent plan) (hjob : JobOf plan receipts record)
    (hbound : o.localJobId = none ∨ o.localJobId = some o.id)
    (hmirrors : Mirrors o.progress record.toJobFields) :
    worker.operationProgressFromRecord o record.toJobFields now =
        .ok (publishedProgress record.toJobFields now) ∧
      record.nextChunkIndex + 0 ≤ o.intent.plan.chunksPlanned ∧
      record.candlesStored ≤ record.candlesFetched := by
  have hnext : record.nextChunkIndex + 0 ≤ o.intent.plan.chunksPlanned := by
    rw [hplanned.summary]
    change _ ≤ plan.chunks.length
    have hranges : record.chunkRanges = plan.chunks.map (·.dataRange) :=
      congrArg PlanPayload.chunkRanges hjob.payload
    have hle := record.valid.next
    rw [hranges, List.length_map] at hle
    exact hle
  have hstored : record.candlesStored ≤ record.candlesFetched :=
    (Nat.le_add_right _ _).trans record.valid.counts
  refine ⟨?_, hnext, hstored⟩
  unfold Worker.operationProgressFromRecord Worker.constructProgress require
  rw [requireBoundRecord_of_jobOf hplanned hjob hbound, ok_bind, hmirrors.failed]
  dsimp only
  rw [if_pos ⟨hnext, hstored⟩]
  rfl

theorem extends_publishedProgress {o : MarketOperationSnapshot}
    (hmirrors : Mirrors o.progress record.toJobFields) (hle : o.updatedAt ≤ now) :
    (publishedProgress record.toJobFields now).Extends o.progress where
  updatedAt := o.valid.chronology.2.trans hle
  chunksCompleted := hmirrors.chunks
  chunksFailed := hmirrors.failed.le
  candlesReceived := hmirrors.received
  candlesPersisted := hmirrors.persisted
  requestsCompleted := hmirrors.requests

/-- A row that has just mirrored its job still follows the plan. -/
theorem Follows.mirrored {planner : MarketDataPlanner} {o o' : SnapshotFields} (now : ℤ)
    (h : Follows planner plan o f) (hrecord : f.jobs.lookup o.id = some record)
    (hintent : o'.intent = o.intent)
    (hprogress : o'.progress = publishedProgress record.toJobFields now)
    (hjob : o'.localJobId = some o.id) : Follows planner plan o' f := by
  have hid : o'.id = o.id := congrArg OperationIntent.operationId hintent
  refine ⟨hintent ▸ h.planned, h.receipts, fun r hr => h.job r (hid ▸ hr), ?_⟩
  rw [hid, hrecord]
  refine ⟨.inr (hid ▸ hjob), ?_⟩
  rw [hprogress]
  exact ⟨le_rfl, rfl, le_rfl, le_rfl, le_rfl⟩

/-- **`checkpoint`** mirrors the job and keeps the worker in service. -/
theorem checkpoint_returns (h : InService worker plan intent observed f w)
    (hcarried : carried.intent = intent)
    (hrecord : f.jobs.lookup intent.operationId = some record) :
    Returns (calm worker) (worker.checkpoint carried record) w fun o t =>
      Serving worker plan o f t ∧ o.intent = intent ∧ Observes observed o.state := by
  refine (getOwned_returns h hcarried).bind fun cur t hcur => ?_
  obtain ⟨hserving, hintent, hobserves⟩ := hcur
  have hid : cur.id = intent.operationId := congrArg OperationIntent.operationId hintent
  rw [← hid] at hrecord
  have hstate : cur.state = .claimed ∨ cur.state = .running ∨ cur.state = .pauseRequested ∨
      cur.state = .cancelRequested := by
    rcases hserving.state with hclaimed | hrunning | hcontrol
    · exact .inl hclaimed
    · exact .inr (.inl hrunning)
    · revert hcontrol
      cases cur.state <;> simp [MarketOperationState.isControl]
  have hfollows := hserving.follows
  have hjob := hfollows.job record hrecord
  have hpublishes := hfollows.publishes
  rw [hrecord] at hpublishes
  obtain ⟨hbound, hmirrors⟩ := hpublishes
  refine returns_ensure_bind hstate ?_
  refine (returns_heldClock hserving).bind fun now t' hclock => ?_
  obtain ⟨l, hserving', hready⟩ := hclock
  obtain ⟨hprogress, hcounters⟩ := operationProgressFromRecord_of_jobOf now hfollows.planned hjob
    hbound hmirrors
  have hjobId : record.jobId = cur.id := hjob.jobId.trans hfollows.jobId
  refine returns_compute_bind hprogress ?_
  refine returns_write hserving' hready (fun w' howned => updateProgress_returns howned rfl
    (extends_publishedProgress hmirrors hready.updatedAt) hcounters (by rw [hjobId]; exact hbound))
    fun w' o' t'' hserving'' ho' hid' hone => ?_
  have hintent' : o'.intent = cur.intent := by rw [ho']
  have hstate' : o'.state = cur.state := by rw [ho']
  refine ⟨hserving''.written hone hintent' ?_ (hstate' ▸ hserving''.state)
    (hstate' ▸ hserving''.tells) ?_, hintent'.trans hintent, hstate' ▸ hobserves⟩
  · rw [ho']
    exact hserving''.lease
  · exact hserving''.follows.mirrored now hrecord hintent' (by rw [ho'])
      (by rw [ho', ← hjobId])

end

/-! ### The end of a service -/

/-- The operation has ended in `state`, and everything is at rest. -/
structure Settled (worker : Worker) (intent : OperationIntent) (state : MarketOperationState)
    (o : MarketOperationSnapshot) (w : World) : Prop where
  rest : AtRest worker.planner w
  lookup : w.table.lookup o.id = some o
  intent : o.intent = intent
  state : o.state = state

/-- The last write of a service. -/
theorem Serving.settled (h : Serving worker plan o f w) (hone : OneRow w.table t o')
    (hintent : o'.intent = o.intent) (hlease : o'.lease = none) (hstate : o'.state ≠ .recovering)
    (htells : StateTells o'.state (lastEvent w.history o.id))
    (hfollows : o'.state ∉ MarketOperationState.terminalStates →
      Follows worker.planner plan o'.toSnapshotFields f ∧
        ∀ record, f.jobs.lookup o.id = some record →
          record.status = .paused ∨ record.status = .completed)
    (hrunning : ∀ record, f.jobs.lookup o.id = some record → record.status ≠ .running)
    (hlocks : f.locks = []) :
    Settled worker o.intent o'.state o' { w with table := t } := by
  have hid : o'.id = o.id := congrArg OperationIntent.operationId hintent
  have hfiles := h.files
  refine ⟨(h.around.written hone hid).atRest (fun r hr => ?_) (fun record hrecord => ?_) ?_,
    hone.lookup_self, hintent, rfl⟩
  · have hsame : r = o' := by
      have hself := hone.lookup_self
      rw [show t.lookup o'.id = some r from hr] at hself
      exact Option.some.inj hself
    rw [hsame]
    refine ⟨hlease, hstate, hid ▸ htells, fun hlive => ⟨plan, ?_⟩⟩
    change Follows _ _ _ w.files ∧ ∀ record, w.files.jobs.lookup o'.id = some record → _
    rw [hfiles, hid]
    exact hfollows hlive
  · refine hrunning record ?_
    rw [← hid, ← hfiles]
    exact hrecord
  · exact (congrArg Files.locks hfiles).trans hlocks

/-- **`finish_pause`**. -/
theorem finishPause_returns (h : Serving worker plan o f w) (hstate : o.state = .pauseRequested)
    (hjob : ∀ record, f.jobs.lookup o.id = some record →
      record.status = .paused ∨ record.status = .completed) (hlocks : f.locks = []) :
    Returns (calm worker) (worker.finishPause o) w fun o' t =>
      Settled worker o.intent .paused o' t := by
  refine returns_ensure_bind h.ownsLease ?_
  rw [if_neg (by rw [hstate]; decide)]
  refine returns_ensure_bind hstate ?_
  refine (returns_heldClock h).bind fun now t ⟨l, hserving, hready⟩ => ?_
  refine returns_write hserving hready (fun w' howned => requestState_returns howned
    .paused (by decide) (by rw [hstate]; decide) (fun h => by cases h))
    fun w' o' t' hserving' ho' hid hone => ?_
  have hpaused : o'.state = .paused := by rw [ho']; rfl
  have hintent : o'.intent = o.intent := by rw [ho']; rfl
  have htells := hserving'.tells
  rw [hstate] at htells
  rw [← hpaused]
  refine hserving'.settled hone hintent (by rw [ho']; rfl) (by rw [hpaused]; decide)
    (by rw [hpaused]; exact htells) (fun _ => ⟨?_, hjob⟩) (fun record hrecord => ?_) hlocks
  · exact hserving'.follows.row hintent (by rw [ho']; rfl) (by rw [ho']; rfl)
  · rcases hjob record hrecord with hs | hs <;> rw [hs] <;> decide

/-- **`finish_cancel`**. -/
theorem finishCancel_returns (h : Serving worker plan o f w) (hstate : o.state = .cancelRequested)
    (hjob : ∀ record, f.jobs.lookup o.id = some record → record.status ≠ .running)
    (hlocks : f.locks = []) :
    Returns (calm worker) (worker.finishCancel o) w fun o' t =>
      Settled worker o.intent .cancelled o' t := by
  refine returns_ensure_bind h.ownsLease ?_
  rw [if_neg (by rw [hstate]; decide)]
  refine returns_ensure_bind hstate ?_
  refine (returns_heldClock h).bind fun now t ⟨l, hserving, hready⟩ => ?_
  refine returns_write hserving hready (fun w' howned => requestState_returns howned
    .cancelled (by decide) (by rw [hstate]; decide) (fun h => by cases h))
    fun w' o' t' hserving' ho' hid hone => ?_
  have hcancelled : o'.state = .cancelled := by rw [ho']; rfl
  have htells := hserving'.tells
  rw [hstate] at htells
  rw [← hcancelled]
  refine hserving'.settled hone (by rw [ho']; rfl) (by rw [ho']; rfl) (by rw [hcancelled]; decide)
    (by rw [hcancelled]; exact htells) (fun hlive => ?_) hjob hlocks
  rw [hcancelled] at hlive
  exact absurd (by decide) hlive

/-- **`finish_success`**. -/
theorem finishSuccess_returns (h : Serving worker plan o f w)
    (hnext : MarketOperationState.completed ∈ o.state.normalTransitions) (version checksum : ℕ)
    (hjob : ∀ record, f.jobs.lookup o.id = some record → record.status ≠ .running)
    (hlocks : f.locks = []) :
    Returns (calm worker) (worker.finishSuccess o version checksum) w fun o' t =>
      Settled worker o.intent .completed o' t ∧
        StateTells o.state (lastEvent t.history o.id) := by
  refine returns_ensure_bind h.ownsLease ?_
  refine (returns_heldClock h).bind fun now t ⟨l, hserving, hready⟩ => ?_
  refine returns_write hserving hready (fun w' howned => complete_returns howned version checksum
    hnext) fun w' o' t' hserving' ho' hid hone => ⟨?_, hserving'.tells⟩
  have hcompleted : o'.state = .completed := by rw [ho']
  rw [← hcompleted]
  refine hserving'.settled hone (by rw [ho']) (by rw [ho']) (by rw [hcompleted]; decide)
    (by rw [hcompleted]; trivial) (fun hlive => ?_) hjob hlocks
  rw [hcompleted] at hlive
  exact absurd (by decide) hlive

/-- **`start`** of a claimed operation. -/
theorem start_returns (h : Serving worker plan o f w) (hstate : o.state = .claimed) :
    Returns (calm worker) (worker.start o) w fun o' t =>
      InService worker plan o.intent .proceed f t ∧ Carried worker o.intent o' := by
  refine returns_ensure_bind h.ownsLease ?_
  rw [if_neg (by rw [hstate]; decide)]
  refine returns_ensure_bind hstate ?_
  refine (returns_heldClock h).bind fun now t ⟨l, hserving, hready⟩ => ?_
  refine returns_write hserving hready (fun w' howned => requestState_returns howned
    .running (by decide) (by rw [hstate]; decide)
    (fun _ => (o.valid.owned (.inl hstate)).2)) fun w' o' t' hserving' ho' hid hone => ?_
  have hrunning : o'.state = .running := by rw [ho']; rfl
  have hintent : o'.intent = o.intent := by rw [ho']; rfl
  have htells := hserving'.tells
  rw [hstate] at htells
  have hwritten := hserving'.written hone hintent (by rw [ho']; exact hserving'.lease)
    (.inr (.inl hrunning)) (by rw [hrunning]; exact htells)
    (hserving'.follows.row hintent (by rw [ho']; rfl) (by rw [ho']; rfl))
  exact ⟨⟨o', hwritten, hintent, .inl hrunning⟩, hintent ▸ hwritten.snapshot⟩

end

end Operations
end DryTrade
