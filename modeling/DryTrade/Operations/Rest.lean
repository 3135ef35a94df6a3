import DryTrade.Operations.Requests

/-!
# Operations at rest and in service

Between two runs of a worker every operation is at rest: it holds no lease, its state tells
what was asked for last, and its local job is the one of its plan, paused or complete.  While
the worker serves an operation the others stay at rest, and its own row holds the lease of the
worker.  Requests and submissions keep both.

## Main definitions

* `PlannedAs`, `JobOf`, `Follows` — the plan of an operation, and the job and the row that follow
  it.
* `OpRest`, `AtRest` — an operation and a world at rest.
* `Serving` — a world in which the worker serves an operation.

## Main results

* `AtRest.disturbed`, `Serving.moved`, `Serving.held` — what the environment cannot break.
-/

namespace DryTrade
namespace Operations

open MarketData

/-! ### The plan, the job and the row of an operation -/

/-- The intent was submitted with the plan. -/
structure PlannedAs (planner : MarketDataPlanner) (intent : OperationIntent)
    (plan : BackfillPlan) : Prop where
  backfill : planner.backfill intent.request.dataset intent.request.dataRange
    (operationJobType intent.request.operationType) intent.operationId intent.createdAt = .ok plan
  checksum : planner.checksum plan = intent.request.planChecksum
  summary : intent.plan = planner.planSummary plan intent.createdAt

/-- The receipt is one of the chunk. -/
structure ReceiptFits (plan : BackfillPlan) (receipt : ChunkCommitReceipt)
    (chunk : BackfillChunk) : Prop where
  jobId : receipt.jobId = plan.jobId
  chunkIndex : receipt.chunkIndex = chunk.index
  dataset : receipt.dataset = plan.dataset
  dataRange : receipt.dataRange = chunk.dataRange
  counts : receipt.storedCount + receipt.duplicateCount ≤ receipt.fetchedCount
  fetched : receipt.fetchedCount = chunk.expectedCandles

/-- The record is one of the plan's job, and the chunks it counts have their receipts. -/
structure JobOf (plan : BackfillPlan) (receipts : List ChunkCommitReceipt)
    (record : MarketJobRecord) : Prop where
  jobId : record.jobId = plan.jobId
  payload : record.payload = plan.payload
  unfinished : record.status ≠ .completed → record.nextChunkIndex < plan.chunks.length
  fetched : record.candlesFetched =
    ((plan.chunks.take record.nextChunkIndex).map (·.expectedCandles)).sum
  receipts : ∀ i < record.nextChunkIndex, ∃ receipt ∈ receipts,
    receipt.jobId = plan.jobId ∧ receipt.chunkIndex = i

/-- The counters of a row do not exceed those of its job. -/
structure Mirrors (progress : OperationProgress) (record : JobFields) : Prop where
  chunks : progress.chunksCompleted ≤ record.nextChunkIndex
  failed : progress.chunksFailed = 0
  received : progress.candlesReceived ≤ record.candlesFetched
  persisted : progress.candlesPersisted ≤ record.candlesStored
  requests : progress.requestsCompleted ≤ record.requestCount

/-- What a row says of its job. -/
def Publishes (o : SnapshotFields) : Option MarketJobRecord → Prop
  | none => o.localJobId = none ∧ o.progress.unpublished
  | some record => (o.localJobId = none ∨ o.localJobId = some o.id) ∧
      Mirrors o.progress record.toJobFields

/-- The part of the world that is stored in files. -/
structure Files where
  jobs : JobCatalog
  candles : MarketDatasetSelector → ℤ → Option ℕ
  receipts : List ChunkCommitReceipt
  locks : List (MarketDatasetSelector × Uuid)
  heartbeatErrors : List (Uuid × OperationError)

/-- The files of a world. -/
def World.files (w : World) : Files :=
  ⟨w.jobs, w.candles, w.receipts, w.locks, w.heartbeatErrors⟩

/-- The row and the files of an operation follow its plan. -/
structure Follows (planner : MarketDataPlanner) (plan : BackfillPlan) (o : SnapshotFields)
    (f : Files) : Prop where
  planned : PlannedAs planner o.intent plan
  receipts : ∀ receipt ∈ f.receipts, receipt.jobId = plan.jobId →
    ∃ chunk ∈ plan.chunks, ReceiptFits plan receipt chunk
  job : ∀ record, f.jobs.lookup o.id = some record → JobOf plan f.receipts record
  publishes : Publishes o (f.jobs.lookup o.id)

section

variable {planner : MarketDataPlanner} {intent : OperationIntent} {plan : BackfillPlan}
  {o o' : SnapshotFields} {f f' : Files}

theorem PlannedAs.jobId (h : PlannedAs planner intent plan) : plan.jobId = intent.operationId :=
  (backfill_eq_ok h.backfill).1

theorem PlannedAs.dataset (h : PlannedAs planner intent plan) :
    plan.dataset = intent.request.dataset :=
  (backfill_eq_ok h.backfill).2.1

theorem PlannedAs.jobType (h : PlannedAs planner intent plan) :
    plan.jobType = operationJobType intent.request.operationType :=
  (backfill_eq_ok h.backfill).2.2.2.1

/-- An operation is no repair. -/
theorem PlannedAs.jobType_ne (h : PlannedAs planner intent plan) : plan.jobType ≠ .gapRepair := by
  rw [h.jobType]
  cases intent.request.operationType <;> decide

theorem Follows.jobId (h : Follows planner plan o f) : plan.jobId = o.id := h.planned.jobId

/-- A row with the same intent, progress and job follows the plan as well. -/
theorem Follows.row (h : Follows planner plan o f) (hintent : o'.intent = o.intent)
    (hprogress : o'.progress = o.progress) (hjob : o'.localJobId = o.localJobId) :
    Follows planner plan o' f := by
  have hid : o'.id = o.id := congrArg OperationIntent.operationId hintent
  refine ⟨hintent ▸ h.planned, h.receipts, fun record hrecord => h.job record (hid ▸ hrecord), ?_⟩
  have hpublishes := h.publishes
  rw [← hid] at hpublishes
  revert hpublishes
  generalize f.jobs.lookup o'.id = found
  cases found with
  | none =>
    rintro ⟨hnone, hprog⟩
    exact ⟨hjob.trans hnone, hprogress ▸ hprog⟩
  | some record =>
    rintro ⟨hbound, hmirrors⟩
    exact ⟨by rw [hjob, hid]; exact hbound, hprogress ▸ hmirrors⟩

/-- Files that agree on the job of an operation. -/
structure Files.SameJob (f f' : Files) (id : Uuid) : Prop where
  job : f'.jobs.lookup id = f.jobs.lookup id
  receipts : ∀ receipt : ChunkCommitReceipt, receipt.jobId = id →
    (receipt ∈ f'.receipts ↔ receipt ∈ f.receipts)

/-- Files that agree on its job serve a row as well. -/
theorem Follows.files (h : Follows planner plan o f) (hsame : f.SameJob f' o.id) :
    Follows planner plan o f' := by
  refine ⟨h.planned, fun receipt hreceipt hjob => ?_, fun record hrecord => ?_, ?_⟩
  · exact h.receipts receipt ((hsame.receipts receipt (hjob.trans h.jobId)).mp hreceipt) hjob
  · rw [hsame.job] at hrecord
    obtain ⟨hjob, hpayload, hunfinished, hfetched, hreceipts⟩ := h.job record hrecord
    refine ⟨hjob, hpayload, hunfinished, hfetched, fun i hi => ?_⟩
    obtain ⟨receipt, hmem, hreceipt, hindex⟩ := hreceipts i hi
    exact ⟨receipt, (hsame.receipts receipt (hreceipt.trans h.jobId)).mpr hmem, hreceipt, hindex⟩
  · rw [hsame.job]
    exact h.publishes

end

/-! ### At rest -/

/-- An operation nobody works on. -/
structure OpRest (planner : MarketDataPlanner) (history : List (Uuid × ControlEvent)) (f : Files)
    (o : MarketOperationSnapshot) : Prop where
  lease : o.lease = none
  state : o.state ≠ .recovering
  tells : StateTells o.state (lastEvent history o.id)
  follows : o.state ∉ MarketOperationState.terminalStates →
    ∃ plan, Follows planner plan o.toSnapshotFields f ∧
      ∀ record, f.jobs.lookup o.id = some record →
        record.status = .paused ∨ record.status = .completed

/-- Every operation but the one that is served is at rest. -/
structure Around (planner : MarketDataPlanner) (served : Option Uuid) (w : World) : Prop where
  rows : ∀ o ∈ w.table.rows, some o.id ≠ served → OpRest planner w.history w.files o
  running : ∀ jobId record, some jobId ≠ served → w.jobs.lookup jobId = some record →
    record.status ≠ .running
  known : ∀ jobId record, w.jobs.lookup jobId = some record → w.table.lookup jobId ≠ none
  receipts : ∀ receipt ∈ w.receipts, w.table.lookup receipt.jobId ≠ none
  quiet : w.heartbeatErrors = []

/-- Every operation is at rest, and no dataset is locked. -/
structure AtRest (planner : MarketDataPlanner) (w : World) : Prop
    extends Around planner none w where
  locks : w.locks = []

section

variable {planner : MarketDataPlanner} {w w' : World} {id : Uuid} {served : Option Uuid}
  {history : List (Uuid × ControlEvent)} {f f' : Files} {o old new : MarketOperationSnapshot}
  {t t' : OperationTable} {event : ControlEvent}

theorem AtRest.around (h : AtRest planner w) (id : Uuid) : Around planner (some id) w where
  rows o ho _ := h.rows o ho (Option.some_ne_none _)
  running jobId record _ := h.running jobId record (Option.some_ne_none _)
  known := h.known
  receipts := h.receipts
  quiet := h.quiet

/-- The world is at rest again when the last operation is. -/
theorem Around.atRest (h : Around planner (some id) w)
    (hown : ∀ o, w.table.lookup id = some o → OpRest planner w.history w.files o)
    (hrunning : ∀ record, w.jobs.lookup id = some record → record.status ≠ .running)
    (hlocks : w.locks = []) : AtRest planner w where
  rows o ho _ := by
    by_cases hid : o.id = id
    · exact hown o (hid ▸ OperationTable.lookup_of_mem ho)
    · exact h.rows o ho fun heq => hid (Option.some.inj heq)
  running jobId record _ hrecord := by
    by_cases hid : jobId = id
    · exact hrunning record (hid ▸ hrecord)
    · exact h.running jobId record (fun heq => hid (Option.some.inj heq)) hrecord
  known := h.known
  receipts := h.receipts
  quiet := h.quiet
  locks := hlocks

/-- A row at rest is no active execution. -/
theorem OpRest.activeExecution (h : OpRest planner history f o) : o.activeExecution = false := by
  have howned := o.valid.owned
  have hlease := h.lease
  have hstate := h.state
  unfold SnapshotFields.activeExecution
  rw [hlease] at howned ⊢
  revert howned hstate
  cases o.state <;> simp [MarketOperationState.isActive, MarketOperationState.isControl]

theorem Around.alone (h : Around planner (some id) w) : Alone w.table id := by
  intro o ho hid
  have hrest := h.rows o ho fun heq => hid (Option.some.inj heq)
  exact ⟨hrest.lease, hrest.activeExecution⟩

/-- Events of other operations leave a row at rest. -/
theorem OpRest.elsewhere (h : OpRest planner history f o) (hid : id ≠ o.id) :
    OpRest planner (history ++ [(id, event)]) f o :=
  ⟨h.lease, h.state, by rw [lastEvent_append_of_ne hid]; exact h.tells, h.follows⟩

/-- Files that agree on its job leave a row at rest. -/
theorem OpRest.files (h : OpRest planner history f o) (hsame : f.SameJob f' o.id) :
    OpRest planner history f' o := by
  refine ⟨h.lease, h.state, h.tells, fun hlive => ?_⟩
  obtain ⟨plan, hfollows, hstatus⟩ := h.follows hlive
  exact ⟨plan, hfollows.files hsame, fun record hrecord => hstatus record (hsame.job ▸ hrecord)⟩

theorem RowMoved.id_eq (h : RowMoved old new event) : new.id = old.id :=
  congrArg OperationIntent.operationId h.intent

/-- A row an effective request has left was not terminal before. -/
theorem RowMoved.live (h : RowMoved old new event)
    (hlive : new.state ∉ MarketOperationState.terminalStates) :
    old.state ∉ MarketOperationState.terminalStates := by
  rcases h.state with rfl | ⟨-, htransition⟩
  · exact hlive
  · revert htransition
    cases old.state <;> simp [MarketOperationState.normalTransitions,
      MarketOperationState.terminalStates]

/-- A request leaves a row at rest. -/
theorem OpRest.moved (h : OpRest planner history f old) (hmoved : RowMoved old new event) :
    OpRest planner (history ++ [(new.id, event)]) f new := by
  refine ⟨hmoved.lease.trans h.lease, ?_, ?_, fun hlive => ?_⟩
  · rcases hmoved.state with rfl | ⟨-, htransition⟩
    · exact h.state
    · revert htransition
      cases old.state <;> cases new.state <;> decide
  · rw [lastEvent_append_self]
    exact hmoved.tells
  · obtain ⟨plan, hfollows, hstatus⟩ := h.follows (hmoved.live hlive)
    refine ⟨plan, hfollows.row hmoved.intent hmoved.progress hmoved.localJobId, ?_⟩
    rw [hmoved.id_eq]
    exact hstatus

/-- The row a submission appends is at rest. -/
theorem OpRest.submitted {plan : BackfillPlan} {request : MarketOperationRequest} {now : ℤ}
    (hplan : planner.backfill request.dataset request.dataRange
      (operationJobType request.operationType) id now = .ok plan)
    (hchecksum : planner.checksum plan = request.planChecksum)
    (ho : o.toSnapshotFields = submittedRow id request (planner.planSummary plan now) now)
    (hjob : f.jobs.lookup id = none)
    (hreceipts : ∀ receipt ∈ f.receipts, receipt.jobId ≠ id) :
    OpRest planner (history ++ [(id, .submitted)]) f o := by
  have hid : o.id = id := by rw [SnapshotFields.id, ho, submittedRow]
  refine ⟨by rw [ho]; rfl, (by rw [ho]; intro h; cases h), ?_, fun _ => ⟨plan, ?_, ?_⟩⟩
  · rw [hid, lastEvent_append_self, ho]
    exact .inl rfl
  · have hplanned : PlannedAs planner o.intent plan := by
      rw [ho]
      exact ⟨hplan, hchecksum, rfl⟩
    refine ⟨hplanned, fun receipt hreceipt hjobId => ?_, fun record hrecord => ?_, ?_⟩
    · exact absurd (hjobId.trans (hplanned.jobId.trans hid)) (hreceipts receipt hreceipt)
    · rw [hid, hjob] at hrecord
      cases hrecord
    · rw [hid, hjob, ho]
      exact ⟨rfl, rfl, rfl, rfl, rfl, rfl⟩
  · intro record hrecord
    rw [hid, hjob] at hrecord
    cases hrecord

/-- The rows of a table keep their identifiers when one is appended. -/
theorem lookup_appended (hrows : t'.rows = t.rows ++ [o]) :
    t'.lookup id = (t.lookup id).or (if o.id = id then some o else none) := by
  unfold OperationTable.lookup
  rw [hrows, List.find?_append]
  by_cases h : o.id = id <;> simp [h]

/-- A row that is appended is new. -/
theorem lookup_fresh (hrows : t'.rows = t.rows ++ [o]) : t.lookup o.id = none := by
  have hkey := t'.primaryKey
  rw [hrows, List.map_append, List.nodup_append] at hkey
  cases hlookup : t.lookup o.id with
  | none => rfl
  | some r =>
    have hmem : r.id ∈ t.rows.map fun o => o.id :=
      List.mem_map.mpr ⟨r, OperationTable.mem_of_lookup hlookup, rfl⟩
    exact absurd (OperationTable.lookup_id hlookup) (hkey.2.2 _ hmem _ (by simp))

/-- A change of one row leaves the others where they are. -/
theorem OneRow.lookup_ne_none (h : OneRow t t' o) (hid : t.lookup id ≠ none) :
    t'.lookup id ≠ none := by
  rw [h.lookup]
  split
  · exact Option.some_ne_none _
  · exact hid

/-- **The other operations stay at rest** whatever the environment does. -/
theorem Around.disturbed (h : Around planner served w) (hmove : Disturbance planner w w') :
    Around planner served w' := by
  cases hmove with
  | tick => exact ⟨h.rows, h.running, h.known, h.receipts, h.quiet⟩
  | ambient => exact ⟨h.rows, h.running, h.known, h.receipts, h.quiet⟩
  | request operationId action seen version now =>
    rcases request_cases w operationId action seen version now with heq | hcase
    · rw [heq]
      exact h
    · obtain ⟨old, new, t, hlookup, hone, hmoved, heq⟩ := hcase
      have hid : new.id = operationId := hmoved.id_eq.trans (OperationTable.lookup_id hlookup)
      rw [heq]
      refine ⟨fun o ho hne => ?_, h.running, fun jobId record hrecord => ?_,
        fun receipt hreceipt => ?_, h.quiet⟩
      · rcases hone.rows o ho with rfl | ⟨hold, hother⟩
        · have hrest := h.rows old (OperationTable.mem_of_lookup hlookup)
            (hmoved.id_eq ▸ hne)
          rw [← hid]
          exact hrest.moved hmoved
        · exact (h.rows o hold hne).elsewhere (hid ▸ hother.symm)
      · exact hone.lookup_ne_none (h.known jobId record hrecord)
      · exact hone.lookup_ne_none (h.receipts receipt hreceipt)
  | submission operationId request now =>
    rcases submission_cases planner w operationId request now with heq | hcase
    · rw [heq]
      exact h
    · obtain ⟨plan, o, t, hplan, hchecksum, ho, hrows, heq⟩ := hcase
      have hid : o.id = operationId := by rw [SnapshotFields.id, ho, submittedRow]
      have hfresh : w.table.lookup operationId = none := hid ▸ lookup_fresh hrows
      have hkept : ∀ jobId, w.table.lookup jobId ≠ none → t.lookup jobId ≠ none := by
        intro jobId hjobId
        obtain ⟨r, hr⟩ := Option.ne_none_iff_exists'.mp hjobId
        rw [lookup_appended hrows, hr]
        exact Option.some_ne_none _
      rw [heq]
      refine ⟨fun r hr hne => ?_, h.running, fun jobId record hrecord =>
        hkept jobId (h.known jobId record hrecord), fun receipt hreceipt =>
        hkept _ (h.receipts receipt hreceipt), h.quiet⟩
      rw [show t.rows = w.table.rows ++ [o] from hrows] at hr
      rcases List.mem_append.mp hr with hold | hnew
      · have hother : operationId ≠ r.id := by
          rintro rfl
          rw [OperationTable.lookup_of_mem hold] at hfresh
          cases hfresh
        exact (h.rows r hold hne).elsewhere hother
      · cases List.mem_singleton.mp hnew
        refine OpRest.submitted hplan hchecksum ho ?_ fun receipt hreceipt hjob => ?_
        · cases hlookup : w.jobs.lookup operationId with
          | none => exact hlookup
          | some record => exact absurd hfresh (h.known _ record hlookup)
        · exact absurd hfresh (hjob ▸ h.receipts receipt hreceipt)

/-- The environment does not touch the files. -/
theorem Disturbance.files (hmove : Disturbance planner w w') : w'.files = w.files := by
  cases hmove with
  | tick => rfl
  | ambient => rfl
  | request operationId action seen version now =>
    rcases request_cases w operationId action seen version now with heq | ⟨_, _, _, _, _, _, heq⟩
    all_goals exact (congrArg World.files heq).trans rfl
  | submission operationId request now =>
    rcases submission_cases planner w operationId request now with heq | ⟨_, _, _, _, _, _, _, heq⟩
    all_goals exact (congrArg World.files heq).trans rfl

/-- The clock does not go back. -/
theorem Disturbance.clock (hmove : Disturbance planner w w') : w.clock ≤ w'.clock := by
  cases hmove with
  | tick h => exact h
  | ambient => exact le_rfl
  | request operationId action seen version now =>
    rcases request_cases w operationId action seen version now with heq | ⟨_, _, _, _, _, _, heq⟩
    all_goals rw [heq]
  | submission operationId request now =>
    rcases submission_cases planner w operationId request now with heq | ⟨_, _, _, _, _, _, _, heq⟩
    all_goals rw [heq]

/-- **Operations at rest stay at rest** whatever the environment does. -/
theorem AtRest.disturbed (h : AtRest planner w) (hmove : Disturbance planner w w') :
    AtRest planner w' :=
  ⟨h.toAround.disturbed hmove, (congrArg Files.locks hmove.files).trans h.locks⟩

theorem AtRest.disturbances (h : AtRest planner w) (hmoves : Disturbed planner w w') :
    AtRest planner w' := by
  induction hmoves with
  | refl => exact h
  | tail _ hmove ih => exact ih.disturbed hmove

end

/-! ### In service -/

/-- The worker serves the operation of row `o` by its plan. -/
structure Serving (worker : Worker) (plan : BackfillPlan) (o : MarketOperationSnapshot)
    (f : Files) (w : World) : Prop where
  lookup : w.table.lookup o.id = some o
  files : w.files = f
  lease : ∃ l, o.lease = some l ∧ l.ownerId = worker.ownerId ∧
    l.leaseExpiresAt = l.heartbeatAt + worker.leaseDuration
  state : o.state = .claimed ∨ o.state = .running ∨ o.state.isControl = true
  tells : StateTells o.state (lastEvent w.history o.id)
  follows : Follows worker.planner plan o.toSnapshotFields f
  clock : o.intent.createdAt ≤ w.clock
  around : Around worker.planner (some o.id) w

/-- A control that was observed is still there. -/
def Steady (before after : MarketOperationState) : Prop :=
  before.isControl = true → after = before

section

variable {worker : Worker} {plan : BackfillPlan} {o old new : MarketOperationSnapshot} {f : Files}
  {w w' : World} {event : ControlEvent} {point : Point} {id : Uuid}

theorem Steady.refl (s : MarketOperationState) : Steady s s := fun _ => rfl

theorem Steady.trans {a b c : MarketOperationState} (h : Steady a b) (h' : Steady b c) :
    Steady a c := by
  intro ha
  have hb := h ha
  rw [h' (hb ▸ ha), hb]

/-- A request cannot undo a control of a leased row, nor start it. -/
theorem RowMoved.leased (h : RowMoved old new event) (hlease : old.lease.isSome = true)
    (hstate : old.state = .claimed ∨ old.state = .running ∨ old.state.isControl = true)
    (hevent : event = .pauseAccepted ∨ event = .resumeAccepted ∨ event = .cancelAccepted) :
    new = old ∨ (Steady old.state new.state ∧ new.state.isControl = true) := by
  rcases h.state with heq | ⟨hne, htransition⟩
  · exact .inl heq
  · refine .inr ?_
    have hleased : new.state ∈ MarketOperationState.leaseStates := by
      obtain ⟨l, hl⟩ := Option.isSome_iff_exists.mp (h.lease ▸ hlease)
      exact new.leaseState hl
    have htells := h.tells
    revert hstate hne htransition hleased htells
    rcases hevent with rfl | rfl | rfl <;> cases old.state <;> cases new.state <;>
      simp [StateTells, Steady, MarketOperationState.isControl,
        MarketOperationState.normalTransitions, MarketOperationState.leaseStates]

theorem ControlAction.event_cases (action : ControlAction) : action.event = .pauseAccepted ∨
    action.event = .resumeAccepted ∨ action.event = .cancelAccepted := by
  cases action <;> simp [ControlAction.event]

/-- **The worker goes on serving** whatever the environment does, and an observed control
stays. -/
theorem Serving.disturbed (h : Serving worker plan o f w)
    (hmove : Disturbance worker.planner w w') :
    ∃ o', Serving worker plan o' f w' ∧ o'.intent = o.intent ∧ Steady o.state o'.state ∧
      (o.state ≠ .claimed → o'.state ≠ .claimed) := by
  have hfiles : w'.files = f := hmove.files.trans h.files
  have hclock := h.clock.trans hmove.clock
  have haround := h.around.disturbed hmove
  suffices hrow : ∃ o', w'.table.lookup o.id = some o' ∧ o'.intent = o.intent ∧
      o'.progress = o.progress ∧ o'.localJobId = o.localJobId ∧ o'.lease = o.lease ∧
      (o'.state = o.state ∨ o'.state.isControl = true) ∧
      Steady o.state o'.state ∧ StateTells o'.state (lastEvent w'.history o.id) by
    obtain ⟨o', hlookup, hintent, hprogress, hjob, hlease, hstate, hsteady, htells⟩ := hrow
    have hid : o'.id = o.id := congrArg OperationIntent.operationId hintent
    refine ⟨o', ⟨hid ▸ hlookup, hfiles, hlease ▸ h.lease, ?_, hid ▸ htells,
      h.follows.row hintent hprogress hjob, hintent ▸ hclock, hid ▸ haround⟩, hintent, hsteady, ?_⟩
    · rcases hstate with heq | hcontrol
      · exact heq ▸ h.state
      · exact .inr (.inr hcontrol)
    · rcases hstate with heq | hcontrol
      · exact heq ▸ id
      · intro _ hclaimed
        rw [hclaimed] at hcontrol
        cases hcontrol
  have hsame : w'.table = w.table → w'.history = w.history → ∃ o',
      w'.table.lookup o.id = some o' ∧ o'.intent = o.intent ∧
      o'.progress = o.progress ∧ o'.localJobId = o.localJobId ∧ o'.lease = o.lease ∧
      (o'.state = o.state ∨ o'.state.isControl = true) ∧
      Steady o.state o'.state ∧ StateTells o'.state (lastEvent w'.history o.id) := by
    intro htable hhistory
    rw [htable, hhistory]
    exact ⟨o, h.lookup, rfl, rfl, rfl, rfl, .inl rfl, .refl _, h.tells⟩
  cases hmove with
  | tick => exact hsame rfl rfl
  | ambient => exact hsame rfl rfl
  | request operationId action seen version now =>
    rcases request_cases w operationId action seen version now with heq | hcase
    · exact hsame (congrArg World.table heq) (congrArg World.history heq)
    · obtain ⟨old, new, t, hlookup, hone, hmoved, heq⟩ := hcase
      rw [heq]
      have hold := OperationTable.lookup_id hlookup
      by_cases hid : operationId = o.id
      · rw [hid, h.lookup] at hlookup
        cases hlookup
        obtain ⟨l, hl, -⟩ := h.lease
        refine ⟨new, ?_, hmoved.intent, hmoved.progress, hmoved.localJobId, hmoved.lease, ?_⟩
        · exact hmoved.id_eq ▸ hone.lookup_self
        · have htells : StateTells new.state
              (lastEvent (w.history ++ [(operationId, action.event)]) o.id) := by
            rw [hid, lastEvent_append_self]
            exact hmoved.tells
          rcases hmoved.leased (by rw [hl]; rfl) h.state action.event_cases with rfl | hcontrol
          · exact ⟨.inl rfl, .refl _, htells⟩
          · exact ⟨.inr hcontrol.2, hcontrol.1, htells⟩
      · have hne : o.id ≠ new.id := fun heq' => hid ((hmoved.id_eq.trans hold ▸ heq').symm)
        refine ⟨o, (hone.lookup_of_ne hne).trans h.lookup, rfl, rfl, rfl, rfl, .inl rfl, .refl _, ?_⟩
        rw [lastEvent_append_of_ne hid]
        exact h.tells
  | submission operationId request now =>
    rcases submission_cases worker.planner w operationId request now with heq | hcase
    · exact hsame (congrArg World.table heq) (congrArg World.history heq)
    · obtain ⟨plan', new, t, -, -, hnew, hrows, heq⟩ := hcase
      rw [heq]
      have hid : operationId ≠ o.id := by
        rintro rfl
        have hnewId : new.id = o.id := by rw [SnapshotFields.id, hnew, submittedRow]
        have hfresh := lookup_fresh hrows
        rw [hnewId, h.lookup] at hfresh
        cases hfresh
      refine ⟨o, ?_, rfl, rfl, rfl, rfl, .inl rfl, .refl _, ?_⟩
      · change t.lookup o.id = some o
        rw [lookup_appended hrows, h.lookup]
        rfl
      · rw [lastEvent_append_of_ne hid]
        exact h.tells

/-- What is left after any number of moves. -/
theorem Serving.moved (h : Serving worker plan o f w) (hmove : CalmMove worker.planner point w w') :
    ∃ o', Serving worker plan o' f w' ∧ o'.intent = o.intent ∧ Steady o.state o'.state ∧
      (o.state ≠ .claimed → o'.state ≠ .claimed) := by
  obtain hmoves := hmove.moves
  clear hmove
  induction hmoves with
  | refl => exact ⟨o, h, rfl, .refl _, id⟩
  | tail _ hmove ih =>
    obtain ⟨o₁, h₁, hintent₁, hsteady₁, hclaimed₁⟩ := ih
    obtain ⟨o₂, h₂, hintent₂, hsteady₂, hclaimed₂⟩ := h₁.disturbed hmove
    exact ⟨o₂, h₂, hintent₂.trans hintent₁, hsteady₁.trans hsteady₂,
      fun hne => hclaimed₂ (hclaimed₁ hne)⟩

/-- **A row that is held stays as it was read**, its lease is live and its stamp is not ahead of
the clock. -/
theorem Serving.held (h : Serving worker plan o f w) (hmove : CalmMove worker.planner point w w')
    (hpoint : point = .held o.id ∨ point = .renewing o.id) :
    Serving worker plan o f w' ∧ o.updatedAt ≤ w'.clock ∧
      ∀ l ∈ o.lease, l.ActiveAt w'.clock := by
  have hlookup : w'.table.lookup o.id = some o := (hmove.held o.id hpoint).trans h.lookup
  obtain ⟨o', h', hintent, -⟩ := h.moved hmove
  have heq : o' = o := by
    have hlookup' := h'.lookup
    rw [SnapshotFields.id, hintent, hlookup] at hlookup'
    exact (Option.some.inj hlookup').symm
  rw [heq] at h'
  exact ⟨h', hmove.stamps o.id hpoint o hlookup, fun l hl => hmove.lease o.id hpoint o hlookup l hl⟩

end

end Operations
end DryTrade
