import DryTrade.Operations.Environment

/-!
# What a request does to the table

An accepted request of an administrator changes the state of one row, its stamps and its
version; its lease, its progress and its job stay.  What the request asked for can be read off
the new state.

## Main definitions

* `StateTells` — the last event a state goes with.
* `RowMoved` — how a request may change a row.
* `OneRow` — a table that differs from another in one row.

## Main results

* `request_cases`, `submission_cases` — what a request and a submission do.
-/

namespace DryTrade
namespace Operations

open MarketData

/-- Which last event goes with a state that still can move. -/
def StateTells : MarketOperationState → Option ControlEvent → Prop
  | .pending, e => e = some .submitted ∨ e = some .resumeAccepted
  | .claimed, e | .running, e => e = some .claimed
  | .pauseRequested, e | .paused, e => e = some .pauseAccepted
  | .cancelRequested, e | .cancelled, e => e = some .cancelAccepted
  | .completed, _ | .failed, _ | .recovering, _ => True

theorem lastEvent_append_self (history : List (Uuid × ControlEvent)) (id : Uuid)
    (e : ControlEvent) : lastEvent (history ++ [(id, e)]) id = some e := by
  unfold lastEvent
  rw [List.filter_append]
  simp

theorem lastEvent_append_of_ne {history : List (Uuid × ControlEvent)} {id id' : Uuid}
    {e : ControlEvent} (h : id' ≠ id) :
    lastEvent (history ++ [(id', e)]) id = lastEvent history id := by
  unfold lastEvent
  rw [List.filter_append]
  simp [h]

/-- The table `t'` is `t` with `o` in the place of the row with its identifier. -/
structure OneRow (t t' : OperationTable) (o : MarketOperationSnapshot) : Prop where
  rows : ∀ r ∈ t'.rows, r = o ∨ (r ∈ t.rows ∧ r.id ≠ o.id)
  lookup : ∀ id, t'.lookup id = if id = o.id then some o else t.lookup id

section

variable {t t' : OperationTable} {o old : MarketOperationSnapshot} {id : Uuid}

theorem OneRow.refl (h : t.lookup id = some o) : OneRow t t o where
  rows r hr := by
    by_cases hid : r.id = o.id
    · have hlookup := OperationTable.lookup_of_mem hr
      rw [hid, OperationTable.lookup_id h, h] at hlookup
      exact .inl (Option.some.inj hlookup).symm
    · exact .inr ⟨hr, hid⟩
  lookup id' := by
    split
    · next hid => rw [hid, OperationTable.lookup_id h, h]
    · rfl

theorem OneRow.of_replaced (h : t.lookup old.id = some old) (hid : o.id = old.id)
    (hrows : t'.rows = replaceRow t.rows o) : OneRow t t' o where
  rows _ hr := mem_replaced hrows hr
  lookup id' := by
    rw [lookup_replaced hrows]
    by_cases heq : o.id = id'
    · rw [if_pos heq, if_pos heq.symm, ← heq, hid, h]
      rfl
    · rw [if_neg heq, if_neg fun h => heq h.symm]

theorem OneRow.lookup_self (h : OneRow t t' o) : t'.lookup o.id = some o := by
  rw [h.lookup, if_pos rfl]

theorem OneRow.lookup_of_ne (h : OneRow t t' o) (hne : id ≠ o.id) :
    t'.lookup id = t.lookup id := by
  rw [h.lookup, if_neg hne]

theorem OneRow.trans {t'' : OperationTable} {o' : MarketOperationSnapshot} (h : OneRow t t' o)
    (h' : OneRow t' t'' o') (hid : o'.id = o.id) : OneRow t t'' o' where
  rows r hr := by
    rcases h'.rows r hr with rfl | ⟨hr', hne⟩
    · exact .inl rfl
    · rcases h.rows r hr' with rfl | hr''
      · exact absurd hid.symm hne
      · exact .inr ⟨hr''.1, hne⟩
  lookup id' := by
    rw [h'.lookup, h.lookup, hid]
    split <;> rfl

/-- The other rows stay alone. -/
theorem OneRow.alone (h : OneRow t t' o) (halone : Alone t o.id) : Alone t' o.id := by
  intro r hr hne
  rcases h.rows r hr with rfl | ⟨hr', -⟩
  · exact absurd rfl hne
  · exact halone r hr' hne

end

/-- How an accepted request may change a row. -/
structure RowMoved (old new : MarketOperationSnapshot) (event : ControlEvent) : Prop where
  intent : new.intent = old.intent
  progress : new.progress = old.progress
  localJobId : new.localJobId = old.localJobId
  lease : new.lease = old.lease
  startedAt : new.startedAt = old.startedAt
  updatedAt : old.updatedAt ≤ new.updatedAt
  result : new.result = old.result
  tells : StateTells new.state (some event)
  state : new = old ∨ (new.state ≠ old.state ∧ new.state ∈ old.state.normalTransitions)

/-- A row under a lease is in a state of a lease. -/
theorem MarketOperationSnapshot.leaseState {o : MarketOperationSnapshot} {l : WorkerLease}
    (h : o.lease = some l) : o.state ∈ MarketOperationState.leaseStates :=
  (o.valid.lease l h).2.2.1

/-- What the target of a request tells. -/
theorem target_tells {action : ControlAction} {seen target : MarketOperationState}
    (h : action.target seen = .ok target) : StateTells target (some action.event) ∧
      (target = .pauseRequested ∨ target = .paused ∨ target = .pending ∨
        target = .cancelRequested ∨ target = .cancelled) := by
  cases action with
  | pause =>
    simp only [ControlAction.target, requestPause] at h
    split at h
    · next hseen =>
      cases h
      rcases hseen with rfl | rfl <;> exact ⟨rfl, by simp⟩
    · simp only [bind_eq_ok, pure, Except.pure, Except.ok.injEq] at h
      obtain ⟨-, -, rfl⟩ := h
      exact ⟨rfl, by simp⟩
  | resume =>
    simp only [ControlAction.target, requestResume] at h
    split at h
    · next hseen =>
      cases h
      rw [hseen]
      exact ⟨.inr rfl, by simp⟩
    · simp only [bind_eq_ok, pure, Except.pure, Except.ok.injEq] at h
      obtain ⟨-, -, rfl⟩ := h
      exact ⟨.inr rfl, by simp⟩
  | cancel =>
    simp only [ControlAction.target, requestCancel] at h
    split at h
    · next hseen =>
      cases h
      rcases hseen with rfl | rfl <;> exact ⟨rfl, by simp⟩
    · simp only [bind_eq_ok, pure, Except.pure, Except.ok.injEq] at h
      obtain ⟨-, -, rfl⟩ := h
      exact ⟨rfl, by simp⟩

/-- What an administrator's transaction does. -/
theorem requestState_unowned {t t' : OperationTable} {id : Uuid} {target : MarketOperationState}
    {version : ℕ} {now : ℤ} {o : MarketOperationSnapshot}
    (h : requestState t id target version now none = .ok (o, t')) :
    ∃ old, t.lookup id = some old ∧ old.recordVersion = version ∧
      ((old.state = target ∧ o = old ∧ t' = t) ∨
        (old.state ≠ target ∧ target ∈ old.state.normalTransitions ∧
          (target ∈ MarketOperationState.workerTargets → old.lease = none) ∧
          Protected old.toSnapshotFields (old.toSnapshotFields.requested target now) ∧
          o.toSnapshotFields = old.toSnapshotFields.requested target now ∧
          t'.rows = replaceRow t.rows o)) := by
  simp only [requestState, bind_eq_ok, require_eq_ok, exists_const, lockedOperation_eq_ok] at h
  obtain ⟨-, old, ⟨hlookup, hversion⟩, h⟩ := h
  refine ⟨old, hlookup, hversion, ?_⟩
  split at h
  · next hstate =>
    simp only [pure, Except.pure, Except.ok.injEq, Prod.mk.injEq] at h
    exact .inl ⟨hstate, h.1.symm, h.2.symm⟩
  · next hstate =>
    simp only [bind_eq_ok, requireTransition_eq_ok, exists_const] at h
    obtain ⟨htransition, h⟩ := h
    split at h
    · simp [bind, Except.bind] at h
    · next howned =>
      simp only [bind_eq_ok, require_eq_ok, exists_const, updateRow_eq_ok] at h
      obtain ⟨-, hprotected, ho, hrows⟩ := h
      refine .inr ⟨hstate, htransition, fun hworker => ?_, hprotected, ho, hrows⟩
      by_contra hlease
      exact howned ⟨hworker, hlease⟩

/-- An effective request keeps the lease. -/
theorem requested_lease {old : MarketOperationSnapshot} {target : MarketOperationState} {now : ℤ}
    (hworker : target ∈ MarketOperationState.workerTargets → old.lease = none)
    (htarget : target = .pauseRequested ∨ target = .paused ∨ target = .pending ∨
      target = .cancelRequested ∨ target = .cancelled)
    (htransition : target ∈ old.state.normalTransitions) :
    (old.toSnapshotFields.requested target now).lease = old.lease := by
  have hresume : target = .pending → old.lease = none := by
    rintro rfl
    cases hlease : old.lease with
    | none => rfl
    | some l =>
      exfalso
      have hstate := old.leaseState hlease
      revert hstate htransition
      cases old.state <;> decide
  unfold SnapshotFields.requested
  rcases htarget with rfl | rfl | rfl | rfl | rfl
  · rfl
  · exact (hworker (by decide)).symm
  · exact (hresume rfl).symm
  · rfl
  · exact (hworker (by decide)).symm

/-- **What a request does**: nothing, or it moves one row. -/
theorem request_cases (w : World) (id : Uuid) (action : ControlAction)
    (seen : MarketOperationState) (version : ℕ) (now : ℤ) :
    w.request id action seen version now = w ∨
      ∃ old new t, w.table.lookup id = some old ∧ OneRow w.table t new ∧
        RowMoved old new action.event ∧ w.request id action seen version now =
          { w with table := t, history := w.history ++ [(id, action.event)] } := by
  unfold World.request
  split
  · next o t h =>
    simp only [bind_eq_ok] at h
    obtain ⟨target, htarget, h⟩ := h
    obtain ⟨htells, htargets⟩ := target_tells htarget
    obtain ⟨old, hlookup, -, hcases⟩ := requestState_unowned h
    have hid := OperationTable.lookup_id hlookup
    refine .inr ⟨old, o, t, hlookup, ?_, ?_, rfl⟩
    · rcases hcases with ⟨-, rfl, rfl⟩ | ⟨-, -, -, hprotected, ho, hrows⟩
      · exact .refl hlookup
      · have hid' : o.id = old.id := by rw [ho]; rfl
        exact .of_replaced (hid ▸ hlookup) hid' hrows
    · rcases hcases with ⟨rfl, rfl, rfl⟩ | ⟨hne, htransition, hworker, hprotected, ho, -⟩
      · exact ⟨rfl, rfl, rfl, rfl, rfl, le_rfl, rfl, htells, .inl rfl⟩
      · have hlease : (old.toSnapshotFields.requested target now).lease = old.lease :=
          requested_lease hworker htargets htransition
        refine ⟨?_, ?_, ?_, ?_, ?_, ?_, ?_, ?_, ?_⟩
        all_goals rw [ho]
        · rfl
        · rfl
        · rfl
        · exact hlease
        · rfl
        · exact hprotected.updatedAt
        · rfl
        · exact htells
        · exact .inr ⟨fun h => hne h.symm, htransition⟩
  · exact .inl rfl

/-- **What a submission does**: nothing, or it appends a pending row. -/
theorem submission_cases (planner : MarketDataPlanner) (w : World) (id : Uuid)
    (request : MarketOperationRequest) (now : ℤ) :
    w.submission planner id request now = w ∨
      ∃ plan o t, planner.backfill request.dataset request.dataRange
          (operationJobType request.operationType) id now = .ok plan ∧
        planner.checksum plan = request.planChecksum ∧
        o.toSnapshotFields = submittedRow id request (planner.planSummary plan now) now ∧
        t.rows = w.table.rows ++ [o] ∧ w.submission planner id request now =
          { w with table := t, history := w.history ++ [(id, .submitted)] } := by
  unfold World.submission
  split
  · next o t h =>
    split
    · exact .inl rfl
    · next hlength =>
      simp only [submit, bind_eq_ok, require_eq_ok, exists_const, createIdempotently] at h
      obtain ⟨plan, hplan, hchecksum, -, h⟩ := h
      split at h
      · simp only [bind_eq_ok, require_eq_ok, exists_const, pure, Except.pure, Except.ok.injEq,
          Prod.mk.injEq] at h
        obtain ⟨-, -, rfl⟩ := h
        exact absurd rfl hlength
      · simp only [bind_eq_ok, construct_eq_ok, pure, Except.pure, Except.ok.injEq,
          Prod.mk.injEq] at h
        obtain ⟨o', ho', t', hinsert, rfl, rfl⟩ := h
        unfold OperationTable.insertRow at hinsert
        split at hinsert
        · next hkey =>
          split at hinsert
          · next hindexes =>
            cases hinsert
            have hid : o'.id = id := by rw [SnapshotFields.id, ho', submittedRow]
            refine .inr ⟨plan, o', ⟨w.table.rows ++ [o'], hkey, hindexes⟩, hplan, hchecksum, ho',
              rfl, ?_⟩
            rw [hid]
          · cases hinsert
        · cases hinsert
  · exact .inl rfl

end Operations
end DryTrade
