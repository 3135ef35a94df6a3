import DryTrade.Operations.Worker

/-!
# Administrators and the healthy worker

While a worker runs, administrators submit operations and request controls, the clock moves on,
heartbeats fall due.  A healthy environment makes no fetch, lock or file fail and lets no lease
run out.  A calm one moreover commits nothing between a read of the worker and the write that
relies on it.

## Main definitions

* `World.request` — one request of an administrator.
* `Disturbance`, `Disturbed` — what the environment does, once and any number of times.
* `Healthy`, `Calm` — the environments.
* `Reached` — the states reached by requests and by the runs of one worker.
-/

namespace DryTrade
namespace Operations

open MarketData

/-- What an administrator asks for. -/
inductive ControlAction
  | pause
  | resume
  | cancel
  deriving DecidableEq, Repr

/-- The target of a request, decided on the state the service has read. -/
def ControlAction.target : ControlAction → MarketOperationState →
    Except OperationError MarketOperationState
  | .pause => requestPause
  | .resume => requestResume
  | .cancel => requestCancel

/-- The event an accepted request leaves. -/
def ControlAction.event : ControlAction → ControlEvent
  | .pause => .pauseAccepted
  | .resume => .resumeAccepted
  | .cancel => .cancelAccepted

/-- `_request_control`: the service has read the state `seen`, then the repository compares the
version; a refused request changes nothing. -/
def World.request (w : World) (operationId : Uuid) (action : ControlAction)
    (seen : MarketOperationState) (expectedVersion : ℕ) (now : ℤ) : World :=
  match (do
    let target ← action.target seen
    requestState w.table operationId target expectedVersion now none) with
  | .ok (_, t) => { w with table := t, history := w.history ++ [(operationId, action.event)] }
  | .error _ => w

/-- A submission; a refused one, or one that finds its operation, changes nothing. -/
def World.submission (planner : MarketDataPlanner) (w : World) (operationId : Uuid)
    (request : MarketOperationRequest) (now : ℤ) : World :=
  match submit planner w.table operationId request now with
  | .ok (o, t) =>
    if t.rows.length = w.table.rows.length then w
    else { w with table := t, history := w.history ++ [(o.id, .submitted)] }
  | .error _ => w

/-- One move of the environment of a worker. -/
inductive Disturbance (planner : MarketDataPlanner) : World → World → Prop
  | tick {w : World} {now : ℤ} (h : w.clock ≤ now) :
      Disturbance planner w { w with clock := now }
  | ambient {w : World} (a : Ambient) : Disturbance planner w { w with ambient := a }
  | request {w : World} (operationId : Uuid) (action : ControlAction)
      (seen : MarketOperationState) (expectedVersion : ℕ) (now : ℤ) :
      Disturbance planner w (w.request operationId action seen expectedVersion now)
  | submission {w : World} (operationId : Uuid) (request : MarketOperationRequest) (now : ℤ) :
      Disturbance planner w (w.submission planner operationId request now)

/-- Any number of moves. -/
abbrev Disturbed (planner : MarketDataPlanner) : World → World → Prop :=
  Relation.ReflTransGen (Disturbance planner)

/-- The lease of an operation is live. -/
def World.LeaseLive (w : World) (operationId : Uuid) : Prop :=
  ∀ o, w.table.lookup operationId = some o → ∀ l ∈ o.lease,
    l.heartbeatAt ≤ w.clock ∧ w.clock < l.leaseExpiresAt

/-- No fetch and no lock fails, no other worker races, no lease runs out. -/
structure HealthyMove (planner : MarketDataPlanner) (point : Point) (w w' : World) : Prop where
  moves : Disturbed planner w w'
  race : w'.ambient.claimRaceLost = false
  lock : w'.ambient.lockBusy = false
  fetch : ∀ dataset, ∃ requests content, w'.ambient.fetch dataset = .ok (requests, content) ∧
    ∀ t, ∀ stored ∈ w'.candles dataset t, stored = content t
  lease : ∀ id, point = .held id ∨ point = .renewing id → w'.LeaseLive id

/-- Moreover nothing is committed between a read and the write that relies on it, the clock of
the worker is not behind the stamps of the rows it writes, and it moves on between two
renewals. -/
structure CalmMove (planner : MarketDataPlanner) (point : Point) (w w' : World) : Prop
    extends HealthyMove planner point w w' where
  claiming : point = .claiming → ∀ o ∈ w'.table.rows,
    o.state = .pending ∨ o.state.isControl = true → o.updatedAt ≤ w.clock
  held : ∀ id, point = .held id ∨ point = .renewing id →
    w'.table.lookup id = w.table.lookup id
  stamps : ∀ id, point = .held id ∨ point = .renewing id →
    ∀ o, w'.table.lookup id = some o → o.updatedAt ≤ w'.clock
  renewing : ∀ id, point = .renewing id → ∀ o, w'.table.lookup id = some o → ∀ l ∈ o.lease,
    l.heartbeatAt < w'.clock

/-- The states one worker and the administrators reach when every run of the worker meets a
calm environment. -/
inductive Reached (worker : Worker) : World → Prop
  | start {w : World} (htable : w.table = .empty) (hjobs : w.jobs = []) (hreceipts : w.receipts = [])
      (hlocks : w.locks = []) (herrors : w.heartbeatErrors = []) (hhistory : w.history = []) :
      Reached worker w
  | disturbed {w w' : World} (h : Reached worker w)
      (hmove : Disturbance worker.planner w w') : Reached worker w'
  | ran {w w' : World} {r : Except Raised (Option MarketOperationSnapshot)}
      (h : Reached worker w)
      (hrun : Program.Runs (CalmMove worker.planner) worker.runOnce w r w') : Reached worker w'

/-- The last event of an operation. -/
def lastEvent (history : List (Uuid × ControlEvent)) (id : Uuid) : Option ControlEvent :=
  (history.filter (·.1 = id)).getLast?.map (·.2)

end Operations
end DryTrade
