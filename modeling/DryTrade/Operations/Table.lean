import DryTrade.Operations.Domain

/-!
# The operation table

`market_data_operations` with its primary key, its two partial unique indexes and the trigger
that guards updates.  The key and the indexes hold of the rows by construction.  A transaction
of the repository reads and writes the table and either returns or, when it raises, leaves the
table as it was; transactions take effect one after the other.

## Main definitions

* `OperationTable`, `UniqueIndexes` — the table.
* `protectUpdate` — `protect_market_data_operation`.
* `Transaction` — a transaction, with `lockedOperation` and `updateRow`.

## Main results

* `updateRow_eq_ok` — what an update asks and does.
* `exists_updateRow` — when an update goes through.
* `lookup_replaced` — the rows after an update.
-/

namespace DryTrade
namespace Operations

open MarketData

/-- The identifier of a row. -/
abbrev SnapshotFields.id (o : SnapshotFields) : Uuid := o.intent.operationId

/-- The dataset of a row. -/
abbrev SnapshotFields.dataset (o : SnapshotFields) : MarketDatasetSelector :=
  o.intent.request.dataset

/-- The row is the active execution of its dataset. -/
def SnapshotFields.activeExecution (o : SnapshotFields) : Bool :=
  o.state.isActive || (o.state.isControl && o.lease.isSome)

/-- `market_data_operations_one_active_dataset_uidx` and
`market_data_operations_one_active_owner_uidx`. -/
structure UniqueIndexes (rows : List MarketOperationSnapshot) : Prop where
  dataset : rows.Pairwise fun a b =>
    ¬(a.activeExecution = true ∧ b.activeExecution = true ∧ a.dataset = b.dataset)
  owner : rows.Pairwise fun a b =>
    ∀ l ∈ a.lease, ∀ l' ∈ b.lease, l.ownerId ≠ l'.ownerId

instance (rows : List MarketOperationSnapshot) : Decidable (UniqueIndexes rows) :=
  decidable_of_iff
    ((rows.Pairwise fun a b =>
        ¬(a.activeExecution = true ∧ b.activeExecution = true ∧ a.dataset = b.dataset)) ∧
      rows.Pairwise fun a b => ∀ l ∈ a.lease, ∀ l' ∈ b.lease, l.ownerId ≠ l'.ownerId)
    ⟨fun ⟨a, b⟩ => ⟨a, b⟩, fun ⟨a, b⟩ => ⟨a, b⟩⟩

/-- The rows of the table, oldest insertion first. -/
structure OperationTable where
  rows : List MarketOperationSnapshot
  primaryKey : (rows.map fun o => o.id).Nodup
  indexes : UniqueIndexes rows

/-- The empty table. -/
def OperationTable.empty : OperationTable := ⟨[], by simp, ⟨.nil, .nil⟩⟩

/-- The row of an operation. -/
def OperationTable.lookup (t : OperationTable) (id : Uuid) : Option MarketOperationSnapshot :=
  t.rows.find? fun o => o.id = id

/-- Put a row in the place of the one with the same identifier. -/
def replaceRow (rows : List MarketOperationSnapshot) (o : MarketOperationSnapshot) :
    List MarketOperationSnapshot :=
  rows.map fun r => if r.id = o.id then o else r

theorem map_id_replaceRow (rows : List MarketOperationSnapshot) (o : MarketOperationSnapshot) :
    (replaceRow rows o).map (fun r => r.id) = rows.map fun r => r.id := by
  rw [replaceRow, List.map_map]
  refine List.map_congr_left fun r _ => ?_
  dsimp only [Function.comp]
  split
  · exact Eq.symm ‹_›
  · rfl

/-- Write a row in the place of the old one; a violated index raises. -/
def OperationTable.set (t : OperationTable) (o : MarketOperationSnapshot) :
    Except OperationError OperationTable :=
  if h : UniqueIndexes (replaceRow t.rows o) then
    .ok ⟨replaceRow t.rows o, (map_id_replaceRow t.rows o).symm ▸ t.primaryKey, h⟩
  else .error .invalidLease

/-- The lease part of `protect_market_data_operation`: an owned lease only moves forward. -/
def LeaseProtected (old new : Option WorkerLease) : Prop :=
  ∀ l ∈ old, ∀ l' ∈ new, l'.ownerId = l.ownerId ∧ l'.claimedAt = l.claimedAt ∧
    l.heartbeatAt ≤ l'.heartbeatAt ∧ l.leaseExpiresAt ≤ l'.leaseExpiresAt

instance (old new : Option WorkerLease) : Decidable (LeaseProtected old new) := by
  unfold LeaseProtected
  infer_instance

/-- `protect_market_data_operation`. -/
def protectUpdate (old new : SnapshotFields) : Except OperationError Unit := do
  require (old.state ∉ MarketOperationState.terminalStates) .terminal
  require (new.intent = old.intent) .persistence
  require (new.startedAt = old.startedAt ∨
    (old.startedAt = none ∧ old.state = .pending ∧ new.state = .claimed)) .persistence
  require (new.recordVersion = old.recordVersion + 1) .versionConflict
  require (old.localJobId = none ∨ new.localJobId = old.localJobId) .persistence
  require (new.progress.Extends old.progress ∧ old.updatedAt ≤ new.updatedAt) .progressRegression
  require (LeaseProtected old.lease new.lease) .invalidLease
  require (new.state = old.state ∨ new.state ∈ old.state.approvedTransitions) .invalidTransition

/-- `_locked_operation`: the row under its lock, at the version the caller expects. -/
def OperationTable.lockedOperation (t : OperationTable) (id : Uuid) (expectedVersion : ℕ) :
    Except OperationError MarketOperationSnapshot :=
  match t.lookup id with
  | none => .error .notFound
  | some o => do
    require (o.recordVersion = expectedVersion) .versionConflict
    pure o

/-- `update … returning`: the trigger, the checks of the row, the unique indexes. -/
def OperationTable.updateRow (t : OperationTable) (old : MarketOperationSnapshot)
    (new : SnapshotFields) : Except OperationError (MarketOperationSnapshot × OperationTable) := do
  protectUpdate old.toSnapshotFields new
  let o ← new.construct
  let t' ← t.set o
  pure (o, t')

/-! ### What a transaction does to the rows -/

section

variable {t t' : OperationTable} {o old : MarketOperationSnapshot} {new : SnapshotFields}
  {id : Uuid} {version : ℕ}

theorem OperationTable.lookup_id (h : t.lookup id = some o) : o.id = id := by
  simpa using List.find?_some h

theorem OperationTable.mem_of_lookup (h : t.lookup id = some o) : o ∈ t.rows :=
  List.mem_of_find?_eq_some h

/-- A row is found under its own identifier. -/
theorem OperationTable.lookup_of_mem (h : o ∈ t.rows) : t.lookup o.id = some o := by
  unfold OperationTable.lookup
  have hkey := t.primaryKey
  generalize t.rows = rows at h hkey
  induction rows with
  | nil => cases h
  | cons first rest ih =>
    rw [List.map_cons, List.nodup_cons] at hkey
    rcases List.mem_cons.mp h with rfl | hmem
    · simp
    · have hne : first.id ≠ o.id := fun heq =>
        hkey.1 (heq ▸ List.mem_map.mpr ⟨o, hmem, rfl⟩)
      rw [List.find?_cons_of_neg (by simpa using hne)]
      exact ih hmem hkey.2

theorem lockedOperation_eq_ok :
    t.lockedOperation id version = .ok o ↔ t.lookup id = some o ∧ o.recordVersion = version := by
  unfold OperationTable.lockedOperation
  cases t.lookup id with
  | none => simp
  | some r =>
    simp only [bind_eq_ok, require_eq_ok, exists_const, pure, Except.pure, Except.ok.injEq,
      Option.some.injEq]
    constructor
    · rintro ⟨hversion, rfl⟩
      exact ⟨rfl, hversion⟩
    · rintro ⟨rfl, hversion⟩
      exact ⟨hversion, rfl⟩

theorem set_eq_ok : t.set o = .ok t' ↔ t'.rows = replaceRow t.rows o := by
  unfold OperationTable.set
  constructor
  · intro h
    split at h
    · cases h
      rfl
    · cases h
  · intro h
    have hindexes : UniqueIndexes (replaceRow t.rows o) := h ▸ t'.indexes
    rw [dif_pos hindexes]
    cases t'
    cases h
    rfl

/-- The rows after one was replaced. -/
theorem lookup_replaced (h : t'.rows = replaceRow t.rows o) :
    t'.lookup id = if o.id = id then (t.lookup id).map fun _ => o else t.lookup id := by
  unfold OperationTable.lookup
  rw [h]
  generalize t.rows = rows
  induction rows with
  | nil => split <;> rfl
  | cons first rest ih =>
    rw [replaceRow, List.map_cons, List.find?_cons, List.find?_cons, ← replaceRow, ih]
    by_cases hfirst : first.id = o.id
    · rw [if_pos hfirst]
      by_cases hid : o.id = id
      · simp [hid, hfirst]
      · have hne : first.id ≠ id := fun heq => hid (hfirst ▸ heq)
        simp [hid, hne]
    · rw [if_neg hfirst]
      by_cases hid : o.id = id
      · have hne : first.id ≠ id := fun heq => hfirst (heq.trans hid.symm)
        simp [hid, hne]
      · by_cases hf : first.id = id <;> simp [hid, hf]

/-- What the trigger accepts. -/
structure Protected (old new : SnapshotFields) : Prop where
  live : old.state ∉ MarketOperationState.terminalStates
  intent : new.intent = old.intent
  startedAt : new.startedAt = old.startedAt ∨
    (old.startedAt = none ∧ old.state = .pending ∧ new.state = .claimed)
  version : new.recordVersion = old.recordVersion + 1
  localJobId : old.localJobId = none ∨ new.localJobId = old.localJobId
  progress : new.progress.Extends old.progress
  updatedAt : old.updatedAt ≤ new.updatedAt
  lease : LeaseProtected old.lease new.lease
  transition : new.state = old.state ∨ new.state ∈ old.state.approvedTransitions

theorem protectUpdate_eq_ok {old new : SnapshotFields} {u : Unit} :
    protectUpdate old new = .ok u ↔ Protected old new := by
  simp only [protectUpdate, bind_eq_ok, require_eq_ok, exists_const]
  exact ⟨fun ⟨a, b, c, d, e, ⟨f, g⟩, h, i⟩ => ⟨a, b, c, d, e, f, g, h, i⟩,
    fun ⟨a, b, c, d, e, f, g, h, i⟩ => ⟨a, b, c, d, e, ⟨f, g⟩, h, i⟩⟩

/-- **What an update asks and does.** -/
theorem updateRow_eq_ok : t.updateRow old new = .ok (o, t') ↔
    Protected old.toSnapshotFields new ∧ o.toSnapshotFields = new ∧
      t'.rows = replaceRow t.rows o := by
  simp only [OperationTable.updateRow, bind_eq_ok, protectUpdate_eq_ok, exists_const,
    construct_eq_ok, set_eq_ok, pure, Except.pure, Except.ok.injEq, Prod.mk.injEq]
  constructor
  · rintro ⟨hprotected, o', ho', t'', ht'', rfl, rfl⟩
    exact ⟨hprotected, ho', ht''⟩
  · rintro ⟨hprotected, ho, ht⟩
    exact ⟨hprotected, o, ho, t', ht, rfl, rfl⟩

/-- Outside the row of `id` nothing holds a lease or counts as an active execution. -/
def Alone (t : OperationTable) (id : Uuid) : Prop :=
  ∀ o ∈ t.rows, o.id ≠ id → o.lease = none ∧ o.activeExecution = false

/-- A row may take any shape while the others are idle. -/
theorem uniqueIndexes_of_alone (halone : Alone t o.id) : UniqueIndexes (replaceRow t.rows o) := by
  have hids : (replaceRow t.rows o).Pairwise fun a b => a.id ≠ b.id := by
    have hkey := t.primaryKey
    rw [← map_id_replaceRow t.rows o, List.Nodup, List.pairwise_map] at hkey
    exact hkey
  have hidle : ∀ r ∈ replaceRow t.rows o, r.id ≠ o.id →
      r.lease = none ∧ r.activeExecution = false := by
    intro r hr hne
    obtain ⟨r₀, hr₀, rfl⟩ := List.mem_map.mp hr
    split at hne
    · exact absurd rfl hne
    · next hid =>
      rw [if_neg hid]
      exact halone r₀ hr₀ hid
  have hone : ∀ a ∈ replaceRow t.rows o, ∀ b ∈ replaceRow t.rows o, a.id ≠ b.id →
      (a.lease = none ∧ a.activeExecution = false) ∨
        (b.lease = none ∧ b.activeExecution = false) := by
    intro a ha b hb hne
    by_cases hid : a.id = o.id
    · exact .inr (hidle b hb fun h => hne (hid.trans h.symm))
    · exact .inl (hidle a ha hid)
  constructor
  · refine hids.imp_of_mem fun ha hb hne hactive => ?_
    rcases hone _ ha _ hb hne with h | h
    · rw [h.2] at hactive
      exact Bool.false_ne_true hactive.1
    · rw [h.2] at hactive
      exact Bool.false_ne_true hactive.2.1
  · refine hids.imp_of_mem fun ha hb hne l hl l' hl' => ?_
    rcases hone _ ha _ hb hne with h | h
    · rw [h.1] at hl
      cases hl
    · rw [h.1] at hl'
      cases hl'

/-- **An update goes through** when the trigger accepts it, the row is valid and the others are
idle. -/
theorem exists_updateRow (halone : Alone t old.id) (hprotected : Protected old.toSnapshotFields new)
    (hvalid : new.Valid) :
    ∃ o t', t.updateRow old new = .ok (o, t') ∧ o.toSnapshotFields = new ∧
      t'.rows = replaceRow t.rows o := by
  have hid : new.id = old.id := congrArg OperationIntent.operationId hprotected.intent
  let o : MarketOperationSnapshot := ⟨new, hvalid⟩
  have halone' : Alone t o.id := by
    rw [show o.id = old.id from hid]
    exact halone
  let t' : OperationTable := ⟨replaceRow t.rows o,
    (map_id_replaceRow t.rows o).symm ▸ t.primaryKey, uniqueIndexes_of_alone halone'⟩
  exact ⟨o, t', updateRow_eq_ok.mpr ⟨hprotected, rfl, rfl⟩, rfl, rfl⟩

/-- Replacing a row leaves the other ones alone. -/
theorem Alone.replaced (halone : Alone t id) (hid : o.id = id)
    (hrows : t'.rows = replaceRow t.rows o) : Alone t' id := by
  intro r hr hne
  rw [hrows] at hr
  obtain ⟨r₀, hr₀, rfl⟩ := List.mem_map.mp hr
  split at hne
  · exact absurd hid hne
  · next h =>
    rw [if_neg h]
    exact halone r₀ hr₀ (hid ▸ h)

/-- The rows of a table after one was replaced, as a set. -/
theorem mem_replaced (hrows : t'.rows = replaceRow t.rows o) {r : MarketOperationSnapshot}
    (hr : r ∈ t'.rows) : r = o ∨ (r ∈ t.rows ∧ r.id ≠ o.id) := by
  rw [hrows] at hr
  obtain ⟨r₀, hr₀, rfl⟩ := List.mem_map.mp hr
  split
  · exact .inl rfl
  · exact .inr ⟨hr₀, ‹_›⟩

end

end Operations
end DryTrade
