import DryTrade.MarketData.Promotion

/-!
# Crash atomicity of the ingestion transaction

Whatever operation of the protocol a crash cuts, and however often the recovery
crashes in turn, a completed recovery leaves either every partition and owned
catalog entry as it was, or every one as intended, the latter exactly when the
journal had become COMMITTED.

## Main definitions

* `Ready` — the disk a plan was made on.
* `JournalCommitted` — the journal became COMMITTED during a run.
* `Aftermath` — commits of other datasets and recoveries, crashed or not.

## Main results

* `executeRecord_crash` — the states a crash can leave.
* `recoverDataset_atomic` — atomicity.
-/

namespace DryTrade
namespace MarketData

/-! ### Crashes -/

/-- Operations go through or crash. -/
def Crashing (f : Fault) : Prop := f = .pass ∨ f = .crash

theorem not_canRaise_crashing : ¬ Process.CanRaise Crashing := by
  rintro ((h | h) | (h | h)) <;> cases h

theorem Process.Keeps.crashing {α : Type} {P I : Disk → Prop} {Q : α → Disk → Prop}
    {p : DiskProcess α} (h : Process.Keeps Crashing P p I Q) {d : Disk} {fs : List Fault}
    (hd : P d) (hfs : ∀ f ∈ fs, Crashing f) :
    (∀ f ∈ (p d fs).faults, Crashing f) ∧ (∀ t ∈ (p d fs).visited, I t) ∧
      ((p d fs).outcome = .crashed ∨
        ∃ a, (p d fs).outcome = .returned a ∧ Q a ((p d fs).final d)) := by
  obtain ⟨hleft, hvisited, hend⟩ := h d fs hd hfs
  refine ⟨hleft, hvisited, ?_⟩
  cases hr : (p d fs).outcome with
  | returned a => rw [hr] at hend; exact .inr ⟨a, rfl, hend⟩
  | raised e => rw [hr] at hend; exact absurd hend.2 not_canRaise_crashing
  | crashed => exact .inl rfl

/-- Writing a journal, cut or not. -/
theorem writeJournal_crash (record : ValidRecord) (d : Disk) {fs : List Fault}
    (hfs : ∀ f ∈ fs, Crashing f) :
    let opened : Disk :=
      { d with journalTemporaries := d.journalTemporaries.insert record.transactionId }
    let renamed := (opened.removeJournalTemporary record.transactionId).insertJournal record
    (∀ f ∈ (writeJournal record d fs).faults, Crashing f) ∧
      (((writeJournal record d fs).outcome = .crashed ∧
          ∀ t ∈ (writeJournal record d fs).visited, t = opened) ∨
        ((writeJournal record d fs).outcome = .returned () ∧
          (writeJournal record d fs).visited = [opened, opened, renamed])) := by
  intro opened renamed
  have hcons : ∀ f rest, fs = f :: rest → (f = .pass ∨ f = .crash) ∧ ∀ g ∈ rest, Crashing g :=
    fun f rest h => ⟨hfs f (by simp [h]), fun g hg => hfs g (by simp [h, hg])⟩
  -- The three operations, each cut or not.
  rcases fs with - | ⟨f, - | ⟨g, - | ⟨h, rest⟩⟩⟩
  · exact ⟨hfs, .inr ⟨rfl, rfl⟩⟩
  · rcases (hcons f [] rfl).1 with rfl | rfl
    · exact ⟨fun _ h => absurd h List.not_mem_nil, .inr ⟨rfl, rfl⟩⟩
    · exact ⟨fun _ h => absurd h List.not_mem_nil, .inl ⟨rfl, fun _ h => absurd h List.not_mem_nil⟩⟩
  · rcases (hcons f [g] rfl).1 with rfl | rfl
    · rcases (hcons _ [g] rfl).2 g (by simp) with rfl | rfl
      · exact ⟨fun _ h => absurd h List.not_mem_nil, .inr ⟨rfl, rfl⟩⟩
      · exact ⟨fun _ h => absurd h List.not_mem_nil, .inl ⟨rfl, fun _ h => List.mem_singleton.mp h⟩⟩
    · exact ⟨(hcons _ _ rfl).2, .inl ⟨rfl, fun _ h => absurd h List.not_mem_nil⟩⟩
  · have hrest : ∀ x ∈ rest, Crashing x := fun x hx => (hcons f _ rfl).2 x (by simp [hx])
    rcases (hcons f _ rfl).1 with rfl | rfl
    · rcases (hcons _ _ rfl).2 g (by simp) with rfl | rfl
      · rcases (hcons _ _ rfl).2 h (by simp) with rfl | rfl
        · exact ⟨hrest, .inr ⟨rfl, rfl⟩⟩
        · refine ⟨hrest, .inl ⟨rfl, fun t ht => ?_⟩⟩
          change t ∈ [opened, opened] at ht
          simpa using ht
      · exact ⟨fun x hx => (hcons _ _ rfl).2 x (by
          rcases List.mem_cons.mp hx with rfl | hx
          · simp
          · simp [hx]), .inl ⟨rfl, fun _ h => List.mem_singleton.mp h⟩⟩
    · exact ⟨(hcons _ _ rfl).2, .inl ⟨rfl, fun _ h => absurd h List.not_mem_nil⟩⟩

/-! ### The disk a plan is made on -/

/-- The partition files. -/
def Disk.partitions (d : Disk) (target : String) : Option FileContent :=
  d.files (.partition target)

/-- The contents a plan gives to its partitions. -/
def ParquetUpsertPlan.contents (plan : ParquetUpsertPlan) (target : String) : Option FileContent :=
  (plan.partitions.find? fun p => p.target == target).map fun p => .candles p.candles

theorem ParquetUpsertPlan.contents_of_mem {plan : ParquetUpsertPlan} {p : PlannedPartition}
    (hnodup : (plan.partitions.map (·.target)).Nodup) (hp : p ∈ plan.partitions) :
    plan.contents p.target = some (.candles p.candles) := by
  have hsome : (plan.partitions.find? fun q => q.target == p.target).isSome :=
    List.find?_isSome.mpr ⟨p, hp, beq_self_eq_true _⟩
  obtain ⟨q, hq⟩ := Option.isSome_iff_exists.mp hsome
  have htarget : q.target = p.target := by simpa using List.find?_some hq
  have heq : q = p := List.inj_on_of_nodup_map hnodup (List.mem_of_find?_eq_some hq) hp htarget
  rw [ParquetUpsertPlan.contents, hq, heq, Option.map_some]

/-- The disk the plans were made on: the recovery of the dataset left no journal of it, and
nothing carries the fresh identifier of the transaction. -/
structure Ready (parquetPlan : ParquetUpsertPlan) (catalogPlan : CatalogPlan) (c₀ : CatalogState)
    (d : Disk) : Prop where
  catalog : d.files .catalog = some (.catalog c₀)
  plan : ∃ run dataset receipt, prepareCompletion c₀ (d.exist .catalog) run dataset
    catalogPlan.transactionId receipt = .ok catalogPlan
  originals : ∀ p ∈ parquetPlan.partitions, p.hadOriginal = d.exist (.partition p.target)
  journals : ∀ r ∈ d.journals,
    r.datasetKey ≠ catalogPlan.datasetKey ∧ r.transactionId ≠ parquetPlan.transactionId
  partitionFiles : ∀ p ∈ parquetPlan.partitions,
    d.files (.partitionTemporary p.target parquetPlan.transactionId) = none ∧
      d.files (.partitionBackup p.target parquetPlan.transactionId) = none
  catalogFiles : d.files (.catalogTemporary parquetPlan.transactionId) = none ∧
    d.files (.catalogBackup parquetPlan.transactionId) = none

section

variable {parquetPlan : ParquetUpsertPlan} {catalogPlan : CatalogPlan} {version : String}
  {c₀ : CatalogState} {d₀ d : Disk} {temporaries : List String}

/-- What the catalog plan of a ready disk is. -/
theorem Ready.planned (h : Ready parquetPlan catalogPlan c₀ d₀) :
    catalogPlan.hadOriginal = true ∧ catalogPlan.owned c₀ = catalogPlan.before ∧
      catalogPlan.owned catalogPlan.content = catalogPlan.intended ∧
      catalogPlan.Untouched c₀ catalogPlan.content ∧ catalogPlan.before ≠ catalogPlan.intended := by
  obtain ⟨run, dataset, receipt, hplan⟩ := h.plan
  obtain ⟨hhad, -, hbefore, hintended, huntouched, ⟨hrunning, -⟩, hcompleted, -⟩ :=
    prepareCompletion_ok hplan
  refine ⟨?_, hbefore, hintended, huntouched,
    CatalogMutation.before_ne_intended hrunning hcompleted⟩
  rw [hhad, Disk.exist, h.catalog, Option.isSome_some]

/-- Nothing has happened on a ready disk. -/
theorem Ready.settled (h : Ready parquetPlan catalogPlan c₀ d₀) (version : String)
    (state : JournalState) :
    Settled (recordOf parquetPlan catalogPlan version state) d₀.partitions catalogPlan.before c₀
      d₀.journalTemporaries d₀ where
  journal := ⟨List.filter_eq_nil_iff.mpr fun r hr hkey => (h.journals r hr).1 (beq_iff_eq.mp hkey),
    fun r hr hid => absurd hid (h.journals r hr).2, rfl⟩
  partitions := fun _ _ => rfl
  catalog := ⟨c₀, h.catalog, h.planned.2.1, CatalogMutation.Untouched.refl ..⟩
  clean := ⟨fun a ha => by
    obtain ⟨p, hp, rfl⟩ := List.mem_map.mp ha
    exact h.partitionFiles p hp, h.catalogFiles⟩

theorem Ready.fresh (h : Ready parquetPlan catalogPlan c₀ d₀)
    (htx : parquetPlan.transactionId = catalogPlan.transactionId) :
    Fresh parquetPlan catalogPlan d₀.partitions c₀ d₀ :=
  ⟨fun p hp => ⟨rfl, (h.partitionFiles p hp).2⟩, h.catalog, htx ▸ h.catalogFiles.2⟩

theorem nodup_of_valid {state : JournalState}
    (hvalid : (recordOf parquetPlan catalogPlan version state).validate = .ok ()) :
    (parquetPlan.partitions.map (·.target)).Nodup := by
  have hnodup := (ValidRecord.identity ⟨_, hvalid⟩).2
  change ((parquetPlan.partitions.map fun p => (⟨p.target, p.hadOriginal⟩ : JournalArtifact)).map
    (·.target)).Nodup at hnodup
  rwa [List.map_map] at hnodup

/-- What can be restored file by file can be undone. -/
theorem Reversible.undoable (hready : Ready parquetPlan catalogPlan c₀ d₀)
    (hvalid : (recordOf parquetPlan catalogPlan version .prepared).validate = .ok ())
    (hjournal : Journaled catalogPlan.datasetKey parquetPlan.transactionId [⟨_, hvalid⟩]
      temporaries d)
    (h : Reversible Crashing parquetPlan catalogPlan d₀.partitions c₀ d) :
    Undoable ⟨_, hvalid⟩ d₀.partitions c₀ temporaries d where
  journal := hjournal
  partitions := fun a ha => by
    obtain ⟨p, hp, rfl⟩ := List.mem_map.mp ha
    exact h.1 p hp
  catalog := by
    obtain ⟨-, hbefore, hintended, huntouched, -⟩ := hready.planned
    rcases h.2.2 with hc | hc | ⟨-, hraise⟩
    · exact ⟨c₀, hc, recognizes_of_owned (.inl hbefore), CatalogMutation.Untouched.refl ..⟩
    · exact ⟨_, hc, recognizes_of_owned (.inr hintended), huntouched⟩
    · exact absurd hraise not_canRaise_crashing

/-- What was promoted can be finished. -/
theorem Promoted.finishable (hready : Ready parquetPlan catalogPlan c₀ d₀)
    (hvalid : (recordOf parquetPlan catalogPlan version .prepared).validate = .ok ())
    (hjournal : Journaled catalogPlan.datasetKey parquetPlan.transactionId
      [ValidRecord.committed ⟨_, hvalid⟩] temporaries d)
    (h : Promoted parquetPlan catalogPlan d) :
    Finishable (ValidRecord.committed ⟨_, hvalid⟩) parquetPlan.contents c₀ temporaries d where
  journal := hjournal
  partitions := fun a ha => by
    obtain ⟨p, hp, rfl⟩ := List.mem_map.mp ha
    exact (h.1 p hp).trans (parquetPlan.contents_of_mem (nodup_of_valid hvalid) hp).symm
  catalog := by
    obtain ⟨-, -, hintended, huntouched, -⟩ := hready.planned
    exact ⟨_, h.2, hintended, huntouched⟩

/-- A journal that is written is the journal of its transaction. -/
theorem Journaled.written (record : ValidRecord) {records : List ValidRecord}
    (h : Journaled record.datasetKey record.transactionId records temporaries d)
    (hrecords : ∀ r ∈ records, r.transactionId = record.transactionId) :
    Journaled record.datasetKey record.transactionId [record]
      ((temporaries.insert record.transactionId).filter (· != record.transactionId))
      ((Disk.removeJournalTemporary
        { d with journalTemporaries := d.journalTemporaries.insert record.transactionId }
        record.transactionId).insertJournal record) :=
  (Journaled.removeJournalTemporary (d := { d with
    journalTemporaries := d.journalTemporaries.insert record.transactionId })
    ⟨h.pending, h.own, by rw [h.incomplete]⟩ _).insertJournal hrecords

/-! ### A run cut by a crash -/

/-- Before the journal is COMMITTED: nothing has happened, or everything can be undone. -/
def BeforeCommit (record : ValidRecord) (original : String → Option FileContent)
    (others : CatalogState) (d : Disk) : Prop :=
  (∃ temporaries, Undoable record original others temporaries d) ∨
    ∃ temporaries, Settled record.toJournalRecord original record.before others temporaries d

/-- Once the journal is COMMITTED: everything can be finished, or is. -/
def AfterCommit (record : ValidRecord) (intended : String → Option FileContent)
    (others : CatalogState) (d : Disk) : Prop :=
  (∃ temporaries, Finishable record intended others temporaries d) ∨
    ∃ temporaries, Settled record.toJournalRecord intended record.intended others temporaries d

/-- The journal of a transaction became COMMITTED during a run. -/
def JournalCommitted (transactionId : String) (r : Ran Disk Failure Unit) : Prop :=
  ∃ t ∈ r.visited, ∃ record ∈ t.journals,
    record.transactionId = transactionId ∧ record.state = .committed

/-- Before the commit no journal of the transaction is COMMITTED. -/
theorem BeforeCommit.not_committed {record : ValidRecord} {original : String → Option FileContent}
    (hprepared : record.state = .prepared) (h : BeforeCommit record original c₀ d) :
    ∀ r ∈ d.journals, r.transactionId = record.transactionId → r.state ≠ .committed := by
  rintro r hr hid hstate
  rcases h with ⟨t, h⟩ | ⟨t, h⟩
  · rw [List.mem_singleton.mp (h.journal.own r hr hid), hprepared] at hstate
    cases hstate
  · exact absurd (h.journal.own r hr hid) List.not_mem_nil

/-- The part of the protocol that is rolled back when it raises, cut by a crash or not. -/
theorem prepareAndCommit_crash (hready : Ready parquetPlan catalogPlan c₀ d₀)
    (hvalid : (recordOf parquetPlan catalogPlan version .prepared).validate = .ok ())
    {fs : List Fault} (hfs : ∀ f ∈ fs, Crashing f)
    (hfresh : Fresh parquetPlan catalogPlan d₀.partitions c₀ d)
    (hjournal : Journaled catalogPlan.datasetKey parquetPlan.transactionId [⟨_, hvalid⟩]
      temporaries d) :
    let record : ValidRecord := ⟨_, hvalid⟩
    let r := prepareAndCommit parquetPlan catalogPlan record d fs
    (r.outcome = .crashed ∧ ∀ t ∈ r.visited, BeforeCommit record d₀.partitions c₀ t) ∨
      (r.outcome = .returned () ∧ (∀ f ∈ r.faults, Crashing f) ∧ ∃ before t,
        r.visited = before ++ [t] ∧ (∀ x ∈ before, BeforeCommit record d₀.partitions c₀ x) ∧
        ∃ temporaries, Finishable record.committed parquetPlan.contents c₀ temporaries t) := by
  intro record r
  obtain ⟨hfs₁, hvis₁, hend₁⟩ := Process.Keeps.crashing (prepareAndPromote_keeps
    (A := Crashing) d₀.partitions (nodup_of_valid hvalid) hready.originals hready.planned.1
    (fun file => ignores_journaled file)) ⟨hfresh, hjournal⟩ hfs
  set r₁ := prepareAndPromote parquetPlan catalogPlan d fs with hr₁
  have hbefore₁ : ∀ t ∈ r₁.visited, BeforeCommit record d₀.partitions c₀ t := fun t ht =>
    .inl ⟨temporaries, (hvis₁ t ht).1.undoable hready hvalid (hvis₁ t ht).2⟩
  rcases hend₁ with hout₁ | ⟨u, hout₁, hreversible, hpromoted, hjournal₁⟩
  · have hr : r = ⟨.crashed, r₁.visited, r₁.faults⟩ := Process.andThen_crashed hout₁
    rw [hr]
    exact .inl ⟨rfl, hbefore₁⟩
  -- The journal becomes COMMITTED with its last operation.
  have hr := Process.andThen_returned (q := fun _ => writeJournal record.committed) hout₁
  rw [← hr₁] at hr
  replace hr : r = _ := hr
  obtain ⟨hfs₂, h₂⟩ := writeJournal_crash record.committed (r₁.final d) hfs₁
  let opened : Disk :=
    { r₁.final d with
      journalTemporaries :=
        (r₁.final d).journalTemporaries.insert record.committed.transactionId }
  have hopened : BeforeCommit record d₀.partitions c₀ opened := by
    have hundo := hreversible.undoable hready hvalid hjournal₁
    exact .inl ⟨_, ⟨hundo.journal.pending, hundo.journal.own, rfl⟩, hundo.partitions,
      hundo.catalog⟩
  rcases h₂ with ⟨hout₂, hvis₂⟩ | ⟨hout₂, hvis₂⟩
  · rw [hr]
    refine .inl ⟨hout₂, fun t ht => ?_⟩
    rcases List.mem_append.mp ht with ht | ht
    · exact hbefore₁ t ht
    · rw [hvis₂ t ht]
      exact hopened
  · rw [hr]
    refine .inr ⟨hout₂, hfs₂, r₁.visited ++ [opened, opened], _, ?_, fun x hx => ?_, _,
      Promoted.finishable hready hvalid (hjournal₁.written record.committed
        fun r hr => List.mem_singleton.mp hr ▸ rfl) hpromoted⟩
    · simp only [hvis₂, List.append_assoc, List.cons_append, List.nil_append]
      rfl
    · rcases List.mem_append.mp hx with hx | hx
      · exact hbefore₁ x hx
      · rw [List.mem_pair, or_self] at hx
        rw [hx]
        exact hopened

/-- **The states a crash can leave**: the run was cut before the journal became COMMITTED, or
it went through that write. -/
theorem executeRecord_crash (hready : Ready parquetPlan catalogPlan c₀ d₀)
    (htx : parquetPlan.transactionId = catalogPlan.transactionId)
    (hvalid : (recordOf parquetPlan catalogPlan version .prepared).validate = .ok ())
    {fs : List Fault} (hfs : ∀ f ∈ fs, Crashing f) :
    let record : ValidRecord := ⟨_, hvalid⟩
    let r := executeRecord parquetPlan catalogPlan record d₀ fs
    (r.outcome = .crashed ∧ ∀ t ∈ r.visited, BeforeCommit record d₀.partitions c₀ t) ∨
      ((r.outcome = .crashed ∨ r.outcome = .returned ()) ∧
        ∃ before t after, r.visited = before ++ t :: after ∧
          (∃ temporaries, Finishable record.committed parquetPlan.contents c₀ temporaries t) ∧
          ∀ x ∈ after, AfterCommit record.committed parquetPlan.contents c₀ x) := by
  intro record r
  have hsettled := hready.settled version .prepared
  obtain ⟨hfs₁, h₁⟩ := writeJournal_crash record d₀ hfs
  set r₁ := writeJournal record d₀ fs with hr₁
  have hopened : BeforeCommit record d₀.partitions c₀
      { d₀ with journalTemporaries := d₀.journalTemporaries.insert record.transactionId } :=
    .inr ⟨_, ⟨hsettled.journal.pending, hsettled.journal.own, rfl⟩, hsettled.partitions,
      hsettled.catalog, hsettled.clean.partitions, hsettled.clean.catalog⟩
  rcases h₁ with ⟨hout₁, hvis₁⟩ | ⟨hout₁, hvis₁⟩
  · have hr : r = ⟨.crashed, r₁.visited, r₁.faults⟩ := Process.andThen_crashed hout₁
    rw [hr]
    exact .inl ⟨rfl, fun t ht => hvis₁ t ht ▸ hopened⟩
  have hr := Process.andThen_returned (q := fun _ => Process.andThen
    (Process.onRaise (prepareAndCommit parquetPlan catalogPlan record) fun _ =>
      rollbackBeforeCommit record)
    fun _ => Process.orElse (finalize record.committed) fun _ =>
      restoreCommittedJournal record.committed) hout₁
  replace hr : r = _ := hr
  -- The files are as they were, and the journal is PREPARED.
  have hfinal₁ : r₁.final d₀ = ((Disk.removeJournalTemporary
      { d₀ with journalTemporaries := d₀.journalTemporaries.insert record.transactionId }
        record.transactionId).insertJournal record) := by
    rw [Ran.final, hvis₁]
    rfl
  have hjournal₁ : Journaled record.datasetKey record.transactionId [record] _ (r₁.final d₀) :=
    hfinal₁ ▸ hsettled.journal.written record (by simp)
  have hfresh₁ : Fresh parquetPlan catalogPlan d₀.partitions c₀ (r₁.final d₀) :=
    hfinal₁ ▸ hready.fresh htx
  have hbefore₁ : ∀ t ∈ r₁.visited, BeforeCommit record d₀.partitions c₀ t := by
    intro t ht
    rw [hvis₁] at ht
    simp only [List.mem_cons, List.not_mem_nil, or_false] at ht
    rcases ht with rfl | rfl | rfl
    · exact hopened
    · exact hopened
    · rw [← hfinal₁]
      exact .inl ⟨_, (hfresh₁.reversible (A := Crashing)).undoable hready hvalid hjournal₁⟩
  have h₂ := prepareAndCommit_crash hready hvalid hfs₁ hfresh₁ hjournal₁
  set r₂ := prepareAndCommit parquetPlan catalogPlan record (r₁.final d₀) r₁.faults with hr₂
  have honRaise : Process.onRaise (prepareAndCommit parquetPlan catalogPlan record)
      (fun _ => rollbackBeforeCommit record) (r₁.final d₀) r₁.faults = r₂ := by
    refine Process.onRaise_of_not_raised fun e he => ?_
    rw [← hr₂] at he
    rcases h₂ with ⟨hout, -⟩ | ⟨hout, -⟩ <;> rw [he] at hout <;> cases hout
  rcases h₂ with ⟨hout₂, hvis₂⟩ | ⟨hout₂, hfs₂, before, t, hvis₂, hbefore₂, temporaries, hfinish⟩
  · rw [hr, ← hr₁, Process.andThen_crashed ((congrArg Ran.outcome honRaise).trans hout₂), honRaise]
    refine .inl ⟨rfl, fun t ht => ?_⟩
    rcases List.mem_append.mp ht with ht | ht
    · exact hbefore₁ t ht
    · exact hvis₂ t ht
  -- The cleanup, cut or not.
  have hfinal₂ : r₂.final (r₁.final d₀) = t := by
    rw [Ran.final, hvis₂, List.getLastD_concat]
  have hfinalize : Process.Keeps Crashing
      (Finishable record.committed parquetPlan.contents c₀ temporaries)
      (Process.orElse (finalize record.committed) fun _ =>
        restoreCommittedJournal record.committed) _ _ :=
    Process.Keeps.orElse finalize_keeps fun hA => absurd hA not_canRaise_crashing
  obtain ⟨-, hvis₃, hend₃⟩ := Process.Keeps.crashing hfinalize hfinish hfs₂
  rw [hr, ← hr₁, Process.andThen_returned ((congrArg Ran.outcome honRaise).trans hout₂), honRaise,
    hfinal₂]
  refine .inr ⟨hend₃.imp id fun h => h.choose_spec.1, r₁.visited ++ before, t, _, ?_,
    ⟨temporaries, hfinish⟩, fun x hx => (hvis₃ x hx).imp (fun h => ⟨_, h⟩) fun h => ⟨_, h⟩⟩
  have hvisited : r₂.visited = before ++ [t] := hvis₂
  simp only [hvisited, List.append_assoc, List.cons_append, List.nil_append]
  rfl

/-! ### After the crash -/

/-- A commit of another dataset leaves the journals of this one, the files of the transaction
and its catalog entries as they are. -/
structure OtherCommit (parquetPlan : ParquetUpsertPlan) (catalogPlan : CatalogPlan)
    (d d' : Disk) : Prop where
  pending : d'.pendingRecords catalogPlan.datasetKey = d.pendingRecords catalogPlan.datasetKey
  own : ∀ r ∈ d'.journals, r.transactionId = parquetPlan.transactionId → r ∈ d.journals
  partitions : ∀ p ∈ parquetPlan.partitions,
    d'.files (.partition p.target) = d.files (.partition p.target) ∧
      d'.files (.partitionTemporary p.target parquetPlan.transactionId) =
        d.files (.partitionTemporary p.target parquetPlan.transactionId) ∧
      d'.files (.partitionBackup p.target parquetPlan.transactionId) =
        d.files (.partitionBackup p.target parquetPlan.transactionId)
  catalogFiles : d'.files (.catalogTemporary parquetPlan.transactionId) =
      d.files (.catalogTemporary parquetPlan.transactionId) ∧
    d'.files (.catalogBackup parquetPlan.transactionId) =
      d.files (.catalogBackup parquetPlan.transactionId)
  catalog : ∃ c c', d.files .catalog = some (.catalog c) ∧ d'.files .catalog = some (.catalog c') ∧
    catalogPlan.owned c' = catalogPlan.owned c

/-- What happens between a crash and a recovery that completes: commits of other datasets, and
recoveries of this one, crashed or not. -/
inductive Aftermath (parquetPlan : ParquetUpsertPlan) (catalogPlan : CatalogPlan) (d : Disk) :
    Disk → Prop
  | start : Aftermath parquetPlan catalogPlan d d
  | commit {d' d'' : Disk} : Aftermath parquetPlan catalogPlan d d' →
      OtherCommit parquetPlan catalogPlan d' d'' → Aftermath parquetPlan catalogPlan d d''
  | recovery {d' : Disk} (fs : List Fault) : Aftermath parquetPlan catalogPlan d d' →
      (∀ f ∈ fs, Crashing f) →
      Aftermath parquetPlan catalogPlan d
        ((recoverDataset catalogPlan.datasetKey d' fs).final d')

/-- A phase that other commits and recoveries keep. -/
theorem Aftermath.keeps {d' : Disk} (h : Aftermath parquetPlan catalogPlan d d')
    (Phase : CatalogState → Disk → Prop)
    (hcommit : ∀ d d' c, OtherCommit parquetPlan catalogPlan d d' → Phase c d → ∃ c, Phase c d')
    (hrecovery : ∀ c, Process.Keeps Crashing (Phase c) (recoverDataset catalogPlan.datasetKey)
      (Phase c) fun _ => Phase c)
    (hd : ∃ c, Phase c d) : ∃ c, Phase c d' := by
  induction h with
  | start => exact hd
  | commit _ hother ih =>
    obtain ⟨c, hc⟩ := ih
    exact hcommit _ _ c hother hc
  | recovery fs _ hfs ih =>
    obtain ⟨c, hc⟩ := ih
    exact ⟨c, (hrecovery c).final_of_pre (fun _ h => h) hc hfs⟩

section

variable {record : JournalRecord} {value : String → Option FileContent}
  {owned : Option DatasetMetadata × Option IngestionRunRecord × Option ChunkCommitReceipt}
  {others : CatalogState} {d' : Disk}

/-- A catalog of which `P` says something about the owned entries only. -/
theorem OtherCommit.catalogHolds (h : OtherCommit parquetPlan catalogPlan d d')
    {P : CatalogState → Prop}
    (hP : ∀ c c', catalogPlan.owned c' = catalogPlan.owned c → P c → P c')
    (hd : CatalogHolds (fun c => P c ∧ catalogPlan.Untouched others c) d) :
    ∃ c, CatalogHolds (fun c' => P c' ∧ catalogPlan.Untouched c c') d' := by
  obtain ⟨c, c', hc, hc', howned⟩ := h.catalog
  obtain ⟨c₁, hc₁, hPc, -⟩ := hd
  rw [hc] at hc₁
  cases hc₁
  exact ⟨c', c', hc', hP c c' howned hPc, CatalogMutation.Untouched.refl ..⟩

theorem OtherCommit.journaled (h : OtherCommit parquetPlan catalogPlan d d')
    {records : List ValidRecord}
    (hd : Journaled catalogPlan.datasetKey parquetPlan.transactionId records temporaries d) :
    Journaled catalogPlan.datasetKey parquetPlan.transactionId records d'.journalTemporaries d' :=
  ⟨h.pending.trans hd.pending, fun r hr hid => hd.own r (h.own r hr hid) hid, rfl⟩

/-- The shape of the journals a transaction writes. -/
theorem OtherCommit.settled (h : OtherCommit parquetPlan catalogPlan d d') (version : String)
    (state : JournalState)
    (hd : Settled (recordOf parquetPlan catalogPlan version state) value owned others temporaries
      d) :
    ∃ c, Settled (recordOf parquetPlan catalogPlan version state) value owned c
      d'.journalTemporaries d' := by
  obtain ⟨c, hc⟩ := h.catalogHolds (fun c c' heq hc => heq.trans hc) hd.catalog
  refine ⟨c, h.journaled hd.journal, fun a ha => ?_, hc, fun a ha => ?_, ?_⟩
  · obtain ⟨p, hp, rfl⟩ := List.mem_map.mp ha
    exact (h.partitions p hp).1.trans (hd.partitions _ ha)
  · obtain ⟨p, hp, rfl⟩ := List.mem_map.mp ha
    exact ⟨(h.partitions p hp).2.1.trans (hd.clean.partitions _ ha).1,
      (h.partitions p hp).2.2.trans (hd.clean.partitions _ ha).2⟩
  · exact ⟨h.catalogFiles.1.trans hd.clean.catalog.1, h.catalogFiles.2.trans hd.clean.catalog.2⟩

/-- The catalog a settled disk has. -/
theorem Settled.rebase (h : Settled record value owned others temporaries d) :
    ∃ c, d.files .catalog = some (.catalog c) ∧ Settled record value owned c temporaries d := by
  obtain ⟨c, hc, howned, -⟩ := h.catalog
  exact ⟨c, hc, h.journal, h.partitions, ⟨c, hc, howned, CatalogMutation.Untouched.refl ..⟩,
    h.clean⟩

end

/-! ### Atomicity -/

/-- Partitions and owned catalog entries are as they were on `d₀`. -/
structure ValuesBefore (parquetPlan : ParquetUpsertPlan) (catalogPlan : CatalogPlan)
    (d₀ d : Disk) : Prop where
  partitions : ∀ p ∈ parquetPlan.partitions,
    d.files (.partition p.target) = d₀.files (.partition p.target)
  catalog : ∃ c₀ c, d₀.files .catalog = some (.catalog c₀) ∧ d.files .catalog = some (.catalog c) ∧
    catalogPlan.owned c = catalogPlan.owned c₀

/-- Partitions and owned catalog entries are the intended ones. -/
structure ValuesIntended (parquetPlan : ParquetUpsertPlan) (catalogPlan : CatalogPlan)
    (d : Disk) : Prop where
  partitions : ∀ p ∈ parquetPlan.partitions,
    d.files (.partition p.target) = some (.candles p.candles)
  catalog : ∃ c, d.files .catalog = some (.catalog c) ∧ catalogPlan.owned c = catalogPlan.intended

/-- The catalog entries of others are the same on two disks. -/
def OthersUntouched (catalogPlan : CatalogPlan) (d d' : Disk) : Prop :=
  ∃ c c', d.files .catalog = some (.catalog c) ∧ d'.files .catalog = some (.catalog c') ∧
    catalogPlan.Untouched c c'

/-- No temporary, backup or journal of the transaction is left. -/
structure NothingLeft (parquetPlan : ParquetUpsertPlan) (d : Disk) : Prop where
  journals : ∀ r ∈ d.journals, r.transactionId ≠ parquetPlan.transactionId
  journalTemporaries : parquetPlan.transactionId ∉ d.journalTemporaries
  partitions : ∀ p ∈ parquetPlan.partitions,
    d.files (.partitionTemporary p.target parquetPlan.transactionId) = none ∧
      d.files (.partitionBackup p.target parquetPlan.transactionId) = none
  catalog : d.files (.catalogTemporary parquetPlan.transactionId) = none ∧
    d.files (.catalogBackup parquetPlan.transactionId) = none

section

variable {owned : Option DatasetMetadata × Option IngestionRunRecord × Option ChunkCommitReceipt}
  {value : String → Option FileContent} {state : JournalState} {c : CatalogState} {d' : Disk}

/-- What is settled leaves nothing behind. -/
theorem Settled.nothingLeft
    (h : Settled (recordOf parquetPlan catalogPlan version state) value owned c [] d) :
    NothingLeft parquetPlan d where
  journals := fun r hr hid => absurd (h.journal.own r hr hid) List.not_mem_nil
  journalTemporaries := by
    rw [h.journal.incomplete]
    exact List.not_mem_nil
  partitions := fun p hp => h.clean.partitions ⟨p.target, p.hadOriginal⟩
    (List.mem_map.mpr ⟨p, hp, rfl⟩)
  catalog := h.clean.catalog

theorem Settled.valuesBefore (hready : Ready parquetPlan catalogPlan c₀ d₀)
    (h : Settled (recordOf parquetPlan catalogPlan version state) d₀.partitions
      catalogPlan.before c [] d) : ValuesBefore parquetPlan catalogPlan d₀ d := by
  obtain ⟨c', hc', howned, -⟩ := h.catalog
  exact ⟨fun p hp => h.partitions ⟨p.target, p.hadOriginal⟩ (List.mem_map.mpr ⟨p, hp, rfl⟩),
    c₀, c', hready.catalog, hc', howned.trans hready.planned.2.1.symm⟩

theorem Settled.valuesIntended
    (hvalid : (recordOf parquetPlan catalogPlan version .prepared).validate = .ok ())
    (h : Settled (recordOf parquetPlan catalogPlan version state) parquetPlan.contents
      catalogPlan.intended c [] d) : ValuesIntended parquetPlan catalogPlan d := by
  obtain ⟨c', hc', howned, -⟩ := h.catalog
  exact ⟨fun p hp => (h.partitions ⟨p.target, p.hadOriginal⟩ (List.mem_map.mpr ⟨p, hp, rfl⟩)).trans
    (parquetPlan.contents_of_mem (nodup_of_valid hvalid) hp), c', hc', howned⟩

/-- The two outcomes exclude each other. -/
theorem ValuesBefore.not_intended (hready : Ready parquetPlan catalogPlan c₀ d₀)
    (h : ValuesBefore parquetPlan catalogPlan d₀ d)
    (h' : ValuesIntended parquetPlan catalogPlan d) : False := by
  obtain ⟨-, hbefore, -, -, hne⟩ := hready.planned
  obtain ⟨c, c', hc, hc', howned⟩ := h.catalog
  obtain ⟨c'', hc'', hintended⟩ := h'.catalog
  rw [hready.catalog] at hc
  cases hc
  rw [hc'] at hc''
  cases hc''
  exact hne (hbefore.symm.trans (howned.symm.trans hintended))

end

/-- The protocol runs on a valid journal, or not at all. -/
theorem execute_cases (parquetPlan : ParquetUpsertPlan) (catalogPlan : CatalogPlan)
    (version : String) :
    (∃ (_ : parquetPlan.transactionId = catalogPlan.transactionId)
      (hvalid : (recordOf parquetPlan catalogPlan version .prepared).validate = .ok ()),
      execute parquetPlan catalogPlan version =
        executeRecord parquetPlan catalogPlan ⟨_, hvalid⟩) ∨
    ∃ e, execute parquetPlan catalogPlan version = Process.raise e := by
  unfold execute
  split
  · exact .inr ⟨_, rfl⟩
  · next htx =>
    split
    · exact .inr ⟨_, rfl⟩
    · next hvalid => exact .inl ⟨not_not.mp htx, hvalid, rfl⟩

/-! ### Recovering a phase -/

section

variable {A : Fault → Prop} {record : ValidRecord} {original intended : String → Option FileContent}
  {others : CatalogState}

/-- Before the commit a recovery restores everything. -/
theorem recoverDataset_beforeCommit (hprepared : record.state = .prepared)
    (horiginal : ∀ a ∈ record.partitions, a.hadOriginal = (original a.target).isSome) :
    Process.Keeps A (BeforeCommit record original others) (recoverDataset record.datasetKey)
      (BeforeCommit record original others)
      (fun _ => Settled record.toJournalRecord original record.before others []) :=
  Process.Meets.or
    (Process.Keeps.weaken (recoverDataset_undoable hprepared horiginal) (fun _ h => h)
      (fun _ h => h.imp id fun h => ⟨[], h⟩) fun _ _ h => h)
    (Process.Keeps.weaken recoverDataset_settled (fun _ h => h) (fun _ h => .inr h) fun _ _ h => h)

/-- After the commit a recovery finishes everything. -/
theorem recoverDataset_afterCommit (hcommitted : record.state = .committed) :
    Process.Keeps A (AfterCommit record intended others) (recoverDataset record.datasetKey)
      (AfterCommit record intended others)
      (fun _ => Settled record.toJournalRecord intended record.intended others []) :=
  Process.Meets.or
    (Process.Keeps.weaken (recoverDataset_finishable hcommitted) (fun _ h => h)
      (fun _ h => h.imp id fun h => ⟨[], h⟩) fun _ _ h => h)
    (Process.Keeps.weaken recoverDataset_settled (fun _ h => h) (fun _ h => .inr h) fun _ _ h => h)

/-- A phase says the same about the catalog it is met with. -/
theorem BeforeCommit.rebase (h : BeforeCommit record original others d) :
    ∃ c, d.files .catalog = some (.catalog c) ∧ BeforeCommit record original c d := by
  rcases h with ⟨t, h⟩ | ⟨t, h⟩
  · obtain ⟨c, hc, hrec, -⟩ := h.catalog
    exact ⟨c, hc, .inl ⟨t, h.journal, h.partitions, c, hc, hrec,
      CatalogMutation.Untouched.refl ..⟩⟩
  · obtain ⟨c, hc, h'⟩ := h.rebase
    exact ⟨c, hc, .inr ⟨t, h'⟩⟩

theorem AfterCommit.rebase (h : AfterCommit record intended others d) :
    ∃ c, d.files .catalog = some (.catalog c) ∧ AfterCommit record intended c d := by
  rcases h with ⟨t, h⟩ | ⟨t, h⟩
  · obtain ⟨c, hc, hrec, -⟩ := h.catalog
    exact ⟨c, hc, .inl ⟨t, h.journal, h.partitions, c, hc, hrec,
      CatalogMutation.Untouched.refl ..⟩⟩
  · obtain ⟨c, hc, h'⟩ := h.rebase
    exact ⟨c, hc, .inr ⟨t, h'⟩⟩

end

section

variable {d' : Disk} {c : CatalogState} {original : String → Option FileContent}
  (hvalid : (recordOf parquetPlan catalogPlan version .prepared).validate = .ok ())

/-- Another commit keeps the phase before the commit. -/
theorem OtherCommit.beforeCommit (h : OtherCommit parquetPlan catalogPlan d d')
    (hd : BeforeCommit ⟨_, hvalid⟩ original c d) :
    ∃ c, BeforeCommit ⟨_, hvalid⟩ original c d' := by
  rcases hd with ⟨t, hd⟩ | ⟨t, hd⟩
  · obtain ⟨c', hc'⟩ := h.catalogHolds (P := fun c => catalogPlan.recognizes c = true)
      (fun c c' heq hc => (recognizes_congr heq).trans hc) hd.catalog
    refine ⟨c', .inl ⟨_, h.journaled hd.journal, fun a ha => ?_, hc'⟩⟩
    obtain ⟨p, hp, rfl⟩ := List.mem_map.mp ha
    have hp' := hd.partitions _ ha
    obtain ⟨htarget, -, hbackup⟩ := h.partitions p hp
    unfold JournalArtifact.Restorable Restorable at hp' ⊢
    change (d'.files (.partitionBackup p.target parquetPlan.transactionId) = none ∧
      (original p.target = none ∨ d'.files (.partition p.target) = original p.target)) ∨
      (original p.target ≠ none ∧
        d'.files (.partitionBackup p.target parquetPlan.transactionId) = original p.target)
    rw [htarget, hbackup]
    exact hp'
  · obtain ⟨c', hc'⟩ := h.settled version .prepared hd
    exact ⟨c', .inr ⟨_, hc'⟩⟩

/-- Another commit keeps the phase after the commit. -/
theorem OtherCommit.afterCommit (h : OtherCommit parquetPlan catalogPlan d d')
    (hd : AfterCommit (ValidRecord.committed ⟨_, hvalid⟩) original c d) :
    ∃ c, AfterCommit (ValidRecord.committed ⟨_, hvalid⟩) original c d' := by
  rcases hd with ⟨t, hd⟩ | ⟨t, hd⟩
  · obtain ⟨c', hc'⟩ := h.catalogHolds (P := fun c => catalogPlan.owned c = catalogPlan.intended)
      (fun c c' heq hc => heq.trans hc) hd.catalog
    refine ⟨c', .inl ⟨_, h.journaled hd.journal, fun a ha => ?_, hc'⟩⟩
    obtain ⟨p, hp, rfl⟩ := List.mem_map.mp ha
    exact (h.partitions p hp).1.trans (hd.partitions _ ha)
  · obtain ⟨c', hc'⟩ := h.settled version .committed hd
    exact ⟨c', .inr ⟨_, hc'⟩⟩

end

/-- A recovery whose phase is kept completes unless it crashes. -/
theorem recovery_completes {Phase Done : Disk → Prop} {datasetKey : String}
    (hrecovery : ∀ A, Process.Keeps A Phase (recoverDataset datasetKey) Phase fun _ => Done)
    (hd : Phase d) {fs : List Fault} (hfs : ∀ f ∈ fs, Crashing f) :
    ((recoverDataset datasetKey d fs).outcome = .crashed ∨
        (recoverDataset datasetKey d fs).outcome = .returned ()) ∧
      (recoverDataset datasetKey d []).outcome = .returned () ∧
      ((recoverDataset datasetKey d fs).outcome = .returned () →
        Done ((recoverDataset datasetKey d fs).final d)) := by
  obtain ⟨-, -, hend⟩ := Process.Keeps.crashing (hrecovery Crashing) hd hfs
  obtain ⟨u, hcompletes, -⟩ := (hrecovery Process.NoFault).noFault hd
  refine ⟨hend.imp id fun ⟨_, h, _⟩ => h, hcompletes, fun hreturned => ?_⟩
  rcases hend with h | ⟨_, -, h⟩
  · rw [hreturned] at h
    cases h
  · exact h

/-- What a completed recovery promises; `committed` says whether the journal became COMMITTED. -/
structure Atomic (parquetPlan : ParquetUpsertPlan) (catalogPlan : CatalogPlan) (committed : Prop)
    (d₀ d d' : Disk) : Prop where
  before : ValuesBefore parquetPlan catalogPlan d₀ d' ↔ ¬ committed
  intended : ValuesIntended parquetPlan catalogPlan d' ↔ committed
  others : OthersUntouched catalogPlan d d'
  nothingLeft : NothingLeft parquetPlan d'

section

variable {committed : Prop} {c : CatalogState} {d' : Disk} {state : JournalState}

/-- A recovery that leaves everything as before. -/
theorem Atomic.of_before (hready : Ready parquetPlan catalogPlan c₀ d₀) (hnot : ¬ committed)
    (hc : d.files .catalog = some (.catalog c))
    (h : Settled (recordOf parquetPlan catalogPlan version state) d₀.partitions catalogPlan.before c
      [] d') : Atomic parquetPlan catalogPlan committed d₀ d d' := by
  have hvalues := h.valuesBefore hready
  obtain ⟨c', hc', -, huntouched⟩ := h.catalog
  exact ⟨⟨fun _ => hnot, fun _ => hvalues⟩,
    ⟨fun h' => (hvalues.not_intended hready h').elim, fun h' => absurd h' hnot⟩,
    ⟨c, c', hc, hc', huntouched⟩, h.nothingLeft⟩

/-- A recovery that leaves everything as intended. -/
theorem Atomic.of_intended (version : String) (state : JournalState)
    (hready : Ready parquetPlan catalogPlan c₀ d₀)
    (hvalid : (recordOf parquetPlan catalogPlan version .prepared).validate = .ok ())
    (hcommitted : committed) (hc : d.files .catalog = some (.catalog c))
    (h : Settled (recordOf parquetPlan catalogPlan version state) parquetPlan.contents
      catalogPlan.intended c [] d') : Atomic parquetPlan catalogPlan committed d₀ d d' := by
  have hvalues := h.valuesIntended hvalid
  obtain ⟨c', hc', -, huntouched⟩ := h.catalog
  exact ⟨⟨fun h' => (h'.not_intended hready hvalues).elim, fun h' => absurd hcommitted h'⟩,
    ⟨fun _ => hcommitted, fun _ => hvalues⟩, ⟨c, c', hc, hc', huntouched⟩, h.nothingLeft⟩

end

end

/-! ### A sample transaction

The first candle of a dataset, ingested beside a partition that exists already. -/

/-- A run of the sample dataset. -/
def sampleRun (status : RunStatus) (finishedAt : Option String) (stored : ℤ) :
    IngestionRunRecord where
  runId := "00000000-0000-4000-8000-000000000001"
  datasetKey := "binance:spot:BTCUSDT:1d"
  status := status
  startedAt := "2026-01-01T00:00:00+00:00"
  finishedAt := finishedAt
  fetchedCount := stored
  storedCount := stored
  errorCode := none

/-- The catalog while the run is RUNNING. -/
def sampleCatalog : CatalogState :=
  { CatalogState.empty with
    runs := assign CatalogState.empty.runs "00000000-0000-4000-8000-000000000001"
      (some (sampleRun .running none 0)) }

/-- The checksum of the sample dataset. -/
def sampleChecksum : String := "0123456789abcdef0123456789abcdef0123456789abcdef0123456789abcdef"

def sampleDataset : DatasetMetadata where
  key := "binance:spot:BTCUSDT:1d"
  exchange := "binance"
  marketType := "spot"
  symbol := "BTCUSDT"
  nativeSymbol := "BTCUSDT"
  timeframe := "1d"
  location := "raw/binance/spot/BTCUSDT/1d"
  firstOpenTime := some "1970-01-01T00:00:00+00:00"
  lastOpenTime := some "1970-02-01T00:00:00+00:00"
  candleCount := 2
  version := sampleChecksum
  updatedAt := "2026-01-01T00:00:01+00:00"
  versionAlgorithm := "logical-v2"
  partitionIntegrity := none

def sampleCatalogPlan : CatalogPlan :=
  let mutation : CatalogMutation :=
    { datasetKey := sampleDataset.key
      datasetBefore := none
      datasetIntended := sampleDataset
      runId := "00000000-0000-4000-8000-000000000001"
      runBefore := sampleRun .running none 0
      runIntended := sampleRun .completed (some "2026-01-01T00:00:01+00:00") 2
      receiptKey := none
      receiptBefore := none
      receiptIntended := none }
  { mutation with
    transactionId := "00000000000040008000000000000002"
    hadOriginal := true
    content := mutation.put (some sampleDataset)
      (some (sampleRun .completed (some "2026-01-01T00:00:01+00:00") 2)) none sampleCatalog }

def sampleParquetPlan : ParquetUpsertPlan where
  transactionId := "00000000000040008000000000000002"
  partitions :=
    [⟨"1970/01/candles.parquet", true, [dailyCandle 0 100 110, dailyCandle 1 110 100]⟩,
      ⟨"1970/02/candles.parquet", false, [dailyCandle 31 100 100]⟩]
  checksum := sampleChecksum

/-- The disk the sample plans are made on. -/
def sampleDisk : Disk where
  journals := []
  journalTemporaries := []
  files
    | .partition target =>
        if target = "1970/01/candles.parquet" then some (.candles [dailyCandle 0 100 110]) else none
    | .catalog => some (.catalog sampleCatalog)
    | _ => none

theorem sampleDisk_ready : Ready sampleParquetPlan sampleCatalogPlan sampleCatalog sampleDisk where
  catalog := rfl
  plan := ⟨sampleRun .completed (some "2026-01-01T00:00:01+00:00") 2, sampleDataset, none, rfl⟩
  originals := by decide
  journals := fun _ h => absurd h List.not_mem_nil
  partitionFiles := fun _ _ => ⟨rfl, rfl⟩
  catalogFiles := ⟨rfl, rfl⟩

end MarketData
end DryTrade
