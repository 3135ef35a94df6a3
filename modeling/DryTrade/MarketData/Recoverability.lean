import DryTrade.MarketData.FailedIngestion

/-!
# Recoverability after a failed ingestion

A PREPARED journal that is still there after the error handling knows the run as
RUNNING or COMPLETED only, while the run is FAILED, so that no later recovery
accepts the catalog.  A COMMITTED journal that is still there makes every later
recovery remove the backups of a transaction that may have been undone in part.

## Main definitions

* `Recovers` — every later recovery succeeds, with the data of before or, after a
  commit, with the intended ones.
* `Recoverable` — the faults after which it does.

## Main results

* `failedIngestion_recovers_iff` — the two agree.
* `failedIngestion_blocks` — a failed ingestion that blocks its dataset.
-/

namespace DryTrade
namespace MarketData

/-! ### What a failed ingestion promises -/

section

variable {parquetPlan : ParquetUpsertPlan} {catalogPlan : CatalogPlan} {version : String}
  {c₀ : CatalogState} {d₀ d : Disk} {fs : List Fault}

/-- The dataset and receipt entries of a transaction. -/
def CatalogMutation.dataEntries (m : CatalogMutation) (c : CatalogState) :
    Option DatasetMetadata × Option ChunkCommitReceipt :=
  (c.datasets m.datasetKey, lookup c.receipts m.receiptKey)

/-- Partitions, dataset and receipt have the given values. -/
def HasData (parquetPlan : ParquetUpsertPlan) (catalogPlan : CatalogPlan)
    (value : String → Option FileContent)
    (entries : Option DatasetMetadata × Option ChunkCommitReceipt) (d : Disk) : Prop :=
  (∀ p ∈ parquetPlan.partitions, d.files (.partition p.target) = value p.target) ∧
    CatalogHolds (fun c => catalogPlan.dataEntries c = entries) d

/-- Partitions, dataset and receipt are as they were on `d₀`. -/
def DataBefore (parquetPlan : ParquetUpsertPlan) (catalogPlan : CatalogPlan) (d₀ d : Disk) :
    Prop :=
  ∃ c₀, d₀.files .catalog = some (.catalog c₀) ∧
    HasData parquetPlan catalogPlan d₀.partitions (catalogPlan.dataEntries c₀) d

/-- Partitions, dataset and receipt are the intended ones. -/
def DataIntended (parquetPlan : ParquetUpsertPlan) (catalogPlan : CatalogPlan) (d : Disk) : Prop :=
  (∀ p ∈ parquetPlan.partitions, d.files (.partition p.target) = some (.candles p.candles)) ∧
    CatalogHolds (fun c => catalogPlan.dataEntries c =
      (some catalogPlan.datasetIntended, catalogPlan.receiptIntended)) d

/-- The journal of the transaction is COMMITTED on a disk. -/
def CommittedOn (transactionId : String) (d : Disk) : Prop :=
  ∃ record ∈ d.journals, record.transactionId = transactionId ∧ record.state = .committed

/-- Every later recovery succeeds, and brings back the values from before the ingestion, or the
intended ones if the failed ingestion left a COMMITTED journal. -/
def Recovers (parquetPlan : ParquetUpsertPlan) (catalogPlan : CatalogPlan)
    (d₀ failed handled : Disk) : Prop :=
  ∀ d, Later catalogPlan.datasetKey handled d →
    let r := recoverDataset catalogPlan.datasetKey d []
    r.outcome = .returned () ∧
      (¬ CommittedOn parquetPlan.transactionId failed →
        DataBefore parquetPlan catalogPlan d₀ (r.final d)) ∧
      (CommittedOn parquetPlan.transactionId failed →
        DataIntended parquetPlan catalogPlan (r.final d))

/-- The plan gives every partition new candles. -/
def Changes (parquetPlan : ParquetUpsertPlan) (d : Disk) : Prop :=
  ∀ p ∈ parquetPlan.partitions, d.files (.partition p.target) ≠ some (.candles p.candles)

/-- **What may happen to the rollback of the running process.**  No operation of it raises; or
the last one does, after it took effect; or the first one does, before it took effect, with the
catalog promoted; or, where the journal is COMMITTED and the plan changes neither dataset nor
receipt, one raises before any partition was restored. -/
def RollbackSafe (catalogPlan : CatalogPlan) (record : ValidRecord) (d : Disk)
    (fs : List Fault) : Prop :=
  ∀ m, raisedAfter (rollbackOps record d).length fs = some m →
    m = (rollbackOps record d).length ∨
    (m = 0 ∧ d.files .catalog = some (.catalog catalogPlan.content)) ∨
    (2 ≤ m ∧ CommittedOn record.transactionId d ∧
      catalogPlan.datasetBefore = some catalogPlan.datasetIntended ∧
      catalogPlan.receiptBefore = catalogPlan.receiptIntended ∧
      (m = 2 ∨ record.partitions = []))

/-- **The faults a failed ingestion recovers from**: the write of the PREPARED journal does not
raise after its rename, and the rollback of the running process, if it comes to it, is safe. -/
def Recoverable (parquetPlan : ParquetUpsertPlan) (catalogPlan : CatalogPlan) (version : String)
    (d₀ : Disk) (fs : List Fault) : Prop :=
  parquetPlan.transactionId = catalogPlan.transactionId →
  ∀ hvalid : (recordOf parquetPlan catalogPlan version .prepared).validate = .ok (),
    let prepared := writeJournal ⟨_, hvalid⟩ d₀ fs
    let attempt := prepareAndCommit parquetPlan catalogPlan ⟨_, hvalid⟩ (prepared.final d₀)
      prepared.faults
    raisedAfter 3 fs ≠ some 3 ∧ (raisedAfter 3 fs = none →
      RollbackSafe catalogPlan ⟨_, hvalid⟩ (attempt.final (prepared.final d₀)) attempt.faults)

theorem ignores_hasData {value : String → Option FileContent}
    {entries : Option DatasetMetadata × Option ChunkCommitReceipt} {file : MarketFile}
    (hcatalog : MarketFile.catalog ≠ file) (hpartition : ∀ t, MarketFile.partition t ≠ file) :
    Ignores (HasData parquetPlan catalogPlan value entries) file :=
  fun d content h => ⟨fun p hp => (d.set_files_of_ne content (hpartition p.target)).trans (h.1 p hp),
    ignores_catalogHolds hcatalog d content h.2⟩

/-! ### Phases after the error handling -/

/-- The journal of the dataset, if any, is `records`. -/
abbrev JournaledSome (catalogPlan : CatalogPlan) (parquetPlan : ParquetUpsertPlan)
    (records : List ValidRecord) (d : Disk) : Prop :=
  ∃ temporaries, Journaled catalogPlan.datasetKey parquetPlan.transactionId records temporaries d

/-- Failing abandoned runs keeps journals, partitions and data entries. -/
theorem markAbandonedRunsFailed_data {A : Fault → Prop} {value : String → Option FileContent}
    {entries : Option DatasetMetadata × Option ChunkCommitReceipt} {records : List ValidRecord}
    (now : String) (runIds : List String) :
    Process.Keeps A
      (fun d => JournaledSome catalogPlan parquetPlan records d ∧
        HasData parquetPlan catalogPlan value entries d)
      (markAbandonedRunsFailed now runIds)
      (fun d => JournaledSome catalogPlan parquetPlan records d ∧
        HasData parquetPlan catalogPlan value entries d)
      (fun _ d => JournaledSome catalogPlan parquetPlan records d ∧
        HasData parquetPlan catalogPlan value entries d) := by
  let F : Disk → Prop := fun d => JournaledSome catalogPlan parquetPlan records d ∧
    ∀ p ∈ parquetPlan.partitions, d.files (.partition p.target) = value p.target
  have hF : ∀ file, (∀ t, MarketFile.partition t ≠ file) → Ignores F file :=
    fun file ht d content h => ⟨h.1.imp fun _ h => ignores_journaled file d content h,
      fun p hp => (d.set_files_of_ne content (ht p.target)).trans (h.2 p hp)⟩
  refine Process.Keeps.weaken (markAbandonedRunsFailed_keeps (F := F)
    (P := fun c => catalogPlan.dataEntries c = entries) now ?_ (hF _ (by simp)) (hF _ (by simp))
    runIds) (fun d h => ⟨h.2.2, h.1, h.2.1⟩) (fun d h => ⟨h.2.1, h.2.2, h.1⟩)
    fun _ d h => ⟨h.2.1, h.2.2, h.1⟩
  intro runId c c' hmark hentries
  obtain ⟨hdatasets, hreceipts, -⟩ := markAbandonedRunFailed_cases hmark
  rw [← hentries, CatalogMutation.dataEntries, CatalogMutation.dataEntries, hdatasets, hreceipts]

/-- A recovery without a journal changes nothing but incomplete journal writes. -/
theorem recoverDataset_none {A : Fault → Prop} {K : Disk → Prop}
    (hK : ∀ d journals temporaries, K d →
      K { d with journals := journals, journalTemporaries := temporaries }) :
    Process.Keeps A (fun d => JournaledSome catalogPlan parquetPlan [] d ∧ K d)
      (recoverDataset catalogPlan.datasetKey) (fun _ => True)
      (fun _ d => JournaledSome catalogPlan parquetPlan [] d ∧ K d) := by
  let M : Disk → Prop := fun d => JournaledSome catalogPlan parquetPlan [] d ∧ K d
  refine recoverDataset_keeps [] (M := M) (Process.Keeps.weaken
    (removeIncompleteJournalWrites_keeps (F := M) ?_) (fun _ h => h) (fun _ _ => trivial)
      fun _ _ h => h.1)
    (fun d hd => hd.1.elim fun _ h => h.pending) (Process.Meets.pure fun _ h => h)
    fun d hd => hd.1.elim fun _ h => h.pending
  rintro d name ⟨⟨t, hjournal⟩, hKd⟩
  exact ⟨⟨_, hjournal.removeJournalTemporary name⟩, hK d _ _ hKd⟩

/-- A recovery of a COMMITTED journal changes neither partitions nor catalog. -/
theorem recoverDataset_committed {A : Fault → Prop}
    (hvalid : (recordOf parquetPlan catalogPlan version .prepared).validate = .ok ())
    {K : Disk → Prop} (hK : ∀ file, MarketFile.catalog ≠ file →
      (∀ t, MarketFile.partition t ≠ file) → Ignores K file)
    (hKj : ∀ d journals temporaries, K d →
      K { d with journals := journals, journalTemporaries := temporaries }) :
    Process.Keeps A
      (fun d => JournaledSome catalogPlan parquetPlan [ValidRecord.committed ⟨_, hvalid⟩] d ∧ K d)
      (recoverDataset catalogPlan.datasetKey) (fun _ => True)
      (fun _ d => JournaledSome catalogPlan parquetPlan [] d ∧ K d) := by
  let record : ValidRecord := ValidRecord.committed ⟨_, hvalid⟩
  let M : Disk → Prop := fun d => JournaledSome catalogPlan parquetPlan [record] d ∧ K d
  have hM : ∀ file, MarketFile.catalog ≠ file → (∀ t, MarketFile.partition t ≠ file) →
      Ignores M file := fun file hc ht d content h =>
    ⟨h.1.imp fun _ h => ignores_journaled file d content h, hK file hc ht d content h.2⟩
  have hrecover : Process.Keeps A M (recoverRecord record) (fun _ => True)
      (fun _ d => JournaledSome catalogPlan parquetPlan [] d ∧ K d) := by
    refine Process.Meets.bind (Process.Keeps.weaken (cleanupArtifacts_keeps (F := M)
      (fun t => ⟨hM _ (by simp) (by simp), hM _ (by simp) (by simp)⟩)
      ⟨hM _ (by simp) (by simp), hM _ (by simp) (by simp)⟩) (fun _ h => h) (fun _ _ => trivial)
      fun _ _ h => h.1) fun _ => keeps_operation (fun _ _ => trivial) fun d hd => ⟨trivial, ?_⟩
    obtain ⟨⟨t, hjournal⟩, hKd⟩ := hd
    exact ⟨⟨t, hjournal.removeJournal fun r hr => List.mem_singleton.mp hr ▸ rfl⟩, hKj d _ _ hKd⟩
  refine recoverDataset_keeps [record] (M := M) (Process.Keeps.weaken
    (removeIncompleteJournalWrites_keeps (F := M) ?_) (fun _ h => h) (fun _ _ => trivial)
      fun _ _ h => h.1)
    (fun d hd => hd.1.elim fun _ h => h.pending)
    (Process.Meets.bind hrecover fun _ => Process.Meets.pure fun _ h => h)
    fun d hd => hd.1.elim fun _ h => h.pending
  rintro d name ⟨⟨t, hjournal⟩, hKd⟩
  exact ⟨⟨_, hjournal.removeJournalTemporary name⟩, hKj d _ _ hKd⟩

/-- **A recovery that is refused**: the catalog has none of the values the PREPARED journal
knows. -/
theorem recoverDataset_refused {record : ValidRecord} (hprepared : record.state = .prepared) :
    Process.Meets Process.NoFault
      (fun d => (∃ temporaries, Journaled record.datasetKey record.transactionId [record]
        temporaries d) ∧ ∀ c, loadCatalog d = .ok c → record.recognizes c = false)
      (recoverDataset record.datasetKey) (fun _ => True) (fun _ _ => False) (fun _ _ => True) := by
  let P : Disk → Prop := fun d => (∃ temporaries, Journaled record.datasetKey
    record.transactionId [record] temporaries d) ∧
      ∀ c, loadCatalog d = .ok c → record.recognizes c = false
  have hstart : Process.Keeps Process.NoFault P removeIncompleteJournalWrites (fun _ => True)
      (fun _ => P) := by
    refine Process.Keeps.weaken (removeIncompleteJournalWrites_keeps (F := P) ?_) (fun _ h => h)
      (fun _ _ => trivial) fun _ _ h => h.1
    rintro d name ⟨⟨t, hjournal⟩, hcatalog⟩
    exact ⟨⟨_, hjournal.removeJournalTemporary name⟩, hcatalog⟩
  have hrollback : Process.Meets Process.NoFault P (rollbackCatalog record) (fun _ => True)
      (fun _ _ => False) (fun _ _ => True) := by
    refine Process.Meets.bind (M := fun d d' => d' = d ∧ P d)
      (Process.Meets.read fun d hd => ⟨rfl, hd⟩) fun d => ?_
    by_cases hd : P d
    swap
    · exact fun d' fs h => absurd h.2 hd
    cases hload : loadCatalog d with
    | error e => exact Process.Meets.raise fun _ _ => trivial
    | ok c =>
      have hrefused : rollbackSemantic record.toCatalogMutation c =
          .error ⟨.marketDataInconsistency, "O catálogo divergiu da transação pendente."⟩ := by
        rw [rollbackSemantic, hd.2 c hload]
        rfl
      change Process.Meets Process.NoFault _
        (ofExcept (rollbackSemantic record.toCatalogMutation c) >>= _) _ _ _
      rw [hrefused]
      exact Process.Meets.raise fun _ _ => trivial
  refine Process.Meets.bind (Process.Meets.weaken hstart (fun _ h => h) (fun _ h => h)
    (fun _ _ h => h) fun _ _ _ => trivial) fun _ => Process.Meets.bind
      (M := fun d d' => d' = d ∧ P d) (Process.Meets.read fun d hd => ⟨rfl, hd⟩) fun d => ?_
  by_cases hd : P d
  swap
  · exact fun d' fs h => absurd h.2 hd
  have hpending : d.pendingRecords record.datasetKey = [record] := hd.1.elim fun _ h => h.pending
  rw [hpending]
  refine Process.Meets.bind (M := fun _ _ => False) ?_ fun _ s _ h => h.elim
  refine Process.Meets.bind (M := fun _ _ => False) ?_ fun _ s _ h => h.elim
  unfold recoverRecord
  rw [hprepared]
  refine Process.Meets.bind (M := fun _ _ => False) ?_ fun _ s _ h => h.elim
  exact Process.Meets.bind (Process.Meets.pre hrollback fun d' h => h.1 ▸ h.2)
    fun _ s _ h => h.elim

/-! ### The catalog a recovery refuses -/

theorem recognizes_failed {m : CatalogMutation} {c : CatalogState}
    (hbefore : m.runBefore.status = .running) (hintended : m.runIntended.status = .completed)
    (h : ∀ run, c.runs m.runId = some run → run.status = .failed) : m.recognizes c = false := by
  have hneither : ¬ (c.runs m.runId = some m.runBefore ∨ c.runs m.runId = some m.runIntended) := by
    rintro (hrun | hrun)
    · have := h _ hrun
      rw [hbefore] at this
      cases this
    · have := h _ hrun
      rw [hintended] at this
      cases this
  simp [CatalogMutation.recognizes, hneither]

theorem Ready.runs (h : Ready parquetPlan catalogPlan c₀ d₀) :
    (catalogPlan.runBefore.status = .running ∧
      catalogPlan.runBefore.datasetKey = catalogPlan.datasetKey) ∧
      catalogPlan.runIntended.status = .completed := by
  obtain ⟨run, dataset, receipt, hplan⟩ := h.plan
  obtain ⟨-, -, -, -, -, hbefore, hintended, -⟩ := prepareCompletion_ok hplan
  exact ⟨hbefore, hintended⟩

section

variable {failed : Disk} {now : String} {e : Failure} {records : List ValidRecord}

/-- The disk after the error handling. -/
abbrev handledDisk (catalogPlan : CatalogPlan) (now : String) (e : Failure) (failed : Disk) :
    Disk :=
  (handleFailedIngestion catalogPlan.runId catalogPlan.datasetKey now e failed []).final failed

/-- **The handler on a catalog that was rolled back**: the run is FAILED, and nothing else
changes. -/
theorem handled_before (hready : Ready parquetPlan catalogPlan c₀ d₀) {c : CatalogState}
    (hjournal : JournaledSome catalogPlan parquetPlan records failed)
    (hc : failed.files .catalog = some (.catalog c)) (howned : catalogPlan.owned c =
      catalogPlan.before) (now : String) (e : Failure) :
    JournaledSome catalogPlan parquetPlan records (handledDisk catalogPlan now e failed) ∧
      (∀ t, (handledDisk catalogPlan now e failed).files (.partition t) =
        failed.files (.partition t)) ∧
      ∃ c', (handledDisk catalogPlan now e failed).files .catalog = some (.catalog c') ∧
        catalogPlan.dataEntries c' = (catalogPlan.datasetBefore, catalogPlan.receiptBefore) ∧
        ∀ run, c'.runs catalogPlan.runId = some run → run.status = .failed := by
  obtain ⟨⟨hrunning, hkey⟩, -⟩ := hready.runs
  simp only [CatalogMutation.owned, CatalogMutation.before, Prod.mk.injEq] at howned
  obtain ⟨hdataset, hrun, hreceipt⟩ := howned
  obtain ⟨c', run, hfail, hdatasets, hreceipts, hrun', hstatus⟩ := failRun_ok
    hrun hkey (by rw [hrunning]; decide) now (ingestionErrorCode e)
  obtain ⟨hcatalog, honly⟩ := handled_ok hc hfail
  refine ⟨hjournal.elim fun _ h => ⟨_, h.of_journals honly.journals⟩,
    fun t => honly.files _ (by simp) (by simp), c', hcatalog, ?_, fun run' h => ?_⟩
  · rw [CatalogMutation.dataEntries, hdatasets, hreceipts, hdataset, hreceipt]
  · rw [hrun'] at h
    cases h
    exact hstatus

/-- The handler on a catalog that is promoted or missing changes nothing. -/
theorem handled_same (hready : Ready parquetPlan catalogPlan c₀ d₀)
    (h : failed.files .catalog = some (.catalog catalogPlan.content) ∨
      failed.files .catalog = none) (now : String) (e : Failure) :
    handledDisk catalogPlan now e failed = failed := by
  rcases h with hc | hc
  · refine handled_error catalogPlan.content (by rw [loadCatalog, hc]) fun run hrun => ?_
    have howned := hready.planned.2.2.1
    simp only [CatalogMutation.owned, CatalogMutation.intended, Prod.mk.injEq] at howned
    rw [howned.2.1] at hrun
    cases hrun
    exact hready.runs.2
  · refine handled_error .empty (by rw [loadCatalog, hc]) fun run hrun => ?_
    cases hrun

/-! ### Which disks recover -/

/-- Without a journal, and with the data of before, every later recovery succeeds. -/
theorem recovers_of_before (hready : Ready parquetPlan catalogPlan c₀ d₀)
    (hjournal : JournaledSome catalogPlan parquetPlan [] failed)
    (hpartitions : ∀ p ∈ parquetPlan.partitions,
      failed.files (.partition p.target) = d₀.partitions p.target)
    {c : CatalogState} (hc : failed.files .catalog = some (.catalog c))
    (howned : catalogPlan.owned c = catalogPlan.before) (now : String) (e : Failure) :
    Recovers parquetPlan catalogPlan d₀ failed (handledDisk catalogPlan now e failed) := by
  have hentries : catalogPlan.dataEntries c₀ =
      (catalogPlan.datasetBefore, catalogPlan.receiptBefore) := by
    have h := hready.planned.2.1
    simp only [CatalogMutation.owned, CatalogMutation.before, Prod.mk.injEq] at h
    rw [CatalogMutation.dataEntries, h.1, h.2.2]
  obtain ⟨hjournal', hfiles, c', hc', hentries', -⟩ :=
    handled_before hready hjournal hc howned now e
  intro d hd
  obtain ⟨houtcome, -, hdata⟩ := hd.recovers (P := fun d =>
    JournaledSome catalogPlan parquetPlan [] d ∧
      HasData parquetPlan catalogPlan d₀.partitions (catalogPlan.dataEntries c₀) d)
    ⟨hjournal', fun p hp => (hfiles p.target).trans (hpartitions p hp), c', hc',
      hentries'.trans hentries.symm⟩
    (fun now runIds => markAbandonedRunsFailed_data now runIds)
    (recoverDataset_none fun d journals temporaries h => h) fun d hd => hd
  refine ⟨houtcome, fun _ => ⟨c₀, hready.catalog, hdata⟩, ?_⟩
  rintro ⟨j, hj, hid, -⟩
  obtain ⟨t, hjournal⟩ := hjournal
  exact absurd (hjournal.own j hj hid) List.not_mem_nil

/-- With a PREPARED journal and a catalog that was rolled back or is missing, no recovery
succeeds. -/
theorem not_recovers_of_prepared (hready : Ready parquetPlan catalogPlan c₀ d₀)
    (hvalid : (recordOf parquetPlan catalogPlan version .prepared).validate = .ok ())
    (hjournal : JournaledSome catalogPlan parquetPlan [⟨_, hvalid⟩] failed)
    (hc : failed.files .catalog = some (.catalog c₀) ∨ failed.files .catalog = none)
    (now : String) (e : Failure) :
    ¬ Recovers parquetPlan catalogPlan d₀ failed (handledDisk catalogPlan now e failed) := by
  intro hrecovers
  obtain ⟨houtcome, -⟩ := hrecovers _ .start
  obtain ⟨⟨hrunning, -⟩, hcompleted⟩ := hready.runs
  have hrefused : JournaledSome catalogPlan parquetPlan [⟨_, hvalid⟩]
      (handledDisk catalogPlan now e failed) ∧
      ∀ c, loadCatalog (handledDisk catalogPlan now e failed) = .ok c →
        catalogPlan.recognizes c = false := by
    rcases hc with hc | hc
    · obtain ⟨hjournal', -, c', hc', -, hfailed⟩ :=
        handled_before hready hjournal hc hready.planned.2.1 now e
      refine ⟨hjournal', fun c hload => ?_⟩
      rw [loadCatalog, hc'] at hload
      cases hload
      exact recognizes_failed hrunning hcompleted hfailed
    · rw [handled_same hready (.inr hc)]
      refine ⟨hjournal, fun c hload => ?_⟩
      rw [loadCatalog, hc] at hload
      cases hload
      exact recognizes_failed hrunning hcompleted fun run hrun => by cases hrun
  have hrefuses := recoverDataset_refused (show (ValidRecord.mk _ hvalid).state = .prepared from rfl)
  exact hrefuses.ne_returned hrefused (by simp) () houtcome

/-- With a PREPARED journal and the promoted catalog, every later recovery undoes the
transaction. -/
theorem recovers_of_promoted (hready : Ready parquetPlan catalogPlan c₀ d₀)
    (hvalid : (recordOf parquetPlan catalogPlan version .prepared).validate = .ok ())
    (hjournal : JournaledSome catalogPlan parquetPlan [⟨_, hvalid⟩] failed)
    (hpartitions : ∀ p ∈ parquetPlan.partitions,
      p.Restorable parquetPlan.transactionId d₀.partitions failed)
    (hc : failed.files .catalog = some (.catalog catalogPlan.content)) (now : String)
    (e : Failure) :
    Recovers parquetPlan catalogPlan d₀ failed (handledDisk catalogPlan now e failed) := by
  obtain ⟨-, hbefore, hintended, -, -⟩ := hready.planned
  have hentries : ∀ c, catalogPlan.owned c = catalogPlan.before →
      catalogPlan.dataEntries c = catalogPlan.dataEntries c₀ := by
    intro c hc
    have h := hc.trans hbefore.symm
    simp only [CatalogMutation.owned, Prod.mk.injEq] at h
    rw [CatalogMutation.dataEntries, CatalogMutation.dataEntries, h.1, h.2.2]
  -- Until the first recovery the owned entries are the intended ones.
  let Pending : Disk → Prop := fun d =>
    CatalogHolds (fun c => catalogPlan.owned c = catalogPlan.intended) d ∧
      JournaledSome catalogPlan parquetPlan [⟨_, hvalid⟩] d ∧
        ∀ p ∈ parquetPlan.partitions, p.Restorable parquetPlan.transactionId d₀.partitions d
  let Done : Disk → Prop := fun d => JournaledSome catalogPlan parquetPlan [] d ∧
    HasData parquetPlan catalogPlan d₀.partitions (catalogPlan.dataEntries c₀) d
  have hPending : ∀ file, MarketFile.catalogScratch = file ∨ MarketFile.catalog = file →
      Ignores (fun d => JournaledSome catalogPlan parquetPlan [⟨_, hvalid⟩] d ∧
        ∀ p ∈ parquetPlan.partitions,
          p.Restorable parquetPlan.transactionId d₀.partitions d) file :=
    fun file hfile d content h => ⟨h.1.imp fun _ h => ignores_journaled file d content h,
      fun p hp => ignores_restorable (by rcases hfile with rfl | rfl <;> simp)
        (by rcases hfile with rfl | rfl <;> simp) d content (h.2 p hp)⟩
  have habandoned : ∀ now runIds, Process.Keeps Process.NoFault (fun d => Pending d ∨ Done d)
      (markAbandonedRunsFailed now runIds) (fun d => Pending d ∨ Done d)
      (fun _ d => Pending d ∨ Done d) := by
    intro now runIds
    refine Process.Meets.or (Process.Keeps.weaken (markAbandonedRunsFailed_keeps now ?_
      (hPending _ (.inl rfl)) (hPending _ (.inr rfl)) runIds) (fun _ h => h) (fun _ h => .inl h)
      fun _ _ h => .inl h) (Process.Keeps.weaken (markAbandonedRunsFailed_data now runIds)
        (fun _ h => h) (fun _ h => .inr h) fun _ _ h => .inr h)
    intro runId c c' hmark howned
    obtain ⟨hdatasets, hreceipts, hruns⟩ := markAbandonedRunFailed_cases hmark
    simp only [CatalogMutation.owned, CatalogMutation.intended, Prod.mk.injEq] at howned ⊢
    rw [hdatasets, hreceipts]
    refine ⟨howned.1, hruns _ _ howned.2.1 ?_, howned.2.2⟩
    rw [hready.runs.2]
    decide
  have hrecovery : Process.Keeps Process.NoFault (fun d => Pending d ∨ Done d)
      (recoverDataset catalogPlan.datasetKey) (fun _ => True) (fun _ => Done) := by
    refine Process.Meets.or (Process.Meets.of_eq fun t ht => ?_)
      (recoverDataset_none fun d journals temporaries h => h)
    obtain ⟨⟨c, hc, howned⟩, ⟨temporaries, hjournal⟩, hparts⟩ := ht
    have hundoable : Undoable ⟨_, hvalid⟩ d₀.partitions c temporaries t :=
      { journal := hjournal
        partitions := fun a ha => by
          obtain ⟨p, hp, rfl⟩ := List.mem_map.mp ha
          exact hparts p hp
        catalog := ⟨c, hc, recognizes_of_owned (.inr howned), CatalogMutation.Untouched.refl ..⟩ }
    have hprepared : (ValidRecord.mk _ hvalid).state = .prepared := rfl
    have horiginal : ∀ a ∈ (ValidRecord.mk _ hvalid).partitions,
        a.hadOriginal = (d₀.partitions a.target).isSome := fun a ha => by
      obtain ⟨p, hp, rfl⟩ := List.mem_map.mp ha
      exact hready.originals p hp
    have hundo : Process.Keeps Process.NoFault
        (fun d => ∃ temporaries, Undoable ⟨_, hvalid⟩ d₀.partitions c temporaries d)
        (recoverDataset catalogPlan.datasetKey) _ _ :=
      recoverDataset_undoable hprepared horiginal
    refine Process.Keeps.weaken hundo (fun d hd => hd ▸ ⟨temporaries, hundoable⟩)
      (fun _ _ => trivial) fun _ d hd => ?_
    obtain ⟨c', hc', howned', -⟩ := hd.catalog
    exact ⟨⟨[], hd.journal⟩, fun p hp => hd.partitions ⟨p.target, p.hadOriginal⟩
      (List.mem_map.mpr ⟨p, hp, rfl⟩), c', hc', hentries c' howned'⟩
  rw [handled_same hready (.inl hc)]
  intro d hd
  have hstart : Pending failed := ⟨⟨_, hc, hintended⟩, hjournal, hpartitions⟩
  have hrecovers := hd.recovers (P := fun d => Pending d ∨ Done d) (Q := Done) (.inl hstart)
    habandoned hrecovery fun _ h => .inr h
  refine ⟨hrecovers.1, fun _ => ⟨c₀, hready.catalog, hrecovers.2.2⟩, ?_⟩
  rintro ⟨j, hj, hid, hstate⟩
  obtain ⟨t, hjournal⟩ := hjournal
  rw [List.mem_singleton.mp (hjournal.own j hj hid)] at hstate
  cases hstate

/-- The journal of the transaction is COMMITTED where it is the one of the dataset. -/
theorem committedOn_of_journaled
    (hvalid : (recordOf parquetPlan catalogPlan version .prepared).validate = .ok ())
    (hjournal : JournaledSome catalogPlan parquetPlan [ValidRecord.committed ⟨_, hvalid⟩] d) :
    CommittedOn parquetPlan.transactionId d := by
  obtain ⟨t, hjournal⟩ := hjournal
  have hpending := hjournal.pending
  exact ⟨ValidRecord.committed ⟨_, hvalid⟩,
    List.mem_of_mem_filter (hpending ▸ List.mem_singleton_self _), rfl, rfl⟩

/-- With a COMMITTED journal and the intended data, every later recovery succeeds. -/
theorem recovers_of_committed {handled : Disk}
    (hvalid : (recordOf parquetPlan catalogPlan version .prepared).validate = .ok ())
    (hcommitted : CommittedOn parquetPlan.transactionId failed)
    (hjournal : JournaledSome catalogPlan parquetPlan [ValidRecord.committed ⟨_, hvalid⟩] handled)
    (hdata : HasData parquetPlan catalogPlan parquetPlan.contents
      (some catalogPlan.datasetIntended, catalogPlan.receiptIntended) handled) :
    Recovers parquetPlan catalogPlan d₀ failed handled := by
  let Data : Disk → Prop := HasData parquetPlan catalogPlan parquetPlan.contents
    (some catalogPlan.datasetIntended, catalogPlan.receiptIntended)
  let Pending : Disk → Prop := fun d =>
    JournaledSome catalogPlan parquetPlan [ValidRecord.committed ⟨_, hvalid⟩] d ∧ Data d
  let Done : Disk → Prop := fun d => JournaledSome catalogPlan parquetPlan [] d ∧ Data d
  intro d hd
  obtain ⟨houtcome, -, hfinal⟩ := hd.recovers (P := fun d => Pending d ∨ Done d) (Q := Done)
    (.inl ⟨hjournal, hdata⟩)
    (fun now runIds => Process.Meets.or
      (Process.Keeps.weaken (markAbandonedRunsFailed_data now runIds) (fun _ h => h)
        (fun _ h => .inl h) fun _ _ h => .inl h)
      (Process.Keeps.weaken (markAbandonedRunsFailed_data now runIds) (fun _ h => h)
        (fun _ h => .inr h) fun _ _ h => .inr h))
    (Process.Meets.or
      (recoverDataset_committed hvalid (fun file hc ht => ignores_hasData hc ht)
        fun d journals temporaries h => h)
      (recoverDataset_none fun d journals temporaries h => h))
    fun _ h => .inr h
  refine ⟨houtcome, fun hnot => absurd hcommitted hnot, fun _ => ⟨fun p hp => ?_, hfinal.2⟩⟩
  exact (hfinal.1 p hp).trans (parquetPlan.contents_of_mem (nodup_of_valid hvalid) hp)

/-- With a COMMITTED journal and data that are not the intended ones, the first recovery accepts
them. -/
theorem not_recovers_of_committed {handled : Disk}
    (hvalid : (recordOf parquetPlan catalogPlan version .prepared).validate = .ok ())
    (hcommitted : CommittedOn parquetPlan.transactionId failed)
    (hjournal : JournaledSome catalogPlan parquetPlan [ValidRecord.committed ⟨_, hvalid⟩] handled)
    {K : Disk → Prop} (hK : ∀ file, MarketFile.catalog ≠ file →
      (∀ t, MarketFile.partition t ≠ file) → Ignores K file)
    (hKj : ∀ d journals temporaries, K d →
      K { d with journals := journals, journalTemporaries := temporaries })
    (hhandled : K handled) (hnot : ∀ d, K d → ¬ DataIntended parquetPlan catalogPlan d) :
    ¬ Recovers parquetPlan catalogPlan d₀ failed handled := by
  intro hrecovers
  obtain ⟨-, -, hintended⟩ := hrecovers _ .start
  obtain ⟨-, -, -, hfinal⟩ := Process.Keeps.noFault
    (recoverDataset_committed hvalid hK hKj) ⟨hjournal, hhandled⟩
  exact hnot _ hfinal (hintended hcommitted)

end

/-! ### The rollback of the running process -/

section

variable {now : String} {e : Failure} {fs' : List Fault} {m : ℕ}

/-- A rollback that goes through leaves a disk that recovers. -/
theorem recovers_of_rolledBack (hready : Ready parquetPlan catalogPlan c₀ d₀)
    (htx : parquetPlan.transactionId = catalogPlan.transactionId)
    (hvalid : (recordOf parquetPlan catalogPlan version .prepared).validate = .ok ())
    (h : AttemptFailed parquetPlan catalogPlan ⟨_, hvalid⟩ c₀ d₀ d) (now : String) (e : Failure) :
    let failed := Process.applyAll (rollbackOps ⟨_, hvalid⟩ d) d
    Recovers parquetPlan catalogPlan d₀ failed (handledDisk catalogPlan now e failed) := by
  intro failed
  let record : ValidRecord := ⟨_, hvalid⟩
  obtain ⟨records, hrecords, temporaries, hjournal⟩ : ∃ records : List ValidRecord,
      (∀ r ∈ records, r.transactionId = record.transactionId) ∧
        ∃ temporaries, Journaled record.datasetKey record.transactionId records temporaries d := by
    rcases h.journal with hjournal | ⟨hjournal, -⟩
    · exact ⟨[record], fun r hr => List.mem_singleton.mp hr ▸ rfl, hjournal⟩
    · exact ⟨[record.committed], fun r hr => List.mem_singleton.mp hr ▸ rfl, hjournal⟩
  have hcatalog : CatalogRestorable record.transactionId c₀ d := by
    have hcatalog := h.reversible.2.1
    rwa [← htx] at hcatalog
  have hpartitions : ∀ a ∈ record.partitions,
      a.Restorable record.transactionId d₀.partitions d := fun a ha => by
    obtain ⟨p, hp, rfl⟩ := List.mem_map.mp ha
    exact h.reversible.1 p hp
  have horiginal : ∀ a ∈ record.partitions,
      a.hadOriginal = (d₀.partitions a.target).isSome := fun a ha => by
    obtain ⟨p, hp, rfl⟩ := List.mem_map.mp ha
    exact hready.originals p hp
  obtain ⟨-, -, hsettled⟩ := Process.Keeps.noFault (rollbackBeforeCommit_keeps hrecords
    hready.planned.1 hready.planned.2.1 horiginal) ⟨hcatalog, hpartitions, hjournal⟩
  have hfinal : (rollbackBeforeCommit record d []).final d = failed := by
    have hnofault : ∀ f ∈ ([] : List Fault), f ≠ .crash := fun f hf => absurd hf List.not_mem_nil
    have hstraight := Process.straight_final (rollback_straight record d) hnofault
    have hnone : ∀ n, raisedAfter n ([] : List Fault) = none := fun n => by cases n <;> rfl
    rw [hnone] at hstraight
    exact hstraight.2
  have hsettled' : Settled record.toJournalRecord d₀.partitions record.before c₀ temporaries
      failed := hfinal ▸ hsettled
  obtain ⟨c, hc, howned, -⟩ := hsettled'.catalog
  exact recovers_of_before hready ⟨temporaries, hsettled'.journal⟩
    (fun p hp => hsettled'.partitions ⟨p.target, p.hadOriginal⟩ (List.mem_map.mpr ⟨p, hp, rfl⟩))
    hc howned now e

/-- The catalog a failed attempt leaves, as its rollback goes on. -/
theorem AttemptFailed.catalog_cases (hready : Ready parquetPlan catalogPlan c₀ d₀)
    (htx : parquetPlan.transactionId = catalogPlan.transactionId)
    (hvalid : (recordOf parquetPlan catalogPlan version .prepared).validate = .ok ())
    (h : AttemptFailed parquetPlan catalogPlan ⟨_, hvalid⟩ c₀ d₀ d) (m : ℕ) :
    (m = 0 ∧ d.files .catalog = some (.catalog catalogPlan.content)) ∨
      (Process.applyAll ((rollbackOps ⟨_, hvalid⟩ d).take m) d).files .catalog =
          some (.catalog c₀) ∨
        (Process.applyAll ((rollbackOps ⟨_, hvalid⟩ d).take m) d).files .catalog = none := by
  have hrestorable : CatalogRestorable (ValidRecord.mk _ hvalid).transactionId c₀ d := by
    have hrestorable := h.reversible.2.1
    rwa [← htx] at hrestorable
  rcases rollback_catalog hready.planned.1 hrestorable m with hc | hc | rfl
  · exact .inr (.inl hc)
  · exact .inr (.inr hc)
  · rcases h.reversible.2.2 with hc | hc | ⟨hc, -⟩
    · exact .inr (.inl hc)
    · exact .inl ⟨rfl, hc⟩
    · exact .inr (.inr hc)

/-- **A rollback cut short with a PREPARED journal** recovers exactly when it changed nothing
and the catalog is promoted. -/
theorem recovers_iff_of_prepared (hready : Ready parquetPlan catalogPlan c₀ d₀)
    (htx : parquetPlan.transactionId = catalogPlan.transactionId)
    (hvalid : (recordOf parquetPlan catalogPlan version .prepared).validate = .ok ())
    (h : AttemptFailed parquetPlan catalogPlan ⟨_, hvalid⟩ c₀ d₀ d)
    (hjournal : JournaledSome catalogPlan parquetPlan [⟨_, hvalid⟩] d)
    (hm : m < (rollbackOps ⟨_, hvalid⟩ d).length) (now : String) (e : Failure) :
    let failed := Process.applyAll ((rollbackOps ⟨_, hvalid⟩ d).take m) d
    Recovers parquetPlan catalogPlan d₀ failed (handledDisk catalogPlan now e failed) ↔
      m = 0 ∧ d.files .catalog = some (.catalog catalogPlan.content) := by
  intro failed
  constructor
  · intro hrecovers
    rcases h.catalog_cases hready htx hvalid m with hcase | hc
    · exact hcase
    · have hjournal' : JournaledSome catalogPlan parquetPlan [⟨_, hvalid⟩] failed :=
        hjournal.elim fun _ hj => ⟨_, hj.of_journals (rollback_journals hm).1⟩
      exact absurd hrecovers (not_recovers_of_prepared hready hvalid hjournal' hc now e)
  · rintro ⟨rfl, hc⟩
    exact recovers_of_promoted hready hvalid hjournal h.reversible.1 hc now e

/-- A promoted catalog that can be restored has a backup. -/
theorem AttemptFailed.catalog_backup (hready : Ready parquetPlan catalogPlan c₀ d₀)
    (htx : parquetPlan.transactionId = catalogPlan.transactionId)
    (hvalid : (recordOf parquetPlan catalogPlan version .prepared).validate = .ok ())
    (h : AttemptFailed parquetPlan catalogPlan ⟨_, hvalid⟩ c₀ d₀ d)
    (hpromoted : Promoted parquetPlan catalogPlan d) :
    d.files (.catalogBackup (ValidRecord.mk _ hvalid).transactionId) = some (.catalog c₀) := by
  have hrestorable : CatalogRestorable (ValidRecord.mk _ hvalid).transactionId c₀ d := by
    have hrestorable := h.reversible.2.1
    rwa [← htx] at hrestorable
  rcases hrestorable with ⟨-, hnone | hcatalog⟩ | ⟨-, hbackup⟩
  · cases hnone
  · -- The catalog would be the one from before and the intended one.
    obtain ⟨-, hbefore, hintended, -, hne⟩ := hready.planned
    have hcontent : c₀ = catalogPlan.content := by
      have hsame := hcatalog.symm.trans hpromoted.2
      simpa using hsame
    rw [hcontent] at hbefore
    exact absurd (hbefore.symm.trans hintended) hne
  · exact hbackup

/-- A rollback that went past the catalog leaves the last partition missing or restored. -/
theorem AttemptFailed.lastPartition (hready : Ready parquetPlan catalogPlan c₀ d₀)
    (hchanges : Changes parquetPlan d₀)
    (htx : parquetPlan.transactionId = catalogPlan.transactionId)
    (hvalid : (recordOf parquetPlan catalogPlan version .prepared).validate = .ok ())
    (h : AttemptFailed parquetPlan catalogPlan ⟨_, hvalid⟩ c₀ d₀ d)
    (hpromoted : Promoted parquetPlan catalogPlan d) (hpartitions : parquetPlan.partitions ≠ [])
    (m : ℕ) :
    ∃ p ∈ parquetPlan.partitions, LostOr parquetPlan.transactionId p.target
      (d₀.partitions p.target)
      (Process.applyAll ((rollbackOps ⟨_, hvalid⟩ d).take (m + 3)) d) := by
  obtain ⟨a, rest, hreverse⟩ : ∃ a rest,
      (ValidRecord.mk _ hvalid).partitions.reverse = a :: rest := by
    refine List.exists_cons_of_ne_nil fun hnil => hpartitions ?_
    rw [List.reverse_eq_nil_iff] at hnil
    exact List.map_eq_nil_iff.mp hnil
  have ha : a ∈ (ValidRecord.mk _ hvalid).partitions :=
    List.mem_reverse.mp (hreverse ▸ List.mem_cons_self)
  obtain ⟨p, hp, rfl⟩ := List.mem_map.mp ha
  refine ⟨p, hp, rollback_partition hreverse (h.catalog_backup hready htx hvalid hpromoted)
    (fun hhad hnone => ?_) ?_ m⟩
  · rcases h.reversible.1 p hp with ⟨-, horiginal | htarget⟩ | ⟨hsome, hbackup⟩
    · have hexist := (hready.originals p hp).symm.trans hhad
      change (d₀.partitions p.target).isSome = true at hexist
      rw [horiginal] at hexist
      cases hexist
    · exact hchanges p hp (htarget.symm.trans (hpromoted.1 p hp))
    · exact hsome (hbackup.symm.trans hnone)
  · rcases h.reversible.1 p hp with ⟨hnone, -⟩ | ⟨-, hbackup⟩
    · exact .inl hnone
    · exact .inr hbackup

/-- **A rollback cut short with a COMMITTED journal** recovers exactly when it changed nothing,
or when it undid entries that the plan does not change and no partition. -/
theorem recovers_iff_of_committed (hready : Ready parquetPlan catalogPlan c₀ d₀)
    (hchanges : Changes parquetPlan d₀)
    (htx : parquetPlan.transactionId = catalogPlan.transactionId)
    (hvalid : (recordOf parquetPlan catalogPlan version .prepared).validate = .ok ())
    (h : AttemptFailed parquetPlan catalogPlan ⟨_, hvalid⟩ c₀ d₀ d)
    (hjournal : JournaledSome catalogPlan parquetPlan [ValidRecord.committed ⟨_, hvalid⟩] d)
    (hpromoted : Promoted parquetPlan catalogPlan d)
    (hm : m < (rollbackOps ⟨_, hvalid⟩ d).length) (now : String) (e : Failure) :
    let failed := Process.applyAll ((rollbackOps ⟨_, hvalid⟩ d).take m) d
    Recovers parquetPlan catalogPlan d₀ failed (handledDisk catalogPlan now e failed) ↔
      m = 0 ∨ (2 ≤ m ∧ catalogPlan.datasetBefore = some catalogPlan.datasetIntended ∧
        catalogPlan.receiptBefore = catalogPlan.receiptIntended ∧
        (m = 2 ∨ parquetPlan.partitions = [])) := by
  intro failed
  have hbackup := h.catalog_backup hready htx hvalid hpromoted
  obtain ⟨hjournals, -⟩ := rollback_journals hm
  have hjournal' : JournaledSome catalogPlan parquetPlan [ValidRecord.committed ⟨_, hvalid⟩]
      failed := hjournal.elim fun _ hj => ⟨_, hj.of_journals hjournals⟩
  have hcommitted : CommittedOn parquetPlan.transactionId failed :=
    committedOn_of_journaled hvalid hjournal'
  have hintended : catalogPlan.dataEntries catalogPlan.content =
      (some catalogPlan.datasetIntended, catalogPlan.receiptIntended) := by
    have howned := hready.planned.2.2.1
    simp only [CatalogMutation.owned, CatalogMutation.intended, Prod.mk.injEq] at howned
    rw [CatalogMutation.dataEntries, howned.1, howned.2.2]
  -- Data that are not the intended ones stay so.
  have hmissing : ∀ entries, entries ≠
      (some catalogPlan.datasetIntended, catalogPlan.receiptIntended) →
      CatalogHolds (fun c => catalogPlan.dataEntries c = entries)
        (handledDisk catalogPlan now e failed) →
      JournaledSome catalogPlan parquetPlan [ValidRecord.committed ⟨_, hvalid⟩]
        (handledDisk catalogPlan now e failed) →
      ¬ Recovers parquetPlan catalogPlan d₀ failed (handledDisk catalogPlan now e failed) := by
    intro entries hne hentries hhandled
    refine not_recovers_of_committed hvalid hcommitted hhandled
      (fun file hc _ => ignores_catalogHolds hc) (fun _ _ _ hK => hK) hentries ?_
    rintro d ⟨c, hc, hKc⟩ ⟨-, c', hc', hintended'⟩
    rw [hc] at hc'
    cases hc'
    exact hne (hKc.symm.trans hintended')
  have hcatalog := rollback_catalog_backup hbackup
  obtain rfl | rfl | ⟨m, rfl⟩ : m = 0 ∨ m = 1 ∨ ∃ k, m = k + 2 := by
    rcases m with - | - | k
    exacts [.inl rfl, .inr (.inl rfl), .inr (.inr ⟨k, rfl⟩)]
  · -- Nothing was undone.
    refine ⟨fun _ => .inl rfl, fun _ => ?_⟩
    have hhandled : handledDisk catalogPlan now e failed = failed :=
      handled_same hready (.inl hpromoted.2) now e
    rw [hhandled]
    exact recovers_of_committed hvalid hcommitted hjournal' ⟨fun p hp => (hpromoted.1 p hp).trans
      (parquetPlan.contents_of_mem (nodup_of_valid hvalid) hp).symm, _, hpromoted.2, hintended⟩
  · -- The catalog is missing.
    refine ⟨fun hrecovers => ?_, fun h => absurd h (by simp)⟩
    have hnone : failed.files .catalog = none := (hcatalog 0).1
    rw [handled_same hready (.inr hnone)] at hrecovers
    refine absurd hrecovers (not_recovers_of_committed hvalid hcommitted hjournal'
      (K := fun d => d.files .catalog = none)
      (fun file hc _ d content hK => (d.set_files_of_ne content hc).trans hK)
      (fun _ _ _ hK => hK) hnone ?_)
    rintro d hK ⟨-, c, hc, -⟩
    rw [hK] at hc
    cases hc
  · have hc : failed.files .catalog = some (.catalog c₀) := (hcatalog m).2
    obtain ⟨hhandled, hfiles, c', hc', hentries, -⟩ :=
      handled_before hready hjournal' hc hready.planned.2.1 now e
    by_cases hsame : (catalogPlan.datasetBefore, catalogPlan.receiptBefore) =
        (some catalogPlan.datasetIntended, catalogPlan.receiptIntended)
    swap
    · refine ⟨fun hrecovers => absurd hrecovers (hmissing _ hsame ⟨c', hc', hentries⟩ hhandled),
        ?_⟩
      rintro (h | ⟨-, hdataset, hreceipt, -⟩)
      · cases h
      · exact absurd (by rw [hdataset, hreceipt]) hsame
    have hdata : (∀ p ∈ parquetPlan.partitions, failed.files (.partition p.target) =
        d.files (.partition p.target)) →
          Recovers parquetPlan catalogPlan d₀ failed (handledDisk catalogPlan now e failed) :=
      fun hkept => recovers_of_committed hvalid hcommitted hhandled
        ⟨fun p hp => ((hfiles p.target).trans ((hkept p hp).trans (hpromoted.1 p hp))).trans
          (parquetPlan.contents_of_mem (nodup_of_valid hvalid) hp).symm,
          c', hc', hentries.trans hsame⟩
    simp only [Prod.mk.injEq] at hsame
    by_cases hpartitions : parquetPlan.partitions = []
    · refine ⟨fun _ => .inr ⟨by omega, hsame.1, hsame.2, .inr hpartitions⟩, fun _ => hdata ?_⟩
      simp [hpartitions]
    obtain rfl | ⟨m, rfl⟩ : m = 0 ∨ ∃ k, m = k + 1 := by
      rcases m with - | k
      exacts [.inl rfl, .inr ⟨k, rfl⟩]
    · exact ⟨fun _ => .inr ⟨le_rfl, hsame.1, hsame.2, .inl rfl⟩,
        fun _ => hdata fun p _ => rollback_two hbackup p.target⟩
    · obtain ⟨p, hp, hlost, -⟩ := h.lastPartition hready hchanges htx hvalid hpromoted hpartitions m
      refine ⟨fun hrecovers => ?_, ?_⟩
      · refine absurd hrecovers (not_recovers_of_committed hvalid hcommitted hhandled
          (K := fun d => d.files (.partition p.target) = none ∨
            d.files (.partition p.target) = d₀.partitions p.target)
          (fun file _ ht d content hK => ?_) (fun _ _ _ hK => hK) ?_ ?_)
        · simp only [d.set_files_of_ne content (ht p.target)]
          exact hK
        · rw [hfiles p.target]
          exact hlost
        · rintro d (hnone | horiginal) ⟨hintended', -⟩
          · have hcandles := hintended' p hp
            rw [hnone] at hcandles
            cases hcandles
          · exact hchanges p hp (horiginal.symm.trans (hintended' p hp))
      · rintro (h | ⟨-, -, -, h | h⟩)
        · cases h
        · omega
        · exact absurd h hpartitions

/-- The journal of a failed attempt, on the disk or gone. -/
theorem AttemptFailed.recovers_iff (hready : Ready parquetPlan catalogPlan c₀ d₀)
    (hchanges : Changes parquetPlan d₀)
    (htx : parquetPlan.transactionId = catalogPlan.transactionId)
    (hvalid : (recordOf parquetPlan catalogPlan version .prepared).validate = .ok ())
    (h : AttemptFailed parquetPlan catalogPlan ⟨_, hvalid⟩ c₀ d₀ d) {fs : List Fault}
    (hfs : ∀ f ∈ fs, NoCrash f) (now : String) (e : Failure) :
    let failed := (rollbackBeforeCommit ⟨_, hvalid⟩ d fs).final d
    Recovers parquetPlan catalogPlan d₀ failed (handledDisk catalogPlan now e failed) ↔
      RollbackSafe catalogPlan ⟨_, hvalid⟩ d fs := by
  intro failed
  have hstraight := Process.straight_final (rollback_straight ⟨_, hvalid⟩ d) hfs
  have hcomplete := recovers_of_rolledBack hready htx hvalid h now e
  cases hm : raisedAfter (rollbackOps ⟨_, hvalid⟩ d).length fs with
  | none =>
    rw [hm] at hstraight
    obtain ⟨-, hfinal⟩ := hstraight
    have hfailed : failed = Process.applyAll (rollbackOps ⟨_, hvalid⟩ d) d := hfinal
    rw [hfailed]
    refine ⟨fun _ m hm' => ?_, fun _ => hcomplete⟩
    rw [hm] at hm'
    cases hm'
  | some m =>
    rw [hm] at hstraight
    obtain ⟨-, hfinal⟩ := hstraight
    have hfailed : failed = Process.applyAll ((rollbackOps ⟨_, hvalid⟩ d).take m) d := hfinal
    have hsafe : RollbackSafe catalogPlan ⟨_, hvalid⟩ d fs ↔
        m = (rollbackOps ⟨_, hvalid⟩ d).length ∨
        (m = 0 ∧ d.files .catalog = some (.catalog catalogPlan.content)) ∨
        (2 ≤ m ∧ CommittedOn parquetPlan.transactionId d ∧
          catalogPlan.datasetBefore = some catalogPlan.datasetIntended ∧
          catalogPlan.receiptBefore = catalogPlan.receiptIntended ∧
          (m = 2 ∨ parquetPlan.partitions = [])) := by
      have hnil : (ValidRecord.mk _ hvalid).partitions = [] ↔ parquetPlan.partitions = [] :=
        List.map_eq_nil_iff
      rw [← hnil]
      refine ⟨fun hall => hall m hm, fun hcase m' hm' => ?_⟩
      rw [hm] at hm'
      cases hm'
      exact hcase
    rw [hfailed, hsafe]
    rcases (raisedAfter_le hm).eq_or_lt with hlast | hlt
    · rw [hlast, List.take_length]
      exact ⟨fun _ => .inl rfl, fun _ => hcomplete⟩
    rcases h.journal with hjournal | ⟨hjournal, hpromoted⟩
    · -- The journal is PREPARED.
      refine (recovers_iff_of_prepared hready htx hvalid h hjournal hlt now e).trans ⟨fun hcase => .inr (.inl hcase), ?_⟩
      rintro (hlast | hcase | ⟨-, ⟨j, hj, hid, hstate⟩, -⟩)
      · exact absurd hlast hlt.ne
      · exact hcase
      · obtain ⟨t, hjournal⟩ := hjournal
        rw [List.mem_singleton.mp (hjournal.own j hj hid)] at hstate
        cases hstate
    · -- The journal is COMMITTED.
      have hcommitted : CommittedOn parquetPlan.transactionId d :=
        committedOn_of_journaled hvalid hjournal
      refine (recovers_iff_of_committed hready hchanges htx hvalid h hjournal hpromoted hlt now
        e).trans ⟨?_, ?_⟩
      · rintro (rfl | ⟨hm, hdataset, hreceipt, hcase⟩)
        · exact .inr (.inl ⟨rfl, hpromoted.2⟩)
        · exact .inr (.inr ⟨hm, hcommitted, hdataset, hreceipt, hcase⟩)
      · rintro (hlast | ⟨hzero, -⟩ | ⟨hm, -, hdataset, hreceipt, hcase⟩)
        · exact absurd hlast hlt.ne
        · exact .inl hzero
        · exact .inr ⟨hm, hdataset, hreceipt, hcase⟩

/-- On a ready disk an inserted journal is the one of the dataset. -/
theorem Ready.insertJournal (hready : Ready parquetPlan catalogPlan c₀ d₀)
    (hvalid : (recordOf parquetPlan catalogPlan version .prepared).validate = .ok ()) :
    Journaled catalogPlan.datasetKey parquetPlan.transactionId [⟨_, hvalid⟩]
      d₀.journalTemporaries (d₀.insertJournal ⟨_, hvalid⟩) := by
  have hsettled : Journaled (ValidRecord.mk _ hvalid).datasetKey
      (ValidRecord.mk _ hvalid).transactionId [] d₀.journalTemporaries d₀ :=
    (hready.settled version .prepared).journal
  exact hsettled.insertJournal fun r hr => absurd hr List.not_mem_nil

/-- **A journal write that raises** leaves nothing behind, or a journal that blocks every later
recovery. -/
theorem writeJournal_recovers_iff (hready : Ready parquetPlan catalogPlan c₀ d₀)
    (hvalid : (recordOf parquetPlan catalogPlan version .prepared).validate = .ok ())
    {fs : List Fault} (hfs : ∀ f ∈ fs, NoCrash f) (hm : raisedAfter 3 fs = some m)
    (now : String) (e : Failure) :
    let failed := (writeJournal ⟨_, hvalid⟩ d₀ fs).final d₀
    Recovers parquetPlan catalogPlan d₀ failed (handledDisk catalogPlan now e failed) ↔
      m ≠ 3 := by
  intro failed
  have hwrite := writeJournal_raisedAfter ⟨_, hvalid⟩ d₀ hfs
  rw [hm] at hwrite
  obtain ⟨⟨e', houtcome⟩, hjournals⟩ := hwrite
  have hfiles : failed.files = d₀.files := by
    obtain ⟨-, -, hend⟩ := writeJournal_meets ⟨_, hvalid⟩ d₀ d₀ fs rfl hfs
    rw [houtcome] at hend
    exact hend.1
  have hcatalog : failed.files .catalog = some (.catalog c₀) := by rw [hfiles, hready.catalog]
  obtain ⟨-, hbefore, -⟩ := hready.planned
  have hsettled := (hready.settled version .prepared).journal
  by_cases hthree : m = 3
  · refine ⟨fun hrecovers => ?_, fun hne => absurd hthree hne⟩
    have hjournal : JournaledSome catalogPlan parquetPlan [⟨_, hvalid⟩] failed :=
      ⟨_, (hready.insertJournal hvalid).of_journals (hjournals.trans (if_pos hthree))⟩
    exact absurd hrecovers
      (not_recovers_of_prepared hready hvalid hjournal (.inl hcatalog) now e)
  · refine ⟨fun _ => hthree, fun _ => ?_⟩
    have hjournal : JournaledSome catalogPlan parquetPlan [] failed :=
      ⟨_, Journaled.of_journals hsettled (hjournals.trans (if_neg hthree))⟩
    exact recovers_of_before hready hjournal (fun p _ => by rw [hfiles]; rfl) hcatalog hbefore now e

end

/-- The protocol runs on a valid journal. -/
theorem execute_valid (htx : parquetPlan.transactionId = catalogPlan.transactionId)
    (hvalid : (recordOf parquetPlan catalogPlan version .prepared).validate = .ok ()) :
    execute parquetPlan catalogPlan version = executeRecord parquetPlan catalogPlan ⟨_, hvalid⟩ := by
  unfold execute
  rw [if_neg (not_not.mpr htx)]
  split
  · next e herror =>
    rw [hvalid] at herror
    cases herror
  · rfl

/-- The protocol goes on from the PREPARED journal and untouched files. -/
theorem Ready.written (hready : Ready parquetPlan catalogPlan c₀ d₀)
    (htx : parquetPlan.transactionId = catalogPlan.transactionId)
    (hvalid : (recordOf parquetPlan catalogPlan version .prepared).validate = .ok ())
    (hd : d = d₀.written ⟨_, hvalid⟩) :
    Fresh parquetPlan catalogPlan d₀.partitions c₀ d ∧ ∃ temporaries,
      Journaled catalogPlan.datasetKey parquetPlan.transactionId [⟨_, hvalid⟩] temporaries d := by
  subst hd
  exact ⟨hready.fresh htx, _, (hready.insertJournal hvalid).of_journals rfl⟩

/-! ### The main result -/

/-- **Recoverability after a failed ingestion.**  Let an ingestion's protocol raise on a ready
disk, under any faults but crashes.  Once the service has handled that, every later recovery of
the dataset succeeds, and brings back the values from before (the intended ones if the journal is
COMMITTED), exactly when the faults were recoverable. -/
theorem failedIngestion_recovers_iff {fs : List Fault} {e : Failure} (version now : String)
    (hready : Ready parquetPlan catalogPlan c₀ d₀) (hchanges : Changes parquetPlan d₀)
    (hfs : ∀ f ∈ fs, NoCrash f)
    (hraised : (execute parquetPlan catalogPlan version d₀ fs).outcome = .raised e) :
    let failed := (execute parquetPlan catalogPlan version d₀ fs).final d₀
    Recovers parquetPlan catalogPlan d₀ failed (handledDisk catalogPlan now e failed) ↔
      Recoverable parquetPlan catalogPlan version d₀ fs := by
  intro failed
  by_cases hvalid : parquetPlan.transactionId = catalogPlan.transactionId ∧
      (recordOf parquetPlan catalogPlan version .prepared).validate = .ok ()
  swap
  · -- The protocol refuses the plans, and does nothing.
    refine ⟨fun _ htx hrecord => absurd ⟨htx, hrecord⟩ hvalid, fun _ => ?_⟩
    have hsame : failed = d₀ := by
      rcases execute_cases parquetPlan catalogPlan version with ⟨htx, hrecord, -⟩ | ⟨e', hrun⟩
      · exact absurd ⟨htx, hrecord⟩ hvalid
      · change (execute parquetPlan catalogPlan version d₀ fs).final d₀ = d₀
        rw [hrun]
        rfl
    rw [hsame]
    exact recovers_of_before hready ⟨_, (hready.settled version .prepared).journal⟩
      (fun _ _ => rfl) hready.catalog hready.planned.2.1 now e
  obtain ⟨htx, hvalid⟩ := hvalid
  let record : ValidRecord := ⟨_, hvalid⟩
  have hrun : execute parquetPlan catalogPlan version =
      executeRecord parquetPlan catalogPlan record := execute_valid htx hvalid
  let prepared := writeJournal record d₀ fs
  let attempt := prepareAndCommit parquetPlan catalogPlan record (prepared.final d₀)
    prepared.faults
  have hrecoverable : Recoverable parquetPlan catalogPlan version d₀ fs ↔
      raisedAfter 3 fs ≠ some 3 ∧ (raisedAfter 3 fs = none →
        RollbackSafe catalogPlan record (attempt.final (prepared.final d₀)) attempt.faults) :=
    ⟨fun h => h htx hvalid, fun h _ _ => h⟩
  have hfailed : failed = (executeRecord parquetPlan catalogPlan record d₀ fs).final d₀ := by
    rw [← hrun]
  rw [hrun] at hraised
  have hwrite := writeJournal_raisedAfter record d₀ hfs
  rw [hrecoverable, hfailed]
  rcases executeRecord_raised hraised with ⟨⟨e', houtcome⟩, hfinal⟩ | ⟨houtcome, ⟨e', hattempt⟩, hfinal⟩
  · -- The PREPARED journal could not be written.
    rw [hfinal]
    cases hm : raisedAfter 3 fs with
    | none =>
      rw [hm] at hwrite
      cases hwrite.symm.trans houtcome
    | some m =>
      refine (writeJournal_recovers_iff hready hvalid hfs hm now e).trans ?_
      simp
  · -- The running process rolled back.
    rw [hfinal]
    cases hm : raisedAfter 3 fs with
    | some m =>
      rw [hm] at hwrite
      obtain ⟨⟨e'', hraised'⟩, -⟩ := hwrite
      cases hraised'.symm.trans houtcome
    | none =>
      obtain ⟨hleft, -, hprepared⟩ := writeJournal_meets record d₀ d₀ fs rfl hfs
      rw [houtcome] at hprepared
      obtain ⟨hleft', -, hend⟩ := prepareAndCommit_meets hready hvalid (prepared.final d₀)
        prepared.faults (hready.written htx hvalid hprepared) hleft
      rw [hattempt] at hend
      refine (hend.recovers_iff hready hchanges htx hvalid hleft' now e).trans ?_
      simp only [ne_eq, reduceCtorEq, not_false_eq_true, true_implies, true_and]
      rfl

end

/-- The sample run, with an operation that raises after fourteen: the running process rolls the
first partition back. -/
theorem failedIngestion_recovers_iff_sample :
    let fs := List.replicate 14 Fault.pass ++ [.raiseBefore]
    let failed := (execute sampleParquetPlan sampleCatalogPlan sampleChecksum sampleDisk fs).final
      sampleDisk
    (execute sampleParquetPlan sampleCatalogPlan sampleChecksum sampleDisk fs).outcome =
        .raised osError ∧
      (Recovers sampleParquetPlan sampleCatalogPlan sampleDisk failed
          (handledDisk sampleCatalogPlan "2026-01-01T00:00:02+00:00" osError failed) ↔
        Recoverable sampleParquetPlan sampleCatalogPlan sampleChecksum sampleDisk fs) := by
  intro fs failed
  have hchanges : Changes sampleParquetPlan sampleDisk := by
    intro p hp
    fin_cases hp <;> simp [sampleDisk]
  have hraised : (execute sampleParquetPlan sampleCatalogPlan sampleChecksum sampleDisk
      fs).outcome = .raised osError := by
    decide +kernel
  exact ⟨hraised, failedIngestion_recovers_iff sampleChecksum "2026-01-01T00:00:02+00:00"
    sampleDisk_ready hchanges (by simp [fs, NoCrash]) hraised⟩

/-- **A failed ingestion that blocks its dataset**: the directory's `fsync` raises right after
the PREPARED journal was renamed into place, so nothing is rolled back; the run is moved to
FAILED, and from then on every recovery refuses the catalog. -/
theorem failedIngestion_blocks :
    let fs := [Fault.pass, .pass, .raiseAfter]
    let failed := (execute sampleParquetPlan sampleCatalogPlan sampleChecksum sampleDisk fs).final
      sampleDisk
    let handled := handledDisk sampleCatalogPlan "2026-01-01T00:00:02+00:00" storageError failed
    (execute sampleParquetPlan sampleCatalogPlan sampleChecksum sampleDisk fs).outcome =
        .raised storageError ∧
      (recoverDataset sampleCatalogPlan.datasetKey handled []).outcome =
        .raised ⟨.marketDataInconsistency, "O catálogo divergiu da transação pendente."⟩ ∧
      ¬ Recovers sampleParquetPlan sampleCatalogPlan sampleDisk failed handled := by
  intro fs failed handled
  have hraised : (recoverDataset sampleCatalogPlan.datasetKey handled []).outcome =
      .raised ⟨.marketDataInconsistency, "O catálogo divergiu da transação pendente."⟩ := by
    decide +kernel
  refine ⟨by decide +kernel, hraised, fun hrecovers => ?_⟩
  obtain ⟨houtcome, -⟩ := hrecovers _ .start
  cases hraised.symm.trans houtcome

end MarketData
end DryTrade
