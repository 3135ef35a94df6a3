import DryTrade.MarketData.Rollback

/-!
# The error handling of a failed ingestion

A protocol that raises has failed to write its PREPARED journal, or is rolled back
by the running process.  The service then moves the run to FAILED, and so does a
later pass over abandoned runs.

## Main definitions

* `AttemptFailed` — what the rollback of the running process starts from.
* `Later` — what may happen after the error handling.

## Main results

* `writeJournal_raisedAfter` — which write of a journal takes effect.
* `executeRecord_raised` — where the protocol raises.
* `handled_ok`, `handled_error` — what the error handling does to the catalog.
* `Later.recovers` — a phase in which every later recovery succeeds.
-/

namespace DryTrade
namespace MarketData

/-! ### Writing a journal -/

/-- Operations go through or raise. -/
def NoCrash (f : Fault) : Prop := f ≠ .crash

/-- The disk once a journal is written. -/
def Disk.written (d : Disk) (record : ValidRecord) : Disk :=
  (Disk.removeJournalTemporary
    { d with journalTemporaries := d.journalTemporaries.insert record.transactionId }
    record.transactionId).insertJournal record

section

variable {A : Fault → Prop} {d₁ : Disk}

/-- Writing a journal leaves the other files alone, and a write that raises has replaced the
journal or not. -/
theorem writeJournal_meets (record : ValidRecord) (d₁ : Disk) :
    Process.Meets A (fun d => d = d₁) (writeJournal record) (fun _ => True)
      (fun _ d => d = d₁.written record)
      (fun _ d => d.files = d₁.files ∧
        (d.journals = d₁.journals ∨ d.journals = (d₁.insertJournal record).journals)) := by
  let opened : Disk :=
    { d₁ with journalTemporaries := d₁.journalTemporaries.insert record.transactionId }
  let R : Disk → Prop := fun d => d.files = d₁.files ∧
    (d.journals = d₁.journals ∨ d.journals = (d₁.insertJournal record).journals)
  refine Process.Meets.orElse (M := fun _ => R)
    (Process.Meets.bind (M := fun _ d => d = opened) (Process.Meets.act ?_ ?_ ?_) fun _ =>
      Process.Meets.bind (M := fun _ d => d = opened) (Process.Meets.act ?_ ?_ ?_) fun _ =>
        Process.Meets.act ?_ ?_ ?_) fun _ => Process.Meets.bind (M := fun _ => R)
          (Process.Meets.act ?_ ?_ ?_) fun _ => Process.Meets.raise fun d hd => hd
  · rintro d t rfl ht
    cases ht
    exact ⟨trivial, rfl⟩
  · rintro d rfl -
    exact ⟨rfl, .inl rfl⟩
  · rintro - d t rfl ht
    cases ht
    exact ⟨rfl, .inl rfl⟩
  · rintro d t rfl ht
    cases ht
    exact ⟨trivial, rfl⟩
  · rintro d rfl -
    exact ⟨rfl, .inl rfl⟩
  · rintro - d t rfl ht
    cases ht
    exact ⟨rfl, .inl rfl⟩
  · rintro d t rfl ht
    cases ht
    exact ⟨trivial, rfl⟩
  · rintro d rfl -
    exact ⟨rfl, .inl rfl⟩
  · rintro - d t rfl ht
    cases ht
    exact ⟨rfl, .inr rfl⟩
  · rintro d t hd ht
    cases ht
    exact ⟨trivial, hd⟩
  · exact fun d hd _ => hd
  · rintro - d t hd ht
    cases ht
    exact hd

/-- **Which write of a journal takes effect**: one that raises has replaced the journal exactly
when its rename went through. -/
theorem writeJournal_raisedAfter (record : ValidRecord) (d : Disk) {fs : List Fault}
    (hfs : ∀ f ∈ fs, NoCrash f) :
    match raisedAfter 3 fs with
    | none => (writeJournal record d fs).outcome = .returned ()
    | some m => (∃ e, (writeJournal record d fs).outcome = .raised e) ∧
        ((writeJournal record d fs).final d).journals =
          if m = 3 then (d.insertJournal record).journals else d.journals := by
  let opened : Disk → Disk := fun d =>
    { d with journalTemporaries := d.journalTemporaries.insert record.transactionId }
  let renamed : Disk → Disk := fun d =>
    (d.removeJournalTemporary record.transactionId).insertJournal record
  let p : DiskProcess Unit := do
    operation fun d => some (opened d)
    operation some
    operation fun d => some (renamed d)
  have hstraight : Process.Straight osError p d [opened, id, renamed] := by
    have hop : ∀ (f : Disk → Disk) t, Process.Straight osError (operation fun d => some (f d)) t
        [f] := fun f t => Process.straight_act rfl rfl
    have hlast := (hop id (opened d)).bind (q := fun _ => operation fun d => some (renamed d))
      (hop renamed _)
    exact (hop opened d).bind (q := fun _ => do
      operation some
      operation fun d => some (renamed d)) hlast
  have hp := Process.straight_final hstraight hfs
  change match raisedAfter 3 fs with
    | none => (p d fs).outcome = .returned () ∧ _
    | some m => (p d fs).outcome = .raised osError ∧ _ at hp
  have hrun : writeJournal record d fs = Process.orElse p (fun _ => do
      operation fun d => some (d.removeJournalTemporary record.transactionId)
      Process.raise storageError) d fs := rfl
  rw [hrun]
  cases hm : raisedAfter 3 fs with
  | none =>
    rw [hm] at hp
    unfold Process.orElse
    simp only [hp.1]
  | some m =>
    rw [hm] at hp
    obtain ⟨houtcome, hfinal⟩ := hp
    have hjournals : ((p d fs).final d).journals =
        if m = 3 then (d.insertJournal record).journals else d.journals := by
      rw [hfinal]
      have hle := raisedAfter_le hm
      interval_cases m <;> rfl
    -- The handler leaves the journals alone, and raises.
    have hhandler : Process.Meets NoCrash (fun s => s.journals = ((p d fs).final d).journals)
        (do
          operation fun d => some (d.removeJournalTemporary record.transactionId)
          Process.raise storageError)
        (fun _ => True) (fun (_ : Unit) _ => False)
        (fun _ s => s.journals = ((p d fs).final d).journals) :=
      Process.Meets.bind (M := fun _ s => s.journals = ((p d fs).final d).journals)
        (Process.Meets.act (fun s t hs ht => by cases ht; exact ⟨trivial, hs⟩) (fun s hs _ => hs)
          fun _ s t hs ht => by cases ht; exact hs)
        fun _ => Process.Meets.raise fun s hs => hs
    obtain ⟨-, -, hend⟩ := hhandler ((p d fs).final d) (p d fs).faults rfl
      (Process.straight_faults hstraight hfs)
    rw [Process.orElse_raised houtcome]
    simp only [Ran.final_append]
    rw [← hjournals]
    revert hend
    cases hr : ((do
      operation fun d => some (d.removeJournalTemporary record.transactionId)
      Process.raise storageError : DiskProcess Unit) ((p d fs).final d) (p d fs).faults).outcome with
    | returned u => exact False.elim
    | raised e => exact fun hend => ⟨⟨e, rfl⟩, hend⟩
    | crashed => exact fun hend => absurd rfl hend

end

/-! ### Where a run raises -/

section

variable {parquetPlan : ParquetUpsertPlan} {catalogPlan : CatalogPlan} {version : String}
  {c₀ : CatalogState} {d₀ d d' : Disk} {fs : List Fault}

theorem Journaled.of_journals {datasetKey transactionId : String} {records : List ValidRecord}
    {temporaries : List String} (h : Journaled datasetKey transactionId records temporaries d)
    (hd : d'.journals = d.journals) :
    Journaled datasetKey transactionId records d'.journalTemporaries d' :=
  ⟨by rw [Disk.pendingRecords, hd]; exact h.pending, by rw [hd]; exact h.own, rfl⟩

/-- What the rollback of the running process starts from. -/
structure AttemptFailed (parquetPlan : ParquetUpsertPlan) (catalogPlan : CatalogPlan)
    (record : ValidRecord) (c₀ : CatalogState) (d₀ d : Disk) : Prop where
  reversible : Reversible NoCrash parquetPlan catalogPlan d₀.partitions c₀ d
  journal : (∃ temporaries, Journaled record.datasetKey record.transactionId [record]
      temporaries d) ∨
    ((∃ temporaries, Journaled record.datasetKey record.transactionId [record.committed]
      temporaries d) ∧ Promoted parquetPlan catalogPlan d)

/-- **The protocol that raises before its end** leaves every file restorable; the journal is
PREPARED, or COMMITTED with everything promoted. -/
theorem prepareAndCommit_meets (hready : Ready parquetPlan catalogPlan c₀ d₀)
    (hvalid : (recordOf parquetPlan catalogPlan version .prepared).validate = .ok ()) :
    Process.Meets NoCrash
      (fun d => Fresh parquetPlan catalogPlan d₀.partitions c₀ d ∧ ∃ temporaries,
        Journaled catalogPlan.datasetKey parquetPlan.transactionId [⟨_, hvalid⟩] temporaries d)
      (prepareAndCommit parquetPlan catalogPlan ⟨_, hvalid⟩) (fun _ => True) (fun _ _ => True)
      (fun _ d => AttemptFailed parquetPlan catalogPlan ⟨_, hvalid⟩ c₀ d₀ d) := by
  refine Process.Meets.bind (Process.Meets.weaken (prepareAndPromote_keeps d₀.partitions
    (nodup_of_valid hvalid) hready.originals hready.planned.1 (F := fun d => ∃ temporaries,
      Journaled catalogPlan.datasetKey parquetPlan.transactionId [⟨_, hvalid⟩] temporaries d)
    fun file d content h => h.imp fun _ h => ignores_journaled file d content h)
    (fun _ h => h) (fun _ _ => trivial) (fun _ _ h => h) fun _ _ h => ⟨h.1.1, .inl h.1.2⟩)
    fun _ => Process.Meets.of_eq fun t ht => ?_
  obtain ⟨hreversible, hpromoted, temporaries, hjournal⟩ := ht
  refine Process.Meets.weaken (writeJournal_meets (ValidRecord.committed ⟨_, hvalid⟩) t)
    (fun _ h => h) (fun _ _ => trivial) (fun _ _ _ => trivial) ?_
  rintro - ⟨journals, journalTemporaries, files⟩ ⟨rfl, hjournals⟩
  have hcommitted : Journaled (ValidRecord.committed ⟨_, hvalid⟩).datasetKey
      (ValidRecord.committed ⟨_, hvalid⟩).transactionId [⟨_, hvalid⟩] temporaries t := hjournal
  have hinserted := hcommitted.insertJournal fun r hr => List.mem_singleton.mp hr ▸ rfl
  exact ⟨hreversible, hjournals.imp (fun h => ⟨_, hjournal.of_journals h⟩) fun h =>
    ⟨⟨_, hinserted.of_journals h⟩, hpromoted⟩⟩

/-- The cleanup of a committed transaction never raises. -/
theorem cleanup_meets (record : ValidRecord) :
    Process.Meets (fun _ => True) (fun _ : Disk => True)
      (Process.orElse (finalize record) fun _ => restoreCommittedJournal record) (fun _ => True)
      (fun _ _ => True) (fun _ _ => False) :=
  Process.Meets.orElse (Process.Meets.any _ _) fun _ =>
    Process.Meets.orElse (Process.Meets.any _ _) fun _ => Process.Meets.pure fun _ _ => trivial

/-- **Where the protocol raises**: writing its first journal, or before its end, when the
rollback of the running process follows. -/
theorem executeRecord_raised {record : ValidRecord} {e : Failure}
    (hraised : (executeRecord parquetPlan catalogPlan record d₀ fs).outcome = .raised e) :
    let prepared := writeJournal record d₀ fs
    ((∃ e, prepared.outcome = .raised e) ∧
      (executeRecord parquetPlan catalogPlan record d₀ fs).final d₀ = prepared.final d₀) ∨
    (prepared.outcome = .returned () ∧
      let attempt := prepareAndCommit parquetPlan catalogPlan record (prepared.final d₀)
        prepared.faults
      (∃ e, attempt.outcome = .raised e) ∧
        (executeRecord parquetPlan catalogPlan record d₀ fs).final d₀ =
          (rollbackBeforeCommit record (attempt.final (prepared.final d₀)) attempt.faults).final
            (attempt.final (prepared.final d₀))) := by
  intro prepared
  have hrun : executeRecord parquetPlan catalogPlan record d₀ fs =
      Process.andThen (writeJournal record) (fun _ => Process.andThen
        (Process.onRaise (prepareAndCommit parquetPlan catalogPlan record) fun _ =>
          rollbackBeforeCommit record)
        fun _ => Process.orElse (finalize record.committed) fun _ =>
          restoreCommittedJournal record.committed) d₀ fs := rfl
  rw [hrun] at hraised ⊢
  cases hprepared : prepared.outcome with
  | raised e' =>
    rw [Process.andThen_raised hprepared]
    exact .inl ⟨⟨e', rfl⟩, rfl⟩
  | crashed =>
    rw [Process.andThen_crashed hprepared] at hraised
    cases hraised
  | returned u =>
    rw [Process.andThen_returned hprepared] at hraised ⊢
    refine .inr ⟨rfl, ?_⟩
    intro attempt
    simp only [Ran.final_append] at hraised ⊢
    cases hattempt : attempt.outcome with
    | raised e' =>
      have honRaise := Process.onRaise_raised (h := fun _ => rollbackBeforeCommit record) hattempt
      have houtcome : ∃ e, (Process.onRaise (prepareAndCommit parquetPlan catalogPlan record)
          (fun _ => rollbackBeforeCommit record) (prepared.final d₀) prepared.faults).outcome =
            .raised e ∨
          (Process.onRaise (prepareAndCommit parquetPlan catalogPlan record)
            (fun _ => rollbackBeforeCommit record) (prepared.final d₀) prepared.faults).outcome =
            .crashed := by
        rw [honRaise]
        cases (rollbackBeforeCommit record (attempt.final (prepared.final d₀))
          attempt.faults).outcome with
        | returned u => exact ⟨_, .inl rfl⟩
        | raised e'' => exact ⟨_, .inl rfl⟩
        | crashed => exact ⟨e', .inr rfl⟩
      refine ⟨⟨e', rfl⟩, ?_⟩
      obtain ⟨e'', hraised' | hcrashed⟩ := houtcome
      · rw [Process.andThen_raised hraised', honRaise]
        exact Ran.final_append ..
      · rw [Process.andThen_crashed hcrashed, honRaise]
        exact Ran.final_append ..
    | returned u =>
      have hnot : ∀ e, (prepareAndCommit parquetPlan catalogPlan record (prepared.final d₀)
          prepared.faults).outcome ≠ .raised e := fun e he => by
        rw [hattempt] at he
        cases he
      have honRaise := Process.onRaise_of_not_raised (h := fun _ => rollbackBeforeCommit record)
        hnot
      rw [Process.andThen_returned ((congrArg Ran.outcome honRaise).trans hattempt)] at hraised
      exact absurd hraised ((cleanup_meets record.committed).ne_raised trivial (fun _ _ => trivial)
        e)
    | crashed =>
      have hnot : ∀ e, (prepareAndCommit parquetPlan catalogPlan record (prepared.final d₀)
          prepared.faults).outcome ≠ .raised e := fun e he => by
        rw [hattempt] at he
        cases he
      have honRaise := Process.onRaise_of_not_raised (h := fun _ => rollbackBeforeCommit record)
        hnot
      rw [Process.andThen_crashed ((congrArg Ran.outcome honRaise).trans hattempt)] at hraised
      cases hraised

end

/-! ### The error handling -/

/-- Two disks that differ in the catalog only. -/
structure OnlyCatalog (d d' : Disk) : Prop where
  journals : d'.journals = d.journals
  files : ∀ file, file ≠ .catalog → file ≠ .catalogScratch → d'.files file = d.files file

section

variable {d : Disk} {c c' : CatalogState} {runId datasetKey now : String} {e : Failure}

/-- A plain catalog write without faults. -/
theorem writeCatalog_noFault (c' : CatalogState) (hc : d.files .catalog = some (.catalog c)) :
    (writeCatalog c' d []).outcome = .returned () ∧
      ((writeCatalog c' d []).final d).files .catalog = some (.catalog c') ∧
      OnlyCatalog d ((writeCatalog c' d []).final d) := by
  have hF : ∀ file, file = .catalog ∨ file = .catalogScratch → Ignores (OnlyCatalog d) file :=
    fun file hfile t content h => ⟨h.journals, fun file' hne hne' =>
      (t.set_files_of_ne content (by rcases hfile with rfl | rfl <;> assumption)).trans
        (h.files file' hne hne')⟩
  have hkeeps : Process.Keeps Process.NoFault (fun t => CatalogHolds (fun _ => True) t ∧
      OnlyCatalog d t) (writeCatalog c') _ (fun _ t => CatalogHolds (· = c') t ∧ OnlyCatalog d t) :=
    writeCatalog_keeps trivial rfl (hF _ (.inr rfl)) (hF _ (.inl rfl))
  obtain ⟨u, houtcome, ⟨c'', hc'', rfl⟩, honly⟩ :=
    hkeeps.noFault ⟨⟨c, hc, trivial⟩, rfl, fun _ _ _ => rfl⟩
  exact ⟨houtcome, hc'', honly⟩

/-- `fail_run` writes the failed run. -/
theorem failRun_ok {run : IngestionRunRecord} (hrun : c.runs runId = some run)
    (hkey : run.datasetKey = datasetKey) (hstatus : run.status ≠ .completed)
    (now errorCode : String) :
    ∃ c' failed, failRun runId datasetKey errorCode now c = .ok c' ∧ c'.datasets = c.datasets ∧
      c'.receipts = c.receipts ∧ c'.runs runId = some failed ∧ failed.status = .failed := by
  let failed := run.fail runId datasetKey now (sanitizeErrorCode errorCode)
  refine ⟨{ c with runs := assign c.runs runId (some failed) }, failed, ?_, rfl, rfl,
    assign_self .., rfl⟩
  simp [failRun, hrun, hkey, hstatus, failed, FailureKind.unless, bind, Except.bind, pure,
    Except.pure]

/-- `fail_run` refuses a run that is missing or COMPLETED. -/
theorem failRun_error (h : ∀ run, c.runs runId = some run → run.status = .completed)
    (datasetKey now errorCode : String) : ∃ e, failRun runId datasetKey errorCode now c = .error e := by
  cases hresult : failRun runId datasetKey errorCode now c with
  | error e => exact ⟨e, rfl⟩
  | ok c' =>
    unfold failRun at hresult
    split at hresult
    · simp at hresult
    · next run hrun =>
      simp only [bind_eq_ok, FailureKind.unless_eq_ok, exists_const, decide_eq_true_eq] at hresult
      exact absurd (h run hrun) hresult.2.1

/-- The handler writes the failed run when there is one to fail. -/
theorem handled_ok (hc : d.files .catalog = some (.catalog c))
    (hfail : failRun runId datasetKey (ingestionErrorCode e) now c = .ok c') :
    ((handleFailedIngestion runId datasetKey now e d []).final d).files .catalog =
        some (.catalog c') ∧
      OnlyCatalog d ((handleFailedIngestion runId datasetKey now e d []).final d) := by
  have hload : loadCatalog d = .ok c := by rw [loadCatalog, hc]
  have hrun : failRunOnDisk runId datasetKey (ingestionErrorCode e) now d [] =
      writeCatalog c' d [] := by
    change (ofExcept (loadCatalog d) >>= _) d [] = _
    rw [hload]
    change (ofExcept (failRun runId datasetKey (ingestionErrorCode e) now c) >>= _) d [] = _
    rw [hfail]
    rfl
  obtain ⟨houtcome, hcatalog, honly⟩ := writeCatalog_noFault c' hc
  have hhandle : handleFailedIngestion runId datasetKey now e d [] = writeCatalog c' d [] := by
    rw [← hrun]
    refine Process.orElse_of_not_raised fun e' he' => ?_
    rw [hrun, houtcome] at he'
    cases he'
  rw [hhandle]
  exact ⟨hcatalog, honly⟩

/-- Otherwise it changes nothing. -/
theorem handled_error (c : CatalogState) (hload : loadCatalog d = .ok c)
    (hrefuse : ∀ run, c.runs runId = some run → run.status = .completed) :
    (handleFailedIngestion runId datasetKey now e d []).final d = d := by
  obtain ⟨e', hfail⟩ := failRun_error hrefuse datasetKey now (ingestionErrorCode e)
  have hrun : failRunOnDisk runId datasetKey (ingestionErrorCode e) now d [] =
      ⟨.raised e', [], []⟩ := by
    change (ofExcept (loadCatalog d) >>= _) d [] = _
    rw [hload]
    change (ofExcept (failRun runId datasetKey (ingestionErrorCode e) now c) >>= _) d [] = _
    rw [hfail]
    rfl
  rw [handleFailedIngestion, Process.orElse_raised (congrArg Ran.outcome hrun), Ran.final_append,
    hrun]
  by_cases hkind : e'.kind = .marketDataStorage
  · rw [if_pos hkind]
    rfl
  · rw [if_neg hkind]
    rfl

end

/-! ### Later -/

/-- What may happen after the error handling: abandoned runs are failed, and the dataset is
recovered. -/
inductive Later (datasetKey : String) (d : Disk) : Disk → Prop
  | start : Later datasetKey d d
  | abandoned {d' : Disk} (now : String) (runIds : List String) : Later datasetKey d d' →
      Later datasetKey d ((markAbandonedRunsFailed now runIds d' []).final d')
  | recovery {d' : Disk} : Later datasetKey d d' →
      Later datasetKey d ((recoverDataset datasetKey d' []).final d')

section

variable {A : Fault → Prop}

/-- A run that is moved to FAILED was RUNNING. -/
theorem markAbandonedRunFailed_cases {runId now : String} {c c' : CatalogState}
    (h : markAbandonedRunFailed runId now c = some c') :
    c'.datasets = c.datasets ∧ c'.receipts = c.receipts ∧
      ∀ id run, c.runs id = some run → run.status ≠ .running → c'.runs id = some run := by
  unfold markAbandonedRunFailed at h
  split at h
  · cases h
  · next run hrun =>
    split at h
    · next hrunning =>
      cases h
      refine ⟨rfl, rfl, fun id run' hid hstatus => ?_⟩
      refine (assign_of_ne fun heq => ?_).trans hid
      rw [heq, hrun] at hid
      cases hid
      exact hstatus hrunning
    · cases h

theorem ofExcept_ok_bind {α β : Type} (a : α) (f : α → DiskProcess β) :
    (ofExcept (.ok a) >>= f) = f a := rfl

/-- **Failing abandoned runs** keeps what it says nothing about. -/
theorem markAbandonedRunsFailed_keeps {P : CatalogState → Prop} {F : Disk → Prop} (now : String)
    (hP : ∀ runId c c', markAbandonedRunFailed runId now c = some c' → P c → P c')
    (hscratch : Ignores F .catalogScratch) (hcatalog : Ignores F .catalog) (runIds : List String) :
    Process.Keeps A (fun d => CatalogHolds P d ∧ F d) (markAbandonedRunsFailed now runIds)
      (fun d => CatalogHolds P d ∧ F d) (fun _ d => CatalogHolds P d ∧ F d) := by
  refine Process.Meets.forEach (J := fun _ d => CatalogHolds P d ∧ F d) fun _ runId _ _ =>
    Process.Meets.bind (M := fun d d' => d' = d ∧ CatalogHolds P d ∧ F d)
      (Process.Meets.read fun d hd => ⟨rfl, hd⟩) fun d => ?_
  by_cases hd : CatalogHolds P d ∧ F d
  swap
  · exact fun d' fs h => absurd h.2 hd
  obtain ⟨⟨c, hc, hPc⟩, hFd⟩ := hd
  have hload : loadCatalog d = .ok c := by rw [loadCatalog, hc]
  rw [hload]
  rw [ofExcept_ok_bind]
  cases hmark : markAbandonedRunFailed runId now c with
  | none => exact Process.Meets.pure fun d' h => h.1 ▸ h.2
  | some c' =>
    have hPc' := hP runId c c' hmark hPc
    exact Process.Keeps.weaken (writeCatalog_keeps hPc' hPc' hscratch hcatalog)
      (fun d' h => h.1 ▸ h.2) (fun _ h => h) fun _ _ h => h

/-- **Later recoveries succeed** when some phase is kept by failing abandoned runs and left by a
recovery. -/
theorem Later.recovers {datasetKey : String} {d d' : Disk} {P Q : Disk → Prop}
    (h : Later datasetKey d d') (hd : P d)
    (habandoned : ∀ now runIds, Process.Keeps Process.NoFault P
      (markAbandonedRunsFailed now runIds) P fun _ => P)
    (hrecovery : Process.Keeps Process.NoFault P (recoverDataset datasetKey) (fun _ => True)
      fun _ => Q)
    (hdone : ∀ d, Q d → P d) :
    (recoverDataset datasetKey d' []).outcome = .returned () ∧
      Q ((recoverDataset datasetKey d' []).final d') := by
  have hphase : P d' := by
    induction h with
    | start => exact hd
    | abandoned now runIds _ ih =>
      obtain ⟨-, -, hphase⟩ := (habandoned now runIds).noFault ih
      exact hphase
    | recovery _ ih =>
      obtain ⟨-, -, hphase⟩ := hrecovery.noFault ih
      exact hdone _ hphase
  obtain ⟨u, houtcome, hend⟩ := hrecovery.noFault hphase
  exact ⟨houtcome, hend⟩

end

end MarketData
end DryTrade
