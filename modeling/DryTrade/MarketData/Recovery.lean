import DryTrade.MarketData.Transaction

/-!
# Recovery of a dataset

A recovery undoes the PREPARED journal of a dataset and finishes a COMMITTED one,
whatever operations raise or crash on the way: a recovery that was cut short
leaves a disk on which the next one does the same.

A file and its backup are `Restorable` when restoring brings the original back;
every operation of a rollback keeps every partition restorable.

## Main definitions

* `Restorable`, `Restored` — a target and its backup.
* `Undoable`, `Finishable`, `Settled` — the phases of a transaction a recovery meets.

## Main results

* `restore_meets` — restoring under any faults.
* `rollbackSemantic_recognized` — the semantic rollback of the catalog.
* `recoverDataset_undoable`, `recoverDataset_finishable`, `recoverDataset_settled` — recovery.
-/

namespace DryTrade
namespace MarketData

/-! ### Files an assertion is not about -/

/-- Whatever happens to `file`, `F` stays true. -/
def Ignores (F : Disk → Prop) (file : MarketFile) : Prop :=
  ∀ d content, F d → F (d.set file content)

theorem Ignores.and {F G : Disk → Prop} {file : MarketFile} (hF : Ignores F file)
    (hG : Ignores G file) : Ignores (fun d => F d ∧ G d) file :=
  fun d content h => ⟨hF d content h.1, hG d content h.2⟩

theorem Ignores.forall {ι : Sort*} {F : ι → Disk → Prop} {file : MarketFile}
    (h : ∀ i, Ignores (F i) file) : Ignores (fun d => ∀ i, F i d) file :=
  fun d content hF i => h i d content (hF i)

theorem Ignores.imp {p : Prop} {F : Disk → Prop} {file : MarketFile} (h : p → Ignores F file) :
    Ignores (fun d => p → F d) file := fun d content hF hp => h hp d content (hF hp)

theorem ignores_files {P : Option FileContent → Prop} {file file' : MarketFile}
    (h : file' ≠ file) : Ignores (fun d => P (d.files file')) file := by
  intro d content hP
  rwa [d.set_files_of_ne content h]

/-- The file `target` can be restored to `original` from its backup. -/
def Restorable (target backup : MarketFile) (original : Option FileContent) (d : Disk) : Prop :=
  (d.files backup = none ∧ (original = none ∨ d.files target = original)) ∨
    (original ≠ none ∧ d.files backup = original)

/-- The file `target` is `original`, and its backup is gone. -/
def Restored (target backup : MarketFile) (original : Option FileContent) (d : Disk) : Prop :=
  d.files target = original ∧ d.files backup = none

section

variable {target backup : MarketFile} {original : Option FileContent} {d : Disk}

theorem Restored.restorable (h : Restored target backup original d) :
    Restorable target backup original d := .inl ⟨h.2, .inr h.1⟩

theorem ignores_restorable {file : MarketFile} (ht : target ≠ file) (hb : backup ≠ file) :
    Ignores (Restorable target backup original) file := by
  intro d content h
  unfold Restorable
  rwa [d.set_files_of_ne content ht, d.set_files_of_ne content hb]

theorem ignores_restored {file : MarketFile} (ht : target ≠ file) (hb : backup ≠ file) :
    Ignores (Restored target backup original) file := by
  intro d content h
  unfold Restored
  rwa [d.set_files_of_ne content ht, d.set_files_of_ne content hb]

/-! ### Operations -/

variable {A : Fault → Prop} {P I : Disk → Prop} {Q : Unit → Disk → Prop}

/-- An operation that cannot fail by itself. -/
theorem keeps_operation {f : Disk → Disk} (hP : ∀ d, P d → I d)
    (hstep : ∀ d, P d → I (f d) ∧ Q () (f d)) :
    Process.Keeps A P (operation fun d => some (f d)) I Q :=
  Process.Keeps.act hP fun d hd => ⟨f d, rfl, hstep d hd⟩

/-- Renaming a file that is there. -/
theorem keeps_replaceFile {src dst : MarketFile} (hP : ∀ d, P d → I d)
    (hstep : ∀ d, P d → ∃ content, d.files src = some content ∧
      I ((d.set src none).set dst (some content)) ∧
        Q () ((d.set src none).set dst (some content))) :
    Process.Keeps A P (replaceFile src dst) I Q := by
  refine Process.Keeps.act hP fun d hd => ?_
  obtain ⟨content, hcontent, hI, hQ⟩ := hstep d hd
  exact ⟨_, by rw [Disk.replace, hcontent, Option.map_some], hI, hQ⟩

/-- **Restoring a file** keeps it restorable at every step, and leaves it restored; an assertion
that both steps keep stays true. -/
theorem restore_meets {F : Disk → Prop} {hadOriginal : Bool} (hne : target ≠ backup)
    (horiginal : hadOriginal = original.isSome) (hFt : ∀ d, F d → F (d.set target none))
    (hFb : ∀ d content, F d → d.files backup = original → original = some content →
      F ((d.set backup none).set target (some content))) :
    Process.Keeps A (fun d => Restorable target backup original d ∧ F d)
      (restore target backup hadOriginal) (fun d => Restorable target backup original d ∧ F d)
      (fun _ d => Restored target backup original d ∧ F d) := by
  refine Process.Meets.bind (M := fun d d' => d' = d ∧ Restorable target backup original d ∧ F d)
    (Process.Meets.read fun d hd => ⟨rfl, hd⟩) fun d => ?_
  by_cases hbackup : d.exist backup = true
  · -- The backup is there, so it is the original.
    rw [if_pos hbackup]
    refine Process.Meets.bind
      (M := fun _ d => (original ≠ none ∧ d.files backup = original) ∧ F d)
      (keeps_operation ?_ ?_) fun _ => keeps_replaceFile ?_ ?_
    · rintro _ ⟨rfl, h⟩
      exact h
    · rintro d ⟨rfl, ⟨hnone, -⟩ | ⟨hsome, heq⟩, hF⟩
      · simp [Disk.exist, hnone] at hbackup
      · have heq' := (d.set_files_of_ne none hne.symm).trans heq
        exact ⟨⟨.inr ⟨hsome, heq'⟩, hFt d hF⟩, ⟨hsome, heq'⟩, hFt d hF⟩
    · exact fun d hd => ⟨.inr hd.1, hd.2⟩
    · rintro d ⟨⟨hsome, heq⟩, hF⟩
      obtain ⟨content, hcontent⟩ := Option.ne_none_iff_exists'.mp hsome
      have hrestored : Restored target backup original
          ((d.set backup none).set target (some content)) :=
        ⟨by rw [Disk.set_files_self, hcontent],
          by rw [Disk.set_files_of_ne _ _ hne.symm, Disk.set_files_self]⟩
      have hF' := hFb d content hF heq hcontent
      exact ⟨content, heq.trans hcontent, ⟨hrestored.restorable, hF'⟩, hrestored, hF'⟩
  · -- Without a backup only a target that had no original is removed.
    rw [if_neg hbackup]
    have hnone : d.files backup = none := by simpa [Disk.exist] using hbackup
    cases hadOriginal with
    | true =>
      rw [if_pos rfl]
      refine Process.Meets.pure ?_
      rintro _ ⟨rfl, ⟨-, hnil | htarget⟩ | ⟨hsome, heq⟩, hF⟩
      · simp [hnil] at horiginal
      · exact ⟨⟨htarget, hnone⟩, hF⟩
      · exact absurd (heq.symm.trans hnone) hsome
    | false =>
      rw [if_neg (by simp)]
      have hnil : original = none := by simpa using horiginal.symm
      refine keeps_operation ?_ ?_
      · rintro _ ⟨rfl, h⟩
        exact h
      · rintro d ⟨rfl, -, hF⟩
        have hrestored : Restored target backup original (d.set target none) :=
          ⟨by rw [Disk.set_files_self, hnil], (d.set_files_of_ne none hne.symm).trans hnone⟩
        exact ⟨⟨hrestored.restorable, hFt d hF⟩, hrestored, hFt d hF⟩

end

/-! ### Loops over the partitions -/

section

variable {A : Fault → Prop} {transactionId : String} {original : String → Option FileContent}

/-- The partition of an artifact can be restored. -/
abbrev JournalArtifact.Restorable (transactionId : String) (original : String → Option FileContent)
    (a : JournalArtifact) : Disk → Prop :=
  MarketData.Restorable (.partition a.target) (.partitionBackup a.target transactionId)
    (original a.target)

/-- The partition of an artifact is the original, without a backup. -/
abbrev JournalArtifact.Restored (transactionId : String) (original : String → Option FileContent)
    (a : JournalArtifact) : Disk → Prop :=
  MarketData.Restored (.partition a.target) (.partitionBackup a.target transactionId)
    (original a.target)

/-- **Restoring every partition.** -/
theorem rollbackPartitions_keeps {artifacts : List JournalArtifact} {F : Disk → Prop}
    (hnodup : (artifacts.map (·.target)).Nodup)
    (horiginal : ∀ a ∈ artifacts, a.hadOriginal = (original a.target).isSome)
    (hF : ∀ t, Ignores F (.partition t) ∧ Ignores F (.partitionBackup t transactionId)) :
    Process.Keeps A (fun d => (∀ a ∈ artifacts, a.Restorable transactionId original d) ∧ F d)
      (Process.forEach artifacts (rollbackPartition transactionId))
      (fun d => (∀ a ∈ artifacts, a.Restorable transactionId original d) ∧ F d)
      (fun _ d => (∀ a ∈ artifacts, a.Restored transactionId original d) ∧ F d) := by
  have hloop : Process.Keeps A
      (fun d => (∀ a ∈ artifacts, a.Restorable transactionId original d) ∧
        (∀ a ∈ ([] : List JournalArtifact), a.Restored transactionId original d) ∧ F d)
      (Process.forEach artifacts (rollbackPartition transactionId))
      (fun d => (∀ a ∈ artifacts, a.Restorable transactionId original d) ∧ F d)
      (fun _ d => (∀ a ∈ artifacts, a.Restorable transactionId original d) ∧
        (∀ a ∈ artifacts, a.Restored transactionId original d) ∧ F d) := by
    refine Process.Meets.forEach (J := fun done d =>
      (∀ a ∈ artifacts, a.Restorable transactionId original d) ∧
        (∀ a : JournalArtifact, a ∈ done → a.Restored transactionId original d) ∧ F d)
      fun done x rest hsplit => ?_
    have hx : x ∈ artifacts := by rw [hsplit]; simp
    have hdone : ∀ a ∈ done, a.target ≠ x.target := by
      rw [hsplit, List.map_append, List.nodup_append] at hnodup
      exact fun a ha => hnodup.2.2 _ (List.mem_map_of_mem ha) _ (by simp)
    -- The other partitions and whatever else is known are not about the files of `x`.
    let G : Disk → Prop := fun d =>
      (∀ a ∈ artifacts, a.target ≠ x.target → a.Restorable transactionId original d) ∧
        (∀ a ∈ done, a.Restored transactionId original d) ∧ F d
    have hG : Ignores G (.partition x.target) ∧
        Ignores G (.partitionBackup x.target transactionId) := by
      refine ⟨fun d content h => ⟨fun a ha hne => ?_, fun a ha => ?_, ?_⟩,
        fun d content h => ⟨fun a ha hne => ?_, fun a ha => ?_, ?_⟩⟩
      · exact ignores_restorable (by simpa using hne) (by simp) d content (h.1 a ha hne)
      · exact ignores_restored (by simpa using hdone a ha) (by simp) d content (h.2.1 a ha)
      · exact (hF x.target).1 d content h.2.2
      · exact ignores_restorable (by simp) (by simpa using hne) d content (h.1 a ha hne)
      · exact ignores_restored (by simp) (by simpa using hdone a ha) d content (h.2.1 a ha)
      · exact (hF x.target).2 d content h.2.2
    have hall : ∀ d, x.Restorable transactionId original d ∧ G d →
        ∀ a ∈ artifacts, a.Restorable transactionId original d := by
      rintro d ⟨hxd, hGd⟩ a ha
      by_cases hat : a.target = x.target
      · simpa [JournalArtifact.Restorable, hat] using hxd
      · exact hGd.1 a ha hat
    refine Process.Keeps.weaken
      (restore_meets (F := G) (by simp) (horiginal x hx) (fun d hd => hG.1 d none hd)
        fun d content hd _ _ => hG.1 _ _ (hG.2 _ _ hd)) ?_ ?_ ?_
    · exact fun d hd => ⟨hd.1 x hx, fun a ha _ => hd.1 a ha, hd.2⟩
    · exact fun d hd => ⟨hall d hd, hd.2.2.2⟩
    · rintro - d ⟨hxd, hGd⟩
      refine ⟨hall d ⟨hxd.restorable, hGd⟩, fun a ha => ?_, hGd.2.2⟩
      rcases List.mem_append.mp ha with ha | ha
      · exact hGd.2.1 a ha
      · rw [List.mem_singleton.mp ha]
        exact hxd
  exact hloop.weaken (fun d hd => ⟨hd.1, by simp, hd.2⟩) (fun _ hd => hd) fun _ d hd => hd.2

/-- Removing one file of every artifact, where nothing that is known is about these files. -/
theorem unlinkEach_keeps {artifacts : List JournalArtifact} {F : Disk → Prop}
    {file : JournalArtifact → MarketFile} (hF : ∀ a, Ignores F (file a)) :
    Process.Keeps A F (Process.forEach artifacts fun a => unlink (file a)) F
      (fun _ d => F d ∧ ∀ a ∈ artifacts, d.files (file a) = none) := by
  have hloop : Process.Keeps A
      (fun d => F d ∧ ∀ a ∈ ([] : List JournalArtifact), d.files (file a) = none)
      (Process.forEach artifacts fun a => unlink (file a)) F
      (fun _ d => F d ∧ ∀ a ∈ artifacts, d.files (file a) = none) := by
    refine Process.Meets.forEach (J := fun done d => F d ∧ ∀ a ∈ done, d.files (file a) = none)
      fun done x rest _ => keeps_operation (fun d hd => hd.1) fun d hd => ?_
    refine ⟨hF x d none hd.1, hF x d none hd.1, fun a ha => ?_⟩
    by_cases hfile : file a = file x
    · rw [hfile, Disk.set_files_self]
    · rw [Disk.set_files_of_ne _ _ hfile]
      refine hd.2 a ((List.mem_append.mp ha).resolve_right fun hax => hfile ?_)
      rw [List.mem_singleton.mp hax]
  exact hloop.weaken (fun d hd => ⟨hd, by simp⟩) (fun _ hd => hd) fun _ d hd => hd

end

/-! ### Journals -/

/-- The journals of a dataset are `records`, those of the transaction are among them, and
`temporaries` are the incomplete journal writes. -/
structure Journaled (datasetKey transactionId : String) (records : List ValidRecord)
    (temporaries : List String) (d : Disk) : Prop where
  pending : d.pendingRecords datasetKey = records
  own : ∀ r ∈ d.journals, r.transactionId = transactionId → r ∈ records
  incomplete : d.journalTemporaries = temporaries

theorem ignores_journaled {datasetKey transactionId : String} {records : List ValidRecord}
    {temporaries : List String} (file : MarketFile) :
    Ignores (Journaled datasetKey transactionId records temporaries) file :=
  fun _ _ h => ⟨h.pending, h.own, h.incomplete⟩

section

variable {d : Disk} {record : ValidRecord} {records : List ValidRecord} {temporaries : List String}

/-- Writing a journal replaces the one of its transaction. -/
theorem Journaled.insertJournal
    (h : Journaled record.datasetKey record.transactionId records temporaries d)
    (hrecords : ∀ r ∈ records, r.transactionId = record.transactionId) :
    Journaled record.datasetKey record.transactionId [record] temporaries
      (d.insertJournal record) := by
  have hperm : (d.insertJournal record).journals.Perm
      (record :: d.journals.filter fun r => r.transactionId != record.transactionId) :=
    List.perm_orderedInsert ..
  refine ⟨?_, fun r hr hid => ?_, h.incomplete⟩
  · refine List.perm_singleton.mp ((hperm.filter _).trans ?_)
    have hothers : (d.journals.filter fun r => r.transactionId != record.transactionId).filter
        (fun r => r.datasetKey == record.datasetKey) = [] := by
      rw [List.filter_eq_nil_iff]
      intro r hr hkey
      rw [List.mem_filter] at hr
      have hrec : r ∈ records := by
        rw [← h.pending]
        exact List.mem_filter.mpr ⟨hr.1, hkey⟩
      simp [hrecords r hrec] at hr
    rw [List.filter_cons_of_pos (by simp), hothers]
  · rw [hperm.mem_iff, List.mem_cons, List.mem_filter] at hr
    rcases hr with rfl | ⟨-, hne⟩
    · exact List.mem_singleton_self _
    · simp [hid] at hne

/-- Removing the journal of the transaction leaves none. -/
theorem Journaled.removeJournal {datasetKey transactionId : String}
    (h : Journaled datasetKey transactionId records temporaries d)
    (hrecords : ∀ r ∈ records, r.transactionId = transactionId) :
    Journaled datasetKey transactionId [] temporaries (d.removeJournal transactionId) := by
  refine ⟨List.filter_eq_nil_iff.mpr fun r hr hkey => ?_, fun r hr hid => ?_, h.incomplete⟩
  · obtain ⟨hmem, hne⟩ := List.mem_filter.mp hr
    have hrec : r ∈ records := by
      rw [← h.pending]
      exact List.mem_filter.mpr ⟨hmem, hkey⟩
    simp [hrecords r hrec] at hne
  · obtain ⟨-, hne⟩ := List.mem_filter.mp hr
    simp [hid] at hne

end

/-! ### What a valid journal says -/

theorem ValidRecord.identity (record : ValidRecord) :
    record.identityValid = true ∧ (record.partitions.map (·.target)).Nodup := by
  have h := record.valid
  simp only [JournalRecord.validate, bind_eq_ok, FailureKind.unless_eq_ok, exists_const,
    decide_eq_true_eq] at h
  exact ⟨h.2.2.2.1, h.2.2.2.2.1⟩

/-- A journal without a receipt key has no receipts, and its run was RUNNING and is to be
COMPLETED. -/
theorem ValidRecord.facts (record : ValidRecord) :
    (record.receiptKey = none → record.receiptBefore = none ∧ record.receiptIntended = none) ∧
      record.runBefore.status = .running ∧ record.runIntended.status = .completed ∧
      record.runBefore.datasetKey = record.datasetKey := by
  have h := record.identity.1
  simp only [JournalRecord.identityValid, Bool.and_eq_true, beq_iff_eq] at h
  obtain ⟨⟨⟨⟨⟨⟨⟨⟨⟨⟨⟨-, -⟩, -⟩, -⟩, -⟩, -⟩, hdataset⟩, -⟩, hbefore⟩, hintended⟩, hkey⟩, -⟩ := h
  refine ⟨fun hnone => ?_, hbefore, hintended, hdataset⟩
  rw [hnone, Option.isNone_none] at hkey
  simpa using hkey.symm

theorem recognizes_of_owned {m : CatalogMutation} {c : CatalogState}
    (h : m.owned c = m.before ∨ m.owned c = m.intended) : m.recognizes c = true := by
  unfold CatalogMutation.recognizes
  simp only [CatalogMutation.owned, CatalogMutation.before, CatalogMutation.intended,
    Prod.mk.injEq] at h
  rcases h with ⟨h1, h2, h3⟩ | ⟨h1, h2, h3⟩
  · simp [h1, h2, h3]
  · simp [h1, h2, h3]

theorem recognizes_congr {m : CatalogMutation} {c c' : CatalogState} (h : m.owned c' = m.owned c) :
    m.recognizes c' = m.recognizes c := by
  simp only [CatalogMutation.owned, Prod.mk.injEq] at h
  simp only [CatalogMutation.recognizes, h.1, h.2.1, h.2.2]

/-- **The semantic rollback of a recognized catalog** succeeds, reverts the owned keys and
touches no other. -/
theorem rollbackSemantic_recognized {m : CatalogMutation} {c : CatalogState}
    (hreceipt : m.receiptKey = none → m.receiptBefore = none ∧ m.receiptIntended = none)
    (h : m.recognizes c = true) :
    (∃ c', rollbackSemantic m c = .ok (some c') ∧ m.owned c' = m.before ∧ m.Untouched c c') ∨
      (rollbackSemantic m c = .ok none ∧ m.owned c = m.before) := by
  have hthree : (c.datasets m.datasetKey = m.datasetBefore ∨
        c.datasets m.datasetKey = some m.datasetIntended) ∧
      (c.runs m.runId = some m.runBefore ∨ c.runs m.runId = some m.runIntended) ∧
      (lookup c.receipts m.receiptKey = m.receiptBefore ∨
        lookup c.receipts m.receiptKey = m.receiptIntended) := by
    simp only [CatalogMutation.recognizes, Bool.and_eq_true, Bool.or_eq_true, decide_eq_true_eq,
      Option.isNone_iff_eq_none] at h
    refine ⟨h.1.1, h.1.2, h.2.elim (fun hnone => .inl ?_) id⟩
    rw [hnone, (hreceipt hnone).1]
    rfl
  obtain ⟨hdataset, hrun, hrec⟩ := hthree
  unfold rollbackSemantic
  rw [h]
  by_cases htouch : m.touches c = true
  · refine .inl ⟨_, by rw [if_pos htouch]; rfl, ?_, m.untouched_put ..⟩
    rw [revert_eq hdataset, revert_eq hrun, revert_eq hrec, CatalogMutation.owned_put]
    · rfl
    · exact fun hnone => (hreceipt hnone).1
  · refine .inr ⟨by rw [if_neg htouch]; rfl, ?_⟩
    simp only [CatalogMutation.touches, Bool.or_eq_true, Bool.and_eq_true, decide_eq_true_eq,
      not_or, not_and, Option.isSome_iff_ne_none] at htouch
    obtain ⟨⟨hd, hr⟩, hx⟩ := htouch
    simp only [CatalogMutation.owned, CatalogMutation.before, Prod.mk.injEq]
    refine ⟨hdataset.resolve_right hd, hrun.resolve_right hr, ?_⟩
    by_cases hkey : m.receiptKey = none
    · rw [hkey, (hreceipt hkey).1]
      rfl
    · exact hrec.resolve_right (hx hkey)

/-! ### The phases of a transaction -/

/-- The catalog is a whole file that satisfies `P`. -/
def CatalogHolds (P : CatalogState → Prop) (d : Disk) : Prop :=
  ∃ c, d.files .catalog = some (.catalog c) ∧ P c

theorem ignores_catalogHolds {P : CatalogState → Prop} {file : MarketFile}
    (h : MarketFile.catalog ≠ file) : Ignores (CatalogHolds P) file := by
  rintro d content ⟨c, hc, hP⟩
  exact ⟨c, (d.set_files_of_ne content h).trans hc, hP⟩

/-- The journal is PREPARED and everything can be undone; `others` is the catalog whose entries
of other datasets are kept. -/
structure Undoable (record : ValidRecord) (original : String → Option FileContent)
    (others : CatalogState) (temporaries : List String) (d : Disk) : Prop where
  journal : Journaled record.datasetKey record.transactionId [record] temporaries d
  partitions : ∀ a ∈ record.partitions, a.Restorable record.transactionId original d
  catalog : CatalogHolds (fun c => record.recognizes c = true ∧ record.Untouched others c) d

/-- The journal is COMMITTED and everything is as intended. -/
structure Finishable (record : ValidRecord) (intended : String → Option FileContent)
    (others : CatalogState) (temporaries : List String) (d : Disk) : Prop where
  journal : Journaled record.datasetKey record.transactionId [record] temporaries d
  partitions : ∀ a ∈ record.partitions, d.files (.partition a.target) = intended a.target
  catalog : CatalogHolds (fun c => record.owned c = record.intended ∧ record.Untouched others c) d

/-- No temporary and no backup of the transaction is left. -/
structure Clean (record : JournalRecord) (d : Disk) : Prop where
  partitions : ∀ a ∈ record.partitions,
    d.files (.partitionTemporary a.target record.transactionId) = none ∧
      d.files (.partitionBackup a.target record.transactionId) = none
  catalog : d.files (.catalogTemporary record.transactionId) = none ∧
    d.files (.catalogBackup record.transactionId) = none

/-- The journal is gone, nothing is left over, and partitions and owned entries have the given
values. -/
structure Settled (record : JournalRecord) (value : String → Option FileContent)
    (owned : Option DatasetMetadata × Option IngestionRunRecord × Option ChunkCommitReceipt)
    (others : CatalogState) (temporaries : List String) (d : Disk) : Prop where
  journal : Journaled record.datasetKey record.transactionId [] temporaries d
  partitions : ∀ a ∈ record.partitions, d.files (.partition a.target) = value a.target
  catalog : CatalogHolds (fun c => record.owned c = owned ∧ record.Untouched others c) d
  clean : Clean record d

section

variable {A : Fault → Prop} {record : ValidRecord} {original intended : String → Option FileContent}
  {others : CatalogState} {temporaries : List String}

/-- A plain catalog write replaces the catalog, through a file nothing is about. -/
theorem writeCatalog_keeps {P Q : CatalogState → Prop} {F : Disk → Prop} {c' : CatalogState}
    (hPc : P c') (hQ : Q c') (hscratch : Ignores F .catalogScratch)
    (hcatalog : Ignores F .catalog) :
    Process.Keeps A (fun d => CatalogHolds P d ∧ F d) (writeCatalog c')
      (fun d => CatalogHolds P d ∧ F d) (fun _ d => CatalogHolds Q d ∧ F d) := by
  have hkeep : ∀ d content, CatalogHolds P d ∧ F d →
      CatalogHolds P (d.set .catalogScratch content) ∧ F (d.set .catalogScratch content) :=
    fun d content hd => ⟨ignores_catalogHolds (by simp) d content hd.1, hscratch d content hd.2⟩
  refine Process.Keeps.orElse (Process.Meets.bind (M := fun _ d =>
    d.files .catalogScratch = some (.catalog c') ∧ CatalogHolds P d ∧ F d)
    (Process.Meets.bind (M := fun _ d => CatalogHolds P d ∧ F d)
      (keeps_operation (fun _ hd => hd) fun d hd => ⟨hkeep d _ hd, hkeep d _ hd⟩)
      fun _ => keeps_operation (fun _ hd => hd) fun d hd =>
        ⟨hkeep d _ hd, d.set_files_self .., hkeep d _ hd⟩)
    fun _ => keeps_replaceFile (fun d hd => hd.2) fun d hd => ?_) fun hA e => ?_
  · refine ⟨_, hd.1, ?_, ?_⟩
    · exact ⟨⟨c', Disk.set_files_self .., hPc⟩, hcatalog _ _ (hscratch _ _ hd.2.2)⟩
    · exact ⟨⟨c', Disk.set_files_self .., hQ⟩, hcatalog _ _ (hscratch _ _ hd.2.2)⟩
  · exact Process.Meets.bind (M := fun _ d => CatalogHolds P d ∧ F d)
      (keeps_operation (fun _ hd => hd) fun d hd => ⟨hkeep d _ hd, hkeep d _ hd⟩)
      fun _ => Process.Meets.raise fun d hd => ⟨hd, hA⟩

/-- The semantic rollback leaves the entries of before. -/
theorem rollbackCatalog_keeps (others : CatalogState) {F : Disk → Prop}
    (hscratch : Ignores F .catalogScratch)
    (hcatalog : Ignores F .catalog) :
    Process.Keeps A
      (fun d => CatalogHolds
        (fun c => record.recognizes c = true ∧ record.Untouched others c) d ∧ F d)
      (rollbackCatalog record)
      (fun d => CatalogHolds
        (fun c => record.recognizes c = true ∧ record.Untouched others c) d ∧ F d)
      (fun _ d => CatalogHolds
        (fun c => record.owned c = record.before ∧ record.Untouched others c) d ∧ F d) := by
  refine Process.Meets.bind (M := fun d d' => d' = d ∧ CatalogHolds
    (fun c => record.recognizes c = true ∧ record.Untouched others c) d ∧ F d)
    (Process.Meets.read fun d hd => ⟨rfl, hd⟩) fun d => ?_
  by_cases hd : CatalogHolds
      (fun c => record.recognizes c = true ∧ record.Untouched others c) d ∧ F d
  swap
  · exact fun d' fs h => absurd h.2 hd
  obtain ⟨⟨c, hc, hrec, huntouched⟩, hF⟩ := hd
  have hload : loadCatalog d = .ok c := by rw [loadCatalog, hc]
  have hown : ∀ c', record.owned c' = record.before → record.recognizes c' = true :=
    fun c' h => recognizes_of_owned (.inl h)
  rw [hload]
  rcases rollbackSemantic_recognized record.facts.1 hrec with ⟨c', hok, howned, hun⟩ | ⟨hok, howned⟩
  · change Process.Keeps A _ (ofExcept (rollbackSemantic record.toCatalogMutation c) >>= _) _ _
    rw [hok]
    refine Process.Keeps.weaken (writeCatalog_keeps ⟨hown c' howned, huntouched.trans hun⟩
      ⟨howned, huntouched.trans hun⟩ hscratch hcatalog) ?_ (fun _ h => h) fun _ _ h => h
    rintro d' ⟨rfl, h⟩
    exact h
  · change Process.Keeps A _ (ofExcept (rollbackSemantic record.toCatalogMutation c) >>= _) _ _
    rw [hok]
    refine Process.Meets.pure ?_
    rintro d' ⟨rfl, -, hF'⟩
    exact ⟨⟨c, hc, howned, huntouched⟩, hF'⟩

end

section

variable {A : Fault → Prop} {record : ValidRecord} {original intended : String → Option FileContent}
  {others : CatalogState} {temporaries : List String}

/-- Removing the temporaries of a transaction. -/
theorem cleanupTemporaries_keeps {F : Disk → Prop}
    (hF : ∀ t, Ignores F (.partitionTemporary t record.transactionId))
    (hcatalog : Ignores F (.catalogTemporary record.transactionId)) :
    Process.Keeps A F (cleanupTemporaries record) F (fun _ d => F d ∧
      (∀ a ∈ record.partitions,
        d.files (.partitionTemporary a.target record.transactionId) = none) ∧
      d.files (.catalogTemporary record.transactionId) = none) := by
  refine Process.Meets.bind (M := fun _ d => F d ∧ ∀ a ∈ record.partitions,
    d.files (.partitionTemporary a.target record.transactionId) = none)
    (unlinkEach_keeps fun a => hF a.target) fun _ => keeps_operation (fun d hd => hd.1)
      fun d hd => ⟨hcatalog d none hd.1, hcatalog d none hd.1, fun a ha => ?_, d.set_files_self ..⟩
  exact (d.set_files_of_ne none (by simp)).trans (hd.2 a ha)

/-- Removing the journal of a transaction after everything else. -/
theorem unlinkJournal_keeps {value : String → Option FileContent}
    {owned : Option DatasetMetadata × Option IngestionRunRecord × Option ChunkCommitReceipt}
    {records : List ValidRecord} (hrecords : ∀ r ∈ records, r.transactionId = record.transactionId)
    {I : Disk → Prop}
    (hI : ∀ d, Settled record.toJournalRecord value owned others temporaries d → I d)
    {P : Disk → Prop} (hP : ∀ d, P d → I d) (hjournal : ∀ d, P d →
      Journaled record.datasetKey record.transactionId records temporaries d)
    (hrest : ∀ d, P d → (∀ a ∈ record.partitions, d.files (.partition a.target) = value a.target) ∧
      CatalogHolds (fun c => record.owned c = owned ∧ record.Untouched others c) d ∧
      Clean record.toJournalRecord d) :
    Process.Keeps A P (unlinkJournal record.transactionId) I
      (fun _ => Settled record.toJournalRecord value owned others temporaries) := by
  refine keeps_operation hP fun d hd => ?_
  obtain ⟨hpartitions, hcatalog, hclean⟩ := hrest d hd
  have hsettled : Settled record.toJournalRecord value owned others temporaries
      (d.removeJournal record.transactionId) :=
    { journal := (hjournal d hd).removeJournal hrecords
      partitions := hpartitions
      catalog := hcatalog
      clean := ⟨hclean.partitions, hclean.catalog⟩ }
  exact ⟨hI _ hsettled, hsettled⟩

/-- **Undoing everything but the catalog**, the part both rollbacks share. -/
theorem rollbackArtifacts_keeps {K : Disk → Prop}
    (hK : ∀ file, MarketFile.catalog ≠ file → Ignores K file)
    (horiginal : ∀ a ∈ record.partitions, a.hadOriginal = (original a.target).isSome) :
    Process.Keeps A
      (fun d => (∀ a ∈ record.partitions, a.Restorable record.transactionId original d) ∧ K d)
      (do
        Process.forEach record.partitions.reverse (rollbackPartition record.transactionId)
        cleanupTemporaries record
        unlink (.catalogBackup record.transactionId))
      (fun d => (∀ a ∈ record.partitions, a.Restorable record.transactionId original d) ∧ K d)
      (fun _ d => (∀ a ∈ record.partitions, a.Restored record.transactionId original d) ∧
        Clean record.toJournalRecord d ∧ K d) := by
  have hnodup : (record.partitions.reverse.map (·.target)).Nodup := by
    rw [List.map_reverse, List.nodup_reverse]
    exact record.identity.2
  -- All partitions restored.
  let G : Disk → Prop := fun d =>
    (∀ a ∈ record.partitions, a.Restored record.transactionId original d) ∧ K d
  have hG : ∀ file, MarketFile.catalog ≠ file → (∀ t, MarketFile.partition t ≠ file) →
      (∀ t, MarketFile.partitionBackup t record.transactionId ≠ file) → Ignores G file :=
    fun file hne ht hb => Ignores.and (fun d content h a ha =>
      ignores_restored (ht a.target) (hb a.target) d content (h a ha)) (hK file hne)
  have hI : ∀ d, G d →
      (∀ a ∈ record.partitions, a.Restorable record.transactionId original d) ∧ K d :=
    fun d hd => ⟨fun a ha => (hd.1 a ha).restorable, hd.2⟩
  refine Process.Meets.bind (M := fun _ => G) ?_ fun _ => Process.Meets.bind
    (Process.Keeps.weaken (cleanupTemporaries_keeps (fun t => hG _ (by simp) (by simp) (by simp))
      (hG _ (by simp) (by simp) (by simp))) (fun _ h => h) hI fun _ _ h => h) fun _ =>
    keeps_operation (fun d hd => hI d hd.1) fun d hd => ?_
  · refine Process.Keeps.weaken (rollbackPartitions_keeps hnodup
      (fun a ha => horiginal a (List.mem_reverse.mp ha))
      fun t => ⟨hK _ (by simp), hK _ (by simp)⟩) ?_ ?_ ?_
    · exact fun d hd => ⟨fun a ha => hd.1 a (List.mem_reverse.mp ha), hd.2⟩
    · exact fun d hd => ⟨fun a ha => hd.1 a (List.mem_reverse.mpr ha), hd.2⟩
    · exact fun _ d hd => ⟨fun a ha => hd.1 a (List.mem_reverse.mpr ha), hd.2⟩
  · have hGd := hG (.catalogBackup record.transactionId) (by simp) (by simp) (by simp) d none hd.1
    refine ⟨hI _ hGd, hGd.1, ⟨fun a ha => ⟨?_, (hGd.1 a ha).2⟩, ?_, d.set_files_self ..⟩, hGd.2⟩
    · exact (d.set_files_of_ne none (by simp)).trans (hd.2.1 a ha)
    · exact (d.set_files_of_ne none (by simp)).trans hd.2.2

/-- **A PREPARED journal is undone**, and stays undoable until it is. -/
theorem recoverRecord_prepared (hprepared : record.state = .prepared)
    (horiginal : ∀ a ∈ record.partitions, a.hadOriginal = (original a.target).isSome) :
    Process.Keeps A (Undoable record original others temporaries) (recoverRecord record)
      (fun d => Undoable record original others temporaries d ∨
        Settled record.toJournalRecord original record.before others temporaries d)
      (fun _ => Settled record.toJournalRecord original record.before others temporaries) := by
  -- What every step up to the removal of the journal knows besides the partitions.
  let K : Disk → Prop := fun d =>
    Journaled record.datasetKey record.transactionId [record] temporaries d ∧
      CatalogHolds (fun c => record.owned c = record.before ∧ record.Untouched others c) d
  have hK : ∀ file, MarketFile.catalog ≠ file → Ignores K file :=
    fun file hne => (ignores_journaled file).and (ignores_catalogHolds hne)
  have hundo : ∀ d, (∀ a ∈ record.partitions, a.Restorable record.transactionId original d) ∧ K d →
      Undoable record original others temporaries d := by
    rintro d ⟨hparts, hjournal, c, hc, howned, huntouched⟩
    exact ⟨hjournal, hparts, c, hc, recognizes_of_owned (.inl howned), huntouched⟩
  have hcatalogStage : Process.Keeps A (Undoable record original others temporaries)
      (rollbackCatalog record) (Undoable record original others temporaries) (fun _ d =>
        (∀ a ∈ record.partitions, a.Restorable record.transactionId original d) ∧ K d) := by
    refine Process.Keeps.weaken (rollbackCatalog_keeps others (F := fun d =>
      Journaled record.datasetKey record.transactionId [record] temporaries d ∧
        ∀ a ∈ record.partitions, a.Restorable record.transactionId original d) ?_ ?_) ?_ ?_ ?_
    · exact (ignores_journaled _).and fun d content h a ha =>
        ignores_restorable (by simp) (by simp) d content (h a ha)
    · exact (ignores_journaled _).and fun d content h a ha =>
        ignores_restorable (by simp) (by simp) d content (h a ha)
    · exact fun d hd => ⟨hd.catalog, hd.journal, hd.partitions⟩
    · exact fun d hd => ⟨hd.2.1, hd.2.2, hd.1⟩
    · exact fun _ d hd => ⟨hd.2.2, hd.2.1, hd.1⟩
  unfold recoverRecord
  rw [hprepared]
  refine Process.Meets.bind (Process.Keeps.weaken (Process.Meets.bind hcatalogStage fun _ =>
    Process.Keeps.weaken (rollbackArtifacts_keeps hK horiginal) (fun _ h => h) hundo
      fun _ _ h => h) (fun _ h => h) (fun _ h => .inl h) fun _ _ h => h) fun _ => ?_
  refine unlinkJournal_keeps (by simp) (fun _ h => .inr h) (fun d hd => .inl (hundo d ?_))
    (fun d hd => hd.2.2.1) fun d hd => ⟨fun a ha => (hd.1 a ha).1, hd.2.2.2, hd.2.1⟩
  exact ⟨fun a ha => (hd.1 a ha).restorable, hd.2.2⟩

/-- Removing the temporaries and backups of a transaction. -/
theorem cleanupArtifacts_keeps {F : Disk → Prop}
    (hF : ∀ t, Ignores F (.partitionTemporary t record.transactionId) ∧
      Ignores F (.partitionBackup t record.transactionId))
    (hcatalog : Ignores F (.catalogTemporary record.transactionId) ∧
      Ignores F (.catalogBackup record.transactionId)) :
    Process.Keeps A F (cleanupArtifacts record) F
      (fun _ d => F d ∧ Clean record.toJournalRecord d) := by
  have hloop : Process.Keeps A (fun d => F d ∧ ∀ a ∈ ([] : List JournalArtifact),
        d.files (.partitionTemporary a.target record.transactionId) = none ∧
          d.files (.partitionBackup a.target record.transactionId) = none)
      (Process.forEach record.partitions fun a => do
        unlink (.partitionTemporary a.target record.transactionId)
        unlink (.partitionBackup a.target record.transactionId)) F
      (fun _ d => F d ∧ ∀ a ∈ record.partitions,
        d.files (.partitionTemporary a.target record.transactionId) = none ∧
          d.files (.partitionBackup a.target record.transactionId) = none) := by
    refine Process.Meets.forEach (J := fun done d => F d ∧ ∀ a : JournalArtifact, a ∈ done →
        d.files (.partitionTemporary a.target record.transactionId) = none ∧
          d.files (.partitionBackup a.target record.transactionId) = none) fun done x rest _ => ?_
    refine Process.Meets.bind (M := fun _ d => F d ∧
      d.files (.partitionTemporary x.target record.transactionId) = none ∧
      ∀ a : JournalArtifact, a ∈ done →
        d.files (.partitionTemporary a.target record.transactionId) = none ∧
          d.files (.partitionBackup a.target record.transactionId) = none)
      (keeps_operation (fun d hd => hd.1) fun d hd => ?_) fun _ =>
        keeps_operation (fun d hd => hd.1) fun d hd => ?_
    · refine ⟨(hF _).1 d none hd.1, (hF _).1 d none hd.1, d.set_files_self .., fun a ha => ⟨?_, ?_⟩⟩
      · by_cases hat : a.target = x.target
        · rw [hat, Disk.set_files_self]
        · exact (d.set_files_of_ne none (by simpa using hat)).trans (hd.2 a ha).1
      · exact (d.set_files_of_ne none (by simp)).trans (hd.2 a ha).2
    · refine ⟨(hF _).2 d none hd.1, (hF _).2 d none hd.1, fun a ha => ?_⟩
      by_cases hat : a.target = x.target
      · rw [hat, Disk.set_files_self]
        exact ⟨(d.set_files_of_ne none (by simp)).trans hd.2.1, rfl⟩
      · have hdone : a ∈ done := (List.mem_append.mp ha).resolve_right fun hax =>
          hat (by rw [List.mem_singleton.mp hax])
        exact ⟨(d.set_files_of_ne none (by simp)).trans (hd.2.2 a hdone).1,
          (d.set_files_of_ne none (by simpa using hat)).trans (hd.2.2 a hdone).2⟩
  refine Process.Meets.bind (Process.Keeps.weaken hloop (fun d hd => ⟨hd, by simp⟩)
    (fun _ h => h) fun _ _ h => h) fun _ => Process.Meets.bind (M := fun _ d => F d ∧
      (∀ a ∈ record.partitions,
        d.files (.partitionTemporary a.target record.transactionId) = none ∧
          d.files (.partitionBackup a.target record.transactionId) = none) ∧
      d.files (.catalogTemporary record.transactionId) = none)
      (keeps_operation (fun d hd => hd.1) fun d hd => ?_) fun _ =>
        keeps_operation (fun d hd => hd.1) fun d hd => ?_
  · refine ⟨hcatalog.1 d none hd.1, hcatalog.1 d none hd.1, fun a ha => ⟨?_, ?_⟩,
      d.set_files_self ..⟩
    · exact (d.set_files_of_ne none (by simp)).trans (hd.2 a ha).1
    · exact (d.set_files_of_ne none (by simp)).trans (hd.2 a ha).2
  · refine ⟨hcatalog.2 d none hd.1, hcatalog.2 d none hd.1, fun a ha => ⟨?_, ?_⟩, ?_,
      d.set_files_self ..⟩
    · exact (d.set_files_of_ne none (by simp)).trans (hd.2.1 a ha).1
    · exact (d.set_files_of_ne none (by simp)).trans (hd.2.1 a ha).2
    · exact (d.set_files_of_ne none (by simp)).trans hd.2.2

/-- **A COMMITTED journal is finished**, and stays finishable until it is. -/
theorem finalize_keeps :
    Process.Keeps A (Finishable record intended others temporaries) (finalize record)
      (fun d => Finishable record intended others temporaries d ∨
        Settled record.toJournalRecord intended record.intended others temporaries d)
      (fun _ => Settled record.toJournalRecord intended record.intended others temporaries) := by
  have hignores : ∀ file, MarketFile.catalog ≠ file → (∀ t, MarketFile.partition t ≠ file) →
      Ignores (Finishable record intended others temporaries) file :=
    fun file hne ht d content h => ⟨ignores_journaled file d content h.journal,
      fun a ha => (d.set_files_of_ne content (ht a.target)).trans (h.partitions a ha),
      ignores_catalogHolds hne d content h.catalog⟩
  refine Process.Meets.bind (M := fun _ d =>
    Finishable record intended others temporaries d ∧ Clean record.toJournalRecord d) ?_ fun _ => ?_
  · exact Process.Keeps.weaken (cleanupArtifacts_keeps
      (fun t => ⟨hignores _ (by simp) (by simp), hignores _ (by simp) (by simp)⟩)
      ⟨hignores _ (by simp) (by simp), hignores _ (by simp) (by simp)⟩) (fun _ h => h)
      (fun _ h => .inl h) fun _ _ h => h
  · exact unlinkJournal_keeps (by simp) (fun _ h => .inr h) (fun d hd => .inl hd.1)
      (fun d hd => hd.1.journal) fun d hd => ⟨hd.1.partitions, hd.1.catalog, hd.2⟩

end

/-! ### Recovering a dataset -/

section

variable {A : Fault → Prop} {record : ValidRecord} {original intended : String → Option FileContent}
  {others : CatalogState} {temporaries : List String}

/-- The incomplete journal writes are removed. -/
theorem removeIncompleteJournalWrites_keeps {F : Disk → Prop}
    (hF : ∀ d name, F d → F (d.removeJournalTemporary name)) :
    Process.Keeps A F removeIncompleteJournalWrites F
      (fun _ d => F d ∧ d.journalTemporaries = []) := by
  refine Process.Meets.bind (M := fun d d' => d' = d ∧ F d)
    (Process.Meets.read fun d hd => ⟨rfl, hd⟩) fun d => ?_
  have hloop : Process.Keeps A
      (fun d' => F d' ∧ ∀ name ∈ d'.journalTemporaries,
        name ∈ d.journalTemporaries ∧ name ∉ ([] : List String))
      (Process.forEach d.journalTemporaries fun name =>
        operation fun d => some (d.removeJournalTemporary name)) F
      (fun _ d' => F d' ∧ ∀ name ∈ d'.journalTemporaries,
        name ∈ d.journalTemporaries ∧ name ∉ d.journalTemporaries) := by
    refine Process.Meets.forEach (J := fun done d' => F d' ∧ ∀ name ∈ d'.journalTemporaries,
      name ∈ d.journalTemporaries ∧ name ∉ done)
      fun done x rest _ => keeps_operation (fun d' hd => hd.1) fun d' hd => ?_
    refine ⟨hF d' x hd.1, hF d' x hd.1, fun name hname => ?_⟩
    obtain ⟨hmem, hne⟩ := List.mem_filter.mp hname
    refine ⟨(hd.2 name hmem).1, fun hdone => ?_⟩
    rcases List.mem_append.mp hdone with hdone | hx
    · exact (hd.2 name hmem).2 hdone
    · simp [List.mem_singleton.mp hx] at hne
  refine Process.Keeps.weaken hloop ?_ (fun _ h => h) fun _ d' hd => ⟨hd.1, ?_⟩
  · rintro _ ⟨rfl, hd⟩
    exact ⟨hd, fun name hname => ⟨hname, by simp⟩⟩
  · exact List.eq_nil_iff_forall_not_mem.mpr fun name hname =>
      (hd.2 name hname).2 (hd.2 name hname).1

/-- The shape of a recovery: the incomplete writes, then the journals of the dataset. -/
theorem recoverDataset_keeps {datasetKey : String} (records : List ValidRecord)
    {P I M : Disk → Prop} {Q : Disk → Prop}
    (hstart : Process.Keeps A P removeIncompleteJournalWrites I fun _ => M)
    (hrecords : ∀ d, M d → d.pendingRecords datasetKey = records)
    (hloop : Process.Keeps A M (Process.forEach records recoverRecord) I fun _ => Q)
    (hdone : ∀ d, Q d → d.pendingRecords datasetKey = []) :
    Process.Keeps A P (recoverDataset datasetKey) I fun _ => Q := by
  refine Process.Meets.bind hstart fun _ => Process.Meets.bind (M := fun d d' => d' = d ∧ M d)
    (Process.Meets.read fun d hd => ⟨rfl, hd⟩) fun d => ?_
  by_cases hd : M d
  · rw [hrecords d hd]
    refine Process.Meets.bind (Process.Meets.pre hloop fun d' h => h.1 ▸ h.2) fun _ =>
      Process.Meets.bind (M := fun d d' => d' = d ∧ Q d)
        (Process.Meets.read fun d hd => ⟨rfl, hd⟩) fun d => ?_
    by_cases hq : Q d
    · rw [hdone d hq]
      exact Process.Meets.pure fun d' h => h.1 ▸ h.2
    · exact fun d' fs h => absurd h.2 hq
  · exact fun d' fs h => absurd h.2 hd

theorem Journaled.removeJournalTemporary {datasetKey transactionId : String}
    {records : List ValidRecord} {d : Disk}
    (h : Journaled datasetKey transactionId records temporaries d) (name : String) :
    Journaled datasetKey transactionId records (temporaries.filter (· != name))
      (d.removeJournalTemporary name) :=
  ⟨h.pending, h.own, by rw [Disk.removeJournalTemporary, h.incomplete]⟩

/-- **A recovery undoes a PREPARED transaction.** -/
theorem recoverDataset_undoable (hprepared : record.state = .prepared)
    (horiginal : ∀ a ∈ record.partitions, a.hadOriginal = (original a.target).isSome) :
    Process.Keeps A (fun d => ∃ temporaries, Undoable record original others temporaries d)
      (recoverDataset record.datasetKey)
      (fun d => (∃ temporaries, Undoable record original others temporaries d) ∨
        Settled record.toJournalRecord original record.before others [] d)
      (fun _ => Settled record.toJournalRecord original record.before others []) := by
  refine recoverDataset_keeps [record]
    (M := Undoable record original others []) ?_ (fun d hd => hd.journal.pending) ?_
    fun d hd => hd.journal.pending
  · refine Process.Keeps.weaken (removeIncompleteJournalWrites_keeps
      (F := fun d => ∃ temporaries, Undoable record original others temporaries d) ?_)
      (fun _ h => h) (fun _ h => .inl h) ?_
    · rintro d name ⟨t, h⟩
      exact ⟨_, h.journal.removeJournalTemporary name, h.partitions, h.catalog⟩
    · rintro - d ⟨⟨t, h⟩, hnil⟩
      exact ⟨⟨h.journal.pending, h.journal.own, hnil⟩, h.partitions, h.catalog⟩
  · exact Process.Meets.bind (Process.Keeps.weaken (recoverRecord_prepared hprepared horiginal)
      (fun _ h => h) (fun _ h => h.imp_left fun h => ⟨[], h⟩) fun _ _ h => h)
      fun _ => Process.Meets.pure fun _ h => h

/-- **A recovery finishes a COMMITTED transaction.** -/
theorem recoverDataset_finishable (hcommitted : record.state = .committed) :
    Process.Keeps A (fun d => ∃ temporaries, Finishable record intended others temporaries d)
      (recoverDataset record.datasetKey)
      (fun d => (∃ temporaries, Finishable record intended others temporaries d) ∨
        Settled record.toJournalRecord intended record.intended others [] d)
      (fun _ => Settled record.toJournalRecord intended record.intended others []) := by
  have hrecover : recoverRecord record = finalize record := by
    unfold recoverRecord
    rw [hcommitted]
    rfl
  refine recoverDataset_keeps [record]
    (M := Finishable record intended others []) ?_ (fun d hd => hd.journal.pending) ?_
    fun d hd => hd.journal.pending
  · refine Process.Keeps.weaken (removeIncompleteJournalWrites_keeps
      (F := fun d => ∃ temporaries, Finishable record intended others temporaries d) ?_)
      (fun _ h => h) (fun _ h => .inl h) ?_
    · rintro d name ⟨t, h⟩
      exact ⟨_, h.journal.removeJournalTemporary name, h.partitions, h.catalog⟩
    · rintro - d ⟨⟨t, h⟩, hnil⟩
      exact ⟨⟨h.journal.pending, h.journal.own, hnil⟩, h.partitions, h.catalog⟩
  · have hrun : Process.Keeps A (Finishable record intended others []) (recoverRecord record)
        (fun d => (∃ temporaries, Finishable record intended others temporaries d) ∨
          Settled record.toJournalRecord intended record.intended others [] d)
        (fun _ => Settled record.toJournalRecord intended record.intended others []) := by
      rw [hrecover]
      exact Process.Keeps.weaken finalize_keeps (fun _ h => h)
        (fun _ h => h.imp_left fun h => ⟨[], h⟩) fun _ _ h => h
    exact Process.Meets.bind hrun fun _ => Process.Meets.pure fun _ h => h

/-- A recovery leaves a settled transaction as it is. -/
theorem recoverDataset_settled {record : JournalRecord} {value : String → Option FileContent}
    {owned : Option DatasetMetadata × Option IngestionRunRecord × Option ChunkCommitReceipt} :
    Process.Keeps A (fun d => ∃ temporaries, Settled record value owned others temporaries d)
      (recoverDataset record.datasetKey)
      (fun d => ∃ temporaries, Settled record value owned others temporaries d)
      (fun _ => Settled record value owned others []) := by
  refine recoverDataset_keeps [] (M := Settled record value owned others []) ?_
    (fun d hd => hd.journal.pending) (Process.Meets.pure fun _ h => h)
    fun d hd => hd.journal.pending
  refine Process.Keeps.weaken (removeIncompleteJournalWrites_keeps
    (F := fun d => ∃ temporaries, Settled record value owned others temporaries d) ?_)
    (fun _ h => h) (fun _ h => h) ?_
  · rintro d name ⟨t, h⟩
    exact ⟨_, h.journal.removeJournalTemporary name, h.partitions, h.catalog, h.clean.partitions,
      h.clean.catalog⟩
  · rintro - d ⟨⟨t, h⟩, hnil⟩
    exact ⟨⟨h.journal.pending, h.journal.own, hnil⟩, h.partitions, h.catalog, h.clean⟩

end

end MarketData
end DryTrade
