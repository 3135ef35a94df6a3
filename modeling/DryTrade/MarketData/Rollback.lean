import DryTrade.MarketData.Atomicity

/-!
# The rollback of the running process

A protocol that raises is rolled back file by file before the exception goes on.
The rollback performs a fixed list of operations; one of them may raise in turn,
and then the ones before it have taken effect and the ones after it never run.

## Main definitions

* `rollbackOps` — the operations of a rollback.

## Main results

* `rollback_straight` — the rollback performs them.
* `rollback_journals`, `rollback_catalog` — what the first ones leave behind.
-/

namespace DryTrade
namespace MarketData

/-! ### Operations -/

/-- The operation of `unlink`. -/
def unlinkOp (file : MarketFile) (d : Disk) : Disk := d.set file none

/-- The operation of `replaceFile`, where the source is there. -/
def replaceOp (src dst : MarketFile) (d : Disk) : Disk := (Disk.replace src dst d).getD d

theorem unlinkOp_files {file file' : MarketFile} (h : file' ≠ file) (d : Disk) :
    (unlinkOp file d).files file' = d.files file' := d.set_files_of_ne none h

theorem replaceOp_files {src dst file : MarketFile} (hsrc : file ≠ src) (hdst : file ≠ dst)
    (d : Disk) : (replaceOp src dst d).files file = d.files file := by
  unfold replaceOp Disk.replace
  cases d.files src with
  | none => rfl
  | some content =>
    exact (Disk.set_files_of_ne _ _ hdst).trans (d.set_files_of_ne none hsrc)

theorem replaceOp_of_files {src dst : MarketFile} {content : FileContent} {d : Disk}
    (h : d.files src = some content) :
    replaceOp src dst d = (d.set src none).set dst (some content) := by
  rw [replaceOp, Disk.replace, h, Option.map_some, Option.getD_some]

theorem replaceOp_journals (src dst : MarketFile) (d : Disk) :
    (replaceOp src dst d).journals = d.journals ∧
      (replaceOp src dst d).journalTemporaries = d.journalTemporaries := by
  unfold replaceOp Disk.replace
  cases d.files src <;> exact ⟨rfl, rfl⟩

theorem unlink_straight (file : MarketFile) (d : Disk) :
    Process.Straight osError (unlink file) d [unlinkOp file] := Process.straight_act rfl rfl

/-- What `restore` does on a disk. -/
def restoreOps (target backup : MarketFile) (hadOriginal : Bool) (d : Disk) :
    List (Disk → Disk) :=
  if d.exist backup then [unlinkOp target, replaceOp backup target]
  else if hadOriginal then [] else [unlinkOp target]

theorem mem_restoreOps {target backup : MarketFile} {hadOriginal : Bool} {d : Disk}
    {op : Disk → Disk} (h : op ∈ restoreOps target backup hadOriginal d) :
    op = unlinkOp target ∨ op = replaceOp backup target := by
  unfold restoreOps at h
  split at h
  · simpa using h
  · split at h
    · simp at h
    · exact .inl (by simpa using h)

/-- `restore` performs its operations. -/
theorem restore_straight {target backup : MarketFile} {hadOriginal : Bool} {d d' : Disk}
    (hne : target ≠ backup) (h : d'.exist backup = d.exist backup) :
    Process.Straight osError (restore target backup hadOriginal) d'
      (restoreOps target backup hadOriginal d) := by
  unfold restore restoreOps
  refine Process.straight_read ?_
  rw [h]
  by_cases hbackup : d.exist backup = true
  · rw [if_pos hbackup, if_pos hbackup]
    refine (unlink_straight target d').bind ?_
    rw [hbackup, Disk.exist, Option.isSome_iff_exists] at h
    obtain ⟨content, hcontent⟩ := h
    have hfiles : (Process.applyAll [unlinkOp target] d').files backup = some content :=
      (unlinkOp_files hne.symm d').trans hcontent
    refine Process.straight_act (t := ((Process.applyAll [unlinkOp target] d').set backup none).set
      target (some content)) ?_ (replaceOp_of_files hfiles)
    rw [Disk.replace, hfiles, Option.map_some]
  · rw [if_neg hbackup, if_neg hbackup]
    cases hadOriginal with
    | true => exact Process.straight_pure osError d'
    | false => exact unlink_straight target d'

/-! ### The rollback -/

/-- The operations of a rollback that work on files, from the catalog on. -/
def rollbackFileOps (record : ValidRecord) (d : Disk) : List (Disk → Disk) :=
  (record.partitions.reverse.flatMap fun a =>
    restoreOps (.partition a.target) (.partitionBackup a.target record.transactionId)
      a.hadOriginal d) ++
  ((record.partitions.flatMap fun a => [unlinkOp (.partitionTemporary a.target
    record.transactionId)]) ++
    [unlinkOp (.catalogTemporary record.transactionId),
      unlinkOp (.catalogBackup record.transactionId)])

/-- The operations of `rollbackBeforeCommit` on a disk: the catalog, the other files, the
journal. -/
def rollbackOps (record : ValidRecord) (d : Disk) : List (Disk → Disk) :=
  restoreOps .catalog (.catalogBackup record.transactionId) record.catalogHadOriginal d ++
    (rollbackFileOps record d ++ [fun d : Disk => d.removeJournal record.transactionId])

section

variable {record : ValidRecord} {d : Disk}

/-- An operation on files other than the catalog. -/
inductive ArtifactOp (transactionId : String) : (Disk → Disk) → Prop
  | unlink {file : MarketFile} : file ≠ .catalog → ArtifactOp transactionId (unlinkOp file)
  | restore (target : String) : ArtifactOp transactionId
      (replaceOp (.partitionBackup target transactionId) (.partition target))

theorem artifactOp_of_mem {op : Disk → Disk} (h : op ∈ rollbackFileOps record d) :
    ArtifactOp record.transactionId op := by
  rcases List.mem_append.mp h with h | h
  · obtain ⟨a, -, ha⟩ := List.mem_flatMap.mp h
    rcases mem_restoreOps ha with rfl | rfl
    · exact .unlink (by simp)
    · exact .restore a.target
  · rcases List.mem_append.mp h with h | h
    · obtain ⟨a, -, ha⟩ := List.mem_flatMap.mp h
      rw [List.mem_singleton.mp ha]
      exact .unlink (by simp)
    · rcases List.mem_pair.mp h with rfl | rfl
      · exact .unlink (by simp)
      · exact .unlink (by simp)

theorem ArtifactOp.keeps_catalog {transactionId : String} {op : Disk → Disk}
    (h : ArtifactOp transactionId op) (d : Disk) : (op d).files .catalog = d.files .catalog := by
  cases h with
  | unlink hne => exact unlinkOp_files hne.symm d
  | restore target => exact replaceOp_files (by simp) (by simp) d

theorem ArtifactOp.keeps_journals {transactionId : String} {op : Disk → Disk}
    (h : ArtifactOp transactionId op) (d : Disk) :
    (op d).journals = d.journals ∧ (op d).journalTemporaries = d.journalTemporaries := by
  cases h with
  | unlink hne => exact ⟨rfl, rfl⟩
  | restore target => exact replaceOp_journals ..

/-- The rollback restores the partitions, the last one first. -/
theorem rollbackPartitions_straight {artifacts : List JournalArtifact} {d' : Disk}
    (hnodup : (artifacts.map (·.target)).Nodup)
    (h : ∀ a ∈ artifacts, d'.exist (.partitionBackup a.target record.transactionId) =
      d.exist (.partitionBackup a.target record.transactionId)) :
    Process.Straight osError
      (Process.forEach artifacts (rollbackPartition record.transactionId)) d'
      (artifacts.flatMap fun a => restoreOps (.partition a.target)
        (.partitionBackup a.target record.transactionId) a.hadOriginal d) := by
  refine Process.straight_forEach (J := fun rest t => (rest.map (·.target)).Nodup ∧ ∀ a ∈ rest,
    t.exist (.partitionBackup a.target record.transactionId) =
      d.exist (.partitionBackup a.target record.transactionId)) ⟨hnodup, h⟩
    fun x rest t ht => ⟨restore_straight (by simp) (ht.2 x List.mem_cons_self), ?_⟩
  obtain ⟨hnodup', hexist⟩ := ht
  rw [List.map_cons, List.nodup_cons] at hnodup'
  refine ⟨hnodup'.2, fun a ha => ?_⟩
  have hne : a.target ≠ x.target := fun heq =>
    hnodup'.1 (heq ▸ List.mem_map_of_mem (f := (·.target)) ha)
  rw [← hexist a (List.mem_cons_of_mem x ha), Disk.exist, Disk.exist]
  congr 1
  refine Process.applyAll_keeps (P := fun s : Disk => s.files _ = t.files _) _
    (fun op hop s hs => ?_) t rfl
  rcases mem_restoreOps hop with rfl | rfl
  · exact (unlinkOp_files (by simp) s).trans hs
  · exact (replaceOp_files (by simpa using hne) (by simp) s).trans hs

/-- **A rollback performs its operations.** -/
theorem rollback_straight (record : ValidRecord) (d : Disk) :
    Process.Straight osError (rollbackBeforeCommit record) d (rollbackOps record d) := by
  have hnodup : (record.partitions.reverse.map (·.target)).Nodup := by
    rw [List.map_reverse, List.nodup_reverse]
    exact record.identity.2
  have htemporaries : ∀ t, Process.Straight osError (cleanupTemporaries record) t
      ((record.partitions.flatMap fun a => [unlinkOp (.partitionTemporary a.target
        record.transactionId)]) ++ [unlinkOp (.catalogTemporary record.transactionId)]) :=
    fun t => (Process.straight_forEach (J := fun _ _ => True) trivial
      fun _ _ _ _ => ⟨unlink_straight _ _, trivial⟩).bind (unlink_straight _ _)
  have hlast : ∀ t, Process.Straight osError
      (do
        cleanupTemporaries record
        unlink (.catalogBackup record.transactionId)) t
      ((record.partitions.flatMap fun a => [unlinkOp (.partitionTemporary a.target
        record.transactionId)]) ++ [unlinkOp (.catalogTemporary record.transactionId),
          unlinkOp (.catalogBackup record.transactionId)]) := by
    intro t
    have h := (htemporaries t).bind (q := fun _ => unlink (.catalogBackup record.transactionId))
      (unlink_straight _ _)
    rw [List.append_assoc] at h
    exact h
  have hjournal : ∀ t, Process.Straight osError (unlinkJournal record.transactionId) t
      [fun d : Disk => d.removeJournal record.transactionId] :=
    fun t => Process.straight_act rfl rfl
  have hfull : Process.Straight osError (rollbackFull record) d
      (restoreOps .catalog (.catalogBackup record.transactionId) record.catalogHadOriginal d ++
        rollbackFileOps record d) := by
    refine (restore_straight (by simp) rfl).bind ?_
    refine (rollbackPartitions_straight hnodup fun a _ => ?_).bind ?_
    · rw [Disk.exist, Disk.exist]
      congr 1
      refine Process.applyAll_keeps (P := fun s : Disk => s.files _ = d.files _) _
        (fun op hop s hs => ?_) d rfl
      rcases mem_restoreOps hop with rfl | rfl
      · exact (unlinkOp_files (by simp) s).trans hs
      · exact (replaceOp_files (by simp) (by simp) s).trans hs
    · exact hlast _
  have hall := hfull.bind (q := fun _ => unlinkJournal record.transactionId) (hjournal _)
  rw [List.append_assoc] at hall
  exact hall

/-! ### What the first operations leave behind -/

/-- Only the last operation of a rollback touches the journals. -/
theorem rollback_journals {m : ℕ} (hm : m < (rollbackOps record d).length) :
    (Process.applyAll ((rollbackOps record d).take m) d).journals = d.journals ∧
      (Process.applyAll ((rollbackOps record d).take m) d).journalTemporaries =
        d.journalTemporaries := by
  have htake : (rollbackOps record d).take m =
      (restoreOps .catalog (.catalogBackup record.transactionId) record.catalogHadOriginal d ++
        rollbackFileOps record d).take m := by
    unfold rollbackOps
    rw [← List.append_assoc, List.take_append_of_le_length]
    simp only [rollbackOps, List.length_append, List.length_cons, List.length_nil] at hm ⊢
    omega
  rw [htake]
  refine Process.applyAll_keeps (P := fun s : Disk => s.journals = d.journals ∧
    s.journalTemporaries = d.journalTemporaries) _ (fun op hop s hs => ?_) d ⟨rfl, rfl⟩
  rcases List.mem_append.mp (List.mem_of_mem_take hop) with hop | hop
  · rcases mem_restoreOps hop with rfl | rfl
    · exact hs
    · exact ⟨(replaceOp_journals _ _ s).1.trans hs.1, (replaceOp_journals _ _ s).2.trans hs.2⟩
  · obtain ⟨hj, ht⟩ := (artifactOp_of_mem hop).keeps_journals s
    exact ⟨hj.trans hs.1, ht.trans hs.2⟩

/-- Past the restoration of the catalog no operation touches it. -/
theorem rollbackOps_drop_keeps_catalog {op : Disk → Disk}
    (h : op ∈ rollbackFileOps record d ++ [fun d : Disk => d.removeJournal record.transactionId])
    (d : Disk) : (op d).files .catalog = d.files .catalog := by
  rcases List.mem_append.mp h with h | h
  · exact (artifactOp_of_mem h).keeps_catalog d
  · rw [List.mem_singleton.mp h]
    rfl

variable {c₀ : CatalogState}

/-- With a backup, the first operation removes the catalog and the second restores it. -/
theorem rollback_catalog_backup
    (hbackup : d.files (.catalogBackup record.transactionId) = some (.catalog c₀)) (m : ℕ) :
    (Process.applyAll ((rollbackOps record d).take 1) d).files .catalog = none ∧
      (Process.applyAll ((rollbackOps record d).take (m + 2)) d).files .catalog =
        some (.catalog c₀) := by
  have hops : rollbackOps record d = unlinkOp .catalog ::
      replaceOp (.catalogBackup record.transactionId) .catalog ::
        (rollbackFileOps record d ++ [fun d : Disk => d.removeJournal record.transactionId]) := by
    unfold rollbackOps restoreOps
    rw [if_pos (by rw [Disk.exist, hbackup, Option.isSome_some])]
    rfl
  rw [hops]
  refine ⟨d.set_files_self .., ?_⟩
  refine Process.applyAll_keeps (P := fun s : Disk => s.files .catalog = some (.catalog c₀))
    ((rollbackFileOps record d ++ [fun d : Disk => d.removeJournal record.transactionId]).take m)
    (fun op hop s hs => (rollbackOps_drop_keeps_catalog (List.mem_of_mem_take hop) s).trans hs)
    (replaceOp (.catalogBackup record.transactionId) .catalog (unlinkOp .catalog d)) ?_
  rw [replaceOp_of_files ((unlinkOp_files (by simp) d).trans hbackup), Disk.set_files_self]

/-- **The catalog during a rollback**: untouched before the first operation, then missing or
restored. -/
theorem rollback_catalog (hhad : record.catalogHadOriginal = true)
    (h : CatalogRestorable record.transactionId c₀ d) (m : ℕ) :
    (Process.applyAll ((rollbackOps record d).take m) d).files .catalog = some (.catalog c₀) ∨
      (Process.applyAll ((rollbackOps record d).take m) d).files .catalog = none ∨ m = 0 := by
  rcases h with ⟨hnone, hcatalog⟩ | ⟨-, hbackup⟩
  · -- Without a backup the catalog was never replaced.
    have hops : rollbackOps record d =
        rollbackFileOps record d ++ [fun d : Disk => d.removeJournal record.transactionId] := by
      unfold rollbackOps restoreOps
      rw [if_neg (by simp [Disk.exist, hnone]), hhad, if_pos rfl, List.nil_append]
    rw [hops]
    refine .inl (Process.applyAll_keeps (P := fun s : Disk => s.files .catalog =
      some (.catalog c₀)) _ (fun op hop s hs =>
        (rollbackOps_drop_keeps_catalog (List.mem_of_mem_take hop) s).trans hs) d ?_)
    exact hcatalog.resolve_left (by simp)
  · rcases m with _ | _ | m
    · exact .inr (.inr rfl)
    · exact .inr (.inl (rollback_catalog_backup hbackup 0).1)
    · exact .inl (rollback_catalog_backup hbackup m).2

/-- A partition is missing or has a given content, and so has its backup. -/
def LostOr (transactionId target : String) (original : Option FileContent) (d : Disk) : Prop :=
  (d.files (.partition target) = none ∨ d.files (.partition target) = original) ∧
    (d.files (.partitionBackup target transactionId) = none ∨
      d.files (.partitionBackup target transactionId) = original)

theorem ArtifactOp.keeps_lostOr {transactionId target : String} {original : Option FileContent}
    {op : Disk → Disk} (h : ArtifactOp transactionId op)
    (hd : LostOr transactionId target original d) :
    LostOr transactionId target original (op d) := by
  cases h with
  | @unlink file hne =>
    have hset : ∀ file', (unlinkOp file d).files file' = none ∨
        (unlinkOp file d).files file' = d.files file' := by
      intro file'
      by_cases hfile : file' = file
      · exact .inl (hfile ▸ d.set_files_self ..)
      · exact .inr (unlinkOp_files hfile d)
    refine ⟨?_, ?_⟩
    · exact (hset _).elim .inl fun h => h.symm ▸ hd.1
    · exact (hset _).elim .inl fun h => h.symm ▸ hd.2
  | restore target' =>
    by_cases htarget : target' = target
    · subst htarget
      cases hbackup : d.files (.partitionBackup target' transactionId) with
      | none =>
        have hsame :
            replaceOp (.partitionBackup target' transactionId) (.partition target') d = d := by
          rw [replaceOp, Disk.replace, hbackup]
          rfl
        rwa [hsame]
      | some content =>
        rw [replaceOp_of_files hbackup]
        refine ⟨.inr ?_, .inl ?_⟩
        · rw [Disk.set_files_self, ← hbackup]
          exact hd.2.resolve_left (by simp [hbackup])
        · rw [Disk.set_files_of_ne _ _ (by simp), Disk.set_files_self]
    · unfold LostOr
      rwa [replaceOp_files (by simp) (by simpa using Ne.symm htarget),
        replaceOp_files (by simpa using Ne.symm htarget) (by simp)]

/-- **The last partition during a rollback**: once the catalog is restored, the next operation
removes that partition, and it stays missing or is restored. -/
theorem rollback_partition {original : Option FileContent} {content : FileContent}
    {a : JournalArtifact} {rest : List JournalArtifact}
    (hpartitions : record.partitions.reverse = a :: rest)
    (hcatalog : d.files (.catalogBackup record.transactionId) = some content)
    (hbackup : a.hadOriginal = true →
      d.files (.partitionBackup a.target record.transactionId) ≠ none)
    (hfiles : d.files (.partitionBackup a.target record.transactionId) = none ∨
      d.files (.partitionBackup a.target record.transactionId) = original) (m : ℕ) :
    LostOr record.transactionId a.target original
      (Process.applyAll ((rollbackOps record d).take (m + 3)) d) := by
  -- The third operation removes the partition, whatever `restore` goes on to do.
  obtain ⟨ops, hops⟩ : ∃ ops, rollbackFileOps record d = unlinkOp (.partition a.target) :: ops := by
    unfold rollbackFileOps
    rw [hpartitions, List.flatMap_cons]
    unfold restoreOps
    by_cases hexist : d.exist (.partitionBackup a.target record.transactionId) = true
    · rw [if_pos hexist]
      exact ⟨_, rfl⟩
    · have hnone : d.files (.partitionBackup a.target record.transactionId) = none := by
        simpa [Disk.exist] using hexist
      have hhad : a.hadOriginal = false := by
        cases h : a.hadOriginal with
        | true => exact absurd hnone (hbackup h)
        | false => rfl
      rw [if_neg hexist, hhad]
      exact ⟨_, rfl⟩
  have hall : rollbackOps record d = unlinkOp .catalog ::
      replaceOp (.catalogBackup record.transactionId) .catalog ::
        unlinkOp (.partition a.target) ::
          (ops ++ [fun d : Disk => d.removeJournal record.transactionId]) := by
    unfold rollbackOps restoreOps
    rw [if_pos (by rw [Disk.exist, hcatalog, Option.isSome_some]), hops]
    rfl
  rw [hall]
  refine Process.applyAll_keeps (P := LostOr record.transactionId a.target original)
    ((ops ++ [fun d : Disk => d.removeJournal record.transactionId]).take m)
    (fun op hop s hs => ?_)
    (unlinkOp (.partition a.target)
      (replaceOp (.catalogBackup record.transactionId) .catalog (unlinkOp .catalog d)))
    ⟨.inl (Disk.set_files_self ..), ?_⟩
  · rcases List.mem_append.mp (List.mem_of_mem_take hop) with hop | hop
    · have hmem : op ∈ rollbackFileOps record d := by
        rw [hops]
        exact List.mem_cons_of_mem _ hop
      exact (artifactOp_of_mem hmem).keeps_lostOr hs
    · rw [List.mem_singleton.mp hop]
      exact hs
  · rw [unlinkOp_files (by simp), replaceOp_files (by simp) (by simp), unlinkOp_files (by simp)]
    exact hfiles

/-- The second operation of a rollback with a backup leaves every partition as it is. -/
theorem rollback_two {content : FileContent}
    (hcatalog : d.files (.catalogBackup record.transactionId) = some content) (target : String) :
    (Process.applyAll ((rollbackOps record d).take 2) d).files (.partition target) =
      d.files (.partition target) := by
  have hall : (rollbackOps record d).take 2 =
      [unlinkOp .catalog, replaceOp (.catalogBackup record.transactionId) .catalog] := by
    unfold rollbackOps restoreOps
    rw [if_pos (by rw [Disk.exist, hcatalog, Option.isSome_some])]
    rfl
  rw [hall]
  exact (replaceOp_files (by simp) (by simp) _).trans (unlinkOp_files (by simp) d)

/-- **A rollback that goes through** restores everything and removes the journal, whatever the
journal says. -/
theorem rollbackBeforeCommit_keeps {A : Fault → Prop} {original : String → Option FileContent}
    {records : List ValidRecord} {temporaries : List String}
    (hrecords : ∀ r ∈ records, r.transactionId = record.transactionId)
    (hhad : record.catalogHadOriginal = true) (hbefore : record.owned c₀ = record.before)
    (horiginal : ∀ a ∈ record.partitions, a.hadOriginal = (original a.target).isSome) :
    Process.Keeps A
      (fun d => CatalogRestorable record.transactionId c₀ d ∧
        (∀ a ∈ record.partitions, a.Restorable record.transactionId original d) ∧
        Journaled record.datasetKey record.transactionId records temporaries d)
      (rollbackBeforeCommit record) (fun _ => True)
      (fun _ => Settled record.toJournalRecord original record.before c₀ temporaries) := by
  let F : Disk → Prop := fun d =>
    (∀ a ∈ record.partitions, a.Restorable record.transactionId original d) ∧
      Journaled record.datasetKey record.transactionId records temporaries d
  have hF : ∀ file, (∀ t, MarketFile.partition t ≠ file) →
      (∀ t, MarketFile.partitionBackup t record.transactionId ≠ file) → Ignores F file :=
    fun file ht hb d content hd => ⟨fun a ha =>
      ignores_restorable (ht a.target) (hb a.target) d content (hd.1 a ha),
        ignores_journaled file d content hd.2⟩
  let K : Disk → Prop := fun d =>
    Journaled record.datasetKey record.transactionId records temporaries d ∧
      CatalogHolds (fun c => record.owned c = record.before ∧ record.Untouched c₀ c) d
  have hK : ∀ file, MarketFile.catalog ≠ file → Ignores K file :=
    fun file hne => (ignores_journaled file).and (ignores_catalogHolds hne)
  refine Process.Meets.bind (Process.Meets.bind (M := fun _ d =>
      (∀ a ∈ record.partitions, a.Restorable record.transactionId original d) ∧ K d) ?_ fun _ =>
    Process.Keeps.weaken (rollbackArtifacts_keeps hK horiginal) (fun _ h => h)
      (fun _ _ => trivial) fun _ _ h => h) fun _ => ?_
  · refine Process.Keeps.weaken (restore_meets (F := F) (by simp) (by rw [hhad]; rfl)
      (fun d hd => hF _ (by simp) (by simp) d none hd)
      fun d content hd _ _ => hF _ (by simp) (by simp) _ _ (hF _ (by simp) (by simp) d none hd))
      (fun _ h => h) (fun _ _ => trivial) fun _ d hd => ⟨hd.2.1, hd.2.2, c₀, hd.1.1, hbefore,
        CatalogMutation.Untouched.refl ..⟩
  · exact unlinkJournal_keeps hrecords (fun _ _ => trivial) (fun _ _ => trivial)
      (fun d hd => hd.2.2.1) fun d hd => ⟨fun a ha => (hd.1 a ha).1, hd.2.2.2, hd.2.1⟩

end

end MarketData
end DryTrade
