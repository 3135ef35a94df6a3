import DryTrade.MarketData.Recovery

/-!
# Between the two journal writes

While the journal says PREPARED, every file the transaction replaces can be
restored: its temporary is written beside it, and it is moved to its backup
before the temporary takes its place.

## Main definitions

* `Reversible` — every file can be restored.
* `Fresh` — no file has been touched.

## Main results

* `prepareAndPromote_keeps` — the protocol between the two journal writes.
-/

namespace DryTrade
namespace MarketData

/-! ### Temporaries -/

section

variable {A : Fault → Prop} {transactionId : String} {F : Disk → Prop}

/-- Writing a temporary, which is removed when that raises. -/
theorem writeTemporary_keeps {file : MarketFile} {content : FileContent} (hF : Ignores F file) :
    Process.Keeps A F
      (Process.orElse (writeFile file content) fun _ => do
        unlink file
        Process.raise storageError)
      F (fun _ d => d.files file = some content ∧ F d) := by
  refine Process.Keeps.orElse (Process.Meets.bind (M := fun _ => F)
    (keeps_operation (fun _ hd => hd) fun d hd => ⟨hF d _ hd, hF d _ hd⟩) fun _ =>
      keeps_operation (fun _ hd => hd) fun d hd => ⟨hF d _ hd, d.set_files_self .., hF d _ hd⟩)
    fun hA _ => ?_
  exact Process.Meets.bind (M := fun _ => F)
    (keeps_operation (fun _ hd => hd) fun d hd => ⟨hF d _ hd, hF d _ hd⟩)
    fun _ => Process.Meets.raise fun d hd => ⟨hd, hA⟩

/-- The temporary of a planned partition is written. -/
def PlannedPartition.Prepared (transactionId : String) (p : PlannedPartition) (d : Disk) : Prop :=
  d.files (.partitionTemporary p.target transactionId) = some (.candles p.candles)

theorem ignores_prepared {p : PlannedPartition} {file : MarketFile}
    (h : MarketFile.partitionTemporary p.target transactionId ≠ file) :
    Ignores (p.Prepared transactionId) file :=
  fun d content hp => (d.set_files_of_ne content h).trans hp

/-- **Writing every temporary.** -/
theorem preparePartitions_keeps {partitions : List PlannedPartition}
    (hnodup : (partitions.map (·.target)).Nodup)
    (hF : ∀ t, Ignores F (.partitionTemporary t transactionId)) :
    Process.Keeps A F (Process.forEach partitions (preparePartition transactionId)) F
      (fun _ d => (∀ p ∈ partitions, p.Prepared transactionId d) ∧ F d) := by
  have hloop : Process.Keeps A
      (fun d => (∀ p ∈ ([] : List PlannedPartition), p.Prepared transactionId d) ∧ F d)
      (Process.forEach partitions (preparePartition transactionId)) F
      (fun _ d => (∀ p ∈ partitions, p.Prepared transactionId d) ∧ F d) := by
    refine Process.Meets.forEach (J := fun done d =>
      (∀ p : PlannedPartition, p ∈ done → p.Prepared transactionId d) ∧ F d)
      fun done x rest hsplit => ?_
    have hdone : ∀ p ∈ done, p.target ≠ x.target := by
      rw [hsplit, List.map_append, List.nodup_append] at hnodup
      exact fun p hp => hnodup.2.2 _ (List.mem_map_of_mem hp) _ (by simp)
    have hG : Ignores (fun d => (∀ p ∈ done, p.Prepared transactionId d) ∧ F d)
        (.partitionTemporary x.target transactionId) := by
      refine Ignores.and (fun d content h p hp => ?_) (hF x.target)
      exact ignores_prepared (by simpa using hdone p hp) d content (h p hp)
    refine Process.Keeps.weaken (writeTemporary_keeps hG) (fun _ hd => hd) (fun _ hd => hd.2) ?_
    rintro - d ⟨hx, hdone', hFd⟩
    refine ⟨fun p hp => ?_, hFd⟩
    rcases List.mem_append.mp hp with hp | hp
    · exact hdone' p hp
    · rw [List.mem_singleton.mp hp]
      exact hx
  exact hloop.weaken (fun d hd => ⟨by simp, hd⟩) (fun _ hd => hd) fun _ d hd => hd

end

/-! ### Promotion -/

section

variable {A : Fault → Prop} {transactionId : String} {original : String → Option FileContent}

/-- The files of a planned partition can be restored. -/
abbrev PlannedPartition.Restorable (transactionId : String)
    (original : String → Option FileContent) (p : PlannedPartition) : Disk → Prop :=
  MarketData.Restorable (.partition p.target) (.partitionBackup p.target transactionId)
    (original p.target)

/-- The files of a planned partition have not been touched. -/
abbrev PlannedPartition.Restored (transactionId : String)
    (original : String → Option FileContent) (p : PlannedPartition) : Disk → Prop :=
  MarketData.Restored (.partition p.target) (.partitionBackup p.target transactionId)
    (original p.target)

/-- The target of a planned partition has its candles. -/
def PlannedPartition.Promoted (p : PlannedPartition) (d : Disk) : Prop :=
  d.files (.partition p.target) = some (.candles p.candles)

theorem ignores_promoted {p : PlannedPartition} {file : MarketFile}
    (h : MarketFile.partition p.target ≠ file) : Ignores p.Promoted file :=
  fun d content hp => (d.set_files_of_ne content h).trans hp

/-- **Promoting one partition** keeps it restorable. -/
theorem promotePartition_keeps {p : PlannedPartition} {F : Disk → Prop}
    (horiginal : p.hadOriginal = (original p.target).isSome)
    (hF : Ignores F (.partition p.target) ∧ Ignores F (.partitionBackup p.target transactionId) ∧
      Ignores F (.partitionTemporary p.target transactionId)) :
    Process.Keeps A
      (fun d => p.Restored transactionId original d ∧ p.Prepared transactionId d ∧ F d)
      (promotePartition transactionId p)
      (fun d => p.Restorable transactionId original d ∧ F d)
      (fun _ d => p.Restorable transactionId original d ∧ p.Promoted d ∧ F d) := by
  obtain ⟨hFt, hFb, hFtmp⟩ := hF
  have hkeep : ∀ d, p.Restorable transactionId original d ∧ F d →
      p.Restorable transactionId original
          (d.set (.partitionTemporary p.target transactionId) none) ∧
        F (d.set (.partitionTemporary p.target transactionId) none) :=
    fun d hd => ⟨ignores_restorable (by simp) (by simp) d none hd.1, hFtmp d none hd.2⟩
  refine Process.Keeps.onRaise ?_ fun _ _ => ?_
  · refine Process.Meets.bind (M := fun _ d => (original p.target = none ∨
        d.files (.partitionBackup p.target transactionId) = original p.target) ∧
      p.Restorable transactionId original d ∧ p.Prepared transactionId d ∧ F d) ?_ fun _ => ?_
    · cases hhad : p.hadOriginal with
      | true =>
        refine keeps_replaceFile (fun d hd => ⟨hd.1.restorable, hd.2.2⟩) fun d hd => ?_
        obtain ⟨content, hcontent⟩ := Option.isSome_iff_exists.mp (horiginal.symm.trans hhad)
        have hrestorable : p.Restorable transactionId original
            ((d.set (.partition p.target) none).set
              (.partitionBackup p.target transactionId) (some content)) :=
          .inr ⟨by simp [hcontent], by rw [Disk.set_files_self, hcontent]⟩
        refine ⟨content, hd.1.1.trans hcontent, ⟨hrestorable, hFb _ _ (hFt _ _ hd.2.2)⟩, .inr ?_,
          hrestorable, ?_, hFb _ _ (hFt _ _ hd.2.2)⟩
        · rw [Disk.set_files_self, hcontent]
        · exact ignores_prepared (by simp) _ _ (ignores_prepared (by simp) _ _ hd.2.1)
      | false =>
        refine Process.Meets.pure fun d hd => ⟨.inl ?_, hd.1.restorable, hd.2⟩
        simpa using horiginal.symm.trans hhad
    · refine keeps_replaceFile (fun d hd => ⟨hd.2.1, hd.2.2.2⟩) fun d hd => ?_
      obtain ⟨hcase, hrestorable, hprepared, hFd⟩ := hd
      have hF' := hFt ((d.set (.partitionTemporary p.target transactionId) none)) (some (.candles
        p.candles)) (hFtmp d none hFd)
      have hrestorable' : p.Restorable transactionId original
          ((d.set (.partitionTemporary p.target transactionId) none).set (.partition p.target)
            (some (.candles p.candles))) := by
        unfold PlannedPartition.Restorable MarketData.Restorable
        rw [Disk.set_files_of_ne _ _ (by simp), Disk.set_files_of_ne _ _ (by simp)]
        rcases hrestorable with ⟨hnone, -⟩ | hbackup
        · refine .inl ⟨hnone, .inl (hcase.elim id fun h => h.symm.trans hnone)⟩
        · exact .inr hbackup
      exact ⟨_, hprepared, ⟨hrestorable', hF'⟩, hrestorable', Disk.set_files_self .., hF'⟩
  · refine Process.Meets.bind (M := fun _ d => p.Restorable transactionId original d ∧ F d)
      (keeps_operation (fun _ hd => hd) fun d hd => ⟨hkeep d hd, hkeep d hd⟩) fun _ => ?_
    exact Process.Keeps.weaken (restore_meets (by simp) horiginal (fun d hd => hFt d none hd)
      fun d content hd _ _ => hFt _ _ (hFb _ _ hd)) (fun _ hd => hd) (fun _ hd => hd)
      fun _ d hd => ⟨hd.1.restorable, hd.2⟩

/-- **Promoting every partition.** -/
theorem promotePartitions_keeps {partitions : List PlannedPartition} {F : Disk → Prop}
    (hnodup : (partitions.map (·.target)).Nodup)
    (horiginal : ∀ p ∈ partitions, p.hadOriginal = (original p.target).isSome)
    (hF : ∀ t, Ignores F (.partition t) ∧ Ignores F (.partitionBackup t transactionId) ∧
      Ignores F (.partitionTemporary t transactionId)) :
    Process.Keeps A
      (fun d => (∀ p ∈ partitions, p.Restored transactionId original d) ∧
        (∀ p ∈ partitions, p.Prepared transactionId d) ∧ F d)
      (Process.forEach partitions (promotePartition transactionId))
      (fun d => (∀ p ∈ partitions, p.Restorable transactionId original d) ∧ F d)
      (fun _ d => (∀ p ∈ partitions, p.Restorable transactionId original d) ∧
        (∀ p ∈ partitions, p.Promoted d) ∧ F d) := by
  -- The partitions gone through are promoted, the others are as they were.
  have hloop : Process.Keeps A
      (fun d => (∀ p ∈ partitions, p ∉ ([] : List PlannedPartition) →
          p.Restored transactionId original d ∧ p.Prepared transactionId d) ∧
        (∀ p ∈ ([] : List PlannedPartition),
          p.Restorable transactionId original d ∧ p.Promoted d) ∧ F d)
      (Process.forEach partitions (promotePartition transactionId))
      (fun d => (∀ p ∈ partitions, p.Restorable transactionId original d) ∧ F d)
      (fun _ d => (∀ p ∈ partitions, p ∉ partitions →
          p.Restored transactionId original d ∧ p.Prepared transactionId d) ∧
        (∀ p ∈ partitions, p.Restorable transactionId original d ∧ p.Promoted d) ∧ F d) := by
    refine Process.Meets.forEach (J := fun done d =>
      (∀ p ∈ partitions, p ∉ done →
        p.Restored transactionId original d ∧ p.Prepared transactionId d) ∧
      (∀ p : PlannedPartition, p ∈ done →
        p.Restorable transactionId original d ∧ p.Promoted d) ∧ F d) fun done x rest hsplit => ?_
    have hx : x ∈ partitions := by rw [hsplit]; simp
    have htargets : ∀ p ∈ partitions, p ≠ x → p.target ≠ x.target := fun p hp hne heq =>
      hne (List.inj_on_of_nodup_map hnodup hp hx heq)
    have hxdone : x ∉ done := by
      rw [hsplit] at hnodup
      have hnodup' := (List.Nodup.of_map _ hnodup)
      rw [List.nodup_append] at hnodup'
      exact fun h => hnodup'.2.2 x h x (by simp) rfl
    have hdone : ∀ p ∈ done, p ∈ partitions := fun p hp => by rw [hsplit]; simp [hp]
    let G : Disk → Prop := fun d =>
      (∀ p ∈ partitions, p ∉ done → p ≠ x →
        p.Restored transactionId original d ∧ p.Prepared transactionId d) ∧
      (∀ p ∈ done, p.Restorable transactionId original d ∧ p.Promoted d) ∧ F d
    have hG : ∀ file, Ignores F file → (∀ p ∈ partitions, p ≠ x →
        MarketFile.partition p.target ≠ file ∧
        MarketFile.partitionBackup p.target transactionId ≠ file ∧
        MarketFile.partitionTemporary p.target transactionId ≠ file) → Ignores G file := by
      intro file hFfile hne d content hd
      refine ⟨fun p hp hpd hpx => ?_, fun p hp => ?_, hFfile d content hd.2.2⟩
      · obtain ⟨ht, hb, htmp⟩ := hne p hp hpx
        exact ⟨ignores_restored ht hb d content (hd.1 p hp hpd hpx).1,
          ignores_prepared htmp d content (hd.1 p hp hpd hpx).2⟩
      · obtain ⟨ht, hb, htmp⟩ := hne p (hdone p hp) fun h => hxdone (h ▸ hp)
        exact ⟨ignores_restorable ht hb d content (hd.2.1 p hp).1,
          ignores_promoted ht d content (hd.2.1 p hp).2⟩
    have hall : ∀ d, x.Restorable transactionId original d ∧ G d →
        ∀ p ∈ partitions, p.Restorable transactionId original d := by
      rintro d ⟨hxd, hGd⟩ p hp
      by_cases hpd : p ∈ done
      · exact (hGd.2.1 p hpd).1
      · by_cases hpx : p = x
        · exact hpx ▸ hxd
        · exact (hGd.1 p hp hpd hpx).1.restorable
    refine Process.Keeps.weaken (promotePartition_keeps (F := G) (horiginal x hx) ⟨?_, ?_, ?_⟩)
      ?_ ?_ ?_
    · exact hG _ (hF _).1 fun p hp hne => ⟨by simpa using htargets p hp hne, by simp, by simp⟩
    · exact hG _ (hF _).2.1 fun p hp hne => ⟨by simp, by simpa using htargets p hp hne, by simp⟩
    · exact hG _ (hF _).2.2 fun p hp hne => ⟨by simp, by simp, by simpa using htargets p hp hne⟩
    · exact fun d hd => ⟨(hd.1 x hx hxdone).1, (hd.1 x hx hxdone).2,
        fun p hp hpd _ => hd.1 p hp hpd, hd.2⟩
    · exact fun d hd => ⟨hall d hd, hd.2.2.2⟩
    · rintro - d ⟨hxd, hpromoted, hGd⟩
      refine ⟨fun p hp hpd => ?_, fun p hp => ?_, hGd.2.2⟩
      · rw [List.mem_append, List.mem_singleton, not_or] at hpd
        exact hGd.1 p hp hpd.1 hpd.2
      · rcases List.mem_append.mp hp with hp | hp
        · exact hGd.2.1 p hp
        · rw [List.mem_singleton.mp hp]
          exact ⟨hxd, hpromoted⟩
  exact hloop.weaken (fun d hd => ⟨fun p hp _ => ⟨hd.1 p hp, hd.2.1 p hp⟩, by simp, hd.2.2⟩)
    (fun _ hd => hd) fun _ d hd => ⟨fun p hp => (hd.2.1 p hp).1, fun p hp => (hd.2.1 p hp).2,
      hd.2.2⟩

end

/-! ### The catalog -/

section

variable {A : Fault → Prop} {plan : CatalogPlan} {c₀ : CatalogState}

/-- The catalog is the one before, the intended one, or, where operations may raise, missing. -/
def CatalogPhase (A : Fault → Prop) (plan : CatalogPlan) (c₀ : CatalogState) (d : Disk) : Prop :=
  d.files .catalog = some (.catalog c₀) ∨ d.files .catalog = some (.catalog plan.content) ∨
    (d.files .catalog = none ∧ Process.CanRaise A)

theorem ignores_catalogPhase {file : MarketFile} (h : MarketFile.catalog ≠ file) :
    Ignores (CatalogPhase A plan c₀) file := by
  intro d content hd
  unfold CatalogPhase
  rwa [d.set_files_of_ne content h]

/-- The catalog can be restored. -/
abbrev CatalogRestorable (transactionId : String) (c₀ : CatalogState) : Disk → Prop :=
  Restorable .catalog (.catalogBackup transactionId) (some (.catalog c₀))

/-- The catalog has not been touched. -/
abbrev CatalogRestored (transactionId : String) (c₀ : CatalogState) : Disk → Prop :=
  Restored .catalog (.catalogBackup transactionId) (some (.catalog c₀))

/-- **Promoting the catalog** keeps it restorable. -/
theorem promoteCatalog_keeps (c₀ : CatalogState) {F : Disk → Prop} (hhad : plan.hadOriginal = true)
    (hF : Ignores F .catalog ∧ Ignores F (.catalogBackup plan.transactionId) ∧
      Ignores F (.catalogTemporary plan.transactionId)) :
    Process.Keeps A
      (fun d => CatalogRestored plan.transactionId c₀ d ∧
        d.files (.catalogTemporary plan.transactionId) = some (.catalog plan.content) ∧ F d)
      (promoteCatalog plan)
      (fun d => CatalogRestorable plan.transactionId c₀ d ∧ CatalogPhase A plan c₀ d ∧ F d)
      (fun _ d => CatalogRestorable plan.transactionId c₀ d ∧
        d.files .catalog = some (.catalog plan.content) ∧ F d) := by
  obtain ⟨hFc, hFb, hFtmp⟩ := hF
  have hkeep : ∀ d, CatalogRestorable plan.transactionId c₀ d ∧ CatalogPhase A plan c₀ d ∧ F d →
      CatalogRestorable plan.transactionId c₀ (d.set (.catalogTemporary plan.transactionId) none) ∧
        CatalogPhase A plan c₀ (d.set (.catalogTemporary plan.transactionId) none) ∧
          F (d.set (.catalogTemporary plan.transactionId) none) :=
    fun d hd => ⟨ignores_restorable (by simp) (by simp) d none hd.1,
      ignores_catalogPhase (by simp) d none hd.2.1, hFtmp d none hd.2.2⟩
  refine Process.Keeps.onRaise ?_ fun hA _ => ?_
  · -- The backup is a link, so the catalog is never missing.
    refine Process.Meets.bind (M := fun _ d =>
      d.files (.catalogBackup plan.transactionId) = some (.catalog c₀) ∧
        d.files .catalog = some (.catalog c₀) ∧
        d.files (.catalogTemporary plan.transactionId) = some (.catalog plan.content) ∧ F d)
      ?_ fun _ => ?_
    · rw [hhad]
      refine Process.Meets.bind (M := fun _ d => CatalogRestored plan.transactionId c₀ d ∧
        d.files (.catalogTemporary plan.transactionId) = some (.catalog plan.content) ∧ F d)
        (keeps_operation (fun d hd => ⟨hd.1.restorable, .inl hd.1.1, hd.2.2⟩) fun d hd => ?_)
        fun _ => Process.Keeps.act (fun d hd => ⟨hd.1.restorable, .inl hd.1.1, hd.2.2⟩)
          fun d hd => ?_
      · have hcatalog : (d.set (.catalogBackup plan.transactionId) none).files .catalog =
            some (.catalog c₀) := (d.set_files_of_ne none (by simp)).trans hd.1.1
        have hrestored : CatalogRestored plan.transactionId c₀
            (d.set (.catalogBackup plan.transactionId) none) := ⟨hcatalog, d.set_files_self ..⟩
        exact ⟨⟨hrestored.restorable, .inl hcatalog, hFb d none hd.2.2⟩, hrestored,
          (d.set_files_of_ne none (by simp)).trans hd.2.1, hFb d none hd.2.2⟩
      · have hcatalog : (d.set (.catalogBackup plan.transactionId) (some (.catalog c₀))).files
            .catalog = some (.catalog c₀) := (d.set_files_of_ne _ (by simp)).trans hd.1.1
        refine ⟨d.set (.catalogBackup plan.transactionId) (some (.catalog c₀)), ?_,
          ⟨.inr ⟨by simp, d.set_files_self ..⟩, .inl hcatalog, hFb d _ hd.2.2⟩,
          d.set_files_self .., hcatalog, (d.set_files_of_ne _ (by simp)).trans hd.2.1,
          hFb d _ hd.2.2⟩
        rw [Disk.link, hd.1.1, hd.1.2]
    · refine keeps_replaceFile (fun d hd => ⟨.inr ⟨by simp, hd.1⟩, .inl hd.2.1, hd.2.2.2⟩)
        fun d hd => ?_
      obtain ⟨hbackup, -, htemporary, hFd⟩ := hd
      have hF' := hFc (d.set (.catalogTemporary plan.transactionId) none)
        (some (.catalog plan.content)) (hFtmp d none hFd)
      have hrestorable : CatalogRestorable plan.transactionId c₀
          ((d.set (.catalogTemporary plan.transactionId) none).set .catalog
            (some (.catalog plan.content))) :=
        .inr ⟨by simp, ((Disk.set_files_of_ne _ _ (by simp)).trans
          (Disk.set_files_of_ne _ _ (by simp))).trans hbackup⟩
      exact ⟨_, htemporary, ⟨hrestorable, .inr (.inl (Disk.set_files_self ..)), hF'⟩, hrestorable,
        Disk.set_files_self .., hF'⟩
  · refine Process.Meets.bind (M := fun _ d => CatalogRestorable plan.transactionId c₀ d ∧
      CatalogPhase A plan c₀ d ∧ F d)
      (keeps_operation (fun _ hd => hd) fun d hd => ⟨hkeep d hd, hkeep d hd⟩) fun _ => ?_
    refine Process.Keeps.weaken (restore_meets (F := fun d => CatalogPhase A plan c₀ d ∧ F d)
      (by simp) (by rw [hhad]; rfl) (fun d hd => ⟨.inr (.inr ⟨d.set_files_self .., hA⟩),
        hFc d none hd.2⟩) fun d content hd _ hcontent => ⟨.inl ?_, hFc _ _ (hFb _ _ hd.2)⟩)
      (fun _ hd => hd) (fun _ hd => hd) fun _ d hd => ⟨hd.1.restorable, hd.2⟩
    rw [Disk.set_files_self, hcontent]

end

/-! ### The protocol between the two journal writes -/

section

variable {A : Fault → Prop} {parquetPlan : ParquetUpsertPlan} {catalogPlan : CatalogPlan}
  {original : String → Option FileContent} {c₀ : CatalogState} {F : Disk → Prop}

/-- Every file the plans replace can be restored. -/
def Reversible (A : Fault → Prop) (parquetPlan : ParquetUpsertPlan) (catalogPlan : CatalogPlan)
    (original : String → Option FileContent) (c₀ : CatalogState) (d : Disk) : Prop :=
  (∀ p ∈ parquetPlan.partitions, p.Restorable parquetPlan.transactionId original d) ∧
    CatalogRestorable catalogPlan.transactionId c₀ d ∧ CatalogPhase A catalogPlan c₀ d

/-- No file the plans replace has been touched. -/
def Fresh (parquetPlan : ParquetUpsertPlan) (catalogPlan : CatalogPlan)
    (original : String → Option FileContent) (c₀ : CatalogState) (d : Disk) : Prop :=
  (∀ p ∈ parquetPlan.partitions, p.Restored parquetPlan.transactionId original d) ∧
    CatalogRestored catalogPlan.transactionId c₀ d

/-- Every file the plans replace has its new content. -/
def Promoted (parquetPlan : ParquetUpsertPlan) (catalogPlan : CatalogPlan) (d : Disk) : Prop :=
  (∀ p ∈ parquetPlan.partitions, p.Promoted d) ∧
    d.files .catalog = some (.catalog catalogPlan.content)

theorem Fresh.reversible {d : Disk} (h : Fresh parquetPlan catalogPlan original c₀ d) :
    Reversible A parquetPlan catalogPlan original c₀ d :=
  ⟨fun p hp => (h.1 p hp).restorable, h.2.restorable, .inl h.2.1⟩

/-- **The protocol between the two journal writes** keeps every file restorable, and promotes
them all. -/
theorem prepareAndPromote_keeps (original : String → Option FileContent)
    (hnodup : (parquetPlan.partitions.map (·.target)).Nodup)
    (horiginal : ∀ p ∈ parquetPlan.partitions, p.hadOriginal = (original p.target).isSome)
    (hhad : catalogPlan.hadOriginal = true) (hF : ∀ file, Ignores F file) :
    Process.Keeps A (fun d => Fresh parquetPlan catalogPlan original c₀ d ∧ F d)
      (prepareAndPromote parquetPlan catalogPlan)
      (fun d => Reversible A parquetPlan catalogPlan original c₀ d ∧ F d)
      (fun _ d => Reversible A parquetPlan catalogPlan original c₀ d ∧
        Promoted parquetPlan catalogPlan d ∧ F d) := by
  let tx := parquetPlan.transactionId
  have hfresh : ∀ file, (∀ t, MarketFile.partition t ≠ file) →
      (∀ t, MarketFile.partitionBackup t tx ≠ file) → MarketFile.catalog ≠ file →
      MarketFile.catalogBackup catalogPlan.transactionId ≠ file →
      Ignores (fun d => Fresh parquetPlan catalogPlan original c₀ d ∧ F d) file :=
    fun file ht hb hc hcb d content hd => ⟨⟨fun p hp =>
      ignores_restored (ht p.target) (hb p.target) d content (hd.1.1 p hp),
        ignores_restored hc hcb d content hd.1.2⟩, hF file d content hd.2⟩
  -- Once all temporaries are written.
  let Ready : Disk → Prop := fun d =>
    (∀ p ∈ parquetPlan.partitions, p.Prepared tx d) ∧
      Fresh parquetPlan catalogPlan original c₀ d ∧ F d
  -- What the promotion of the partitions leaves alone.
  let K : Disk → Prop := fun d => CatalogRestored catalogPlan.transactionId c₀ d ∧
    d.files (.catalogTemporary catalogPlan.transactionId) = some (.catalog catalogPlan.content) ∧
      F d
  have hK : ∀ file, MarketFile.catalog ≠ file →
      MarketFile.catalogBackup catalogPlan.transactionId ≠ file →
      MarketFile.catalogTemporary catalogPlan.transactionId ≠ file → Ignores K file :=
    fun file hc hcb hct => (ignores_restored hc hcb).and
      ((ignores_files (P := (· = some (.catalog catalogPlan.content))) hct).and (hF file))
  -- What the promotion of the catalog leaves alone.
  let L : Disk → Prop := fun d =>
    (∀ p ∈ parquetPlan.partitions, p.Restorable tx original d) ∧
      (∀ p ∈ parquetPlan.partitions, p.Promoted d) ∧ F d
  have hL : ∀ file, (∀ t, MarketFile.partition t ≠ file) →
      (∀ t, MarketFile.partitionBackup t tx ≠ file) → Ignores L file :=
    fun file ht hb d content hd => ⟨fun p hp =>
      ignores_restorable (ht p.target) (hb p.target) d content (hd.1 p hp),
        fun p hp => ignores_promoted (ht p.target) d content (hd.2.1 p hp),
        hF file d content hd.2.2⟩
  refine Process.Meets.bind (M := fun _ => Ready) ?_ fun _ => Process.Meets.bind
    (M := fun _ d => d.files (.catalogTemporary catalogPlan.transactionId) =
      some (.catalog catalogPlan.content) ∧ Ready d) ?_ fun _ =>
    Process.Meets.bind (M := fun _ d => (∀ p ∈ parquetPlan.partitions, p.Restorable tx original d) ∧
      (∀ p ∈ parquetPlan.partitions, p.Promoted d) ∧ K d) ?_ fun _ => ?_
  · exact Process.Keeps.weaken (preparePartitions_keeps hnodup
      fun t => hfresh _ (by simp) (by simp) (by simp) (by simp)) (fun _ hd => hd)
      (fun d hd => ⟨hd.1.reversible, hd.2⟩) fun _ _ hd => hd
  · refine Process.Keeps.weaken (writeTemporary_keeps (F := Ready) ?_) (fun _ hd => hd)
      (fun d hd => ⟨hd.2.1.reversible, hd.2.2⟩) fun _ _ hd => hd
    exact fun d content hd => ⟨fun p hp => ignores_prepared (by simp) d content (hd.1 p hp),
      hfresh _ (by simp) (by simp) (by simp) (by simp) d content hd.2⟩
  · refine Process.Keeps.weaken (promotePartitions_keeps (F := K) hnodup horiginal fun t =>
      ⟨hK _ (by simp) (by simp) (by simp), hK _ (by simp) (by simp) (by simp),
        hK _ (by simp) (by simp) (by simp)⟩) ?_ ?_ fun _ _ hd => hd
    · exact fun d hd => ⟨hd.2.2.1.1, hd.2.1, hd.2.2.1.2, hd.1, hd.2.2.2⟩
    · exact fun d hd => ⟨⟨hd.1, hd.2.1.restorable, .inl hd.2.1.1⟩, hd.2.2.2⟩
  · refine Process.Keeps.weaken (promoteCatalog_keeps c₀ (F := L) hhad
      ⟨hL _ (by simp) (by simp), hL _ (by simp) (by simp), hL _ (by simp) (by simp)⟩) ?_ ?_ ?_
    · exact fun d hd => ⟨hd.2.2.1, hd.2.2.2.1, hd.1, hd.2.1, hd.2.2.2.2⟩
    · exact fun d hd => ⟨⟨hd.2.2.1, hd.1, hd.2.1⟩, hd.2.2.2.2⟩
    · exact fun _ d hd => ⟨⟨hd.2.2.1, hd.1, .inr (.inl hd.2.1)⟩, ⟨hd.2.2.2.1, hd.2.1⟩, hd.2.2.2.2⟩

end

end MarketData
end DryTrade
