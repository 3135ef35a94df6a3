import DryTrade.MarketData.Commit
import DryTrade.MarketData.DerivedCut
import DryTrade.MarketData.Incremental

/-!
# Crash atomicity of a derived dataset

A crash after any number of operations of a commit, and any number of crashes of the
recovery, leave the dataset as it was or as it was to be, the latter exactly when the
journal had become COMMITTED.  What may stay behind is the temporary of the journal:
it is removed only by the write that opened it, so a crash between opening and
renaming it leaves it for good.

## Main definitions

* `Ready` — the files a commit starts from.
* `PlanValid` — what a plan touches and lists.
* `Recovering` — recoveries that were cut.
* `Atomic`, `NothingLeft` — what a completed recovery promises.

## Main results

* `recoverDerivedDataset_atomic_iff` — atomicity, and what is left.
* `Atomic.committed` — the protocol refines the atomic commit.
* `crash_leaves_journalTemporary` — a crash that leaves the temporary of a journal.
-/

namespace DryTrade
namespace MarketData
namespace DerivedTransaction

open FileSystem

variable {Bytes Digest : Type} {T : Transaction Digest}

/-! ### What a plan leaves -/

section

variable {store : Storage Bytes Digest} {st : DerivedState Bytes Digest}
  {plan : ResamplingPlan} {result : ResamplingResult Digest} {sourceVersion : String}
  {p : CommitPlan Digest}

/-- The summaries a dataset lists. -/
def summariesOf (st : DerivedState Bytes Digest) : List (PartitionSummary Digest) :=
  (st.manifest.map (·.partitions)).getD []

/-- The months a plan touches are those of the result and of the summaries its range meets; the
manifest lists the other summaries and the months that keep candles. -/
structure PlanValid (st : DerivedState Bytes Digest) (plan : ResamplingPlan)
    (result : ResamplingResult Digest) (p : CommitPlan Digest) : Prop where
  nodup : (p.partitions.map (·.1)).Nodup
  months : ∀ month, month ∈ p.partitions.map (·.1) ↔
    (∃ c ∈ result.candles, monthOf c.openTime = month) ∨
      ∃ s ∈ summariesOf st, s.intersects plan.dataRange = true ∧ s.month = month
  listed : ∀ month, (∃ s ∈ p.manifest.partitions, s.month = month) ↔
    (∃ s ∈ summariesOf st, s.intersects plan.dataRange = false ∧ s.month = month) ∨
      ∃ q ∈ p.partitions, q.2 ≠ [] ∧ q.1 = month

theorem mapM_loadManifest {m previous : Option (DatasetManifest Digest)}
    (h : m.mapM (Storage.loadManifest plan) = .ok previous) : previous = m := by
  cases m with
  | none =>
    cases h
    rfl
  | some m =>
    cases hload : Storage.loadManifest plan m with
    | error e =>
      rw [Option.mapM_some, hload] at h
      cases h
    | ok m' =>
      rw [Option.mapM_some, hload] at h
      cases h
      simp only [Storage.loadManifest, bind_eq_ok, FailureKind.unless_eq_ok, exists_const, pure,
        Except.pure, Except.ok.injEq] at hload
      rw [hload.2]

theorem planCommit_valid [DecidableEq Digest]
    (h : planCommit store st plan result sourceVersion = .ok p) :
    PlanValid st plan result p := by
  simp only [planCommit, bind_eq_ok, pure, Except.pure, Except.ok.injEq] at h
  obtain ⟨previous, hprevious, kept, hkept, source, -, rfl⟩ := h
  obtain rfl := mapM_loadManifest hprevious
  have hmonths : kept.map (·.1) =
      ((summariesOf st).filter (·.intersects plan.dataRange)).map (·.month) := by
    have hall := forall₂_of_mapM hkept
    change List.Forall₂ _ ((summariesOf st).filter _) kept at hall
    clear hkept
    generalize (summariesOf st).filter (·.intersects plan.dataRange) = touched at hall
    induction hall with
    | nil => rfl
    | @cons s k touched kept hs _ ih =>
      simp only [Storage.keptRows, bind_eq_ok, pure, Except.pure, Except.ok.injEq] at hs
      obtain ⟨rows, -, rfl⟩ := hs
      rw [List.map_cons, List.map_cons, ih]
  refine ⟨?_, fun month => ?_, fun month => ?_⟩
  · rw [List.map_map, show ((fun q : ℤ × List Candle => q.1) ∘ fun m =>
      (m, Storage.mergedRows result.candles kept m)) = id from rfl, List.map_id]
    exact (List.perm_insertionSort _ _).nodup_iff.mpr (List.nodup_dedup _)
  · rw [List.map_map, show ((fun q : ℤ × List Candle => q.1) ∘ fun m =>
      (m, Storage.mergedRows result.candles kept m)) = id from rfl, List.map_id,
      (List.perm_insertionSort _ _).mem_iff, List.mem_dedup, List.mem_append, hmonths]
    simp [and_assoc]
  · simp only [(sortByMonth_perm _).mem_iff, List.mem_append, List.mem_map, List.mem_filter]
    constructor
    · rintro ⟨s, ⟨hs, hout⟩ | ⟨m, ⟨hm, hne⟩, rfl⟩, rfl⟩
      · exact .inl ⟨s, hs, by simpa using hout, rfl⟩
      · exact .inr ⟨_, ⟨m, hm, rfl⟩, by simpa using hne, rfl⟩
    · rintro (⟨s, hs, hout, rfl⟩ | ⟨q, ⟨m, hm, rfl⟩, hne, rfl⟩)
      · exact ⟨s, .inl ⟨hs, by simpa using hout⟩, rfl⟩
      · exact ⟨_, .inr ⟨m, ⟨hm, by simpa using hne⟩, rfl⟩, rfl⟩

/-! ### The transaction of a commit -/

/-- The files a commit starts from: nothing carries its fresh identifier, and every journal there
is belongs to another dataset, as the recovery that precedes the commit leaves them. -/
structure Ready (series : DerivedSeries) (id : String) (fs : DerivedFiles Digest) : Prop where
  hex : (id.toList.length == 32 && id.toList.all isHexDigit) = true
  fresh : ∀ t, fs.entry (.temporary series t id) = none ∧ fs.entry (.backup series t id) = none
  unjournaled : fs.entry (.journal id) = none ∧ fs.entry (.journalTemporary id) = none
  others : ∀ other, fs.entry (.journal other) ≠ none →
    ∃ r, fs.read (.journal other) = some (.journal r) ∧ r.series ≠ series

theorem validateArtifacts_eq_ok {artifacts : List JournalArtifact} :
    ∀ {seen : List TargetName}, (artifacts.map (·.target)).Nodup →
      (∀ a ∈ artifacts, a.target ∉ seen ∧ a.validateTarget = .ok ()) →
      validateArtifacts seen artifacts = .ok () := by
  induction artifacts with
  | nil => exact fun _ _ => rfl
  | cons a artifacts ih =>
    intro seen hnodup h
    obtain ⟨ha, hrest⟩ := List.nodup_cons.mp hnodup
    obtain ⟨hseen, hvalid⟩ := h a List.mem_cons_self
    have htail : validateArtifacts (a.target :: seen) artifacts = .ok () := by
      refine ih hrest fun b hb => ⟨fun hmem => ?_, (h b (List.mem_cons_of_mem a hb)).2⟩
      rcases List.mem_cons.mp hmem with heq | hmem
      · exact ha (List.mem_map.mpr ⟨b, hb, heq⟩)
      · exact (h b (List.mem_cons_of_mem a hb)).1 hmem
    simp only [validateArtifacts, bind_eq_ok, FailureKind.unless_eq_ok, exists_const]
    exact ⟨by simpa using hseen, (), hvalid, htail⟩

theorem partitionPayload_kind (rows : List Candle) :
    (partitionPayload rows : Payload Digest).kind ≠ .manifest := by
  unfold partitionPayload
  split <;> simp [Payload.kind]

/-- The record of a plan passes its checks. -/
theorem PlanValid.record (h : PlanValid st plan result p) (fs : DerivedFiles Digest) {id : String}
    (hid : (id.toList.length == 32 && id.toList.all isHexDigit) = true) :
    (recordOf plan.series id (p.artifacts plan.series fs) .prepared).validate id = .ok () := by
  have htargets : ((p.artifacts plan.series fs).map Artifact.journaled).map (·.target) =
      p.partitions.map (fun q => .partition q.1) ++ [.manifest] := by
    simp [CommitPlan.artifacts, Artifact.journaled, Function.comp_def]
  have hnodup : (((p.artifacts plan.series fs).map Artifact.journaled).map (·.target)).Nodup := by
    rw [htargets]
    refine List.nodup_append.mpr ⟨?_, by simp, fun a ha b hb hab => ?_⟩
    swap
    · obtain ⟨q, -, rfl⟩ := List.mem_map.mp ha
      rw [List.mem_singleton.mp hb] at hab
      cases hab
    have hmap := h.nodup.map (f := TargetName.partition) fun _ _ h => TargetName.partition.inj h
    rwa [List.map_map] at hmap
  have hvalid : ∀ a ∈ (p.artifacts plan.series fs).map Artifact.journaled,
      a.validateTarget = .ok () := by
    intro a ha
    obtain ⟨b, hb, rfl⟩ := List.mem_map.mp ha
    rcases List.mem_append.mp hb with hb | hb
    · obtain ⟨q, -, rfl⟩ := List.mem_map.mp hb
      simp [JournalArtifact.validateTarget, Artifact.journaled, partitionPayload_kind]
    · rw [List.mem_singleton.mp hb]
      rfl
  have hmanifest : ((p.artifacts plan.series fs).map Artifact.journaled).filter
      (fun a => a.kind == .manifest) =
        [⟨.manifest, .manifest, fs.exist (.target plan.series .manifest)⟩] := by
    rw [CommitPlan.artifacts, List.map_append, List.filter_append, List.filter_eq_nil_iff.mpr]
    · rfl
    · intro a ha
      obtain ⟨b, hb, rfl⟩ := List.mem_map.mp ha
      obtain ⟨q, -, rfl⟩ := List.mem_map.mp hb
      simp [Artifact.journaled, partitionPayload_kind]
  simp only [JournalRecord.validate, recordOf, bind_eq_ok, FailureKind.unless_eq_ok, exists_const,
    beq_self_eq_true, hmanifest, List.length_singleton, and_true, true_and]
  exact ⟨hid, (), validateArtifacts_eq_ok hnodup fun a ha => ⟨by simp, hvalid a ha⟩⟩

/-- The transaction of a plan. -/
def transactionOf {fs : DerivedFiles Digest} {id : String} (hready : Ready plan.series id fs)
    (h : PlanValid st plan result p) : Transaction Digest where
  series := plan.series
  id := id
  artifacts := p.artifacts plan.series fs
  before := fs
  valid := h.record fs hready.hex
  originals a ha := by
    rcases List.mem_append.mp ha with ha | ha
    · obtain ⟨q, -, rfl⟩ := List.mem_map.mp ha
      rfl
    · rw [List.mem_singleton.mp ha]
  fresh := hready.fresh
  unjournaled := hready.unjournaled
  others := hready.others

/-- What a commit is to leave at a target. -/
def CommitPlan.file (p : CommitPlan Digest) (series : DerivedSeries) (fs : DerivedFiles Digest) :
    TargetName → Option (DerivedContent Digest)
  | .manifest => some (.manifest p.manifest)
  | .partition month =>
    match p.partitions.find? fun q => q.1 == month with
    | some q => (partitionPayload q.2).content
    | none => fs.read (.target series (.partition month))

theorem transactionOf_intended {fs : DerivedFiles Digest} {id : String}
    (hready : Ready plan.series id fs) (h : PlanValid st plan result p) (t : TargetName) :
    (transactionOf hready h).intended t = p.file plan.series fs t := by
  have hmem : ∀ a : Artifact Digest, a ∈ p.artifacts plan.series fs →
      (transactionOf hready h).intended a.target = a.payload.content := fun a ha =>
    Transaction.intended_of_mem (T := transactionOf hready h) ha
  cases t with
  | manifest =>
    exact hmem ⟨.manifest, fs.exist (.target plan.series .manifest), .manifest p.manifest⟩
      (List.mem_append_right _ (List.mem_singleton_self _))
  | partition month =>
    cases hfound : p.partitions.find? fun q => q.1 == month with
    | some q =>
      have hfile : p.file plan.series fs (.partition month) = (partitionPayload q.2).content := by
        simp only [CommitPlan.file, hfound]
      have hmonth : q.1 = month := by simpa using List.find?_some hfound
      have ha := hmem ⟨.partition q.1, fs.exist (.target plan.series (.partition q.1)),
        partitionPayload q.2⟩ (List.mem_append_left _
          (List.mem_map_of_mem (List.mem_of_find?_eq_some hfound)))
      rw [hmonth] at ha
      exact ha.trans hfile.symm
    | none =>
      have hfile : p.file plan.series fs (.partition month) =
          fs.read (.target plan.series (.partition month)) := by
        simp only [CommitPlan.file, hfound]
      have hnone : (p.artifacts plan.series fs).find? (fun a => a.target == .partition month) =
          none := by
        refine List.find?_eq_none.mpr fun a ha => ?_
        rcases List.mem_append.mp ha with ha | ha
        · obtain ⟨q, hq, rfl⟩ := List.mem_map.mp ha
          have hne := List.find?_eq_none.mp hfound q hq
          simpa using hne
        · rw [List.mem_singleton.mp ha]
          simp
      rw [hfile]
      have hartifacts : (transactionOf hready h).artifacts = p.artifacts plan.series fs := rfl
      simp only [Transaction.intended, hartifacts, hnone]
      rfl

end

/-! ### Recoveries -/

/-- Recoveries of the dataset, completed or cut. -/
inductive Recovering (series : DerivedSeries) (fs : DerivedFiles Digest) :
    DerivedFiles Digest → Prop
  | start : Recovering series fs fs
  | again {fs' : DerivedFiles Digest} (faults : List Fault) (h : Recovering series fs fs')
      (hfaults : ∀ f ∈ faults, Crashing f) :
      Recovering series fs ((recoverDerivedDataset series fs' faults).final fs')

/-- A phase that every recovery keeps. -/
theorem Recovering.keeps {series : DerivedSeries} {fs fs' : DerivedFiles Digest}
    {Phase : DerivedFiles Digest → Prop} {Q : Unit → DerivedFiles Digest → Prop}
    (h : Recovering series fs fs')
    (hphase : Process.Keeps Crashing Phase (recoverDerivedDataset series) Phase Q)
    (hfs : Phase fs) : Phase fs' := by
  induction h with
  | start => exact hfs
  | again faults _ hfaults ih => exact Process.Meets.final_of_pre hphase (fun _ h => h) ih hfaults

/-- A recovery completes unless it crashes, and ends the transaction. -/
theorem recovery_ends {series : DerivedSeries} {fs : DerivedFiles Digest}
    {Phase Done : DerivedFiles Digest → Prop}
    (h : ∀ A, Process.Keeps A Phase (recoverDerivedDataset series) Phase fun _ => Done)
    (hfs : Phase fs) :
    (recoverDerivedDataset series fs []).outcome = .returned () ∧
      ∀ faults, (∀ f ∈ faults, Crashing f) →
        (recoverDerivedDataset series fs faults).outcome = .returned () →
          Done ((recoverDerivedDataset series fs faults).final fs) := by
  obtain ⟨u, hreturned, -⟩ := (h Process.NoFault).noFault hfs
  refine ⟨hreturned, fun faults hfaults hout => ?_⟩
  obtain ⟨-, -, hend⟩ := h Crashing fs faults hfs hfaults
  rw [hout] at hend
  exact hend

/-! ### Atomicity -/

/-- The manifest lists exactly the months that have a file; a dataset without a manifest has
none. -/
def ManifestMatches (series : DerivedSeries) (fs : DerivedFiles Digest) : Prop :=
  match fs.read (.target series .manifest) with
  | none => ∀ month, fs.entry (.target series (.partition month)) = none
  | some (.manifest m) => ∀ month, (∃ s ∈ m.partitions, s.month = month) ↔
      fs.entry (.target series (.partition month)) ≠ none
  | some _ => False

/-- Nothing of the transaction is left: no temporary, no backup, no journal, whole or not. -/
structure NothingLeft (series : DerivedSeries) (id : String) (fs : DerivedFiles Digest) : Prop where
  targets : ∀ t, fs.entry (.temporary series t id) = none ∧ fs.entry (.backup series t id) = none
  journal : fs.entry (.journal id) = none
  journalTemporary : fs.entry (.journalTemporary id) = none

/-- The journal became COMMITTED during a run. -/
def JournalCommitted (id : String) (r : Ran (DerivedFiles Digest) Failure Unit) : Prop :=
  ∃ t ∈ r.visited, ∃ record, t.read (.journal id) = some (.journal record) ∧
    record.state = .committed

/-- What a completed recovery promises of the dataset: every file is as before, or as intended if
the journal had become COMMITTED. -/
structure Atomic (series : DerivedSeries) (p : CommitPlan Digest) (committed : Prop)
    (fs₀ fs : DerivedFiles Digest) : Prop where
  before : ¬ committed → ∀ t, fs.read (.target series t) = fs₀.read (.target series t)
  intended : committed → ∀ t, fs.read (.target series t) = p.file series fs₀ t
  manifest : ManifestMatches series fs₀ → ManifestMatches series fs

section

variable {T : Transaction Digest} {j : Option ℕ} {fs : DerivedFiles Digest}
  {value : TargetName → Option (DerivedContent Digest)}

/-- At the end of a transaction only the temporary of its journal may be left. -/
theorem Settled.nothingLeft_iff (h : Settled T value j fs) :
    NothingLeft T.series T.id fs ↔ j = none := by
  refine ⟨fun hleft => h.incomplete.symm.trans hleft.journalTemporary, fun hj => ⟨fun t => ?_,
    h.journal, h.incomplete.trans hj⟩⟩
  by_cases ht : t ∈ T.targets
  · exact h.removed t ht
  · obtain ⟨-, htemporary, hbackup⟩ := Transaction.not_owns ht
    rw [h.frame.entry _ htemporary, h.frame.entry _ hbackup]
    exact T.fresh t

theorem Settled.read_original (h : Settled T T.original j fs) (t : TargetName) :
    fs.read (.target T.series t) = T.before.read (.target T.series t) := by
  by_cases ht : t ∈ T.targets
  · exact h.targets t ht
  · exact h.frame.read (Transaction.not_owns ht).1

theorem Transaction.intended_of_not_mem {t : TargetName} (ht : t ∉ T.targets) :
    T.intended t = T.before.read (.target T.series t) := by
  unfold Transaction.intended
  rw [List.find?_eq_none.mpr]
  · rfl
  · intro a ha heq
    exact ht (List.mem_map.mpr ⟨a, ha, by simpa using heq⟩)

theorem Settled.read_intended (h : Settled T T.intended j fs) (t : TargetName) :
    fs.read (.target T.series t) = T.intended t := by
  by_cases ht : t ∈ T.targets
  · exact h.targets t ht
  · rw [h.frame.read (Transaction.not_owns ht).1, Transaction.intended_of_not_mem ht]

/-- The journal of an uncommitted state is not COMMITTED. -/
theorem BeforeCommit.not_committed (h : BeforeCommit T j fs) {record : JournalRecord}
    (hread : fs.read (.journal T.id) = some (.journal record)) : record.state ≠ .committed := by
  rcases h with h | h
  · rw [h.journal] at hread
    cases hread
    exact fun h => JournalState.noConfusion h
  · rw [read_eq_none.mpr h.journal] at hread
    cases hread

/-- The same targets, the same manifest and months. -/
theorem ManifestMatches.congr {series : DerivedSeries} {fs fs' : DerivedFiles Digest}
    (heq : ∀ t, fs'.read (.target series t) = fs.read (.target series t))
    (h : ManifestMatches series fs) : ManifestMatches series fs' := by
  have hentry : ∀ t, fs'.entry (.target series t) = none ↔ fs.entry (.target series t) = none := by
    intro t
    rw [← read_eq_none, ← read_eq_none, heq t]
  unfold ManifestMatches at h ⊢
  rw [heq .manifest]
  split
  · next hread =>
    rw [hread] at h
    exact fun month => (hentry _).mpr (h month)
  · next m hread =>
    rw [hread] at h
    exact fun month => (h month).trans (not_congr (hentry _).symm)
  · next content hnot hread =>
    cases content with
    | incomplete => rw [hread] at h; exact h
    | candles rows => rw [hread] at h; exact h
    | manifest m => exact hnot m rfl
    | journal r => rw [hread] at h; exact h

end

section

variable {plan : ResamplingPlan} {result : ResamplingResult Digest} {p : CommitPlan Digest}
  {raw : RawDataset Bytes} {fs₀ fs : DerivedFiles Digest}

/-- A summary of the month of an instant in the range is met by the range. -/
theorem intersects_of_contains {r : DataRange} {s : PartitionSummary Digest} {t : Instant}
    (h : r.contains t = true) (hmonth : s.month = monthOf t) : s.intersects r = true := by
  obtain ⟨hstart, hstop⟩ := mem_monthsInRange.mp (mem_monthsInRange_of_contains h)
  simp [PartitionSummary.intersects, hmonth, hstart, hstop]

/-- The manifest of a plan lists the months that have a file after it. -/
theorem PlanValid.manifestMatches (h : PlanValid (datasetOf raw plan.series fs₀) plan result p)
    (hresult : ∀ c ∈ result.candles, plan.dataRange.contains c.openTime = true)
    (hfile : ∀ t, fs.read (.target plan.series t) = p.file plan.series fs₀ t)
    (hbefore : ManifestMatches plan.series fs₀) : ManifestMatches plan.series fs := by
  have hlisted : ∀ month, (∃ s ∈ summariesOf (datasetOf raw plan.series fs₀), s.month = month) ↔
      fs₀.read (.target plan.series (.partition month)) ≠ none := by
    intro month
    rw [Ne, read_eq_none]
    unfold ManifestMatches at hbefore
    unfold summariesOf datasetOf manifestOf
    split at hbefore
    · next hread => simp [hread, hbefore month]
    · next m hread => simpa [hread] using hbefore month
    · exact hbefore.elim
  unfold ManifestMatches
  rw [hfile .manifest]
  intro month
  rw [h.listed, Ne, ← read_eq_none, hfile]
  cases hfound : p.partitions.find? fun q => q.1 == month with
  | some q =>
    have hq := List.mem_of_find?_eq_some hfound
    have hmonth : q.1 = month := by simpa using List.find?_some hfound
    have hread : p.file plan.series fs₀ (.partition month) = (partitionPayload q.2).content := by
      simp only [CommitPlan.file, hfound]
    -- No summary outside the range has a month the plan touches.
    have houtside : ¬ ∃ s ∈ summariesOf (datasetOf raw plan.series fs₀),
        s.intersects plan.dataRange = false ∧ s.month = month := by
      rintro ⟨s, -, hout, hs⟩
      rcases (h.months month).mp (List.mem_map.mpr ⟨q, hq, hmonth⟩) with ⟨c, hc, hcm⟩ |
        ⟨s', -, hin, hs'⟩
      · rw [intersects_of_contains (hresult c hc) (hs.trans hcm.symm)] at hout
        cases hout
      · have heq : s.intersects plan.dataRange = s'.intersects plan.dataRange := by
          unfold PartitionSummary.intersects
          rw [hs, hs']
        rw [heq, hin] at hout
        cases hout
    have hunique : (∃ q' ∈ p.partitions, q'.2 ≠ [] ∧ q'.1 = month) ↔ q.2 ≠ [] := by
      constructor
      · rintro ⟨q', hq', hne, hm⟩
        rwa [List.inj_on_of_nodup_map h.nodup hq hq' (hmonth.trans hm.symm)]
      · exact fun hne => ⟨q, hq, hne, hmonth⟩
    rw [hread, hunique, or_iff_right houtside, partitionPayload]
    cases hrows : q.2 with
    | nil => simp [Payload.content]
    | cons c rows => simp [Payload.content]
  | none =>
    have hnone : ∀ q ∈ p.partitions, q.1 ≠ month := fun q hq => by
      simpa using List.find?_eq_none.mp hfound q hq
    have hread : p.file plan.series fs₀ (.partition month) =
        fs₀.read (.target plan.series (.partition month)) := by
      simp only [CommitPlan.file, hfound]
    rw [hread, ← Ne, ← hlisted month]
    constructor
    · rintro (⟨s, hs, -, hm⟩ | ⟨q, hq, -, hm⟩)
      · exact ⟨s, hs, hm⟩
      · exact absurd hm (hnone q hq)
    · rintro ⟨s, hs, hm⟩
      cases hin : s.intersects plan.dataRange with
      | false => exact .inl ⟨s, hs, hin, hm⟩
      | true =>
        obtain ⟨q, hq, hqm⟩ :=
          List.mem_map.mp ((h.months month).mpr (.inr ⟨s, hs, hin, hm⟩))
        exact absurd hqm (hnone q hq)

/-- A commit is its transaction. -/
theorem commit_eq_transact [DecidableEq Digest] {store : Storage Bytes Digest} {id : String}
    {sourceVersion : String}
    (hplan : planCommit store (datasetOf raw plan.series fs₀) plan result sourceVersion = .ok p)
    (faults : List Fault) :
    commit store raw id plan result sourceVersion fs₀ faults =
      transact plan.series id (p.artifacts plan.series fs₀) fs₀ faults := by
  unfold commit
  rw [Process.read_bind_apply]
  simp only [hplan, ofExcept]
  rfl

/-- A crash while a journal is being written leaves its temporary, whatever recovery follows. -/
theorem journalTemporary_left {n : ℕ} (T : Transaction Digest) (hopening : Opening T.artifacts n)
    {fs : DerivedFiles Digest} (hfs : Recovering T.series
      ((transact T.series T.id T.artifacts T.before (crashAfter n)).final T.before) fs) :
    (recoverDerivedDataset T.series fs []).outcome = .returned () ∧
      ¬ NothingLeft T.series T.id ((recoverDerivedDataset T.series fs []).final fs) := by
  rcases (transact_cut T n).cases with ⟨-, j, hfinal, hj⟩ | ⟨-, -, hj⟩
  · have hphase : BeforeCommit T j fs := hfs.keeps recoverDerivedDataset_before hfinal
    obtain ⟨hreturned, hends⟩ := recovery_ends (fun A => recoverDerivedDataset_before) hphase
    exact ⟨hreturned, fun hleft => hj.mpr hopening
      ((hends [] (by simp) hreturned).nothingLeft_iff.mp hleft)⟩
  · exact absurd hopening hj

/-- **Crash atomicity of a derived dataset.** Whatever operation of a commit a crash follows and
however often the recovery crashes in turn, a recovery completes unless it crashes, and once it
completes every file of the dataset is as before, or as intended if the journal had become
COMMITTED, and the manifest still matches; nothing of the transaction is left exactly unless the
crash fell while a journal was being written. -/
theorem recoverDerivedDataset_atomic_iff [DecidableEq Digest] (store : Storage Bytes Digest)
    (ctx : DecimalContext) (raw : RawDataset Bytes) {id : String} {plan : ResamplingPlan}
    {result : ResamplingResult Digest} {sourceVersion : String} {p : CommitPlan Digest}
    {fs₀ : DerivedFiles Digest} (hready : Ready plan.series id fs₀) (haligned : plan.Aligned)
    (hbuild : store.buildResult ctx raw plan = .ok result)
    (hplan : planCommit store (datasetOf raw plan.series fs₀) plan result sourceVersion = .ok p)
    (n : ℕ) :
    let cut := commit store raw id plan result sourceVersion fs₀ (crashAfter n)
    ∀ fs, Recovering plan.series (cut.final fs₀) fs →
      (((recoverDerivedDataset plan.series fs []).outcome = .returned () ∧
        ∀ faults, (∀ f ∈ faults, Crashing f) →
          (recoverDerivedDataset plan.series fs faults).outcome = .returned () →
            Atomic plan.series p (JournalCommitted id cut) fs₀
                ((recoverDerivedDataset plan.series fs faults).final fs) ∧
              NothingLeft plan.series id
                ((recoverDerivedDataset plan.series fs faults).final fs)) ↔
        ¬ Opening (p.artifacts plan.series fs₀) n) := by
  intro cut fs hfs
  have hvalid := planCommit_valid hplan
  let T := transactionOf hready hvalid
  have hrun : cut = transact T.series T.id T.artifacts T.before (crashAfter n) :=
    commit_eq_transact hplan _
  have hresult : ∀ c ∈ result.candles, plan.dataRange.contains c.openTime = true :=
    fun c hc => ((buildResult_window haligned hbuild).2.1.each c hc).1
  rcases (transact_cut T n).cases with ⟨huncommitted, j, hfinal, hj⟩ | ⟨⟨t, ht, hfinish⟩, hfinal, hj⟩
  · -- The journal never became COMMITTED.
    rw [← hrun] at huncommitted hfinal
    have hnot : ¬ JournalCommitted id cut := by
      rintro ⟨t, ht, record, hread, hstate⟩
      obtain ⟨i, hi⟩ := huncommitted t ht
      exact hi.not_committed hread hstate
    have hphase : BeforeCommit T j fs := hfs.keeps recoverDerivedDataset_before hfinal
    obtain ⟨hreturned, hends⟩ := recovery_ends (fun A => recoverDerivedDataset_before) hphase
    constructor
    · rintro ⟨-, hall⟩ hopening
      rw [hrun] at hfs
      exact (journalTemporary_left T hopening hfs).2 (hall [] (by simp) hreturned).2
    · intro hclosed
      refine ⟨hreturned, fun faults hfaults hout => ?_⟩
      have hsettled := hends faults hfaults hout
      have hnone : j = none := by
        by_contra hne
        exact hclosed (hj.mp hne)
      exact ⟨⟨fun _ => hsettled.read_original, fun h => absurd h hnot,
        fun h => h.congr hsettled.read_original⟩, hsettled.nothingLeft_iff.mpr hnone⟩
  · -- The journal became COMMITTED.
    rw [← hrun] at ht hfinal
    have hcommitted : JournalCommitted id cut := ⟨t, ht, _, hfinish.journal, rfl⟩
    have hphase : AfterCommit T fs := hfs.keeps recoverDerivedDataset_after hfinal
    obtain ⟨hreturned, hends⟩ := recovery_ends (fun A => recoverDerivedDataset_after) hphase
    refine iff_of_true ⟨hreturned, fun faults hfaults hout => ?_⟩ hj
    have hsettled := hends faults hfaults hout
    have hread : ∀ t, ((recoverDerivedDataset plan.series fs faults).final fs).read
        (.target plan.series t) = p.file plan.series fs₀ t := fun t =>
      (hsettled.read_intended t).trans (transactionOf_intended hready hvalid t)
    exact ⟨⟨fun h => absurd hcommitted h, fun _ => hread, hvalid.manifestMatches hresult hread⟩,
      hsettled.nothingLeft_iff.mpr rfl⟩

end

/-! ### The dataset after a commit -/

theorem mem_partitionFiles {series : DerivedSeries} {fs : DerivedFiles Digest} {month : ℤ}
    {rows : List Candle} : (month, rows) ∈ partitionFiles series fs ↔
      fs.read (.target series (.partition month)) = some (.candles rows) := by
  unfold partitionFiles
  rw [List.mem_filterMap]
  constructor
  · rintro ⟨n, -, hn⟩
    split at hn
    · split at hn
      · next hseries =>
        subst hseries
        split at hn
        · next hread =>
          cases hn
          exact hread
        · cases hn
      · cases hn
    · cases hn
  · intro hread
    have hmem : .target series (.partition month) ∈ fs.names := by
      rw [mem_names, Ne, ← read_eq_none, hread]
      simp
    exact ⟨_, hmem, by simp [hread]⟩

theorem nodup_filterMap_of_inverse {α β : Type} {f : α → Option β} (g : β → α) {l : List α}
    (hl : l.Nodup) (h : ∀ a, ∀ b ∈ f a, a = g b) : (l.filterMap f).Nodup :=
  hl.filterMap fun a a' b ha ha' => (h a b ha).trans (h a' b ha').symm

theorem partitionFiles_nodup (series : DerivedSeries) (fs : DerivedFiles Digest) :
    ((partitionFiles series fs).map (·.1)).Nodup := by
  unfold partitionFiles
  rw [List.map_filterMap]
  -- The month determines the name.
  refine nodup_filterMap_of_inverse (fun month => .target series (.partition month)) fs.nodup
    fun n month hn => ?_
  obtain ⟨q, hq, rfl⟩ := Option.mem_map.mp hn
  rw [Option.mem_def] at hq
  split at hq
  · split at hq
    · next hseries =>
      split at hq
      · cases hq
        rw [hseries]
      · cases hq
    · cases hq
  · cases hq

/-- A month's file in the dataset is what its name reads as. -/
theorem file_partitionFiles (series : DerivedSeries) (fs : DerivedFiles Digest) (month : ℤ)
    (rows : List Candle) : (partitionFiles series fs).file month = some rows ↔
      fs.read (.target series (.partition month)) = some (.candles rows) := by
  rw [PartitionFiles.file_eq_some (partitionFiles_nodup series fs), mem_partitionFiles]

/-- **The protocol refines the atomic commit**: where the journal became COMMITTED, the recovered
dataset is the one the atomic commit leaves. -/
theorem Atomic.committed [DecidableEq Digest] {store : Storage Bytes Digest}
    {raw : RawDataset Bytes} {plan : ResamplingPlan} {result : ResamplingResult Digest}
    {sourceVersion : String} {p : CommitPlan Digest} {st' : DerivedState Bytes Digest}
    {committed : Prop} {fs₀ fs : DerivedFiles Digest}
    (hplan : planCommit store (datasetOf raw plan.series fs₀) plan result sourceVersion = .ok p)
    (hcommit : store.commit (datasetOf raw plan.series fs₀) plan result sourceVersion = .ok st')
    (h : Atomic plan.series p committed fs₀ fs) (hcommitted : committed) :
    manifestOf plan.series fs = st'.manifest ∧
      ∀ month, (partitionFiles plan.series fs).file month = st'.partitions.file month := by
  have hvalid := planCommit_valid hplan
  have hread := h.intended hcommitted
  rw [commit_eq_planCommit, hplan, ok_bind, bind_eq_ok] at hcommit
  obtain ⟨-, -, happly⟩ := hcommit
  cases happly
  refine ⟨?_, fun month => ?_⟩
  · rw [manifestOf, hread .manifest]
    rfl
  · have hnodup : ((p.apply (datasetOf raw plan.series fs₀)).partitions.map (·.1)).Nodup := by
      simp only [CommitPlan.apply, List.map_append]
      refine List.nodup_append.mpr ⟨?_, hvalid.nodup.sublist (List.filter_sublist.map _), ?_⟩
      · exact (partitionFiles_nodup _ _).sublist (List.filter_sublist.map _)
      · rintro m hm m' hm' rfl
        obtain ⟨q, hq, rfl⟩ := List.mem_map.mp hm
        obtain ⟨q', hq', heq⟩ := List.mem_map.mp hm'
        have hout := (List.mem_filter.mp hq).2
        simp only [decide_eq_true_eq] at hout
        exact hout (List.mem_map.mpr ⟨q', List.mem_of_mem_filter hq', heq⟩)
    refine Option.ext fun rows => ?_
    rw [file_partitionFiles, hread,
      PartitionFiles.file_eq_some hnodup]
    simp only [CommitPlan.apply, List.mem_append, List.mem_filter, decide_eq_true_eq]
    change _ ↔ (month, rows) ∈ partitionFiles plan.series fs₀ ∧ _ ∨ _
    rw [mem_partitionFiles]
    cases hfound : p.partitions.find? fun q => q.1 == month with
    | some q =>
      have hq := List.mem_of_find?_eq_some hfound
      have hmonth : q.1 = month := by simpa using List.find?_some hfound
      have hmem : month ∈ p.partitions.map (·.1) := List.mem_map.mpr ⟨q, hq, hmonth⟩
      have hfile : p.file plan.series fs₀ (.partition month) = (partitionPayload q.2).content := by
        simp only [CommitPlan.file, hfound]
      have hrows : (month, rows) ∈ p.partitions ↔ rows = q.2 := by
        constructor
        · intro hmem
          exact congrArg Prod.snd (List.inj_on_of_nodup_map hvalid.nodup hmem hq hmonth.symm)
        · rintro rfl
          rw [← hmonth]
          exact hq
      rw [hfile, hrows, partitionPayload]
      cases hempty : q.2 with
      | nil => simp [Payload.content, hmem]
      | cons c tail =>
        simp only [List.isEmpty_cons, Bool.false_eq_true, if_false, Payload.content,
          Option.some.injEq, DerivedContent.candles.injEq, hmem, not_true_eq_false, and_false,
          false_or]
        constructor
        · rintro rfl
          exact ⟨rfl, rfl⟩
        · exact fun h => h.1.symm
    | none =>
      have hnone : month ∉ p.partitions.map (·.1) := by
        intro hmem
        obtain ⟨q, hq, hmonth⟩ := List.mem_map.mp hmem
        simpa [hmonth] using List.find?_eq_none.mp hfound q hq
      have hfile : p.file plan.series fs₀ (.partition month) =
          fs₀.read (.target plan.series (.partition month)) := by
        simp only [CommitPlan.file, hfound]
      have hrows : (month, rows) ∉ p.partitions := fun hmem =>
        hnone (List.mem_map_of_mem (f := fun q => q.1) hmem)
      simp only [hfile, hnone, hrows, not_false_eq_true, and_true, false_and, or_false]

/-! ### The first commit of a dataset -/

/-- An identifier `uuid4().hex` may return. -/
def sampleId : String := "0123456789abcdef0123456789abcdef"

/-- The first day of derived candles, planned on an empty dataset. -/
def firstCommit : Except Failure (ResamplingPlan × ResamplingResult (List Candle) ×
    CommitPlan (List Candle)) := do
  let plan ← planDays 1 Nat.one_pos
  let result ← plainStorage.buildResult .exact twoDays plan
  let p ← planCommit plainStorage (datasetOf twoDays fourHourDays FileSystem.empty) plan result "v1"
  return (plan, result, p)

/-- One partition and the manifest are to be written, in six operations. -/
theorem firstCommit_eq_ok : ∃ plan result p, planDays 1 (by decide) = .ok plan ∧
    plainStorage.buildResult .exact twoDays plan = .ok result ∧
    planCommit plainStorage (datasetOf twoDays fourHourDays FileSystem.empty) plan result "v1" =
      .ok p ∧
    (operations (p.artifacts fourHourDays FileSystem.empty) = 6 ∧
      Convertible (p.artifacts fourHourDays FileSystem.empty)) := by
  have hrun : (firstCommit.toOption.map fun c =>
      (operations (c.2.2.artifacts fourHourDays FileSystem.empty),
        (c.2.2.artifacts fourHourDays FileSystem.empty).all fun a => a.payload.validate.isOk)) =
          some (6, true) := by
    decide +kernel
  cases hp : firstCommit with
  | error e =>
    rw [hp] at hrun
    cases hrun
  | ok c =>
    rw [hp] at hrun
    obtain ⟨hoperations, hconvertible⟩ := Prod.mk.inj (Option.some.inj hrun)
    simp only [firstCommit, bind_eq_ok, pure, Except.pure, Except.ok.injEq] at hp
    obtain ⟨plan, hplan, result, hresult, p, hcommit, rfl⟩ := hp
    refine ⟨plan, result, p, hplan, hresult, hcommit, hoperations, fun a ha => ?_⟩
    have hok := List.all_eq_true.mp hconvertible a ha
    cases hvalid : a.payload.validate with
    | ok u => rfl
    | error e =>
      rw [hvalid] at hok
      cases hok

theorem ready_empty : Ready fourHourDays sampleId (FileSystem.empty : DerivedFiles (List Candle)) where
  hex := by decide
  fresh _ := ⟨rfl, rfl⟩
  unjournaled := ⟨rfl, rfl⟩
  others _ h := absurd rfl h

/-- The first commit, cut when everything is promoted and the second journal is not yet begun. -/
theorem recoverDerivedDataset_atomic_iff_first : ∃ plan result p,
    planDays 1 (by decide) = .ok plan ∧
    plainStorage.buildResult .exact twoDays plan = .ok result ∧
    let cut := commit plainStorage twoDays sampleId plan result "v1" FileSystem.empty (crashAfter 9)
    let fs := cut.final FileSystem.empty
    (recoverDerivedDataset plan.series fs []).outcome = .returned () ∧
      Atomic plan.series p (JournalCommitted sampleId cut) FileSystem.empty
        ((recoverDerivedDataset plan.series fs []).final fs) ∧
      NothingLeft plan.series sampleId ((recoverDerivedDataset plan.series fs []).final fs) := by
  obtain ⟨plan, result, p, hplan, hresult, hcommit, hoperations, -⟩ := firstCommit_eq_ok
  obtain ⟨haligned, hseries⟩ := planResampling_aligned hplan
  refine ⟨plan, result, p, hplan, hresult, ?_⟩
  have hclosed : ¬ Opening (p.artifacts plan.series FileSystem.empty) 9 := by
    rw [hseries, Opening, hoperations]
    omega
  obtain ⟨hreturned, hall⟩ := (recoverDerivedDataset_atomic_iff plainStorage .exact twoDays
    (hseries ▸ ready_empty) haligned hresult (hseries ▸ hcommit) 9 _ .start).mpr hclosed
  exact ⟨hreturned, hall [] (by simp) hreturned⟩

/-- **A crash while the second journal is being written** leaves its temporary: the recovery
completes, and something of the transaction is left. -/
theorem crash_leaves_journalTemporary : ∃ plan result,
    planDays 1 (by decide) = .ok plan ∧
    plainStorage.buildResult .exact twoDays plan = .ok result ∧
    let cut := commit plainStorage twoDays sampleId plan result "v1" FileSystem.empty (crashAfter 10)
    let fs := cut.final FileSystem.empty
    (recoverDerivedDataset plan.series fs []).outcome = .returned () ∧
      ¬ NothingLeft plan.series sampleId ((recoverDerivedDataset plan.series fs []).final fs) := by
  obtain ⟨plan, result, p, hplan, hresult, hcommit, hoperations, hconvertible⟩ := firstCommit_eq_ok
  obtain ⟨haligned, hseries⟩ := planResampling_aligned hplan
  have hcommit' : planCommit plainStorage (datasetOf twoDays plan.series FileSystem.empty) plan
      result "v1" = .ok p := hseries ▸ hcommit
  have hready : Ready plan.series sampleId (FileSystem.empty : DerivedFiles (List Candle)) :=
    hseries ▸ ready_empty
  have hopening : Opening (p.artifacts plan.series FileSystem.empty) 10 := by
    rw [hseries]
    exact .inr (.inr ⟨hconvertible, .inl (by rw [hoperations])⟩)
  refine ⟨plan, result, hplan, hresult, ?_⟩
  intro cut fs
  have hrun : cut = transact plan.series sampleId (p.artifacts plan.series FileSystem.empty)
      FileSystem.empty (crashAfter 10) := commit_eq_transact hcommit' _
  have hfs : Recovering plan.series ((transact plan.series sampleId
      (p.artifacts plan.series FileSystem.empty) FileSystem.empty (crashAfter 10)).final
        FileSystem.empty) fs := by
    rw [← hrun]
    exact .start
  exact journalTemporary_left (transactionOf hready (planCommit_valid hcommit')) hopening hfs

end DerivedTransaction
end MarketData
end DryTrade
