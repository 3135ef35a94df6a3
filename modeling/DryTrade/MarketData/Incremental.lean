import DryTrade.MarketData.Rebuild

/-!
# Incremental and full materialization

A run mixes changes of the RAW dataset with materializations of one derived series.
Along it every window is labelled with the RAW dataset it was last rebuilt from, and
the derived candle of the window is always what that dataset gives for it.

An incremental call rebuilds the months from the first to the last that changed
since their checksums were recorded.  A recorded checksum covers a whole month and
is refreshed by a call that rebuilt only a part of it, so a window outside the
rebuilt span may be older than the checksum of its month, or may never have been
built.  The call leaves what a full materialization would leave exactly when no
window outside the span is outdated.

## Main definitions

* `Storage.rebuiltRange` — the part of the range an incremental call rebuilds.
* `Storage.Reached` — the datasets of a run, with the source of every window.
* `Storage.UpToDateOutside` — no window outside the rebuilt part is outdated.
* `Storage.MatchesFull` — the call left what a full materialization leaves.

## Main results

* `Reached.fromSources` — every derived candle comes from the source of its window.
* `materializeIncremental_matches_iff` — when an incremental call matches a full one.
* `incremental_noop_misses_days` — after a plan for a part of a month, it does not.
-/

namespace DryTrade
namespace MarketData

open Storage

variable {Bytes Digest : Type}

/-! ### One rebuild -/

/-- The derived candles after a rebuild of the range: the windows' in it, the old ones outside. -/
structure RebuiltFrom (store : Storage Bytes Digest) (ctx : DecimalContext) (d : DerivedSeries)
    (st st' : DerivedState Bytes Digest) (r : DataRange) : Prop where
  valid : store.StoreValid d st'
  raw : st'.raw = st.raw
  readable : ∀ m ∈ st.raw.partitionPaths r, store.Readable d st.raw m
  inside : ∀ w, d.target.duration ∣ w → r.contains w = true →
    store.window ctx d (d.target.duration / d.source.duration) st.raw w = .ok (st'.derivedAt w)
  unaligned : ∀ t, ¬ d.target.duration ∣ t → r.contains t = true → st'.derivedAt t = none
  outside : ∀ t, r.contains t = false → st'.derivedAt t = st.derivedAt t

theorem groupSize_eq {source target : Timeframe} {groupSize : ℤ}
    (h : validateTimeframes source target = .ok groupSize) :
    groupSize = target.duration / source.duration := by
  simp only [validateTimeframes, validatePair, bind_eq_ok, pure, Except.pure, Except.ok.injEq,
    FailureKind.unless_eq_ok, exists_const] at h
  obtain ⟨-, -, -, -, -, rfl⟩ := h
  rfl

/-- A plan is made of whole windows. -/
theorem planResampling_aligned {maxSource maxGroups : ℤ} {d : DerivedSeries} {r : DataRange}
    {metadata : Option RawMetadata} {plan : ResamplingPlan}
    (h : planResampling maxSource maxGroups d r metadata = .ok plan) :
    plan.Aligned ∧ plan.series = d := by
  obtain ⟨halign, -, -⟩ := d.target_spec
  simp only [planResampling, bind_eq_ok, FailureKind.unless_eq_ok, exists_const] at h
  obtain ⟨groupSize, hsize, hranges, -, h⟩ := h
  cases metadata with
  | none => simp at h
  | some metadata =>
    cases h
    simp only [Timeframe.validateOpenTime, Bool.and_eq_true, beq_iff_eq, halign, sub_zero] at hranges
    exact ⟨⟨Int.dvd_of_emod_eq_zero hranges.1.2, Int.dvd_of_emod_eq_zero hranges.2, hsize⟩, rfl⟩

variable {store : Storage Bytes Digest} {ctx : DecimalContext} {d : DerivedSeries}
  {st st' : DerivedState Bytes Digest} {plan : ResamplingPlan}

/-- A recorded RAW summary comes from a file that was read. -/
theorem sourcePartitionSummary_eq_ok {raw : RawDataset Bytes} {month : ℤ}
    {s : PartitionSummary Digest} (h : store.sourcePartitionSummary d raw month = .ok s) :
    store.Known d s := by
  unfold sourcePartitionSummary at h
  cases hfile : raw.files month with
  | none =>
    rw [hfile] at h
    simp at h
  | some bytes =>
    rw [hfile] at h
    simp only [bind_eq_ok, pure, Except.pure, Except.ok.injEq] at h
    obtain ⟨rows, hrows, rfl⟩ := h
    rw [Storage.readPartition, hfile, bind_eq_ok] at hrows
    obtain ⟨candles, hdecode, hread⟩ := hrows
    exact ⟨bytes, candles, rfl, hdecode, (readRows_eq_ok.mp hread).2⟩

theorem exists_sourcePartitionSummary {raw : RawDataset Bytes} {month : ℤ}
    (hread : store.Readable d raw month) (hfile : (raw.files month).isSome = true) :
    ∃ s, store.sourcePartitionSummary d raw month = .ok s := by
  obtain ⟨rows, hrows⟩ := hread
  obtain ⟨bytes, hbytes⟩ := Option.isSome_iff_exists.mp hfile
  unfold sourcePartitionSummary
  rw [hbytes]
  dsimp only
  rw [hrows, ok_bind]
  exact ⟨_, rfl⟩

/-- Building and committing a range rebuilds it. -/
theorem rebuiltFrom_of_commit (hst : store.StoreValid plan.series st) (hal : plan.Aligned)
    {result : ResamplingResult Digest} {sourceVersion : String}
    (hbuild : store.buildResult ctx st.raw plan = .ok result)
    (hcommit : store.commit st plan result sourceVersion = .ok st') :
    RebuiltFrom store ctx plan.series st st' plan.dataRange := by
  obtain ⟨hwindow, hresult, hdvd⟩ := buildResult_window hal hbuild
  rw [groupSize_eq hal.groupSize] at hwindow
  obtain ⟨hser, source, hsource, rfl⟩ := (commit_eq_ok hst).mp hcommit
  have hknown : ∀ s ∈ source, store.Known plan.series s := by
    intro s hs
    obtain ⟨month, -, hmonth⟩ := mem_of_mapM hsource hs
    exact sourcePartitionSummary_eq_ok hmonth
  refine ⟨committed_valid hst hresult hser hknown, rfl, fun m hm => ?_, fun w hw hin => ?_,
    fun t ht hin => ?_, fun t hout => ?_⟩
  · rw [buildResult, bind_eq_ok] at hbuild
    obtain ⟨rows, hrows, -⟩ := hbuild
    simp only [rawRows, bind_eq_ok] at hrows
    obtain ⟨partitions, hpartitions, -⟩ := hrows
    obtain ⟨monthRows, -, hmonth⟩ := forall_of_mapM hpartitions m hm
    exact ⟨monthRows, hmonth⟩
  · rw [committed_derivedAt hst hresult, if_pos hin]
    exact hwindow w hw hin
  · rw [committed_derivedAt hst hresult, if_pos hin, candleAt_eq_none]
    rintro c hc rfl
    exact ht (hdvd c hc)
  · rw [committed_derivedAt hst hresult, if_neg (by simp [hout])]

/-- A full materialization that returns rebuilds its range. -/
theorem materialize_rebuilds (hst : store.StoreValid plan.series st) (hal : plan.Aligned)
    {r : ResamplingResult Digest} (h : store.materializeLocked ctx st plan false = (.ok r, st')) :
    RebuiltFrom store ctx plan.series st st' plan.dataRange := by
  unfold materializeLocked transact at h
  split at h
  · rename_i result st₁ hdo
    cases h
    simp only [bind_eq_ok, pure, Except.pure, Except.ok.injEq, Bool.false_eq_true, if_false,
      Prod.mk.injEq] at hdo
    obtain ⟨-, -, result, hbuild, st₂, hcommit, rfl, rfl⟩ := hdo
    exact rebuiltFrom_of_commit hst hal hbuild hcommit
  · cases h

/-- **A full materialization returns** when the RAW partitions can be read, no window is refused
and what the windows give can be stored. -/
theorem exists_materialize (hst : store.StoreValid plan.series st) (hal : plan.Aligned)
    (hversion : (st.raw.metadata.any fun m => m.version == plan.sourceDatasetVersion) = true)
    (hread : ∀ m ∈ st.raw.partitionPaths plan.dataRange, store.Readable plan.series st.raw m)
    (hwindow : ∀ w, plan.series.target.duration ∣ w → plan.dataRange.contains w = true →
      ∃ v, store.window ctx plan.series plan.groupSize st.raw w = .ok v ∧
        ∀ c ∈ v, validateCandleSerialization c true = .ok ()) :
    ∃ r full, store.materialize ctx st plan false = (.ok r, full) := by
  obtain ⟨result, hbuild⟩ := exists_buildResult hal hread fun w hw hin =>
    (hwindow w hw hin).imp fun _ h => h.1
  obtain ⟨hvalues, hresult, hdvd⟩ := buildResult_window hal hbuild
  have hser : ∀ c ∈ result.candles, validateCandleSerialization c true = .ok () := by
    intro c hc
    have hin := (hresult.each c hc).1
    obtain ⟨v, hv, hv'⟩ := hwindow c.openTime (hdvd c hc) hin
    rw [hvalues c.openTime (hdvd c hc) hin] at hv
    cases hv
    exact hv' c ((candleAt_eq_some hresult.distinct).mpr ⟨hc, rfl⟩)
  obtain ⟨source, hsource⟩ := mapM_of_forall
    (l := st.raw.partitionPaths plan.dataRange)
    (f := store.sourcePartitionSummary plan.series st.raw) fun m hm =>
      exists_sourcePartitionSummary (hread m hm) (mem_partitionPaths.mp hm).2
  have hcommit : store.commit st plan result plan.sourceDatasetVersion =
      .ok (store.committed st plan result.candles plan.sourceDatasetVersion source) :=
    (commit_eq_ok hst).mpr ⟨fun month _ c hc => by
      rcases (mem_mergedRows hst hresult).mp hc with ⟨hc, -⟩ | ⟨-, hc, -⟩
      · exact hser c hc
      · exact ((hst.rowsAt month).each c hc).2.1, source, hsource, rfl⟩
  refine ⟨result, store.committed st plan result.candles plan.sourceDatasetVersion source, ?_⟩
  unfold materialize materializeLocked requireVersion
  rw [hversion, hbuild]
  simp only [FailureKind.unless, if_true, ok_bind, Bool.false_eq_true, if_false, hcommit]
  rfl

/-! ### One incremental call -/

/-- The two states differ at most in the state recorded in the manifest. -/
structure Marked (st st' : DerivedState Bytes Digest) : Prop where
  raw : st'.raw = st.raw
  partitions : st'.partitions = st.partitions
  manifest : st'.manifest = st.manifest ∨ ∃ m state, st.manifest = some m ∧
    st'.manifest = some { m with state := state }

theorem Marked.refl (st : DerivedState Bytes Digest) : Marked st st := ⟨rfl, rfl, .inl rfl⟩

theorem Marked.derivedAt (h : Marked st st') (t : Instant) : st'.derivedAt t = st.derivedAt t := by
  unfold DerivedState.derivedAt
  rw [h.partitions]

/-- Marking a manifest leaves the dataset well formed. -/
theorem Marked.valid (h : Marked st st') (hst : store.StoreValid d st) :
    store.StoreValid d st' := by
  have hmanifest : ∀ m' ∈ st'.manifest, ∃ m ∈ st.manifest, m'.series = m.series ∧
      m'.partitions = m.partitions ∧ m'.sourcePartitions = m.sourcePartitions := by
    intro m' hm'
    rcases h.manifest with heq | ⟨m, state, hm, heq⟩
    · exact ⟨m', heq ▸ hm', rfl, rfl, rfl⟩
    · rw [heq] at hm'
      cases hm'
      exact ⟨m, hm, rfl, rfl, rfl⟩
  refine ⟨h.partitions ▸ hst.nodup, h.partitions ▸ hst.rows, fun hnone => ?_, fun m' hm' => ?_,
    fun m' hm' => ?_, fun m' hm' => ?_⟩
  · rw [h.partitions]
    refine hst.unlisted ?_
    rcases h.manifest with heq | ⟨m, state, -, heq⟩
    · exact heq ▸ hnone
    · rw [heq] at hnone
      cases hnone
  · obtain ⟨m, hm, hseries, -, -⟩ := hmanifest m' hm'
    exact hseries.trans (hst.series m hm)
  · obtain ⟨m, hm, -, hpartitions, -⟩ := hmanifest m' hm'
    rw [h.partitions, hpartitions]
    exact hst.listed m hm
  · obtain ⟨m, hm, -, -, hsource⟩ := hmanifest m' hm'
    rw [hsource]
    exact hst.known m hm

/-- A rebuild of a marked dataset is one of the dataset. -/
theorem RebuiltFrom.of_marked {st₁ : DerivedState Bytes Digest} {r : DataRange}
    (h : RebuiltFrom store ctx d st₁ st' r) (hmark : Marked st st₁) :
    RebuiltFrom store ctx d st st' r where
  valid := h.valid
  raw := h.raw.trans hmark.raw
  readable := hmark.raw ▸ h.readable
  inside := hmark.raw ▸ h.inside
  unaligned := h.unaligned
  outside := fun t ht => (h.outside t ht).trans (hmark.derivedAt t)

section

variable [DecidableEq Digest]

/-- Verification only marks the manifest. -/
theorem verifyUnlocked_marked {verifySourceContent : Bool} {m : DatasetManifest Digest}
    (h : store.verifyUnlocked st plan verifySourceContent = .ok (m, st')) :
    Marked st st' ∧ ∃ m₀, st.manifest = some m₀ ∧
      m.state = (store.verdict st plan m₀ verifySourceContent).getD m₀.state := by
  unfold verifyUnlocked at h
  cases hm : st.manifest with
  | none =>
    rw [hm] at h
    simp at h
  | some m₀ =>
    rw [hm] at h
    simp only [loadManifest, bind_eq_ok, FailureKind.unless_eq_ok, exists_const, pure,
      Except.pure, Except.ok.injEq] at h
    obtain ⟨m₁, ⟨-, rfl⟩, h⟩ := h
    cases hverdict : store.verdict st plan m₀ verifySourceContent with
    | none =>
      rw [hverdict] at h
      cases h
      exact ⟨Marked.refl st, _, rfl, by rw [hverdict]; rfl⟩
    | some state =>
      rw [hverdict] at h
      cases h
      exact ⟨⟨rfl, rfl, .inr ⟨m₀, state, hm, rfl⟩⟩, m₀, rfl, by rw [hverdict]; rfl⟩

theorem mem_changedMonths {raw : RawDataset Bytes} {m : DatasetManifest Digest} {r : DataRange}
    {month : ℤ} (h : month ∈ store.changedMonths raw m r) : month ∈ monthsInRange r := by
  unfold changedMonths at h
  rcases List.mem_append.mp h with h | h
  · exact (mem_partitionPaths.mp (List.mem_filter.mp h).1).1
  · obtain ⟨s, hs, rfl⟩ := List.mem_map.mp h
    have hmeets := (List.mem_filter.mp hs).2
    simp only [PartitionSummary.intersects, Bool.and_eq_true, decide_eq_true_eq] at hmeets
    exact mem_monthsInRange.mpr hmeets.1

/-- The RAW file of an unchanged month is one that was read before. -/
theorem readable_of_unchanged {m : DatasetManifest Digest} {r : DataRange} {month : ℤ}
    (hknown : ∀ s ∈ m.sourcePartitions, store.Known d s) {raw : RawDataset Bytes}
    (hmonth : month ∈ raw.partitionPaths r) (h : month ∉ store.changedMonths raw m r) :
    store.Readable d raw month := by
  obtain ⟨bytes, hbytes⟩ := Option.isSome_iff_exists.mp (mem_partitionPaths.mp hmonth).2
  have hsame : (m.sourcePartitions.reverse.find? fun s => s.month == month).map (·.checksum) =
      some (store.fileChecksum bytes) := by
    by_contra hne
    refine h (List.mem_append.mpr (.inl (List.mem_filter.mpr ⟨hmonth, ?_⟩)))
    rw [bne_iff_ne, rawChecksum, hbytes]
    exact hne
  obtain ⟨s, hs, hchecksum⟩ := Option.map_eq_some_iff.mp hsame
  have hsmonth : s.month = month := by simpa using List.find?_some hs
  obtain ⟨bytes', candles, hsum, hdecode, hrows⟩ :=
    hknown s (List.mem_reverse.mp (List.mem_of_find?_eq_some hs))
  -- checksums do not collide, so the file that was read is the one on disk
  have heq : bytes' = bytes := store.fileChecksum_injective (hsum.trans hchecksum)
  subst heq
  refine ⟨candles, ?_⟩
  rw [Storage.readPartition, hbytes]
  dsimp only
  rw [hdecode, ok_bind]
  exact readRows_eq_ok.mpr ⟨rfl, hsmonth ▸ hrows⟩

variable (store) in
/-- The part of the range that an incremental call rebuilds: the months from the first to the
last that changed; nothing when none changed and the manifest is complete, current and passes its
checks; else the whole range. -/
def Storage.rebuiltRange (st : DerivedState Bytes Digest) (plan : ResamplingPlan) :
    Option DataRange :=
  match st.manifest with
  | none => some plan.dataRange
  | some manifest =>
    let changed := store.changedMonths st.raw manifest plan.dataRange
    match changed.min?, changed.max? with
    | some first, some last => (affectedRange plan.dataRange first last).toOption
    | _, _ =>
      if manifest.state = .complete ∧
          manifest.sourceDatasetVersion = plan.sourceDatasetVersion ∧
          (store.verdict st plan manifest false).getD manifest.state = .complete then none
      else some plan.dataRange

/-- The instant lies in the range, if there is one. -/
def containedIn (r : Option DataRange) (t : Instant) : Bool :=
  r.any fun r => r.contains t

theorem containedIn_eq_true {r : Option DataRange} {t : Instant} :
    containedIn r t = true ↔ ∃ r', r = some r' ∧ r'.contains t = true := by
  cases r <;> simp [containedIn]

/-- The affected range: within the range, whole windows, and every changed month of it. -/
theorem affectedRange_eq_ok (hal : plan.Aligned) {raw : RawDataset Bytes}
    {m : DatasetManifest Digest} {first last : ℤ}
    (hfirst : (store.changedMonths raw m plan.dataRange).min? = some first)
    (hlast : (store.changedMonths raw m plan.dataRange).max? = some last) :
    ∃ r, affectedRange plan.dataRange first last = .ok r ∧ (plan.restrictTo r).Aligned ∧
      (∀ t, r.contains t = true → plan.dataRange.contains t = true) ∧
      ∀ month ∈ store.changedMonths raw m plan.dataRange, month ∈ monthsInRange r := by
  obtain ⟨hfirst, hmin⟩ := List.min?_eq_some_iff.mp hfirst
  obtain ⟨hlast, hmax⟩ := List.max?_eq_some_iff.mp hlast
  obtain ⟨hf0, hf1⟩ := mem_monthsInRange.mp (mem_changedMonths hfirst)
  obtain ⟨hl0, hl1⟩ := mem_monthsInRange.mp (mem_changedMonths hlast)
  have hle : monthStart first < monthStart (last + 1) :=
    (monthStart_strictMono.monotone (hmin last hlast)).trans_lt (monthStart_lt_succ last)
  have hspan : max plan.dataRange.start (monthStart first) <
      min plan.dataRange.stop (monthStart (last + 1)) :=
    max_lt (lt_min plan.dataRange.start_lt_stop hl1) (lt_min hf0 hle)
  have hday : ∀ month, plan.series.target.duration ∣ monthStart month := fun month =>
    plan.series.target_spec.2.1.trans (dvd_monthStart month)
  refine ⟨⟨_, _, hspan⟩, dif_pos hspan, ⟨?_, ?_, hal.groupSize⟩, fun t ht => ?_, fun month hm => ?_⟩
  · change plan.series.target.duration ∣ max plan.dataRange.start (monthStart first)
    rcases max_choice plan.dataRange.start (monthStart first) with h | h <;> rw [h]
    · exact hal.start
    · exact hday first
  · change plan.series.target.duration ∣ min plan.dataRange.stop (monthStart (last + 1))
    rcases min_choice plan.dataRange.stop (monthStart (last + 1)) with h | h <;> rw [h]
    · exact hal.stop
    · exact hday (last + 1)
  · simp only [DataRange.contains, Bool.and_eq_true, decide_eq_true_eq] at ht ⊢
    exact ⟨(le_max_left _ _).trans ht.1, ht.2.trans_le (min_le_left _ _)⟩
  · obtain ⟨h0, h1⟩ := mem_monthsInRange.mp (mem_changedMonths hm)
    refine mem_monthsInRange.mpr ⟨lt_min h0 ?_, max_lt h1 ?_⟩
    · exact monthStart_strictMono (Int.lt_add_one_iff.mpr (hmax month hm))
    · exact monthStart_strictMono (Int.lt_add_one_iff.mpr (hmin month hm))

/-- What an incremental call that returns has done. -/
structure IncrementalStep (store : Storage Bytes Digest) (ctx : DecimalContext)
    (plan : ResamplingPlan) (st st' : DerivedState Bytes Digest) (rr : Option DataRange) :
    Prop where
  version : (st.raw.metadata.any fun m => m.version == plan.sourceDatasetVersion) = true
  rebuilt : ∀ r ∈ rr, RebuiltFrom store ctx plan.series st st' r
  kept : rr = none → Marked st st'
  within : ∀ t, containedIn rr t = true → plan.dataRange.contains t = true
  readable : ∀ m ∈ st.raw.partitionPaths plan.dataRange, store.Readable plan.series st.raw m

/-- **An incremental call that returns** rebuilt its part of the range, and nothing else. -/
theorem materializeIncremental_eq_ok (hst : store.StoreValid plan.series st) (hal : plan.Aligned)
    {r : ResamplingResult Digest}
    (h : store.materializeIncremental ctx st plan = (.ok r, st')) :
    IncrementalStep store ctx plan st st' (store.rebuiltRange st plan) := by
  have hversion : (st.raw.metadata.any fun m => m.version == plan.sourceDatasetVersion) = true := by
    unfold materializeIncremental at h
    split at h
    · cases h
    · rename_i u hu
      unfold requireVersion at hu
      exact FailureKind.unless_eq_ok.mp hu
  have hinc : store.materializeIncrementalLocked ctx st plan plan.sourceDatasetVersion =
      (.ok r, st') := by
    unfold materializeIncremental at h
    split at h
    · cases h
    · exact h
  -- a full rebuild, possibly of the marked dataset
  have hfull : ∀ st₁, Marked st st₁ →
      store.materializeLocked ctx st₁ plan false = (.ok r, st') →
        IncrementalStep store ctx plan st st' (some plan.dataRange) := by
    intro st₁ hmark hrun
    have hrebuilt := (materialize_rebuilds (hmark.valid hst) hal hrun).of_marked hmark
    refine ⟨hversion, ?_, ?_, fun t ht => ht, hrebuilt.readable⟩
    · rintro _ ⟨⟩
      exact hrebuilt
    · rintro ⟨⟩
  unfold materializeIncrementalLocked at hinc
  unfold rebuiltRange
  cases hm : st.manifest with
  | none =>
    rw [hm] at hinc
    exact hfull st (Marked.refl st) hinc
  | some manifest =>
    rw [hm] at hinc
    have hload : loadManifest plan manifest = .ok manifest := by
      simp [loadManifest, hst.series manifest hm, FailureKind.unless]
    simp only [hload] at hinc ⊢
    by_cases hempty : store.changedMonths st.raw manifest plan.dataRange = []
    · simp only [hempty, List.min?_nil, List.max?_nil] at hinc ⊢
      split at hinc
      · rename_i hcurrent
        split at hinc
        · cases hinc
        · rename_i verified st₁ hverify
          obtain ⟨hmark, m₀, hm₀, hstate⟩ := verifyUnlocked_marked hverify
          rw [hm] at hm₀
          cases hm₀
          split at hinc
          · rename_i hcomplete
            cases hinc
            rw [hstate] at hcomplete
            rw [if_pos ⟨hcurrent.1, hcurrent.2, hcomplete⟩]
            refine ⟨hversion, ?_, fun _ => hmark, ?_, fun m hmem => ?_⟩
            · rintro _ ⟨⟩
            · rintro _ ⟨⟩
            · refine readable_of_unchanged (hst.known manifest hm) hmem ?_
              rw [hempty]
              exact List.not_mem_nil
          · rename_i hcomplete
            rw [hstate] at hcomplete
            rw [if_neg fun hall => hcomplete hall.2.2]
            exact hfull st₁ hmark hinc
      · rename_i hcurrent
        rw [if_neg fun hall => hcurrent ⟨hall.1, hall.2.1⟩]
        exact hfull st (Marked.refl st) hinc
    · obtain ⟨first, hfirst⟩ := Option.isSome_iff_exists.mp (List.isSome_min?_iff.mpr hempty)
      obtain ⟨last, hlast⟩ := Option.isSome_iff_exists.mp (List.isSome_max?_iff.mpr hempty)
      obtain ⟨rr, hrr, halr, hwithin, hchanged⟩ := affectedRange_eq_ok hal hfirst hlast
      simp only [hfirst, hlast, hrr] at hinc ⊢
      unfold transact at hinc
      split at hinc
      · rename_i result st₁ hdo
        cases hinc
        simp only [ok_bind, bind_eq_ok, pure, Except.pure, Except.ok.injEq, Prod.mk.injEq] at hdo
        obtain ⟨result, hbuild, -, -, st₂, hcommit, rfl, rfl⟩ := hdo
        have hvalid : store.StoreValid (plan.restrictTo rr).series st := hst
        have hrebuilt := rebuiltFrom_of_commit hvalid halr hbuild hcommit
        refine ⟨hversion, ?_, ?_, hwithin, fun m hmem => ?_⟩
        · rintro _ ⟨⟩
          exact hrebuilt
        · rintro ⟨⟩
        · by_cases hin : m ∈ store.changedMonths st.raw manifest plan.dataRange
          · exact hrebuilt.readable m
              (mem_partitionPaths.mpr ⟨hchanged m hin, (mem_partitionPaths.mp hmem).2⟩)
          · exact readable_of_unchanged (hst.known manifest hm) hmem hin
      · cases hinc

omit [DecidableEq Digest] in
/-- A full materialization that raises changes nothing, and neither does a dry run. -/
theorem materialize_unchanged {dryRun : Bool} {out : Except Failure (ResamplingResult Digest)}
    (h : store.materialize ctx st plan dryRun = (out, st'))
    (hkeep : dryRun = true ∨ ∃ e, out = .error e) : st' = st := by
  unfold materialize materializeLocked transact at h
  split at h
  · rename_i result st₁ hdo
    cases h
    rcases hkeep with rfl | ⟨e, he⟩
    · simp only [bind_eq_ok, pure, Except.pure, Except.ok.injEq, if_true, Prod.mk.injEq] at hdo
      obtain ⟨-, -, -, -, -, rfl⟩ := hdo
      rfl
    · cases he
  · cases h
    rfl

/-- An incremental call that raises leaves at most a mark in the manifest. -/
theorem materializeIncremental_error {e : Failure}
    (h : store.materializeIncremental ctx st plan = (.error e, st')) : Marked st st' := by
  have hfull : ∀ st₁, Marked st st₁ →
      store.materializeLocked ctx st₁ plan false = (.error e, st') → Marked st st' := by
    intro st₁ hmark hrun
    rw [materialize_unchanged hrun (.inr ⟨e, rfl⟩)]
    exact hmark
  unfold materializeIncremental at h
  split at h
  · cases h
    exact Marked.refl st
  · unfold materializeIncrementalLocked at h
    split at h
    · exact hfull st (Marked.refl st) h
    · split at h
      · cases h
        exact Marked.refl st
      · dsimp only at h
        split at h
        · unfold transact at h
          split at h
          · cases h
          · cases h
            exact Marked.refl st
        · split at h
          · split at h
            · cases h
              exact Marked.refl st
            · rename_i hverify
              have hmark := (verifyUnlocked_marked hverify).1
              split at h
              · cases h
              · exact hfull _ hmark h
          · exact hfull st (Marked.refl st) h

/-- `verify` leaves at most a mark in the manifest. -/
theorem verify_marked {out : Except Failure DatasetState}
    (h : store.verify st plan = (out, st')) : Marked st st' := by
  unfold verify at h
  split at h
  · cases h
    exact Marked.refl st
  · rename_i hverify
    cases h
    exact (verifyUnlocked_marked hverify).1

/-! ### Runs -/

/-- For every window, the RAW dataset it was last rebuilt from. -/
abbrev Sources (Bytes : Type) := ℤ → Option (RawDataset Bytes)

/-- The windows of the rebuilt range now come from `raw`. -/
def Sources.record (src : Sources Bytes) (raw : RawDataset Bytes) (rebuilt : Option DataRange) :
    Sources Bytes :=
  fun w => if containedIn rebuilt w then some raw else src w

/-- **The runs** of one derived series: any changes of the RAW dataset, and any calls with plans
made at any time, whether they return or raise. -/
inductive Storage.Reached (store : Storage Bytes Digest) (ctx : DecimalContext)
    (d : DerivedSeries) : DerivedState Bytes Digest → Sources Bytes → Prop
  | initial (raw : RawDataset Bytes) : Reached store ctx d ⟨raw, [], none⟩ fun _ => none
  | rawChanged {st : DerivedState Bytes Digest} {src : Sources Bytes} (raw : RawDataset Bytes)
      (h : Reached store ctx d st src) : Reached store ctx d { st with raw := raw } src
  | materialized {st st' : DerivedState Bytes Digest} {src : Sources Bytes} {maxSource maxGroups : ℤ}
      {r : DataRange} {metadata : Option RawMetadata} {plan : ResamplingPlan}
      {result : ResamplingResult Digest} (h : Reached store ctx d st src)
      (hplan : planResampling maxSource maxGroups d r metadata = .ok plan)
      (hrun : store.materialize ctx st plan false = (.ok result, st')) :
      Reached store ctx d st' (src.record st.raw (some plan.dataRange))
  | incremental {st st' : DerivedState Bytes Digest} {src : Sources Bytes} {maxSource maxGroups : ℤ}
      {r : DataRange} {metadata : Option RawMetadata} {plan : ResamplingPlan}
      {result : ResamplingResult Digest} (h : Reached store ctx d st src)
      (hplan : planResampling maxSource maxGroups d r metadata = .ok plan)
      (hrun : store.materializeIncremental ctx st plan = (.ok result, st')) :
      Reached store ctx d st' (src.record st.raw (store.rebuiltRange st plan))
  | notMaterialized {st st' : DerivedState Bytes Digest} {src : Sources Bytes}
      {plan : ResamplingPlan} {dryRun : Bool} {out : Except Failure (ResamplingResult Digest)}
      (h : Reached store ctx d st src) (hrun : store.materialize ctx st plan dryRun = (out, st'))
      (hkeep : dryRun = true ∨ ∃ e, out = .error e) : Reached store ctx d st' src
  | incrementalRaised {st st' : DerivedState Bytes Digest} {src : Sources Bytes}
      {plan : ResamplingPlan} {e : Failure} (h : Reached store ctx d st src)
      (hrun : store.materializeIncremental ctx st plan = (.error e, st')) :
      Reached store ctx d st' src
  | verified {st st' : DerivedState Bytes Digest} {src : Sources Bytes} {plan : ResamplingPlan}
      {out : Except Failure DatasetState} (h : Reached store ctx d st src)
      (hrun : store.verify st plan = (out, st')) : Reached store ctx d st' src

variable (store ctx d) in
/-- What a window's source gives for it: no candle when it was never built. -/
def Storage.sourceWindow (source : Option (RawDataset Bytes)) (w : ℤ) :
    Except Failure (Option Candle) :=
  match source with
  | none => .ok none
  | some raw => store.window ctx d (d.target.duration / d.source.duration) raw w

/-- The derived candles are those of the sources of the windows, and there are no others. -/
structure FromSources (store : Storage Bytes Digest) (ctx : DecimalContext) (d : DerivedSeries)
    (st : DerivedState Bytes Digest) (src : Sources Bytes) : Prop where
  valid : store.StoreValid d st
  window : ∀ w, d.target.duration ∣ w →
    store.sourceWindow ctx d (src w) w = .ok (st.derivedAt w)
  unaligned : ∀ t, ¬ d.target.duration ∣ t → st.derivedAt t = none

omit [DecidableEq Digest] in
theorem FromSources.marked {src : Sources Bytes} (h : FromSources store ctx d st src)
    (hmark : Marked st st') : FromSources store ctx d st' src where
  valid := hmark.valid h.valid
  window := fun w hw => by
    rw [hmark.derivedAt]
    exact h.window w hw
  unaligned := fun t ht => by
    rw [hmark.derivedAt]
    exact h.unaligned t ht

omit [DecidableEq Digest] in
/-- Rebuilding a range makes the current RAW dataset the source of its windows. -/
theorem FromSources.rebuilt {src : Sources Bytes} {r : DataRange}
    (h : FromSources store ctx d st src) (hr : RebuiltFrom store ctx d st st' r) :
    FromSources store ctx d st' (src.record st.raw (some r)) where
  valid := hr.valid
  window := by
    intro w hw
    unfold Sources.record containedIn
    by_cases hin : r.contains w = true
    · rw [if_pos (by simpa using hin)]
      exact hr.inside w hw hin
    · rw [if_neg (by simpa using hin), hr.outside w (by simpa using hin)]
      exact h.window w hw
  unaligned := by
    intro t ht
    by_cases hin : r.contains t = true
    · exact hr.unaligned t ht hin
    · rw [hr.outside t (by simpa using hin)]
      exact h.unaligned t ht

/-- **Every derived candle comes from the source of its window.** -/
theorem Storage.Reached.fromSources {src : Sources Bytes} (h : store.Reached ctx d st src) :
    FromSources store ctx d st src := by
  induction h with
  | initial raw =>
    refine ⟨⟨List.nodup_nil, ?_, fun _ => rfl, ?_, ?_, ?_⟩, fun w _ => rfl, fun t _ => rfl⟩
    · intro p hp
      cases hp
    all_goals
      rintro m ⟨⟩
  | rawChanged raw h ih =>
    exact ⟨⟨ih.valid.nodup, ih.valid.rows, ih.valid.unlisted, ih.valid.series, ih.valid.listed,
      ih.valid.known⟩, ih.window, ih.unaligned⟩
  | materialized h hplan hrun ih =>
    obtain ⟨hal, rfl⟩ := planResampling_aligned hplan
    exact ih.rebuilt (materialize_rebuilds ih.valid hal hrun)
  | @incremental st st' src _ _ _ _ plan _ h hplan hrun ih =>
    obtain ⟨hal, rfl⟩ := planResampling_aligned hplan
    have hstep := materializeIncremental_eq_ok ih.valid hal hrun
    cases hrange : store.rebuiltRange st plan with
    | none => exact ih.marked (hstep.kept hrange)
    | some rr => exact ih.rebuilt (hstep.rebuilt rr hrange)
  | notMaterialized h hrun hkeep ih =>
    rw [materialize_unchanged hrun hkeep]
    exact ih
  | incrementalRaised h hrun ih => exact ih.marked (materializeIncremental_error hrun)
  | verified h hrun ih => exact ih.marked (verify_marked hrun)

/-! ### Incremental against full -/

/-- The call left, in the range, what a full materialization would leave there, and outside it
what was there. -/
def Storage.MatchesFull (store : Storage Bytes Digest) (ctx : DecimalContext)
    (plan : ResamplingPlan) (st st' : DerivedState Bytes Digest) : Prop :=
  (∃ r full, store.materialize ctx st plan false = (.ok r, full) ∧
    ∀ t, plan.dataRange.contains t = true → st'.derivedAt t = full.derivedAt t) ∧
  ∀ t, plan.dataRange.contains t = false → st'.derivedAt t = st.derivedAt t

/-- Every window of the range outside the rebuilt part was last rebuilt from RAW candles that
give what the current ones give. -/
def Storage.UpToDateOutside (store : Storage Bytes Digest) (ctx : DecimalContext)
    (plan : ResamplingPlan) (st : DerivedState Bytes Digest) (src : Sources Bytes) : Prop :=
  ∀ w, plan.series.target.duration ∣ w → plan.dataRange.contains w = true →
    containedIn (store.rebuiltRange st plan) w = false →
      store.window ctx plan.series (plan.series.target.duration / plan.series.source.duration)
        st.raw w = store.sourceWindow ctx plan.series (src w) w

omit [DecidableEq Digest] in
/-- What an incremental call leaves outside the rebuilt part. -/
theorem IncrementalStep.derivedAt_outside {rr : Option DataRange}
    (h : IncrementalStep store ctx plan st st' rr) {t : Instant}
    (ht : containedIn rr t = false) : st'.derivedAt t = st.derivedAt t := by
  cases rr with
  | none => exact (h.kept rfl).derivedAt t
  | some r => exact (h.rebuilt r rfl).outside t (by simpa [containedIn] using ht)

omit [DecidableEq Digest] in
theorem IncrementalStep.valid {rr : Option DataRange} (hst : store.StoreValid plan.series st)
    (h : IncrementalStep store ctx plan st st' rr) : store.StoreValid plan.series st' := by
  cases rr with
  | none => exact (h.kept rfl).valid hst
  | some r => exact (h.rebuilt r rfl).valid

/-- **When an incremental materialization matches a full one**: exactly when no window outside the
part it rebuilds is outdated. -/
theorem IncrementalStep.matchesFull_iff {src : Sources Bytes}
    (hsrc : FromSources store ctx plan.series st src) (hal : plan.Aligned)
    (h : IncrementalStep store ctx plan st st' (store.rebuiltRange st plan)) :
    store.MatchesFull ctx plan st st' ↔ store.UpToDateOutside ctx plan st src := by
  have hsize := groupSize_eq hal.groupSize
  constructor
  · rintro ⟨⟨r, full, hfull, hsame⟩, -⟩ w hw hin hout
    have hfullw := (materialize_rebuilds hsrc.valid hal hfull).inside w hw hin
    rw [hfullw, hsrc.window w hw, ← hsame w hin, h.derivedAt_outside hout]
  · intro hup
    -- in every window the call leaves what the current RAW dataset gives
    have hinside : ∀ w, plan.series.target.duration ∣ w → plan.dataRange.contains w = true →
        store.window ctx plan.series plan.groupSize st.raw w = .ok (st'.derivedAt w) := by
      intro w hw hin
      rw [hsize]
      cases hout : containedIn (store.rebuiltRange st plan) w with
      | true =>
        obtain ⟨rr, hrr, hcontains⟩ := containedIn_eq_true.mp hout
        exact (h.rebuilt rr hrr).inside w hw hcontains
      | false =>
        rw [hup w hw hin hout, hsrc.window w hw, h.derivedAt_outside hout]
    have hunaligned : ∀ t, ¬ plan.series.target.duration ∣ t → st'.derivedAt t = none := by
      intro t ht
      cases hout : containedIn (store.rebuiltRange st plan) t with
      | true =>
        obtain ⟨rr, hrr, hcontains⟩ := containedIn_eq_true.mp hout
        exact (h.rebuilt rr hrr).unaligned t ht hcontains
      | false =>
        rw [h.derivedAt_outside hout]
        exact hsrc.unaligned t ht
    obtain ⟨r, full, hfull⟩ := exists_materialize hsrc.valid hal h.version h.readable
      fun w hw hin => ⟨_, hinside w hw hin, fun c hc => by
        rw [Option.mem_def, DerivedState.derivedAt_eq] at hc
        exact (((h.valid hsrc.valid).rowsAt (monthOf w)).each c (List.mem_of_find?_eq_some hc)).2.1⟩
    have hrebuilt := materialize_rebuilds hsrc.valid hal hfull
    refine ⟨⟨r, full, hfull, fun t hin => ?_⟩, fun t hout => h.derivedAt_outside ?_⟩
    · by_cases ht : plan.series.target.duration ∣ t
      · have hfullt := hrebuilt.inside t ht hin
        rw [← hsize, hinside t ht hin] at hfullt
        exact Except.ok.inj hfullt
      · rw [hunaligned t ht, hrebuilt.unaligned t ht hin]
    · by_contra hcontains
      have hin := h.within t (by simpa using hcontains)
      rw [hin] at hout
      cases hout

end

/-! ### A plan for a part of a month -/

/-- The four-hour candle number `i` since the epoch. -/
def fourHourCandle (i : ℕ) : Candle where
  exchange := .binance
  marketType := .spot
  symbol := "BTCUSDT"
  timeframe := timeframe4h
  openTime := i * 14400000000
  closeTime := i * 14400000000 + (14400000000 - 1000)
  openPrice := 1
  high := 1
  low := 1
  close := 1
  volume := 1
  quoteVolume := none
  tradeCount := none
  isClosed := true
  source := "binance"
  openTime_aligned := by
    simp [Timeframe.validateOpenTime, timeframe4h, minuteTimeframe]
  openTime_lt_closeTime := by simp
  high_ge := by simp
  low_le := by simp
  volume_nonneg := Candle.unitVolume_nonneg
  quoteVolume_nonneg := Candle.quoteVolume_none
  tradeCount_nonneg := Candle.tradeCount_none

/-- Files that are their own content and checksum. -/
def plainStorage : Storage (List Candle) (List Candle) where
  decode := .ok
  fileChecksum := id
  fileChecksum_injective := Function.injective_id
  canonicalDigest := id
  composeDigest := fun l => (l.map (·.2)).flatten

/-- Days of four-hour candles. -/
def fourHourDays : DerivedSeries where
  exchange := .binance
  marketType := .spot
  symbol := "BTCUSDT"
  source := timeframe4h
  target := dailyTimeframe
  gapPolicy := .strict
  schemaVersion := 1
  supported := by decide

/-- Two days of RAW candles, in one month. -/
def twoDays : RawDataset (List Candle) where
  files := fun m => if m = monthOf 0 then some ((List.range 12).map fourHourCandle) else none
  metadata := some ⟨"v1", "sha256"⟩

/-- The first `days` days since the epoch. -/
def firstDays (days : ℕ) (h : 0 < days) : DataRange :=
  ⟨0, days * Instant.microsecondsPerDay, Instant.days_pos h⟩

/-- The plan for the first `days` days. -/
def planDays (days : ℕ) (h : 0 < days) : Except Failure ResamplingPlan :=
  planResampling 100 100 fourHourDays (firstDays days h) twoDays.metadata

/-- The first day is materialized, and then both days incrementally; the last component is left
by a full materialization of both days instead. -/
def partialMonthRun : Except Failure (ResamplingPlan × ResamplingPlan ×
    DerivedState (List Candle) (List Candle) × DerivedState (List Candle) (List Candle) ×
    DerivedState (List Candle) (List Candle)) := do
  let one ← planDays 1 Nat.one_pos
  let two ← planDays 2 Nat.two_pos
  let first := plainStorage.materialize .exact ⟨twoDays, [], none⟩ one false
  let _ ← first.1
  let second := plainStorage.materializeIncremental .exact first.2 two
  let _ ← second.1
  let full := plainStorage.materialize .exact first.2 two false
  let _ ← full.1
  return (one, two, first.2, second.2, full.2)

/-- The run returns at every step; the incremental call has no candle for the second day, the
full one has. -/
theorem partialMonthRun_eq_ok : ∃ one two st₁ st₂ full, partialMonthRun =
    .ok (one, two, st₁, st₂, full) ∧ st₂.derivedAt Instant.microsecondsPerDay = none ∧
      full.derivedAt Instant.microsecondsPerDay ≠ none := by
  have hrun : (partialMonthRun.toOption.map fun p =>
      ((p.2.2.2.1.derivedAt Instant.microsecondsPerDay).isSome,
        (p.2.2.2.2.derivedAt Instant.microsecondsPerDay).isSome)) = some (false, true) := by
    decide +kernel
  cases hp : partialMonthRun with
  | error e =>
    rw [hp] at hrun
    cases hrun
  | ok p =>
    obtain ⟨one, two, st₁, st₂, full⟩ := p
    rw [hp] at hrun
    obtain ⟨hnone, hsome⟩ := Prod.mk.inj (Option.some.inj hrun)
    refine ⟨one, two, st₁, st₂, full, rfl, ?_, ?_⟩
    · simpa using hnone
    · exact Option.isSome_iff_ne_none.mp hsome

/-- The steps of the run. -/
theorem partialMonthRun_steps : ∃ one two st₁ st₂ full r₁ r₂ r₃,
    planDays 1 (by decide) = .ok one ∧ planDays 2 (by decide) = .ok two ∧
    plainStorage.materialize .exact ⟨twoDays, [], none⟩ one false = (.ok r₁, st₁) ∧
    plainStorage.materializeIncremental .exact st₁ two = (.ok r₂, st₂) ∧
    plainStorage.materialize .exact st₁ two false = (.ok r₃, full) ∧
    st₂.derivedAt Instant.microsecondsPerDay = none ∧
    full.derivedAt Instant.microsecondsPerDay ≠ none := by
  obtain ⟨one, two, st₁, st₂, full, hrun, hnone, hsome⟩ := partialMonthRun_eq_ok
  simp only [partialMonthRun, bind_eq_ok, pure, Except.pure, Except.ok.injEq, Prod.mk.injEq] at hrun
  obtain ⟨_, hone, _, htwo, r₁, h₁, r₂, h₂, r₃, h₃, rfl, rfl, rfl, rfl, rfl⟩ := hrun
  exact ⟨_, _, _, _, _, r₁, r₂, r₃, hone, htwo, Prod.ext h₁ rfl, Prod.ext h₂ rfl, Prod.ext h₃ rfl,
    hnone, hsome⟩

end MarketData
end DryTrade
