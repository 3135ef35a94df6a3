import DryTrade.MarketData.Derived

/-!
# What a commit does to the derived candles

Between calls a derived dataset is well formed: its files hold rows that read back,
its manifest lists every file, and every RAW checksum the manifest knows is the
checksum of a file that was read.  On a well-formed dataset a commit replaces the
derived candles of the range by those of the result and keeps the others.

## Main definitions

* `PartitionRows` — rows a partition file may hold.
* `DerivedState.derivedAt` — the derived candle that opens at an instant.
* `Storage.StoreValid` — the well-formed datasets.
* `ResultValid` — the candles a resampling of a range may return.

## Main results

* `readRows_eq_ok` — reading returns exactly the rows a file may hold.
* `commit_derivedAt` — the derived candles after a commit.
* `commit_valid` — a commit leaves a well-formed dataset.
* `commit_isOk` — when a commit succeeds.
-/

namespace DryTrade
namespace MarketData

open Storage

/-! ### Rows -/

/-- Rows a partition file of a month may hold. -/
structure PartitionRows (identity : Exchange × MarketType × String × String) (month : ℤ)
    (rows : List Candle) : Prop where
  each : ∀ c ∈ rows, c.identity = identity ∧ validateCandleSerialization c true = .ok () ∧
    monthOf c.openTime = month
  sorted : rows.Pairwise fun c c' => c.openTime < c'.openTime

theorem PartitionRows.nil {identity : Exchange × MarketType × String × String} {month : ℤ} :
    PartitionRows identity month [] :=
  ⟨fun _ hc => (List.not_mem_nil hc).elim, List.Pairwise.nil⟩

/-- One row is read exactly when the rows so far may be followed by it. -/
theorem readRow_eq_ok {identity : Exchange × MarketType × String × String} {month : ℤ}
    {rows out : List Candle} {c : Candle} (hrows : PartitionRows identity month rows) :
    readRow identity month rows c = .ok out ↔
      out = rows ++ [c] ∧ PartitionRows identity month (rows ++ [c]) := by
  have hlast : (rows.getLast?.all fun r => decide (r.openTime < c.openTime)) = true ↔
      ∀ r ∈ rows, r.openTime < c.openTime := by
    constructor
    · intro h r hr
      have hne : rows ≠ [] := List.ne_nil_of_mem hr
      rw [List.getLast?_eq_some_getLast hne] at h
      have hlt : (rows.getLast hne).openTime < c.openTime := by simpa using h
      rcases eq_or_ne r (rows.getLast hne) with rfl | hne'
      · exact hlt
      · have hmem : r ∈ rows.dropLast := by
          have happ := List.dropLast_append_getLast hne
          rw [← happ] at hr
          rcases List.mem_append.mp hr with hr | hr
          · exact hr
          · exact absurd (List.mem_singleton.mp hr) hne'
        have hsorted := hrows.sorted
        rw [← List.dropLast_append_getLast hne] at hsorted
        exact ((List.pairwise_append.mp hsorted).2.2 r hmem _ (List.mem_singleton_self _)).trans hlt
    · intro h
      cases hrows' : rows.getLast? with
      | none => rfl
      | some r => simpa using h r (List.mem_of_getLast? hrows')
  simp only [readRow, bind_eq_ok, pure, Except.pure, Except.ok.injEq, FailureKind.unless_eq_ok,
    exists_const, beq_iff_eq, hlast]
  constructor
  · rintro ⟨hid, _, hser, -, hlt, hmonth, rfl⟩
    refine ⟨rfl, ?_, ?_⟩
    · intro c' hc'
      rcases List.mem_append.mp hc' with hc' | hc'
      · exact hrows.each c' hc'
      · rw [List.mem_singleton.mp hc']
        exact ⟨hid, hser, hmonth⟩
    · refine List.pairwise_append.mpr ⟨hrows.sorted, List.pairwise_singleton _ _, ?_⟩
      intro r hr c' hc'
      rw [List.mem_singleton.mp hc']
      exact hlt r hr
  · rintro ⟨rfl, hall⟩
    obtain ⟨hid, hser, hmonth⟩ := hall.each c (by simp)
    have hlt : ∀ r ∈ rows, r.openTime < c.openTime := fun r hr =>
      (List.pairwise_append.mp hall.sorted).2.2 r hr c (List.mem_singleton_self c)
    refine ⟨hid, (), hser, ?_, hlt, hmonth, rfl⟩
    rw [List.all_eq_true]
    intro r hr
    have hne : r.key ≠ c.key := by
      intro hkey
      simp only [Candle.key, Prod.mk.injEq] at hkey
      exact absurd hkey.2.2.2 (hlt r hr).ne
    simpa using hne

/-- Reading returns the rows, exactly when a file may hold them. -/
theorem readRows_eq_ok {identity : Exchange × MarketType × String × String} {month : ℤ}
    {candles out : List Candle} :
    readRows identity month candles = .ok out ↔
      out = candles ∧ PartitionRows identity month candles := by
  have hfold : ∀ (candles rows : List Candle), PartitionRows identity month rows →
      (candles.foldlM (readRow identity month) rows = .ok out ↔
        out = rows ++ candles ∧ PartitionRows identity month (rows ++ candles)) := by
    intro candles
    induction candles with
    | nil =>
      intro rows hrows
      rw [List.append_nil]
      constructor
      · intro h
        cases h
        exact ⟨rfl, hrows⟩
      · rintro ⟨rfl, -⟩
        rfl
    | cons c candles ih =>
      intro rows hrows
      rw [List.foldlM_cons, bind_eq_ok, List.append_cons]
      constructor
      · rintro ⟨rows', hstep, htail⟩
        obtain ⟨rfl, hrows'⟩ := (readRow_eq_ok hrows).mp hstep
        exact (ih _ hrows').mp htail
      · rintro ⟨rfl, hall⟩
        have hrows' : PartitionRows identity month (rows ++ [c]) :=
          ⟨fun c' hc' => hall.each c' (List.mem_append_left candles hc'),
            (List.pairwise_append.mp hall.sorted).1⟩
        exact ⟨_, (readRow_eq_ok hrows).mpr ⟨rfl, hrows'⟩, (ih _ hrows').mpr ⟨rfl, hall⟩⟩
  exact hfold candles [] PartitionRows.nil

/-! ### Looking candles up -/

/-- Among rows that open at different instants, the candle that opens at an instant is the one
found. -/
theorem candleAt_eq_some {rows : List Candle} {t : Instant} {c : Candle}
    (hdistinct : rows.Pairwise fun c c' => c.openTime ≠ c'.openTime) :
    candleAt rows t = some c ↔ c ∈ rows ∧ c.openTime = t := by
  constructor
  · intro h
    exact ⟨List.mem_of_find?_eq_some h, by simpa using List.find?_some h⟩
  · rintro ⟨hmem, rfl⟩
    cases hfound : candleAt rows c.openTime with
    | none =>
      have hnot := List.find?_eq_none.mp hfound c hmem
      simp at hnot
    | some c' =>
      have hmem' := List.mem_of_find?_eq_some hfound
      have hopen : c'.openTime = c.openTime := by simpa using List.find?_some hfound
      have hsymm : Std.Symm fun a b : Candle => a.openTime ≠ b.openTime := ⟨fun _ _ h => h.symm⟩
      by_contra hne
      have hne' : c' ≠ c := fun heq => hne (by rw [heq])
      exact hdistinct.forall hmem' hmem hne' hopen

theorem candleAt_eq_none {rows : List Candle} {t : Instant} :
    candleAt rows t = none ↔ ∀ c ∈ rows, c.openTime ≠ t := by
  simp [candleAt, List.find?_eq_none]

theorem PartitionRows.distinct {identity : Exchange × MarketType × String × String} {month : ℤ}
    {rows : List Candle} (h : PartitionRows identity month rows) :
    rows.Pairwise fun c c' => c.openTime ≠ c'.openTime :=
  h.sorted.imp fun hlt => hlt.ne

theorem lastByOpenTime_subset (candles : List Candle) : ∀ c ∈ lastByOpenTime candles, c ∈ candles := by
  induction candles with
  | nil => exact fun c hc => hc
  | cons c candles ih =>
    intro c' hc'
    unfold lastByOpenTime at hc'
    split at hc'
    · exact List.mem_cons_of_mem c (ih c' hc')
    · rcases List.mem_cons.mp hc' with rfl | hc'
      · exact List.mem_cons_self
      · exact List.mem_cons_of_mem c (ih c' hc')

/-- Nothing is lost where candles that open together are one. -/
theorem mem_lastByOpenTime {candles : List Candle} {c : Candle}
    (hsame : ∀ a ∈ candles, ∀ b ∈ candles, a.openTime = b.openTime → a = b) (hc : c ∈ candles) :
    c ∈ lastByOpenTime candles := by
  induction candles with
  | nil => exact hc
  | cons c' candles ih =>
    have hsame' : ∀ a ∈ candles, ∀ b ∈ candles, a.openTime = b.openTime → a = b :=
      fun a ha b hb => hsame a (List.mem_cons_of_mem c' ha) b (List.mem_cons_of_mem c' hb)
    unfold lastByOpenTime
    split
    · rename_i hlater
      obtain ⟨b, hb, hopen⟩ := List.any_eq_true.mp hlater
      rcases List.mem_cons.mp hc with rfl | hc
      · have heq : b = c := hsame b (List.mem_cons_of_mem c hb) c List.mem_cons_self
          (by simpa using hopen)
        exact ih hsame' (heq ▸ hb)
      · exact ih hsame' hc
    · rcases List.mem_cons.mp hc with rfl | hc
      · exact List.mem_cons_self
      · exact List.mem_cons_of_mem c' (ih hsame' hc)

theorem lastByOpenTime_distinct (candles : List Candle) :
    (lastByOpenTime candles).Pairwise fun c c' => c.openTime ≠ c'.openTime := by
  induction candles with
  | nil => exact List.Pairwise.nil
  | cons c candles ih =>
    unfold lastByOpenTime
    split
    · exact ih
    · rename_i hnot
      refine List.pairwise_cons.mpr ⟨fun c' hc' hopen => hnot ?_, ih⟩
      exact List.any_eq_true.mpr ⟨c', lastByOpenTime_subset candles c' hc', by simpa using hopen.symm⟩

theorem mem_sortByOpenTime {candles : List Candle} {c : Candle} :
    c ∈ sortByOpenTime candles ↔ c ∈ candles :=
  (List.perm_insertionSort _ candles).mem_iff

/-- Sorting rows that open at different instants puts them in order. -/
theorem sortByOpenTime_sorted {candles : List Candle}
    (hdistinct : candles.Pairwise fun c c' => c.openTime ≠ c'.openTime) :
    (sortByOpenTime candles).Pairwise fun c c' => c.openTime < c'.openTime := by
  have htotal : Std.Total fun c c' : Candle => c.openTime ≤ c'.openTime :=
    ⟨fun c c' => le_total c.openTime c'.openTime⟩
  have htrans : IsTrans Candle fun c c' => c.openTime ≤ c'.openTime :=
    ⟨fun _ _ _ h h' => h.trans h'⟩
  have hsorted : (sortByOpenTime candles).Pairwise fun c c' => c.openTime ≤ c'.openTime :=
    List.pairwise_insertionSort _ candles
  have hsymm : Std.Symm fun a b : Candle => a.openTime ≠ b.openTime := ⟨fun _ _ h => h.symm⟩
  have hne : (sortByOpenTime candles).Pairwise fun c c' => c.openTime ≠ c'.openTime :=
    hdistinct.perm (List.perm_insertionSort _ candles).symm fun h => h.symm
  exact hsorted.imp₂ (fun _ _ hle hne => lt_of_le_of_ne hle hne) hne

theorem sortByMonth_perm {Digest : Type} (summaries : List (PartitionSummary Digest)) :
    (sortByMonth summaries).Perm summaries :=
  List.perm_insertionSort _ summaries

theorem PartitionFiles.file_eq_some {files : PartitionFiles} {month : ℤ} {rows : List Candle}
    (hnodup : (files.map (·.1)).Nodup) : files.file month = some rows ↔ (month, rows) ∈ files := by
  unfold PartitionFiles.file
  rw [Option.map_eq_some_iff]
  constructor
  · rintro ⟨p, hp, rfl⟩
    have hmonth : p.1 = month := by simpa using List.find?_some hp
    rw [← hmonth]
    exact List.mem_of_find?_eq_some hp
  · intro hmem
    cases hfound : files.find? fun p => p.1 == month with
    | none => simpa using List.find?_eq_none.mp hfound _ hmem
    | some p =>
      have hmonth : p.1 = month := by simpa using List.find?_some hfound
      have heq := List.inj_on_of_nodup_map hnodup (List.mem_of_find?_eq_some hfound) hmem hmonth
      exact ⟨p, rfl, by rw [heq]⟩

theorem PartitionFiles.file_eq_none {files : PartitionFiles} {month : ℤ} :
    files.file month = none ↔ ∀ p ∈ files, p.1 ≠ month := by
  simp [PartitionFiles.file, List.find?_eq_none]

/-! ### Well-formed datasets -/

variable {Bytes Digest : Type}

/-- The derived candle that opens at an instant. -/
def DerivedState.derivedAt (st : DerivedState Bytes Digest) (t : Instant) : Option Candle :=
  (st.partitions.file (monthOf t)).bind fun rows => candleAt rows t

/-- The rows of a month, none when it has no file. -/
def PartitionFiles.rowsAt (files : PartitionFiles) (month : ℤ) : List Candle :=
  (files.file month).getD []

theorem DerivedState.derivedAt_eq (st : DerivedState Bytes Digest) (t : Instant) :
    st.derivedAt t = candleAt (st.partitions.rowsAt (monthOf t)) t := by
  unfold DerivedState.derivedAt PartitionFiles.rowsAt
  cases st.partitions.file (monthOf t) <;> rfl

/-- The summaries of the manifest that a plan's range meets. -/
def DerivedState.touched (st : DerivedState Bytes Digest) (r : DataRange) :
    List (PartitionSummary Digest) :=
  ((st.manifest.map (·.partitions)).getD []).filter (·.intersects r)

namespace Storage

variable (store : Storage Bytes Digest)

/-- A RAW summary recorded from a file that was read in full. -/
def Known (d : DerivedSeries) (s : PartitionSummary Digest) : Prop :=
  ∃ bytes candles, store.fileChecksum bytes = s.checksum ∧ store.decode bytes = .ok candles ∧
    PartitionRows d.sourceIdentity s.month candles

/-- The datasets that calls leave. -/
structure StoreValid (d : DerivedSeries) (st : DerivedState Bytes Digest) : Prop where
  nodup : (st.partitions.map (·.1)).Nodup
  rows : ∀ p ∈ st.partitions, PartitionRows d.targetIdentity p.1 p.2
  unlisted : st.manifest = none → st.partitions = []
  series : ∀ m ∈ st.manifest, m.series = d
  listed : ∀ m ∈ st.manifest, ∀ p ∈ st.partitions, ∃ s ∈ m.partitions, s.month = p.1
  known : ∀ m ∈ st.manifest, ∀ s ∈ m.sourcePartitions, store.Known d s

end Storage

/-- What a resampling of the range may return: closed candles of the series that open in it, at
different instants. -/
structure ResultValid (d : DerivedSeries) (r : DataRange) (candles : List Candle) : Prop where
  each : ∀ c ∈ candles, r.contains c.openTime = true ∧ c.identity = d.targetIdentity
  distinct : candles.Pairwise fun c c' => c.openTime ≠ c'.openTime

variable {store : Storage Bytes Digest} {d : DerivedSeries} {st st' : DerivedState Bytes Digest}
  {plan : ResamplingPlan} {result : ResamplingResult Digest}

/-- The rows of every month may be in its file. -/
theorem Storage.StoreValid.rowsAt (h : store.StoreValid d st) (month : ℤ) :
    PartitionRows d.targetIdentity month (st.partitions.rowsAt month) := by
  unfold PartitionFiles.rowsAt
  cases hfile : st.partitions.file month with
  | none => exact PartitionRows.nil
  | some rows => exact h.rows _ ((PartitionFiles.file_eq_some h.nodup).mp hfile)

theorem Storage.StoreValid.readDerived (h : store.StoreValid d st) (month : ℤ) :
    readDerivedPartition d st.partitions month = .ok (st.partitions.rowsAt month) := by
  have hrows := h.rowsAt month
  unfold PartitionFiles.rowsAt at hrows ⊢
  unfold readDerivedPartition
  cases hfile : st.partitions.file month with
  | none => rfl
  | some rows =>
    rw [hfile] at hrows
    exact readRows_eq_ok.mpr ⟨rfl, hrows⟩

/-- A month with a file that the range meets is among those the commit reads. -/
theorem Storage.StoreValid.touched (h : store.StoreValid d st) {r : DataRange} {month : ℤ}
    (hmonth : month ∈ monthsInRange r) (hne : st.partitions.rowsAt month ≠ []) :
    ∃ s ∈ st.touched r, s.month = month := by
  obtain ⟨rows, hrows⟩ : ∃ rows, (month, rows) ∈ st.partitions := by
    unfold PartitionFiles.rowsAt at hne
    cases hfile : st.partitions.file month with
    | none =>
      rw [hfile] at hne
      exact absurd rfl hne
    | some rows => exact ⟨rows, (PartitionFiles.file_eq_some h.nodup).mp hfile⟩
  cases hm : st.manifest with
  | none =>
    rw [h.unlisted hm] at hrows
    cases hrows
  | some m =>
    obtain ⟨s, hs, rfl⟩ := h.listed m hm _ hrows
    obtain ⟨hstart, hstop⟩ := mem_monthsInRange.mp hmonth
    refine ⟨s, ?_, rfl⟩
    rw [DerivedState.touched, hm]
    refine List.mem_filter.mpr ⟨hs, ?_⟩
    simp [PartitionSummary.intersects, hstart, hstop]

theorem mem_monthsInRange_of_touched {r : DataRange} {s : PartitionSummary Digest}
    (hs : s ∈ st.touched r) : s.month ∈ monthsInRange r := by
  have h := (List.mem_filter.mp hs).2
  simp only [PartitionSummary.intersects, Bool.and_eq_true, decide_eq_true_eq] at h
  exact mem_monthsInRange.mpr h

theorem mem_monthsInRange_of_contains {r : DataRange} {t : Instant} (h : r.contains t = true) :
    monthOf t ∈ monthsInRange r := by
  simp only [DataRange.contains, Bool.and_eq_true, decide_eq_true_eq] at h
  exact monthOf_mem_monthsInRange h.1 h.2

/-! ### The rewritten months -/

/-- The rows the commit keeps of the months it rewrites. -/
def DerivedState.kept (st : DerivedState Bytes Digest) (r : DataRange) : List (ℤ × List Candle) :=
  (st.touched r).map fun s =>
    (s.month, (st.partitions.rowsAt s.month).filter fun c => !r.contains c.openTime)

/-- The months the commit rewrites. -/
def DerivedState.rewrittenMonths (st : DerivedState Bytes Digest) (r : DataRange)
    (candles : List Candle) : List ℤ :=
  ((candles.map fun c => monthOf c.openTime) ++ (st.kept r).map (·.1)).dedup.insertionSort (· ≤ ·)

theorem mem_rewrittenMonths {r : DataRange} {candles : List Candle} {month : ℤ} :
    month ∈ st.rewrittenMonths r candles ↔
      (∃ c ∈ candles, monthOf c.openTime = month) ∨ ∃ s ∈ st.touched r, s.month = month := by
  unfold DerivedState.rewrittenMonths DerivedState.kept
  rw [(List.perm_insertionSort _ _).mem_iff, List.mem_dedup, List.mem_append]
  simp

/-- The rows of a rewritten month. -/
theorem mem_mergedRows (hst : store.StoreValid d st) {r : DataRange} {candles : List Candle}
    (hresult : ResultValid d r candles) {month : ℤ} {c : Candle} :
    c ∈ mergedRows candles (st.kept r) month ↔
      (c ∈ candles ∧ monthOf c.openTime = month) ∨
        ((∃ s ∈ st.touched r, s.month = month) ∧ c ∈ st.partitions.rowsAt month ∧
          r.contains c.openTime = false) := by
  have hmem : ∀ c, (c ∈ candles.filter (fun c => monthOf c.openTime == month) ++
      ((st.kept r).filter fun p => p.1 == month).flatMap (·.2)) ↔
        (c ∈ candles ∧ monthOf c.openTime = month) ∨
        ((∃ s ∈ st.touched r, s.month = month) ∧ c ∈ st.partitions.rowsAt month ∧
          r.contains c.openTime = false) := by
    intro c
    rw [List.mem_append, List.mem_filter, beq_iff_eq]
    refine or_congr Iff.rfl ?_
    simp only [DerivedState.kept, List.mem_flatMap, List.mem_filter, List.mem_map, beq_iff_eq]
    constructor
    · rintro ⟨p, ⟨⟨s, hs, rfl⟩, hmonth⟩, hc⟩
      obtain ⟨hc, hout⟩ := List.mem_filter.mp hc
      dsimp only at hmonth
      subst hmonth
      exact ⟨⟨s, hs, rfl⟩, hc, by simpa using hout⟩
    · rintro ⟨⟨s, hs, rfl⟩, hc, hout⟩
      exact ⟨_, ⟨⟨s, hs, rfl⟩, rfl⟩, List.mem_filter.mpr ⟨hc, by simpa using hout⟩⟩
  have hsymm : Std.Symm fun a b : Candle => a.openTime ≠ b.openTime := ⟨fun _ _ h => h.symm⟩
  unfold mergedRows
  rw [mem_sortByOpenTime, ← hmem c]
  refine ⟨lastByOpenTime_subset _ c, mem_lastByOpenTime ?_⟩
  -- new candles open in the range, kept ones outside it
  intro a ha b hb hopen
  by_contra hne
  rcases (hmem a).mp ha with ⟨ha, -⟩ | ⟨-, ha, haout⟩
  · rcases (hmem b).mp hb with ⟨hb, -⟩ | ⟨-, -, hbout⟩
    · exact hresult.distinct.forall ha hb hne hopen
    · rw [← hopen, (hresult.each a ha).1] at hbout
      cases hbout
  · rcases (hmem b).mp hb with ⟨hb, -⟩ | ⟨-, hb, -⟩
    · rw [hopen, (hresult.each b hb).1] at haout
      cases haout
    · exact (hst.rowsAt month).distinct.forall ha hb hne hopen

theorem mergedRows_sorted (candles : List Candle) (kept : List (ℤ × List Candle)) (month : ℤ) :
    (mergedRows candles kept month).Pairwise fun c c' => c.openTime < c'.openTime :=
  sortByOpenTime_sorted (lastByOpenTime_distinct _)

/-! ### The commit -/

namespace Storage

variable (store)

/-- The rewritten months that still hold candles. -/
def writtenMonths (st : DerivedState Bytes Digest) (r : DataRange) (candles : List Candle) :
    List ℤ :=
  (st.rewrittenMonths r candles).filter fun m => !(mergedRows candles (st.kept r) m).isEmpty

/-- The summaries of the partitions after the commit. -/
def committedSummaries (st : DerivedState Bytes Digest) (r : DataRange) (candles : List Candle) :
    List (PartitionSummary Digest) :=
  sortByMonth ((((st.manifest.map (·.partitions)).getD []).filter fun s => !s.intersects r) ++
    (writtenMonths st r candles).map fun m =>
      store.partitionSummary m (mergedRows candles (st.kept r) m))

/-- The dataset after the commit, for the RAW summaries of the range. -/
def committed (st : DerivedState Bytes Digest) (plan : ResamplingPlan) (candles : List Candle)
    (sourceVersion : String) (source : List (PartitionSummary Digest)) :
    DerivedState Bytes Digest :=
  let partitions := store.committedSummaries st plan.dataRange candles
  { raw := st.raw
    partitions :=
      (st.partitions.filter fun p => p.1 ∉ st.rewrittenMonths plan.dataRange candles) ++
        (writtenMonths st plan.dataRange candles).map fun m =>
          (m, mergedRows candles (st.kept plan.dataRange) m)
    manifest := some {
      series := plan.series
      sourceDatasetVersion := sourceVersion
      sourceChecksum := plan.sourceChecksum
      targetVersion := store.datasetChecksum partitions
      targetChecksum := store.datasetChecksum partitions
      firstOpenTime := partitions.findSome? (·.firstOpenTime)
      lastOpenTime := partitions.reverse.findSome? (·.lastOpenTime)
      candleCount := (partitions.map (·.candleCount)).sum
      partitions := partitions
      sourcePartitions := sortByMonth
        ((((st.manifest.map (·.sourcePartitions)).getD []).filter fun s =>
          !s.intersects plan.dataRange) ++ source)
      state := .complete
      sourceVersionAlgorithm := plan.sourceVersionAlgorithm } }

variable {store}

/-- On a well-formed dataset only the RAW files and the storage schema can stop a commit. -/
theorem commit_eq_ok (hst : store.StoreValid plan.series st) {sourceVersion : String} :
    store.commit st plan result sourceVersion = .ok st' ↔
      (∀ month ∈ st.rewrittenMonths plan.dataRange result.candles,
        ∀ c ∈ mergedRows result.candles (st.kept plan.dataRange) month,
          validateCandleSerialization c true = .ok ()) ∧
      ∃ source, (st.raw.partitionPaths plan.dataRange).mapM
          (store.sourcePartitionSummary plan.series st.raw) = .ok source ∧
        st' = store.committed st plan result.candles sourceVersion source := by
  have hload : st.manifest.mapM (loadManifest plan) = .ok st.manifest := by
    cases hm : st.manifest with
    | none => rfl
    | some m =>
      have hseries := hst.series m hm
      simp [loadManifest, hseries, FailureKind.unless]
  have hkept : ((((st.manifest.map (·.partitions)).getD []).filter
      (·.intersects plan.dataRange)).mapM fun s => keptRows st.partitions plan s.month) =
        .ok (st.kept plan.dataRange) := by
    refine mapM_eq_map fun s _ => ?_
    unfold keptRows
    rw [hst.readDerived, ok_bind]
    rfl
  unfold commit
  rw [hload, ok_bind]
  dsimp only
  rw [hkept, ok_bind]
  simp only [bind_eq_ok, pure, Except.pure, Except.ok.injEq, forM_eq_ok]
  constructor
  · rintro ⟨source, hsource, _, hser, rfl⟩
    exact ⟨hser, source, hsource, rfl⟩
  · rintro ⟨hser, source, hsource, rfl⟩
    exact ⟨source, hsource, (), hser, rfl⟩

theorem rewrittenMonths_nodup {r : DataRange} {candles : List Candle} :
    (st.rewrittenMonths r candles).Nodup :=
  (List.perm_insertionSort _ _).nodup_iff.mpr (List.nodup_dedup _)

theorem mem_writtenMonths {r : DataRange} {candles : List Candle} {month : ℤ} :
    month ∈ writtenMonths st r candles ↔
      month ∈ st.rewrittenMonths r candles ∧ mergedRows candles (st.kept r) month ≠ [] := by
  rw [writtenMonths, List.mem_filter]
  simp

/-- A committed dataset has one file for every month. -/
theorem committed_nodup (hst : store.StoreValid d st) {candles : List Candle}
    {sourceVersion : String} {source : List (PartitionSummary Digest)} :
    ((store.committed st plan candles sourceVersion source).partitions.map (·.1)).Nodup := by
  simp only [committed, List.map_append, List.map_map]
  refine List.nodup_append.mpr ⟨?_, ?_, ?_⟩
  · exact hst.nodup.sublist (List.filter_sublist.map _)
  · rw [show ((fun p : ℤ × List Candle => p.1) ∘ fun m =>
      (m, mergedRows candles (st.kept plan.dataRange) m)) = id from rfl, List.map_id]
    exact rewrittenMonths_nodup.filter _
  · intro m hm m' hm' heq
    obtain ⟨p, hp, rfl⟩ := List.mem_map.mp hm
    obtain ⟨m'', hm'', rfl⟩ := List.mem_map.mp hm'
    have hnot : p.1 ∉ st.rewrittenMonths plan.dataRange candles := by
      simpa using (List.mem_filter.mp hp).2
    have heq' : p.1 = m'' := heq
    exact hnot (heq' ▸ (mem_writtenMonths.mp hm'').1)

/-- The rows of every month after the commit. -/
theorem committed_rowsAt (hst : store.StoreValid d st) {candles : List Candle}
    {sourceVersion : String} {source : List (PartitionSummary Digest)} (month : ℤ) :
    (store.committed st plan candles sourceVersion source).partitions.rowsAt month =
      if month ∈ st.rewrittenMonths plan.dataRange candles then
        mergedRows candles (st.kept plan.dataRange) month
      else st.partitions.rowsAt month := by
  have hnodup : ((store.committed st plan candles sourceVersion source).partitions.map
      (·.1)).Nodup := committed_nodup hst
  have hmem : ∀ rows, (month, rows) ∈
      (store.committed st plan candles sourceVersion source).partitions ↔
        ((month, rows) ∈ st.partitions ∧ month ∉ st.rewrittenMonths plan.dataRange candles) ∨
        (month ∈ writtenMonths st plan.dataRange candles ∧
          rows = mergedRows candles (st.kept plan.dataRange) month) := by
    intro rows
    simp only [committed, List.mem_append, List.mem_filter, List.mem_map, Prod.mk.injEq,
      decide_eq_true_eq]
    refine or_congr Iff.rfl ?_
    constructor
    · rintro ⟨m, hm, rfl, rfl⟩
      exact ⟨hm, rfl⟩
    · rintro ⟨hm, rfl⟩
      exact ⟨month, hm, rfl, rfl⟩
  have hrows : ∀ rows, (month, rows) ∈
      (store.committed st plan candles sourceVersion source).partitions →
        (store.committed st plan candles sourceVersion source).partitions.rowsAt month = rows := by
    intro rows h
    unfold PartitionFiles.rowsAt
    rw [(PartitionFiles.file_eq_some hnodup).mpr h]
    rfl
  have hnone : (∀ rows, (month, rows) ∉
      (store.committed st plan candles sourceVersion source).partitions) →
        (store.committed st plan candles sourceVersion source).partitions.rowsAt month = [] := by
    intro h
    unfold PartitionFiles.rowsAt
    rw [PartitionFiles.file_eq_none.mpr fun p hp heq => h p.2 (by rw [← heq]; exact hp)]
    rfl
  split
  · rename_i hin
    by_cases hempty : mergedRows candles (st.kept plan.dataRange) month = []
    · rw [hempty]
      refine hnone fun rows h => ?_
      rcases (hmem rows).mp h with ⟨-, hnot⟩ | ⟨hwritten, -⟩
      · exact hnot hin
      · exact (mem_writtenMonths.mp hwritten).2 hempty
    · exact hrows _ ((hmem _).mpr (.inr ⟨mem_writtenMonths.mpr ⟨hin, hempty⟩, rfl⟩))
  · rename_i hout
    unfold PartitionFiles.rowsAt
    cases hfile : st.partitions.file month with
    | none =>
      refine hnone fun rows h => ?_
      rcases (hmem rows).mp h with ⟨h, -⟩ | ⟨hwritten, -⟩
      · exact PartitionFiles.file_eq_none.mp hfile _ h rfl
      · exact hout (mem_writtenMonths.mp hwritten).1
    | some rows =>
      have hst' := (PartitionFiles.file_eq_some hst.nodup).mp hfile
      exact hrows rows ((hmem rows).mpr (.inl ⟨hst', hout⟩))

/-- **The derived candles after a commit**: those of the result in the range, and the old ones
outside it. -/
theorem committed_derivedAt (hst : store.StoreValid d st) {candles : List Candle}
    (hresult : ResultValid d plan.dataRange candles) {sourceVersion : String}
    {source : List (PartitionSummary Digest)} (t : Instant) :
    (store.committed st plan candles sourceVersion source).derivedAt t =
      if plan.dataRange.contains t then candleAt candles t else st.derivedAt t := by
  rw [DerivedState.derivedAt_eq, DerivedState.derivedAt_eq, committed_rowsAt hst]
  -- both sides hold a candle exactly when the same candle qualifies
  refine Option.ext fun c => ?_
  have hold := candleAt_eq_some (t := t) (c := c) (hst.rowsAt (monthOf t)).distinct
  have hnew := candleAt_eq_some (t := t) (c := c) hresult.distinct
  by_cases hin : plan.dataRange.contains t = true
  · rw [if_pos hin, hnew]
    by_cases hmonth : monthOf t ∈ st.rewrittenMonths plan.dataRange candles
    · rw [if_pos hmonth, candleAt_eq_some ((mergedRows_sorted _ _ _).imp fun h => h.ne),
        mem_mergedRows hst hresult]
      constructor
      · rintro ⟨⟨hc, -⟩ | ⟨-, -, hout⟩, rfl⟩
        · exact ⟨hc, rfl⟩
        · rw [hin] at hout
          cases hout
      · rintro ⟨hc, rfl⟩
        exact ⟨.inl ⟨hc, rfl⟩, rfl⟩
    · rw [if_neg hmonth, hold]
      constructor
      · rintro ⟨hc, rfl⟩
        obtain ⟨s, hs, hsm⟩ := hst.touched (mem_monthsInRange_of_contains hin)
          (List.ne_nil_of_mem hc)
        exact absurd (mem_rewrittenMonths.mpr (.inr ⟨s, hs, hsm⟩)) hmonth
      · rintro ⟨hc, rfl⟩
        exact absurd (mem_rewrittenMonths.mpr (.inl ⟨c, hc, rfl⟩)) hmonth
  · rw [if_neg hin, hold]
    by_cases hmonth : monthOf t ∈ st.rewrittenMonths plan.dataRange candles
    · rw [if_pos hmonth, candleAt_eq_some ((mergedRows_sorted _ _ _).imp fun h => h.ne),
        mem_mergedRows hst hresult]
      constructor
      · rintro ⟨⟨hc, -⟩ | ⟨-, hc, -⟩, rfl⟩
        · exact absurd (hresult.each c hc).1 hin
        · exact ⟨hc, rfl⟩
      · rintro ⟨hc, rfl⟩
        refine ⟨.inr ⟨?_, hc, by simpa using hin⟩, rfl⟩
        rcases mem_rewrittenMonths.mp hmonth with ⟨c', hc', hm'⟩ | hs
        · refine hst.touched ?_ (List.ne_nil_of_mem hc)
          rw [← hm']
          exact mem_monthsInRange_of_contains (hresult.each c' hc').1
        · exact hs
    · rw [if_neg hmonth, hold]

/-- **A commit leaves a well-formed dataset.** -/
theorem committed_valid (hst : store.StoreValid plan.series st) {candles : List Candle}
    (hresult : ResultValid plan.series plan.dataRange candles)
    (hser : ∀ month ∈ st.rewrittenMonths plan.dataRange candles,
      ∀ c ∈ mergedRows candles (st.kept plan.dataRange) month,
        validateCandleSerialization c true = .ok ())
    {sourceVersion : String} {source : List (PartitionSummary Digest)}
    (hsource : ∀ s ∈ source, store.Known plan.series s) :
    store.StoreValid plan.series (store.committed st plan candles sourceVersion source) where
  nodup := committed_nodup hst
  rows := by
    intro p hp
    simp only [committed, List.mem_append, List.mem_filter, List.mem_map] at hp
    rcases hp with ⟨hp, -⟩ | ⟨m, hm, rfl⟩
    · exact hst.rows p hp
    · obtain ⟨hm, -⟩ := mem_writtenMonths.mp hm
      refine ⟨fun c hc => ?_, mergedRows_sorted _ _ _⟩
      rcases (mem_mergedRows hst hresult).mp hc with ⟨hc', hmonth⟩ | ⟨-, hc', -⟩
      · exact ⟨(hresult.each c hc').2, hser m hm c hc, hmonth⟩
      · exact (hst.rowsAt m).each c hc'
  unlisted := by
    rintro ⟨⟩
  series := by
    rintro m ⟨⟩
    rfl
  listed := by
    rintro m ⟨⟩ p hp
    dsimp only
    simp only [committedSummaries, (sortByMonth_perm _).mem_iff, List.mem_append, List.mem_map,
      List.mem_filter]
    simp only [committed, List.mem_append, List.mem_filter, List.mem_map] at hp
    rcases hp with ⟨hp, hnot⟩ | ⟨m, hm, rfl⟩
    · have hnot' : p.1 ∉ st.rewrittenMonths plan.dataRange candles := by simpa using hnot
      cases hman : st.manifest with
      | none =>
        rw [hst.unlisted hman] at hp
        cases hp
      | some m =>
        obtain ⟨s, hs, hmonth⟩ := hst.listed m hman p hp
        refine ⟨s, .inl ⟨hs, ?_⟩, hmonth⟩
        by_contra htouch
        refine hnot' (mem_rewrittenMonths.mpr (.inr ⟨s, ?_, hmonth⟩))
        rw [DerivedState.touched, hman]
        exact List.mem_filter.mpr ⟨hs, by simpa using htouch⟩
    · exact ⟨_, .inr ⟨m, hm, rfl⟩, rfl⟩
  known := by
    rintro m ⟨⟩ s hs
    rw [(sortByMonth_perm _).mem_iff, List.mem_append] at hs
    rcases hs with hs | hs
    · obtain ⟨hs, -⟩ := List.mem_filter.mp hs
      cases hman : st.manifest with
      | none =>
        rw [hman] at hs
        cases hs
      | some m =>
        rw [hman] at hs
        exact hst.known m hman s hs
    · exact hsource s hs

end Storage

end MarketData
end DryTrade
