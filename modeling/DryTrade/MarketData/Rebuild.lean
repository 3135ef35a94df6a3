import DryTrade.MarketData.Commit

/-!
# Window by window

A rebuild of a range treats each window of it on its own: whether the window is
aggregated, skipped or refused depends only on the RAW partition of its month.  So
rebuilding two ranges gives the same candle in every window they share, and a
rebuild returns exactly when no window of its range is refused and every RAW
partition it reads can be read.

## Main definitions

* `ResamplingPlan.Aligned` — the range is made of whole windows.
* `Storage.Readable` — the RAW partition of a month can be read.
* `Storage.window` — what the RAW dataset gives for one window.

## Main results

* `buildResult_window` — a rebuild returns the windows' candles.
* `exists_buildResult` — when a rebuild returns.
-/

namespace DryTrade
namespace MarketData

open Storage

/-- The range is made of whole windows, and the plan has the size of their groups. -/
structure ResamplingPlan.Aligned (plan : ResamplingPlan) : Prop where
  start : plan.series.target.duration ∣ plan.dataRange.start
  stop : plan.series.target.duration ∣ plan.dataRange.stop
  groupSize : validateTimeframes plan.series.source plan.series.target = .ok plan.groupSize

variable {Bytes Digest : Type}

namespace Storage

variable (store : Storage Bytes Digest)

/-- The RAW partition of a month can be read, if there is one. -/
def Readable (d : DerivedSeries) (raw : RawDataset Bytes) (month : ℤ) : Prop :=
  ∃ rows, store.readPartition d raw month = .ok rows

/-- What the RAW dataset gives for the window that opens at `w`. -/
def window (ctx : DecimalContext) (d : DerivedSeries) (groupSize : ℤ) (raw : RawDataset Bytes)
    (w : Instant) : Except Failure (Option Candle) := do
  let rows ← store.readPartition d raw (monthOf w)
  resampleWindow ctx d groupSize (windowGroup rows d.target w) w

end Storage

variable {store : Storage Bytes Digest} {d : DerivedSeries} {raw : RawDataset Bytes}
  {plan : ResamplingPlan} {ctx : DecimalContext}

/-- What is read is a partition of the month. -/
theorem readPartition_rows {month : ℤ} {rows : List Candle}
    (h : store.readPartition d raw month = .ok rows) :
    PartitionRows d.sourceIdentity month rows := by
  unfold Storage.readPartition at h
  split at h
  · cases h
    exact PartitionRows.nil
  · rw [bind_eq_ok] at h
    obtain ⟨candles, -, hrows⟩ := h
    obtain ⟨rfl, hvalid⟩ := readRows_eq_ok.mp hrows
    exact hvalid

theorem mem_partitionPaths {r : DataRange} {month : ℤ} :
    month ∈ raw.partitionPaths r ↔ month ∈ monthsInRange r ∧ (raw.files month).isSome = true :=
  List.mem_filter

/-- A month without a file reads as empty. -/
theorem readable_of_none {month : ℤ} (h : (raw.files month).isSome = false) :
    store.readPartition d raw month = .ok [] := by
  unfold Storage.readPartition
  cases hfile : raw.files month with
  | none => rfl
  | some bytes =>
    rw [hfile] at h
    cases h

/-- A closed candle that can be stored can be resampled. -/
theorem validate_of_closed {c : Candle} (h : validateCandleSerialization c true = .ok ()) :
    validateCandleSerialization c false = .ok () := by
  simp only [validateCandleSerialization, bind_eq_ok, FailureKind.unless_eq_ok, exists_const]
    at h ⊢
  exact ⟨rfl, h.2⟩

/-- The RAW candles of a range are in order. -/
theorem rawRows_valid {r : DataRange} {rows : List Candle}
    (h : store.rawRows d raw r = .ok rows) :
    (∀ c ∈ rows, validateCandleSerialization c true = .ok () ∧ c.identity = d.sourceIdentity ∧
      r.contains c.openTime = true) ∧ rows.Pairwise fun c c' => c.openTime < c'.openTime := by
  simp only [rawRows, bind_eq_ok, pure, Except.pure, Except.ok.injEq] at h
  obtain ⟨partitions, hpartitions, rfl⟩ := h
  -- partitions come in month order, and so do their candles
  have hall : ∀ (months : List ℤ) (partitions : List (List Candle)), months.Pairwise (· < ·) →
      months.mapM (store.readPartition d raw) = .ok partitions →
        (∀ c ∈ partitions.flatten, validateCandleSerialization c true = .ok () ∧
          c.identity = d.sourceIdentity ∧ monthOf c.openTime ∈ months) ∧
        partitions.flatten.Pairwise fun c c' => c.openTime < c'.openTime := by
    intro months
    induction months with
    | nil =>
      rintro partitions - h
      cases h
      exact ⟨fun c hc => (List.not_mem_nil hc).elim, List.Pairwise.nil⟩
    | cons m months ih =>
      intro partitions hsorted h
      obtain ⟨hlt, hsorted'⟩ := List.pairwise_cons.mp hsorted
      obtain ⟨rows, partitions', hrows, hpartitions', rfl⟩ := mapM_cons_eq_ok.mp h
      obtain ⟨hmem, hpair⟩ := ih partitions' hsorted' hpartitions'
      have hvalid := readPartition_rows hrows
      rw [List.flatten_cons]
      constructor
      · intro c hc
        rcases List.mem_append.mp hc with hc | hc
        · obtain ⟨hid, hser, hmonth⟩ := hvalid.each c hc
          exact ⟨hser, hid, hmonth ▸ List.mem_cons_self⟩
        · obtain ⟨hser, hid, hmonth⟩ := hmem c hc
          exact ⟨hser, hid, List.mem_cons_of_mem m hmonth⟩
      · refine List.pairwise_append.mpr ⟨hvalid.sorted, hpair, fun c hc c' hc' => ?_⟩
        have hmonth := (hvalid.each c hc).2.2
        have hmonth' := hlt _ (hmem c' hc').2.2
        by_contra hle
        have hmono := monthOf_mono (not_lt.mp hle)
        rw [hmonth] at hmono
        omega
  obtain ⟨hmem, hpair⟩ := hall _ _ ((monthsInRange_sorted r).filter _) hpartitions
  refine ⟨fun c hc => ?_, hpair.filter _⟩
  obtain ⟨hc, hin⟩ := List.mem_filter.mp hc
  obtain ⟨hser, hid, -⟩ := hmem c hc
  exact ⟨hser, hid, hin⟩

/-- The RAW candles of a range can be read when its partitions can. -/
theorem exists_rawRows {r : DataRange}
    (h : ∀ m ∈ raw.partitionPaths r, store.Readable d raw m) :
    ∃ rows, store.rawRows d raw r = .ok rows := by
  obtain ⟨partitions, hpartitions⟩ := mapM_of_forall h
  refine ⟨partitions.flatten.filter fun c => r.contains c.openTime, ?_⟩
  unfold rawRows
  rw [hpartitions]
  rfl

/-- Filtering a concatenation for what only one part holds filters that part. -/
theorem filter_flatten_of_mapM {months : List ℤ} {partitions : List (List Candle)} {m₀ : ℤ}
    {rows : List Candle} {p : Candle → Bool} (hnodup : months.Nodup)
    (h : months.mapM (store.readPartition d raw) = .ok partitions)
    (hrows : store.readPartition d raw m₀ = .ok rows)
    (hp : ∀ c, p c = true → monthOf c.openTime = m₀) (hm₀ : m₀ ∈ months ∨ rows = []) :
    partitions.flatten.filter p = rows.filter p := by
  have hnone : ∀ (months : List ℤ) (partitions : List (List Candle)), m₀ ∉ months →
      months.mapM (store.readPartition d raw) = .ok partitions →
        partitions.flatten.filter p = [] := by
    intro months
    induction months with
    | nil =>
      rintro partitions - h
      cases h
      rfl
    | cons m months ih =>
      intro partitions hnot h
      obtain ⟨hne, hnot'⟩ := not_or.mp fun hor => hnot (List.mem_cons.mpr hor)
      obtain ⟨rows', partitions', hrows', hpartitions', rfl⟩ := mapM_cons_eq_ok.mp h
      rw [List.flatten_cons, List.filter_append, ih partitions' hnot' hpartitions',
        List.append_nil, List.filter_eq_nil_iff]
      intro c hc hpc
      exact hne ((hp c hpc).symm.trans ((readPartition_rows hrows').each c hc).2.2)
  induction months generalizing partitions with
  | nil =>
    cases h
    rcases hm₀ with hm₀ | rfl
    · cases hm₀
    · rfl
  | cons m months ih =>
    obtain ⟨hnot, hnodup'⟩ := List.nodup_cons.mp hnodup
    obtain ⟨rows', partitions', hrows', hpartitions', rfl⟩ := mapM_cons_eq_ok.mp h
    rw [List.flatten_cons, List.filter_append]
    by_cases hm : m = m₀
    · subst hm
      rw [hrows] at hrows'
      cases hrows'
      rw [hnone months partitions' hnot hpartitions', List.append_nil]
    · have hrest : m₀ ∈ months ∨ rows = [] := by
        rcases hm₀ with hm₀ | hempty
        · rcases List.mem_cons.mp hm₀ with rfl | hm₀
          · exact absurd rfl hm
          · exact .inl hm₀
        · exact .inr hempty
      rw [ih hnodup' hpartitions' hrest]
      have hfirst : rows'.filter p = [] := by
        rw [List.filter_eq_nil_iff]
        intro c hc hpc
        exact hm (((readPartition_rows hrows').each c hc).2.2.symm.trans (hp c hpc))
      rw [hfirst, List.nil_append]

/-- The windows of an aligned range. -/
theorem ResamplingPlan.Aligned.mem_windowStarts (hal : plan.Aligned) {w : ℤ} :
    w ∈ windowStarts plan.dataRange plan.series.target.duration ↔
      plan.series.target.duration ∣ w ∧ plan.dataRange.contains w = true := by
  rw [MarketData.mem_windowStarts plan.series.target.duration_pos, dvd_sub_left hal.start]
  simp only [DataRange.contains, Bool.and_eq_true, decide_eq_true_eq]
  constructor
  · rintro ⟨h0, h1, h2⟩
    exact ⟨h2, h0, h1⟩
  · rintro ⟨h2, h0, h1⟩
    exact ⟨h0, h1, h2⟩

/-- A window of an aligned range ends in it. -/
theorem ResamplingPlan.Aligned.window_le (hal : plan.Aligned) {w : ℤ}
    (hw : plan.series.target.duration ∣ w) (hin : plan.dataRange.contains w = true) :
    w + plan.series.target.duration ≤ plan.dataRange.stop := by
  simp only [DataRange.contains, Bool.and_eq_true, decide_eq_true_eq] at hin
  obtain ⟨a, ha⟩ := hal.stop
  obtain ⟨b, rfl⟩ := hw
  have hlt := hin.2
  rw [ha] at hlt ⊢
  have hab : b + 1 ≤ a := lt_of_mul_lt_mul_left hlt plan.series.target.duration_pos.le
  calc plan.series.target.duration * b + plan.series.target.duration
      = plan.series.target.duration * (b + 1) := by ring
    _ ≤ plan.series.target.duration * a :=
        mul_le_mul_of_nonneg_left hab plan.series.target.duration_pos.le

/-- The group of a window comes from the partition of its month. -/
theorem windowGroup_rawRows (hal : plan.Aligned) {rows monthRows : List Candle} {w : ℤ}
    (h : store.rawRows plan.series raw plan.dataRange = .ok rows)
    (hw : plan.series.target.duration ∣ w) (hin : plan.dataRange.contains w = true)
    (hmonth : store.readPartition plan.series raw (monthOf w) = .ok monthRows) :
    windowGroup rows plan.series.target w = windowGroup monthRows plan.series.target w := by
  simp only [rawRows, bind_eq_ok, pure, Except.pure, Except.ok.injEq] at h
  obtain ⟨partitions, hpartitions, rfl⟩ := h
  have hgroup : ∀ c : Candle, (groupStart c.openTime plan.series.target == w) = true →
      w ≤ c.openTime ∧ c.openTime < w + plan.series.target.duration := by
    intro c hc
    exact (groupStart_eq_iff hw).mp (by simpa using hc)
  have hcontains : ∀ c : Candle, (groupStart c.openTime plan.series.target == w) = true →
      plan.dataRange.contains c.openTime = true := by
    intro c hc
    obtain ⟨h0, h1⟩ := hgroup c hc
    have hstop := hal.window_le hw hin
    simp only [DataRange.contains, Bool.and_eq_true, decide_eq_true_eq] at hin ⊢
    exact ⟨hin.1.trans h0, h1.trans_le hstop⟩
  have hfilter : windowGroup (partitions.flatten.filter fun c => plan.dataRange.contains c.openTime)
      plan.series.target w =
        partitions.flatten.filter fun c => groupStart c.openTime plan.series.target == w := by
    unfold windowGroup
    rw [List.filter_filter]
    refine List.filter_congr fun c _ => ?_
    rw [Bool.and_eq_left_iff_imp]
    exact hcontains c
  rw [hfilter]
  have hnodup : (raw.partitionPaths plan.dataRange).Nodup :=
    ((monthsInRange_sorted plan.dataRange).filter _).imp fun h => h.ne
  refine filter_flatten_of_mapM hnodup hpartitions hmonth ?_ ?_
  · intro c hc
    obtain ⟨h0, h1⟩ := hgroup c hc
    exact monthOf_of_window hw h0 h1
  · cases hfile : (raw.files (monthOf w)).isSome with
    | true =>
      exact .inl (mem_partitionPaths.mpr ⟨mem_monthsInRange_of_contains hin, hfile⟩)
    | false =>
      rw [readable_of_none hfile] at hmonth
      cases hmonth
      exact .inr rfl

/-- What a window yields opens with it, in the target series. -/
theorem window_eq_some {groupSize w : ℤ} {c : Candle}
    (h : store.window ctx d groupSize raw w = .ok (some c)) :
    c.openTime = w ∧ c.identity = d.targetIdentity := by
  rw [window, bind_eq_ok] at h
  obtain ⟨rows, hrows, hw⟩ := h
  obtain ⟨hopen, -, -, hne, hid⟩ := resampleWindow_eq_some hw
  refine ⟨hopen, hid.trans ?_⟩
  have hmem : (windowGroup rows d.target w).head hne ∈ rows :=
    (List.mem_filter.mp (List.head_mem hne)).1
  have hsource := ((readPartition_rows hrows).each _ hmem).1
  obtain ⟨hex, hrest⟩ := Prod.mk.inj hsource
  obtain ⟨hmt, hrest⟩ := Prod.mk.inj hrest
  obtain ⟨hsym, -⟩ := Prod.mk.inj hrest
  rw [hex, hmt, hsym]
  rfl

/-- **A rebuild returns the windows' candles.** -/
theorem buildResult_window (hal : plan.Aligned) {r : ResamplingResult Digest}
    (h : store.buildResult ctx raw plan = .ok r) :
    (∀ w, plan.series.target.duration ∣ w → plan.dataRange.contains w = true →
      store.window ctx plan.series plan.groupSize raw w = .ok (candleAt r.candles w)) ∧
    ResultValid plan.series plan.dataRange r.candles ∧
    ∀ c ∈ r.candles, plan.series.target.duration ∣ c.openTime := by
  rw [buildResult, bind_eq_ok] at h
  obtain ⟨rows, hrows, hresample⟩ := h
  obtain ⟨windows, hwindows, hcandles, -⟩ := resample_eq_ok hresample
  have hread : ∀ w, plan.dataRange.contains w = true →
      ∃ monthRows, store.readPartition plan.series raw (monthOf w) = .ok monthRows := by
    intro w hin
    cases hfile : (raw.files (monthOf w)).isSome with
    | false => exact ⟨[], readable_of_none hfile⟩
    | true =>
      simp only [rawRows, bind_eq_ok] at hrows
      obtain ⟨partitions, hpartitions, -⟩ := hrows
      obtain ⟨monthRows, -, hmonth⟩ := forall_of_mapM hpartitions (monthOf w)
        (mem_partitionPaths.mpr ⟨mem_monthsInRange_of_contains hin, hfile⟩)
      exact ⟨monthRows, hmonth⟩
  have hwindow : ∀ w, plan.series.target.duration ∣ w → plan.dataRange.contains w = true →
      store.window ctx plan.series plan.groupSize raw w =
        resampleWindow ctx plan.series plan.groupSize
          (windowGroup rows plan.series.target w) w := by
    intro w hw hin
    obtain ⟨monthRows, hmonth⟩ := hread w hin
    rw [window, hmonth, ok_bind, windowGroup_rawRows hal hrows hw hin hmonth]
  have hopen : ∀ w c, resampleWindow ctx plan.series plan.groupSize
      (windowGroup rows plan.series.target w) w = .ok (some c) → c.openTime = w :=
    fun w c hc => (resampleWindow_eq_some hc).1
  have hnodup : (windowStarts plan.dataRange plan.series.target.duration).Nodup :=
    (windowStarts_sorted plan.series.target.duration_pos).imp fun h => h.ne
  rw [hcandles]
  refine ⟨fun w hw hin => ?_, ⟨fun c hc => ?_, ?_⟩, fun c hc => ?_⟩
  · rw [hwindow w hw hin]
    exact (candleAt_filterMap hopen hnodup hwindows w).1 (hal.mem_windowStarts.mpr ⟨hw, hin⟩)
  · obtain ⟨hmem, hval⟩ := openTime_mem_of_windows hopen hwindows hc
    obtain ⟨hw, hin⟩ := hal.mem_windowStarts.mp hmem
    rw [← hwindow _ hw hin] at hval
    exact ⟨hin, (window_eq_some hval).2⟩
  · exact (windows_sorted hopen (windowStarts_sorted plan.series.target.duration_pos)
      hwindows).imp fun h => h.ne
  · exact (hal.mem_windowStarts.mp (openTime_mem_of_windows hopen hwindows hc).1).1

/-- **A rebuild returns** when the partitions can be read and no window is refused. -/
theorem exists_buildResult (hal : plan.Aligned)
    (hread : ∀ m ∈ raw.partitionPaths plan.dataRange, store.Readable plan.series raw m)
    (hwindow : ∀ w, plan.series.target.duration ∣ w → plan.dataRange.contains w = true →
      ∃ v, store.window ctx plan.series plan.groupSize raw w = .ok v) :
    ∃ r, store.buildResult ctx raw plan = .ok r := by
  obtain ⟨rows, hrows⟩ := exists_rawRows hread
  obtain ⟨hvalid, hsorted⟩ := rawRows_valid hrows
  obtain ⟨last, hlast⟩ := foldlM_checkSource (by
    intro c hc
    obtain ⟨hser, hid, hin⟩ := hvalid c hc
    simp only [DataRange.contains, Bool.and_eq_true, decide_eq_true_eq] at hin
    exact ⟨validate_of_closed hser, hid, hin⟩) hsorted none (by
    rintro p ⟨⟩)
  obtain ⟨windows, hwindows⟩ := mapM_of_forall
    (l := windowStarts plan.dataRange plan.series.target.duration)
    (f := fun start => resampleWindow ctx plan.series plan.groupSize
      (windowGroup rows plan.series.target start) start) (by
    intro w hw
    obtain ⟨hdvd, hin⟩ := hal.mem_windowStarts.mp hw
    obtain ⟨v, hv⟩ := hwindow w hdvd hin
    rw [window, bind_eq_ok] at hv
    obtain ⟨monthRows, hmonth, hv⟩ := hv
    rw [← windowGroup_rawRows hal hrows hdvd hin hmonth] at hv
    exact ⟨v, hv⟩)
  obtain ⟨r, hr, -⟩ := resample_ok ctx store.canonicalDigest hal.groupSize hlast hwindows
  refine ⟨r, ?_⟩
  rw [buildResult, hrows, ok_bind]
  exact hr

end MarketData
end DryTrade
