import DryTrade.MarketData.Upsert

/-!
# Well-formed partition files

The files of one series are well formed when every month has at most one and its rows are those
a file of the month may hold.  Such files are read back without an error, whole or in a range,
and hold the candles of each month in one place.

## Main definitions

* `PartitionFiles.held` — every candle of the files.
* `PartitionFiles.Valid` — the well-formed files.

## Main results

* `Valid.readRange` — a range returns the candles held in it, in order.
* `Valid.firstLastCount` — the boundaries and the count are those of the candles held.
* `Valid.replace` — a month may be replaced.
-/

namespace DryTrade
namespace MarketData

/-! ### Candles of one series -/

theorem Candle.key_eq_iff {c c' : Candle} (h : c.identity = c'.identity) :
    c.key = c'.key ↔ c.openTime = c'.openTime := by
  simp only [Candle.identity, Candle.key, Prod.mk.injEq] at h ⊢
  exact ⟨fun hkey => hkey.2.2.2, fun hopen => ⟨h.1, h.2.2.1, h.2.2.2, hopen⟩⟩

/-- Rows in the order of their opening do not share a key. -/
theorem distinct_of_sorted {rows : List Candle}
    (h : rows.Pairwise fun c c' => c.openTime < c'.openTime) :
    KeyedRows.Distinct Candle.key rows :=
  h.imp fun hlt hkey => by
    simp only [Candle.key, Prod.mk.injEq] at hkey
    exact hlt.ne hkey.2.2.2

/-- Rows of one series that do not share a key open at different instants. -/
theorem openTime_distinct {identity : SeriesIdentity} {rows : List Candle}
    (hid : ∀ c ∈ rows, c.identity = identity) (h : KeyedRows.Distinct Candle.key rows) :
    rows.Pairwise fun c c' => c.openTime ≠ c'.openTime :=
  List.Pairwise.imp_of_mem (fun hc hc' hne hopen =>
    hne ((Candle.key_eq_iff ((hid _ hc).trans (hid _ hc').symm)).mpr hopen)) h

/-- A loop whose every turn folds the items of its element is one fold of them all. -/
theorem foldlM_eq_foldl_flatMap {ε α β γ : Type} {f : β → γ → Except ε β} {g : β → α → β}
    {items : γ → List α} {l : List γ}
    (hf : ∀ s, ∀ a ∈ l, f s a = .ok ((items a).foldl g s)) (s : β) :
    l.foldlM f s = .ok ((l.flatMap items).foldl g s) := by
  induction l generalizing s with
  | nil => rfl
  | cons a l ih =>
    rw [List.foldlM_cons, hf s a List.mem_cons_self, ok_bind, List.flatMap_cons, List.foldl_append]
    exact ih (fun s b hb => hf s b (List.mem_cons_of_mem _ hb)) _

/-! ### Boundaries -/

namespace RawPartitionIntegritySnapshot

theorem count_right_comm (s : RawPartitionIntegritySnapshot) (c c' : Candle) :
    (s.count c).count c' = (s.count c').count c := by
  obtain ⟨first, last, n⟩ := s
  cases first <;> cases last <;>
    simp [count, min_comm, max_comm, min_left_comm, max_left_comm]

/-- The order of the candles does not matter. -/
theorem foldl_count_perm {rows rows' : List Candle} (h : rows.Perm rows')
    (s : RawPartitionIntegritySnapshot) : rows.foldl count s = rows'.foldl count s := by
  have hcomm : RightCommutative count := ⟨count_right_comm⟩
  exact h.foldl_eq s

/-- Every candle is counted. -/
theorem foldl_count_candleCount (rows : List Candle) (s : RawPartitionIntegritySnapshot) :
    (rows.foldl count s).candleCount = s.candleCount + rows.length := by
  induction rows generalizing s with
  | nil => rfl
  | cons c rows ih =>
    rw [List.foldl_cons, ih, List.length_cons]
    change s.candleCount + 1 + rows.length = _
    omega

/-- Of rows in order, the first and the last one bound the others. -/
theorem foldl_count_sorted (s : RawPartitionIntegritySnapshot) {c : Candle} {rows : List Candle}
    (h : (c :: rows).Pairwise fun c c' => c.openTime < c'.openTime) :
    (c :: rows).foldl count s = {
      firstOpenTime := some (s.firstOpenTime.elim c.openTime (min · c.openTime))
      lastOpenTime := some (s.lastOpenTime.elim ((c :: rows).getLast (by simp)).openTime
        (max · ((c :: rows).getLast (by simp)).openTime))
      candleCount := s.candleCount + (c :: rows).length } := by
  induction rows generalizing s c with
  | nil => rfl
  | cons c' rows ih =>
    have hlt : c.openTime < c'.openTime := (List.pairwise_cons.mp h).1 c' (by simp)
    have hlast : c.openTime ≤ ((c' :: rows).getLast (by simp)).openTime :=
      ((List.pairwise_cons.mp h).1 _ (List.getLast_mem _)).le
    rw [List.foldl_cons, ih (s.count c) (List.pairwise_cons.mp h).2,
      List.getLast_cons (List.cons_ne_nil c' rows)]
    simp only [count, List.length_cons, RawPartitionIntegritySnapshot.mk.injEq, Option.some.injEq,
      Option.elim_some]
    refine ⟨?_, ?_, by omega⟩
    · cases s.firstOpenTime with
      | none => exact min_eq_left hlt.le
      | some first => exact (min_assoc _ _ _).trans (by rw [min_eq_left hlt.le]; rfl)
    · cases s.lastOpenTime with
      | none => exact max_eq_right hlast
      | some last => exact (max_assoc _ _ _).trans (by rw [max_eq_right hlast]; rfl)

end RawPartitionIntegritySnapshot

/-! ### Files -/

namespace PartitionFiles

/-- Every candle of the files. -/
def held (files : PartitionFiles) : List Candle := files.flatMap (·.2)

/-- Well-formed files: one a month, with rows that a file of the month may hold. -/
structure Valid (identity : SeriesIdentity) (files : PartitionFiles) : Prop where
  nodup : (files.map (·.1)).Nodup
  rows : ∀ p ∈ files, PartitionRows identity p.1 p.2

variable {identity : SeriesIdentity} {files : PartitionFiles} {month : ℤ}

theorem Valid.rowsAt (h : files.Valid identity) (month : ℤ) :
    PartitionRows identity month (files.rowsAt month) := by
  unfold PartitionFiles.rowsAt
  cases hfile : files.file month with
  | none => exact .nil
  | some rows => exact h.rows (month, rows) ((PartitionFiles.file_eq_some h.nodup).mp hfile)

theorem Valid.readFile (h : files.Valid identity) (month : ℤ) :
    files.readFile identity month = .ok (files.rowsAt month) :=
  readFile_eq_ok.mpr ⟨rfl, h.rowsAt month⟩

/-- A candle is held in the partition of its month. -/
theorem Valid.mem_held (h : files.Valid identity) {c : Candle} :
    c ∈ files.held ↔ c ∈ files.rowsAt (monthOf c.openTime) := by
  unfold held PartitionFiles.rowsAt
  constructor
  · intro hc
    obtain ⟨⟨month, rows⟩, hmem, hrow⟩ := List.mem_flatMap.mp hc
    have hmonth := ((h.rows _ hmem).each c hrow).2.2
    dsimp only at hmonth hrow
    rw [hmonth, (PartitionFiles.file_eq_some h.nodup).mpr hmem]
    exact hrow
  · intro hc
    cases hfile : files.file (monthOf c.openTime) with
    | none => simp [hfile] at hc
    | some rows =>
      rw [hfile, Option.getD_some] at hc
      exact List.mem_flatMap.mpr ⟨_, (PartitionFiles.file_eq_some h.nodup).mp hfile, hc⟩

theorem Valid.each (h : files.Valid identity) {c : Candle} (hc : c ∈ files.held) :
    c.identity = identity ∧ validateCandleSerialization c true = .ok () :=
  have hrow := (h.rowsAt _).each c (h.mem_held.mp hc)
  ⟨hrow.1, hrow.2.1⟩

/-- Candles of different months open at different instants, and those of one month too. -/
theorem Valid.distinct (h : files.Valid identity) : KeyedRows.Distinct Candle.key files.held := by
  unfold held KeyedRows.Distinct
  rw [List.pairwise_flatMap]
  refine ⟨fun p hp => distinct_of_sorted (h.rows p hp).sorted, ?_⟩
  refine List.Pairwise.imp_of_mem ?_ (List.pairwise_map.mp h.nodup)
  intro p q hp hq hne c hc c' hc' hkey
  simp only [Candle.key, Prod.mk.injEq] at hkey
  exact hne (((h.rows p hp).each c hc).2.2.symm.trans
    ((congrArg monthOf hkey.2.2.2).trans ((h.rows q hq).each c' hc').2.2))

/-- The rows of the months of the files, one month after another. -/
theorem Valid.flatMap_rowsAt (h : files.Valid identity) {months : List ℤ}
    (hmonths : months.Perm (files.map (·.1))) : (months.flatMap files.rowsAt).Perm files.held := by
  refine (hmonths.flatMap_right _).trans ?_
  rw [List.flatMap_map]
  refine List.Perm.of_eq (List.flatMap_congr fun p hp => ?_)
  unfold PartitionFiles.rowsAt
  rw [(PartitionFiles.file_eq_some h.nodup).mpr (show (p.1, p.2) ∈ files from hp)]
  rfl

theorem sortedMonths_perm (files : PartitionFiles) :
    files.sortedMonths.Perm (files.map (·.1)) := List.perm_insertionSort _ _

/-- **The boundaries of the files are those of the candles held.** -/
theorem Valid.firstLastCount (h : files.Valid identity) : files.firstLastCount identity =
    .ok (files.held.foldl RawPartitionIntegritySnapshot.count .empty) := by
  unfold PartitionFiles.firstLastCount
  rw [← RawPartitionIntegritySnapshot.foldl_count_perm (h.flatMap_rowsAt files.sortedMonths_perm)]
  refine foldlM_eq_foldl_flatMap (fun s month _ => ?_) _
  have hsorted := (h.rowsAt month).sorted
  rw [h.readFile, ok_bind]
  cases hrows : files.rowsAt month with
  | nil => rfl
  | cons c rows =>
    rw [hrows] at hsorted
    rw [RawPartitionIntegritySnapshot.foldl_count_sorted s hsorted, List.head?_cons,
      List.getLast?_eq_some_getLast (List.cons_ne_nil c rows)]
    rfl

/-- **A range returns the candles held in it, in order.** -/
theorem Valid.readRange (h : files.Valid identity) (r : DataRange) :
    ∃ rows, files.readRange identity r = .ok rows ∧
      (rows.Pairwise fun c c' => c.openTime < c'.openTime) ∧
      ∀ c, c ∈ rows ↔ c ∈ files.held ∧ r.start ≤ c.openTime ∧ c.openTime < r.stop := by
  have hread : (files.partitionPaths r).mapM (files.readFile identity) =
      .ok ((files.partitionPaths r).map files.rowsAt) := mapM_eq_map fun m _ => h.readFile m
  have hmonths : (files.partitionPaths r).Pairwise (· < ·) := (monthsInRange_sorted r).filter _
  have hsorted : ((files.partitionPaths r).map files.rowsAt).flatten.Pairwise
      fun c c' => c.openTime < c'.openTime := by
    rw [List.pairwise_flatten, List.pairwise_map]
    refine ⟨?_, hmonths.imp fun hlt c hc c' hc' => ?_⟩
    · rintro _ hrows
      obtain ⟨m, -, rfl⟩ := List.mem_map.mp hrows
      exact (h.rowsAt m).sorted
    · rw [← ((h.rowsAt _).each c hc).2.2, ← ((h.rowsAt _).each c' hc').2.2] at hlt
      exact not_le.mp fun hle => absurd (monthOf_mono hle) (not_le.mpr hlt)
  refine ⟨(sortByOpenTime ((files.partitionPaths r).map files.rowsAt).flatten).filter fun c =>
    r.contains c.openTime, ?_, ?_, fun c => ?_⟩
  · unfold PartitionFiles.readRange
    rw [hread, ok_bind]
    rfl
  · exact (sortByOpenTime_sorted (hsorted.imp ne_of_lt)).filter _
  · rw [List.mem_filter, mem_sortByOpenTime, ← List.flatMap_def, List.mem_flatMap, h.mem_held,
      DataRange.contains, Bool.and_eq_true, decide_eq_true_eq, decide_eq_true_eq]
    refine and_congr_left fun hin => ⟨?_, fun hc => ?_⟩
    · rintro ⟨m, -, hc⟩
      rw [((h.rowsAt m).each c hc).2.2]
      exact hc
    · refine ⟨_, List.mem_filter.mpr ⟨monthOf_mem_monthsInRange hin.1 hin.2, ?_⟩, hc⟩
      unfold PartitionFiles.rowsAt at hc
      cases hfile : files.file (monthOf c.openTime) with
      | none => simp [hfile] at hc
      | some rows => rfl

/-! ### Replacing a month -/

theorem file_replace {candles : List Candle} {m : ℤ} :
    (files.replace month candles).file m = if m = month then some candles else files.file m := by
  unfold PartitionFiles.file PartitionFiles.replace
  rw [List.find?_append, List.find?_filter]
  split_ifs with hm
  · subst hm
    rw [List.find?_eq_none.mpr fun p _ => by simp]
    simp
  · have heq : (fun p : ℤ × List Candle => decide ((p.1 != month) = true ∧ (p.1 == m) = true)) =
        fun p => p.1 == m := by
      funext p
      by_cases hp : p.1 = m
      · simp [hp, hm]
      · simp [hp]
    rw [heq]
    cases files.find? fun p => p.1 == m with
    | none => simp [Ne.symm hm]
    | some p => simp

theorem rowsAt_replace {candles : List Candle} {m : ℤ} :
    (files.replace month candles).rowsAt m = if m = month then candles else files.rowsAt m := by
  unfold PartitionFiles.rowsAt
  rw [file_replace]
  split_ifs <;> rfl

theorem Valid.replace (h : files.Valid identity) {candles : List Candle}
    (hc : PartitionRows identity month candles) : (files.replace month candles).Valid identity := by
  constructor
  · unfold PartitionFiles.replace
    rw [List.map_append, List.nodup_append]
    refine ⟨h.nodup.sublist (List.filter_sublist.map _), by simp, ?_⟩
    rintro m hm m' hm' rfl
    obtain ⟨p, hp, rfl⟩ := List.mem_map.mp hm
    have hne := (List.mem_filter.mp hp).2
    simp at hm' hne
    exact hne hm'
  · intro p hp
    rcases List.mem_append.mp hp with hp | hp
    · exact h.rows p (List.mem_filter.mp hp).1
    · rw [List.mem_singleton.mp hp]
      exact hc

/-- What a replaced month does to the number of candles. -/
theorem Valid.length_held_replace (h : files.Valid identity) (month : ℤ) (candles : List Candle) :
    (files.replace month candles).held.length + (files.rowsAt month).length =
      files.held.length + candles.length := by
  have hsplit : ∀ l : PartitionFiles, (l.map (·.1)).Nodup →
      ((l.filter fun p => p.1 != month).flatMap (·.2)).length + (l.rowsAt month).length =
        (l.flatMap (·.2)).length := by
    intro l
    induction l with
    | nil => exact fun _ => rfl
    | cons p l ih =>
      intro hnodup
      rw [List.map_cons, List.nodup_cons] at hnodup
      have hrest := ih hnodup.2
      unfold PartitionFiles.rowsAt PartitionFiles.file at hrest ⊢
      rw [List.filter_cons, List.find?_cons]
      by_cases hp : p.1 = month
      · have hnone : l.find? (fun p => p.1 == month) = none :=
          List.find?_eq_none.mpr fun q hq heq =>
            hnodup.1 (List.mem_map.mpr ⟨q, hq, (beq_iff_eq.mp heq).trans hp.symm⟩)
        simp only [hp, hnone, bne_self_eq_false, beq_self_eq_true, List.flatMap_cons,
          List.length_append, Option.map_some, Option.getD_some, Option.map_none, Option.getD_none,
          List.length_nil] at hrest ⊢
        simp only [Bool.false_eq_true, if_false]
        omega
      · have hbeq : (p.1 == month) = false := by simpa using hp
        simp only [bne, hbeq, Bool.not_false, if_true, List.flatMap_cons, List.length_append]
          at hrest ⊢
        omega
  have := hsplit files h.nodup
  unfold held PartitionFiles.replace
  rw [List.flatMap_append, List.length_append]
  simp only [List.flatMap_cons, List.flatMap_nil, List.append_nil]
  omega

end PartitionFiles

end MarketData
end DryTrade
