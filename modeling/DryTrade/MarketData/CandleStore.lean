import DryTrade.MarketData.Commit

/-!
# Reading stored candles

The monthly partition files of one series, and the candles of a range read from them.  Every
row that is read passes the checks of the store, so what a range returns is exactly what the
files of its months hold in it.

## Main definitions

* `PartitionFiles.readFile`, `.partitionPaths`, `.readRange` — reading the store.
* `PartitionFiles.StoredAt` — a candle that opens at an instant is stored in its partition.

## Main results

* `readRange_openTime` — the range returns the stored open times of the range.
-/

namespace DryTrade
namespace MarketData

namespace PartitionFiles

variable (identity : Exchange × MarketType × String × String) (files : PartitionFiles)

/-- `_read_file`: a partition that does not exist has no rows. -/
def readFile (month : ℤ) : Except Failure (List Candle) :=
  match files.file month with
  | none => .ok []
  | some rows => readRows identity month rows

/-- `_partition_paths`: the months of the range that have a file. -/
def partitionPaths (r : DataRange) : List ℤ :=
  (monthsInRange r).filter fun m => (files.file m).isSome

/-- `read`. -/
def readRange (r : DataRange) : Except Failure (List Candle) := do
  let candles ← (files.partitionPaths r).mapM (files.readFile identity)
  return (sortByOpenTime candles.flatten).filter fun c => r.contains c.openTime

/-- A candle that opens at `t` is stored in the partition of its month. -/
def StoredAt (t : Instant) : Prop :=
  ∃ rows, files.file (monthOf t) = some rows ∧ ∃ c ∈ rows, c.openTime = t

end PartitionFiles

section

variable {identity : Exchange × MarketType × String × String} {files : PartitionFiles}
  {month : ℤ} {rows : List Candle}

/-- A partition is read exactly when its rows pass the checks. -/
theorem readFile_eq_ok : files.readFile identity month = .ok rows ↔
    rows = (files.file month).getD [] ∧ PartitionRows identity month rows := by
  unfold PartitionFiles.readFile
  cases hfile : files.file month with
  | none =>
    rw [Option.getD_none]
    constructor
    · intro h
      cases h
      exact ⟨rfl, .nil⟩
    · rintro ⟨rfl, -⟩
      rfl
  | some candles =>
    rw [Option.getD_some, readRows_eq_ok]
    exact ⟨fun ⟨h, hrows⟩ => ⟨h, h ▸ hrows⟩, fun ⟨h, hrows⟩ => ⟨h, h ▸ hrows⟩⟩

/-- The rows of the partitions that were read. -/
theorem mem_flatten_of_readFile {months : List ℤ} {out : List (List Candle)}
    (h : months.mapM (files.readFile identity) = .ok out) {c : Candle} :
    c ∈ out.flatten ↔ ∃ m ∈ months, c ∈ (files.file m).getD [] := by
  rw [List.mem_flatten]
  constructor
  · rintro ⟨rows, hrows, hc⟩
    obtain ⟨m, hm, hread⟩ := mem_of_mapM h hrows
    exact ⟨m, hm, (readFile_eq_ok.mp hread).1 ▸ hc⟩
  · rintro ⟨m, hm, hc⟩
    obtain ⟨rows, hrows, hread⟩ := forall_of_mapM h m hm
    exact ⟨rows, hrows, (readFile_eq_ok.mp hread).1 ▸ hc⟩

/-- **A range returns its stored open times.** -/
theorem readRange_openTime {r : DataRange} (h : files.readRange identity r = .ok rows)
    {t : Instant} : t ∈ rows.map (·.openTime) ↔ r.start ≤ t ∧ t < r.stop ∧ files.StoredAt t := by
  simp only [PartitionFiles.readRange, bind_eq_ok, pure, Except.pure, Except.ok.injEq] at h
  obtain ⟨out, hout, rfl⟩ := h
  have hmem := fun c => mem_flatten_of_readFile hout (c := c)
  simp only [List.mem_map, List.mem_filter, mem_sortByOpenTime, hmem, DataRange.contains,
    Bool.and_eq_true, decide_eq_true_eq]
  constructor
  · rintro ⟨c, ⟨⟨m, hm, hc⟩, hstart, hstop⟩, rfl⟩
    refine ⟨hstart, hstop, ?_⟩
    obtain ⟨rows, -, hread⟩ := forall_of_mapM hout m hm
    obtain ⟨rfl, hrows⟩ := readFile_eq_ok.mp hread
    rw [PartitionFiles.StoredAt, (hrows.each c hc).2.2]
    cases hfile : files.file m with
    | none => simp [hfile] at hc
    | some candles => exact ⟨candles, rfl, c, by simpa [hfile] using hc, rfl⟩
  · rintro ⟨hstart, hstop, candles, hfile, c, hc, rfl⟩
    refine ⟨c, ⟨⟨monthOf c.openTime, ?_, by rw [hfile]; exact hc⟩, hstart, hstop⟩, rfl⟩
    exact List.mem_filter.mpr ⟨monthOf_mem_monthsInRange hstart hstop, by rw [hfile]; rfl⟩

end

end MarketData
end DryTrade
