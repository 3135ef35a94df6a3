import DryTrade.MarketData.CandleStore
import DryTrade.Operations.Jobs
import DryTrade.Runs

/-!
# Gap repair plans

The planner reads the stored candles of an aligned range, finds the maximal ranges that hold
none, and plans a backfill of each.  The chunks of these backfills are numbered through and
become the chunks of one plan.

## Main definitions

* `findGapRanges` — the ranges without a stored candle.
* `MarketDataPlanner.gaps` — the repair plan of a range.
* `Chunked` — numbered chunks in order, and the open times they hold.

## Main results

* `findGapRanges_spec` — the gaps of a range are the runs of its missing open times.
* `gaps_chunked` — the chunks of a repair hold what is not stored.
* `plans_cover_missing` — plans hold what is missing, and survive the job catalog.
-/

namespace DryTrade
namespace Operations

open MarketData

/-! ### The gaps of a range -/

/-- `DataRange(start, stop)`, which may not be empty. -/
def dataRange (start stop : Instant) : Except OperationError DataRange :=
  if h : start < stop then .ok ⟨start, stop, h⟩ else .error .invalidDataRange

/-- One turn of the loop of `find_gap_ranges`: the gaps so far, and where the open one starts. -/
def gapTurn (observed : List Instant) (state : List DataRange × Option Instant)
    (cursor : Instant) : Except OperationError (List DataRange × Option Instant) :=
  let gapStart := if cursor ∉ observed ∧ state.2 = none then some cursor else state.2
  match gapStart with
  | none => .ok (state.1, none)
  | some start =>
    if cursor ∈ observed then do
      let gap ← dataRange start cursor
      pure (state.1 ++ [gap], none)
    else .ok (state.1, some start)

/-- The gap that is still open when the loop ends. -/
def closeGap (stop : Instant) (state : List DataRange × Option Instant) :
    Except OperationError (List DataRange) :=
  match state.2 with
  | none => .ok state.1
  | some start => do
    let gap ← dataRange start stop
    pure (state.1 ++ [gap])

/-- `find_gap_ranges`. -/
def findGapRanges (observed : List Instant) (tf : Timeframe) (r : DataRange) :
    Except OperationError (List DataRange) := do
  let _ ← expectedCandleCount r tf
  let state ← (windowStarts r tf.duration).foldlM (gapTurn observed) ([], none)
  closeGap r.stop state

/-- The bounds of a range. -/
def bounds (r : DataRange) : ℤ × ℤ := (r.start, r.stop)

section

variable {observed : List Instant} {gaps : List DataRange} {a x stop : Instant}

theorem dataRange_eq_ok (h : a < stop) : dataRange a stop = .ok ⟨a, stop, h⟩ := dif_pos h

theorem gapTurn_skip (hx : x ∈ observed) :
    gapTurn observed (gaps, none) x = .ok (gaps, none) := by
  simp [gapTurn, hx]

theorem gapTurn_open (hx : x ∉ observed) :
    gapTurn observed (gaps, none) x = .ok (gaps, some x) := by
  simp [gapTurn, hx]

theorem gapTurn_extend (hx : x ∉ observed) :
    gapTurn observed (gaps, some a) x = .ok (gaps, some a) := by
  simp [gapTurn, hx]

theorem gapTurn_close (hx : x ∈ observed) (hax : a < x) :
    gapTurn observed (gaps, some a) x = .ok (gaps ++ [⟨a, x, hax⟩], none) := by
  simp only [gapTurn, hx, not_true_eq_false, false_and, if_false, if_true, dataRange_eq_ok hax]
  rfl

/-- The loop finds the runs of what is not observed. -/
theorem foldlM_gapTurn {l : List ℤ} (gaps : List DataRange) (opened : Option Instant)
    (hl : (opened.toList ++ l).Pairwise (· < ·)) (hstop : ∀ t ∈ opened.toList ++ l, t < stop) :
    ∃ gaps', (l.foldlM (gapTurn observed) (gaps, opened) >>= closeGap stop) = .ok gaps' ∧
      gaps'.map bounds =
        gaps.map bounds ++ runsFrom (fun t => decide (t ∉ observed)) stop opened l := by
  induction l generalizing gaps opened with
  | nil =>
    cases opened with
    | none => exact ⟨gaps, rfl, (List.append_nil _).symm⟩
    | some a =>
      have ha : a < stop := hstop a (by simp)
      refine ⟨gaps ++ [⟨a, stop, ha⟩], ?_, by simp [runsFrom, bounds]⟩
      change (dataRange a stop >>= fun gap => pure (gaps ++ [gap])) = _
      rw [dataRange_eq_ok ha]
      rfl
  | cons x l ih =>
    rw [List.foldlM_cons]
    cases opened with
    | none =>
      have hxl := List.pairwise_cons.mp hl
      by_cases hobs : x ∈ observed
      · rw [gapTurn_skip hobs]
        simpa [runsFrom, hobs, ok_bind] using ih gaps none hxl.2 fun t ht =>
          hstop t (List.mem_cons_of_mem x ht)
      · rw [gapTurn_open hobs]
        simpa [runsFrom, hobs, ok_bind] using ih gaps (some x) hl hstop
    | some a =>
      have hal := List.pairwise_cons.mp hl
      have hax : a < x := hal.1 x List.mem_cons_self
      have hxl := List.pairwise_cons.mp hal.2
      have hl' : ∀ t ∈ l, t ∈ a :: x :: l := fun t ht =>
        List.mem_cons_of_mem a (List.mem_cons_of_mem x ht)
      by_cases hobs : x ∈ observed
      · rw [gapTurn_close hobs hax]
        obtain ⟨gaps', hgaps', hbounds⟩ := ih (gaps ++ [⟨a, x, hax⟩]) none hxl.2
          fun t ht => hstop t (hl' t ht)
        refine ⟨gaps', hgaps', ?_⟩
        rw [hbounds]
        simp [runsFrom, hobs, bounds]
      · rw [gapTurn_extend hobs]
        have htail := ih gaps (some a)
          (List.pairwise_cons.mpr ⟨fun t ht => hax.trans (hxl.1 t ht), hxl.2⟩) fun t ht => by
            rcases List.mem_cons.mp ht with rfl | ht
            · exact hstop t List.mem_cons_self
            · exact hstop t (hl' t ht)
        simpa [runsFrom, hobs, ok_bind] using htail

end

/-- **The gaps of a range** are the runs of its open times that are not observed. -/
theorem findGapRanges_spec (observed : List Instant) {tf : Timeframe} {r : DataRange} {n : ℕ}
    (h : expectedCandleCount r tf = .ok n) : ∃ gaps, findGapRanges observed tf r = .ok gaps ∧
      IsRuns (fun t => decide (t ∉ observed)) (windowStarts r tf.duration) r.stop
        (gaps.map bounds) := by
  have hsorted := windowStarts_sorted (r := r) tf.duration_pos
  have hstop : ∀ t ∈ windowStarts r tf.duration, t < r.stop := fun t ht =>
    ((mem_windowStarts tf.duration_pos).mp ht).2.1
  obtain ⟨gaps, hgaps, hbounds⟩ := foldlM_gapTurn [] none hsorted hstop
  refine ⟨gaps, ?_, ?_⟩
  · unfold findGapRanges
    rw [h, ok_bind]
    exact hgaps
  · rw [hbounds]
    exact isRuns_runsFrom none (fun a ha => by cases ha) hsorted hstop

/-! ### The planner -/

/-- The limits a planner is made with; the least of the first three bounds its chunks. -/
def MarketDataPlanner.init (adapterRequestLimit maxFetchCandles chunkCandles maxTotalCandles
    maxChunks : ℕ) (digest : PlanPayload → ℕ) : Except OperationError MarketDataPlanner :=
  if h : 1 ≤ adapterRequestLimit ∧ 1 ≤ maxFetchCandles ∧ 1 ≤ chunkCandles ∧ 1 ≤ maxTotalCandles ∧
      1 ≤ maxChunks then
    .ok
      { chunkCandles := min adapterRequestLimit (min maxFetchCandles chunkCandles)
        maxTotalCandles := maxTotalCandles
        maxChunks := maxChunks
        digest := digest
        chunkCandles_pos := lt_min h.1 (lt_min h.2.1 h.2.2.1) }
  else .error .value

/-- `GapRepairPlan`. -/
structure GapRepairPlan where
  backfill : Option BackfillPlan
  gapRanges : List DataRange
  severity : String := "WARNING"
  deriving DecidableEq, Repr

/-- What the planner raises for a failure of the store. -/
def OperationError.ofFailure (failure : Failure) : OperationError :=
  match failure.kind with
  | .marketDataInconsistency => .inconsistency
  | .invalidDataRange => .invalidDataRange
  | .value => .value
  | _ => .storage

/-- Append the chunks of a partial plan, numbered through. -/
def appendChunks (chunks part : List BackfillChunk) : List BackfillChunk :=
  part.foldl (fun chunks chunk => chunks ++ [{ chunk with index := chunks.length }]) chunks

/-- One turn of the loop over the gaps: the chunks and the total so far. The turn reads the
clock and draws an identifier for its partial plan. -/
def planGap (planner : MarketDataPlanner) (dataset : MarketDatasetSelector) (clock : ℕ → ℤ)
    (jobIds : ℕ → Uuid) (state : List BackfillChunk × ℕ) (gap : DataRange × ℕ) :
    Except OperationError (List BackfillChunk × ℕ) := do
  let part ← planner.backfill dataset gap.1 .gapRepair (jobIds gap.2) (clock gap.2)
  pure (appendChunks state.1 part.chunks, state.2 + part.expectedCandles)

/-- `MarketDataPlanner.gaps`. -/
def MarketDataPlanner.gaps (planner : MarketDataPlanner) (instrument : Exchange × MarketType)
    (files : PartitionFiles) (dataset : MarketDatasetSelector) (r : DataRange) (clock : ℕ → ℤ)
    (jobIds : ℕ → Uuid) : Except OperationError GapRepairPlan := do
  let requested ← expectedCandleCount r dataset.timeframe
  require (requested ≤ planner.maxTotalCandles) .invalidDataRange
  let rows ← (files.readRange (instrument.1, instrument.2, dataset.pair, dataset.timeframe.code)
    r).mapError OperationError.ofFailure
  let gaps ← findGapRanges (rows.map (·.openTime)) dataset.timeframe r
  if gaps = [] then pure { backfill := none, gapRanges := [] }
  else do
    let state ← gaps.zipIdx.foldlM (planGap planner dataset clock jobIds) ([], 0)
    require (state.2 ≤ planner.maxTotalCandles) .invalidDataRange
    require (state.1.length ≤ planner.maxChunks) .invalidDataRange
    let combined : BackfillPlan :=
      { jobId := jobIds gaps.length
        dataset := dataset
        dataRange := r
        chunks := state.1
        expectedCandles := state.2
        chunkCandles := planner.chunkCandles
        jobType := .gapRepair }
    pure { backfill := some combined, gapRanges := gaps }

/-! ### Chunks -/

/-- The aligned open times of a range. -/
def alignedTimes (tf : Timeframe) (r : DataRange) : Set ℤ :=
  { t | r.start ≤ t ∧ t < r.stop ∧ tf.validateOpenTime t = true }

/-- Chunks between `lo` and `hi`, numbered from `index` on and in increasing order, each of at
most `size` candles and counting them, that hold the open times of `covered`. -/
structure Chunked (tf : Timeframe) (size : ℕ) (chunks : List BackfillChunk) (index : ℕ)
    (lo hi : ℤ) (covered : Set ℤ) : Prop where
  index_getElem : ∀ (i : ℕ) (hi : i < chunks.length), chunks[i].index = index + i
  ordered : chunks.Pairwise fun a b => a.dataRange.stop ≤ b.dataRange.start
  count : ∀ c ∈ chunks, expectedCandleCount c.dataRange tf = .ok c.expectedCandles
  size_le : ∀ c ∈ chunks, c.expectedCandles ≤ size
  inside : ∀ c ∈ chunks, lo ≤ c.dataRange.start ∧ c.dataRange.stop ≤ hi
  covers : ∀ t, (∃ c ∈ chunks, t ∈ alignedTimes tf c.dataRange) ↔ t ∈ covered

namespace Chunked

variable {tf : Timeframe} {size : ℕ} {chunks part : List BackfillChunk} {index : ℕ}
  {lo hi lo' hi' : ℤ} {covered covered' : Set ℤ}

theorem nil : Chunked tf size [] index lo hi ∅ := by
  constructor <;> simp

theorem single {c : BackfillChunk} (hindex : c.index = index)
    (hcount : expectedCandleCount c.dataRange tf = .ok c.expectedCandles)
    (hsize : c.expectedCandles ≤ size) (hlo : lo ≤ c.dataRange.start)
    (hhi : c.dataRange.stop ≤ hi) :
    Chunked tf size [c] index lo hi (alignedTimes tf c.dataRange) := by
  constructor <;> simp_all

/-- Chunks after chunks. -/
theorem append (h : Chunked tf size chunks index lo hi covered)
    (h' : Chunked tf size part (index + chunks.length) lo' hi' covered') (hlo : lo ≤ lo')
    (hmid : hi ≤ lo') (hhi : hi ≤ hi') :
    Chunked tf size (chunks ++ part) index lo hi' (covered ∪ covered') where
  index_getElem i hi := by
    by_cases hlt : i < chunks.length
    · rw [List.getElem_append_left hlt]
      exact h.index_getElem i hlt
    · rw [List.getElem_append_right (not_lt.mp hlt), h'.index_getElem]
      omega
  ordered := List.pairwise_append.mpr ⟨h.ordered, h'.ordered, fun a ha b hb =>
    ((h.inside a ha).2.trans hmid).trans (h'.inside b hb).1⟩
  count c hc := (List.mem_append.mp hc).elim (h.count c) (h'.count c)
  size_le c hc := (List.mem_append.mp hc).elim (h.size_le c) (h'.size_le c)
  inside c hc := (List.mem_append.mp hc).elim
    (fun hc => ⟨(h.inside c hc).1, (h.inside c hc).2.trans hhi⟩)
    fun hc => ⟨hlo.trans (h'.inside c hc).1, (h'.inside c hc).2⟩
  covers t := by
    rw [Set.mem_union, ← h.covers, ← h'.covers]
    simp only [List.mem_append, or_and_right, exists_or]

/-- A chunk counts at least one candle. -/
theorem one_le (h : Chunked tf size chunks index lo hi covered) {c : BackfillChunk}
    (hc : c ∈ chunks) : 1 ≤ c.expectedCandles := by
  obtain ⟨-, hstop⟩ := expectedCandleCount_eq_ok.mp (h.count c hc)
  have hlt := c.dataRange.start_lt_stop
  by_contra hzero
  have hz : c.expectedCandles = 0 := by omega
  rw [hz, Nat.cast_zero, zero_mul, add_zero] at hstop
  exact hlt.ne' hstop

theorem mono (h : Chunked tf size chunks index lo hi covered) (hhi : hi ≤ hi') :
    Chunked tf size chunks index lo hi' covered :=
  { h with inside := fun c hc => ⟨(h.inside c hc).1, (h.inside c hc).2.trans hhi⟩ }

theorem congr (h : Chunked tf size chunks index lo hi covered)
    (heq : ∀ t, t ∈ covered ↔ t ∈ covered') :
    Chunked tf size chunks index lo hi covered' :=
  { h with covers := fun t => (h.covers t).trans (heq t) }

end Chunked

namespace Tiles

variable {tf : Timeframe} {size : ℕ} {chunks : List BackfillChunk} {index : ℕ} {start stop : ℤ}

theorem start_le_stop (h : Tiles tf chunks index start stop) : start ≤ stop := by
  induction chunks generalizing index start with
  | nil => exact h.le
  | cons c rest ih =>
    obtain ⟨-, hstart, -, hrest⟩ := h
    exact (hstart ▸ c.dataRange.start_lt_stop.le).trans (ih hrest)

/-- Chunks that tile an interval hold its open times. -/
theorem chunked (h : Tiles tf chunks index start stop) (hstart : tf.validateOpenTime start = true)
    (hsize : ∀ c ∈ chunks, c.expectedCandles ≤ size) :
    Chunked tf size chunks index start stop
      { t | start ≤ t ∧ t < stop ∧ tf.validateOpenTime t = true } := by
  induction chunks generalizing index start with
  | nil =>
    refine Chunked.nil.congr fun t => ?_
    have hnone : ¬(start ≤ t ∧ t < stop) := fun ht => absurd (ht.1.trans_lt ht.2) (h ▸ lt_irrefl _)
    simpa using fun hle hlt => absurd ⟨hle, hlt⟩ hnone
  | cons c rest ih =>
    have hcount := h.expectedCandleCount hstart List.mem_cons_self
    have hnext := h.aligned_stop hstart
    obtain ⟨hindex, hfirst, -, hrest⟩ := h
    have hle := hrest.start_le_stop
    have hlt := c.dataRange.start_lt_stop
    have hc : Chunked tf size [c] index start c.dataRange.stop (alignedTimes tf c.dataRange) :=
      .single hindex hcount (hsize c List.mem_cons_self) hfirst.ge le_rfl
    have htail := ih hrest hnext fun c' hc' => hsize c' (List.mem_cons_of_mem c hc')
    refine (hc.append htail (hfirst ▸ hlt.le) le_rfl hle).congr fun t => ?_
    rw [Set.mem_union]
    simp only [alignedTimes, Set.mem_setOf_eq, hfirst]
    constructor
    · rintro (⟨h0, h1, h2⟩ | ⟨h0, h1, h2⟩)
      · exact ⟨h0, h1.trans_le hle, h2⟩
      · exact ⟨(hfirst ▸ hlt.le).trans h0, h1, h2⟩
    · rintro ⟨h0, h1, h2⟩
      rcases lt_or_ge t c.dataRange.stop with hlt' | hge
      · exact .inl ⟨h0, hlt', h2⟩
      · exact .inr ⟨hge, h1, h2⟩

end Tiles

/-! ### What the plans cover -/

section

variable {planner : MarketDataPlanner} {dataset : MarketDatasetSelector} {r : DataRange}
  {jobType : MarketJobType} {jobId : Uuid} {now : ℤ} {plan : BackfillPlan} {tf : Timeframe}

theorem chunkLoop_size_le {size n index remaining : ℕ} {cursor : ℤ}
    {out : List BackfillChunk × ℤ × ℕ}
    (h : chunkLoop tf size n index cursor remaining = .ok out) :
    ∀ c ∈ out.1, c.expectedCandles ≤ size := by
  induction n generalizing index cursor remaining out with
  | zero =>
    cases h
    exact fun c hc => (List.not_mem_nil hc).elim
  | succ n ih =>
    unfold chunkLoop at h
    dsimp only at h
    split at h
    · simp only [bind_eq_ok, pure, Except.pure, Except.ok.injEq] at h
      obtain ⟨rest, hrest, rfl⟩ := h
      intro c hc
      rcases List.mem_cons.mp hc with rfl | hc
      · exact min_le_left _ _
      · exact ih hrest c hc
    · cases h

/-- **A backfill holds the open times of its range.** -/
theorem backfill_chunked (h : planner.backfill dataset r jobType jobId now = .ok plan) :
    Chunked dataset.timeframe planner.chunkCandles plan.chunks 0 r.start r.stop
      (alignedTimes dataset.timeframe r) := by
  obtain ⟨-, -, -, -, -, hcount, htiles, -⟩ := backfill_eq_ok h
  refine htiles.chunked (expectedCandleCount_eq_ok.mp hcount).1 ?_
  simp only [MarketDataPlanner.backfill, bind_eq_ok, require_eq_ok, exists_const, pure,
    Except.pure, Except.ok.injEq] at h
  obtain ⟨_, -, -, -, -, loop, hloop, -, rfl⟩ := h
  exact chunkLoop_size_le hloop

/-- The chunks of a part keep their ranges and are numbered from the end of the others. -/
theorem appendChunks_eq (chunks part : List BackfillChunk) :
    appendChunks chunks part =
      chunks ++ part.mapIdx fun i c => { c with index := chunks.length + i } := by
  induction part generalizing chunks with
  | nil => simp [appendChunks]
  | cons c part ih =>
    unfold appendChunks at ih ⊢
    rw [List.foldl_cons, ih, List.mapIdx_cons, List.append_assoc, List.singleton_append,
      List.length_append, List.length_singleton, Nat.add_zero]
    congr 2
    refine List.mapIdx_eq_mapIdx_iff.mpr fun i _ => ?_
    rw [Nat.add_assoc, Nat.add_comm 1]

/-- Renumbered chunks. -/
theorem Chunked.renumber {size : ℕ} {chunks : List BackfillChunk} {lo hi : ℤ} {covered : Set ℤ}
    (h : Chunked tf size chunks 0 lo hi covered) (n : ℕ) :
    Chunked tf size (chunks.mapIdx fun i c => { c with index := n + i }) n lo hi covered where
  index_getElem i hi := by rw [List.getElem_mapIdx]
  ordered := by
    rw [List.pairwise_iff_getElem]
    intro i j hi hj hij
    rw [List.getElem_mapIdx, List.getElem_mapIdx]
    exact List.pairwise_iff_getElem.mp h.ordered i j (by simpa using hi) (by simpa using hj) hij
  count c hc := by
    obtain ⟨i, hi, rfl⟩ := List.mem_mapIdx.mp hc
    have hc := h.count chunks[i] (List.getElem_mem hi)
    exact hc
  size_le c hc := by
    obtain ⟨i, hi, rfl⟩ := List.mem_mapIdx.mp hc
    have hs := h.size_le chunks[i] (List.getElem_mem hi)
    exact hs
  inside c hc := by
    obtain ⟨i, hi, rfl⟩ := List.mem_mapIdx.mp hc
    have hi := h.inside chunks[i] (List.getElem_mem hi)
    exact hi
  covers t := by
    rw [← h.covers]
    constructor
    · rintro ⟨c, hc, ht⟩
      obtain ⟨i, hi, rfl⟩ := List.mem_mapIdx.mp hc
      exact ⟨_, List.getElem_mem hi, ht⟩
    · rintro ⟨c, hc, ht⟩
      obtain ⟨i, hi, rfl⟩ := List.getElem_of_mem hc
      exact ⟨_, List.mem_mapIdx.mpr ⟨i, hi, rfl⟩, ht⟩

theorem sum_mapIdx_expectedCandles (part : List BackfillChunk) (n : ℕ) :
    ((part.mapIdx fun i c => { c with index := n + i }).map (·.expectedCandles)).sum =
      (part.map (·.expectedCandles)).sum := by
  rw [List.mapIdx_eq_zipIdx_map, List.map_map]
  congr 1
  refine List.ext_getElem (by simp) fun i hi hi' => ?_
  simp

/-- The chunks of gaps that follow one another. -/
theorem foldlM_planGap {clock : ℕ → ℤ} {jobIds : ℕ → Uuid} {lo stop : ℤ} :
    ∀ {gaps : List DataRange} {n : ℕ} {state out : List BackfillChunk × ℕ} {covered : Set ℤ}
      {hi : ℤ},
      (gaps.zipIdx n).foldlM (planGap planner dataset clock jobIds) state = .ok out →
      gaps.Pairwise (fun a b => a.stop < b.start) →
      (∀ g ∈ gaps, lo ≤ g.start ∧ hi ≤ g.start ∧ g.stop ≤ stop) → hi ≤ stop →
      Chunked dataset.timeframe planner.chunkCandles state.1 0 lo hi covered →
      (state.1.map (·.expectedCandles)).sum = state.2 →
      Chunked dataset.timeframe planner.chunkCandles out.1 0 lo stop
          (covered ∪ { t | ∃ g ∈ gaps, t ∈ alignedTimes dataset.timeframe g }) ∧
        (out.1.map (·.expectedCandles)).sum = out.2 := by
  intro gaps
  induction gaps with
  | nil =>
    intro n state out covered hi h _ _ hle hc hsum
    cases h
    exact ⟨(hc.mono hle).congr fun t => by simp, hsum⟩
  | cons g gaps ih =>
    intro n state out covered hi h hpair hin _ hc hsum
    rw [List.zipIdx_cons, List.foldlM_cons, bind_eq_ok] at h
    obtain ⟨state', hturn, hrest⟩ := h
    simp only [planGap, bind_eq_ok, pure, Except.pure, Except.ok.injEq] at hturn
    obtain ⟨part, hpart, rfl⟩ := hturn
    obtain ⟨hg, hgaps⟩ := List.pairwise_cons.mp hpair
    obtain ⟨hlo, hhi, hstop⟩ := hin g List.mem_cons_self
    obtain ⟨-, -, -, -, -, -, -, hpartSum⟩ := backfill_eq_ok hpart
    have hchunked := hc.append ((backfill_chunked hpart).renumber (0 + state.1.length)) hlo hhi
      (hhi.trans g.start_lt_stop.le)
    rw [Nat.zero_add, ← appendChunks_eq] at hchunked
    obtain ⟨hout, houtSum⟩ := ih hrest hgaps
      (fun g' hg' => ⟨(hin g' (List.mem_cons_of_mem g hg')).1, (hg g' hg').le,
        (hin g' (List.mem_cons_of_mem g hg')).2.2⟩) hstop hchunked (by
          rw [appendChunks_eq, List.map_append, List.sum_append, hsum,
            sum_mapIdx_expectedCandles, hpartSum])
    refine ⟨hout.congr fun t => ?_, houtSum⟩
    simp only [Set.mem_union, Set.mem_setOf_eq, List.mem_cons, exists_eq_or_imp, or_assoc]

/-- An aligned range visits its aligned open times. -/
theorem mem_windowStarts_iff {n : ℕ} (h : expectedCandleCount r tf = .ok n) {t : ℤ} :
    t ∈ windowStarts r tf.duration ↔ t ∈ alignedTimes tf r := by
  obtain ⟨hstart, -⟩ := expectedCandleCount_eq_ok.mp h
  rw [mem_windowStarts tf.duration_pos]
  simp only [alignedTimes, Set.mem_setOf_eq, Timeframe.validateOpenTime, beq_iff_eq] at hstart ⊢
  refine and_congr_right fun _ => and_congr_right fun _ => ?_
  rw [← Int.dvd_iff_emod_eq_zero, ← dvd_add_left (Int.dvd_iff_emod_eq_zero.mpr hstart)]
  rw [show t - r.start + (r.start - tf.alignment) = t - tf.alignment by ring]

/-- The gaps hold what is missing. -/
theorem mem_gaps_iff {observed : List Instant} {gaps : List DataRange} {n : ℕ}
    (h : expectedCandleCount r tf = .ok n)
    (hruns : IsRuns (fun t => decide (t ∉ observed)) (windowStarts r tf.duration) r.stop
      (gaps.map bounds)) {t : ℤ} :
    (∃ g ∈ gaps, t ∈ alignedTimes tf g) ↔ t ∈ alignedTimes tf r ∧ t ∉ observed := by
  have hstop : ∀ t ∈ windowStarts r tf.duration, t < r.stop := fun t ht =>
    ((mem_windowStarts tf.duration_pos).mp ht).2.1
  constructor
  · rintro ⟨g, hg, hstart, hlt, haligned⟩
    have hg' : bounds g ∈ gaps.map bounds := List.mem_map_of_mem hg
    have hfirst := ((mem_windowStarts tf.duration_pos).mp (hruns.start_mem _ hg')).1
    have hr : t ∈ alignedTimes tf r :=
      ⟨hfirst.trans hstart, hlt.trans_le (hruns.stop_le hstop hg'), haligned⟩
    refine ⟨hr, ?_⟩
    have hmissing := (hruns.covers t ((mem_windowStarts_iff h).mpr hr)).mpr
      ⟨_, hg', hstart, hlt⟩
    simpa using hmissing
  · rintro ⟨hr, hmissing⟩
    obtain ⟨p, hp, hle, hlt⟩ := (hruns.covers t ((mem_windowStarts_iff h).mpr hr)).mp
      (by simpa using hmissing)
    obtain ⟨g, hg, rfl⟩ := List.mem_map.mp hp
    exact ⟨g, hg, hle, hlt, hr.2.2⟩

/-- Creating the job of a plan adds a valid record that gives the plan back. -/
def Recorded (plan : BackfillPlan) : Prop :=
  ∀ (jobs : JobCatalog) (digest : PlanPayload → ℕ) (now : ℤ), jobs.lookup plan.jobId = none →
    ∃ record : MarketJobRecord, jobs.create digest plan now = (.ok record, jobs ++ [record]) ∧
      record.toJobFields = plannedRecord plan now ∧ recordPlan record = .ok plan

/-- The job of numbered chunks. -/
theorem Chunked.recorded {size : ℕ} {covered : Set ℤ}
    (h : Chunked plan.dataset.timeframe size plan.chunks 0 plan.dataRange.start plan.dataRange.stop
      covered) (hne : plan.chunks ≠ []) (hsize : 1 ≤ plan.chunkCandles)
    (hcovers : plan.jobType ≠ .gapRepair →
      CoversRange plan.jobType plan.dataRange (plan.chunks.map (·.dataRange)))
    (hsum : (plan.chunks.map (·.expectedCandles)).sum = plan.expectedCandles) : Recorded plan := by
  intro jobs digest now hnone
  have hchain : (plan.chunks.map (·.dataRange)).IsChain fun a b => a.stop ≤ b.start :=
    (List.pairwise_map.mpr h.ordered).isChain
  have hcovers' : CoversRange plan.jobType plan.dataRange (plan.chunks.map (·.dataRange)) := by
    by_cases hjob : plan.jobType = .gapRepair
    · rw [CoversRange, if_pos hjob]
      intro r hr
      obtain ⟨c, hc, rfl⟩ := List.mem_map.mp hr
      exact h.inside c hc
    · exact hcovers hjob
  have hvalid := plannedRecord_valid_of_chunks hne hsize hchain hcovers' h.count hsum now
  refine ⟨⟨plannedRecord plan now, hvalid⟩, ?_, rfl, ?_⟩
  · unfold JobCatalog.create
    rw [hnone]
    dsimp only
    rw [show (plannedRecord plan now).construct = .ok ⟨plannedRecord plan now, hvalid⟩ from
      JobFields.construct_eq_ok.mpr rfl]
  · exact recordPlan_of_chunks (fun i hi => (h.index_getElem i hi).trans (Nat.zero_add i)) h.count
      rfl rfl

/-- The chunks of a repair plan, which has none when nothing is missing. -/
def GapRepairPlan.chunks (plan : GapRepairPlan) : List BackfillChunk :=
  (plan.backfill.map (·.chunks)).getD []

/-- **A repair plan holds the open times that are not stored**, and its job keeps it. -/
theorem gaps_chunked {instrument : Exchange × MarketType} {files : PartitionFiles}
    {clock : ℕ → ℤ} {jobIds : ℕ → Uuid} {repair : GapRepairPlan}
    (h : planner.gaps instrument files dataset r clock jobIds = .ok repair) :
    Chunked dataset.timeframe planner.chunkCandles repair.chunks 0 r.start r.stop
        { t | t ∈ alignedTimes dataset.timeframe r ∧ ¬files.StoredAt t } ∧
      ∀ plan ∈ repair.backfill, Recorded plan := by
  simp only [MarketDataPlanner.gaps, bind_eq_ok, require_eq_ok, exists_const] at h
  obtain ⟨requested, hrequested, -, rows, hrows, gaps, hgaps, h⟩ := h
  have hread : files.readRange (instrument.1, instrument.2, dataset.pair, dataset.timeframe.code) r =
      .ok rows := by
    revert hrows
    cases files.readRange (instrument.1, instrument.2, dataset.pair, dataset.timeframe.code) r with
    | error e => exact fun hrows => by cases hrows
    | ok rows' => exact fun hrows => by cases hrows; rfl
  obtain ⟨gaps', hgaps', hruns⟩ := findGapRanges_spec (rows.map (·.openTime)) hrequested
  obtain rfl : gaps = gaps' := Except.ok.inj (hgaps.symm.trans hgaps')
  have hmissing : ∀ t, (∃ g ∈ gaps, t ∈ alignedTimes dataset.timeframe g) ↔
      t ∈ alignedTimes dataset.timeframe r ∧ ¬files.StoredAt t := fun t => by
    rw [mem_gaps_iff hrequested hruns]
    refine and_congr_right fun ht => not_congr ?_
    rw [readRange_openTime hread]
    exact ⟨fun h => h.2.2, fun h => ⟨ht.1, ht.2.1, h⟩⟩
  by_cases hnil : gaps = []
  · rw [if_pos hnil] at h
    cases h
    refine ⟨Chunked.nil.congr fun t => ?_, fun plan hplan => by cases hplan⟩
    refine iff_of_false (Set.notMem_empty t) fun ht => ?_
    obtain ⟨g, hg, -⟩ := (hmissing t).mpr ht
    exact List.not_mem_nil (hnil ▸ hg)
  · rw [if_neg hnil] at h
    simp only [bind_eq_ok, require_eq_ok, exists_const, pure, Except.pure, Except.ok.injEq] at h
    obtain ⟨state, hstate, -, -, rfl⟩ := h
    have hstop : ∀ t ∈ windowStarts r dataset.timeframe.duration, t < r.stop := fun t ht =>
      ((mem_windowStarts dataset.timeframe.duration_pos).mp ht).2.1
    have hin : ∀ g ∈ gaps, r.start ≤ g.start ∧ r.start ≤ g.start ∧ g.stop ≤ r.stop := fun g hg => by
      have hg' : bounds g ∈ gaps.map bounds := List.mem_map_of_mem hg
      have hfirst := ((mem_windowStarts dataset.timeframe.duration_pos).mp
        (hruns.start_mem _ hg')).1
      exact ⟨hfirst, hfirst, hruns.stop_le hstop hg'⟩
    obtain ⟨hchunked, hsum⟩ := foldlM_planGap hstate (List.pairwise_map.mp hruns.ordered) hin
      r.start_lt_stop.le Chunked.nil rfl
    have hall : Chunked dataset.timeframe planner.chunkCandles state.1 0 r.start r.stop
        { t | t ∈ alignedTimes dataset.timeframe r ∧ ¬files.StoredAt t } :=
      hchunked.congr fun t => by rw [Set.empty_union]; exact hmissing t
    refine ⟨hall, fun plan hplan => ?_⟩
    cases hplan
    refine hall.recorded ?_ planner.chunkCandles_pos (fun hjob => absurd rfl hjob) hsum
    -- a gap holds its own start, so some chunk does
    obtain ⟨g, hg⟩ := List.exists_mem_of_ne_nil gaps hnil
    have hfirst := (mem_windowStarts_iff hrequested).mp (hruns.start_mem _ (List.mem_map_of_mem hg))
    obtain ⟨c, hc, -⟩ := (hchunked.covers g.start).mpr
      (.inr ⟨g, hg, le_rfl, g.start_lt_stop, hfirst.2.2⟩)
    exact List.ne_nil_of_mem hc

end

/-- A planner whose chunks hold two candles. -/
def pairPlanner : MarketDataPlanner where
  chunkCandles := 2
  maxTotalCandles := 100
  maxChunks := 100
  digest := fun _ => 0
  chunkCandles_pos := Nat.two_pos

/-- The third day is the only one stored. -/
def thirdDayFiles : PartitionFiles :=
  [(monthOf 0, [{ dailyCandle 2 1 1 with
    closeTime := 3 * Instant.microsecondsPerDay - 1000
    openTime_lt_closeTime := by decide }])]

/-- The first five days since the epoch. -/
def fiveDays : DataRange := ⟨0, 5 * Instant.microsecondsPerDay, by decide⟩

/-- The repair of five days. -/
def fiveDayRepair : Except OperationError GapRepairPlan :=
  pairPlanner.gaps (.binance, .spot) thirdDayFiles ⟨"BTCUSDT", dailyTimeframe⟩ fiveDays
    (fun _ => 10 * Instant.microsecondsPerDay) fun n => ⟨n + 1, n.succ_ne_zero⟩

end Operations
end DryTrade
