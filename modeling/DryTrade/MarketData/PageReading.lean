import DryTrade.MarketData.CandlePages
import DryTrade.MarketData.Coverage
import DryTrade.MarketData.SnapshotReading
import DryTrade.MarketData.UpsertUnion

/-!
# One chart page

The page of a gap-free dataset that is cataloged as it is stored.  Its partitions are proved by
the manifest, its rows fill the selected range, so the validator finds nothing, and the
constructor accepts it.

## Main definitions

* `GapFree`, `MetadataOf`, `Cataloged` — the datasets a chart is read from.

## Main results

* `readPage_eq_ok` — **a page of such a dataset is read**, and which candles it has.
-/

namespace DryTrade
namespace MarketData

open Backtesting (strip)
open PaperTrading (TradingPair isSha256)

/-! ### Paths -/

theorem slash_notMem_padded (w n : ℕ) : '/' ∉ padded w n := fun h =>
  absurd (isDigit_of_mem_padded h) (by decide)

theorem slash_notMem_yearText (year : ℤ) : '/' ∉ yearText year := by
  unfold yearText
  split
  · rw [List.mem_cons, not_or]
    exact ⟨by decide, slash_notMem_padded _ _⟩
  · exact slash_notMem_padded _ _

theorem yearText_injective : Function.Injective yearText := by
  intro year year' h
  have hread := takeYear_yearText year []
  rw [h, takeYear_yearText year' []] at hread
  exact (Prod.mk.inj (Option.some.inj hread)).1.symm

theorem padded_injective (w : ℕ) : Function.Injective (padded w) := fun n n' h => by
  rw [← ofDigits_padded w n, h, ofDigits_padded]

/-- **Different months have different paths.** -/
theorem partitionPath_injective (root : String) : Function.Injective (partitionPath root) := by
  intro month month' h
  have htext := congrArg String.toList h
  simp only [partitionPath, String.toList_append, String.toList_ofList,
    List.append_cancel_left_eq] at htext
  -- the year ends at the slash after it
  have hyear : ∀ (year : ℤ) (r : List Char),
      (yearText year ++ ("/month=".toList ++ r)).takeWhile (fun c => c != '/') = yearText year := by
    intro year r
    have hall : ∀ c ∈ yearText year, (c != '/') = true := fun c hc =>
      bne_iff_ne.mpr fun heq => slash_notMem_yearText year (heq ▸ hc)
    rw [List.takeWhile_append_of_pos hall]
    exact List.append_nil _
  have hy : month / 12 = month' / 12 := yearText_injective (by
    rw [← hyear (month / 12), htext, hyear])
  rw [hy, List.append_cancel_left_eq, List.append_cancel_left_eq, List.append_cancel_right_eq]
    at htext
  have hm := padded_injective 2 htext
  omega

/-! ### Proofs of the partitions -/

section

variable (sha256 : Sha256Digest) (root : String) (files : PartitionFiles)

/-- The entry of a partition that is recorded as it is stored. -/
def integrityEntry (month : ℤ) : RawPartitionIntegrityEntry :=
  ⟨partitionPath root month, sha256.hexdigest ((files.rowsAt month).flatMap canonicalCandleText)⟩

/-- The entries of all partitions. -/
def manifestEntries : List RawPartitionIntegrityEntry :=
  files.sortedMonths.map (integrityEntry sha256 root files)

variable {sha256 root files}

/-- A partition of the files has its entry in the manifest. -/
theorem expectedChecksum_manifestEntries {month : ℤ} (h : month ∈ files.map (·.1)) :
    expectedChecksum (manifestEntries sha256 root files) (partitionPath root month) =
      some (sha256.hexdigest ((files.rowsAt month).flatMap canonicalCandleText)) := by
  unfold expectedChecksum
  have hmem : integrityEntry sha256 root files month ∈
      (manifestEntries sha256 root files).reverse :=
    List.mem_reverse.mpr (List.mem_map_of_mem (files.sortedMonths_perm.mem_iff.mpr h))
  cases hfound : (manifestEntries sha256 root files).reverse.find?
      fun e => e.relativePath == partitionPath root month with
  | none =>
    have hnot := List.find?_eq_none.mp hfound _ hmem
    simp [integrityEntry] at hnot
  | some e =>
    have hpath := List.find?_some hfound
    obtain ⟨month', -, rfl⟩ :=
      List.mem_map.mp (List.mem_reverse.mp (List.mem_of_find?_eq_some hfound))
    have hmonth : month' = month := partitionPath_injective root (beq_iff_eq.mp hpath)
    rw [hmonth]
    rfl

/-- The version of well-formed files can be composed. -/
theorem composeRawDatasetVersion_manifestEntries (sha256 : Sha256Digest) (root : String)
    (h : (files.map (·.1)).Nodup) :
    ∃ text, composeRawDatasetVersion sha256 (manifestEntries sha256 root files) =
      .ok (sha256.hexdigest text) := by
  have hnodup : ((manifestEntries sha256 root files).map (·.relativePath)).Nodup := by
    unfold manifestEntries
    rw [List.map_map]
    exact (files.sortedMonths_perm.nodup_iff.mpr h).map (partitionPath_injective root)
  unfold composeRawDatasetVersion
  dsimp only
  rw [(FailureKind.unless_eq_ok (u := ())).mpr (decide_eq_true hnodup), ok_bind]
  exact ⟨_, rfl⟩

theorem rawPartitionLogicalChecksum_eq {rows : List Candle}
    (h : rows.Pairwise fun c c' => c.openTime < c'.openTime) :
    rawPartitionLogicalChecksum sha256 rows =
      .ok (sha256.hexdigest (rows.flatMap canonicalCandleText)) := by
  have hsorted : sortByOpenTime rows = rows :=
    List.Pairwise.insertionSort_eq (h.imp fun hlt => le_of_lt hlt)
  unfold rawPartitionLogicalChecksum
  rw [hsorted]
  dsimp only
  rw [FailureKind.unless_eq_ok (u := ()) |>.mpr (decide_eq_true h)]
  rfl

/-- **Rows are read with their proof** as they are read without it. -/
theorem readVerified_eq (sha256 : Sha256Digest) (root : String) {identity : SeriesIdentity}
    (h : files.Valid identity) (r : DataRange) :
    readVerified sha256 identity files root (manifestEntries sha256 root files) r =
      files.readRange identity r := by
  have hmonth : ∀ month ∈ files.partitionPaths r,
      readVerifiedPartition sha256 identity files root (manifestEntries sha256 root files) month =
        .ok (files.rowsAt month) := by
    intro month hmem
    have hfile : (files.file month).isSome = true := (List.mem_filter.mp hmem).2
    obtain ⟨rows, hrows⟩ := Option.isSome_iff_exists.mp hfile
    have hin : month ∈ files.map (·.1) := List.mem_map.mpr
      ⟨(month, rows), (PartitionFiles.file_eq_some h.nodup).mp hrows, rfl⟩
    unfold readVerifiedPartition
    rw [expectedChecksum_manifestEntries hin]
    dsimp only
    rw [ok_bind, h.readFile, ok_bind, rawPartitionLogicalChecksum_eq (h.rowsAt month).sorted,
      ok_bind, FailureKind.unless_eq_ok (u := ()) |>.mpr (beq_self_eq_true _)]
    rfl
  unfold readVerified PartitionFiles.readRange
  rw [mapM_eq_map hmonth, mapM_eq_map fun m _ => h.readFile m]

end

/-! ### Rows that fill a range -/

section

variable {tf : Timeframe} {now : Instant}

/-- Rows of one cadence that follow one another. -/
structure Consecutive (tf : Timeframe) (start : Instant) (rows : List Candle) : Prop where
  times : rows.map (·.openTime) = (List.range rows.length).map fun k : ℕ => start + k * tf.duration
  timeframe : ∀ c ∈ rows, c.timeframe = tf
  closes : ∀ c ∈ rows, c.closeTime < c.openTime + tf.duration
  closed : ∀ c ∈ rows, c.isClosed = true

theorem Consecutive.head {start : Instant} {c : Candle} {rows : List Candle}
    (h : Consecutive tf start (c :: rows)) : c.openTime = start := by
  have htimes := h.times
  rw [List.map_cons, List.length_cons, List.range_succ_eq_map, List.map_cons] at htimes
  simpa using (List.cons.inj htimes).1

theorem Consecutive.tail {start : Instant} {c : Candle} {rows : List Candle}
    (h : Consecutive tf start (c :: rows)) : Consecutive tf (start + tf.duration) rows where
  times := by
    have htimes := h.times
    rw [List.map_cons, List.length_cons, List.range_succ_eq_map, List.map_cons, List.map_map]
      at htimes
    rw [(List.cons.inj htimes).2]
    refine List.map_congr_left fun k _ => ?_
    rw [Function.comp_apply, Nat.cast_succ]
    ring
  timeframe c' hc' := h.timeframe c' (List.mem_cons_of_mem _ hc')
  closes c' hc' := h.closes c' (List.mem_cons_of_mem _ hc')
  closed c' hc' := h.closed c' (List.mem_cons_of_mem _ hc')

/-- The last of consecutive candles ends where they do. -/
theorem Consecutive.getLast_add {start : Instant} {c : Candle} {rows : List Candle}
    (h : Consecutive tf start (c :: rows)) :
    ((c :: rows).getLast (List.cons_ne_nil c rows)).openTime + tf.duration =
      start + (c :: rows).length * tf.duration := by
  induction rows generalizing start c with
  | nil =>
    rw [List.getLast_singleton, h.head, List.length_singleton, Nat.cast_one, one_mul]
  | cons c' rows ih =>
    rw [List.getLast_cons (List.cons_ne_nil c' rows), ih h.tail, List.length_cons (a := c)]
    push_cast
    ring

/-- A closed candle of the cadence that is over has no finding. -/
theorem candleIssues_eq_nil {seen : List Instant} {c : Candle} (hseen : c.openTime ∉ seen)
    (htf : c.timeframe = tf) (hclosed : c.isClosed = true) (hnow : c.closeTime ≤ now) :
    candleIssues tf now seen c = [] := by
  have haligned : tf.validateOpenTime c.openTime = true := htf ▸ c.openTime_aligned
  have hquote : (c.quoteVolume.any fun v => decide (v < 0)) = false := by
    cases hq : c.quoteVolume with
    | none => rfl
    | some v => simpa using c.quoteVolume_nonneg v hq
  have hhigh : ¬ c.high < max c.openPrice (max c.close c.low) := not_lt.mpr c.high_ge
  have hlow : ¬ min c.openPrice (min c.close c.high) < c.low := not_lt.mpr c.low_le
  have hvolume : ¬ c.volume < 0 := not_lt.mpr c.volume_nonneg
  have hover : ¬ now < c.closeTime := not_lt.mpr hnow
  have hprecision : ∀ values : List ℚ,
      (values.any fun v => decide (18 < decimalPlaces v)) = false := fun values =>
    List.any_eq_false.mpr fun v _ => by simp [decimalPlaces]
  unfold candleIssues
  rw [hquote, hprecision]
  simp [hseen, haligned, hhigh, hlow, hvolume, hclosed, hover]

/-- A candle has no finding against the one before it, when it follows it. -/
theorem intervalIssues_eq_nil {p c : Candle} (htf : p.timeframe = tf)
    (hnext : c.openTime = p.openTime + tf.duration)
    (hclose : p.closeTime < p.openTime + tf.duration) :
    intervalIssues tf p c = .ok [] := by
  have haligned : tf.validateOpenTime p.openTime = true := htf ▸ p.openTime_aligned
  have hpos := tf.duration_pos
  have horder : ¬ c.openTime < p.openTime := by rw [hnext]; linarith
  have hgap : ¬ p.openTime + tf.duration < c.openTime := by rw [hnext]; exact lt_irrefl _
  have hoverlap : ¬ c.openTime ≤ p.closeTime := by rw [hnext]; linarith
  unfold intervalIssues Timeframe.nextOpenTime
  rw [haligned]
  change Except.ok _ = Except.ok _
  rw [if_neg horder, if_neg hgap, if_neg hoverlap]
  rfl

/-- **Nothing is found in consecutive candles** that are over. -/
theorem validateRows_consecutive {rows : List Candle} {start : Instant} {seen : List Instant}
    {previous : Option Candle} (h : Consecutive tf start rows)
    (hnow : ∀ c ∈ rows, c.closeTime ≤ now)
    (hseen : ∀ t ∈ seen, t < start)
    (hprevious : ∀ p ∈ previous, p.timeframe = tf ∧ p.openTime + tf.duration = start ∧
      p.closeTime < p.openTime + tf.duration) :
    validateRows tf now seen previous rows = .ok [] := by
  induction rows generalizing start seen previous with
  | nil => rfl
  | cons c rows ih =>
    have hhead := h.head
    have hpos := tf.duration_pos
    have hrest : validateRows tf now (c.openTime :: seen) (some c) rows = .ok [] := by
      refine ih h.tail (fun c' hc' => hnow c' (List.mem_cons_of_mem _ hc')) (fun t ht => ?_)
        fun p hp => ?_
      · rcases List.mem_cons.mp ht with rfl | ht
        · rw [hhead]
          linarith
        · linarith [hseen t ht]
      · obtain rfl := Option.some.inj hp
        exact ⟨h.timeframe c List.mem_cons_self, by rw [hhead], h.closes c List.mem_cons_self⟩
    have hissues : candleIssues tf now seen c = [] :=
      candleIssues_eq_nil (fun hmem => lt_irrefl _ (hhead ▸ hseen _ hmem))
        (h.timeframe c List.mem_cons_self) (h.closed c List.mem_cons_self)
        (hnow c List.mem_cons_self)
    cases previous with
    | none =>
      simp only [validateRows, ok_bind, hrest, hissues]
      rfl
    | some p =>
      obtain ⟨htf, hopen, hclose⟩ := hprevious p rfl
      have hbetween : intervalIssues tf p c = .ok [] :=
        intervalIssues_eq_nil htf (hhead.trans hopen.symm) hclose
      simp only [validateRows, ok_bind, hrest, hissues, hbetween]
      rfl

end

/-! ### Gap-free datasets -/

/-- The files hold one closed candle for each aligned instant from `first` to `last`, and none
besides; each of them is over before the next one opens. -/
structure GapFree (identity : SeriesIdentity) (files : PartitionFiles) (tf : Timeframe)
    (first last : Instant) : Prop where
  valid : files.Valid identity
  timeframe : ∀ c ∈ files.held, c.timeframe = tf
  first_aligned : tf.validateOpenTime first = true
  last_aligned : tf.validateOpenTime last = true
  first_le_last : first ≤ last
  times : ∀ t, (∃ c ∈ files.held, c.openTime = t) ↔
    first ≤ t ∧ t ≤ last ∧ tf.validateOpenTime t = true
  closes : ∀ c ∈ files.held, c.closeTime < c.openTime + tf.duration

/-- The stored candles that open between two instants, in order. -/
def PartitionFiles.rowsBetween (files : PartitionFiles) (start stop : Instant) : List Candle :=
  (sortByOpenTime files.held).filter fun c =>
    decide (start ≤ c.openTime) && decide (c.openTime < stop)

section

variable {identity : SeriesIdentity} {files : PartitionFiles} {tf : Timeframe}
  {first last start stop : Instant}

theorem mem_rowsBetween {c : Candle} : c ∈ files.rowsBetween start stop ↔
    c ∈ files.held ∧ start ≤ c.openTime ∧ c.openTime < stop := by
  simp only [PartitionFiles.rowsBetween, List.mem_filter, mem_sortByOpenTime, Bool.and_eq_true,
    decide_eq_true_eq]

theorem rowsBetween_sorted (h : files.Valid identity) (start stop : Instant) :
    (files.rowsBetween start stop).Pairwise fun c c' => c.openTime < c'.openTime :=
  (sortByOpenTime_sorted (openTime_distinct (fun _ hc => (h.each hc).1) h.distinct)).filter _

/-- A range is read as the stored candles of it. -/
theorem readRange_eq_rowsBetween (h : files.Valid identity) (r : DataRange) :
    files.readRange identity r = .ok (files.rowsBetween r.start r.stop) := by
  obtain ⟨rows, hrows, hsorted, hmem⟩ := h.readRange r
  rw [hrows]
  refine congrArg Except.ok (RawStore.eq_of_sorted hsorted (rowsBetween_sorted h _ _) fun c => ?_)
  rw [hmem, mem_rowsBetween]

/-- No aligned instant lies between two slots. -/
theorem Timeframe.le_of_lt_next (tf : Timeframe) {start stop : Instant}
    (h₀ : tf.validateOpenTime start = true)
    (h : tf.validateOpenTime stop = true) (hlt : stop < start + tf.duration) : stop ≤ start := by
  obtain ⟨k, hk⟩ := (validateOpenTime_iff_dvd h₀).mp h
  by_contra hgt
  have hk1 : 1 ≤ k := by
    by_contra hk1
    have : tf.duration * k ≤ 0 := mul_nonpos_of_nonneg_of_nonpos tf.duration_pos.le (by omega)
    linarith
  have : tf.duration ≤ tf.duration * k := le_mul_of_one_le_right tf.duration_pos.le hk1
  linarith

/-- An aligned instant of the dataset has its candle. -/
theorem GapFree.exists_openTime (h : GapFree identity files tf first last) {t : Instant}
    (hfirst : first ≤ t) (hlast : t < last + tf.duration)
    (haligned : tf.validateOpenTime t = true) : ∃ c ∈ files.held, c.openTime = t := by
  exact (h.times t).mpr ⟨hfirst, tf.le_of_lt_next h.last_aligned haligned hlast, haligned⟩

/-- **The candles of an aligned range** inside a gap-free dataset open at its slots. -/
theorem GapFree.map_rowsBetween (h : GapFree identity files tf first last)
    (hstart : tf.validateOpenTime start = true) (hfirst : first ≤ start) (hlt : start < stop)
    (hstop : stop ≤ last + tf.duration) : (files.rowsBetween start stop).map (·.openTime) =
    windowStarts ⟨start, stop, hlt⟩ tf.duration := by
  have hsorted : ((files.rowsBetween start stop).map (·.openTime)).Pairwise (· < ·) :=
    List.pairwise_map.mpr (rowsBetween_sorted h.valid start stop)
  have hwindows := windowStarts_sorted (r := ⟨start, stop, hlt⟩) tf.duration_pos
  refine ((List.perm_ext_iff_of_nodup (hsorted.imp ne_of_lt) (hwindows.imp ne_of_lt)).mpr
    fun t => ?_).eq_of_pairwise' hsorted hwindows
  rw [mem_windowStarts tf.duration_pos, List.mem_map, ← validateOpenTime_iff_dvd hstart]
  dsimp only
  constructor
  · rintro ⟨c, hc, rfl⟩
    obtain ⟨hheld, h0, h1⟩ := mem_rowsBetween.mp hc
    exact ⟨h0, h1, ((h.times _).mp ⟨c, hheld, rfl⟩).2.2⟩
  · rintro ⟨h0, h1, haligned⟩
    obtain ⟨c, hc, hopen⟩ := h.exists_openTime (hfirst.trans h0) (h1.trans_le hstop) haligned
    exact ⟨c, mem_rowsBetween.mpr ⟨hc, hopen.symm ▸ h0, hopen.symm ▸ h1⟩, hopen⟩

/-- As many as fit the range. -/
theorem GapFree.length_rowsBetween (h : GapFree identity files tf first last)
    (hstart : tf.validateOpenTime start = true) (hfirst : first ≤ start) (hlt : start < stop)
    (hstop : stop ≤ last + tf.duration) (hstop' : tf.validateOpenTime stop = true) :
    ((files.rowsBetween start stop).length : ℤ) = (stop - start) / tf.duration := by
  obtain ⟨k, hk⟩ := (validateOpenTime_iff_dvd hstart).mp hstop'
  have hk0 : 0 ≤ k := by
    by_contra hneg
    have : tf.duration * k < 0 := mul_neg_of_pos_of_neg tf.duration_pos (by omega)
    linarith
  have hlen := congrArg List.length (h.map_rowsBetween hstart hfirst hlt hstop)
  rw [List.length_map, length_windowStarts (r := ⟨start, stop, hlt⟩) (n := k.toNat) tf.duration_pos
    (by dsimp only; rw [Int.toNat_of_nonneg hk0]; linarith)] at hlen
  rw [hlen, Int.toNat_of_nonneg hk0, hk, Int.mul_ediv_cancel_left _ tf.duration_pos.ne']

/-- **The candles of an aligned range follow one another.** -/
theorem GapFree.consecutive (h : GapFree identity files tf first last)
    (hstart : tf.validateOpenTime start = true) (hfirst : first ≤ start) (hlt : start < stop)
    (hstop : stop ≤ last + tf.duration) :
    Consecutive tf start (files.rowsBetween start stop) where
  times := by
    have hmap := h.map_rowsBetween hstart hfirst hlt hstop
    have hlen := congrArg List.length hmap
    unfold windowStarts at hmap hlen
    rw [List.length_map, List.length_map, List.length_range] at hlen
    rw [hmap, hlen]
  timeframe c hc := h.timeframe c (mem_rowsBetween.mp hc).1
  closes c hc := h.closes c (mem_rowsBetween.mp hc).1
  closed c hc := Snapshots.isClosed_of_validate (h.valid.each (mem_rowsBetween.mp hc).1).2

/-- **The validator finds nothing** in an aligned range. -/
theorem GapFree.validateQuality (h : GapFree identity files tf first last)
    (hstart : tf.validateOpenTime start = true) (hfirst : first ≤ start) (hlt : start < stop)
    (hstop : stop ≤ last + tf.duration) :
    MarketData.validateQuality tf ⟨start, stop, hlt⟩ (last + tf.duration)
      (files.rowsBetween start stop) = .ok ⟨[], (files.rowsBetween start stop).length,
        (stop - start) / tf.duration⟩ := by
  have hconsecutive := h.consecutive hstart hfirst hlt hstop
  have hlast : ∀ c ∈ files.rowsBetween start stop, c.closeTime ≤ last + tf.duration := by
    intro c hc
    have hheld := (mem_rowsBetween.mp hc).1
    have hopen := ((h.times _).mp ⟨c, hheld, rfl⟩).2.1
    linarith [h.closes c hheld]
  have hmissing : ((windowStarts ⟨start, stop, hlt⟩ tf.duration).countP fun t =>
      !(files.rowsBetween start stop).any fun c => c.openTime == t) = 0 := by
    rw [List.countP_eq_zero, ← h.map_rowsBetween hstart hfirst hlt hstop]
    intro t ht
    obtain ⟨c, hc, rfl⟩ := List.mem_map.mp ht
    simp only [Bool.not_eq_true', Bool.not_eq_false]
    exact List.any_eq_true.mpr ⟨c, hc, beq_self_eq_true _⟩
  have hnonempty : (files.rowsBetween start stop).isEmpty = false := by
    obtain ⟨c, hc⟩ : ∃ c, c ∈ files.rowsBetween start stop := by
      have hmem : start ∈ (files.rowsBetween start stop).map (·.openTime) := by
        rw [h.map_rowsBetween hstart hfirst hlt hstop, mem_windowStarts tf.duration_pos]
        exact ⟨le_rfl, hlt, by simp⟩
      obtain ⟨c, hc, -⟩ := List.mem_map.mp hmem
      exact ⟨c, hc⟩
    rw [List.isEmpty_eq_false_iff]
    exact List.ne_nil_of_mem hc
  unfold MarketData.validateQuality
  rw [validateRows_consecutive hconsecutive hlast (fun t ht => (List.not_mem_nil ht).elim)
    (fun p hp => by cases hp), ok_bind]
  dsimp only
  rw [hnonempty, hmissing]
  rfl

end

/-! ### The page -/

section

variable (sha256 : Sha256Digest) {directory : MarketDirectory} {pair : TradingPair} {tf : Timeframe}
  {first last : Instant}

/-- What the catalog records of the dataset, as it is stored. -/
structure MetadataOf (pair : TradingPair) (tf : Timeframe) (files : PartitionFiles)
    (first last : Instant) (metadata : DatasetMetadata) : Prop where
  key : metadata.key = datasetKey pair tf
  exchange : metadata.exchange = Exchange.binance.value
  marketType : metadata.marketType = MarketType.spot.value
  symbol : metadata.symbol = pair.symbol
  timeframe : metadata.timeframe = tf.code
  candleCount : metadata.candleCount = files.held.length
  firstOpenTime : metadata.firstOpenTime = some (String.ofList (isoformat first))
  lastOpenTime : metadata.lastOpenTime = some (String.ofList (isoformat last))
  version : isSha256 metadata.version = true
  algorithm : metadata.versionAlgorithm = rawDatasetVersionAlgorithm ∨
    metadata.versionAlgorithm = legacyRawDatasetVersionAlgorithm
  manifest : ∃ manifest, metadata.partitionIntegrity = some manifest ∧
    manifest.entries = manifestEntries sha256 (datasetRoot pair tf) files
  composed : metadata.versionAlgorithm = rawDatasetVersionAlgorithm → composeRawDatasetVersion
    sha256 (manifestEntries sha256 (datasetRoot pair tf) files) = .ok metadata.version

/-- A gap-free dataset that is cataloged as it is stored. -/
structure Cataloged (directory : MarketDirectory) (pair : TradingPair) (tf : Timeframe)
    (first last : Instant) : Prop where
  gapFree : GapFree (chartIdentity pair tf) (directory.store (chartIdentity pair tf)) tf first last
  metadata : ∃ metadata, directory.catalog (datasetKey pair tf) = some metadata ∧
    MetadataOf sha256 pair tf (directory.store (chartIdentity pair tf)) first last metadata

/-- The page that ends at `stop`. -/
structure PageTo (files : PartitionFiles) (first stop : Instant) (query : MarketCandlePageQuery)
    (page : MarketCandlePage) : Prop where
  starts : page.dataRange.start = max first (stop - query.timeframe.duration * query.limit)
  ends : page.dataRange.stop = stop
  candles : page.candles = files.rowsBetween page.dataRange.start stop
  /-- As many candles as were asked for, or all that are left. -/
  length : (page.candles.length : ℤ) = min query.limit (files.rowsBetween first stop).length
  more : page.hasMoreBefore = decide (first < page.dataRange.start)
  next : page.nextBefore = if page.hasMoreBefore then some page.dataRange.start else none
  valid : page.validate sha256 = .ok ()

variable {sha256}

theorem algorithmNamed_of_supported {algorithm : String}
    (h : algorithm = rawDatasetVersionAlgorithm ∨ algorithm = legacyRawDatasetVersionAlgorithm) :
    algorithmNamed algorithm = true := by
  rcases h with rfl | rfl <;> decide

/-- The entries of a dataset that is cataloged as it is stored pass their checks. -/
theorem MetadataOf.catalogedEntries {files : PartitionFiles} {metadata : DatasetMetadata}
    (h : MetadataOf sha256 pair tf files first last metadata) :
    MarketData.catalogedEntries sha256 metadata (datasetRoot pair tf) =
      .ok (manifestEntries sha256 (datasetRoot pair tf) files) := by
  obtain ⟨manifest, hmanifest, hentries⟩ := h.manifest
  have hprefix : ((manifestEntries sha256 (datasetRoot pair tf) files).all fun e =>
      (datasetRoot pair tf ++ "/").toList.isPrefixOf e.relativePath.toList) = true := by
    rw [List.all_eq_true]
    intro e he
    obtain ⟨month, -, rfl⟩ := List.mem_map.mp he
    rw [List.isPrefixOf_iff_prefix]
    refine ⟨"year=".toList ++ (yearText (month / 12) ++
      ("/month=".toList ++ (padded 2 (month % 12 + 1).toNat ++ "/candles.parquet".toList))), ?_⟩
    simp only [integrityEntry, partitionPath, String.toList_append, String.toList_ofList,
      List.append_assoc]
    rfl
  have hsupported : (metadata.versionAlgorithm == rawDatasetVersionAlgorithm ||
      metadata.versionAlgorithm == legacyRawDatasetVersionAlgorithm) = true := by
    rw [Bool.or_eq_true, beq_iff_eq, beq_iff_eq]
    exact h.algorithm
  unfold MarketData.catalogedEntries
  rw [hmanifest]
  dsimp only
  rw [ok_bind, hentries, (FailureKind.unless_eq_ok (u := ())).mpr hsupported, ok_bind,
    (FailureKind.unless_eq_ok (u := ())).mpr hprefix, ok_bind]
  split_ifs with halgorithm
  · rw [h.composed halgorithm, ok_bind,
      (FailureKind.unless_eq_ok (u := ())).mpr (beq_self_eq_true _)]
    rfl
  · rfl

/-- The constructor accepts the page of a range. -/
theorem validate_page (sha256 : Sha256Digest) {files : PartitionFiles}
    (query : MarketCandlePageQuery) {metadata : DatasetMetadata} {start stop : Instant}
    (h : GapFree (chartIdentity query.pair query.timeframe) files query.timeframe first last)
    (hstart : query.timeframe.validateOpenTime start = true) (hfirst : first ≤ start)
    (hlt : start < stop) (hstop : stop ≤ last + query.timeframe.duration)
    (hstop' : query.timeframe.validateOpenTime stop = true)
    (havailable : first < last + query.timeframe.duration)
    (hlimit : 1 ≤ query.limit ∧ query.limit ≤ marketCandleMaxLimit)
    (hfits : (stop - start) / query.timeframe.duration ≤ query.limit)
    (hcount : 1 ≤ metadata.candleCount) (hversion : isSha256 metadata.version = true)
    (halgorithm : algorithmNamed metadata.versionAlgorithm = true) :
    (sealPage sha256 (contentOf query metadata ⟨first, last + query.timeframe.duration, havailable⟩
      ⟨start, stop, hlt⟩ (files.rowsBetween start stop))).validate sha256 = .ok () := by
  have hlen := h.length_rowsBetween hstart hfirst hlt hstop hstop'
  have hconsecutive := h.consecutive hstart hfirst hlt hstop
  have hsorted := rowsBetween_sorted h.valid start stop
  have hidentity : ∀ c ∈ files.rowsBetween start stop,
      c.identity = chartIdentity query.pair query.timeframe :=
    fun c hc => (h.valid.each (mem_rowsBetween.mp hc).1).1
  have hmap := h.map_rowsBetween hstart hfirst hlt hstop
  -- the last candle of the page opens one slot before its end
  have hmem : ∀ t, t ∈ (files.rowsBetween start stop).map (·.openTime) ↔
      start ≤ t ∧ t < stop ∧ query.timeframe.duration ∣ t - start := by
    intro t
    rw [hmap, mem_windowStarts query.timeframe.duration_pos]
  have hstopdvd := (validateOpenTime_iff_dvd hstart).mp hstop'
  generalize hrows : files.rowsBetween start stop = rows at *
  cases rows with
  | nil =>
    have hnot := (hmem start).mpr ⟨le_rfl, hlt, by simp⟩
    cases hnot
  | cons c rows =>
    have hhead := hconsecutive.head
    have hlast : query.timeframe.nextOpenTime
        ((c :: rows).getLast (List.cons_ne_nil c rows)).openTime = .ok stop := by
      have hin := List.getLast_mem (List.cons_ne_nil c rows)
      have haligned := ((c :: rows).getLast (List.cons_ne_nil c rows)).openTime_aligned
      rw [hconsecutive.timeframe _ hin] at haligned
      have hend := hconsecutive.getLast_add
      rw [hlen, Int.ediv_mul_cancel hstopdvd, add_sub_cancel] at hend
      unfold Timeframe.nextOpenTime
      rw [(FailureKind.unless_eq_ok (u := ())).mpr haligned, ok_bind, hend]
      rfl
    have hcandles : ((c :: rows).all fun c => c.identity ==
        (Exchange.binance, MarketType.spot, query.pair.symbol, query.timeframe.code) &&
          c.isClosed) = true := by
      rw [List.all_eq_true]
      intro c' hc'
      rw [Bool.and_eq_true, beq_iff_eq]
      exact ⟨hidentity c' hc', hconsecutive.closed c' hc'⟩
    simp only [MarketCandlePage.validate, sealPage, contentOf, bind_eq_ok,
      FailureKind.unless_eq_ok, exists_const,
      List.getLast?_eq_some_getLast (List.cons_ne_nil c rows), hlast]
    refine ⟨rfl, ?_, hversion, halgorithm, sha256.isSha256_hexdigest _, ?_, ?_, ?_, stop, rfl, ?_,
      hcandles, decide_eq_true hsorted.isChain, beq_self_eq_true _, beq_self_eq_true _,
      beq_self_eq_true _⟩
    · simp [hlimit.1, hlimit.2, hcount]
    · rw [hlen]
      simpa using hfits
    · simp [hfirst, hstop]
    · rw [hlen]
      exact beq_self_eq_true _
    · simp [hhead]

/-- Where a page may end. -/
theorem GapFree.pageEnd {identity : SeriesIdentity} {files : PartitionFiles}
    (h : GapFree identity files tf first last) {before : Option Instant}
    (hbefore : ∀ b ∈ before, tf.validateOpenTime b = true ∧ first < b ∧ b ≤ last + tf.duration) :
    tf.validateOpenTime (before.getD (last + tf.duration)) = true ∧
      first < before.getD (last + tf.duration) ∧
        before.getD (last + tf.duration) ≤ last + tf.duration := by
  have hpos := tf.duration_pos
  cases before with
  | none =>
    refine ⟨(validateOpenTime_iff_dvd h.last_aligned).mpr ?_, ?_, le_rfl⟩
    · rw [Option.getD_none, add_sub_cancel_left]
    · rw [Option.getD_none]
      linarith [h.first_le_last]
  | some b => exact hbefore b rfl

/-- **A page of a gap-free dataset is read**, whatever the limit and wherever it ends. -/
theorem readPage_eq_ok (h : Cataloged sha256 directory pair tf first last)
    {before : Option Instant} {limit : ℤ} (hlimit : 1 ≤ limit ∧ limit ≤ marketCandleMaxLimit)
    (hbefore : ∀ b ∈ before, tf.validateOpenTime b = true ∧ first < b ∧ b ≤ last + tf.duration) :
    ∃ page, readPage sha256 directory ⟨pair, tf, before, limit⟩ = .ok page ∧
      PageTo sha256 (directory.store (chartIdentity pair tf)) first
        (before.getD (last + tf.duration)) ⟨pair, tf, before, limit⟩ page := by
  obtain ⟨metadata, hfound, hmeta⟩ := h.metadata
  have hgap := h.gapFree
  have hpos := tf.duration_pos
  obtain ⟨hstop', hfirststop, hstop⟩ := hgap.pageEnd hbefore
  have havailable : first < last + tf.duration := hfirststop.trans_le hstop
  generalize hstopdef : before.getD (last + tf.duration) = stop at *
  generalize hfiles : directory.store (chartIdentity pair tf) = files at *
  -- where it starts
  have hmul : tf.duration ≤ tf.duration * limit := le_mul_of_one_le_right hpos.le hlimit.1
  obtain ⟨k, hk⟩ := (validateOpenTime_iff_dvd hgap.first_aligned).mp hstop'
  have hstart : tf.validateOpenTime (max first (stop - tf.duration * limit)) = true := by
    rcases max_choice first (stop - tf.duration * limit) with hmax | hmax
    · rw [hmax]
      exact hgap.first_aligned
    · rw [hmax, validateOpenTime_iff_dvd hgap.first_aligned]
      exact ⟨k - limit, by rw [mul_sub]; linarith⟩
  have hfirst : first ≤ max first (stop - tf.duration * limit) := le_max_left _ _
  have hlt : max first (stop - tf.duration * limit) < stop :=
    max_lt hfirststop (by linarith)
  have hfits : (stop - max first (stop - tf.duration * limit)) / tf.duration ≤ limit := by
    have hle : stop - max first (stop - tf.duration * limit) ≤ limit * tf.duration := by
      have := le_max_right first (stop - tf.duration * limit)
      linarith
    calc (stop - max first (stop - tf.duration * limit)) / tf.duration
        ≤ limit * tf.duration / tf.duration := Int.ediv_le_ediv hpos hle
      _ = limit := Int.mul_ediv_cancel _ hpos.ne'
  have hcount : 1 ≤ metadata.candleCount := by
    obtain ⟨c, hc, -⟩ := (hgap.times first).mpr ⟨le_rfl, hgap.first_le_last, hgap.first_aligned⟩
    have := List.length_pos_of_mem hc
    rw [hmeta.candleCount]
    omega
  have hquery : (⟨pair, tf, before, limit⟩ : MarketCandlePageQuery).validate = .ok () := by
    simp only [MarketCandlePageQuery.validate, bind_eq_ok, FailureKind.unless_eq_ok, exists_const]
    refine ⟨by simp [hlimit.1, hlimit.2], ?_⟩
    cases before with
    | none => rfl
    | some b => exact (hbefore b rfl).1
  have hconsistent : catalogConsistent ⟨pair, tf, before, limit⟩ metadata = true := by
    simp [catalogConsistent, hmeta.key, hmeta.exchange, hmeta.marketType, hmeta.symbol,
      hmeta.timeframe, hcount, hmeta.firstOpenTime, hmeta.lastOpenTime, hmeta.version,
      algorithmNamed_of_supported hmeta.algorithm]
  have hboundaries : catalogedBoundaries metadata = .ok (first, last) := by
    unfold catalogedBoundaries
    rw [hmeta.firstOpenTime, hmeta.lastOpenTime, Option.bind_some, Option.bind_some,
      String.toList_ofList, String.toList_ofList, fromisoformat_isoformat, fromisoformat_isoformat]
  have hnext : tf.nextOpenTime last = .ok (last + tf.duration) := by
    unfold Timeframe.nextOpenTime
    rw [hgap.last_aligned]
    rfl
  have hread := (readVerified_eq sha256 (datasetRoot pair tf) hgap.valid
    ⟨max first (stop - tf.duration * limit), stop, hlt⟩).trans
      (readRange_eq_rowsBetween hgap.valid _)
  have hquality := hgap.validateQuality hstart hfirst hlt hstop
  have hlen := hgap.length_rowsBetween hstart hfirst hlt hstop hstop'
  have hclosed := (hgap.consecutive hstart hfirst hlt hstop).closed
  have hfull : (((files.rowsBetween (max first (stop - tf.duration * limit)) stop).length : ℤ) ==
      (stop - max first (stop - tf.duration * limit)) / tf.duration) = true := by
    rw [hlen]
    exact beq_self_eq_true _
  have hvalid := validate_page sha256 ⟨pair, tf, before, limit⟩ hgap
    hstart hfirst hlt hstop hstop' havailable hlimit hfits hcount hmeta.version
    (algorithmNamed_of_supported hmeta.algorithm)
  have hpage : pageOf sha256 files ⟨pair, tf, before, limit⟩ metadata = .ok (sealPage sha256
      (contentOf ⟨pair, tf, before, limit⟩ metadata ⟨first, last + tf.duration, havailable⟩
        ⟨max first (stop - tf.duration * limit), stop, hlt⟩
        (files.rowsBetween (max first (stop - tf.duration * limit)) stop))) := by
    unfold pageOf
    dsimp only
    rw [(FailureKind.unless_eq_ok (u := ())).mpr hconsistent, ok_bind, hboundaries, ok_bind]
    dsimp only
    rw [(FailureKind.unless_eq_ok (u := ())).mpr (by
      simp [hgap.first_aligned, hgap.last_aligned, hgap.first_le_last]), ok_bind, hnext, ok_bind,
      hstopdef, (FailureKind.unless_eq_ok (u := ())).mpr (by simp [hstop, hfirststop]), ok_bind,
      dataRangeOf, dif_pos hlt, ok_bind, hmeta.catalogedEntries, ok_bind, hread, ok_bind, hquality,
      ok_bind, (FailureKind.unless_eq_ok (u := ())).mpr (by
        rw [hfull, List.all_eq_true.mpr hclosed]
        rfl), ok_bind, dataRangeOf, dif_pos havailable, ok_bind, hvalid, ok_bind]
    rfl
  refine ⟨_, ?_, rfl, rfl, rfl, ?_, rfl, rfl, hvalid⟩
  · simp only [readPage, hquery, Except.mapError, ok_bind, hfound, hfiles, hpage]
  · change (((files.rowsBetween (max first (stop - tf.duration * limit)) stop).length : ℕ) : ℤ) =
      min limit (files.rowsBetween first stop).length
    rw [hlen, hgap.length_rowsBetween hgap.first_aligned le_rfl hfirststop hstop hstop', hk,
      Int.mul_ediv_cancel_left _ hpos.ne']
    rcases le_total first (stop - tf.duration * limit) with hle | hle
    · have hlimitk : limit ≤ k := le_of_mul_le_mul_left (by linarith) hpos
      rw [max_eq_right hle, sub_sub_cancel, Int.mul_ediv_cancel_left _ hpos.ne',
        min_eq_left hlimitk]
    · have hlimitk : k ≤ limit := le_of_mul_le_mul_left (by linarith) hpos
      rw [max_eq_left hle, hk, Int.mul_ediv_cancel_left _ hpos.ne', min_eq_right hlimitk]

end

end MarketData
end DryTrade
