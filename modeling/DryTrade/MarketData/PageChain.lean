import DryTrade.MarketData.PageReading
import DryTrade.PaperTrading.Agreement

/-!
# Chart pages concatenate

A chart that follows the cursors of its pages back to the first candle has read the dataset: the
pages, from the last one back to the first, are the stored candles in order, with none missing and
none twice.  Between two calls the dataset may grow at both ends.

## Main results

* `GapFree.rowsBetween_eq` — a dataset that grew has the same candles in a range it had before.
* `pageChain_concatenates` — **the pages of a chain concatenate to the dataset**.
-/

namespace DryTrade
namespace MarketData

open PaperTrading (TradingPair isSha256 samplePair)

section

variable {identity : SeriesIdentity} {files files' : PartitionFiles} {tf : Timeframe}
  {first last first' last' start stop : Instant}

/-- **A dataset that grew** has the same candles in a range it had before. -/
theorem GapFree.rowsBetween_eq (h : GapFree identity files tf first last)
    (h' : GapFree identity files' tf first' last') (hgrow : ∀ c ∈ files.held, c ∈ files'.held)
    (hfirst : first ≤ start) (hstop : stop ≤ last + tf.duration) :
    files'.rowsBetween start stop = files.rowsBetween start stop := by
  refine RawStore.eq_of_sorted (rowsBetween_sorted h'.valid _ _) (rowsBetween_sorted h.valid _ _)
    fun c => ?_
  rw [mem_rowsBetween, mem_rowsBetween]
  constructor
  · rintro ⟨hc, h0, h1⟩
    have haligned := ((h'.times c.openTime).mp ⟨c, hc, rfl⟩).2.2
    obtain ⟨c', hc', hopen⟩ := h.exists_openTime (hfirst.trans h0) (h1.trans_le hstop) haligned
    -- no other candle of the dataset opens with it
    have hkey : c'.key = c.key := (Candle.key_eq_iff
      (((h'.valid.each (hgrow c' hc')).1).trans (h'.valid.each hc).1.symm)).mpr hopen
    have heq := h'.valid.distinct.agree c' (hgrow c' hc') c hc hkey
    exact ⟨heq ▸ hc', h0, h1⟩
  · rintro ⟨hc, h0, h1⟩
    exact ⟨hgrow c hc, h0, h1⟩

/-- A dataset that grew starts no later. -/
theorem GapFree.first_le (h : GapFree identity files tf first last)
    (h' : GapFree identity files' tf first' last') (hgrow : ∀ c ∈ files.held, c ∈ files'.held) :
    first' ≤ first := by
  obtain ⟨c, hc, hopen⟩ := (h.times first).mpr ⟨le_rfl, h.first_le_last, h.first_aligned⟩
  exact ((h'.times first).mp ⟨c, hgrow c hc, hopen⟩).1

/-- A dataset that grew ends no earlier. -/
theorem GapFree.last_le (h : GapFree identity files tf first last)
    (h' : GapFree identity files' tf first' last') (hgrow : ∀ c ∈ files.held, c ∈ files'.held) :
    last ≤ last' := by
  obtain ⟨c, hc, hopen⟩ := (h.times last).mpr ⟨h.first_le_last, le_rfl, h.last_aligned⟩
  exact ((h'.times last).mp ⟨c, hgrow c hc, hopen⟩).2.1

/-- The candles of two adjacent ranges. -/
theorem rowsBetween_append (h : files.Valid identity) (hstart : first ≤ start)
    (hstop : start ≤ stop) :
    files.rowsBetween first start ++ files.rowsBetween start stop =
      files.rowsBetween first stop := by
  refine RawStore.eq_of_sorted (List.pairwise_append.mpr ⟨rowsBetween_sorted h _ _,
    rowsBetween_sorted h _ _, fun c hc c' hc' => ?_⟩) (rowsBetween_sorted h _ _) fun c => ?_
  · exact (mem_rowsBetween.mp hc).2.2.trans_le (mem_rowsBetween.mp hc').2.1
  · rw [List.mem_append, mem_rowsBetween, mem_rowsBetween, mem_rowsBetween]
    constructor
    · rintro (⟨hc, h0, h1⟩ | ⟨hc, h0, h1⟩)
      · exact ⟨hc, h0, h1.trans_le hstop⟩
      · exact ⟨hc, hstart.trans h0, h1⟩
    · rintro ⟨hc, h0, h1⟩
      rcases lt_or_ge c.openTime start with hlt | hge
      · exact .inl ⟨hc, h0, hlt⟩
      · exact .inr ⟨hc, hge, h1⟩

end

section

variable {sha256 : Sha256Digest} {pair : TradingPair} {tf : Timeframe}
  {calls : ℕ → MarketDirectory × ℤ} {first last : ℕ → Instant}

/-- The files call number `i` finds. -/
def chartFiles (pair : TradingPair) (tf : Timeframe) (calls : ℕ → MarketDirectory × ℤ) (i : ℕ) :
    PartitionFiles :=
  (calls i).1.store (chartIdentity pair tf)

/-- Every call finds a gap-free dataset that is cataloged as it is stored and that has grown since
the call before, and asks for an admissible number of candles. -/
structure GrowingCalls (sha256 : Sha256Digest) (pair : TradingPair) (tf : Timeframe)
    (calls : ℕ → MarketDirectory × ℤ) (first last : ℕ → Instant) : Prop where
  cataloged : ∀ i, Cataloged sha256 (calls i).1 pair tf (first i) (last i)
  grows : ∀ i, ∀ c ∈ (chartFiles pair tf calls i).held, c ∈ (chartFiles pair tf calls (i + 1)).held
  limit : ∀ i, 1 ≤ (calls i).2 ∧ (calls i).2 ≤ marketCandleMaxLimit

theorem GrowingCalls.grows_le (h : GrowingCalls sha256 pair tf calls first last) {i j : ℕ}
    (hij : i ≤ j) : ∀ c ∈ (chartFiles pair tf calls i).held,
      c ∈ (chartFiles pair tf calls j).held := by
  induction j, hij using Nat.le_induction with
  | base => exact fun c hc => hc
  | succ j _ ih => exact fun c hc => h.grows j c (ih c hc)

/-- The pages of a chain that starts at call number `i` and ends at `stop`. -/
structure ChainFrom (sha256 : Sha256Digest) (pair : TradingPair) (tf : Timeframe)
    (calls : ℕ → MarketDirectory × ℤ) (first : ℕ → Instant) (i : ℕ) (stop : Instant)
    (pages : List MarketCandlePage) : Prop where
  nonempty : pages ≠ []
  /-- Read backwards, the pages are what is stored at the last call. -/
  candles : pages.reverse.flatMap (·.candles) =
    (chartFiles pair tf calls (i + (pages.length - 1))).rowsBetween
      (first (i + (pages.length - 1))) stop
  /-- Each page ends where the one before it starts. -/
  head : pages.head?.map (·.dataRange.stop) = some stop
  adjacent : pages.IsChain fun page older => page.nextBefore = some older.dataRange.stop ∧
    older.dataRange.stop = page.dataRange.start
  /-- Each page is as long as was asked for, or has all that is left. -/
  each : ∀ k page, pages[k]? = some page → page.validate sha256 = .ok () ∧
    (page.candles.length : ℤ) = min (calls (i + k)).2
      ((chartFiles pair tf calls (i + k)).rowsBetween (first (i + k)) page.dataRange.stop).length

/-- **A chain ends**, and has read what lies before its start. -/
theorem GrowingCalls.pageChain (h : GrowingCalls sha256 pair tf calls first last) {floor : Instant}
    (hfloor : ∀ i, floor ≤ first i) {fuel : ℕ} (i : ℕ) (before : Option Instant)
    (hbefore : ∀ b ∈ before, tf.validateOpenTime b = true ∧ first i < b ∧ b ≤ last i + tf.duration)
    (hfuel : before.getD (last i + tf.duration) ≤ floor + fuel * tf.duration) :
    ∃ pages, MarketData.pageChain sha256 pair tf calls fuel i before = .ok (some pages) ∧
      ChainFrom sha256 pair tf calls first i (before.getD (last i + tf.duration)) pages := by
  induction fuel generalizing i before with
  | zero =>
    have hend := ((h.cataloged i).gapFree.pageEnd hbefore).2.1
    rw [Nat.cast_zero, zero_mul, add_zero] at hfuel
    exact absurd (hfloor i) (not_le.mpr (hend.trans_le hfuel))
  | succ fuel ih =>
    have hgap := (h.cataloged i).gapFree
    have hpos := tf.duration_pos
    obtain ⟨haligned, hfirst, hlast⟩ := hgap.pageEnd hbefore
    obtain ⟨page, hread, hto⟩ := readPage_eq_ok (h.cataloged i) (h.limit i) hbefore
    generalize before.getD (last i + tf.duration) = stop at *
    unfold MarketData.pageChain
    rw [hread, ok_bind]
    have hfirstpage : ∀ page', [page][0]? = some page' → page'.validate sha256 = .ok () ∧
        (page'.candles.length : ℤ) = min (calls (i + 0)).2
          ((chartFiles pair tf calls (i + 0)).rowsBetween (first (i + 0))
            page'.dataRange.stop).length := by
      intro page' hpage'
      obtain rfl := Option.some.inj hpage'
      exact ⟨hto.valid, hto.ends.symm ▸ hto.length⟩
    cases hmore : page.hasMoreBefore with
    | false =>
      -- the page starts with the first candle
      have hstart : page.dataRange.start = first i := by
        have hnot : ¬ first i < page.dataRange.start := by
          rw [hto.more] at hmore
          exact of_decide_eq_false hmore
        exact le_antisymm (not_lt.mp hnot) (hto.starts ▸ le_max_left _ _)
      refine ⟨[page], rfl, List.cons_ne_nil _ _, ?_, ?_, List.isChain_singleton _, ?_⟩
      · have hcandles : page.candles =
            (chartFiles pair tf calls i).rowsBetween page.dataRange.start stop := hto.candles
        rw [hstart] at hcandles
        simpa using hcandles
      · rw [List.head?_cons, Option.map_some, hto.ends]
      · rintro (_ | k) page' hpage'
        · exact hfirstpage page' hpage'
        · cases hpage'
    | true =>
      have hbegin : first i < page.dataRange.start := by
        rw [hto.more] at hmore
        exact of_decide_eq_true hmore
      -- the page has as many candles as were asked for
      have hstart : page.dataRange.start = stop - tf.duration * (calls i).2 := by
        have hmax := hto.starts
        rcases max_choice (first i) (stop - tf.duration * (calls i).2) with hch | hch
        · exact absurd (hmax.trans hch) hbegin.ne'
        · exact hmax.trans hch
      have hmul : tf.duration ≤ tf.duration * (calls i).2 :=
        le_mul_of_one_le_right hpos.le (h.limit i).1
      have haligned' : tf.validateOpenTime page.dataRange.start = true := by
        rw [hstart, validateOpenTime_iff_dvd haligned]
        exact ⟨-(calls i).2, by ring⟩
      have hnextgap := (h.cataloged (i + 1)).gapFree
      have hnextfirst : first (i + 1) ≤ first i := hgap.first_le hnextgap (h.grows i)
      have hnextlast : last i ≤ last (i + 1) := hgap.last_le hnextgap (h.grows i)
      have hnext : page.nextBefore = some page.dataRange.start := by
        rw [hto.next, hmore]
        rfl
      obtain ⟨pages, hpages, hchain⟩ := ih (i + 1) (some page.dataRange.start)
        (fun b hb => by
          obtain rfl := Option.some.inj hb
          exact ⟨haligned', by linarith, by linarith⟩)
        (by
          rw [Option.getD_some, hstart]
          push_cast at hfuel
          linarith)
      rw [Option.getD_some] at hchain
      obtain ⟨next, rest, rfl⟩ := List.exists_cons_of_ne_nil hchain.nonempty
      have hindex : i + ((page :: next :: rest).length - 1) =
          i + 1 + ((next :: rest).length - 1) := by
        simp only [List.length_cons]
        omega
      have hnextstop : next.dataRange.stop = page.dataRange.start :=
        Option.some.inj hchain.head
      refine ⟨page :: next :: rest, ?_, List.cons_ne_nil _ _, ?_, ?_, ?_, ?_⟩
      · rw [if_pos rfl, hnext, hpages]
        rfl
      · -- the older pages, and this one as it is stored at the last call
        have hlater := h.grows_le (Nat.le_add_right i ((page :: next :: rest).length - 1))
        have hlatergap := (h.cataloged (i + ((page :: next :: rest).length - 1))).gapFree
        rw [List.reverse_cons, List.flatMap_append, hchain.candles, ← hindex,
          List.flatMap_singleton, hto.candles,
          ← hgap.rowsBetween_eq hlatergap hlater hbegin.le hlast]
        exact rowsBetween_append hlatergap.valid ((hgap.first_le hlatergap hlater).trans hbegin.le)
          (by linarith)
      · rw [List.head?_cons, Option.map_some, hto.ends]
      · exact List.isChain_cons_cons.mpr ⟨⟨hnext.trans (congrArg some hnextstop.symm), hnextstop⟩,
          hchain.adjacent⟩
      · rintro (_ | k) page' hpage'
        · exact hfirstpage page' hpage'
        · have heach := hchain.each k page' hpage'
          rwa [add_right_comm] at heach

/-- **The pages of a chain concatenate to the dataset.** A chart that starts without a cursor and
follows the cursors of its pages, while the dataset grows at both ends between the calls, is done
after a bounded number of calls: no call fails, every page is as long as was asked for or has all
that is left, each starts where the next one ends, and together they are, in order, every candle
stored at the last call up to the last one of the first call. -/
theorem pageChain_concatenates (h : GrowingCalls sha256 pair tf calls first last) {floor : Instant}
    (hfloor : ∀ i, floor ≤ first i) {fuel : ℕ}
    (hfuel : last 0 + tf.duration ≤ floor + fuel * tf.duration) :
    ∃ pages, pageChain sha256 pair tf calls fuel 0 none = .ok (some pages) ∧
      pages.head?.map (·.dataRange.stop) = some (last 0 + tf.duration) ∧
      (pages.IsChain fun page older => page.nextBefore = some older.dataRange.stop ∧
        older.dataRange.stop = page.dataRange.start) ∧
      (∀ k page, pages[k]? = some page → page.validate sha256 = .ok () ∧
        (page.candles.length : ℤ) = min (calls k).2
          ((chartFiles pair tf calls k).rowsBetween (first k) page.dataRange.stop).length) ∧
      pages.reverse.flatMap (·.candles) =
        (sortByOpenTime (chartFiles pair tf calls (pages.length - 1)).held).filter
          fun c => decide (c.openTime ≤ last 0) := by
  obtain ⟨pages, hpages, hchain⟩ := h.pageChain hfloor 0 none
    (fun b hb => by cases hb) hfuel
  have hgap := (h.cataloged (0 + (pages.length - 1))).gapFree
  have hcandles := hchain.candles
  refine ⟨pages, hpages, hchain.head, hchain.adjacent, fun k page hpage => ?_, ?_⟩
  · have heach := hchain.each k page hpage
    rwa [Nat.zero_add] at heach
  · rw [hcandles, Option.getD_none]
    unfold PartitionFiles.rowsBetween
    rw [Nat.zero_add] at hgap ⊢
    refine List.filter_congr fun c hc => ?_
    have hheld : c ∈ (chartFiles pair tf calls (pages.length - 1)).held :=
      mem_sortByOpenTime.mp hc
    obtain ⟨hfirst, -, haligned⟩ := (hgap.times c.openTime).mp ⟨c, hheld, rfl⟩
    have hpos := tf.duration_pos
    have hiff : c.openTime < last 0 + tf.duration ↔ c.openTime ≤ last 0 :=
      ⟨tf.le_of_lt_next (h.cataloged 0).gapFree.last_aligned haligned, fun hle => by linarith⟩
    rw [decide_eq_true hfirst, Bool.true_and]
    exact decide_eq_decide.mpr hiff

end

/-! ### Three candles of two months -/

theorem isSha256_zeros : isSha256 (String.ofList (List.replicate 64 '0')) = true := by decide

/-- A digest that is the same for every text. -/
def zeroDigest : Sha256Digest :=
  ⟨fun _ => String.ofList (List.replicate 64 '0'), fun _ => isSha256_zeros⟩

/-- The four-hour candle number `i` since the epoch, of BTC/USDT. -/
def chartCandle (i : ℕ) : Candle := { fourHourCandle i with symbol := "BTC/USDT" }

/-- The last candle of January 1970 and the first two of February. -/
def twoMonths : PartitionFiles :=
  [(23640, [chartCandle 185]), (23641, [chartCandle 186, chartCandle 187])]

/-- Their catalog entry. -/
def twoMonthsMetadata : DatasetMetadata where
  key := datasetKey samplePair timeframe4h
  exchange := "binance"
  marketType := "spot"
  symbol := "BTC/USDT"
  nativeSymbol := "BTCUSDT"
  timeframe := "4h"
  location := "market/" ++ datasetRoot samplePair timeframe4h
  firstOpenTime := some (String.ofList (isoformat (185 * 14400000000)))
  lastOpenTime := some (String.ofList (isoformat (187 * 14400000000)))
  candleCount := 3
  version := String.ofList (List.replicate 64 '0')
  updatedAt := "1970-02-02T00:00:00+00:00"
  versionAlgorithm := rawDatasetVersionAlgorithm
  partitionIntegrity := some ⟨1, String.ofList (List.replicate 64 '0'), rawDatasetVersionAlgorithm,
    manifestEntries zeroDigest (datasetRoot samplePair timeframe4h) twoMonths⟩

/-- The directory that holds them. -/
def twoMonthsDirectory : MarketDirectory :=
  ⟨fun _ => twoMonths, fun _ => some twoMonthsMetadata⟩

theorem threeSlots_iff (t : ℤ) : 2664000000000 = t ∨ 2678400000000 = t ∨ 2692800000000 = t ↔
    2664000000000 ≤ t ∧ t ≤ 2692800000000 ∧ (t - 0) % 14400000000 = 0 := by
  omega

theorem gapFree_twoMonths : GapFree (chartIdentity samplePair timeframe4h) twoMonths timeframe4h
    (185 * 14400000000) (187 * 14400000000) := by
  have hrows : ∀ p ∈ twoMonths,
      PartitionRows (chartIdentity samplePair timeframe4h) p.1 p.2 := by
    intro p hp
    have hread : (readRows (chartIdentity samplePair timeframe4h) p.1 p.2).isOk = true := by
      revert p
      decide +kernel
    obtain ⟨out, hout⟩ := isOk_iff.mp hread
    exact (readRows_eq_ok.mp hout).2
  have hheld : twoMonths.held = [chartCandle 185, chartCandle 186, chartCandle 187] := rfl
  refine ⟨⟨by decide, hrows⟩, ?_, by decide, by decide, by decide, fun t => ?_, ?_⟩
  · rw [hheld]
    simp [chartCandle, fourHourCandle]
  · rw [hheld]
    simp only [List.mem_cons, List.not_mem_nil, or_false, exists_eq_or_imp, exists_eq_left,
      chartCandle, fourHourCandle, Timeframe.validateOpenTime, timeframe4h, minuteTimeframe,
      beq_iff_eq]
    push_cast
    exact threeSlots_iff t
  · rw [hheld]
    decide +kernel

theorem cataloged_twoMonths : Cataloged zeroDigest twoMonthsDirectory samplePair timeframe4h
    (185 * 14400000000) (187 * 14400000000) where
  gapFree := gapFree_twoMonths
  metadata := by
    refine ⟨twoMonthsMetadata, rfl, rfl, rfl, rfl, rfl, rfl, rfl, rfl, rfl, isSha256_zeros,
      .inl rfl, ⟨_, rfl, rfl⟩, fun _ => ?_⟩
    obtain ⟨text, htext⟩ := composeRawDatasetVersion_manifestEntries zeroDigest
      (datasetRoot samplePair timeframe4h) gapFree_twoMonths.valid.nodup
    exact htext

/-- The chain, with pages of two candles. -/
theorem pageChain_concatenates_twoMonths : ∃ pages,
    pageChain zeroDigest samplePair timeframe4h (fun _ => (twoMonthsDirectory, 2)) 3 0 none =
      .ok (some pages) ∧ pages.reverse.flatMap (·.candles) = twoMonths.held := by
  have hcalls : GrowingCalls zeroDigest samplePair timeframe4h (fun _ => (twoMonthsDirectory, 2))
      (fun _ => 185 * 14400000000) fun _ => 187 * 14400000000 :=
    ⟨fun _ => cataloged_twoMonths, fun _ c hc => hc, fun _ => by decide⟩
  have hfuel : (187 * 14400000000 : ℤ) + timeframe4h.duration ≤
      185 * 14400000000 + (3 : ℕ) * timeframe4h.duration := by
    decide
  obtain ⟨pages, hpages, -, -, -, hcandles⟩ :=
    pageChain_concatenates hcalls (fun _ => le_rfl) hfuel
  have hall : ((sortByOpenTime twoMonths.held).filter fun c =>
      decide (c.openTime ≤ 187 * 14400000000)) = twoMonths.held := by
    decide +kernel
  exact ⟨pages, hpages, hcandles.trans hall⟩

end MarketData
end DryTrade
