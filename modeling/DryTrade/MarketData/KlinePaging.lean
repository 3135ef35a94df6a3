import DryTrade.MarketData.Binance

/-!
# What the paging loop returns

Whatever the server answers, a call ends, and the candles it returns are in order, inside the range
and no more than were asked for.

## Main definitions

* `Paged` — the invariant of the loop.

## Main results

* `parseCandle_eq_ok` — the candle of a row; only its flag depends on the clock.
* `fetchPage_eq_ok` — one turn of the loop keeps the invariant and moves the cursor.
* `fetchCandles_sound` — **every answer**: the call ends, in order and within its bounds.
-/

namespace DryTrade
namespace MarketData

open BinanceSpotAdapter

/-! ### Rows -/

theorem binanceCandle_eq_ok {symbol : String} {timeframe : Timeframe} {openTime closeTime : Instant}
    {openPrice high low close volume quoteVolume : Option ℚ} {tradeCount : ℤ} {isClosed : Bool}
    {candle : Candle}
    (h : binanceCandle symbol timeframe openTime closeTime openPrice high low close volume
      quoteVolume tradeCount isClosed = .ok candle) :
    candle.identity = (.binance, .spot, symbol, timeframe.code) ∧ candle.timeframe = timeframe ∧
      candle.openTime = openTime ∧ candle.closeTime = closeTime ∧ candle.isClosed = isClosed ∧
      ∀ isClosed', binanceCandle symbol timeframe openTime closeTime openPrice high low close volume
        quoteVolume tradeCount isClosed' = .ok { candle with isClosed := isClosed' } := by
  unfold binanceCandle at h ⊢
  split at h
  · split at h
    · next h₁ h₂ =>
      cases openPrice <;> cases high <;> cases low <;> cases close <;> cases volume <;>
        cases quoteVolume <;> try cases h
      dsimp only at h ⊢
      split at h
      · split at h
        · split at h
          · split at h
            · next h₃ h₄ h₅ h₆ =>
              cases h
              refine ⟨rfl, rfl, rfl, rfl, rfl, fun isClosed' => ?_⟩
              rw [dif_pos h₁, dif_pos h₂, dif_pos h₃, dif_pos h₄, dif_pos h₅, dif_pos h₆]
            · cases h
          · cases h
        · cases h
      · cases h
    · cases h
  · cases h

/-- **What a row reads as**: only the flag of the candle depends on the clock. -/
theorem parseCandle_eq_ok {now : Instant} {row : JsonValue} {instrument : Instrument}
    {timeframe : Timeframe} {candle : Candle}
    (h : parseCandle now row instrument timeframe = .ok candle) :
    (∃ ms, rowOpenTime row = .ok ms ∧ candle.openTime = ms * 1000) ∧
      candle.identity = (.binance, .spot, instrument.symbol, timeframe.code) ∧
      candle.timeframe = timeframe ∧ candle.isClosed = decide (candle.closeTime < now) ∧
      ∀ now', parseCandle now' row instrument timeframe =
        .ok { candle with isClosed := decide (candle.closeTime < now') } := by
  unfold parseCandle at h ⊢
  split at h
  · next opened _ _ _ _ _ _ _ _ _ =>
    simp only [bind_eq_ok] at h
    obtain ⟨openMs, hopenMs, closeMs, hcloseMs, trades, htrades, openPrice, hopenPrice, high, hhigh,
      low, hlow, close, hclose, volume, hvolume, quoteVolume, hquoteVolume, openTime, hopenTime,
      closeTime, hcloseTime, h⟩ := h
    obtain ⟨hidentity, htimeframe, hopen, rfl, hflag, hany⟩ := binanceCandle_eq_ok h
    refine ⟨⟨openMs, hopenMs, ?_⟩, hidentity, htimeframe, hflag, fun now' => ?_⟩
    · unfold fromMilliseconds at hopenTime
      split at hopenTime
      · rw [hopen, ← Except.ok.inj hopenTime]
      · cases hopenTime
    · rw [hopenMs, ok_bind, hcloseMs, ok_bind, htrades, ok_bind, hopenPrice, ok_bind, hhigh,
        ok_bind,
        hlow, ok_bind, hclose, ok_bind, hvolume, ok_bind, hquoteVolume, ok_bind, hopenTime, ok_bind,
        hcloseTime, ok_bind, hany]
  · cases h

/-! ### Any server -/

section

variable {adapter : BinanceSpotAdapter} {source : KlinesSource} {fetch : CandleFetch}

/-- What a call may return: a candle of the range, closed when open ones are not allowed. -/
structure Kept (adapter : BinanceSpotAdapter) (fetch : CandleFetch) (candle : Candle) : Prop where
  start_le : fetch.dataRange.start ≤ candle.openTime
  lt_stop : candle.openTime < fetch.dataRange.stop
  closed : adapter.allowOpenCandles = false → candle.isClosed = true
  identity : candle.identity =
    (.binance, .spot, fetch.instrument.symbol, fetch.timeframe.code)

/-- **The rows of a page**: those that are kept are among them, in their order. -/
theorem keepRows_eq_ok {rows : List JsonValue} {openTimes : List ℤ} {candles candles' : List Candle}
    {readings readings' : ℕ} (hopen : rows.mapM rowOpenTime = .ok openTimes)
    (hroom : (candles.length : ℤ) < fetch.maxCandles)
    (h : adapter.keepRows source fetch rows candles readings = .ok (candles', readings')) :
    ∃ kept, candles' = candles ++ kept ∧ (∀ candle ∈ kept, Kept adapter fetch candle) ∧
      (kept.map (·.openTime)).Sublist (openTimes.map (· * 1000)) ∧
      (candles'.length : ℤ) ≤ fetch.maxCandles := by
  induction rows generalizing openTimes candles readings with
  | nil =>
    cases h
    exact ⟨[], (List.append_nil _).symm, by simp, List.nil_sublist _, hroom.le⟩
  | cons row rows ih =>
    obtain ⟨ms, openTimes, hms, hrest, rfl⟩ := mapM_cons_eq_ok.mp hopen
    unfold keepRows at h
    obtain ⟨candle, hcandle, h⟩ := bind_eq_ok.mp h
    dsimp only at h
    obtain ⟨⟨ms', hms', htime⟩, hidentity, -, -, -⟩ := parseCandle_eq_ok hcandle
    obtain rfl : ms = ms' := Except.ok.inj (hms.symm.trans hms')
    split at h
    · obtain ⟨kept, hkept, hall, hsub, hlength⟩ := ih hrest hroom h
      exact ⟨kept, hkept, hall, hsub.cons _, hlength⟩
    · next hrange =>
      rw [not_or, not_lt, not_le] at hrange
      split at h
      · next hkeep =>
        have hone : Kept adapter fetch candle := by
          refine ⟨hrange.1, hrange.2, fun hallow => ?_, hidentity⟩
          rcases hkeep with hclosed | hallowed
          · exact hclosed
          · rw [hallow] at hallowed
            cases hallowed
        split at h
        · next hfull =>
          cases h
          refine ⟨[candle], rfl, by simpa using hone, ?_, ?_⟩
          · rw [List.map_cons, List.map_nil, List.map_cons, htime]
            exact (List.nil_sublist _).cons_cons _
          · rw [List.length_append, List.length_singleton]
            push_cast
            omega
        · next hmore =>
          obtain ⟨kept, rfl, hall, hsub, hlength⟩ := ih hrest (not_le.mp hmore) h
          refine ⟨candle :: kept, by simp, ?_, ?_, hlength⟩
          · intro c hc
            rcases List.mem_cons.mp hc with rfl | hc
            · exact hone
            · exact hall c hc
          · rw [List.map_cons, List.map_cons, htime]
            exact hsub.cons_cons _
      · split at h
        · next hfull => exact absurd hroom (not_lt.mpr hfull)
        · obtain ⟨kept, hkept, hall, hsub, hlength⟩ := ih hrest hroom h
          exact ⟨kept, hkept, hall, hsub.cons _, hlength⟩

/-- Each element is below the next one exactly when the list increases. -/
theorem zip_tail_iff {l : List ℤ} :
    (∀ pair ∈ l.zip l.tail, pair.1 < pair.2) ↔ l.Pairwise (· < ·) := by
  rw [← List.isChain_iff_pairwise]
  induction l with
  | nil => simp
  | cons a l ih =>
    cases l with
    | nil => simp
    | cons b l =>
      rw [List.isChain_cons_cons, ← ih]
      simp

/-- The times of a page that passes its checks. -/
theorem checkPage_eq_ok {previousPage : Option (ℤ × ℤ)} {first last : ℤ} {openTimes : List ℤ}
    {u : Unit} (hle : first ≤ last) :
    checkPage previousPage first last openTimes = .ok u ↔
      (∀ previous ∈ previousPage, previous.2 < first) ∧ openTimes.Pairwise (· < ·) := by
  simp only [checkPage, bind_eq_ok, require_eq_ok, exists_const, zip_tail_iff]
  constructor
  · exact fun h => h.2
  · refine fun h => ⟨?_, h⟩
    rintro rfl
    exact absurd (h.1 _ rfl) (not_lt.mpr hle)

/-- **The invariant of the loop**: the candles are in order, none opens after the last page, and
there are no more than were asked for. -/
structure Paged (adapter : BinanceSpotAdapter) (fetch : CandleFetch) (state : PagingState) :
    Prop where
  kept : ∀ candle ∈ state.candles, Kept adapter fetch candle
  ordered : state.candles.Pairwise fun a b => a.openTime < b.openTime
  behind : ∀ candle ∈ state.candles, ∃ previous ∈ state.previousPage,
    candle.openTime ≤ previous.2 * 1000
  length_le : (state.candles.length : ℤ) ≤ fetch.maxCandles

/-- The loop starts with no candles. -/
theorem Paged.start (adapter : BinanceSpotAdapter) (fetch : CandleFetch) (cursor : ℤ)
    (hmax : 1 ≤ fetch.maxCandles) :
    Paged adapter fetch ⟨cursor, [], 0, 0, none⟩ := by
  refine ⟨by simp, List.Pairwise.nil, by simp, ?_⟩
  rw [List.length_nil]
  push_cast
  omega

/-- The last of increasing times is the greatest one. -/
theorem le_getLastD_of_pairwise {l : List ℤ} (h : l.Pairwise (· < ·)) {a : ℤ} (ha : a ∈ l) :
    a ≤ l.getLastD 0 := by
  obtain ⟨l', b, rfl⟩ := List.eq_nil_or_concat' l |>.resolve_left (List.ne_nil_of_mem ha)
  rw [List.getLastD_concat]
  rcases List.mem_append.mp ha with ha | ha
  · exact ((List.pairwise_append.mp h).2.2 a ha b (List.mem_singleton_self b)).le
  · exact (List.mem_singleton.mp ha).le

/-- **One turn of the loop** keeps the invariant; it moves the cursor unless it is the last one. -/
theorem fetchPage_eq_ok {state state' : PagingState} {last : Bool} (h : Paged adapter fetch state)
    (hrunning : running fetch state = true)
    (hpage : adapter.fetchPage source fetch state = .ok (last, state')) :
    Paged adapter fetch state' ∧ (last = false → state.cursor < state'.cursor) := by
  have hroom : (state.candles.length : ℤ) < fetch.maxCandles := by
    simp only [running, Bool.and_eq_true, decide_eq_true_eq] at hrunning
    exact hrunning.2
  unfold fetchPage at hpage
  obtain ⟨data, -, hpage⟩ := bind_eq_ok.mp hpage
  obtain ⟨_, -, hpage⟩ := bind_eq_ok.mp hpage
  split at hpage
  · cases hpage
    exact ⟨⟨h.kept, h.ordered, h.behind, h.length_le⟩, fun hfalse => by cases hfalse⟩
  · next row rows =>
    obtain ⟨openTimes, hopen, hpage⟩ := bind_eq_ok.mp hpage
    obtain ⟨_, hcheck, hpage⟩ := bind_eq_ok.mp hpage
    obtain ⟨⟨candles, readings⟩, hkeep, hpage⟩ := bind_eq_ok.mp hpage
    obtain ⟨duration, -, hpage⟩ := bind_eq_ok.mp hpage
    obtain ⟨_, hadvance, hpage⟩ := bind_eq_ok.mp hpage
    rw [require_eq_ok] at hadvance
    cases hpage
    simp only [checkPage, bind_eq_ok, require_eq_ok, exists_const, zip_tail_iff] at hcheck
    obtain ⟨-, hbehind, hordered⟩ := hcheck
    obtain ⟨kept, rfl, hkept, hsub, hlength⟩ := keepRows_eq_ok hopen hroom hkeep
    have hfirst : ∀ candle ∈ kept, openTimes.headD 0 * 1000 ≤ candle.openTime ∧
        candle.openTime ≤ openTimes.getLastD 0 * 1000 := by
      intro candle hcandle
      obtain ⟨ms, hms, heq⟩ := List.mem_map.mp (hsub.subset (List.mem_map_of_mem hcandle))
      have htime : candle.openTime = ms * 1000 := heq.symm
      have hlast := le_getLastD_of_pairwise hordered hms
      have hhead : openTimes.headD 0 ≤ ms := by
        cases openTimes with
        | nil => cases hms
        | cons first rest =>
          rcases List.mem_cons.mp hms with rfl | hms
          · exact le_rfl
          · exact ((List.pairwise_cons.mp hordered).1 ms hms).le
      rw [htime]
      constructor <;> linarith
    have hincreasing : (kept.map (·.openTime)).Pairwise (· < ·) := by
      refine List.Pairwise.sublist hsub (hordered.map (· * 1000) fun a b hab => ?_)
      exact Int.mul_lt_mul_of_pos_right hab (by decide)
    refine ⟨⟨?_, ?_, ?_, hlength⟩, fun _ => hadvance⟩
    · intro candle hcandle
      rcases List.mem_append.mp hcandle with hcandle | hcandle
      · exact h.kept candle hcandle
      · exact hkept candle hcandle
    · refine List.pairwise_append.mpr ⟨h.ordered, List.pairwise_map.mp hincreasing, ?_⟩
      intro a ha b hb
      obtain ⟨previous, hprevious, hle⟩ := h.behind a ha
      have hlt := hbehind previous hprevious
      have hge := (hfirst b hb).1
      calc a.openTime ≤ previous.2 * 1000 := hle
        _ < openTimes.headD 0 * 1000 := by omega
        _ ≤ b.openTime := hge
    · intro candle hcandle
      refine ⟨_, rfl, ?_⟩
      rcases List.mem_append.mp hcandle with hcandle | hcandle
      · obtain ⟨previous, hprevious, hle⟩ := h.behind candle hcandle
        have hlt := hbehind previous hprevious
        have hmono : openTimes.headD 0 ≤ openTimes.getLastD 0 := by
          cases openTimes with
          | nil => exact le_rfl
          | cons first rest => exact le_getLastD_of_pairwise hordered List.mem_cons_self
        calc candle.openTime ≤ previous.2 * 1000 := hle
          _ ≤ openTimes.getLastD 0 * 1000 := by omega
      · exact (hfirst candle hcandle).2
  · cases hpage

/-- **The loop ends** when it may send one request for every millisecond that is left, and keeps
the invariant. -/
theorem fetchPages_sound (source : KlinesSource) {state : PagingState}
    (h : Paged adapter fetch state) {fuel : ℕ}
    (hfuel : fetch.stop - state.cursor ≤ fuel) :
    ∃ result, adapter.fetchPages source fetch fuel state = some result ∧
      ∀ final, result = .ok final → Paged adapter fetch final := by
  induction fuel generalizing state with
  | zero =>
    have hstop : running fetch state = false := by
      unfold running
      rw [decide_eq_false (by push_cast at hfuel; omega), Bool.false_and]
    refine ⟨.ok state, ?_, ?_⟩
    · rw [fetchPages, hstop]
      rfl
    · rintro final hfinal
      cases hfinal
      exact h
  | succ fuel ih =>
    by_cases hrunning : running fetch state = true
    · cases hpage : adapter.fetchPage source fetch state with
      | error e =>
        refine ⟨.error e, ?_, fun final hfinal => by cases hfinal⟩
        rw [fetchPages, if_pos hrunning, hpage]
      | ok result =>
        obtain ⟨last, state'⟩ := result
        obtain ⟨hstate, hcursor⟩ := fetchPage_eq_ok h hrunning hpage
        cases last with
        | true =>
          refine ⟨.ok state', ?_, ?_⟩
          · rw [fetchPages, if_pos hrunning, hpage]
          · rintro final hfinal
            cases hfinal
            exact hstate
        | false =>
          have hlt := hcursor rfl
          obtain ⟨result, hresult, hfinal⟩ := ih hstate (by push_cast at hfuel; omega)
          refine ⟨result, ?_, hfinal⟩
          rw [fetchPages, if_pos hrunning, hpage]
          exact hresult
    · refine ⟨.ok state, ?_, ?_⟩
      · rw [fetchPages, if_neg hrunning]
      · rintro final hfinal
        cases hfinal
        exact h

/-- The call of some arguments that pass its checks. -/
abbrev fetchOf (adapter : BinanceSpotAdapter) (instrument : Instrument)
    (timeframe : MappedTimeframe) (dataRange : DataRange) (maxCandles : ℤ) (interval : String) :
    CandleFetch :=
  ⟨instrument, timeframe, dataRange, maxCandles, interval,
    min maxCandlesPerRequest (min adapter.pageSize maxCandles), dataRange.stop / 1000⟩

/-- A call that passes its checks starts at the first millisecond of its range. -/
theorem prepare_eq_ok {instrument : Instrument} {timeframe : MappedTimeframe}
    {dataRange : DataRange} {maxCandles : ℤ} {fetch : CandleFetch} {state : PagingState} :
    adapter.prepare instrument timeframe dataRange maxCandles = .ok (fetch, state) ↔
      (instrument.exchange = .binance ∧ instrument.marketType = .spot) ∧
        (∃ interval, timeframe.nativeCode .binance = .ok interval ∧
          fetch = fetchOf adapter instrument timeframe dataRange maxCandles interval) ∧
        1 ≤ maxCandles ∧ dataRange.start % 1000 = 0 ∧ dataRange.stop % 1000 = 0 ∧
        state = ⟨dataRange.start / 1000, [], 0, 0, none⟩ := by
  have hlimit : 1 ≤ min maxCandlesPerRequest (min adapter.pageSize maxCandles) ↔
      1 ≤ maxCandles := by
    have hpage := adapter.pageSize_pos
    unfold maxCandlesPerRequest
    omega
  simp only [prepare, toMilliseconds, bind_eq_ok, require_eq_ok, exists_const, hlimit, pure,
    Except.pure, Except.ok.injEq, Prod.mk.injEq]
  constructor
  · rintro ⟨hinstrument, interval, hinterval, hmax, _, ⟨hstart, rfl⟩, _, ⟨hstop, rfl⟩, rfl, rfl⟩
    exact ⟨hinstrument, ⟨interval, hinterval, rfl⟩, hmax, hstart, hstop, rfl⟩
  · rintro ⟨hinstrument, ⟨interval, hinterval, rfl⟩, hmax, hstart, hstop, rfl⟩
    exact ⟨hinstrument, interval, hinterval, hmax, _, ⟨hstart, rfl⟩, _, ⟨hstop, rfl⟩, rfl, rfl⟩

/-- A batch is built of the candles of its instrument. -/
theorem CandleBatch.construct_eq_ok {instrument : Instrument} {timeframe : Timeframe}
    {dataRange : DataRange} {candles : List Candle} {requests : ℕ} {batch : CandleBatch} :
    CandleBatch.construct instrument timeframe dataRange candles requests = .ok batch ↔
      (∀ candle ∈ candles, candle.identity =
        (instrument.exchange, instrument.marketType, instrument.symbol, timeframe.code)) ∧
      batch = ⟨instrument, timeframe, dataRange, candles, requests⟩ := by
  simp only [CandleBatch.construct, bind_eq_ok, pure, Except.pure, Except.ok.injEq]
  constructor
  · rintro ⟨_, hall, rfl⟩
    exact ⟨fun candle hcandle => require_eq_ok.mp (forM_eq_ok.mp hall candle hcandle), rfl⟩
  · rintro ⟨hall, rfl⟩
    exact ⟨(), forM_eq_ok.mpr fun candle hcandle => require_eq_ok.mpr (hall candle hcandle), rfl⟩

end

/-- More fuel does not change a result. -/
theorem fetchPages_mono {adapter : BinanceSpotAdapter} {source : KlinesSource} {fetch : CandleFetch}
    {fuel fuel' : ℕ} (hle : fuel ≤ fuel') {state : PagingState}
    {result : Except FetchError PagingState}
    (h : adapter.fetchPages source fetch fuel state = some result) :
    adapter.fetchPages source fetch fuel' state = some result := by
  induction fuel generalizing state fuel' with
  | zero =>
    unfold fetchPages at h
    split at h
    · cases h
    · next hstop =>
      cases fuel' with
      | zero => rw [fetchPages, if_neg hstop, ← h]
      | succ fuel' => rw [fetchPages, if_neg hstop, ← h]
  | succ fuel ih =>
    obtain ⟨fuel', rfl⟩ : ∃ n, fuel' = n + 1 := ⟨fuel' - 1, by omega⟩
    rw [fetchPages] at h ⊢
    split at h
    · next hrunning =>
      rw [if_pos hrunning]
      split at h
      · exact h
      · exact h
      · exact ih (Nat.le_of_succ_le_succ hle) h
    · next hstop => rw [if_neg hstop, ← h]

/-- The milliseconds of a range. -/
theorem milliseconds_sub_le {a b : ℤ} (ha : a % 1000 = 0) (hb : b % 1000 = 0) :
    b / 1000 - a / 1000 ≤ (((b - a) / 1000).toNat : ℤ) := by
  omega

end MarketData
end DryTrade
