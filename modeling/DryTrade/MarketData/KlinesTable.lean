import DryTrade.Paging
import DryTrade.MarketData.KlinePaging
import DryTrade.MarketData.Coverage

/-!
# Paging through a fixed table

A server that answers from one sorted table is read row by row: the call returns the first rows
that were closed when they were read.  Open rows are dropped one by one, each at its own reading of
the clock, so a clock that moves far enough between two pages can leave out a row that has closed
in the meantime.

## Main definitions

* `Kline` — a row together with the candle it reads as.
* `KlinesTable` — the rows of a server, in order.
* `NoneClosesBehind` — no open row comes before one that counts.

## Main results

* `fetchPages_table` — the loop keeps the first rows that were closed when they were read.
* `fetchCandles_exact` — **the whole call**, and when its candles are the first closed ones of one
  instant.
-/

namespace DryTrade
namespace MarketData

open BinanceSpotAdapter

/-! ### A fixed table -/

/-- A row of the server, with the candle it reads as once that is closed. -/
structure Kline (instrument : Instrument) (timeframe : Timeframe) where
  row : JsonValue
  openMilliseconds : ℤ
  candle : Candle
  rowOpenTime_row : rowOpenTime row = .ok openMilliseconds
  candle_openTime : candle.openTime = openMilliseconds * 1000
  candle_timeframe : candle.timeframe = timeframe
  parses : ∀ now, parseCandle now row instrument timeframe =
    .ok { candle with isClosed := decide (candle.closeTime < now) }

namespace Kline

variable {instrument : Instrument} {timeframe : Timeframe}

/-- The row was closed at a reading of the clock. -/
def closedAt (kline : Kline instrument timeframe) (now : Instant) : Bool :=
  decide (kline.candle.closeTime < now)

/-- The candle of the row at a reading of the clock. -/
def candleAt (kline : Kline instrument timeframe) (now : Instant) : Candle :=
  { kline.candle with isClosed := kline.closedAt now }

@[simp] theorem candleAt_openTime (kline : Kline instrument timeframe) (now : Instant) :
    (kline.candleAt now).openTime = kline.candle.openTime := rfl

@[simp] theorem candleAt_isClosed (kline : Kline instrument timeframe) (now : Instant) :
    (kline.candleAt now).isClosed = kline.closedAt now := rfl

theorem parseCandle_row (kline : Kline instrument timeframe) (now : Instant) :
    parseCandle now kline.row instrument timeframe = .ok (kline.candleAt now) :=
  kline.parses now

/-- A row that can be read, at whatever reading of the clock. -/
theorem exists_of_parseCandle {now : Instant} {row : JsonValue} {candle : Candle}
    (h : parseCandle now row instrument timeframe = .ok candle) :
    ∃ kline : Kline instrument timeframe, kline.row = row ∧ kline.candle = candle := by
  obtain ⟨⟨ms, hms, htime⟩, -, htimeframe, -, hparses⟩ := parseCandle_eq_ok h
  exact ⟨⟨row, ms, candle, hms, htime, htimeframe, hparses⟩, rfl, rfl⟩

end Kline

/-- The rows of a server: each opens, and closes, before the next one does. -/
structure KlinesTable (instrument : Instrument) (timeframe : Timeframe) where
  rows : List (Kline instrument timeframe)
  ordered : rows.Pairwise fun a b =>
    a.openMilliseconds < b.openMilliseconds ∧ a.candle.closeTime < b.candle.closeTime

namespace KlinesTable

variable {instrument : Instrument} {timeframe : Timeframe}
  (table : KlinesTable instrument timeframe)

/-- The answer to a request: the first rows that open in its range. -/
def answer (_ : ℕ) (request : KlinesRequest) : Except FetchError JsonValue :=
  .ok (.list ((page Kline.openMilliseconds request.startTime (request.endTime + 1)
    request.limit.toNat table.rows).map (·.row)))

/-- The rows of the table that open in a range of milliseconds. -/
def between (start stop : ℤ) : List (Kline instrument timeframe) :=
  table.rows.filter fun kline =>
    decide (start ≤ kline.openMilliseconds ∧ kline.openMilliseconds < stop)

/-- The rows of a range, with the numbers of the readings of the clock they are read at. -/
def rowsIn (dataRange : DataRange) : List (Kline instrument timeframe × ℕ) :=
  (table.between (dataRange.start / 1000) (dataRange.stop / 1000)).zipIdx

end KlinesTable

/-- The candles that are kept of some rows, each read at its own reading of the clock. -/
def keptOf {instrument : Instrument} {timeframe : Timeframe} (adapter : BinanceSpotAdapter)
    (now : ℕ → Instant) (rows : List (Kline instrument timeframe × ℕ)) : List Candle :=
  (rows.filter fun q => q.1.closedAt (now q.2) || adapter.allowOpenCandles).map
    fun q => q.1.candleAt (now q.2)

section

variable {adapter : BinanceSpotAdapter} {source : KlinesSource} {fetch : CandleFetch}

/-- One row more. -/
theorem keptOf_cons {instrument : Instrument} {timeframe : Timeframe} {now : ℕ → Instant}
    {kline : Kline instrument timeframe} {rows : List (Kline instrument timeframe)} {n : ℕ} :
    keptOf adapter now ((kline :: rows).zipIdx n) =
      (if kline.closedAt (now n) = true ∨ adapter.allowOpenCandles = true then
        [kline.candleAt (now n)] else []) ++ keptOf adapter now (rows.zipIdx (n + 1)) := by
  unfold keptOf
  rw [List.zipIdx_cons, List.filter_cons]
  by_cases hkeep : kline.closedAt (now n) = true ∨ adapter.allowOpenCandles = true
  · rw [if_pos hkeep, if_pos (by rwa [Bool.or_eq_true])]
    rfl
  · rw [if_neg hkeep, if_neg (by rwa [Bool.or_eq_true])]
    rfl

/-- **The rows of a page of the table** are kept as they are read. -/
theorem keepRows_table (adapter : BinanceSpotAdapter) (source : KlinesSource)
    {rows : List (Kline fetch.instrument fetch.timeframe.toTimeframe)}
    (hrange : ∀ kline ∈ rows, fetch.dataRange.start ≤ kline.candle.openTime ∧
      kline.candle.openTime < fetch.dataRange.stop)
    (candles : List Candle) (readings : ℕ)
    (hroom : (candles.length + rows.length : ℤ) ≤ fetch.maxCandles) :
    adapter.keepRows source fetch (rows.map (·.row)) candles readings =
      .ok (candles ++ keptOf adapter source.now (rows.zipIdx readings),
        readings + rows.length) := by
  induction rows generalizing candles readings with
  | nil => simp [keepRows, keptOf]
  | cons kline rows ih =>
    obtain ⟨hstart, hstop⟩ := hrange kline List.mem_cons_self
    have hin : ¬ (kline.candle.openTime < fetch.dataRange.start ∨
        fetch.dataRange.stop ≤ kline.candle.openTime) :=
      not_or.mpr ⟨not_lt.mpr hstart, not_le.mpr hstop⟩
    rw [List.length_cons] at hroom
    push_cast at hroom
    have hrest : ∀ k ∈ rows, fetch.dataRange.start ≤ k.candle.openTime ∧
        k.candle.openTime < fetch.dataRange.stop :=
      fun k hk => hrange k (List.mem_cons_of_mem kline hk)
    rw [List.map_cons, keepRows, kline.parseCandle_row, ok_bind, Kline.candleAt_openTime,
      Kline.candleAt_isClosed, if_neg hin, keptOf_cons, List.length_cons, ← Nat.add_assoc,
      Nat.add_right_comm]
    by_cases hkeep : kline.closedAt (source.now readings) = true ∨ adapter.allowOpenCandles = true
    · have hlength : ((candles ++ [kline.candleAt (source.now readings)]).length : ℤ) =
          candles.length + 1 := by
        rw [List.length_append, List.length_singleton]
        push_cast
        rfl
      rw [if_pos hkeep, if_pos hkeep, ← List.append_assoc]
      dsimp only
      rw [hlength]
      by_cases hfull : fetch.maxCandles ≤ candles.length + 1
      · have hnil : rows = [] := List.length_eq_zero_iff.mp (by omega)
        subst hnil
        rw [if_pos hfull]
        simp [keptOf, pure, Except.pure]
      · rw [if_neg hfull]
        exact ih hrest _ _ (by omega)
    · have hmore : ¬ fetch.maxCandles ≤ (candles.length : ℤ) := by omega
      rw [if_neg hkeep, if_neg hkeep, List.nil_append]
      dsimp only
      rw [if_neg hmore]
      exact ih hrest _ _ (by omega)

theorem keptOf_append {instrument : Instrument} {timeframe : Timeframe} {now : ℕ → Instant}
    {rows rows' : List (Kline instrument timeframe × ℕ)} :
    keptOf adapter now (rows ++ rows') = keptOf adapter now rows ++ keptOf adapter now rows' := by
  unfold keptOf
  rw [List.filter_append, List.map_append]

theorem length_keptOf_le {instrument : Instrument} {timeframe : Timeframe}
    (adapter : BinanceSpotAdapter) (now : ℕ → Instant)
    (rows : List (Kline instrument timeframe × ℕ)) :
    (keptOf adapter now rows).length ≤ rows.length := by
  unfold keptOf
  rw [List.length_map]
  exact List.length_filter_le _ _

/-- Rows that open apart by the duration of their cadence, in milliseconds. -/
theorem KlinesTable.spaced {instrument : Instrument} {timeframe : Timeframe}
    (table : KlinesTable instrument timeframe) (hduration : timeframe.duration % 1000 = 0) :
    table.rows.Pairwise fun a b =>
      a.openMilliseconds + timeframe.duration / 1000 ≤ b.openMilliseconds := by
  refine table.ordered.imp fun {a b} h => ?_
  have hopen := h.1
  have ha := a.candle.openTime_aligned
  have hb := b.candle.openTime_aligned
  rw [a.candle_timeframe, a.candle_openTime] at ha
  rw [b.candle_timeframe, b.candle_openTime] at hb
  obtain ⟨steps, hsteps⟩ := (validateOpenTime_iff_dvd ha).mp hb
  have hpos := timeframe.duration_pos
  have hone : 1 ≤ steps := by
    by_contra hlt
    have hle : timeframe.duration * steps ≤ 0 :=
      mul_nonpos_of_nonneg_of_nonpos hpos.le (by omega)
    omega
  have hge : timeframe.duration ≤ timeframe.duration * steps :=
    le_mul_of_one_le_right hpos.le hone
  omega

/-- What a call with a fixed table relies on. -/
structure FixedTable (source : KlinesSource) (fetch : CandleFetch)
    (table : KlinesTable fetch.instrument fetch.timeframe.toTimeframe) : Prop where
  answers : source.answer = table.answer
  duration : fetch.timeframe.duration % 1000 = 0
  start : fetch.dataRange.start % 1000 = 0
  stop : fetch.dataRange.stop % 1000 = 0
  stop_eq : fetch.stop = fetch.dataRange.stop / 1000
  pageLimit_pos : 1 ≤ fetch.pageLimit

/-- **The invariant of the loop on a table**: the rows before the cursor have been read, in order,
and what was kept of them is there. -/
structure ReadUpTo (adapter : BinanceSpotAdapter) (source : KlinesSource) (fetch : CandleFetch)
    (rows done todo : List (Kline fetch.instrument fetch.timeframe.toTimeframe))
    (state : PagingState) : Prop where
  split : rows = done ++ todo
  todo_eq : todo = rows.filter fun kline => decide (state.cursor ≤ kline.openMilliseconds)
  readings : state.readings = done.length
  candles : state.candles = keptOf adapter source.now done.zipIdx
  length_le : (state.candles.length : ℤ) ≤ fetch.maxCandles
  start_le : fetch.dataRange.start / 1000 ≤ state.cursor
  previous : ∀ previous ∈ state.previousPage, ∀ kline ∈ todo, previous.2 < kline.openMilliseconds

/-- A loop that has read enough has kept the first rows that count. -/
theorem ReadUpTo.take {rows done todo : List (Kline fetch.instrument fetch.timeframe.toTimeframe)}
    {state : PagingState} (h : ReadUpTo adapter source fetch rows done todo state)
    (hend : todo = [] ∨ fetch.maxCandles ≤ state.candles.length) :
    state.candles = (keptOf adapter source.now rows.zipIdx).take fetch.maxCandles.toNat := by
  have hlength := h.length_le
  rw [h.split, List.zipIdx_append, keptOf_append, ← h.candles]
  rcases hend with rfl | hfull
  · rw [List.zipIdx_nil, keptOf, List.filter_nil, List.map_nil, List.append_nil,
      List.take_of_length_le (by omega)]
  · rw [List.take_left' (by omega)]

/-- The rows from a later cursor on. -/
theorem KlinesTable.filter_between {instrument : Instrument} {timeframe : Timeframe}
    (table : KlinesTable instrument timeframe) {start cursor stop : ℤ} (hle : start ≤ cursor) :
    (table.between start stop).filter (fun kline => decide (cursor ≤ kline.openMilliseconds)) =
      table.between cursor stop := by
  unfold KlinesTable.between
  rw [List.filter_filter]
  refine List.filter_congr fun kline _ => ?_
  rw [← Bool.decide_and]
  exact decide_eq_decide.mpr ⟨fun h => ⟨h.1, h.2.2⟩, fun h => ⟨h.1, hle.trans h.1, h.2⟩⟩

/-- The request of a turn. -/
def requestOf (fetch : CandleFetch) (state : PagingState) : KlinesRequest :=
  ⟨fetch.instrument.nativeSymbol, fetch.interval, state.cursor, fetch.stop - 1,
    min fetch.pageLimit (fetch.maxCandles - state.candles.length)⟩

/-- A turn whose answer has no rows is the last one. -/
theorem fetchPage_nil {state : PagingState}
    (h : source.answer state.requestCount (requestOf fetch state) = .ok (.list [])) :
    adapter.fetchPage source fetch state =
      .ok (true, { state with requestCount := state.requestCount + 1 }) := by
  unfold requestOf at h
  unfold fetchPage
  dsimp only
  rw [h, ok_bind]
  rfl

/-- A turn whose rows pass their checks. -/
theorem fetchPage_cons {state : PagingState} {row : JsonValue} {rows : List JsonValue}
    {openTimes : List ℤ} {candles : List Candle} {readings : ℕ}
    (h : source.answer state.requestCount (requestOf fetch state) = .ok (.list (row :: rows)))
    (hopen : (row :: rows).mapM rowOpenTime = .ok openTimes)
    (hcheck : checkPage state.previousPage (openTimes.headD 0) (openTimes.getLastD 0) openTimes =
      .ok ())
    (hkeep : adapter.keepRows source fetch (row :: rows) state.candles state.readings =
      .ok (candles, readings))
    (hduration : fetch.timeframe.duration % 1000 = 0)
    (hadvance : state.cursor < openTimes.getLastD 0 + fetch.timeframe.duration / 1000) :
    adapter.fetchPage source fetch state =
      .ok (decide (((row :: rows).length : ℤ) < (requestOf fetch state).limit),
        ⟨openTimes.getLastD 0 + fetch.timeframe.duration / 1000, candles, state.requestCount + 1,
          readings, some (openTimes.headD 0, openTimes.getLastD 0)⟩) := by
  have hmilliseconds : timedeltaMilliseconds fetch.timeframe.duration =
      .ok (fetch.timeframe.duration / 1000) := by
    unfold timedeltaMilliseconds
    rw [(require_eq_ok (u := ())).mpr hduration, ok_bind]
    rfl
  unfold requestOf at h ⊢
  unfold fetchPage
  dsimp only
  rw [h, ok_bind]
  change ((Except.ok () : Except FetchError Unit) >>= fun _ => _) = _
  rw [ok_bind]
  dsimp only
  rw [hopen, ok_bind, hcheck, ok_bind, hkeep, ok_bind]
  dsimp only
  rw [hmilliseconds, ok_bind, (require_eq_ok (u := ())).mpr hadvance, ok_bind]
  rfl

/-- Milliseconds between those of two instants are an instant between them. -/
theorem bounds_of_milliseconds {a b t ms : ℤ} (ha : a % 1000 = 0) (hb : b % 1000 = 0)
    (ht : t = ms * 1000) (hle : a / 1000 ≤ ms) (hlt : ms < b / 1000) : a ≤ t ∧ t < b := by
  omega

/-- The opening times of rows of a table. -/
theorem mapM_rowOpenTime {instrument : Instrument} {timeframe : Timeframe}
    (rows : List (Kline instrument timeframe)) :
    (rows.map (·.row)).mapM rowOpenTime = .ok (rows.map (·.openMilliseconds)) := by
  induction rows with
  | nil => rfl
  | cons kline rows ih =>
    rw [List.map_cons, List.map_cons, mapM_cons_eq_ok]
    exact ⟨_, _, kline.rowOpenTime_row, ih, rfl⟩

variable {table : KlinesTable fetch.instrument fetch.timeframe.toTimeframe}

/-- A loop that stops has nothing left to read, or enough candles. -/
theorem ReadUpTo.stopped {done todo : List (Kline fetch.instrument fetch.timeframe.toTimeframe)}
    {state : PagingState}
    (h : ReadUpTo adapter source fetch
      (table.between (fetch.dataRange.start / 1000) fetch.stop) done todo state)
    (hstop : ¬ running fetch state = true) :
    todo = [] ∨ fetch.maxCandles ≤ state.candles.length := by
  rw [running, Bool.and_eq_true, decide_eq_true_eq, decide_eq_true_eq, not_and_or, not_lt,
    not_lt] at hstop
  refine hstop.imp_left fun hend => ?_
  rw [h.todo_eq, table.filter_between h.start_le]
  refine List.filter_eq_nil_iff.mpr fun kline _ hin => ?_
  have hbetween := of_decide_eq_true hin
  omega

/-- **One turn of the loop on a table** reads the next rows. -/
theorem fetchPage_table (htable : FixedTable source fetch table)
    {done todo : List (Kline fetch.instrument fetch.timeframe.toTimeframe)} {state : PagingState}
    (h : ReadUpTo adapter source fetch
      (table.between (fetch.dataRange.start / 1000) fetch.stop) done todo state)
    (hrunning : running fetch state = true) :
    ∃ last state' done' todo', adapter.fetchPage source fetch state = .ok (last, state') ∧
      ReadUpTo adapter source fetch (table.between (fetch.dataRange.start / 1000) fetch.stop)
        done' todo' state' ∧ (last = true → todo' = []) ∧
      (last = false → state.cursor < state'.cursor) := by
  have hroom : (state.candles.length : ℤ) < fetch.maxCandles := by
    simp only [running, Bool.and_eq_true, decide_eq_true_eq] at hrunning
    exact hrunning.2
  have htodo : todo = table.between state.cursor fetch.stop := by
    rw [h.todo_eq, table.filter_between h.start_le]
  obtain ⟨limit, hlimit⟩ : ∃ limit : ℕ,
      min fetch.pageLimit (fetch.maxCandles - state.candles.length) = (limit + 1 : ℕ) := by
    have hpos := htable.pageLimit_pos
    exact ⟨(min fetch.pageLimit (fetch.maxCandles - state.candles.length)).toNat - 1, by omega⟩
  have hanswer : source.answer state.requestCount (requestOf fetch state) =
      .ok (.list ((todo.take (limit + 1)).map (·.row))) := by
    unfold requestOf
    rw [htable.answers, KlinesTable.answer, hlimit, htodo]
    dsimp only
    rw [sub_add_cancel, Int.toNat_natCast]
    rfl
  cases todo with
  | nil =>
    refine ⟨true, _, done, [], fetchPage_nil hanswer, ?_, fun _ => rfl,
      fun hfalse => by cases hfalse⟩
    exact ⟨h.split, h.todo_eq, h.readings, h.candles, h.length_le, h.start_le, by simp⟩
  | cons kline rest =>
    have hpos : 1 ≤ fetch.timeframe.duration / 1000 := by
      have hduration := htable.duration
      have hdurationPos := fetch.timeframe.duration_pos
      omega
    have hspaced : (done ++ kline :: rest).Pairwise fun a b =>
        a.openMilliseconds + fetch.timeframe.duration / 1000 ≤ b.openMilliseconds := by
      rw [← h.split]
      exact (table.spaced htable.duration).sublist List.filter_sublist
    -- the page, and what is left after it
    obtain ⟨read, hread⟩ : ∃ read, read = kline :: rest.take limit := ⟨_, rfl⟩
    have hleft : kline :: rest = read ++ rest.drop limit := by
      rw [hread, List.cons_append, List.take_append_drop]
    have hcount : read.length ≤ limit + 1 := by
      rw [hread, List.length_cons, List.length_take]
      omega
    obtain ⟨init, final, hfinal⟩ : ∃ init final, read = init ++ [final] :=
      (List.eq_nil_or_concat' read).resolve_left (by rw [hread]; exact List.cons_ne_nil _ _)
    have hlast : (read.map (·.openMilliseconds)).getLastD 0 = final.openMilliseconds := by
      rw [hfinal, List.map_append, List.map_singleton, List.getLastD_concat]
    have hhead : (read.map (·.openMilliseconds)).headD 0 = kline.openMilliseconds := by
      rw [hread, List.map_cons, List.headD_cons]
    have hincreasing : (read.map (·.openMilliseconds)).Pairwise (· < ·) := by
      rw [hleft] at hspaced
      have hpage := (List.pairwise_append.mp (List.pairwise_append.mp hspaced).2.1).1
      rw [List.pairwise_map]
      exact hpage.imp fun hab => by omega
    have hle : kline.openMilliseconds ≤ final.openMilliseconds := by
      rw [← hlast]
      exact le_getLastD_of_pairwise hincreasing (by rw [hread]; exact List.mem_cons_self)
    have hcursor : state.cursor ≤ kline.openMilliseconds := by
      have hmem : kline ∈ table.between state.cursor fetch.stop := htodo ▸ List.mem_cons_self
      exact (of_decide_eq_true (List.mem_filter.mp hmem).2).1
    have hbounds : ∀ k ∈ read, fetch.dataRange.start ≤ k.candle.openTime ∧
        k.candle.openTime < fetch.dataRange.stop := by
      intro k hk
      have hmem : k ∈ table.between state.cursor fetch.stop := by
        rw [← htodo, hleft]
        exact List.mem_append_left _ hk
      have hbetween := of_decide_eq_true (List.mem_filter.mp hmem).2
      exact bounds_of_milliseconds htable.start htable.stop k.candle_openTime
        (h.start_le.trans hbetween.1) (htable.stop_eq ▸ hbetween.2)
    have hkeep := keepRows_table adapter source hbounds state.candles state.readings (by omega)
    have hrows : read.map (·.row) = kline.row :: (rest.take limit).map (·.row) := by
      rw [hread, List.map_cons]
    rw [List.take_succ_cons, List.map_cons] at hanswer
    rw [hrows] at hkeep
    have hopen := mapM_rowOpenTime read
    rw [hrows] at hopen
    have hcheck : checkPage state.previousPage ((read.map (·.openMilliseconds)).headD 0)
        ((read.map (·.openMilliseconds)).getLastD 0) (read.map (·.openMilliseconds)) = .ok () := by
      rw [hhead, hlast]
      refine (checkPage_eq_ok hle).mpr ⟨fun previous hprevious => ?_, hincreasing⟩
      exact h.previous previous hprevious kline List.mem_cons_self
    have hpage := fetchPage_cons hanswer hopen hcheck hkeep htable.duration (by omega)
    have hwhole : done ++ kline :: rest = (done ++ init) ++ final :: rest.drop limit := by
      rw [hleft, hfinal]
      simp
    rw [hwhole] at hspaced
    rw [hlast] at hpage
    refine ⟨_, _, done ++ read, rest.drop limit, hpage,
      ⟨?_, ?_, ?_, ?_, ?_, ?_, ?_⟩, fun hstop => ?_, fun _ => ?_⟩
    · rw [h.split, hleft, List.append_assoc]
    · rw [h.split, hwhole]
      exact (filter_after_page hpos hspaced).symm
    · rw [List.length_append, h.readings]
    · rw [List.zipIdx_append, keptOf_append, ← h.candles, h.readings, Nat.zero_add]
    · have hkept := length_keptOf_le adapter source.now (read.zipIdx state.readings)
      rw [List.length_zipIdx] at hkept
      rw [List.length_append]
      push_cast
      omega
    · have hnext : state.cursor ≤ final.openMilliseconds + fetch.timeframe.duration / 1000 := by
        omega
      exact h.start_le.trans hnext
    · rintro previous hprevious k hk
      cases hprevious
      have hafter := (List.pairwise_cons.mp (List.pairwise_append.mp hspaced).2.1).1 k hk
      dsimp only
      omega
    · have hshort := of_decide_eq_true hstop
      rw [← hrows, List.length_map, requestOf, hlimit, hread, List.length_cons,
        List.length_take] at hshort
      dsimp only at hshort
      exact List.drop_eq_nil_of_le (by omega)
    · dsimp only
      omega

/-- **The loop on a table** keeps the first rows that count. -/
theorem fetchPages_table (htable : FixedTable source fetch table)
    {done todo : List (Kline fetch.instrument fetch.timeframe.toTimeframe)} {state : PagingState}
    (h : ReadUpTo adapter source fetch
      (table.between (fetch.dataRange.start / 1000) fetch.stop) done todo state)
    {fuel : ℕ} (hfuel : fetch.stop - state.cursor ≤ fuel) :
    ∃ final, adapter.fetchPages source fetch fuel state = some (.ok final) ∧
      final.candles = (keptOf adapter source.now
        (table.between (fetch.dataRange.start / 1000) fetch.stop).zipIdx).take
          fetch.maxCandles.toNat := by
  induction fuel generalizing done todo state with
  | zero =>
    have hrunning : ¬ running fetch state = true := by
      rw [running, Bool.and_eq_true, decide_eq_true_eq]
      push_cast at hfuel
      omega
    exact ⟨state, by rw [fetchPages, if_neg hrunning], h.take (h.stopped hrunning)⟩
  | succ fuel ih =>
    by_cases hrunning : running fetch state = true
    · obtain ⟨last, state', done', todo', hpage, hread, hdone, hadvance⟩ :=
        fetchPage_table htable h hrunning
      rw [fetchPages, if_pos hrunning, hpage]
      cases last with
      | true => exact ⟨state', rfl, hread.take (.inl (hdone rfl))⟩
      | false =>
        have hlt := hadvance rfl
        exact ih hread (by push_cast at hfuel; omega)
    · exact ⟨state, by rw [fetchPages, if_neg hrunning], h.take (h.stopped hrunning)⟩

end

/-! ### The first closed candles -/

section

variable {instrument : Instrument} {timeframe : Timeframe} {now : ℕ → Instant}

/-- The row was closed at the reading it was read at. -/
def closedWhenRead (now : ℕ → Instant) (q : Kline instrument timeframe × ℕ) : Bool :=
  q.1.closedAt (now q.2)

/-- No row that is still open when it is read comes before one of the first `maximum` rows that are
closed when they are read. -/
def NoneClosesBehind (now : ℕ → Instant) (maximum : ℕ)
    (rows : List (Kline instrument timeframe × ℕ)) : Prop :=
  ∀ i j (hi : i < rows.length) (hj : j < rows.length), i < j →
    ¬ closedWhenRead now rows[i] = true → closedWhenRead now rows[j] = true →
      maximum ≤ (rows.take j).countP (closedWhenRead now)

/-- The first rows that are closed at one instant, as candles. -/
def firstClosedAt (maximum : ℕ) (rows : List (Kline instrument timeframe × ℕ)) (t : Instant) :
    List Candle :=
  ((rows.filter fun q => q.1.closedAt t).take maximum).map fun q => q.1.candleAt t

/-- The candles are the first closed ones at some reading of the clock that the call makes. -/
def FirstClosed (now : ℕ → Instant) (maximum : ℕ) (rows : List (Kline instrument timeframe × ℕ))
    (candles : List Candle) : Prop :=
  ∃ i, (rows = [] ∨ i < min maximum rows.length) ∧ i ≤ candles.length ∧
    candles = firstClosedAt maximum rows (now i)

/-- Rows of a range open, and close, one after the other. -/
theorem KlinesTable.pairwise_rowsIn (table : KlinesTable instrument timeframe)
    (dataRange : DataRange) : (table.rowsIn dataRange).Pairwise fun x y =>
      x.1.openMilliseconds < y.1.openMilliseconds ∧
        x.1.candle.closeTime < y.1.candle.closeTime := by
  have h : ((table.rowsIn dataRange).map Prod.fst).Pairwise fun a b =>
      a.openMilliseconds < b.openMilliseconds ∧ a.candle.closeTime < b.candle.closeTime := by
    rw [KlinesTable.rowsIn, List.zipIdx_map_fst]
    exact table.ordered.sublist List.filter_sublist
  exact List.pairwise_map.mp h

theorem KlinesTable.getElem_rowsIn_snd (table : KlinesTable instrument timeframe)
    (dataRange : DataRange) (i : ℕ) (hi : i < (table.rowsIn dataRange).length) :
    (table.rowsIn dataRange)[i].2 = i := by
  simp [KlinesTable.rowsIn]

/-- The candle of a row that is closed. -/
def Kline.closed (kline : Kline instrument timeframe) : Candle :=
  { kline.candle with isClosed := true }

theorem Kline.candleAt_eq_closed {kline : Kline instrument timeframe} {t : Instant}
    (h : kline.closedAt t = true) : kline.candleAt t = kline.closed := by
  unfold Kline.candleAt Kline.closed
  rw [h]

/-- The candles that are kept, where open ones are not. -/
theorem take_keptOf {adapter : BinanceSpotAdapter} (hadapter : adapter.allowOpenCandles = false)
    {rows : List (Kline instrument timeframe × ℕ)} {maximum : ℕ} :
    (keptOf adapter now rows).take maximum =
      ((rows.filter (closedWhenRead now)).take maximum).map fun q => q.1.closed := by
  unfold keptOf
  rw [List.map_take, hadapter]
  simp only [Bool.or_false]
  congr 1
  refine List.map_congr_left fun q hq => ?_
  exact Kline.candleAt_eq_closed (List.mem_filter.mp hq).2

theorem firstClosedAt_eq {rows : List (Kline instrument timeframe × ℕ)} {maximum : ℕ}
    {t : Instant} : firstClosedAt maximum rows t =
      ((rows.filter fun q => q.1.closedAt t).take maximum).map fun q => q.1.closed := by
  unfold firstClosedAt
  refine List.map_congr_left fun q hq => ?_
  exact Kline.candleAt_eq_closed (List.mem_filter.mp (List.mem_of_mem_take hq)).2

/-- Lists of rows are equal when their candles are. -/
theorem eq_of_map_closed_eq {rows l l' : List (Kline instrument timeframe × ℕ)}
    (hrows : rows.Pairwise fun x y => x.1.openMilliseconds < y.1.openMilliseconds)
    (hl : ∀ q ∈ l, q ∈ rows) (hl' : ∀ q ∈ l', q ∈ rows)
    (h : l.map (fun q => q.1.closed) = l'.map fun q => q.1.closed) : l = l' := by
  have hinj : ∀ x ∈ rows, ∀ y ∈ rows, x.1.closed = y.1.closed → x = y := by
    refine List.inj_on_of_nodup_map ?_
    refine List.pairwise_map.mpr (hrows.imp fun {x y} hlt heq => ?_)
    have hclosed : x.1.closed.openTime = y.1.closed.openTime := congrArg Candle.openTime heq
    have htime : x.1.candle.openTime = y.1.candle.openTime := hclosed
    rw [x.1.candle_openTime, y.1.candle_openTime] at htime
    exact absurd (Int.eq_of_mul_eq_mul_right (by decide) htime) (ne_of_lt hlt)
  induction l generalizing l' with
  | nil => exact (List.map_eq_nil_iff.mp h.symm).symm
  | cons x l ih =>
    cases l' with
    | nil => cases h
    | cons y l' =>
      rw [List.map_cons, List.map_cons, List.cons.injEq] at h
      rw [hinj x (hl x List.mem_cons_self) y (hl' y List.mem_cons_self) h.1,
        ih (fun q hq => hl q (List.mem_cons_of_mem x hq))
          (fun q hq => hl' q (List.mem_cons_of_mem y hq)) h.2]

/-- **The candles that were closed when read are the first closed ones** of one instant exactly when
no row closes behind. -/
theorem firstClosed_iff {adapter : BinanceSpotAdapter} (table : KlinesTable instrument timeframe)
    (hadapter : adapter.allowOpenCandles = false) (hnow : Monotone now) {dataRange : DataRange}
    {maximum : ℕ} (hmax : 1 ≤ maximum) :
    FirstClosed now maximum (table.rowsIn dataRange)
        ((keptOf adapter now (table.rowsIn dataRange)).take maximum) ↔
      NoneClosesBehind now maximum (table.rowsIn dataRange) := by
  have hpairwise := table.pairwise_rowsIn dataRange
  have hsnd := table.getElem_rowsIn_snd dataRange
  generalize table.rowsIn dataRange = rows at hpairwise hsnd ⊢
  have hopen : rows.Pairwise fun x y => x.1.openMilliseconds < y.1.openMilliseconds :=
    hpairwise.imp fun h => h.1
  unfold FirstClosed
  rw [take_keptOf hadapter]
  constructor
  · rintro ⟨t, -, -, heq⟩ i j hi hj hlt hopened hclosed
    rw [firstClosedAt_eq] at heq
    have hlists := eq_of_map_closed_eq hopen
      (fun q hq => (List.mem_filter.mp (List.mem_of_mem_take hq)).1)
      (fun q hq => (List.mem_filter.mp (List.mem_of_mem_take hq)).1) heq
    have hsplit : rows = rows.take j ++ rows[j] :: rows.drop (j + 1) := by
      rw [List.getElem_cons_drop, List.take_append_drop]
    have hfront : rows[i] ∈ rows.take j :=
      List.mem_iff_getElem.mpr ⟨i, by rw [List.length_take]; omega, List.getElem_take⟩
    have hnodup : rows.Nodup := hopen.imp fun h heq => absurd (heq ▸ h) (lt_irrefl _)
    rw [hsplit] at hnodup hlists
    refine le_countP_of_take_filter_eq hnodup hlists hfront (fun hq => ?_) hopened hclosed
    have hclose := (List.pairwise_iff_getElem.mp hpairwise i j hi hj hlt).2
    exact decide_eq_true (hclose.trans (of_decide_eq_true hq))
  · intro hcond
    have hlead := take_filter_eq_take_takeWhile hcond
    obtain ⟨k, hk⟩ : ∃ k, k = ((rows.takeWhile (closedWhenRead now)).take maximum).length :=
      ⟨_, rfl⟩
    have hprefix : (rows.takeWhile (closedWhenRead now)).take maximum = rows.take k := by
      rw [hk]
      exact List.prefix_iff_eq_take.mp
        ((List.take_prefix _ _).trans (List.takeWhile_prefix _))
    have hkm : k ≤ maximum := hk ▸ List.length_take_le _ _
    have hkl : k ≤ rows.length := by
      have hlength := congrArg List.length hprefix
      rw [← hk, List.length_take] at hlength
      omega
    have hread : ∀ q ∈ rows.take k, closedWhenRead now q = true := by
      intro q hq
      rw [← hprefix] at hq
      exact List.mem_takeWhile_imp (List.mem_of_mem_take hq)
    -- a reading at which the rows before `k` are closed, and no later one is if it counts
    have hreading : rows = [] ∨ ∃ i < min maximum rows.length, i ≤ k ∧ k ≤ i + 1 ∧
        (maximum = k ∨ ∀ q ∈ rows.drop k, ¬ q.1.closedAt (now i) = true) := by
      by_cases hmore : k < maximum ∧ k < rows.length
      · refine .inr ⟨k, lt_min hmore.1 hmore.2, le_rfl, Nat.le_succ k, .inr ?_⟩
        have hopened : ¬ closedWhenRead now rows[k] = true := by
          intro hclosed
          have hall : ∀ q ∈ rows.take (k + 1), closedWhenRead now q = true := by
            intro q hq
            rw [List.take_succ_eq_append_getElem hmore.2] at hq
            rcases List.mem_append.mp hq with hq | hq
            · exact hread q hq
            · exact List.mem_singleton.mp hq ▸ hclosed
          have hlonger : (rows.takeWhile (closedWhenRead now)).length = k := by
            rw [List.length_take] at hk
            omega
          rw [← List.take_append_drop (k + 1) rows, List.takeWhile_append_of_pos hall,
            List.length_append, List.length_take] at hlonger
          omega
        intro q hq hclosed
        obtain ⟨b, hb, rfl⟩ := List.mem_iff_getElem.mp hq
        rw [List.length_drop] at hb
        rw [List.getElem_drop] at hclosed
        refine hopened ?_
        unfold closedWhenRead
        rw [hsnd k hmore.2]
        rcases Nat.eq_zero_or_pos b with rfl | hpos
        · exact hclosed
        · have hclose := (List.pairwise_iff_getElem.mp hpairwise k (k + b) hmore.2 (by omega)
            (by omega)).2
          exact decide_eq_true (hclose.trans (of_decide_eq_true hclosed))
      · rcases Nat.eq_zero_or_pos rows.length with hnil | hpos
        · exact .inl (List.length_eq_zero_iff.mp hnil)
        · refine .inr ⟨k - 1, by omega, by omega, by omega, ?_⟩
          by_cases hfull : maximum = k
          · exact .inl hfull
          · refine .inr fun q hq => ?_
            rw [List.drop_eq_nil_of_le (by omega)] at hq
            cases hq
    rcases hreading with rfl | ⟨i, hi, hik, hki, hnone⟩
    · exact ⟨0, .inl rfl, Nat.zero_le _, by simp [firstClosedAt]⟩
    · refine ⟨i, .inr hi, ?_, ?_⟩
      · rw [List.length_map, hlead, ← hk]
        exact hik
      · rw [firstClosedAt_eq, hlead, hprefix, take_filter_eq_take hkm ?_ hnone]
        intro q hq
        have hclosed := hread q hq
        obtain ⟨a, ha, rfl⟩ := List.mem_iff_getElem.mp hq
        rw [List.length_take] at ha
        rw [List.getElem_take] at hclosed ⊢
        unfold closedWhenRead at hclosed
        rw [hsnd a (by omega)] at hclosed
        exact decide_eq_true ((of_decide_eq_true hclosed).trans_le (hnow (by omega)))

end

/-! ### A sample -/

/-- A flat row of a day. -/
def sampleRow (day : ℤ) : JsonValue :=
  .list [.int (day * 86400000), .str "1.00", .str "1.00", .str "1.00", .str "1.00", .str "5",
    .int (day * 86400000 + 86399999), .str "5.0", .int 3]

/-- The instrument of the rows. -/
def sampleInstrument : Instrument := ⟨.binance, .spot, "BTC/USDT", "BTCUSDT"⟩

/-- The daily cadence under the code of the exchange. -/
def mappedDaily : MappedTimeframe := ⟨dailyTimeframe, [(.binance, "1d")]⟩

theorem sampleRange_nonempty : (0 : ℤ) < 2 * Instant.microsecondsPerDay := by decide

/-- Two days. -/
def sampleTwoDays : DataRange := ⟨0, 2 * Instant.microsecondsPerDay, sampleRange_nonempty⟩

theorem one_le_samplePage : (1 : ℤ) ≤ 1 := le_rfl

theorem samplePage_le : (1 : ℤ) ≤ 1000 := by decide

/-- An adapter with pages of one row that drops open candles. -/
def onePerPage : BinanceSpotAdapter := ⟨false, 1, one_le_samplePage, samplePage_le⟩

/-- The clock of a call whose second request is delayed past the end of the second day. -/
def delayedClock (n : ℕ) : Instant :=
  if n = 0 then 1000 else 3 * Instant.microsecondsPerDay

theorem delayedClock_monotone : Monotone delayedClock := by
  refine monotone_nat_of_le_succ fun n => ?_
  unfold delayedClock
  rw [if_neg (Nat.succ_ne_zero n)]
  split <;> decide

end MarketData
end DryTrade
