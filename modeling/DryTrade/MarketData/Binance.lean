import DryTrade.Growth
import DryTrade.Backtesting.Records

/-!
# Fetching candles page by page

The adapter asks the exchange for the candles of a range in pages.  A page starts at a cursor, which
the last row of the page before moves; rows outside the range, and rows that are still open when
they are read, are dropped.  The server answers the requests in any way it likes, and the clock is
read once for every row.

## Main definitions

* `JsonValue` — a value of an answer.
* `BinanceSpotAdapter.parseCandle` — the candle of a row.
* `BinanceSpotAdapter.fetchPage` — one turn of the paging loop.
* `BinanceSpotAdapter.fetchCandles` — the whole call, with a bound on the number of its requests.
-/

namespace DryTrade
namespace MarketData

/-! ### Errors -/

/-- The exception classes of a fetch. -/
inductive FetchErrorKind
  | unknownInstrument
  | unsupportedTimeframe
  | invalidMarketResponse
  | marketDataInconsistency
  | marketDataUnavailable
  | marketRateLimit
  | value
  | overflow
  deriving DecidableEq, Repr

/-- The `default_message` of a class. -/
def FetchErrorKind.defaultMessage : FetchErrorKind → String
  | .unknownInstrument => "O instrumento de mercado não foi encontrado."
  | .unsupportedTimeframe => "O timeframe solicitado não é suportado."
  | .invalidMarketResponse => "A fonte retornou uma resposta de mercado inválida."
  | .marketDataInconsistency => "Os dados de mercado apresentam inconsistências."
  | .marketDataUnavailable => "A fonte de mercado está temporariamente indisponível."
  | .marketRateLimit => "A fonte de mercado limitou temporariamente as requisições."
  | .value => ""
  | .overflow => ""

/-- One raised exception. -/
structure FetchError where
  kind : FetchErrorKind
  message : String
  deriving DecidableEq, Repr

/-- The exception of a class that is called without an argument. -/
def FetchErrorKind.error (kind : FetchErrorKind) : FetchError := ⟨kind, kind.defaultMessage⟩

/-- `raise Class()`. -/
def FetchErrorKind.raise {α : Type} (kind : FetchErrorKind) : Except FetchError α :=
  .error kind.error

/-- `MarketDataInconsistencyError(message)`. -/
def inconsistency (message : String) : FetchError := ⟨.marketDataInconsistency, message⟩

/-! ### Answers -/

/-- A JSON value; a number with a fraction that is not finite has no value. -/
inductive JsonValue
  | null
  | bool (b : Bool)
  | int (n : ℤ)
  | float (value : Option ℚ)
  | str (s : String)
  | list (items : List JsonValue)
  | dict (entries : List (String × JsonValue))

/-- The value of an `int`, which a `bool` is as well. -/
def JsonValue.asInt : JsonValue → Option ℤ
  | .int n => some n
  | .bool b => some (if b then 1 else 0)
  | _ => none

/-- `value == n`. -/
def JsonValue.equalsInt (value : JsonValue) (n : ℤ) : Bool :=
  match value with
  | .float (some q) => q == n
  | _ => value.asInt == some n

/-- A value, or `InvalidMarketResponseError()`. -/
def orInvalidResponse {α : Type} : Option α → Except FetchError α
  | some a => .ok a
  | none => FetchErrorKind.invalidMarketResponse.raise

/-- `_require_string`, whose `ValueError` is an invalid response to its caller. -/
def requireString : JsonValue → Except FetchError String
  | .str s => .ok s
  | _ => FetchErrorKind.invalidMarketResponse.raise

/-- The texts of the infinities and of the values that are no numbers. -/
def isNotFinite (s : List Char) : Bool :=
  let body := (Decimal.signOfText s).2.map Char.toLower
  body == ['i', 'n', 'f'] || body == ['i', 'n', 'f', 'i', 'n', 'i', 't', 'y'] ||
    (body.take 3 == ['n', 'a', 'n'] && (body.drop 3).all Char.isDigit) ||
    (body.take 4 == ['s', 'n', 'a', 'n'] && (body.drop 4).all Char.isDigit)

/-- `Decimal(text)`: a number, or a value that is not finite. -/
def readDecimal (text : String) : Except FetchError (Option ℚ) :=
  let s := ((text.toList.dropWhile Backtesting.isSpace).rdropWhile Backtesting.isSpace).filter
    (· ≠ '_')
  match Decimal.ofText s with
  | some d => .ok (some d.value)
  | none => if isNotFinite s then .ok none else FetchErrorKind.invalidMarketResponse.raise

/-- `Decimal(_require_string(value))`. -/
def readPrice (value : JsonValue) : Except FetchError (Option ℚ) := do
  let text ← requireString value
  readDecimal text

/-! ### Times -/

/-- The milliseconds of the first `datetime`. -/
def minimumMilliseconds : ℤ := -62135596800000

/-- The milliseconds of the last `datetime`. -/
def maximumMilliseconds : ℤ := 253402300799999

/-- `_from_milliseconds`. -/
def fromMilliseconds (value : ℤ) : Except FetchError Instant :=
  if minimumMilliseconds ≤ value ∧ value ≤ maximumMilliseconds then .ok (value * 1000)
  else .error ⟨.overflow, "date value out of range"⟩

/-- `_to_milliseconds`. -/
def toMilliseconds (value : Instant) : Except FetchError ℤ := do
  require (value % 1000 = 0) (inconsistency
    "timestamp deve possuir precisão exata de milissegundo.")
  return value / 1000

/-- `_timedelta_milliseconds`. -/
def timedeltaMilliseconds (value : ℤ) : Except FetchError ℤ := do
  require (value % 1000 = 0) (inconsistency "O timeframe deve possuir precisão de milissegundo.")
  return value / 1000

/-! ### Rows -/

/-- The instrument whose candles are fetched. -/
structure Instrument where
  exchange : Exchange
  marketType : MarketType
  symbol : String
  nativeSymbol : String
  deriving DecidableEq, Repr

/-- A cadence together with the codes the exchanges have for it. -/
structure MappedTimeframe extends Timeframe where
  nativeCodes : List (Exchange × String)

/-- `native_code`. -/
def MappedTimeframe.nativeCode (timeframe : MappedTimeframe) (exchange : Exchange) :
    Except FetchError String :=
  match timeframe.nativeCodes.lookup exchange with
  | some code => .ok code
  | none => FetchErrorKind.unsupportedTimeframe.raise

/-- `_SOURCE`. -/
def binanceSource : String := "binance_spot_rest"

/-- The constructor of a candle of the exchange. -/
def binanceCandle (symbol : String) (timeframe : Timeframe) (openTime closeTime : Instant)
    (openPrice high low close volume quoteVolume : Option ℚ) (tradeCount : ℤ) (isClosed : Bool) :
    Except FetchError Candle :=
  if h₁ : timeframe.validateOpenTime openTime = true then
  if h₂ : openTime < closeTime then
  match openPrice, high, low, close, volume, quoteVolume with
  | some openPrice, some high, some low, some close, some volume, some quoteVolume =>
    if h₃ : max openPrice (max close low) ≤ high then
    if h₄ : low ≤ min openPrice (min close high) then
    if h₅ : 0 ≤ volume ∧ ∀ v ∈ some quoteVolume, 0 ≤ v then
    if h₆ : ∀ n ∈ some tradeCount, 0 ≤ n then
      .ok {
        exchange := .binance
        marketType := .spot
        symbol := symbol
        timeframe := timeframe
        openTime := openTime
        closeTime := closeTime
        openPrice := openPrice
        high := high
        low := low
        close := close
        volume := volume
        quoteVolume := some quoteVolume
        tradeCount := some tradeCount
        isClosed := isClosed
        source := binanceSource
        openTime_aligned := h₁
        openTime_lt_closeTime := h₂
        high_ge := h₃
        low_le := h₄
        volume_nonneg := h₅.1
        quoteVolume_nonneg := h₅.2
        tradeCount_nonneg := h₆ }
    else .error (inconsistency "trade_count não pode ser negativo.")
    else .error (inconsistency "Volumes não podem ser negativos.")
    else .error (inconsistency "low é maior que outro valor OHLC.")
    else .error (inconsistency "high é menor que outro valor OHLC.")
  | some _, some _, some _, some _, some _, none =>
    .error (inconsistency "quote_volume deve ser Decimal finito.")
  | _, _, _, _, _, _ =>
    .error (inconsistency "Preço e volume devem ser Decimal finitos.")
  else .error (inconsistency "close_time deve ser posterior a open_time.")
  else .error (inconsistency "open_time não está alinhado ao timeframe.")

/-- `_row_open_time`. -/
def rowOpenTime : JsonValue → Except FetchError ℤ
  | .list (first :: _) => orInvalidResponse first.asInt
  | _ => FetchErrorKind.invalidMarketResponse.raise

/-- `_parse_candle`, at a reading of the clock. -/
def parseCandle (now : Instant) (row : JsonValue) (instrument : Instrument)
    (timeframe : Timeframe) : Except FetchError Candle :=
  match row with
  | .list (opened :: openText :: highText :: lowText :: closeText :: volumeText :: closed ::
      quoteVolumeText :: trades :: _) => do
    let openMilliseconds ← orInvalidResponse opened.asInt
    let closeMilliseconds ← orInvalidResponse closed.asInt
    let tradeCount ← orInvalidResponse trades.asInt
    let openPrice ← readPrice openText
    let high ← readPrice highText
    let low ← readPrice lowText
    let close ← readPrice closeText
    let volume ← readPrice volumeText
    let quoteVolume ← readPrice quoteVolumeText
    let openTime ← fromMilliseconds openMilliseconds
    let closeTime ← fromMilliseconds closeMilliseconds
    binanceCandle instrument.symbol timeframe openTime closeTime openPrice high low close volume
      quoteVolume tradeCount (closeTime < now)
  | _ => FetchErrorKind.invalidMarketResponse.raise

/-- `_raise_api_error`. -/
def raiseApiError : JsonValue → Except FetchError Unit
  | .dict entries =>
    match entries.lookup "code" with
    | some code =>
      if code.equalsInt (-1121) then FetchErrorKind.unknownInstrument.raise
      else FetchErrorKind.invalidMarketResponse.raise
    | none => .ok ()
  | _ => .ok ()

/-! ### The paging loop -/

/-- The parameters of a request for candles; its `timeZone` is always `"0"`. -/
structure KlinesRequest where
  symbol : String
  interval : String
  startTime : ℤ
  endTime : ℤ
  limit : ℤ
  deriving DecidableEq, Repr

/-- What a call sees of the world: an answer or a failure for each request, in the order they are
sent, and a reading of the clock for each row, in the order they are read. -/
structure KlinesSource where
  answer : ℕ → KlinesRequest → Except FetchError JsonValue
  now : ℕ → Instant

/-- The adapter's settings. -/
structure BinanceSpotAdapter where
  allowOpenCandles : Bool
  pageSize : ℤ
  pageSize_pos : 1 ≤ pageSize
  pageSize_le : pageSize ≤ 1000

/-- `limits.max_candles_per_request`. -/
def maxCandlesPerRequest : ℤ := 1000

/-- The variables of the paging loop, with the number of clock readings so far. -/
structure PagingState where
  cursor : ℤ
  candles : List Candle
  requestCount : ℕ
  readings : ℕ
  previousPage : Option (ℤ × ℤ)

/-- One call of `fetch_candles` after its checks: its arguments, and the numbers it starts from. -/
structure CandleFetch where
  instrument : Instrument
  timeframe : MappedTimeframe
  dataRange : DataRange
  maxCandles : ℤ
  interval : String
  pageLimit : ℤ
  stop : ℤ

/-- `CandleBatch`. -/
structure CandleBatch where
  instrument : Instrument
  timeframe : Timeframe
  dataRange : DataRange
  candles : List Candle
  sourceRequestCount : ℕ

/-- The constructor of a batch. -/
def CandleBatch.construct (instrument : Instrument) (timeframe : Timeframe) (dataRange : DataRange)
    (candles : List Candle) (sourceRequestCount : ℕ) : Except FetchError CandleBatch := do
  candles.forM fun candle => require
    (candle.identity =
      (instrument.exchange, instrument.marketType, instrument.symbol, timeframe.code))
    (inconsistency "O lote mistura instrumentos ou timeframes.")
  return ⟨instrument, timeframe, dataRange, candles, sourceRequestCount⟩

namespace BinanceSpotAdapter

variable (adapter : BinanceSpotAdapter) (source : KlinesSource) (fetch : CandleFetch)

/-- The rows of a page are read until there are enough candles. -/
def keepRows : List JsonValue → List Candle → ℕ → Except FetchError (List Candle × ℕ)
  | [], candles, readings => .ok (candles, readings)
  | row :: rows, candles, readings => do
    let candle ← parseCandle (source.now readings) row fetch.instrument fetch.timeframe.toTimeframe
    if candle.openTime < fetch.dataRange.start ∨ fetch.dataRange.stop ≤ candle.openTime then
      keepRows rows candles (readings + 1)
    else
      let kept :=
        if candle.isClosed = true ∨ adapter.allowOpenCandles = true then candles ++ [candle]
        else candles
      if fetch.maxCandles ≤ kept.length then return (kept, readings + 1)
      else keepRows rows kept (readings + 1)

/-- The checks of the opening times of a page. -/
def checkPage (previousPage : Option (ℤ × ℤ)) (first last : ℤ) (openTimes : List ℤ) :
    Except FetchError Unit := do
  require (previousPage ≠ some (first, last))
    (inconsistency "A fonte repetiu uma página de candles.")
  require (∀ previous ∈ previousPage, previous.2 < first)
    (inconsistency "A fonte retornou páginas sobrepostas.")
  require (∀ pair ∈ openTimes.zip openTimes.tail, pair.1 < pair.2)
    (inconsistency "A fonte retornou candles fora de ordem.")

/-- One turn of the loop, and whether it is the last one. -/
def fetchPage (state : PagingState) : Except FetchError (Bool × PagingState) := do
  let limit := min fetch.pageLimit (fetch.maxCandles - state.candles.length)
  let data ← source.answer state.requestCount
    ⟨fetch.instrument.nativeSymbol, fetch.interval, state.cursor, fetch.stop - 1, limit⟩
  raiseApiError data
  match data with
  | .list [] => return (true, { state with requestCount := state.requestCount + 1 })
  | .list (row :: rows) => do
    let openTimes ← (row :: rows).mapM rowOpenTime
    let first := openTimes.headD 0
    let last := openTimes.getLastD 0
    checkPage state.previousPage first last openTimes
    let (candles, readings) ← adapter.keepRows source fetch (row :: rows) state.candles
      state.readings
    let duration ← timedeltaMilliseconds fetch.timeframe.duration
    require (state.cursor < last + duration) (inconsistency "A paginação não avançou.")
    return (decide (((row :: rows).length : ℤ) < limit),
      ⟨last + duration, candles, state.requestCount + 1, readings, some (first, last)⟩)
  | _ => FetchErrorKind.invalidMarketResponse.raise

/-- The condition of the loop. -/
def running (state : PagingState) : Bool :=
  decide (state.cursor < fetch.stop) && decide ((state.candles.length : ℤ) < fetch.maxCandles)

/-- The loop, which sends at most `fuel` requests; it has no result when it would send more. -/
def fetchPages : ℕ → PagingState → Option (Except FetchError PagingState)
  | 0, state => if running fetch state then none else some (.ok state)
  | fuel + 1, state =>
    if running fetch state then
      match adapter.fetchPage source fetch state with
      | .error e => some (.error e)
      | .ok (true, state') => some (.ok state')
      | .ok (false, state') => fetchPages fuel state'
    else some (.ok state)

/-- What `fetch_candles` does before it sends a request. -/
def prepare (instrument : Instrument) (timeframe : MappedTimeframe) (dataRange : DataRange)
    (maxCandles : ℤ) : Except FetchError (CandleFetch × PagingState) := do
  require (instrument.exchange = .binance ∧ instrument.marketType = .spot)
    FetchErrorKind.unknownInstrument.error
  let interval ← timeframe.nativeCode .binance
  let pageLimit := min maxCandlesPerRequest (min adapter.pageSize maxCandles)
  require (1 ≤ pageLimit) ⟨.value, "max_candles must be positive"⟩
  let cursor ← toMilliseconds dataRange.start
  let stop ← toMilliseconds dataRange.stop
  return (⟨instrument, timeframe, dataRange, maxCandles, interval, pageLimit, stop⟩,
    ⟨cursor, [], 0, 0, none⟩)

/-- `fetch_candles`, while it sends at most `fuel` requests. -/
def fetchCandles (fuel : ℕ) (instrument : Instrument) (timeframe : MappedTimeframe)
    (dataRange : DataRange) (maxCandles : ℤ) : Option (Except FetchError CandleBatch) :=
  match adapter.prepare instrument timeframe dataRange maxCandles with
  | .error e => some (.error e)
  | .ok (fetch, state) =>
    (adapter.fetchPages source fetch fuel state).map fun result => do
      let final ← result
      CandleBatch.construct instrument timeframe.toTimeframe dataRange final.candles
        final.requestCount

end BinanceSpotAdapter

end MarketData
end DryTrade
