import DryTrade.Backtesting.Records
import DryTrade.CanonicalJson
import DryTrade.MarketData.Catalog
import DryTrade.MarketData.IsoTime
import DryTrade.MarketData.QualityScan
import DryTrade.MarketData.StoreFiles
import DryTrade.PaperTrading.Domain

/-!
# Chart pages

A chart reads the local candles of a pair backwards, one bounded page after another.  A page is
cut out of the range the catalog records, its rows are read together with the proof of their
partitions, and the constructor of the page checks it once more; where candles are left before
it, the page says where the next one ends.

The directory is the one that is left once the pending transactions of the dataset are recovered
under its lock.  SHA-256 is a parameter; the texts that are digested are not.

## Main definitions

* `MarketCandlePageQuery`, `MarketCandlePage` — a request and its answer, with their checks.
* `canonicalCandleText`, `composeRawDatasetVersion` — what the digests are taken of.
* `readVerified`, `validateQuality` — reading the rows of a range and checking them.
* `readPage` — one page.
* `pageChain` — the pages from the last candle back to the first one.
-/

namespace DryTrade
namespace MarketData

open Backtesting (strip)
open PaperTrading (TradingPair isSha256)

/-! ### Digests -/

/-- SHA-256 of a text, in hexadecimal. -/
structure Sha256Digest where
  hexdigest : List Char → String
  isSha256_hexdigest : ∀ text, isSha256 (hexdigest text) = true

/-- `format(value, ".18f")` of a value that has at most 18 decimals. -/
def fixedText (value : ℚ) : List Char :=
  let scaled := (value * 10 ^ 18).num
  (if scaled < 0 then ['-'] else []) ++ Decimal.digits (scaled.natAbs / 10 ^ 18) ++
    '.' :: padded 18 (scaled.natAbs % 10 ^ 18)

/-- `_canonical_candle_bytes`. -/
def canonicalCandleText (c : Candle) : List Char :=
  ([c.exchange.value.toList, c.marketType.value.toList, c.symbol.toList, c.timeframe.code.toList,
    isoformat c.openTime, isoformat c.closeTime, fixedText c.openPrice, fixedText c.high,
    fixedText c.low, fixedText c.close, fixedText c.volume, (c.quoteVolume.map fixedText).getD [],
    (c.tradeCount.map intText).getD [], if c.isClosed then ['1'] else ['0'],
    c.source.toList].intersperse ['\x1f']).flatten ++ ['\n']

section

variable (sha256 : Sha256Digest)

/-- `raw_partition_logical_checksum`. -/
def rawPartitionLogicalChecksum (candles : List Candle) : Except Failure String := do
  let ordered := sortByOpenTime candles
  FailureKind.marketDataInconsistency.unless
    (decide (ordered.Pairwise fun c c' => c.openTime < c'.openTime))
    "A partição RAW possui duplicata ou ordem lógica inválida."
  return sha256.hexdigest (ordered.flatMap canonicalCandleText)

/-- `compose_raw_dataset_version`. -/
def composeRawDatasetVersion (entries : List RawPartitionIntegrityEntry) :
    Except Failure String := do
  FailureKind.marketDataInconsistency.unless (decide (entries.map (·.relativePath)).Nodup)
    "A versão RAW contém partições duplicadas."
  let ordered := entries.insertionSort fun e e' =>
    e.relativePath < e'.relativePath ∨ e.relativePath = e'.relativePath ∧ e.checksum ≤ e'.checksum
  return sha256.hexdigest (ordered.flatMap fun e =>
    e.relativePath.toList ++ '\x00' :: (e.checksum.toList ++ ['\n']))

end

/-! ### Paths -/

/-- `dataset_root`, below the root of the store; `quote` changes no character of an asset or of a
code. -/
def datasetRoot (pair : TradingPair) (timeframe : Timeframe) : String :=
  "exchange=" ++ Exchange.binance.value ++ "/market=" ++ MarketType.spot.value ++ "/base=" ++
    pair.base ++ "/quote=" ++ pair.quote ++ "/timeframe=" ++ timeframe.code

/-- `_partition_target`, below the root of the store. -/
def partitionPath (root : String) (month : ℤ) : String :=
  root ++ String.ofList ("/year=".toList ++ (yearText (month / 12) ++
    ("/month=".toList ++ (padded 2 (month % 12 + 1).toNat ++ "/candles.parquet".toList))))

/-- `dataset_key`. -/
def datasetKey (pair : TradingPair) (timeframe : Timeframe) : String :=
  Exchange.binance.value ++ ":" ++ MarketType.spot.value ++ ":" ++ pair.symbol ++ ":" ++
    timeframe.code

/-- The series a chart reads. -/
def chartIdentity (pair : TradingPair) (timeframe : Timeframe) : SeriesIdentity :=
  (.binance, .spot, pair.symbol, timeframe.code)

/-! ### Requests and pages -/

/-- `MARKET_CANDLE_MAX_LIMIT`. -/
def marketCandleMaxLimit : ℤ := 5000

/-- One backward-looking request. -/
structure MarketCandlePageQuery where
  pair : TradingPair
  timeframe : Timeframe
  before : Option Instant
  limit : ℤ

/-- The checks of a request. -/
def MarketCandlePageQuery.validate (query : MarketCandlePageQuery) : Except Failure Unit := do
  FailureKind.invalidDataRange.unless
    (decide (1 ≤ query.limit) && decide (query.limit ≤ marketCandleMaxLimit))
    "O limite de candles é inválido."
  FailureKind.invalidDataRange.unless
    (query.before.all fun before => query.timeframe.validateOpenTime before)
    "O cursor não está alinhado ao timeframe."

/-- A page without its checksum. -/
structure PageContent where
  schemaVersion : ℕ
  exchange : Exchange
  marketType : MarketType
  pair : TradingPair
  timeframe : Timeframe
  requestedBefore : Option Instant
  availableRange : DataRange
  dataRange : DataRange
  limit : ℤ
  datasetCandleCount : ℤ
  datasetVersion : String
  datasetVersionAlgorithm : String
  hasMoreBefore : Bool
  nextBefore : Option Instant
  candles : List Candle

/-- One verified bounded projection of the local dataset. -/
structure MarketCandlePage extends PageContent where
  contentChecksum : String

/-- A text value of an instant. -/
def isoJson (t : Instant) : Json := .str (String.ofList (isoformat t))

/-- The metadata of a page, with its keys in order. -/
def PageContent.metadata (page : PageContent) : Json := .obj
  [("available_end", isoJson page.availableRange.stop),
    ("available_start", isoJson page.availableRange.start),
    ("count", .int page.candles.length),
    ("dataset_candle_count", .int page.datasetCandleCount),
    ("dataset_version", .str page.datasetVersion),
    ("dataset_version_algorithm", .str page.datasetVersionAlgorithm),
    ("exchange", .str page.exchange.value),
    ("has_more_before", .bool page.hasMoreBefore),
    ("limit", .int page.limit),
    ("market_type", .str page.marketType.value),
    ("next_before", .ofOption isoJson page.nextBefore),
    ("range_end", isoJson page.dataRange.stop),
    ("range_start", isoJson page.dataRange.start),
    ("requested_before", .ofOption isoJson page.requestedBefore),
    ("schema_version", .int page.schemaVersion),
    ("symbol", .str page.pair.symbol),
    ("timeframe", .str page.timeframe.code)]

section

variable (sha256 : Sha256Digest)

/-- `market_candle_page_checksum`. -/
def marketCandlePageChecksum (page : PageContent) : String :=
  sha256.hexdigest (page.metadata.encode ++ '\n' :: page.candles.flatMap canonicalCandleText)

/-- The algorithm of a version is named in at most 128 characters. -/
def algorithmNamed (algorithm : String) : Bool :=
  strip algorithm != "" && decide (algorithm.length ≤ 128)

/-- `__post_init__` of a page. -/
def MarketCandlePage.validate (page : MarketCandlePage) : Except Failure Unit := do
  let check := FailureKind.marketDataInconsistency.unless
  check (page.schemaVersion == 1) "A versão da página de candles é inválida."
  check (decide (1 ≤ page.limit) && decide (page.limit ≤ marketCandleMaxLimit) &&
    decide (1 ≤ page.datasetCandleCount)) "Os limites da página são inválidos."
  check (isSha256 page.datasetVersion) "A versão lógica do dataset é inválida."
  check (algorithmNamed page.datasetVersionAlgorithm)
    "O algoritmo de versão do dataset é inválido."
  check (isSha256 page.contentChecksum) "O checksum da página é inválido."
  check (!page.candles.isEmpty && decide ((page.candles.length : ℤ) ≤ page.limit))
    "A página de candles possui tamanho inválido."
  check (decide (page.availableRange.start ≤ page.dataRange.start) &&
    decide (page.dataRange.stop ≤ page.availableRange.stop))
    "A página está fora da cobertura disponível."
  check ((page.candles.length : ℤ) ==
    (page.dataRange.stop - page.dataRange.start) / page.timeframe.duration)
    "A página não cobre integralmente o intervalo."
  let lastNext ← match page.candles.getLast? with
    | none => .ok page.dataRange.stop
    | some last => page.timeframe.nextOpenTime last.openTime
  check ((page.candles.head?.all fun first => first.openTime == page.dataRange.start) &&
    lastNext == page.dataRange.stop) "Os limites temporais da página divergem."
  check (page.candles.all fun c =>
    c.identity == (page.exchange, page.marketType, page.pair.symbol, page.timeframe.code) &&
      c.isClosed) "A página contém candle incompatível."
  check (decide (page.candles.IsChain fun c c' => c.openTime < c'.openTime))
    "A página não está em ordem crescente."
  let expectedMore := decide (page.availableRange.start < page.dataRange.start)
  check (page.hasMoreBefore == expectedMore) "O estado de paginação é inválido."
  check (page.nextBefore == if expectedMore then some page.dataRange.start else none)
    "O próximo cursor é inválido."
  check (page.contentChecksum == marketCandlePageChecksum sha256 page.toPageContent)
    "O conteúdo da página diverge do checksum."

/-! ### Reading -/

/-- `DataRange(start, end)`. -/
def dataRangeOf (start stop : Instant) : Except Failure DataRange :=
  if h : start < stop then .ok ⟨start, stop, h⟩ else FailureKind.invalidDataRange.raise

/-- The checksum a manifest has for a path; of two entries for a path the last one counts. -/
def expectedChecksum (entries : List RawPartitionIntegrityEntry) (path : String) : Option String :=
  (entries.reverse.find? fun e => e.relativePath == path).map (·.checksum)

/-- The rows of one partition, with their proof. -/
def readVerifiedPartition (identity : SeriesIdentity) (files : PartitionFiles) (root : String)
    (entries : List RawPartitionIntegrityEntry) (month : ℤ) : Except Failure (List Candle) := do
  let expected ← match expectedChecksum entries (partitionPath root month) with
    | none =>
      FailureKind.marketDataInconsistency.raiseWith
        "A partição RAW solicitada não possui prova de integridade."
    | some expected => .ok expected
  let rows ← files.readFile identity month
  let checksum ← rawPartitionLogicalChecksum sha256 rows
  FailureKind.marketDataInconsistency.unless (checksum == expected)
    "O conteúdo da partição RAW diverge do manifesto catalogado."
  return rows

/-- `read_verified`. -/
def readVerified (identity : SeriesIdentity) (files : PartitionFiles) (root : String)
    (entries : List RawPartitionIntegrityEntry) (r : DataRange) : Except Failure (List Candle) := do
  let partitions ← (files.partitionPaths r).mapM
    (readVerifiedPartition sha256 identity files root entries)
  return (sortByOpenTime partitions.flatten).filter fun c => r.contains c.openTime

end

/-- The outcome of a validation. -/
structure DataQualityReport where
  issues : List DataQualityIssue
  checkedCount : ℕ
  expectedCount : ℤ

/-- No finding is an error. -/
def DataQualityReport.isValid (report : DataQualityReport) : Bool :=
  report.issues.all fun issue => decide (issue.severity ≠ .error)

/-- `validate`, with the range that is expected. -/
def validateQuality (tf : Timeframe) (r : DataRange) (now : Instant) (candles : List Candle) :
    Except Failure DataQualityReport := do
  let issues ← validateRows tf now [] none candles
  let expectedCount := (r.stop - r.start) / tf.duration
  let missing := (windowStarts r tf.duration).countP fun t => !candles.any fun c => c.openTime == t
  let incomplete : List DataQualityIssue :=
    if candles.isEmpty then
      if expectedCount = 0 then []
      else [⟨"incomplete_range", .warning, "O intervalo solicitado não retornou candles.", none⟩]
    else if missing = 0 then []
    else [⟨"incomplete_range", .warning,
      s!"O intervalo solicitado possui {missing} candle(s) ausente(s).", none⟩]
  return ⟨issues ++ incomplete, candles.length, expectedCount⟩

/-- `RAW_DATASET_VERSION_ALGORITHM`. -/
def rawDatasetVersionAlgorithm : String := "raw-partition-canonical-sha256-v1"

/-- `LEGACY_RAW_DATASET_VERSION_ALGORITHM`. -/
def legacyRawDatasetVersionAlgorithm : String := "raw-canonical-stream-sha256-legacy"

/-- What the catalog records fits the request. -/
def catalogConsistent (query : MarketCandlePageQuery) (metadata : DatasetMetadata) : Bool :=
  metadata.key == datasetKey query.pair query.timeframe &&
    metadata.exchange == Exchange.binance.value && metadata.marketType == MarketType.spot.value &&
    metadata.symbol == query.pair.symbol && metadata.timeframe == query.timeframe.code &&
    decide (1 ≤ metadata.candleCount) && metadata.firstOpenTime.isSome &&
    metadata.lastOpenTime.isSome && isSha256 metadata.version &&
    algorithmNamed metadata.versionAlgorithm

/-- The boundaries the catalog records. -/
def catalogedBoundaries (metadata : DatasetMetadata) : Except Failure (Instant × Instant) :=
  match (metadata.firstOpenTime.bind fun s => fromisoformat s.toList),
    (metadata.lastOpenTime.bind fun s => fromisoformat s.toList) with
  | some first, some last => .ok (first, last)
  | _, _ => FailureKind.marketDataInconsistency.raiseWith
      "Os limites catalogados do dataset são inválidos."

section

variable (sha256 : Sha256Digest)

/-- The manifest of a dataset, after its checks. -/
def catalogedEntries (metadata : DatasetMetadata) (root : String) :
    Except Failure (List RawPartitionIntegrityEntry) := do
  let entries ← match metadata.partitionIntegrity with
    | none =>
      FailureKind.marketDataInconsistency.raiseWith
        "O dataset RAW não possui manifesto de integridade catalogado."
    | some manifest => .ok manifest.entries
  FailureKind.marketDataInconsistency.unless
    (metadata.versionAlgorithm == rawDatasetVersionAlgorithm ||
      metadata.versionAlgorithm == legacyRawDatasetVersionAlgorithm)
    "O algoritmo de versão RAW não é suportado para leitura."
  FailureKind.marketDataInconsistency.unless
    (entries.all fun e => (root ++ "/").toList.isPrefixOf e.relativePath.toList)
    "O manifesto RAW referencia uma partição de outro dataset."
  if metadata.versionAlgorithm = rawDatasetVersionAlgorithm then do
    let version ← composeRawDatasetVersion sha256 entries
    FailureKind.marketDataInconsistency.unless (version == metadata.version)
      "O manifesto RAW completo diverge da versão catalogada."
    return entries
  else return entries

/-- What the page of a range says. -/
def contentOf (query : MarketCandlePageQuery) (metadata : DatasetMetadata)
    (availableRange selectedRange : DataRange) (candles : List Candle) : PageContent :=
  let hasMoreBefore := decide (availableRange.start < selectedRange.start)
  { schemaVersion := 1
    exchange := .binance
    marketType := .spot
    pair := query.pair
    timeframe := query.timeframe
    requestedBefore := query.before
    availableRange := availableRange
    dataRange := selectedRange
    limit := query.limit
    datasetCandleCount := metadata.candleCount
    datasetVersion := metadata.version
    datasetVersionAlgorithm := metadata.versionAlgorithm
    hasMoreBefore := hasMoreBefore
    nextBefore := if hasMoreBefore then some selectedRange.start else none
    candles := candles }

/-- A page with its checksum. -/
def sealPage (content : PageContent) : MarketCandlePage :=
  { content with contentChecksum := marketCandlePageChecksum sha256 content }

/-- The page of a dataset the catalog has. -/
def pageOf (files : PartitionFiles) (query : MarketCandlePageQuery) (metadata : DatasetMetadata) :
    Except Failure MarketCandlePage := do
  let tf := query.timeframe
  FailureKind.marketDataInconsistency.unless (catalogConsistent query metadata)
    "O catálogo do dataset de candles é inconsistente."
  let (first, last) ← catalogedBoundaries metadata
  FailureKind.marketDataInconsistency.unless
    (tf.validateOpenTime first && tf.validateOpenTime last && decide (first ≤ last))
    "Os limites catalogados não estão alinhados ao timeframe."
  let availableEnd ← tf.nextOpenTime last
  let selectedEnd := query.before.getD availableEnd
  FailureKind.invalidDataRange.unless
    (decide (selectedEnd ≤ availableEnd) && decide (first < selectedEnd))
    "O cursor solicitado está fora da cobertura disponível."
  let selectedRange ← dataRangeOf (max first (selectedEnd - tf.duration * query.limit)) selectedEnd
  let entries ← catalogedEntries sha256 metadata (datasetRoot query.pair tf)
  let candles ← readVerified sha256 (chartIdentity query.pair tf) files (datasetRoot query.pair tf)
    entries selectedRange
  let quality ← validateQuality tf selectedRange availableEnd candles
  FailureKind.marketDataInconsistency.unless
    (quality.isValid &&
      (candles.length : ℤ) == (selectedRange.stop - selectedRange.start) / tf.duration &&
      candles.all fun c => c.isClosed)
    "O intervalo RAW solicitado não possui cobertura fechada e íntegra."
  let availableRange ← dataRangeOf first availableEnd
  let page := sealPage sha256 (contentOf query metadata availableRange selectedRange candles)
  page.validate sha256
  return page

end

/-! ### The service -/

/-- What `read_page` raises. -/
inductive CandleQueryError
  | failure (f : Failure)
  | datasetNotFound
  deriving DecidableEq

/-- The text of the error. -/
def CandleQueryError.message : CandleQueryError → String
  | .failure f => f.message
  | .datasetNotFound => "O dataset local de candles solicitado não foi encontrado."

/-- The local directory: the partition files and the catalog. -/
structure MarketDirectory where
  store : RawStore
  catalog : String → Option DatasetMetadata

section

variable (sha256 : Sha256Digest)

/-- `read_page`. -/
def readPage (directory : MarketDirectory) (query : MarketCandlePageQuery) :
    Except CandleQueryError MarketCandlePage := do
  query.validate.mapError .failure
  match directory.catalog (datasetKey query.pair query.timeframe) with
  | none => .error .datasetNotFound
  | some metadata =>
    (pageOf sha256 (directory.store (chartIdentity query.pair query.timeframe)) query
      metadata).mapError .failure

/-- The pages from `before` back: call number `i` finds the directory and asks for the limit
`calls i`, and the calls end with the page that has no candle before it.  None is left for a chain
that is cut off after `fuel` calls. -/
def pageChain (pair : TradingPair) (timeframe : Timeframe) (calls : ℕ → MarketDirectory × ℤ) :
    ℕ → ℕ → Option Instant → Except CandleQueryError (Option (List MarketCandlePage))
  | 0, _, _ => .ok none
  | fuel + 1, i, before => do
    let page ← readPage sha256 (calls i).1 ⟨pair, timeframe, before, (calls i).2⟩
    if page.hasMoreBefore then
      let pages ← pageChain pair timeframe calls fuel (i + 1) page.nextBefore
      return pages.map (page :: ·)
    else return some [page]

end

end MarketData
end DryTrade
