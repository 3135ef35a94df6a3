import DryTrade.Decimal
import DryTrade.Failure
import DryTrade.Growth
import DryTrade.Process
import DryTrade.Staging
import DryTrade.Files
import DryTrade.MarketData.Domain
import DryTrade.MarketData.Catalog
import DryTrade.MarketData.Transaction
import DryTrade.MarketData.Recovery
import DryTrade.MarketData.Promotion
import DryTrade.MarketData.Atomicity
import DryTrade.MarketData.Rollback
import DryTrade.MarketData.FailedIngestion
import DryTrade.MarketData.Recoverability
import DryTrade.MarketData.Months
import DryTrade.MarketData.Resampling
import DryTrade.MarketData.Derived
import DryTrade.MarketData.Commit
import DryTrade.MarketData.Rebuild
import DryTrade.MarketData.Incremental
import DryTrade.MarketData.DerivedTransaction
import DryTrade.MarketData.DerivedRecovery
import DryTrade.MarketData.DerivedPromotion
import DryTrade.MarketData.DerivedCut
import DryTrade.MarketData.DerivedAtomicity
import DryTrade.Indicators.Regime
import DryTrade.Indicators.Averages
import DryTrade.Indicators.Detector
import DryTrade.Backtesting.Domain
import DryTrade.Backtesting.Portfolio
import DryTrade.Backtesting.Execution
import DryTrade.Backtesting.Ledger
import DryTrade.Backtesting.Risk
import DryTrade.Backtesting.Engine
import DryTrade.Backtesting.Steps
import DryTrade.Backtesting.Runs
import DryTrade.Backtesting.Points
import DryTrade.Backtesting.OrderList
import DryTrade.Backtesting.Protection
import DryTrade.Backtesting.Prefix
import DryTrade.Backtesting.Verifier
import DryTrade.Backtesting.Halt
import DryTrade.Backtesting.Walk
import DryTrade.Backtesting.Solvency
import DryTrade.Backtesting.Safety
import DryTrade.Backtesting.FillOrder
import DryTrade.Cycles
import DryTrade.SpotAccounts
import DryTrade.PaperTrading.Domain
import DryTrade.PaperTrading.Journal
import DryTrade.Epochs.Lifecycle
import DryTrade.Epochs.PaperSessionRun
import DryTrade.Epochs.Fencing
import DryTrade.Epochs.Progress
import DryTrade.Interference
import DryTrade.Operations.Jobs
import DryTrade.Operations.Repository
import DryTrade.Operations.World
import DryTrade.Operations.Worker
import DryTrade.Operations.Environment
import DryTrade.Operations.Requests
import DryTrade.Operations.Rest
import DryTrade.Operations.Writes
import DryTrade.Operations.Session
import DryTrade.Operations.LocalJob
import DryTrade.PaperTrading.Agreement
import DryTrade.PaperTrading.CalendarPeriods
import DryTrade.PaperTrading.PeriodMetrics
import DryTrade.PaperTrading.PeriodTotals
import DryTrade.PaperTrading.RoundedJournal
import DryTrade.PaperTrading.Timeline
import DryTrade.PaperTrading.TimelineRounding
import DryTrade.PaperTrading.RealizationRounding
import DryTrade.Backtesting.Trades
import DryTrade.Backtesting.LedgerRounding
import DryTrade.Backtesting.Sizing
import DryTrade.MarketData.SnapshotCrash
import DryTrade.Blocks
import DryTrade.MarketData.Composition
import DryTrade.Operations.GapPlanning
import DryTrade.MarketData.Coverage
import DryTrade.CanonicalJson
import DryTrade.NormalizedDecimal
import DryTrade.Backtesting.LedgerChain
import DryTrade.Backtesting.Records
import DryTrade.Backtesting.Decoding
import DryTrade.Backtesting.ConfigRecords
import DryTrade.Backtesting.RunIdentity
import DryTrade.MarketData.IsoTime
import DryTrade.Causal
import DryTrade.Cartesian
import DryTrade.RealRounding
import DryTrade.DecimalLayout
import DryTrade.OrderStatistics
import DryTrade.Strategies.Domain
import DryTrade.Strategies.Definitions
import DryTrade.Strategies.Lossless
import DryTrade.Strategies.Registry
import DryTrade.Optimization.ParameterSearch
import DryTrade.Optimization.ParameterExpansion
import DryTrade.Optimization.Stability
import DryTrade.Optimization.StabilityExact
import DryTrade.Paging
import DryTrade.MarketData.Binance
import DryTrade.MarketData.KlinePaging
import DryTrade.MarketData.KlinesTable
import DryTrade.KeyedRows
import DryTrade.MarketData.Upsert
import DryTrade.MarketData.StoreFiles
import DryTrade.MarketData.UpsertUnion
import DryTrade.MarketData.CandlePages
import DryTrade.MarketData.PageReading
import DryTrade.MarketData.PageChain
import DryTrade.Indicators.Oscillators
import DryTrade.Indicators.Causality
import DryTrade.Indicators.Bounds
import DryTrade.RollingWindows
import DryTrade.Ranking
import DryTrade.Optimization.Temporal
import DryTrade.Optimization.Segmentation
import DryTrade.Optimization.Experiments
import DryTrade.Optimization.WalkForward
import DryTrade.Optimization.FoldGeometry
import DryTrade.Optimization.FoldPlanning
import DryTrade.Optimization.ExecutionRecords
import DryTrade.Optimization.FoldSelection
import DryTrade.Optimization.BlindSelection
import DryTrade.Optimization.BestCandidate
import DryTrade.Optimization.FoldExecution
import DryTrade.Optimization.Replay
