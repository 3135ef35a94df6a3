import DryTrade.Backtesting.Runs

/-!
# No look-ahead

A run on a stream of candles and a run on a prefix of it make the same callbacks
with the same contexts, and publish the same records, up to the end of the
prefix: nothing of a candle reaches a strategy before the candle is delivered.

## Main definitions

* `AgreesUpTo` — the result of the longer run, up to the end of the shorter one.

## Main results

* `run_prefix_stable` — the run on a prefix is the beginning of the run.
-/

namespace DryTrade
namespace Backtesting

open MarketData Indicators

section

variable {ctx : DecimalContext} {hash : String → RawLedgerEntry → String}
variable {σ : Type} {strategy : Strategy σ} {config : BacktestConfig} {snapshot : DatasetSnapshot}

/-- `full`, with its callbacks, is `part` up to the last candle of `part`: the records of the
candles of `part` are those of `part`, its final ledger entry and last callback excepted,
and an order of `part` is the same order in `full`, unchanged if it was terminal. -/
structure AgreesUpTo (part full : BacktestExecutionResult × List StrategyCallback) : Prop where
  callbacks : ∃ before later context, part.2 = before ++ [.finish context] ∧
    full.2 = before ++ later ∧ ∀ c ∈ later, c.IsFrom part.1.candlesProcessed
  candlesProcessed : part.1.candlesProcessed ≤ full.1.candlesProcessed
  fills : part.1.fills =
    full.1.fills.filter fun f => decide (f.candleIndex < part.1.candlesProcessed)
  equityCurve : part.1.equityCurve = full.1.equityCurve.take part.1.candlesProcessed
  marketRegimes : part.1.marketRegimes = full.1.marketRegimes.take part.1.candlesProcessed
  ledger : ∃ final, final.entryType = .finalState ∧
    part.1.ledger = (full.1.ledger.filter fun e =>
      decide (e.candleIndex < (part.1.candlesProcessed : ℤ)) && e.entryType != .finalState) ++
        [final]
  orders : OrdersExtend part.1.orders full.1.orders

/-- The end of a run that neither cancels nor closes adds the final entry and callback. -/
theorem finishRun_plain {s s' : EngineState σ} (hforce : config.execution.forceCloseAtEnd = false)
    (h : finishRun ctx hash strategy config snapshot false s = .ok s') :
    0 < s.candlesProcessed ∧ ∃ final st context,
      final.candleIndex = (s.candlesProcessed : ℤ) - 1 ∧ final.entryType = .finalState ∧
      s' = { s with
        ledger := s.ledger ++ [final]
        strategyState := st
        callbacks := s.callbacks ++ [.finish context] } := by
  obtain ⟨candle, -, hpos, s₁, s₂, hcancel, hclose, final, st, context, hindex, htype, rfl⟩ :=
    finishRun_cases h
  simp only [cancelAtEnd, Bool.false_eq_true, if_false, Except.ok.injEq] at hcancel
  subst hcancel
  simp only [forceCloseAtEnd, hforce, Bool.false_eq_true, false_and, dif_neg, not_false_eq_true,
    Except.ok.injEq] at hclose
  subst hclose
  exact ⟨hpos, final, st, context, hindex, htype, rfl⟩

/-- The regimes of a state that extends another begin with those of the other. -/
theorem Published.marketRegimes_take {s s' : EngineState σ} (hs : Published config s)
    (hs' : Published config s') (h : s.marketRegimes <+: s'.marketRegimes) :
    s.marketRegimes = s'.marketRegimes.take s.candlesProcessed := by
  have hlen := hs.marketRegimes
  have hlen' := hs'.marketRegimes
  split at hlen
  · rw [← hlen]
    exact List.prefix_iff_eq_take.mp h
  · next hnone =>
    rw [if_neg hnone] at hlen'
    rw [List.length_eq_zero_iff.mp hlen, List.length_eq_zero_iff.mp hlen', List.take_nil]

/-- Ending both runs, one of them after more candles, keeps the agreement. -/
theorem agreesUpTo_of_extends {s s' part full : EngineState σ} {sn sn' : DatasetSnapshot}
    (hforce : config.execution.forceCloseAtEnd = false) (hs : Published config s)
    (hs' : Published config s') (hext : Extends s.candlesProcessed s s')
    (hle : s.candlesProcessed ≤ s'.candlesProcessed)
    (hpart : finishRun ctx hash strategy config snapshot false s = .ok part)
    (hfull : finishRun ctx hash strategy config snapshot false s' = .ok full) :
    AgreesUpTo (part.result sn, part.callbacks) (full.result sn', full.callbacks) := by
  obtain ⟨-, final, st, context, -, htype, rfl⟩ := finishRun_plain hforce hpart
  obtain ⟨-, final', st', context', -, htype', rfl⟩ := finishRun_plain hforce hfull
  refine
    { callbacks := ?_
      candlesProcessed := hle
      fills := ?_
      equityCurve := ?_
      marketRegimes := hs.marketRegimes_take hs' hext.marketRegimes
      ledger := ⟨final, htype, ?_⟩
      orders := hext.orders }
  · obtain ⟨later, hlater, hfrom⟩ := hext.callbacks
    refine ⟨s.callbacks, later ++ [.finish context'], context, rfl, by simp [hlater], ?_⟩
    intro c hc
    rcases List.mem_append.mp hc with hc | hc
    · exact hfrom c hc
    · rw [List.mem_singleton.mp hc]
      trivial
  · refine (hext.fills.filter_eq _ (fun f hf => ?_) fun f hf => ?_).symm
    · exact decide_eq_true (hs.fills f hf)
    · exact decide_eq_false (not_lt.mpr hf)
  · have hlen : s.equity.length = s.candlesProcessed := by
      have hindices := congrArg List.length hs.equity
      rwa [List.length_map, List.length_range] at hindices
    change s.equity = s'.equity.take s.candlesProcessed
    rw [← hlen]
    exact List.prefix_iff_eq_take.mp hext.equity.isPrefix
  · have hold : s'.ledger.filter (fun e =>
        decide (e.candleIndex < (s.candlesProcessed : ℤ)) && e.entryType != .finalState) =
          s.ledger := by
      refine hext.ledger.filter_eq _ (fun e he => ?_) fun e he => ?_
      · obtain ⟨hindex, hkind⟩ := hs.ledger e he
        simp [hindex, hkind]
      · simp [not_lt.mpr he]
    have hfiltered : (s'.ledger ++ [final']).filter (fun e =>
        decide (e.candleIndex < (s.candlesProcessed : ℤ)) && e.entryType != .finalState) =
          s.ledger := by
      rw [List.filter_append, hold]
      simp [htype']
    exact congrArg (· ++ [final]) hfiltered.symm

/-- **No look-ahead.**  Let `part` be the result of a run on a prefix of the stream.  Then the
run on the whole stream has, once it consumed the candles of the prefix, exactly the state of
that run before its end; and if it returns a result, that result agrees with `part` up to the
end of the prefix. -/
theorem run_prefix_stable (ctx : DecimalContext) (hash : String → RawLedgerEntry → String)
    (strategy : Strategy σ) (config : BacktestConfig)
    (hforce : config.execution.forceCloseAtEnd = false) (readerPart readerFull : BacktestSnapshotReader)
    (hopen : readerFull.openSnapshot config.snapshotId = readerPart.openSnapshot config.snapshotId)
    (hpre : readerPart.iterCandles config.dataRange <+: readerFull.iterCandles config.dataRange)
    (part : BacktestExecutionResult × List StrategyCallback)
    (hpart : run ctx hash strategy config readerPart false = .ok part) :
    (∃ (s : EngineState σ) (later : List Candle), runCandles ctx hash strategy config part.1.snapshot
          (readerPart.iterCandles config.dataRange) = .ok s ∧
        runCandles ctx hash strategy config part.1.snapshot
          (readerFull.iterCandles config.dataRange) =
            later.foldlM (processCandle ctx hash strategy config part.1.snapshot) s ∧
        part.1.candlesProcessed = s.candlesProcessed ∧
        ∃ context, part.2 = s.callbacks ++ [.finish context]) ∧
      ∀ full, run ctx hash strategy config readerFull false = .ok full → AgreesUpTo part full := by
  simp only [run, bind_eq_ok, pure, Except.pure, Except.ok.injEq] at hpart
  obtain ⟨_, -, _, -, snapshot, hsnapshot, s, hs, sPart, hfinish, _, -, rfl⟩ := hpart
  obtain ⟨later, hlater⟩ := contextCandles_prefix config hpre
  have hrun : runCandles ctx hash strategy config snapshot
      (readerFull.iterCandles config.dataRange) =
        later.foldlM (processCandle ctx hash strategy config snapshot) s := by
    simp only [runCandles, bind_eq_ok] at hs
    obtain ⟨s₀, hs₀, hfold⟩ := hs
    rw [runCandles, hs₀, ok_bind, ← hlater, List.foldlM_append, hfold, ok_bind]
  have hpub := runCandles_published hs
  obtain ⟨hpos, final, st, context, -, -, heq⟩ := finishRun_plain hforce hfinish
  refine ⟨⟨s, later, hs, hrun, ?_, context, ?_⟩, ?_⟩
  · rw [heq]
    rfl
  · rw [heq]
  · intro full hfull
    simp only [run, bind_eq_ok, pure, Except.pure, Except.ok.injEq] at hfull
    obtain ⟨_, -, _, -, snapshot', hsnapshot', s', hs', sFull, hfinish', _, -, rfl⟩ := hfull
    have hsame : snapshot' = snapshot := by
      rw [openSnapshotFor, hopen] at hsnapshot'
      rw [openSnapshotFor] at hsnapshot
      exact Except.ok.inj (hsnapshot'.symm.trans hsnapshot)
    subst hsame
    rw [hrun] at hs'
    have hpub' := foldlM_processCandle_published hpub hs'
    obtain ⟨hext, hle⟩ := foldlM_processCandle_extends hpub hpos hs'
    exact agreesUpTo_of_extends hforce hpub hpub' hext hle hfinish hfinish'

/-- Two days of a position that is bought on the first, and the first day alone. -/
theorem run_prefix_stable_hold : ∃ part full,
    run .exact (fun _ _ => "") buyAndHold (holdConfig 10 validBps_ten false)
      (readerOf [dailyCandle 0 100 100]) false = .ok part ∧
    run .exact (fun _ _ => "") buyAndHold (holdConfig 10 validBps_ten false)
      (readerOf [dailyCandle 0 100 100, dailyCandle 1 100 110]) false = .ok full ∧
    AgreesUpTo part full := by
  have hpart : (run .exact (fun _ _ => "") buyAndHold (holdConfig 10 validBps_ten false)
      (readerOf [dailyCandle 0 100 100]) false).isOk = true := by decide +kernel
  have hfull : (run .exact (fun _ _ => "") buyAndHold (holdConfig 10 validBps_ten false)
      (readerOf [dailyCandle 0 100 100, dailyCandle 1 100 110]) false).isOk = true := by
    decide +kernel
  obtain ⟨part, hpart⟩ := isOk_iff.mp hpart
  obtain ⟨full, hfull⟩ := isOk_iff.mp hfull
  exact ⟨part, full, hpart, hfull,
    (run_prefix_stable _ _ _ _ rfl (readerOf [dailyCandle 0 100 100])
      (readerOf [dailyCandle 0 100 100, dailyCandle 1 100 110]) rfl
      ⟨[dailyCandle 1 100 110], rfl⟩ part hpart).2 full hfull⟩

end

end Backtesting
end DryTrade
