import DryTrade.Backtesting.Steps

/-!
# Whole runs of the engine

What the loop keeps true between two candles, and what the end of a run adds.

## Main definitions

* `Published` — everything published so far belongs to a candle already processed.

## Main results

* `processCandle_published`, `runCandles_published` — the invariant of the loop.
* `foldlM_processCandle_extends` — later candles only add what belongs to them.
* `finishRun_cases` — what the end of a run does.
-/

namespace DryTrade
namespace Backtesting

open MarketData Indicators

section

variable {ctx : DecimalContext} {hash : String → RawLedgerEntry → String}
variable {σ : Type} {strategy : Strategy σ} {config : BacktestConfig} {snapshot : DatasetSnapshot}

/-- **The invariant of the loop.**  The number of a published record is that of a processed
candle, one equity point and one regime stand for each of them, and once a candle is
evaluated no warmup candle can follow. -/
structure Published (config : BacktestConfig) (s : EngineState σ) : Prop where
  fills : ∀ f ∈ s.fills, f.candleIndex < s.candlesProcessed
  equity : s.equity.map EquityPoint.candleIndex = List.range s.candlesProcessed
  accumulator : s.regimeAccumulator.isSome = (marketRegimePolicyFor config).isSome
  marketRegimes :
    s.marketRegimes.length = if (marketRegimePolicyFor config).isSome then s.candlesProcessed else 0
  ledger : ∀ e ∈ s.ledger, e.candleIndex < (s.candlesProcessed : ℤ) ∧ e.entryType ≠ .finalState
  lastCandle : 0 < s.candlesProcessed →
    ∃ c ∈ s.lastCandle, (evaluationRangeFor config).start ≤ c.openTime

theorem startState_cases {s : EngineState σ}
    (h : startState ctx hash strategy config snapshot = .ok s) :
    initializePortfolio ctx config.initialCapital = .ok s.portfolio ∧ s.fills = [] ∧
      s.equity = [] ∧ s.orders = [] ∧ s.candlesProcessed = 0 ∧ Published config s := by
  simp only [startState, bind_eq_ok, pure, Except.pure, Except.ok.injEq, Prod.exists] at h
  obtain ⟨portfolio, hportfolio, ledger, hledger, context, -, intents, st, -, rfl⟩ := h
  refine ⟨hportfolio, rfl, rfl, rfl, rfl, ?_⟩
  simp only [recordInitialCapital, bind_eq_ok, FailureKind.unless_eq_ok, exists_const] at hledger
  exact
    { fills := by simp
      equity := rfl
      accumulator := Option.isSome_map
      marketRegimes := by simp
      ledger := by
        rw [ledgerAppend_eq_ok hledger.2.2]
        simp [nextLedgerEntry]
      lastCandle := fun hpos => absurd hpos (lt_irrefl 0) }

/-- Before its close, a candle adds fills of its own number, applied one after the other,
and ledger entries of its own number. -/
structure FillPhase (ctx : DecimalContext) (s s' : EngineState σ) : Prop where
  fills : ∃ added : List Fill, s'.fills = s.fills ++ added ∧
    (∀ f ∈ added, f.candleIndex = s.candlesProcessed ∧ f.Valid ctx) ∧
    added.foldlM (fun p f => PortfolioMutation.after <$> applyFill ctx p f) s.portfolio =
      .ok s'.portfolio
  ledger : Grows (fun e => e.candleIndex = (s.candlesProcessed : ℤ) ∧ e.entryType ≠ .finalState)
    s.ledger s'.ledger
  equity : s'.equity = s.equity
  candlesProcessed : s'.candlesProcessed = s.candlesProcessed
  marketRegimes : s'.marketRegimes = s.marketRegimes
  regimeAccumulator : s'.regimeAccumulator = s.regimeAccumulator
  lastCandle : s'.lastCandle = s.lastCandle

theorem FillPhase.of_orders {s : EngineState σ} (orders : List SimulatedOrder) :
    FillPhase ctx s { s with orders := orders } where
  fills := ⟨[], by simp, by simp, rfl⟩
  ledger := .refl _
  equity := rfl
  candlesProcessed := rfl
  marketRegimes := rfl
  regimeAccumulator := rfl
  lastCandle := rfl

theorem FillPhase.of_fillStep {s s' : EngineState σ} {fill : Fill} {mutation : PortfolioMutation}
    (h : FillStep ctx hash s.candlesProcessed s s' fill mutation) : FillPhase ctx s s' where
  fills := ⟨[fill], h.fills, by simp [h.candleIndex_eq, h.valid], by
    simp [h.applied, h.portfolio, Functor.map, Except.map]⟩
  ledger := (recordFill_grows h.recorded).imp fun e he => by rwa [h.candleIndex_eq] at he
  equity := h.equity
  candlesProcessed := h.candlesProcessed
  marketRegimes := h.marketRegimes
  regimeAccumulator := h.regimeAccumulator
  lastCandle := h.lastCandle

theorem FillPhase.trans {s s' s'' : EngineState σ} (h : FillPhase ctx s s')
    (h' : FillPhase ctx s' s'') : FillPhase ctx s s'' where
  fills := by
    obtain ⟨a, ha, hval, hfold⟩ := h.fills
    obtain ⟨b, hb, hval', hfold'⟩ := h'.fills
    rw [h.candlesProcessed] at hval'
    refine ⟨a ++ b, by rw [hb, ha, List.append_assoc], fun f hf => ?_,
      foldlM_append_eq_ok.mpr ⟨s'.portfolio, hfold, hfold'⟩⟩
    rcases List.mem_append.mp hf with hf | hf
    · exact hval f hf
    · exact hval' f hf
  ledger := h.ledger.trans (h'.ledger.imp fun e he => by rwa [h.candlesProcessed] at he)
  equity := h'.equity.trans h.equity
  candlesProcessed := h'.candlesProcessed.trans h.candlesProcessed
  marketRegimes := h'.marketRegimes.trans h.marketRegimes
  regimeAccumulator := h'.regimeAccumulator.trans h.regimeAccumulator
  lastCandle := h'.lastCandle.trans h.lastCandle

/-- **The part of a candle before its close** is a sequence of applied fills. -/
theorem fillPhase_cases {s s' : EngineState σ} {candle : Candle}
    (h : fillPhase ctx hash strategy config snapshot s candle = .ok s') : FillPhase ctx s s' := by
  simp only [fillPhase, bind_eq_ok] at h
  obtain ⟨s₁, hstart, h⟩ := h
  obtain ⟨orders, -, rfl⟩ := submitPendingStart_cases hstart
  have hvisit : ∀ (b : EngineState σ) (i : ℕ) (b' : EngineState σ), FillPhase ctx s b →
      visitOrder ctx hash strategy config snapshot candle s.candlesProcessed s.history b i = .ok b' →
      FillPhase ctx s b' := by
    intro b i b' hb hb'
    rcases visitOrder_cases hb' with ⟨orders, -, rfl⟩ | ⟨fill, mutation, hstep⟩
    · exact hb.trans (.of_orders orders)
    · rw [← hb.candlesProcessed] at hstep
      exact hb.trans (.of_fillStep hstep)
  exact foldlM_preserves hvisit _ _ _ (.of_orders orders) h

/-! ### Candles -/

/-- An admitted candle keeps the accounts. -/
theorem Published.admitted {s s' : EngineState σ} {candle : Candle}
    {regime : Option MarketRegimePoint} (hs : Published config s)
    (h : admitCandle ctx config s candle = .ok (s', regime)) :
    Published config s' ∧ s'.candlesProcessed = s.candlesProcessed ∧
      regime.isSome = (marketRegimePolicyFor config).isSome ∧ s'.lastCandle = some candle := by
  obtain ⟨acc, hupdate, hvalid, rfl⟩ := admitCandle_cases h
  obtain ⟨hacc, hregime⟩ := updateRegime_isSome hupdate
  refine ⟨{ hs with accumulator := hacc.trans hs.accumulator, lastCandle := fun hpos => ?_ }, rfl,
    hregime.trans hs.accumulator, rfl⟩
  obtain ⟨c, hc, hstart⟩ := hs.lastCandle hpos
  rw [Option.mem_def] at hc
  rw [hc] at hvalid
  exact ⟨candle, rfl, hstart.trans (validateCandle_openTime hvalid).le⟩

/-- **One candle keeps the invariant.** -/
theorem processCandle_published {s s' : EngineState σ} {candle : Candle} (hs : Published config s)
    (h : processCandle ctx hash strategy config snapshot s candle = .ok s') :
    Published config s' := by
  obtain ⟨s₀, regime, hadmit, ⟨-, hwarm⟩ | ⟨hstart, s₁, hfill, hclose⟩⟩ := processCandle_cases h
  · obtain ⟨hs₀, -⟩ := hs.admitted hadmit
    obtain ⟨st, context, rfl⟩ := warmupCandle_cases hwarm
    exact { hs₀ with }
  · obtain ⟨hs₀, -, hregime, hlast⟩ := hs.admitted hadmit
    have hphase := fillPhase_cases hfill
    have hstep := closePhase_cases hclose
    have hn : s'.candlesProcessed = s₀.candlesProcessed + 1 := by
      rw [hstep.candlesProcessed, hphase.candlesProcessed]
    refine
      { fills := ?_
        equity := ?_
        accumulator := ?_
        marketRegimes := ?_
        ledger := ?_
        lastCandle := fun _ => ?_ }
    · obtain ⟨added, hadded, hindex, -⟩ := hphase.fills
      rw [hstep.fills, hadded, hn]
      intro f hf
      rcases List.mem_append.mp hf with hf | hf
      · exact (hs₀.fills f hf).trans (Nat.lt_succ_self _)
      · rw [(hindex f hf).1]
        exact Nat.lt_succ_self _
    · rw [hstep.equity, hphase.equity, List.map_append, hs₀.equity, hn, List.range_succ,
        hphase.candlesProcessed]
      rfl
    · rw [hstep.regimeAccumulator, hphase.regimeAccumulator, hs₀.accumulator]
    · rw [hstep.marketRegimes, hphase.marketRegimes, List.length_append, hs₀.marketRegimes, hn,
        ← hregime]
      cases regime <;> simp
    · obtain ⟨e, he, hindex, htype⟩ := recordMark_eq_append hstep.recorded
      rw [he, hn]
      have hold : ∀ e ∈ s₁.ledger,
          e.candleIndex < ((s₀.candlesProcessed + 1 : ℕ) : ℤ) ∧ e.entryType ≠ .finalState := by
        refine hphase.ledger.forall_mem (fun e he => ?_) fun e he => ?_
        · exact ⟨(hs₀.ledger e he).1.trans (by push_cast; omega), (hs₀.ledger e he).2⟩
        · exact ⟨by rw [he.1]; push_cast; omega, he.2⟩
      intro x hx
      rcases List.mem_append.mp hx with hx | hx
      · exact hold x hx
      · rw [List.mem_singleton.mp hx, hindex, htype, hphase.candlesProcessed]
        exact ⟨by push_cast; omega, by simp⟩
    · rw [hstep.lastCandle, hphase.lastCandle, hlast]
      exact ⟨candle, rfl, hstart⟩

theorem foldlM_processCandle_published {candles : List Candle} {s s' : EngineState σ}
    (hs : Published config s)
    (h : candles.foldlM (processCandle ctx hash strategy config snapshot) s = .ok s') :
    Published config s' :=
  foldlM_preserves (fun _ _ _ hb hb' => processCandle_published hb hb') _ _ _ hs h

/-- **The invariant of the loop holds after every stream.** -/
theorem runCandles_published {candles : List Candle} {s : EngineState σ}
    (h : runCandles ctx hash strategy config snapshot candles = .ok s) : Published config s := by
  simp only [runCandles, bind_eq_ok] at h
  obtain ⟨s₀, hstart, hfold⟩ := h
  exact foldlM_processCandle_published (startState_cases hstart).2.2.2.2.2 hfold

/-- Once a candle has been evaluated, the next one only adds what belongs to its own number. -/
theorem processCandle_extends {s s' : EngineState σ} {candle : Candle} (hs : Published config s)
    (hpos : 0 < s.candlesProcessed)
    (h : processCandle ctx hash strategy config snapshot s candle = .ok s') :
    Extends s.candlesProcessed s s' ∧ s.candlesProcessed ≤ s'.candlesProcessed := by
  obtain ⟨s₀, regime, hadmit, hrest⟩ := processCandle_cases h
  obtain ⟨acc, -, hvalid, rfl⟩ := admitCandle_cases hadmit
  obtain ⟨c, hc, hstart⟩ := hs.lastCandle hpos
  rw [Option.mem_def] at hc
  rw [hc] at hvalid
  have hopen := validateCandle_openTime hvalid
  rcases hrest with ⟨hlt, -⟩ | ⟨-, s₁, hfill, hclose⟩
  · exact absurd (hstart.trans_lt hopen) (not_lt.mpr hlt.le)
  · have hphase := fillPhase_cases hfill
    have hstep := closePhase_cases hclose
    have hadmitted : Extends s.candlesProcessed s
        { s with
          regimeAccumulator := acc
          contextCandlesSeen := s.contextCandlesSeen + 1
          lastCandle := some candle } := { Extends.refl s.candlesProcessed s with }
    have hclosed := hstep.extends
    rw [hphase.candlesProcessed] at hclosed
    refine ⟨(hadmitted.trans (fillPhase_extends hfill)).trans hclosed, ?_⟩
    rw [hstep.candlesProcessed, hphase.candlesProcessed]
    exact Nat.le_succ _

/-- **Later candles only add what belongs to them.** -/
theorem foldlM_processCandle_extends {candles : List Candle} {s s' : EngineState σ}
    (hs : Published config s) (hpos : 0 < s.candlesProcessed)
    (h : candles.foldlM (processCandle ctx hash strategy config snapshot) s = .ok s') :
    Extends s.candlesProcessed s s' ∧ s.candlesProcessed ≤ s'.candlesProcessed := by
  have hkeep : ∀ (b : EngineState σ) (c : Candle) (b' : EngineState σ),
      Extends s.candlesProcessed s b ∧ Published config b ∧
        s.candlesProcessed ≤ b.candlesProcessed →
      processCandle ctx hash strategy config snapshot b c = .ok b' →
      Extends s.candlesProcessed s b' ∧ Published config b' ∧
        s.candlesProcessed ≤ b'.candlesProcessed := by
    rintro b c b' ⟨hb, hpub, hle⟩ hb'
    obtain ⟨hext, hle'⟩ := processCandle_extends hpub (hpos.trans_le hle) hb'
    exact ⟨hb.trans (hext.mono hle), processCandle_published hpub hb', hle.trans hle'⟩
  obtain ⟨hext, -, hle⟩ := foldlM_preserves hkeep _ _ _ ⟨.refl _ _, hs, le_rfl⟩ h
  exact ⟨hext, hle⟩

/-! ### The end of a run -/

/-- **What the end of a run does**: it may cancel, may force a close, and records the final
state. -/
theorem finishRun_cases {cancel : Bool} {s s' : EngineState σ}
    (h : finishRun ctx hash strategy config snapshot cancel s = .ok s') :
    ∃ candle ∈ s.lastCandle, 0 < s.candlesProcessed ∧ ∃ s₁ s₂,
      cancelAtEnd cancel s candle = .ok s₁ ∧ forceCloseAtEnd ctx hash config s₁ candle = .ok s₂ ∧
      ∃ final st context, final.candleIndex = (s₂.candlesProcessed : ℤ) - 1 ∧
        final.entryType = .finalState ∧
        s' = { s₂ with
          ledger := s₂.ledger ++ [final]
          strategyState := st
          callbacks := s₂.callbacks ++ [.finish context] } := by
  unfold finishRun at h
  cases hlast : s.lastCandle with
  | none => rw [hlast] at h; simp at h
  | some candle =>
    rw [hlast] at h
    simp only [bind_eq_ok, FailureKind.unless_eq_ok, exists_const, pure, Except.pure,
      Except.ok.injEq, bne_iff_ne, ne_eq] at h
    obtain ⟨hpos, s₁, hcancel, s₂, hforce, ledger, hledger, context, -, st, -, -, -, rfl⟩ := h
    obtain ⟨final, rfl, hindex, htype⟩ := recordMark_eq_append hledger
    exact ⟨candle, rfl, Nat.pos_of_ne_zero hpos, s₁, s₂, hcancel, hforce, final, st, context,
      hindex, htype, rfl⟩

/-- A prefix of a stream delivers a prefix of its context candles. -/
theorem contextCandles_prefix (config : BacktestConfig) {ps cs : List Candle} (h : ps <+: cs) :
    contextCandles config ps <+: contextCandles config cs :=
  (takeWhile_isPrefix _ h).filter _

end

end Backtesting
end DryTrade
