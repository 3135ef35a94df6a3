import DryTrade.PaperTrading.Agreement
import DryTrade.PaperTrading.Timeline

/-!
# When a timeline is refused

An observation repeats the operations of the mark it was taken from, so it passes its
own checks under every rounding.  The timeline compares the equity with the capital and
the two profits, which were rounded on their own: a state is refused exactly when the
two sides of that identity round differently at one of its closes.

## Main definitions

* `MarkRoundsAlike`, `ClosesRoundAlike` — what makes the two sides equal.
* `Replays` — a state is replayed by its own fills and candles.

## Main results

* `reconstruct_of_replay` — every observation of a replay passes its checks.
* `timeline_isOk_iff` — when the timeline of a replayed state is accepted.
-/

namespace DryTrade
namespace PaperTrading

open MarketData Backtesting

section

variable {ctx : DecimalContext} {digests : TimelineDigests} {encodings : Encodings}
  {config : PaperSessionConfig} {batch : PaperCandleBatch} {state : PaperSessionState}
  {s t : PortfolioState}

/-! ### Portfolios at a close -/

/-- A valid portfolio whose average price is the quotient of cost and quantity. -/
structure Averaged (ctx : DecimalContext) (s : PortfolioState) : Prop where
  valid : s.Valid ctx
  average : 0 < s.baseQuantity → s.averageEntryPrice = ctx.div s.costBasis s.baseQuantity

theorem averaged_init {capital : ℚ} (h : initializePortfolio ctx capital = .ok s) :
    Averaged ctx s ∧ 0 < capital := by
  simp only [initializePortfolio, bind_eq_ok, FailureKind.unless_eq_ok, exists_const,
    PortfolioState.validate_eq_ok, decide_eq_true_eq] at h
  obtain ⟨hpos, hvalid, rfl⟩ := h
  exact ⟨⟨hvalid, fun h => absurd h (lt_irrefl 0)⟩, hpos⟩

/-- The state that a fill builds has the quotient. -/
theorem filledState_average (fill : Fill) (h : 0 < (filledState ctx s fill).baseQuantity) :
    (filledState ctx s fill).averageEntryPrice =
      ctx.div (filledState ctx s fill).costBasis (filledState ctx s fill).baseQuantity := by
  unfold filledState at h ⊢
  cases hside : fill.side with
  | buy => rfl
  | sell =>
    rw [hside] at h
    simp only [soldState] at h ⊢
    rw [if_neg h.ne', if_neg h.ne']

theorem averaged_fill {fill : Fill} (h : fillMove ctx s fill = .ok t) : Averaged ctx t := by
  simp only [fillMove, bind_eq_ok, pure, Except.pure, Except.ok.injEq] at h
  obtain ⟨mutation, hmutation, rfl⟩ := h
  obtain ⟨-, hvalid, hafter⟩ := applyFill_eq_ok hmutation
  refine ⟨hvalid, fun hpos => ?_⟩
  rw [hafter] at hpos ⊢
  exact filledState_average fill hpos

theorem averaged_fills {fills : List Fill} (hs : Averaged ctx s)
    (h : fills.foldlM (fillMove ctx) s = .ok t) : Averaged ctx t :=
  foldlM_preserves (fun _ _ _ _ hmove => averaged_fill hmove) fills s t hs h

/-- A day ends with a mark of the portfolio that its fills leave. -/
theorem dayMove_eq_ok {day : List Fill × ℚ} : dayMove ctx s day = .ok t ↔
    ∃ filled, day.1.foldlM (fillMove ctx) s = .ok filled ∧ 0 < day.2 ∧
      (markedState ctx filled day.2).Valid ctx ∧ t = markedState ctx filled day.2 := by
  simp only [dayMove, bind_eq_ok, markToMarket_eq_ok]

theorem averaged_marked {price : ℚ} (hs : Averaged ctx s)
    (hvalid : (markedState ctx s price).Valid ctx) : Averaged ctx (markedState ctx s price) :=
  ⟨hvalid, hs.average⟩

/-- The snapshot of a valid portfolio passes the checks of its constructor. -/
theorem portfolioCanonical_snapshot (h : s.Valid ctx) :
    portfolioCanonical ctx s.snapshot = true := by
  have hfields := h.nonneg
  simp only [PortfolioState.nonnegativeFields, List.mem_cons, List.not_mem_nil, or_false,
    forall_eq_or_imp, forall_eq] at hfields
  obtain ⟨-, hcash, hbase, hcost, haverage, hfees, hslippage, hequity, hpeak, hdrawdown, hpct⟩ :=
    hfields
  simp only [portfolioCanonical, nonnegativeSnapshotFields, PortfolioState.snapshot,
    List.all_cons, List.all_nil, Bool.and_true, Bool.and_eq_true, decide_eq_true_iff]
  refine ⟨⟨⟨⟨⟨⟨hcash, hbase, haverage, hfees, hslippage, hequity, hpeak, hdrawdown, hcost, hpct⟩,
    decide_eq_true fun hflat => (h.flat hflat).symm⟩,
    decide_eq_true fun hlong => (h.long (ne_of_gt hlong)).symm⟩,
    decide_eq_true h.equity_le⟩, decide_eq_true h.drawdown_eq⟩, decide_eq_true h.drawdownPct_eq⟩

theorem observation_validate_eq_ok {o o' : PaperPortfolioObservation} :
    o.validate ctx = .ok o' ↔
      (o.candleOpenTime < o.candleCloseTime ∧ 0 < o.markPrice ∧
        portfolioCanonical ctx o.toPortfolioSnapshot = true ∧ o.accountsFit ctx = true) ∧ o' = o := by
  simp only [PaperPortfolioObservation.validate, bind_eq_ok, FailureKind.unless_eq_ok, exists_const,
    Bool.and_eq_true, decide_eq_true_eq, pure, Except.pure, Except.ok.injEq, and_assoc]
  rw [eq_comm (a := o)]

/-- The accounts of an observation of a close are those of its mark. -/
theorem observation_accountsFit (hs : Averaged ctx s) (state : PaperSessionState) (index : ℕ)
    (candle : Candle) (riskHalt : Bool) :
    (observationOf state index candle (markedState ctx s candle.close).snapshot
      riskHalt).accountsFit ctx = true := by
  refine Bool.and_eq_true_iff.mpr
    ⟨Bool.and_eq_true_iff.mpr ⟨decide_eq_true rfl, decide_eq_true rfl⟩, ?_⟩
  show (if 0 < s.baseQuantity then
      decide (s.averageEntryPrice = ctx.div s.costBasis s.baseQuantity)
    else decide (s.averageEntryPrice = 0) && decide (s.costBasis = 0)) = true
  split_ifs with hpos
  · exact decide_eq_true (hs.average hpos)
  · have hnonneg := hs.valid.nonneg ("base_quantity", s.baseQuantity)
      (by simp [PortfolioState.nonnegativeFields])
    obtain ⟨hcost, haverage⟩ := hs.valid.flat (le_antisymm (not_lt.mp hpos) hnonneg)
    simp [hcost, haverage]

/-- **An observation of a close passes its own checks**, under every rounding. -/
theorem observation_validate {candle : Candle} (hs : Averaged ctx s) (hprice : 0 < candle.close)
    (hvalid : (markedState ctx s candle.close).Valid ctx) (state : PaperSessionState) (index : ℕ)
    (riskHalt : Bool) :
    (observationOf state index candle (markedState ctx s candle.close).snapshot riskHalt).validate
      ctx = .ok (observationOf state index candle (markedState ctx s candle.close).snapshot
        riskHalt) :=
  observation_validate_eq_ok.mpr ⟨⟨candle.openTime_lt_closeTime, hprice,
    portfolioCanonical_snapshot hvalid, observation_accountsFit hs state index candle riskHalt⟩, rfl⟩

/-! ### Replaying a state -/

/-- **What makes the two sides of the identity of a mark equal**: cash and market value round to what
the capital, the realized and the unrealized profit do. -/
def MarkRoundsAlike (ctx : DecimalContext) (capital : ℚ) (s : PortfolioState) (price : ℚ) : Prop :=
  ctx.add s.quoteCash (ctx.mul s.baseQuantity price) =
    ctx.add (ctx.add capital s.realizedPnl) (ctx.sub (ctx.mul s.baseQuantity price) s.costBasis)

/-- Every close of a run rounds alike with the portfolio that the fills before it leave. -/
def ClosesRoundAlike (ctx : DecimalContext) (capital : ℚ) (s : PortfolioState)
    (days : List (List Fill × ℚ)) : Prop :=
  AlongPrefixes (fun before day => ∀ t filled, before.foldlM (dayMove ctx) s = .ok t →
    day.1.foldlM (fillMove ctx) t = .ok filled → MarkRoundsAlike ctx capital filled day.2) days

theorem closesRoundAlike_concat {capital : ℚ} {days : List (List Fill × ℚ)}
    {day : List Fill × ℚ} : ClosesRoundAlike ctx capital s (days ++ [day]) ↔
      ClosesRoundAlike ctx capital s days ∧
        ∀ t filled, days.foldlM (dayMove ctx) s = .ok t →
          day.1.foldlM (fillMove ctx) t = .ok filled →
            MarkRoundsAlike ctx capital filled day.2 := alongPrefixes_concat

/-- **A mark rounds alike while nothing is rounded**: the amounts are multiples of one power of ten
whose sum has 28 digits, and cash and cost are still the capital and the realized profit. -/
theorem markRoundsAlike_of_grid {capital price : ℚ} {a q m c r e : ℤ}
    (hcapital : capital = a * 10 ^ e) (hcash : s.quoteCash = q * 10 ^ e)
    (hmarket : s.baseQuantity * price = m * 10 ^ e) (hcost : s.costBasis = c * 10 ^ e)
    (hrealized : s.realizedPnl = r * 10 ^ e) (hkept : q + c = a + r)
    (hsize : |a| + |q| + |m| + |c| + |r| ≤ 10 ^ 28) :
    MarkRoundsAlike .default capital s price := by
  have hvalue : DecimalContext.default.mul s.baseQuantity price = m * 10 ^ e :=
    default_round_grid hmarket (by grind)
  rw [MarkRoundsAlike, hvalue, hcapital, hcash, hcost, hrealized, default_add_grid (by grind),
    default_add_grid (by grind), default_sub_grid (by grind), default_add_grid (by grind)]
  congr 2
  linarith

/-- The fills and the close of an evaluated candle. -/
def dayOf (state : PaperSessionState) (indexed : Candle × ℕ) : List Fill × ℚ :=
  (fillsAt state indexed.2, indexed.1.close)

/-- The days of a state. -/
def daysOf (config : PaperSessionConfig) (batch : PaperCandleBatch) (state : PaperSessionState) :
    List (List Fill × ℚ) :=
  (evaluationCandles config batch).zipIdx.map (dayOf state)

/-- One day of a replay, which also halts its risk. -/
def replayMove (ctx : DecimalContext) (config : PaperSessionConfig) (walk : PortfolioState × Bool)
    (day : List Fill × ℚ) : Except Failure (PortfolioState × Bool) := do
  let s ← dayMove ctx walk.1 day
  return (s, walk.2 || drawdownHaltRequired config.riskLimits s.snapshot)

/-- **A state is replayed**: it passes the checks on it, on its batch and on its candles, and applying
its fills and marking at its closes leads from the initial capital to its portfolio. -/
structure Replays (ctx : DecimalContext) (encodings : Encodings) (config : PaperSessionConfig)
    (batch : PaperCandleBatch) (state : PaperSessionState) (s₀ : PortfolioState) : Prop where
  validState : validatePaperStateAgainstConfig ctx encodings state config = .ok ()
  validBatch : validateBatchAgainstState encodings config batch state = .ok ()
  evaluation : checkEvaluation config state (evaluationCandles config batch) = .ok ()
  start : initializePortfolio ctx config.initialCapital = .ok s₀
  walk : ∃ final, (daysOf config batch state).foldlM (replayMove ctx config) (s₀, false) =
    .ok (final, state.riskHalt) ∧ final.snapshot = state.portfolio

/-- An observation is the one of a candle of the state. -/
structure Observes (ctx : DecimalContext) (state : PaperSessionState) (indexed : Candle × ℕ)
    (o : PaperPortfolioObservation) : Prop where
  candleIndex : o.candleIndex = indexed.2
  openTime : o.candleOpenTime = indexed.1.openTime
  closeTime : o.candleCloseTime = indexed.1.closeTime
  owned : o.sessionId = state.sessionId ∧ o.configChecksum = state.configChecksum ∧
    o.stateId = state.stateId ∧ o.datasetVersion = state.datasetVersion ∧
    o.sourceChecksum = state.sourceChecksum
  valid : o.validate ctx = .ok o

theorem dayMove_of_replay {days : List (List Fill × ℚ)} {halt halt' : Bool}
    (h : days.foldlM (replayMove ctx config) (s, halt) = .ok (t, halt')) :
    days.foldlM (dayMove ctx) s = .ok t := by
  induction days using List.reverseRecOn generalizing t halt' with
  | nil =>
    obtain ⟨rfl, rfl⟩ := Prod.mk.inj (Except.ok.inj h)
    rfl
  | append_singleton days day ih =>
    obtain ⟨⟨mid, midHalt⟩, hmid, hlast⟩ := foldlM_concat_eq_ok.mp h
    simp only [replayMove, bind_eq_ok, pure, Except.pure, Except.ok.injEq, Prod.mk.injEq] at hlast
    obtain ⟨_, hday, rfl, -⟩ := hlast
    exact foldlM_concat_eq_ok.mpr ⟨mid, ih hmid, hday⟩

/-- **A replay observes every candle**: its observations pass their own checks, and their equities
are the capital with both profits exactly when the closes round alike. -/
theorem reconstruct_of_replay (capital : ℚ) {s₀ : PortfolioState} (hs : Averaged ctx s₀)
    {candles : List (Candle × ℕ)} {halt : Bool}
    (h : (candles.map (dayOf state)).foldlM (replayMove ctx config) (s₀, false) = .ok (s, halt)) :
    Averaged ctx s ∧ ∃ observations,
      candles.foldlM (reconstructCandle ctx config state)
          { portfolio := s₀, riskHalt := false, observations := [] } =
        .ok { portfolio := s, riskHalt := halt, observations := observations } ∧
      List.Forall₂ (Observes ctx state) candles observations ∧
      (observations.all (equityFits ctx capital) = true ↔
        ClosesRoundAlike ctx capital s₀ (candles.map (dayOf state))) := by
  induction candles using List.reverseRecOn generalizing s halt with
  | nil =>
    obtain ⟨rfl, rfl⟩ := Prod.mk.inj (Except.ok.inj h)
    exact ⟨hs, [], rfl, .nil, iff_of_true rfl alongPrefixes_nil⟩
  | append_singleton candles indexed ih =>
    rw [List.map_append, List.map_singleton] at h ⊢
    obtain ⟨⟨mid, midHalt⟩, hmid, hlast⟩ := foldlM_concat_eq_ok.mp h
    obtain ⟨haveraged, observations, hobservations, hall, hequity⟩ := ih hmid
    simp only [replayMove, bind_eq_ok, pure, Except.pure, Except.ok.injEq, Prod.mk.injEq] at hlast
    obtain ⟨_, hday, rfl, rfl⟩ := hlast
    obtain ⟨filled, hfilled, hprice, hvalid, rfl⟩ := dayMove_eq_ok.mp hday
    have hfills := averaged_fills haveraged hfilled
    set riskHalt := midHalt || drawdownHaltRequired config.riskLimits
      (markedState ctx filled indexed.1.close).snapshot with hhalt
    have hobserved := observation_validate hfills hprice hvalid state indexed.2 riskHalt
    refine ⟨averaged_marked hfills hvalid, observations ++ [_], ?_,
      List.rel_append hall (.cons ⟨rfl, rfl, rfl, ⟨rfl, rfl, rfl, rfl, rfl⟩, hobserved⟩ .nil), ?_⟩
    · refine foldlM_concat_eq_ok.mpr ⟨_, hobservations, ?_⟩
      simp only [reconstructCandle, bind_eq_ok, pure, Except.pure, Except.ok.injEq]
      exact ⟨_, hday, _, hobserved, rfl⟩
    · rw [List.all_append, Bool.and_eq_true, hequity, closesRoundAlike_concat]
      refine and_congr_right fun _ => ?_
      have hbefore := dayMove_of_replay hmid
      simp only [List.all_cons, List.all_nil, Bool.and_true, equityFits, decide_eq_true_eq]
      constructor
      · intro hfits t filled' ht hfilled'
        obtain rfl := Except.ok.inj (hbefore.symm.trans ht)
        obtain rfl := Except.ok.inj (hfilled.symm.trans hfilled')
        exact hfits
      · intro hround
        exact hround mid filled hbefore hfilled

/-! ### The checks of the timeline of a replay -/

/-- The candles of a batch open one after the other, and none before the one before it closes. -/
theorem timelineCandles_ordered {candles : List Candle} {expected stop : Instant}
    (h : timelineCandlesFit config expected candles = .ok stop) :
    (∀ c ∈ candles, expected ≤ c.openTime) ∧
      candles.Pairwise fun a b => a.openTime < b.openTime ∧ a.closeTime ≤ b.openTime := by
  induction candles generalizing expected with
  | nil => exact ⟨by simp, .nil⟩
  | cons c candles ih =>
    simp only [timelineCandlesFit, bind_eq_ok, FailureKind.unless_eq_ok, exists_const,
      Bool.and_eq_true, Bool.or_eq_true, beq_iff_eq] at h
    obtain ⟨_, -, ⟨⟨-, hopen⟩, hclose⟩, hrest⟩ := h
    obtain ⟨hlater, hpairs⟩ := ih hrest
    have hduration := config.timeframe.duration_pos
    refine ⟨fun c' hc' => ?_, List.pairwise_cons.mpr ⟨fun c' hc' => ?_, hpairs⟩⟩
    · rcases List.mem_cons.mp hc' with rfl | hc'
      · exact hopen.ge
      · linarith [hlater c' hc']
    · have hle := hlater c' hc'
      refine ⟨by linarith, ?_⟩
      rcases hclose with hclose | hclose <;> linarith

/-- What the checks on a state say about its ranges. -/
structure RangesFit (config : PaperSessionConfig) (state : PaperSessionState) : Prop where
  start : state.evaluationRange.start = config.startAt
  start_le : state.dataRange.start ≤ state.evaluationRange.start
  stop : state.evaluationRange.stop = state.dataRange.stop
  last : state.lastCandleOpenTime < state.dataRange.stop
  processed : 1 ≤ state.candlesProcessed

theorem rangesFit_of_validate
    (h : validatePaperStateAgainstConfig ctx encodings state config = .ok ()) :
    RangesFit config state := by
  simp only [validatePaperStateAgainstConfig, validatePaperSessionState, bind_eq_ok,
    FailureKind.require_eq_ok, exists_const, Bool.and_eq_true, decide_eq_true_eq] at h
  obtain ⟨⟨-, -, hranges, hprocessed, -, -, htimes, -⟩, hconfig, -⟩ := h
  exact ⟨hconfig.1.2, hranges.1, hranges.2, htimes.2, hprocessed⟩

/-- The observations of a replay are in the order of its candles. -/
theorem observations_checked {candles : List Candle} {observations : List PaperPortfolioObservation}
    (hall : List.Forall₂ (Observes ctx state) candles.zipIdx observations)
    (hordered : candles.Pairwise fun a b => a.openTime < b.openTime ∧ a.closeTime ≤ b.openTime) :
    observations.map (·.candleIndex) = List.range observations.length ∧
      observations.map (·.candleOpenTime) = candles.map (·.openTime) ∧
      (observations.zip observations.tail).all observationFollows = true := by
  have hlength : observations.length = candles.length := by
    rw [← hall.length_eq, List.length_zipIdx]
  have hopens : observations.map (·.candleOpenTime) = candles.zipIdx.map fun i => i.1.openTime :=
    (map_eq_of_forall₂ hall fun _ _ ho => ho.openTime.symm).symm
  refine ⟨?_, ?_, all_zip_tail ?_⟩
  · rw [← map_eq_of_forall₂ hall fun _ _ ho => ho.candleIndex.symm, List.zipIdx_map_snd, hlength,
      List.range_eq_range']
  · have hfst := List.zipIdx_map_fst 0 candles
    rw [hopens, ← congrArg (List.map fun c : Candle => c.openTime) hfst, List.map_map]
    rfl
  · have hindexed : candles.zipIdx.Pairwise fun a b =>
        a.1.openTime < b.1.openTime ∧ a.1.closeTime ≤ b.1.openTime := by
      rw [← List.zipIdx_map_fst 0 candles, List.pairwise_map] at hordered
      exact hordered
    refine pairwise_of_forall₂ (fun a b o o' ho ho' hab => ?_) hall hindexed
    simp only [observationFollows, Bool.and_eq_true, decide_eq_true_eq, ho.openTime, ho.closeTime,
      ho'.openTime]
    exact hab

variable (digests) in
/-- **The checks on the timeline of a replay** are those on its equities. -/
theorem timeline_checks_iff {observations : List PaperPortfolioObservation}
    (hranges : RangesFit config state)
    (hbatch : validateBatchAgainstState encodings config batch state = .ok ())
    (hevaluation : checkEvaluation config state (evaluationCandles config batch) = .ok ())
    (hall : List.Forall₂ (Observes ctx state) (evaluationCandles config batch).zipIdx
      observations) :
    (timelineOf digests config state observations).checks ctx digests = true ↔
      observations.all (equityFits ctx config.initialCapital) = true := by
  simp only [validateBatchAgainstState, bind_eq_ok, FailureKind.unless_eq_ok, exists_const]
    at hbatch
  obtain ⟨-, stop, hcandles, -⟩ := hbatch
  simp only [checkEvaluation, bind_eq_ok, FailureKind.require_eq_ok, exists_const,
    Bool.and_eq_true, decide_eq_true_eq] at hevaluation
  obtain ⟨⟨⟨hcount, hfirst⟩, hlast⟩, -⟩ := hevaluation
  obtain ⟨hindexes, hopens, hfollows⟩ := observations_checked hall
    ((timelineCandles_ordered hcandles).2.filter _)
  have hlength : observations.length = state.candlesProcessed := by
    rw [← hcount, ← hall.length_eq, List.length_zipIdx]
  have hvalid : (observations.all fun o => (o.validate ctx).isOk) = true := by
    refine List.all_eq_true.mpr fun o ho => ?_
    obtain ⟨i, hi⟩ := List.mem_iff_getElem?.mp ho
    obtain ⟨_, -, hobserves⟩ := exists_of_forall₂ hall hi
    exact isOk_iff.mpr ⟨o, hobserves.valid⟩
  have howned : observations.all (timelinePayload config state observations).owns = true := by
    refine List.all_eq_true.mpr fun o ho => ?_
    obtain ⟨i, hi⟩ := List.mem_iff_getElem?.mp ho
    obtain ⟨_, -, hobserves⟩ := exists_of_forall₂ hall hi
    obtain ⟨hsession, hconfig, hid, hdataset, hsource⟩ := hobserves.owned
    simp only [TimelinePayload.owns, Bool.and_eq_true, decide_eq_true_eq]
    exact ⟨⟨⟨⟨hsession, hconfig⟩, hid⟩, hdataset⟩, hsource⟩
  have hhead : observations.head?.map (·.candleOpenTime) = some state.evaluationRange.start := by
    rw [← List.head?_map, hopens, List.head?_map, hfirst, hranges.start]
  have htail : (observations.getLast?.any fun o =>
      decide (o.candleOpenTime < state.evaluationRange.stop)) = true := by
    have hopen : observations.getLast?.map (·.candleOpenTime) = some state.lastCandleOpenTime := by
      rw [← List.getLast?_map, hopens, List.getLast?_map, hlast]
    obtain ⟨o, ho, hopen⟩ := Option.map_eq_some_iff.mp hopen
    rw [ho, Option.any_some, hopen, hranges.stop]
    exact decide_eq_true hranges.last
  simp only [PaperPortfolioTimeline.checks, Bool.and_eq_true, decide_eq_true_eq]
  constructor
  · rintro ⟨⟨⟨⟨⟨-, hequity⟩, -⟩, -⟩, -⟩, -⟩
    exact hequity
  · intro hequity
    exact ⟨⟨⟨⟨⟨⟨⟨⟨⟨⟨⟨⟨⟨⟨config.lifecycle_supported, hranges.start_le⟩, hranges.stop⟩,
      config.initialCapital_pos⟩, hranges.processed⟩, hlength⟩, hvalid⟩, hindexes⟩, howned⟩,
      hfollows⟩, hequity⟩, hhead⟩, htail⟩, rfl⟩, rfl⟩

theorem mapError_eq_ok {ε α : Type} {x : Except ε α} {f : ε → ε} {a : α} :
    x.mapError f = .ok a ↔ x = .ok a := by
  cases x <;> simp [Except.mapError]

/-- **When the timeline of a replay is accepted**, under any rounding. -/
theorem Replays.isOk_iff {s₀ : PortfolioState} (h : Replays ctx encodings config batch state s₀) :
    (∃ r, reconstruct ctx config batch state = .ok r ∧
      ∀ o ∈ r.observations, o.validate ctx = .ok o) ∧
    ((∃ timeline, buildPaperPortfolioTimeline ctx digests encodings config batch state =
        .ok timeline) ↔
      ClosesRoundAlike ctx config.initialCapital s₀ (daysOf config batch state)) := by
  obtain ⟨haveraged, -⟩ := averaged_init h.start
  obtain ⟨final, hwalk, hfinal⟩ := h.walk
  obtain ⟨-, observations, hobservations, hall, hequity⟩ :=
    reconstruct_of_replay config.initialCapital haveraged hwalk
  have hreconstruct : reconstruct ctx config batch state =
      .ok { portfolio := final, riskHalt := state.riskHalt, observations := observations } := by
    simp only [reconstruct, bind_eq_ok]
    exact ⟨s₀, h.start, hobservations⟩
  refine ⟨⟨_, hreconstruct, fun o ho => ?_⟩, ?_⟩
  · obtain ⟨i, hi⟩ := List.mem_iff_getElem?.mp ho
    obtain ⟨_, -, hobserves⟩ := exists_of_forall₂ hall hi
    exact hobserves.valid
  · rw [← daysOf] at hequity
    rw [← hequity, ← timeline_checks_iff digests (rangesFit_of_validate h.validState) h.validBatch
      h.evaluation hall]
    simp only [buildPaperPortfolioTimeline, mapError_eq_ok, bind_eq_ok, hreconstruct,
      FailureKind.unless_eq_ok, exists_const, Except.ok.injEq, PaperPortfolioTimeline.validate]
    constructor
    · rintro ⟨timeline, _, -, _, -, _, -, r, rfl, -, hchecks, -⟩
      exact hchecks
    · intro hchecks
      exact ⟨_, (), h.validState, (), h.validBatch, (), h.evaluation, _, rfl, by simp [hfinal],
        hchecks, rfl⟩

end

/-! ### A position that is sold in thirds -/

/-- The initial portfolio of a state that is replayed. -/
def replay (ctx : DecimalContext) (encodings : Encodings) (config : PaperSessionConfig)
    (batch : PaperCandleBatch) (state : PaperSessionState) : Except Failure PortfolioState := do
  validatePaperStateAgainstConfig ctx encodings state config
  validateBatchAgainstState encodings config batch state
  checkEvaluation config state (evaluationCandles config batch)
  let s₀ ← initializePortfolio ctx config.initialCapital
  let (final, halt) ← (daysOf config batch state).foldlM (replayMove ctx config) (s₀, false)
  FailureKind.assertion.require
    (decide (halt = state.riskHalt) && decide (final.snapshot = state.portfolio))
  return s₀

theorem replays_of_replay {ctx : DecimalContext} {encodings : Encodings}
    {config : PaperSessionConfig} {batch : PaperCandleBatch} {state : PaperSessionState}
    {s₀ : PortfolioState} (h : replay ctx encodings config batch state = .ok s₀) :
    Replays ctx encodings config batch state s₀ := by
  simp only [replay, bind_eq_ok, FailureKind.require_eq_ok, exists_const, Bool.and_eq_true,
    decide_eq_true_eq, pure, Except.pure, Except.ok.injEq, Prod.exists] at h
  obtain ⟨_, hstate, _, hbatch, _, hevaluation, _, hstart, final, _, hwalk, ⟨rfl, hfinal⟩, rfl⟩ := h
  exact ⟨hstate, hbatch, hevaluation, hstart, final, hwalk, hfinal⟩

/-- A market order. -/
def marketOrder (side : OrderSide) (quantity : ℚ) (h : 0 < quantity) : OrderIntent where
  side := side
  orderType := .market
  quantity := quantity
  timeInForce := .gtc
  limitPrice := none
  stopPrice := none
  clientTag := none
  quantity_pos := h
  prices_valid := marketPrices_valid
  clientTag_safe := untagged_safe

/-- Buys one unit, then two, and then sells one of the three. -/
def threeOrders : List OrderIntent :=
  [marketOrder .buy 1 oneUnit_pos, marketOrder .buy 2 (by norm_num),
    marketOrder .sell 1 oneUnit_pos]

/-- Submits one order on each candle. -/
def oneByOne : Strategy ℕ where
  descriptor := ⟨"ladder", "1", []⟩
  init := 0
  onStart := fun _ n => .ok ([], n)
  onCandle := fun _ _ n => .ok (threeOrders[n]?.toList, n + 1)
  onFill := fun _ _ n => .ok ([], n)
  onEnd := fun _ n => .ok n
  onWarmupCandle := none

/-- A session without fees, slippage or protection. -/
def plainConfig : PaperSessionConfig :=
  { ladderConfig with riskLimits := (holdConfig 0 validBps_zero false).riskLimits }

/-- Four days that open at 74, 74, 31 and 87; the last one closes at the given price. -/
def fourDays (close : ℚ) : PaperCandleBatch where
  dataRange := ⟨0, 4 * Instant.microsecondsPerDay, by decide⟩
  datasetVersion := zeroDigest
  sourceChecksum := zeroDigest
  candles := [sampleCandle 0 74 74, sampleCandle 1 74 31, sampleCandle 2 31 87,
    sampleCandle 3 87 close]
  candles_ne := by simp

/-- What the session publishes after them. -/
def fourDaysState (close : ℚ) : Except Failure PaperSessionState :=
  execute .default sampleEncodings (fun _ _ => "") (fun _ _ => .ok ⟨1, fun _ => .ok oneByOne⟩)
    plainConfig (fourDays close) 0 none

def sampleTimelineDigests : TimelineDigests := ⟨fun _ => zeroDigest, fun _ _ => zeroDigest⟩

end PaperTrading
end DryTrade
