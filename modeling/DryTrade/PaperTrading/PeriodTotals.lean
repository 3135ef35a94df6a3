import DryTrade.Growth
import DryTrade.PaperTrading.Agreement
import DryTrade.PaperTrading.PeriodMetrics

/-!
# What a series of period metrics sums up

A series that is built for a query cuts the range of the query into calendar periods.
Every realization of the range belongs to exactly one of them, and in exact
arithmetic the totals of the series are those of one aggregate over all of them, so
that they do not depend on the granularity.

## Main definitions

* `selectedJournals`, `allRealizations` — what a query reads.
* `CutsRange` — the buckets of a series are consecutive periods that cover its range.
* `Aggregate.SumsUp` — an aggregate has the counts and sums of another one.

## Main results

* `collectSessions_buckets` — the realizations are collected in groups, by period.
* `buildSeries_sumsUp` — the series of a query sums up its realizations.
-/

namespace DryTrade
namespace PaperTrading

open MarketData Backtesting

/-! ### What a query reads -/

section

variable (ctx : DecimalContext) (encodings : Encodings) (repository : PaperTradingRepository)

/-- The journals of the sessions that a query selects. -/
def selectedJournals (filters : PaperPeriodMetricsFilter) :
    Except Failure (List PaperTradeJournal) := do
  let ids ← sessionIds repository filters
  let journals ← ids.mapM (sessionJournal ctx encodings repository filters)
  return journals.reduceOption

/-- The realizations of journals, in the order of the journals. -/
def allRealizations (journals : List PaperTradeJournal) :
    Except Failure (List PaperRealization) := do
  let realizations ← journals.mapM (journalRealizations ctx)
  return realizations.flatten

end

/-! ### Collecting the realizations -/

section

variable {ctx : DecimalContext} {encodings : Encodings} {repository : PaperTradingRepository}
  {filters : PaperPeriodMetricsFilter} {granularity : PaperPeriodGranularity}
  {c c' : Collected} {starts : List Instant} {seen : List PaperRealization}

/-- The start of the period of a realization. -/
def periodOf (granularity : PaperPeriodGranularity) (r : PaperRealization) : Instant :=
  calendarPeriodStart r.eventTime granularity

/-- One realization is skipped, or it joins the bucket of its period. -/
theorem collectRealization_cases {r : PaperRealization}
    (h : collectRealization filters granularity c r = .ok c') :
    c'.sourceStates = c.sourceStates ∧
      c'.buckets = ([r].filter (inRange filters)).foldl
        (fun buckets r => addTo buckets (periodOf granularity r) r) c.buckets := by
  unfold collectRealization at h
  cases hin : inRange filters r with
  | false =>
    rw [hin, if_neg Bool.false_ne_true] at h
    obtain rfl := Except.ok.inj h
    simp [hin]
  | true =>
    rw [hin, if_pos rfl] at h
    simp only [bind_eq_ok, FailureKind.unless_eq_ok, exists_const, pure, Except.pure,
      Except.ok.injEq] at h
    obtain ⟨-, buckets, hbuckets, rfl⟩ := h
    unfold appendRealization at hbuckets
    split at hbuckets
    · obtain rfl := Except.ok.inj hbuckets
      simp [hin, periodOf]
    · simp at hbuckets

/-- The realizations of one journal join the buckets of their periods. -/
theorem collectRealizations_buckets {realizations : List PaperRealization}
    (h : realizations.foldlM (collectRealization filters granularity) c = .ok c') :
    c'.sourceStates = c.sourceStates ∧
      c'.buckets = (realizations.filter (inRange filters)).foldl
        (fun buckets r => addTo buckets (periodOf granularity r) r) c.buckets := by
  induction realizations using List.reverseRecOn generalizing c' with
  | nil =>
    obtain rfl : c = c' := Except.ok.inj h
    exact ⟨rfl, rfl⟩
  | append_singleton realizations r ih =>
    obtain ⟨mid, hmid, hlast⟩ := foldlM_concat_eq_ok.mp h
    obtain ⟨hsources, hbuckets⟩ := ih hmid
    obtain ⟨hsources', hbuckets'⟩ := collectRealization_cases hlast
    refine ⟨hsources'.trans hsources, ?_⟩
    rw [hbuckets', hbuckets, List.filter_append, List.foldl_append]

/-- **The sessions of a query**: their journals are the sources, and the realizations of the range
are collected in groups, by period. -/
theorem collectSessions_buckets {ids : List Sha256}
    (h : ids.foldlM (collectSession ctx encodings repository filters granularity) c = .ok c')
    (hc : c.buckets = grouped (periodOf granularity) starts seen) :
    ∃ journals realizations,
      ids.mapM (sessionJournal ctx encodings repository filters) = .ok journals ∧
      allRealizations ctx journals.reduceOption = .ok realizations ∧
      c'.sourceStates = c.sourceStates ++ journals.reduceOption.map sourceState ∧
      c'.buckets = grouped (periodOf granularity) starts
        (seen ++ realizations.filter (inRange filters)) := by
  induction ids generalizing c seen with
  | nil =>
    obtain rfl : c = c' := Except.ok.inj h
    exact ⟨[], [], rfl, rfl, (List.append_nil _).symm, by simpa using hc⟩
  | cons id ids ih =>
    rw [List.foldlM_cons, bind_eq_ok] at h
    obtain ⟨mid, hmid, hrest⟩ := h
    simp only [collectSession, bind_eq_ok] at hmid
    obtain ⟨journal, hjournal, hmid⟩ := hmid
    cases journal with
    | none =>
      obtain rfl : c = mid := Except.ok.inj hmid
      obtain ⟨journals, realizations, hjournals, hall, hsources, hbuckets⟩ := ih hrest hc
      exact ⟨none :: journals, realizations, mapM_cons_eq_ok.mpr ⟨_, _, hjournal, hjournals, rfl⟩,
        hall, hsources, hbuckets⟩
    | some journal =>
      simp only [collectJournal, bind_eq_ok, FailureKind.unless_eq_ok, exists_const] at hmid
      obtain ⟨-, first, hfirst, hmid⟩ := hmid
      obtain ⟨hsource, hgroup⟩ := collectRealizations_buckets hmid
      rw [hc, foldl_addTo] at hgroup
      obtain ⟨journals, realizations, hjournals, hall, hsources, hbuckets⟩ := ih hrest hgroup
      simp only [allRealizations, bind_eq_ok, pure, Except.pure, Except.ok.injEq] at hall
      obtain ⟨lists, hlists, rfl⟩ := hall
      refine ⟨some journal :: journals, first ++ lists.flatten,
        mapM_cons_eq_ok.mpr ⟨_, _, hjournal, hjournals, rfl⟩, ?_, ?_, ?_⟩
      · simp only [allRealizations, bind_eq_ok, pure, Except.pure, Except.ok.injEq]
        exact ⟨first :: lists, mapM_cons_eq_ok.mpr ⟨_, _, hfirst, hlists, rfl⟩, rfl⟩
      · rw [hsources, hsource, List.append_assoc]
        rfl
      · rw [hbuckets, List.filter_append, List.append_assoc]

end

/-! ### Aggregates in exact arithmetic -/

theorem sumOf_exact (amounts : List ℚ) : sumOf .exact amounts = amounts.sum :=
  List.sum_eq_foldl.symm

/-- An aggregate has the counts of realizations, the sums and the rates of another one. -/
structure Aggregate.SumsUp (a b : Aggregate) : Prop where
  realizationsCount : a.realizationsCount = b.realizationsCount
  winningRealizationsCount : a.winningRealizationsCount = b.winningRealizationsCount
  losingRealizationsCount : a.losingRealizationsCount = b.losingRealizationsCount
  breakevenRealizationsCount : a.breakevenRealizationsCount = b.breakevenRealizationsCount
  exitNotional : a.exitNotional = b.exitNotional
  releasedCostBasis : a.releasedCostBasis = b.releasedCostBasis
  realizedFees : a.realizedFees = b.realizedFees
  realizedSlippageCost : a.realizedSlippageCost = b.realizedSlippageCost
  grossProfit : a.grossProfit = b.grossProfit
  grossLoss : a.grossLoss = b.grossLoss
  realizedPnl : a.realizedPnl = b.realizedPnl
  winRatePct : a.winRatePct = b.winRatePct
  profitFactor : a.profitFactor = b.profitFactor

section

variable {key : PaperRealization → Instant} {starts : List Instant}
  {realizations : List PaperRealization} {items : List PaperPeriodMetricsBucket}

/-- Every realization wins, loses or breaks even. -/
theorem outcomes_add (realizations : List PaperRealization) :
    (realizations.countP fun r => decide (0 < r.realizedPnl)) +
        (realizations.countP fun r => decide (r.realizedPnl < 0)) +
      (realizations.countP fun r => decide (r.realizedPnl = 0)) = realizations.length := by
  induction realizations with
  | nil => rfl
  | cons r realizations ih =>
    simp only [List.countP_cons, decide_eq_true_eq, List.length_cons]
    rcases lt_trichotomy r.realizedPnl 0 with h | h | h
    · rw [if_neg h.not_gt, if_pos h, if_neg h.ne]
      omega
    · rw [if_neg h.le.not_gt, if_neg h.ge.not_gt, if_pos h]
      omega
    · rw [if_pos h, if_neg h.not_gt, if_neg h.ne']
      omega

theorem aggregate_breakeven (ctx : DecimalContext) (realizations : List PaperRealization) :
    (aggregate ctx realizations).breakevenRealizationsCount =
      realizations.countP fun r => decide (r.realizedPnl = 0) := by
  show realizations.length - _ - _ = _
  rw [← outcomes_add realizations]
  omega

/-- **A field that adds up over realizations adds up over the buckets.** -/
theorem sum_field {M : Type} [AddCommMonoid M] (hnodup : starts.Nodup)
    (hmem : ∀ r ∈ realizations, key r ∈ starts)
    (hitems : items.map PaperPeriodMetricsBucket.toAggregate =
      (grouped key starts realizations).map fun group => aggregate .exact group.2)
    (field : Aggregate → M) (hnil : field (aggregate .exact []) = 0)
    (happend : ∀ l l', field (aggregate .exact (l ++ l')) =
      field (aggregate .exact l) + field (aggregate .exact l')) :
    (items.map fun b => field b.toAggregate).sum = field (aggregate .exact realizations) := by
  rw [← additive_grouped hnodup hmem (F := fun l => field (aggregate .exact l)) hnil happend]
  have hfields := congrArg (List.map field) hitems
  rw [List.map_map, List.map_map] at hfields
  exact congrArg List.sum hfields

/-- **The totals of the buckets** sum up the realizations of all of them. -/
theorem totalsAggregate_sumsUp (hnodup : starts.Nodup) (hmem : ∀ r ∈ realizations, key r ∈ starts)
    (hitems : items.map PaperPeriodMetricsBucket.toAggregate =
      (grouped key starts realizations).map fun group => aggregate .exact group.2)
    (sources : List PaperPeriodSourceState) :
    (totalsAggregate .exact items sources).SumsUp (aggregate .exact realizations) := by
  have hcount := sum_field hnodup hmem hitems Aggregate.realizationsCount rfl
    fun l l' => List.length_append
  have hwinning := sum_field hnodup hmem hitems Aggregate.winningRealizationsCount rfl
    fun l l' => List.countP_append
  have hlosing := sum_field hnodup hmem hitems Aggregate.losingRealizationsCount rfl
    fun l l' => List.countP_append
  have hbreakeven := sum_field hnodup hmem hitems Aggregate.breakevenRealizationsCount rfl
    fun l l' => by simp only [aggregate_breakeven, List.countP_append]
  have hnotional := sum_field hnodup hmem hitems Aggregate.exitNotional rfl
    fun l l' => by simp [aggregate, sumOf_exact]
  have hbasis := sum_field hnodup hmem hitems Aggregate.releasedCostBasis rfl
    fun l l' => by simp [aggregate, sumOf_exact]
  have hfees := sum_field hnodup hmem hitems Aggregate.realizedFees rfl
    fun l l' => by simp [aggregate, sumOf_exact]
  have hslippage := sum_field hnodup hmem hitems Aggregate.realizedSlippageCost rfl
    fun l l' => by simp [aggregate, sumOf_exact]
  have hprofit := sum_field hnodup hmem hitems Aggregate.grossProfit rfl
    fun l l' => by simp [aggregate, sumOf_exact]
  have hloss := sum_field hnodup hmem hitems Aggregate.grossLoss rfl
    fun l l' => by simp [aggregate, sumOf_exact]
  rw [← sumOf_exact] at hnotional hbasis hfees hslippage hprofit hloss
  refine ⟨hcount, hwinning, hlosing, hbreakeven, hnotional, hbasis, hfees, hslippage, hprofit,
    hloss, ?_, ?_, ?_⟩
  · exact congrArg₂ DecimalContext.exact.add hprofit hloss
  · exact congrArg₂ (winRate .exact) hwinning hcount
  · exact congrArg₂ (factorOf .exact) hprofit hloss

end

/-! ### Buckets of consecutive periods -/

/-- The event time lies in the half-open interval of a bucket. -/
def PaperPeriodMetricsBucket.holds (b : PaperPeriodMetricsBucket) (t : Instant) : Bool :=
  decide (b.periodStart ≤ t) && decide (t < b.periodEnd)

/-- Buckets cut the range of a query into consecutive calendar periods: they start at strictly
increasing instants, each one ends where the next one starts, the first one starts and the last one
ends with the range, the lookup by the start of the calendar period of an instant of the range finds
a bucket that holds it, and an instant is held by one bucket when it is in the range, by none
otherwise. -/
structure CutsRange (filters : PaperPeriodMetricsFilter) (granularity : PaperPeriodGranularity)
    (items : List PaperPeriodMetricsBucket) : Prop where
  increasing : (items.map fun b => b.periodStart).Pairwise (· < ·)
  contiguous : items.IsChain fun left right => left.periodEnd = right.periodStart
  first : items.head?.map (fun b => b.periodStart) = some filters.periodFrom
  last : items.getLast?.map (fun b => b.periodEnd) = some filters.periodBefore
  lookup : ∀ t, filters.periodFrom ≤ t → t < filters.periodBefore →
    ∃ b ∈ items, b.periodStart = calendarPeriodStart t granularity ∧ b.holds t = true
  once : ∀ t, (items.countP fun b => b.holds t) =
    if filters.periodFrom ≤ t ∧ t < filters.periodBefore then 1 else 0

section

variable {ctx : DecimalContext} {filters : PaperPeriodMetricsFilter}
  {granularity : PaperPeriodGranularity} {items : List PaperPeriodMetricsBucket}
  {realizations : List PaperRealization} {i : ℤ} {n : ℕ}

/-- A bucket aggregates the realizations of its period. -/
theorem periodBucket_eq_ok {bucket : Instant × List PaperRealization}
    {b : PaperPeriodMetricsBucket} (h : periodBucket ctx filters granularity bucket = .ok b) :
    calendarPeriodEnd bucket.1 granularity = .ok b.periodEnd ∧ b.periodStart = bucket.1 ∧
      b.toAggregate = aggregate ctx bucket.2 := by
  simp only [periodBucket, bucketOf, PaperPeriodMetricsBucket.validate, bind_eq_ok, exists_const,
    pure, Except.pure, Except.ok.injEq] at h
  obtain ⟨stop, hstop, -, -, -, -, rfl⟩ := h
  exact ⟨hstop, rfl, rfl⟩

/-- The two ends of a bucket. -/
def PaperPeriodMetricsBucket.ends (b : PaperPeriodMetricsBucket) : Instant × Instant :=
  (b.periodStart, b.periodEnd)

/-- **Buckets whose ends are those of consecutive slots** cut the range from the first to the last
of these. -/
theorem cutsRange_of_intervals (hn : 0 < n)
    (hfrom : filters.periodFrom = granularity.slots.start i)
    (hbefore : filters.periodBefore = granularity.slots.start (i + n))
    (hends : items.map PaperPeriodMetricsBucket.ends = granularity.slots.intervals i n) :
    CutsRange filters granularity items := by
  have hstarts : (items.map fun b => b.periodStart) = granularity.slots.starts i n := by
    rw [← Slots.map_fst_intervals, ← hends, List.map_map]
    rfl
  have honce : ∀ t, (items.countP fun b => b.holds t) =
      if filters.periodFrom ≤ t ∧ t < filters.periodBefore then 1 else 0 := by
    intro t
    rw [hfrom, hbefore, ← Slots.countP_intervals_eq, ← hends, List.countP_map]
    rfl
  refine ⟨hstarts ▸ Slots.pairwise_starts _ i n, ?_, ?_, ?_, ?_, honce⟩
  · have hchain := granularity.slots.isChain_intervals i n
    rwa [← hends, List.isChain_map] at hchain
  · rw [hfrom, ← Slots.head?_intervals _ i hn, ← hends, List.head?_map, Option.map_map]
    rfl
  · rw [hbefore, ← Slots.getLast?_intervals _ i hn, ← hends, List.getLast?_map, Option.map_map]
    rfl
  · intro t ht ht'
    -- the bucket that holds the instant is the one that starts with its calendar period
    have hone := honce t
    rw [if_pos ⟨ht, ht'⟩] at hone
    obtain ⟨b, hb, hholds⟩ := List.countP_pos_iff.mp (by omega : 0 < items.countP fun b => b.holds t)
    refine ⟨b, hb, ?_, hholds⟩
    have hslot : b.ends ∈ granularity.slots.intervals i n := hends ▸ List.mem_map_of_mem hb
    obtain ⟨m, -, hm⟩ := List.mem_map.mp hslot
    obtain ⟨hs, he⟩ := Prod.ext_iff.mp hm
    simp only [PaperPeriodMetricsBucket.holds, Bool.and_eq_true, decide_eq_true_eq] at hholds
    rw [calendarPeriodStart_eq, show b.periodStart = _ from hs.symm, eq_comm,
      Slots.floor_eq_start_iff]
    exact ⟨hs.trans_le hholds.1, hholds.2.trans_eq he.symm⟩

/-- **The buckets of a query**: their ends are those of the slots of its range, and they aggregate
the groups of the realizations. -/
theorem items_of_mapM
    (h : (grouped (periodOf granularity) (granularity.slots.starts i n) realizations).mapM
      (periodBucket ctx filters granularity) = .ok items) :
    items.map PaperPeriodMetricsBucket.ends = granularity.slots.intervals i n ∧
      items.map PaperPeriodMetricsBucket.toAggregate =
        (grouped (periodOf granularity) (granularity.slots.starts i n) realizations).map
          fun group => aggregate ctx group.2 := by
  have hall := forall₂_of_mapM h
  refine ⟨?_, (map_eq_of_forall₂ hall fun group b hb => (periodBucket_eq_ok hb).2.2.symm).symm⟩
  rw [grouped, Slots.starts, List.map_map, List.forall₂_map_left_iff] at hall
  refine (map_eq_of_forall₂ hall fun m b hb => ?_).symm
  obtain ⟨hend, hstart, -⟩ := periodBucket_eq_ok hb
  have hnext := (calendarPeriodEnd_start granularity (i + m)).symm.trans hend
  exact Prod.ext hstart.symm (Except.ok.inj hnext)

/-- A bucket of a query aggregates the realizations of the query that it holds. -/
theorem bucket_of_mapM {b : PaperPeriodMetricsBucket} (hb : b ∈ items)
    (hfrom : filters.periodFrom = granularity.slots.start i)
    (hbefore : filters.periodBefore = granularity.slots.start (i + n))
    (h : (grouped (periodOf granularity) (granularity.slots.starts i n)
      (realizations.filter (inRange filters))).mapM (periodBucket ctx filters granularity) =
        .ok items) :
    b.toAggregate = aggregate ctx (realizations.filter fun r => b.holds r.eventTime) := by
  obtain ⟨group, hgroup, hbucket⟩ := mem_of_mapM h hb
  obtain ⟨start, hstart, rfl⟩ := List.mem_map.mp hgroup
  obtain ⟨k, hi, hn, rfl⟩ := Slots.mem_starts _ |>.mp hstart
  obtain ⟨hend, hfirst, haggregate⟩ := periodBucket_eq_ok hbucket
  have hnext := Except.ok.inj ((calendarPeriodEnd_start granularity k).symm.trans hend)
  rw [haggregate, List.filter_filter]
  refine congrArg (aggregate ctx) (List.filter_congr fun r _ => ?_)
  rw [Bool.eq_iff_iff]
  simp only [periodOf, calendarPeriodStart_eq, PaperPeriodMetricsBucket.holds, inRange,
    Bool.and_eq_true, decide_eq_true_eq, hfirst, ← hnext, Slots.floor_eq_start_iff, hfrom, hbefore]
  refine ⟨fun hr => hr.1, fun hr => ⟨hr, ?_⟩⟩
  -- the slot lies in the range
  refine Slots.between_of_floor_mem _ (Slots.mem_starts _ |>.mpr ⟨k, hi, hn, ?_⟩)
  exact (Slots.floor_eq_start_iff _).mpr hr

end

/-! ### The series of a query -/

section

variable {digests : SeriesDigests} {encodings : Encodings} {repository : PaperTradingRepository}
  {filters : PaperPeriodMetricsFilter} {granularity : PaperPeriodGranularity}
  {series : PaperPeriodMetricsSeries}

theorem totalsOf_eq_ok {ctx : DecimalContext} {items : List PaperPeriodMetricsBucket}
    {sources : List PaperPeriodSourceState} {t : PaperPeriodMetricsTotals}
    (h : totalsOf ctx items sources = .ok t) :
    t.toAggregate = totalsAggregate ctx items sources := by
  unfold totalsOf at h
  split at h
  · simp at h
  · simp only [PaperPeriodMetricsTotals.validate, bind_eq_ok, exists_const, pure, Except.pure,
      Except.ok.injEq] at h
    obtain ⟨-, -, -, -, rfl⟩ := h
    rfl

theorem series_validate_eq_ok {ctx : DecimalContext} {s : PaperPeriodMetricsSeries}
    (h : s.validate ctx digests = .ok series) : series = s := by
  simp only [PaperPeriodMetricsSeries.validate, bind_eq_ok, exists_const, pure, Except.pure,
    Except.ok.injEq] at h
  grind

/-- What a series is made of. -/
structure Built (ctx : DecimalContext) (encodings : Encodings) (repository : PaperTradingRepository)
    (filters : PaperPeriodMetricsFilter) (granularity : PaperPeriodGranularity)
    (series : PaperPeriodMetricsSeries) (journals : List PaperTradeJournal)
    (realizations : List PaperRealization) : Prop where
  selected : selectedJournals ctx encodings repository filters = .ok journals
  collected : allRealizations ctx journals = .ok realizations
  sources : series.sourceStates = sortSources (journals.map sourceState)
  totals : series.totals.toAggregate = totalsAggregate ctx series.items series.sourceStates
  items : ∃ (i : ℤ) (n : ℕ), 0 < n ∧ filters.periodFrom = granularity.slots.start i ∧
    filters.periodBefore = granularity.slots.start (i + n) ∧
    (grouped (periodOf granularity) (granularity.slots.starts i n)
      (realizations.filter (inRange filters))).mapM (periodBucket ctx filters granularity) =
        .ok series.items

/-- **A series that is built.** -/
theorem buildSeries_built {ctx : DecimalContext}
    (h : buildSeries ctx digests encodings repository filters granularity = .ok series) :
    ∃ journals realizations,
      Built ctx encodings repository filters granularity series journals realizations := by
  simp only [buildSeries, bind_eq_ok] at h
  obtain ⟨u, haligned, starts, hstarts, ids, hids, c, hc, items, hitems, t, ht, hseries⟩ := h
  simp only [validateAlignedRange, bind_eq_ok, FailureKind.unless_eq_ok, exists_const,
    decide_eq_true_eq] at haligned
  obtain rfl := series_validate_eq_ok hseries
  obtain ⟨i, n, hn, -, hfrom, hbefore, rfl⟩ := periodStarts_eq_ok haligned.1 haligned.2
    filters.periodFrom_lt_periodBefore hstarts
  have hempty : ((granularity.slots.starts i n).map fun start => (start, [])) =
      grouped (periodOf granularity) (granularity.slots.starts i n) [] := grouped_nil.symm
  obtain ⟨journals, realizations, hjournals, hall, hsources, hbuckets⟩ :=
    collectSessions_buckets hc hempty
  refine ⟨journals.reduceOption, realizations, ?_, hall, congrArg sortSources hsources,
    totalsOf_eq_ok ht, i, n, hn, hfrom, hbefore, ?_⟩
  · simp only [selectedJournals, bind_eq_ok, pure, Except.pure, Except.ok.injEq]
    exact ⟨ids, hids, journals, hjournals, rfl⟩
  · rw [hbuckets, List.nil_append] at hitems
    exact hitems

section

variable {journals : List PaperTradeJournal} {realizations : List PaperRealization}

theorem Built.cutsRange {ctx : DecimalContext}
    (h : Built ctx encodings repository filters granularity series journals realizations) :
    CutsRange filters granularity series.items := by
  obtain ⟨i, n, hn, hfrom, hbefore, hitems⟩ := h.items
  exact cutsRange_of_intervals hn hfrom hbefore (items_of_mapM hitems).1

theorem Built.bucket {ctx : DecimalContext}
    (h : Built ctx encodings repository filters granularity series journals realizations)
    {b : PaperPeriodMetricsBucket} (hb : b ∈ series.items) :
    b.toAggregate = aggregate ctx (realizations.filter fun r => b.holds r.eventTime) := by
  obtain ⟨i, n, -, hfrom, hbefore, hitems⟩ := h.items
  exact bucket_of_mapM hb hfrom hbefore hitems

/-- **The totals of a series** are those of one aggregate. -/
theorem Built.sumsUp
    (h : Built .exact encodings repository filters granularity series journals realizations) :
    series.totals.SumsUp (aggregate .exact (realizations.filter (inRange filters))) := by
  obtain ⟨i, n, -, hfrom, hbefore, hitems⟩ := h.items
  rw [h.totals]
  refine totalsAggregate_sumsUp (Slots.nodup_starts _ i n) (fun r hr => ?_) (items_of_mapM hitems).2 _
  have hin := (List.mem_filter.mp hr).2
  simp only [inRange, Bool.and_eq_true, decide_eq_true_eq, hfrom, hbefore] at hin
  rw [periodOf, calendarPeriodStart_eq]
  exact Slots.floor_mem_starts _ hin.1 hin.2

/-- They count the sources of the series, whatever they realized. -/
theorem Built.sessionsCount {ctx : DecimalContext}
    (h : Built ctx encodings repository filters granularity series journals realizations) :
    series.totals.sessionsCount = journals.length ∧
      series.totals.symbolsCount =
        (journals.map fun j => (j.pair.base, j.pair.quote)).dedup.length := by
  have hperm : (series.sourceStates).Perm (journals.map sourceState) :=
    h.sources ▸ List.perm_insertionSort _ _
  rw [h.totals]
  refine ⟨hperm.length_eq.trans (List.length_map _), ?_⟩
  refine ((hperm.map fun s => (s.baseAsset, s.quoteAsset)).dedup.length_eq).trans ?_
  rw [List.map_map]
  rfl

/-- **They do not depend on the granularity.** -/
theorem Built.totals_eq {granularity' : PaperPeriodGranularity} {series' : PaperPeriodMetricsSeries}
    {journals' : List PaperTradeJournal} {realizations' : List PaperRealization}
    (h : Built .exact encodings repository filters granularity series journals realizations)
    (h' : Built .exact encodings repository filters granularity' series' journals' realizations') :
    series'.totals.toAggregate = series.totals.toAggregate := by
  obtain rfl := Except.ok.inj (h.selected.symm.trans h'.selected)
  obtain rfl := Except.ok.inj (h.collected.symm.trans h'.collected)
  obtain ⟨hsessions, hsymbols⟩ := h.sessionsCount
  obtain ⟨hsessions', hsymbols'⟩ := h'.sessionsCount
  have hsum := h.sumsUp
  have hsum' := h'.sumsUp
  ext1
  · exact hsum'.realizationsCount.trans hsum.realizationsCount.symm
  · exact hsum'.winningRealizationsCount.trans hsum.winningRealizationsCount.symm
  · exact hsum'.losingRealizationsCount.trans hsum.losingRealizationsCount.symm
  · exact hsum'.breakevenRealizationsCount.trans hsum.breakevenRealizationsCount.symm
  · exact hsessions'.trans hsessions.symm
  · exact hsymbols'.trans hsymbols.symm
  · exact hsum'.exitNotional.trans hsum.exitNotional.symm
  · exact hsum'.releasedCostBasis.trans hsum.releasedCostBasis.symm
  · exact hsum'.realizedFees.trans hsum.realizedFees.symm
  · exact hsum'.realizedSlippageCost.trans hsum.realizedSlippageCost.symm
  · exact hsum'.grossProfit.trans hsum.grossProfit.symm
  · exact hsum'.grossLoss.trans hsum.grossLoss.symm
  · exact hsum'.realizedPnl.trans hsum.realizedPnl.symm
  · exact hsum'.winRatePct.trans hsum.winRatePct.symm
  · exact hsum'.profitFactor.trans hsum.profitFactor.symm

end

/-- **A series sums up the realizations of its query.**  In exact arithmetic, the buckets of a series
that is built are consecutive periods that cover its range, every one aggregates the realizations that
it holds, and the totals have the counts, the sums and the rates of one aggregate over the
realizations of the range.  The sessions and the symbols of the totals are those of the journals read,
and another granularity gives the same totals, except for the numbers of periods. -/
theorem buildSeries_sumsUp
    (h : buildSeries .exact digests encodings repository filters granularity = .ok series) :
    ∃ journals realizations,
      selectedJournals .exact encodings repository filters = .ok journals ∧
      allRealizations .exact journals = .ok realizations ∧
      CutsRange filters granularity series.items ∧
      (∀ b ∈ series.items, b.toAggregate =
        aggregate .exact (realizations.filter fun r => b.holds r.eventTime)) ∧
      series.totals.SumsUp (aggregate .exact (realizations.filter (inRange filters))) ∧
      series.totals.sessionsCount = journals.length ∧
      series.totals.symbolsCount =
        (journals.map fun j => (j.pair.base, j.pair.quote)).dedup.length ∧
      ∀ granularity' series',
        buildSeries .exact digests encodings repository filters granularity' = .ok series' →
          series'.totals.toAggregate = series.totals.toAggregate := by
  obtain ⟨journals, realizations, hbuilt⟩ := buildSeries_built h
  obtain ⟨hsessions, hsymbols⟩ := hbuilt.sessionsCount
  refine ⟨journals, realizations, hbuilt.selected, hbuilt.collected, hbuilt.cutsRange,
    fun b hb => hbuilt.bucket hb, hbuilt.sumsUp, hsessions, hsymbols, ?_⟩
  intro granularity' series' h'
  obtain ⟨journals', realizations', hbuilt'⟩ := buildSeries_built h'
  exact hbuilt.totals_eq hbuilt'

end

/-! ### A session with one realization -/

def sampleDigests : SeriesDigests := ⟨fun _ _ => zeroDigest, fun _ _ _ _ _ _ => zeroDigest⟩

/-- One stored session, of the ladder. -/
def ladderRepository (state : PaperSessionState) : PaperTradingRepository where
  listSessionIds := .ok [zeroDigest]
  loadConfig := fun _ => .ok ladderConfig
  loadState := fun _ => .ok (some state)
  verify := fun _ _ => .ok ()

/-- The first days from the epoch. -/
def firstDaysQuery (days : ℕ) (h : 0 < days) : PaperPeriodMetricsFilter where
  quoteAsset := "USDT"
  periodFrom := 0
  periodBefore := days * Instant.microsecondsPerDay
  sessionId := none
  baseAsset := none
  timeframeCode := none
  strategyName := none
  strategyVersion := none
  quoteAsset_valid := isAsset_usdt
  baseAsset_valid := by simp
  timeframeCode_safe := by simp
  strategyName_safe := by simp
  strategyVersion_safe := by simp
  periodFrom_lt_periodBefore := Instant.days_pos h

/-- The series of the days of a session whose unit is stopped out on the third day. -/
def fallSeries (days : ℕ) (h : 0 < days) :
    Except Failure (PaperSessionState × PaperPeriodMetricsSeries × List PaperRealization) := do
  let state ← fallingState [buyOneUnit]
  let series ← buildSeries .exact sampleDigests sampleEncodings (ladderRepository state)
    (firstDaysQuery days h) .daily
  let journals ← selectedJournals .exact sampleEncodings (ladderRepository state) (firstDaysQuery days h)
  let realizations ← allRealizations .exact journals
  return (state, series, realizations)

theorem fallSeries_eq_ok {days : ℕ} {h : 0 < days} {state : PaperSessionState}
    {series : PaperPeriodMetricsSeries} {realizations : List PaperRealization}
    (hseries : fallSeries days h = .ok (state, series, realizations)) :
    fallingState [buyOneUnit] = .ok state ∧
      buildSeries .exact sampleDigests sampleEncodings (ladderRepository state) (firstDaysQuery days h)
        .daily = .ok series ∧
      ∃ journals,
        selectedJournals .exact sampleEncodings (ladderRepository state) (firstDaysQuery days h) =
          .ok journals ∧
        allRealizations .exact journals = .ok realizations := by
  simp only [fallSeries, bind_eq_ok, pure, Except.pure, Except.ok.injEq, Prod.mk.injEq] at hseries
  obtain ⟨_, hstate, _, hbuilt, journals, hjournals, _, hall, rfl, rfl, rfl⟩ := hseries
  exact ⟨hstate, hbuilt, journals, hjournals, hall⟩

/-- The realization of the third day is summed up with the two days before it. -/
theorem buildSeries_sumsUp_fall : ∃ state series,
    fallingState [buyOneUnit] = .ok state ∧
      buildSeries .exact sampleDigests sampleEncodings (ladderRepository state)
        (firstDaysQuery 3 (by decide)) .daily = .ok series ∧
      ∃ realizations : List PaperRealization, realizations.length = 1 ∧
        series.totals.SumsUp
          (aggregate .exact (realizations.filter (inRange (firstDaysQuery 3 (by decide))))) := by
  have hrun : (fallSeries 3 (by decide)).map (fun answer => decide (answer.2.2.length = 1)) =
      .ok true := by decide +kernel
  obtain ⟨⟨state, series, realizations⟩, hseries, hone⟩ := exists_of_map_eq_true hrun
  obtain ⟨hstate, hbuilt, journals, hjournals, hall⟩ := fallSeries_eq_ok hseries
  obtain ⟨journals', realizations', hjournals', hall', -, -, hsum, -⟩ := buildSeries_sumsUp hbuilt
  obtain rfl := Except.ok.inj (hjournals.symm.trans hjournals')
  obtain rfl := Except.ok.inj (hall.symm.trans hall')
  exact ⟨state, series, hstate, hbuilt, realizations, of_decide_eq_true hone, hsum⟩

/-- **A session that realized nothing in the range is counted**: over the first two days the totals
have one session, and the aggregate of their realizations has none. -/
theorem totals_count_idle_session : ∃ state series journals realizations,
    fallingState [buyOneUnit] = .ok state ∧
      buildSeries .exact sampleDigests sampleEncodings (ladderRepository state)
        (firstDaysQuery 2 (by decide)) .daily = .ok series ∧
      selectedJournals .exact sampleEncodings (ladderRepository state) (firstDaysQuery 2 (by decide)) =
        .ok journals ∧
      allRealizations .exact journals = .ok realizations ∧
      series.totals.sessionsCount = 1 ∧
      (aggregate .exact
        (realizations.filter (inRange (firstDaysQuery 2 (by decide))))).sessionsCount = 0 := by
  have hrun : (fallSeries 2 (by decide)).map (fun answer =>
      decide (answer.2.1.totals.sessionsCount = 1 ∧
        (aggregate .exact
          (answer.2.2.filter (inRange (firstDaysQuery 2 (by decide))))).sessionsCount = 0)) =
      .ok true := by decide +kernel
  obtain ⟨⟨state, series, realizations⟩, hseries, hcounts⟩ := exists_of_map_eq_true hrun
  obtain ⟨hstate, hbuilt, journals, hjournals, hall⟩ := fallSeries_eq_ok hseries
  obtain ⟨hone, hzero⟩ := of_decide_eq_true hcounts
  exact ⟨state, series, journals, realizations, hstate, hbuilt, hjournals, hall, hone, hzero⟩

end PaperTrading
end DryTrade
