import DryTrade.MarketData.QualityScan
import DryTrade.Operations.GapPlanning

/-!
# Gap accounting

The scanner counts missing candles inside partitions, across their borders and at the ends of
the range; the planner walks the range slot by slot.  Both find the same number, because the
gaps of a strictly increasing list of aligned instants, counted between neighbours, telescope.

## Main definitions

* `Scanned` — what the baseline of a partition says of the open times in it.
* `CandleFamily` — consecutive monthly partitions of aligned candles of a range.

## Main results

* `scanRawPartition_scanned` — the scan of a partition.
* `globalCoverage_spec` — the coverage of all of them.
* `gap_accounting` — the counts add up, and agree with the gap ranges of the planner.
-/

namespace DryTrade
namespace MarketData

open Operations

/-! ### One partition -/

/-- What a gap before `t` adds, together with `t` itself. -/
theorem gap_step {d p t : ℤ} (hd : 0 < d) (hlt : p < t) (hdvd : d ∣ t - p) (g : ℤ) :
    d * ((if p + d < t then g + ((t - p) / d - 1) else g) + 1) = d * g + (t - p) := by
  obtain ⟨k, hk⟩ := hdvd
  have hquot : (t - p) / d = k := by rw [hk, Int.mul_ediv_cancel_left _ hd.ne']
  have hk1 : 1 ≤ k := by
    by_contra hlt'
    have hle : d * k ≤ 0 := mul_nonpos_of_nonneg_of_nonpos hd.le (by omega)
    omega
  split_ifs with hgap
  · rw [hquot, hk]
    ring
  · have hone : k = 1 := by
      by_contra hne
      have htwo : d * 2 ≤ d * k := mul_le_mul_of_nonneg_left (by omega) hd.le
      omega
    rw [hk, hone]
    ring

section

variable {tf : Timeframe}

/-- Counting the gaps after an instant. -/
theorem foldl_gapCountTurn {p g : ℤ} {rows : List Candle}
    (hsorted : (p :: rows.map (·.openTime)).Pairwise (· < ·))
    (hdvd : ∀ c ∈ rows, tf.duration ∣ c.openTime - p) :
    tf.duration * ((rows.foldl (gapCountTurn tf) (g, some p)).1 + rows.length) =
      tf.duration * g + ((rows.map (·.openTime)).getLastD p - p) := by
  induction rows generalizing p g with
  | nil => simp
  | cons c rows ih =>
    rw [List.map_cons] at hsorted
    obtain ⟨hp, hrest⟩ := List.pairwise_cons.mp hsorted
    have hlt : p < c.openTime := hp _ List.mem_cons_self
    have hc := hdvd c List.mem_cons_self
    have htail := ih (p := c.openTime)
      (g := if p + tf.duration < c.openTime then g + ((c.openTime - p) / tf.duration - 1) else g)
      hrest fun c' hc' => by
        have := dvd_sub (hdvd c' (List.mem_cons_of_mem c hc')) hc
        rwa [sub_sub_sub_cancel_right] at this
    have hstep := gap_step tf.duration_pos hlt hc g
    have hturn : gapCountTurn tf (g, some p) c = (if p + tf.duration < c.openTime then
      g + ((c.openTime - p) / tf.duration - 1) else g, some c.openTime) := rfl
    rw [List.foldl_cons, List.length_cons, List.map_cons, List.getLastD_cons, hturn]
    push_cast
    linarith

/-- Aligned candles pass through the validator. -/
theorem validateRows_eq_ok (now : Instant) (seen : List Instant) (previous : Option Candle)
    {rows : List Candle} (hprevious : ∀ p ∈ previous, tf.validateOpenTime p.openTime = true)
    (h : ∀ c ∈ rows, tf.validateOpenTime c.openTime = true) :
    ∃ issues, validateRows tf now seen previous rows = .ok issues := by
  induction rows generalizing seen previous with
  | nil => exact ⟨[], rfl⟩
  | cons c rows ih =>
    obtain ⟨rest, hrest⟩ := ih (c.openTime :: seen) (some c)
      (fun p hp => Option.some.inj hp ▸ h c List.mem_cons_self)
      fun c' hc' => h c' (List.mem_cons_of_mem c hc')
    cases previous with
    | none =>
      exact ⟨_, by simp only [validateRows, hrest, ok_bind]; rfl⟩
    | some p =>
      have hnext : tf.nextOpenTime p.openTime = .ok (p.openTime + tf.duration) := by
        unfold Timeframe.nextOpenTime
        rw [hprevious p rfl]
        rfl
      exact ⟨_, by simp only [validateRows, intervalIssues, hnext, hrest, ok_bind, pure,
        Except.pure]; rfl⟩

variable {Digest : Type} {scanner : QualityScanner Digest}

/-- What the baseline of a partition says of the open times in it. -/
structure Scanned (duration : ℤ) (item : QualityPartitionBaseline Digest) (times : List ℤ) :
    Prop where
  count : item.summary.candleCount = times.length
  first : item.summary.firstOpenTime = times.head?
  last : item.summary.lastOpenTime = times.getLast?
  gaps_nil : times = [] → item.internalGapCount = 0
  span : ∀ t ts, times = t :: ts →
    duration * (item.internalGapCount + times.length) = ts.getLastD t - t + duration

/-- **The scan of a partition** whose rows are aligned and increase. -/
theorem scanRawPartition_scanned {plan : QualityScanPlan} {file : PartitionFile Digest}
    {rows : List Candle} (hschema : file.schemaValid = true) (hcontent : file.content = .ok rows)
    (hplan : selectRows plan rows = rows)
    (haligned : ∀ c ∈ rows, tf.validateOpenTime c.openTime = true)
    (hsorted : (rows.map (·.openTime)).Pairwise (· < ·)) :
    ∃ item report, scanRawPartition scanner plan tf file = .ok (item, report) ∧
      item.summary.month = file.month ∧ Scanned tf.duration item (rows.map (·.openTime)) := by
  obtain ⟨report, hreport⟩ := validateRows_eq_ok scanner.now [] none
    (fun p hp => by cases hp) haligned
  unfold scanRawPartition
  rw [hschema, hcontent]
  simp only [Bool.true_eq_false, if_false, hplan, hreport, ok_bind, pure, Except.pure]
  refine ⟨_, report, rfl, rfl, ?_⟩
  constructor
  · simp
  · simp
  · simp
  · intro hnil
    rw [List.map_eq_nil_iff] at hnil
    subst hnil
    rfl
  · intro t ts heq
    cases rows with
    | nil => cases heq
    | cons c rows =>
      obtain ⟨rfl, rfl⟩ := List.cons.inj heq
      have hdvd : ∀ c' ∈ rows, tf.duration ∣ c'.openTime - c.openTime := fun c' hc' => by
        have h := haligned c' (List.mem_cons_of_mem c hc')
        have h₀ := haligned c List.mem_cons_self
        simp only [Timeframe.validateOpenTime, beq_iff_eq] at h h₀
        have hsub := dvd_sub (Int.dvd_of_emod_eq_zero h) (Int.dvd_of_emod_eq_zero h₀)
        rwa [sub_sub_sub_cancel_right] at hsub
      have hcount := foldl_gapCountTurn (g := 0) hsorted hdvd
      have hfirst : (c :: rows).foldl (gapCountTurn tf) (0, none) =
        rows.foldl (gapCountTurn tf) (0, some c.openTime) := rfl
      dsimp only
      rw [hfirst, List.map_cons, List.length_cons, List.length_map]
      push_cast
      linarith

end

/-! ### All of them -/

section

variable {Digest : Type} {d : ℤ} {parts : List (QualityPartitionBaseline Digest)}
  {times : List (List ℤ)}

/-- The partitions with candles. -/
def nonemptyParts (parts : List (QualityPartitionBaseline Digest)) :
    List (QualityPartitionBaseline Digest) :=
  parts.filter fun item => item.summary.candleCount != 0

theorem nonemptyParts_cons {item : QualityPartitionBaseline Digest} {ts : List ℤ}
    (h : Scanned d item ts) :
    nonemptyParts (item :: parts) = if ts = [] then nonemptyParts parts
      else item :: nonemptyParts parts := by
  unfold nonemptyParts
  rw [List.filter_cons, h.count]
  cases ts <;> simp

/-- The first candle of all. -/
theorem head?_nonemptyParts (h : List.Forall₂ (Scanned d) parts times) :
    ((nonemptyParts parts).head?.mapM fun item => requiredDatetime item.summary.firstOpenTime) =
      .ok times.flatten.head? := by
  induction h with
  | nil => rfl
  | @cons item ts parts times hitem _ ih =>
    rw [nonemptyParts_cons hitem, List.flatten_cons]
    cases ts with
    | nil =>
      rw [if_pos rfl]
      exact ih
    | cons t ts =>
      rw [if_neg (List.cons_ne_nil t ts), List.head?_cons, Option.mapM_some, hitem.first]
      rfl

/-- The last candle of all. -/
theorem getLast?_nonemptyParts (h : List.Forall₂ (Scanned d) parts times) :
    ((nonemptyParts parts).getLast?.mapM fun item => requiredDatetime item.summary.lastOpenTime) =
      .ok times.flatten.getLast? := by
  induction h with
  | nil => rfl
  | @cons item ts parts times hitem _ ih =>
    rw [nonemptyParts_cons hitem, List.flatten_cons, List.getLast?_append]
    cases ts with
    | nil =>
      rw [if_pos rfl, ih]
      simp
    | cons t ts =>
      rw [if_neg (List.cons_ne_nil t ts), List.getLast?_cons, Option.mapM_some]
      cases hlast : (nonemptyParts parts).getLast? with
      | none =>
        rw [hlast] at ih
        have hnone : times.flatten.getLast? = none := (Except.ok.inj ih).symm
        rw [hnone, Option.none_or, Option.getD_none, hitem.last, List.getLast?_cons]
        rfl
      | some item' =>
        rw [hlast, Option.mapM_some] at ih
        rw [Option.getD_some, ih]
        cases hflat : times.flatten.getLast? with
        | none =>
          rw [hflat] at ih
          simp only [Functor.map, Except.map] at ih
          split at ih <;> cases ih
        | some t' => rfl

/-- A turn of the loop at a partition that holds candles. -/
theorem coverageTurn_eq {item : QualityPartitionBaseline Digest} {t : ℤ} {ts : List ℤ}
    (h : Scanned d item (t :: ts)) (g : ℤ) (issues : List AdvancedQualityIssue)
    (previous : Option ℤ) :
    ∃ issues', coverageTurn d (g, issues, previous) item = .ok
      ((match previous with
        | none => g
        | some p => if p + d < t then g + ((t - p) / d - 1) else g), issues',
        some (ts.getLastD t)) := by
  have hlast : item.summary.lastOpenTime = some (ts.getLastD t) := by
    rw [h.last, List.getLast?_cons, List.getLastD_eq_getLast?]
  unfold coverageTurn
  rw [h.first, hlast]
  cases previous with
  | none => exact ⟨issues, rfl⟩
  | some p =>
    by_cases hgap : p + d < t
    · refine ⟨issues ++ [⟨"gap", "ERROR", .coverage, some item.summary.month, some t⟩], ?_⟩
      simp only [requiredDatetime, List.head?_cons, ok_bind, hgap, if_true]
      rfl
    · refine ⟨issues, ?_⟩
      simp only [requiredDatetime, List.head?_cons, ok_bind, hgap, if_false]
      rfl

/-- The last of some instants is one of them. -/
theorem getLastD_mem (t : ℤ) (ts : List ℤ) : ts.getLastD t ∈ t :: ts := by
  cases hts : ts.getLast? with
  | none =>
    rw [List.getLastD_eq_getLast?, hts]
    exact List.mem_cons_self
  | some q =>
    rw [List.getLastD_eq_getLast?, hts]
    exact List.mem_cons_of_mem t (List.mem_of_getLast? hts)

theorem getLastD_append (t : ℤ) (ts rest : List ℤ) :
    (ts ++ rest).getLastD t = rest.getLastD (ts.getLastD t) := by
  rw [List.getLastD_eq_getLast?, List.getLast?_append, List.getLastD_eq_getLast?,
    List.getLastD_eq_getLast?]
  cases rest.getLast? <;> rfl

/-- The last of some increasing instants is the greatest. -/
theorem le_getLastD {t : ℤ} {ts : List ℤ} (h : (t :: ts).Pairwise (· < ·)) :
    ∀ x ∈ t :: ts, x ≤ ts.getLastD t := by
  induction ts generalizing t with
  | nil => exact fun x hx => (List.mem_singleton.mp hx).le
  | cons q ts ih =>
    obtain ⟨ht, hrest⟩ := List.pairwise_cons.mp h
    intro x hx
    rw [List.getLastD_cons]
    rcases List.mem_cons.mp hx with rfl | hx
    · exact (ht q List.mem_cons_self).le.trans (ih hrest q List.mem_cons_self)
    · exact ih hrest x hx

/-- The instants that follow a first part come after its last one. -/
theorem pairwise_getLastD {t : ℤ} {ts rest : List ℤ} (h : (t :: (ts ++ rest)).Pairwise (· < ·)) :
    (ts.getLastD t :: rest).Pairwise (· < ·) := by
  rw [← List.cons_append] at h
  obtain ⟨-, hrest, hlt⟩ := List.pairwise_append.mp h
  exact List.pairwise_cons.mpr ⟨hlt _ (getLastD_mem t ts), hrest⟩

theorem dvd_sub_of_dvd {p t q : ℤ} (ht : d ∣ t - p) (hq : d ∣ q - p) : d ∣ t - q := by
  have := dvd_sub ht hq
  rwa [sub_sub_sub_cancel_right] at this

/-- The loop over the partitions, after an instant. -/
theorem foldlM_coverageTurn (hd : 0 < d) (h : List.Forall₂ (Scanned d) parts times) {p g : ℤ}
    (issues : List AdvancedQualityIssue) (hsorted : (p :: times.flatten).Pairwise (· < ·))
    (hdvd : ∀ t ∈ times.flatten, d ∣ t - p) :
    ∃ g' issues', (nonemptyParts parts).foldlM (coverageTurn d) (g, issues, some p) =
        .ok (g', issues', some (times.flatten.getLastD p)) ∧
      d * (g' - g + (parts.map (·.internalGapCount)).sum + times.flatten.length) =
        times.flatten.getLastD p - p := by
  induction h generalizing p g issues with
  | nil => exact ⟨g, issues, rfl, by simp⟩
  | @cons item ts parts times hitem _ ih =>
    rw [nonemptyParts_cons hitem, List.map_cons, List.sum_cons, List.flatten_cons] at *
    cases ts with
    | nil =>
      rw [if_pos rfl, hitem.gaps_nil rfl, zero_add]
      exact ih issues hsorted hdvd
    | cons t ts =>
      rw [if_neg (List.cons_ne_nil t ts)]
      rw [List.cons_append] at hsorted hdvd ⊢
      obtain ⟨hp, htail⟩ := List.pairwise_cons.mp hsorted
      have hlt : p < t := hp t List.mem_cons_self
      have hq : d ∣ ts.getLastD t - p := hdvd _ (by
        rw [← List.cons_append]
        exact List.mem_append_left _ (getLastD_mem t ts))
      obtain ⟨issues₁, hturn⟩ := coverageTurn_eq hitem g issues (some p)
      obtain ⟨g', issues', hrest, hcount⟩ := ih
        (g := if p + d < t then g + ((t - p) / d - 1) else g) issues₁ (pairwise_getLastD htail)
        fun t' ht' => dvd_sub_of_dvd
          (hdvd t' (List.mem_cons_of_mem t (List.mem_append_right ts ht'))) hq
      refine ⟨g', issues', ?_, ?_⟩
      · rw [List.foldlM_cons, hturn, ok_bind, List.getLastD_cons, getLastD_append]
        exact hrest
      · have hstep := gap_step hd hlt (hdvd t List.mem_cons_self) g
        have hspan := hitem.span t ts rfl
        rw [List.getLastD_cons, getLastD_append, List.length_cons, List.length_append]
        rw [List.length_cons] at hspan
        push_cast at hspan ⊢
        linarith

/-- The loop over the partitions. -/
theorem foldlM_coverageTurn_none (hd : 0 < d) (h : List.Forall₂ (Scanned d) parts times) (g : ℤ)
    (hsorted : times.flatten.Pairwise (· < ·))
    (hdvd : ∀ t ∈ times.flatten, ∀ t' ∈ times.flatten, d ∣ t' - t) :
    ∃ g' issues' previous, (nonemptyParts parts).foldlM (coverageTurn d) (g, [], none) =
        .ok (g', issues', previous) ∧
      (times.flatten = [] → g' = g ∧ (parts.map (·.internalGapCount)).sum = 0) ∧
      ∀ t ts, times.flatten = t :: ts →
        d * (g' - g + (parts.map (·.internalGapCount)).sum + times.flatten.length) =
          ts.getLastD t - t + d := by
  induction h with
  | nil => exact ⟨g, [], none, rfl, fun _ => ⟨rfl, rfl⟩, fun t ts ht => by cases ht⟩
  | @cons item ts parts times hitem hrest ih =>
    rw [nonemptyParts_cons hitem, List.map_cons, List.sum_cons, List.flatten_cons] at *
    cases ts with
    | nil =>
      rw [if_pos rfl, hitem.gaps_nil rfl, zero_add]
      exact ih hsorted hdvd
    | cons t ts =>
      rw [if_neg (List.cons_ne_nil t ts)]
      rw [List.cons_append] at hsorted hdvd ⊢
      obtain ⟨issues₁, hturn⟩ := coverageTurn_eq hitem g [] none
      obtain ⟨g', issues', hfold, hcount⟩ := foldlM_coverageTurn hd hrest (g := g)
        issues₁ (pairwise_getLastD hsorted) fun t' ht' =>
          hdvd _ (by rw [← List.cons_append]; exact List.mem_append_left _ (getLastD_mem t ts)) t'
            (List.mem_cons_of_mem t (List.mem_append_right ts ht'))
      refine ⟨g', issues', _, by rw [List.foldlM_cons, hturn, ok_bind]; exact hfold,
        fun hnil => absurd hnil (List.cons_ne_nil _ _), ?_⟩
      rintro t' ts' heq
      obtain ⟨rfl, rfl⟩ := List.cons.inj heq
      have hspan := hitem.span t ts rfl
      rw [getLastD_append, List.length_cons, List.length_append]
      rw [List.length_cons] at hspan
      push_cast at hspan ⊢
      linarith

/-- The counts of a coverage summary, for the open times of the candles in a range of `n` slots. -/
structure CoverageSummary.Counts (c : CoverageSummary) (d : ℤ) (n : ℕ) (times : List ℤ) :
    Prop where
  expected : c.expectedCount = some (n : ℤ)
  observed : c.observedCount = times.length
  first : c.firstOpenTime = times.head?
  last : c.lastOpenTime = times.getLast?
  total : (n : ℤ) = c.observedCount + c.internalGapCount + c.missingAtStart + c.missingAtEnd
  gaps_nil : times = [] → c.internalGapCount = 0
  span : ∀ t ts, times = t :: ts →
    d * (c.internalGapCount + times.length) = ts.getLastD t - t + d

theorem sum_candleCount (h : List.Forall₂ (Scanned d) parts times) :
    (parts.map fun item => (item.summary.candleCount : ℤ)).sum = times.flatten.length := by
  induction h with
  | nil => rfl
  | cons hitem _ ih =>
    rw [List.map_cons, List.sum_cons, ih, hitem.count, List.flatten_cons, List.length_append]
    push_cast
    rfl

/-- **The coverage of consecutive partitions** of an aligned range. -/
theorem globalCoverage_spec (hd : 0 < d) (h : List.Forall₂ (Scanned d) parts times) {r : DataRange}
    {n : ℕ} (hr : r.stop = r.start + n * d) (hsorted : times.flatten.Pairwise (· < ·))
    (hin : ∀ t ∈ times.flatten, r.start ≤ t ∧ t < r.stop ∧ d ∣ t - r.start) :
    ∃ coverage issues, globalCoverage parts d (some r) = .ok (coverage, issues) ∧
      coverage.Counts d n times.flatten := by
  obtain ⟨g', issues', previous, hfold, hnil, hspan⟩ := foldlM_coverageTurn_none hd h
    (parts.map (·.internalGapCount)).sum hsorted fun t ht t' ht' =>
      dvd_sub_of_dvd (hin t' ht').2.2 (hin t ht).2.2
  have hfirst := head?_nonemptyParts h
  have hlast := getLast?_nonemptyParts h
  have hn : (r.stop - r.start) / d = n := by
    rw [hr, add_sub_cancel_left, Int.mul_ediv_cancel _ hd.ne']
  unfold nonemptyParts at hfold hfirst hlast
  unfold globalCoverage
  simp only [hfirst, hlast, hfold, ok_bind, pure, Except.pure, Option.map_some, hn]
  refine ⟨_, _, rfl, rfl, sum_candleCount h, rfl, rfl, ?_, fun hflat => ?_, fun t ts hflat => ?_⟩
  · dsimp only
    rw [sum_candleCount h]
    cases hflat : times.flatten with
    | nil =>
      obtain ⟨rfl, hzero⟩ := hnil hflat
      rw [hzero]
      simp [hn]
    | cons t ts =>
      have hcount := hspan t ts hflat
      obtain ⟨hlo, -, a, ha⟩ := hin t (by rw [hflat]; exact List.mem_cons_self)
      obtain ⟨-, hhi, b, hb⟩ := hin (ts.getLastD t) (by rw [hflat]; exact getLastD_mem t ts)
      have ha0 : 0 ≤ a := by
        by_contra hneg
        have hlt : d * a < 0 := mul_neg_of_pos_of_neg hd (not_le.mp hneg)
        linarith
      have hbn : 0 ≤ (n : ℤ) - b - 1 := by
        have hlt : d * b < d * n := by rw [mul_comm d (n : ℤ)]; linarith
        have := lt_of_mul_lt_mul_left hlt hd.le
        omega
      have hstart : (t - r.start) / d = a := by rw [ha, Int.mul_ediv_cancel_left _ hd.ne']
      have hstop : (r.stop - (ts.getLastD t + d)) / d = (n : ℤ) - b - 1 := by
        rw [hr, show r.start + (n : ℤ) * d - (ts.getLastD t + d) = d * ((n : ℤ) - b - 1) by
          linarith, Int.mul_ediv_cancel_left _ hd.ne']
      rw [List.head?_cons, List.getLast?_cons, ← List.getLastD_eq_getLast?]
      dsimp only
      rw [hstart, hstop, max_eq_right ha0, max_eq_right hbn]
      rw [hflat] at hcount
      have heq : d * (g' + (t :: ts).length) = d * (b - a + 1) := by linarith
      have := mul_left_cancel₀ hd.ne' heq
      linarith
  · obtain ⟨hg, hzero⟩ := hnil hflat
    exact hg.trans hzero
  · have hcount := hspan t ts hflat
    dsimp only
    rwa [sub_add_cancel] at hcount

end

/-! ### Slots -/

section

variable {d : ℤ} {r : DataRange} {n : ℕ} {tf : Timeframe} {observed : List ℤ}

theorem length_windowStarts (hd : 0 < d) (hr : r.stop = r.start + n * d) :
    (windowStarts r d).length = n := by
  have hcount : (r.stop - r.start + (d - 1)) / d = n := by
    rw [hr, show r.start + (n : ℤ) * d - r.start + (d - 1) = d - 1 + n * d by ring,
      Int.add_mul_ediv_right _ _ hd.ne', Int.ediv_eq_zero_of_lt (by omega) (by omega), zero_add]
  simp [windowStarts, hcount]

/-- The slots of a range that hold no observed instant. -/
theorem length_missing (hd : 0 < d) (hr : r.stop = r.start + n * d)
    (hsorted : observed.Pairwise (· < ·))
    (hin : ∀ t ∈ observed, r.start ≤ t ∧ t < r.stop ∧ d ∣ t - r.start) :
    ((windowStarts r d).filter fun t => decide (t ∉ observed)).length + observed.length = n := by
  rw [length_filter_not_mem ((windowStarts_sorted hd).imp fun h => h.ne)
    (hsorted.imp fun h => h.ne) fun t ht => (mem_windowStarts hd).mpr (hin t ht),
    length_windowStarts hd hr]

theorem validateOpenTime_iff_dvd {t t₀ : ℤ} (h₀ : tf.validateOpenTime t₀ = true) :
    tf.validateOpenTime t = true ↔ tf.duration ∣ t - t₀ := by
  simp only [Timeframe.validateOpenTime, beq_iff_eq] at h₀ ⊢
  rw [← Int.dvd_iff_emod_eq_zero] at h₀ ⊢
  refine ⟨fun h => dvd_sub_of_dvd h h₀, fun h => ?_⟩
  have hadd := dvd_add h h₀
  rwa [sub_add_sub_cancel] at hadd

/-- **The gap count of a scan** is the number of aligned instants between the first and the last
candle that no candle opens at. -/
theorem internalGapCount_eq {coverage : CoverageSummary}
    (hcounts : coverage.Counts tf.duration n observed) (hsorted : observed.Pairwise (· < ·))
    (haligned : ∀ t ∈ observed, tf.validateOpenTime t = true) :
    coverage.internalGapCount = Set.ncard { t : ℤ | tf.validateOpenTime t = true ∧
      (∃ a ∈ coverage.firstOpenTime, a < t) ∧ (∃ b ∈ coverage.lastOpenTime, t < b) ∧
        t ∉ observed } := by
  have hd := tf.duration_pos
  rw [hcounts.first, hcounts.last]
  cases hobs : observed with
  | nil =>
    rw [hcounts.gaps_nil hobs]
    simp
  | cons t₀ ts =>
    rw [hobs] at hsorted haligned
    have hlast := getLastD_mem t₀ ts
    have hspan := hcounts.span t₀ ts hobs
    have h₀ := haligned t₀ List.mem_cons_self
    have hle : ∀ t ∈ t₀ :: ts, t₀ ≤ t := fun t ht => (List.mem_cons.mp ht).elim (fun h => h.ge)
      fun ht => ((List.pairwise_cons.mp hsorted).1 t ht).le
    have hle' := le_getLastD hsorted
    have hrange : t₀ < ts.getLastD t₀ + tf.duration := by linarith [hle _ hlast]
    obtain ⟨k, hk⟩ := (validateOpenTime_iff_dvd h₀).mp (haligned _ hlast)
    have hk0 : 0 ≤ k := by
      by_contra hneg
      have hlt : tf.duration * k < 0 := mul_neg_of_pos_of_neg hd (not_le.mp hneg)
      linarith [hle _ hlast]
    have hmissing := length_missing (r := ⟨t₀, _, hrange⟩) (n := (k + 1).toNat) hd
      (by rw [Int.toNat_of_nonneg (by omega)]; dsimp only; linarith) hsorted fun t ht =>
        ⟨hle t ht, by linarith [hle' t ht], (validateOpenTime_iff_dvd h₀).mp (haligned t ht)⟩
    have hgap : coverage.internalGapCount =
        ((windowStarts ⟨t₀, _, hrange⟩ tf.duration).filter fun t => decide (t ∉ t₀ :: ts)).length := by
      have heq : tf.duration * (coverage.internalGapCount + observed.length) =
          tf.duration * (k + 1) := by linarith
      have hsum := mul_left_cancel₀ hd.ne' heq
      rw [hobs] at hsum
      omega
    rw [hgap, ← List.toFinset_card_of_nodup (((windowStarts_sorted hd).imp fun h => h.ne).filter _),
      ← Set.ncard_coe_finset]
    congr 2
    ext t
    simp only [List.coe_toFinset, Set.mem_ofPred_eq, List.mem_filter, decide_eq_true_eq,
      mem_windowStarts hd, validateOpenTime_iff_dvd h₀, List.head?_cons, List.getLast?_cons,
      ← List.getLastD_eq_getLast?, Option.mem_some_iff, exists_eq_left']
    constructor
    · rintro ⟨⟨hlo, hhi, hdvd⟩, hnot⟩
      refine ⟨hdvd, lt_of_le_of_ne hlo fun h => hnot (h ▸ List.mem_cons_self), ?_, hnot⟩
      -- the slot after the last candle is the end of the range
      have hne : t ≠ ts.getLastD t₀ := fun h => hnot (h ▸ hlast)
      obtain ⟨j, hj⟩ := dvd_sub_of_dvd hdvd ⟨k, hk⟩
      have hj1 : j < 1 := by
        have hlt : tf.duration * j < tf.duration * 1 := by linarith
        exact lt_of_mul_lt_mul_left hlt hd.le
      have hle0 : tf.duration * j ≤ 0 := mul_nonpos_of_nonneg_of_nonpos hd.le (by omega)
      exact lt_of_le_of_ne (by linarith) hne
    · rintro ⟨hdvd, hlo, hhi, hnot⟩
      exact ⟨⟨hlo.le, by linarith, hdvd⟩, hnot⟩

end

/-! ### The claim of both counts -/

/-- The candles of a partition that could be read. -/
def PartitionFile.candles {Digest : Type} (file : PartitionFile Digest) : List Candle :=
  match file.content with
  | .ok rows => rows
  | .error _ => []

section

variable {Digest : Type} {tf : Timeframe} {r : DataRange} {n : ℕ}
  {files : List (PartitionFile Digest)} {observed : List ℤ} {gaps : List DataRange}

/-- The open times of the candles of a family of partitions. -/
def observedTimes (files : List (PartitionFile Digest)) : List ℤ :=
  (files.map fun file => file.candles.map (·.openTime)).flatten

/-- Monthly partitions in order, each with increasing aligned candles of its month inside the
range; months without a partition and partitions without a candle are allowed. -/
structure CandleFamily (tf : Timeframe) (r : DataRange) (files : List (PartitionFile Digest)) :
    Prop where
  readable : ∀ file ∈ files, file.schemaValid = true ∧ file.content = .ok file.candles
  months : files.Pairwise fun f g => f.month < g.month
  sorted : ∀ file ∈ files, (file.candles.map (·.openTime)).Pairwise (· < ·)
  each : ∀ file ∈ files, ∀ c ∈ file.candles,
    monthOf c.openTime = file.month ∧ c.openTime ∈ alignedTimes tf r

/-- The candles of a family increase across its partitions. -/
theorem CandleFamily.observed_sorted (h : CandleFamily tf r files) :
    (observedTimes files).Pairwise (· < ·) := by
  rw [observedTimes, List.pairwise_flatten]
  refine ⟨?_, ?_⟩
  · intro times htimes
    obtain ⟨file, hfile, rfl⟩ := List.mem_map.mp htimes
    exact h.sorted file hfile
  · rw [List.pairwise_map]
    refine h.months.imp_of_mem fun {f g} hf hg hfg t ht t' ht' => ?_
    obtain ⟨c, hc, rfl⟩ := List.mem_map.mp ht
    obtain ⟨c', hc', rfl⟩ := List.mem_map.mp ht'
    by_contra hge
    have hmonth := monthOf_mono (not_lt.mp hge)
    rw [(h.each f hf c hc).1, (h.each g hg c' hc').1] at hmonth
    exact absurd hfg (not_lt.mpr hmonth)

theorem CandleFamily.mem_alignedTimes (h : CandleFamily tf r files) {t : ℤ}
    (ht : t ∈ observedTimes files) : t ∈ alignedTimes tf r := by
  obtain ⟨times, htimes, ht⟩ := List.mem_flatten.mp ht
  obtain ⟨file, hfile, rfl⟩ := List.mem_map.mp htimes
  obtain ⟨c, hc, rfl⟩ := List.mem_map.mp ht
  exact (h.each file hfile c hc).2

/-- Every partition of a family is scanned. -/
theorem CandleFamily.scan (h : CandleFamily tf r files) (scanner : QualityScanner Digest)
    {plan : QualityScanPlan} (hplan : ∀ r' ∈ plan.dataRange, r' = r) :
    ∃ results, files.mapM (scanRawPartition scanner plan tf) = .ok results ∧
      List.Forall₂ (Scanned tf.duration) (results.map (·.1))
        (files.map fun file => file.candles.map (·.openTime)) := by
  have heach : ∀ file ∈ files, ∃ result, scanRawPartition scanner plan tf file = .ok result ∧
      Scanned tf.duration result.1 (file.candles.map (·.openTime)) := fun file hfile => by
    obtain ⟨hschema, hcontent⟩ := h.readable file hfile
    have hselect : selectRows plan file.candles = file.candles := by
      refine List.filter_eq_self.mpr fun c hc => ?_
      obtain ⟨hlo, hhi, -⟩ := (h.each file hfile c hc).2
      rw [Bool.or_eq_true]
      right
      cases hr : plan.dataRange with
      | none => rfl
      | some r' => simp [hplan r' hr, DataRange.contains, hlo, hhi]
    obtain ⟨item, report, hscan, -, hscanned⟩ := scanRawPartition_scanned hschema hcontent hselect
      (fun c hc => (h.each file hfile c hc).2.2.2) (h.sorted file hfile)
    exact ⟨(item, report), hscan, hscanned⟩
  obtain ⟨results, hresults⟩ := mapM_of_forall fun file hfile =>
    (heach file hfile).imp fun result h => h.1
  refine ⟨results, hresults, ?_⟩
  rw [List.forall₂_map_left_iff, List.forall₂_map_right_iff, List.forall₂_iff_zip]
  obtain ⟨hlength, hzip⟩ := List.forall₂_iff_zip.mp (forall₂_of_mapM hresults).flip
  refine ⟨hlength, fun {result file} hmem => ?_⟩
  obtain ⟨result', hrun, hscanned⟩ := heach file (List.of_mem_zip hmem).2
  obtain rfl : result = result' := Except.ok.inj ((hzip hmem).symm.trans hrun)
  exact hscanned

/-- What the gap ranges of the planner are, for the open times of the candles in a range. -/
structure GapsOf (tf : Timeframe) (r : DataRange) (observed : List ℤ) (gaps : List DataRange) :
    Prop where
  inside : ∀ g ∈ gaps, r.start ≤ g.start ∧ g.stop ≤ r.stop ∧ tf.validateOpenTime g.start = true
  ordered : gaps.Pairwise fun a b => a.stop < b.start
  unobserved : ∀ g ∈ gaps, ∀ t ∈ alignedTimes tf g, t ∉ observed
  maximal : ∀ g ∈ gaps, ∀ g' : DataRange, tf.validateOpenTime g'.start = true →
    r.start ≤ g'.start → g'.stop ≤ r.stop → g'.start ≤ g.start → g.stop ≤ g'.stop →
      (∀ t ∈ alignedTimes tf g', t ∉ observed) → g' = g

/-- The runs of what is not observed are the gap ranges. -/
theorem gapsOf_runs (hr : expectedCandleCount r tf = .ok n)
    (hruns : IsRuns (fun t => decide (t ∉ observed)) (windowStarts r tf.duration) r.stop
      (gaps.map bounds)) : GapsOf tf r observed gaps := by
  have hstop : ∀ t ∈ windowStarts r tf.duration, t < r.stop := fun t ht =>
    ((mem_windowStarts tf.duration_pos).mp ht).2.1
  have hstart : ∀ g ∈ gaps, g.start ∈ alignedTimes tf r := fun g hg =>
    (mem_windowStarts_iff hr).mp (hruns.start_mem _ (List.mem_map_of_mem hg))
  constructor
  · exact fun g hg => ⟨(hstart g hg).1, hruns.stop_le hstop (List.mem_map_of_mem hg),
      (hstart g hg).2.2⟩
  · exact List.pairwise_map.mp hruns.ordered
  · exact fun g hg t ht => ((mem_gaps_iff hr hruns).mp ⟨g, hg, ht⟩).2
  · intro g hg g' haligned hlo hhi hleft hright hall
    have hg' : g'.start ∈ windowStarts r tf.duration :=
      (mem_windowStarts_iff hr).mpr ⟨hlo, g'.start_lt_stop.trans_le hhi, haligned⟩
    obtain ⟨hs, he⟩ := hruns.maximal (List.mem_map_of_mem hg) hg' hleft hright hhi fun t ht h0 h1 => by
      simpa using hall t ⟨h0, h1, ((mem_windowStarts_iff hr).mp ht).2.2⟩
    cases g
    cases g'
    simp only [bounds] at hs he
    subst hs he
    rfl

/-- The slots of the gap ranges are the slots that are not observed. -/
theorem flatMap_windowStarts (hr : expectedCandleCount r tf = .ok n)
    (hruns : IsRuns (fun t => decide (t ∉ observed)) (windowStarts r tf.duration) r.stop
      (gaps.map bounds)) : (gaps.flatMap fun g => windowStarts g tf.duration) =
      (windowStarts r tf.duration).filter fun t => decide (t ∉ observed) := by
  have hd := tf.duration_pos
  rw [← hruns.flatMap_between (windowStarts_sorted hd), List.flatMap_map]
  refine List.flatMap_congr fun g hg => ?_
  have hin := (gapsOf_runs hr hruns).inside g hg
  refine eq_of_increasing (windowStarts_sorted hd)
    ((windowStarts_sorted hd).sublist List.filter_sublist) fun t => ?_
  rw [mem_between, mem_windowStarts_iff hr, mem_windowStarts hd]
  simp only [bounds, id_eq, alignedTimes, Set.mem_ofPred_eq, validateOpenTime_iff_dvd hin.2.2]
  constructor
  · rintro ⟨h0, h1, hdvd⟩
    exact ⟨⟨hin.1.trans h0, h1.trans_le hin.2.1, hdvd⟩, h0, h1⟩
  · rintro ⟨⟨-, -, hdvd⟩, h0, h1⟩
    exact ⟨h0, h1, hdvd⟩

/-- **Gap accounting.**  For consecutive monthly partitions of an aligned range the counts of the
coverage add up to the slots of the range, its gap count is the number of open times between the
first and the last candle that no candle opens at, and the gap ranges of the planner hold as many
slots as the coverage misses; they are in order, disjoint, maximal and unobserved. -/
theorem gap_accounting (scanner : QualityScanner Digest) (plan : QualityScanPlan)
    (hr : expectedCandleCount r tf = .ok n) (hplan : ∀ r' ∈ plan.dataRange, r' = r)
    (hfiles : CandleFamily tf r files) :
    ∃ results coverage issues gaps,
      files.mapM (scanRawPartition scanner plan tf) = .ok results ∧
      globalCoverage (results.map (·.1)) tf.duration (some r) = .ok (coverage, issues) ∧
      findGapRanges (observedTimes files) tf r = .ok gaps ∧
      coverage.expectedCount = some (n : ℤ) ∧
      coverage.observedCount = (observedTimes files).length ∧
      (n : ℤ) = coverage.observedCount + coverage.internalGapCount + coverage.missingAtStart +
        coverage.missingAtEnd ∧
      coverage.firstOpenTime = (observedTimes files).head? ∧
      coverage.lastOpenTime = (observedTimes files).getLast? ∧
      coverage.internalGapCount = Set.ncard { t : ℤ | tf.validateOpenTime t = true ∧
        (∃ a ∈ coverage.firstOpenTime, a < t) ∧ (∃ b ∈ coverage.lastOpenTime, t < b) ∧
          t ∉ observedTimes files } ∧
      ((gaps.flatMap fun g => windowStarts g tf.duration).length : ℤ) =
        coverage.internalGapCount + coverage.missingAtStart + coverage.missingAtEnd ∧
      GapsOf tf r (observedTimes files) gaps := by
  have hd := tf.duration_pos
  obtain ⟨hstart, hstop⟩ := expectedCandleCount_eq_ok.mp hr
  have hsorted := hfiles.observed_sorted
  have hin : ∀ t ∈ observedTimes files, r.start ≤ t ∧ t < r.stop ∧ tf.duration ∣ t - r.start :=
    fun t ht => ⟨(hfiles.mem_alignedTimes ht).1, (hfiles.mem_alignedTimes ht).2.1,
      (validateOpenTime_iff_dvd hstart).mp (hfiles.mem_alignedTimes ht).2.2⟩
  obtain ⟨results, hresults, hscanned⟩ := hfiles.scan scanner hplan
  obtain ⟨coverage, issues, hcoverage, hcounts⟩ :=
    globalCoverage_spec hd hscanned hstop hsorted hin
  obtain ⟨gaps, hgaps, hruns⟩ := findGapRanges_spec (observedTimes files) hr
  refine ⟨results, coverage, issues, gaps, hresults, hcoverage, hgaps, hcounts.expected,
    hcounts.observed, hcounts.total, hcounts.first, hcounts.last,
    internalGapCount_eq hcounts hsorted fun t ht => (hfiles.mem_alignedTimes ht).2.2, ?_,
    gapsOf_runs hr hruns⟩
  rw [flatMap_windowStarts hr hruns]
  have hmissing := length_missing hd hstop hsorted hin
  have htotal := hcounts.total
  have hobserved := hcounts.observed
  change coverage.observedCount = ((observedTimes files).length : ℤ) at hobserved
  omega

end

/-- The files of two months: one candle, on the third day, and none. -/
def thirdDayPartitions : List (PartitionFile ℕ) :=
  [⟨monthOf 0, true, .ok [dailyCandle 2 1 1], 0⟩, ⟨monthOf 0 + 1, true, .ok [], 0⟩]

theorem candleFamily_thirdDay : CandleFamily dailyTimeframe fiveDays thirdDayPartitions := by
  constructor
  · rintro file (_ | ⟨_, _ | ⟨_, hfile⟩⟩)
    · exact ⟨rfl, rfl⟩
    · exact ⟨rfl, rfl⟩
    · exact (List.not_mem_nil hfile).elim
  · exact List.pairwise_pair.mpr (by decide +kernel)
  · rintro file (_ | ⟨_, _ | ⟨_, hfile⟩⟩)
    · exact List.pairwise_singleton _ _
    · exact .nil
    · exact (List.not_mem_nil hfile).elim
  · rintro file (_ | ⟨_, _ | ⟨_, hfile⟩⟩) c hc
    · cases List.mem_singleton.mp hc
      exact ⟨by decide +kernel, by decide +kernel, by decide +kernel, by decide +kernel⟩
    · exact (List.not_mem_nil hc).elim
    · exact (List.not_mem_nil hfile).elim

/-- Of five days only the third is there: four slots are missing, two on each side. -/
theorem gap_accounting_five_days : ∃ (coverage : CoverageSummary) (gaps : List DataRange),
    findGapRanges [2 * Instant.microsecondsPerDay] dailyTimeframe fiveDays = .ok gaps ∧
      coverage.observedCount = 1 ∧ coverage.internalGapCount + coverage.missingAtStart +
        coverage.missingAtEnd = 4 ∧
      (gaps.flatMap fun g => windowStarts g dailyTimeframe.duration).length = 4 ∧
      GapsOf dailyTimeframe fiveDays [2 * Instant.microsecondsPerDay] gaps := by
  have hr : expectedCandleCount fiveDays dailyTimeframe = .ok 5 :=
    expectedCandleCount_eq_ok.mpr ⟨by decide, by decide⟩
  obtain ⟨_, coverage, _, gaps, -, -, hgaps, -, hobserved, htotal, -, -, -, hslots, hof⟩ :=
    gap_accounting (⟨0, 10, List.length⟩ : QualityScanner ℕ) ⟨some fiveDays, some .range⟩ hr
      (fun r' hr' => (Option.some.inj hr').symm) candleFamily_thirdDay
  have hone : coverage.observedCount = 1 := hobserved
  refine ⟨coverage, gaps, hgaps, hone, ?_, ?_, hof⟩
  · omega
  · omega

end MarketData
end DryTrade
