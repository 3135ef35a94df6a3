import DryTrade.Blocks
import DryTrade.MarketData.Resampling

/-!
# Resampling in two steps

A candle of one cadence can be made directly or from candles of a cadence in between.
A window is complete exactly when every window in between is, and the values of a candle
are those of the candles it is made of, so both ways agree; but the candles in between
must be storable, and a sum of storable volumes need not be.

## Main definitions

* `Chained` — the plans of two steps, and of the direct one.
* `Aggregated` — a candle and the candles it is made of.

## Main results

* `completeGroup_iff_blocks` — a window is complete when those in between are.
* `resample_composes` — the two ways agree.
-/

namespace DryTrade
namespace MarketData

/-! ### Complete groups -/

/-- When a candle opens and closes, and that it is closed. -/
def Candle.timing (c : Candle) : ℤ × ℤ × Bool := (c.openTime, c.closeTime, c.isClosed)

/-- The timings of `n` closed candles that follow one another. -/
def slots (tf : Timeframe) (start : ℤ) (n : ℕ) : List (ℤ × ℤ × Bool) :=
  (List.range n).map fun i : ℕ =>
    (start + i * tf.duration, start + i * tf.duration + tf.duration - 1000, true)

theorem slots_add (tf : Timeframe) (start : ℤ) (m n : ℕ) :
    slots tf start (m + n) = slots tf start m ++ slots tf (start + m * tf.duration) n := by
  simp only [slots, List.range_add, List.map_append, List.map_map]
  congr 1
  refine List.map_congr_left fun i _ => ?_
  simp only [Function.comp_apply, Nat.cast_add]
  ring_nf

theorem slots_succ (tf : Timeframe) (start : ℤ) (n : ℕ) :
    slots tf start (n + 1) = (start, start + tf.duration - 1000, true) ::
      slots tf (start + tf.duration) n := by
  rw [add_comm, slots_add]
  simp [slots]

/-- The slots of a long cadence are those of its parts. -/
theorem slots_mul (tf : Timeframe) (start : ℤ) (k g : ℕ) :
    slots tf start (k * g) = (List.range k).flatMap fun j : ℕ =>
      slots tf (start + j * (g * tf.duration)) g := by
  induction k with
  | zero => simp [slots]
  | succ k ih =>
    rw [List.range_succ, List.flatMap_append, ← ih, List.flatMap_singleton, Nat.succ_mul, slots_add]
    congr 3
    push_cast
    ring

theorem mem_slots {tf : Timeframe} {start : ℤ} {n : ℕ} {x : ℤ × ℤ × Bool}
    (hx : x ∈ slots tf start n) : start ≤ x.1 ∧ x.1 < start + n * tf.duration := by
  obtain ⟨i, hi, rfl⟩ := List.mem_map.mp hx
  have hpos := tf.duration_pos
  have hi' : (i : ℤ) + 1 ≤ n := by exact_mod_cast List.mem_range.mp hi
  have hle : ((i : ℤ) + 1) * tf.duration ≤ n * tf.duration :=
    mul_le_mul_of_nonneg_right hi' hpos.le
  constructor
  · have : 0 ≤ (i : ℤ) * tf.duration := by positivity
    simpa using this
  · dsimp only
    linarith

/-- The candles follow one another when they have the timings of the slots. -/
theorem followsFrom_iff {source : Timeframe} {stop : ℤ} {candles : List Candle} {expected : ℤ} :
    (candles.all (·.isClosed) = true ∧ followsFrom source stop expected candles = true) ↔
      candles.map Candle.timing = slots source expected candles.length ∧
        expected + candles.length * source.duration = stop := by
  induction candles generalizing expected with
  | nil => simp [followsFrom, slots]
  | cons c candles ih =>
    rw [List.length_cons, slots_succ, List.map_cons, List.cons.injEq, List.all_cons, followsFrom]
    simp only [Bool.and_eq_true, beq_iff_eq, Candle.timing, Prod.mk.injEq]
    have hstop : expected + ((candles.length + 1 : ℕ) : ℤ) * source.duration =
        expected + source.duration + candles.length * source.duration := by push_cast; ring
    rw [hstop]
    constructor
    · rintro ⟨⟨hclosed, hall⟩, ⟨hopen, hclose⟩, hrest⟩
      obtain ⟨hmap, hend⟩ := ih.mp ⟨hall, hrest⟩
      exact ⟨⟨⟨hopen, hclose, hclosed⟩, hmap⟩, hend⟩
    · rintro ⟨⟨⟨hopen, hclose, hclosed⟩, hmap⟩, hend⟩
      obtain ⟨hall, hrest⟩ := ih.mpr ⟨hmap, hend⟩
      exact ⟨⟨hclosed, hall⟩, ⟨hopen, hclose⟩, hrest⟩

/-- **A group is complete** when its candles have the timings of the slots of its window. -/
theorem completeGroup_iff {candles : List Candle} {start : ℤ} {source target : Timeframe} {n : ℕ}
    (hn : target.duration = n * source.duration) :
    completeGroup candles start source target n = true ↔
      candles.map Candle.timing = slots source start n := by
  unfold completeGroup
  rw [Bool.and_eq_true, Bool.and_eq_true, and_assoc, followsFrom_iff, beq_iff_eq, hn]
  constructor
  · rintro ⟨hlength, hmap, -⟩
    rw [hmap, show candles.length = n by exact_mod_cast hlength]
  · intro hmap
    have hlength : candles.length = n := by simpa [slots] using congrArg List.length hmap
    rw [hlength]
    exact ⟨rfl, hmap, rfl⟩

/-- The slots that lie in one part of a long cadence. -/
theorem between_slots (tf : Timeframe) (w : ℤ) {j k : ℕ} (g : ℕ) (hj : j < k) :
    between Prod.fst (slots tf w (k * g)) (w + j * (g * tf.duration))
      (w + j * (g * tf.duration) + g * tf.duration) = slots tf (w + j * (g * tf.duration)) g := by
  obtain ⟨m, rfl⟩ := Nat.exists_eq_add_of_lt hj
  have hsplit : (j + m + 1) * g = j * g + (g + m * g) := by ring
  have hmid : w + ((j * g : ℕ) : ℤ) * tf.duration = w + j * (g * tf.duration) := by push_cast; ring
  have hbefore : between Prod.fst (slots tf w (j * g)) (w + j * (g * tf.duration))
      (w + j * (g * tf.duration) + g * tf.duration) = [] :=
    between_eq_nil fun x hx => .inr (by rw [← hmid]; exact (mem_slots hx).2)
  have hafter : between Prod.fst
      (slots tf (w + j * (g * tf.duration) + g * tf.duration) (m * g)) (w + j * (g * tf.duration))
      (w + j * (g * tf.duration) + g * tf.duration) = [] :=
    between_eq_nil fun x hx => .inl (mem_slots hx).1
  have hinside : between Prod.fst (slots tf (w + j * (g * tf.duration)) g)
      (w + j * (g * tf.duration)) (w + j * (g * tf.duration) + g * tf.duration) =
        slots tf (w + j * (g * tf.duration)) g :=
    between_eq_self fun x hx => mem_slots hx
  rw [between] at hbefore hafter hinside ⊢
  rw [hsplit, slots_add, slots_add, hmid, List.filter_append, List.filter_append, hbefore, hinside,
    hafter, List.nil_append, List.append_nil]

theorem map_timing_between (candles : List Candle) (s e : ℤ) :
    (between Candle.openTime candles s e).map Candle.timing =
      between Prod.fst (candles.map Candle.timing) s e :=
  map_between Candle.timing Prod.fst candles s e

/-- A part of a window lies in it. -/
theorem part_le {d : ℤ} (hd : 0 < d) (w : ℤ) {j k : ℕ} (hj : j < k) :
    w ≤ w + j * d ∧ w + j * d + d ≤ w + k * d := by
  have hj' : (j : ℤ) + 1 ≤ k := by exact_mod_cast hj
  have hle : ((j : ℤ) + 1) * d ≤ k * d := mul_le_mul_of_nonneg_right hj' hd.le
  have hnonneg : 0 ≤ (j : ℤ) * d := by positivity
  constructor <;> linarith

/-- **A window is complete exactly when its parts are.** -/
theorem completeGroup_iff_blocks {candles : List Candle}
    (hsorted : candles.Pairwise fun c c' => c.openTime < c'.openTime) {a b c : Timeframe} {g k : ℕ}
    (hb : b.duration = g * a.duration) (hc : c.duration = k * b.duration) (w : ℤ) :
    completeGroup (between Candle.openTime candles w (w + c.duration)) w a c ((k * g : ℕ) : ℤ) =
        true ↔
      ∀ j < k, completeGroup (between Candle.openTime candles (w + j * b.duration)
        (w + j * b.duration + b.duration)) (w + j * b.duration) a b g = true := by
  have hcg : c.duration = ((k * g : ℕ) : ℤ) * a.duration := by
    rw [hc, hb]
    push_cast
    ring
  rw [completeGroup_iff hcg, map_timing_between]
  simp only [completeGroup_iff hb, map_timing_between]
  constructor
  · intro hall j hj
    have hpart := between_slots a w g hj
    obtain ⟨hstart, hstop⟩ := part_le b.duration_pos w hj
    rw [← hb, ← hall, between_between hstart (by rw [hc]; exact hstop)] at hpart
    exact hpart
  · intro hall
    have htimings : (candles.map Candle.timing).Pairwise fun x y => x.1 < y.1 :=
      List.pairwise_map.mpr hsorted
    rw [hc, between_blocks htimings b.duration_pos.le, slots_mul, ← hb]
    exact List.flatMap_congr fun j hj => hall j (List.mem_range.mp hj)

/-! ### Aggregated candles -/

attribute [ext] Candle

/-- What an aggregated candle takes from its first component. -/
def Candle.opening (c : Candle) : Exchange × MarketType × String × ℚ :=
  (c.exchange, c.marketType, c.symbol, c.openPrice)

/-- **A candle and the candles it is made of.** -/
structure Aggregated (components : List Candle) (w : Instant) (tf : Timeframe) (label : String)
    (c : Candle) : Prop where
  opening : components.head?.map Candle.opening = some c.opening
  closing : components.getLast?.map (·.close) = some c.close
  timeframe : c.timeframe = tf
  openTime : c.openTime = w
  closeTime : c.closeTime = w + tf.duration - 1000
  high : IsGreatest { q | q ∈ components.map (·.high) } c.high
  low : IsLeast { q | q ∈ components.map (·.low) } c.low
  volume : c.volume = (components.map (·.volume)).sum
  quoteVolume : c.quoteVolume = total (·.quoteVolume) components
  tradeCount : c.tradeCount = total (·.tradeCount) components
  isClosed : c.isClosed = components.all (·.isClosed)
  source : c.source = label

/-- **In exact arithmetic an aggregation never raises.** -/
theorem aggregate_exact {components : List Candle} (hne : components ≠ []) {w : Instant}
    {tf : Timeframe} (hw : tf.validateOpenTime w = true) (hlong : 1000 < tf.duration)
    (label : String) : ∃ c, aggregate .exact components hne w tf label = .ok c ∧
      Aggregated components w tf label c := by
  set first := components.head hne with hfirst
  set last := components.getLast hne with hlast
  have hhigh : IsGreatest { q | q ∈ components.map (·.high) }
      ((components.map (·.high)).foldl max first.high) := by
    have h := isGreatest_foldl_max (components.map (·.high)) first.high
    rwa [show { q | q ∈ first.high :: components.map (·.high) } =
      { q | q ∈ components.map (·.high) } from ?_] at h
    ext q
    simp only [Set.mem_setOf_eq, List.mem_cons, or_iff_right_iff_imp]
    rintro rfl
    exact List.mem_map_of_mem (List.head_mem hne)
  have hlow : IsLeast { q | q ∈ components.map (·.low) }
      ((components.map (·.low)).foldl min first.low) := by
    have h := isLeast_foldl_min (components.map (·.low)) first.low
    rwa [show { q | q ∈ first.low :: components.map (·.low) } =
      { q | q ∈ components.map (·.low) } from ?_] at h
    ext q
    simp only [Set.mem_setOf_eq, List.mem_cons, or_iff_right_iff_imp]
    rintro rfl
    exact List.mem_map_of_mem (List.head_mem hne)
  have hsum : ∀ l : List ℚ, l.foldl DecimalContext.exact.add 0 = l.sum := fun l =>
    List.sum_eq_foldl.symm
  have hordered : ∀ x ∈ components, x.low ≤ x.high := fun x _ =>
    (le_max_right _ _).trans ((le_max_right _ _).trans x.high_ge)
  have htop : ∀ x ∈ components, max x.openPrice x.close ≤
      (components.map (·.high)).foldl max first.high := fun x hx =>
    (max_le_max le_rfl (le_max_left _ _)).trans (x.high_ge.trans (hhigh.2 (List.mem_map_of_mem hx)))
  have hbottom : ∀ x ∈ components, (components.map (·.low)).foldl min first.low ≤
      min x.openPrice x.close := fun x hx =>
    (hlow.2 (List.mem_map_of_mem hx)).trans (x.low_le.trans (min_le_min le_rfl (min_le_left _ _)))
  have hfirstMem := List.head_mem hne
  have hlastMem := List.getLast_mem hne
  have hspan : (components.map (·.low)).foldl min first.low ≤
      (components.map (·.high)).foldl max first.high :=
    (hlow.2 (List.mem_map_of_mem hfirstMem)).trans
      ((hordered first hfirstMem).trans (hhigh.2 (List.mem_map_of_mem hfirstMem)))
  have h₂ : w < w + tf.duration - 1000 := by linarith
  have h₃ : max first.openPrice (max last.close ((components.map (·.low)).foldl min first.low)) ≤
      (components.map (·.high)).foldl max first.high :=
    max_le ((le_max_left _ _).trans (htop first hfirstMem))
      (max_le ((le_max_right _ _).trans (htop last hlastMem)) hspan)
  have h₄ : (components.map (·.low)).foldl min first.low ≤
      min first.openPrice (min last.close ((components.map (·.high)).foldl max first.high)) :=
    le_min ((hbottom first hfirstMem).trans (min_le_left _ _))
      (le_min ((hbottom last hlastMem).trans (min_le_right _ _)) hspan)
  have h₅ : 0 ≤ (components.map (·.volume)).sum ∧
      ∀ v ∈ total (·.quoteVolume) components, 0 ≤ v := by
    refine ⟨List.sum_nonneg fun q hq => ?_, fun v hv => total_nonneg (fun x _ => ?_) hv⟩
    · obtain ⟨x, -, rfl⟩ := List.mem_map.mp hq
      exact x.volume_nonneg
    · exact x.quoteVolume_nonneg
  have h₆ : ∀ n ∈ total (·.tradeCount) components, 0 ≤ n :=
    fun n hn => total_nonneg (fun x _ => x.tradeCount_nonneg) hn
  refine ⟨⟨first.exchange, first.marketType, first.symbol, tf, w, w + tf.duration - 1000,
    first.openPrice, _, _, last.close, (components.map (·.volume)).sum,
    total (·.quoteVolume) components, total (·.tradeCount) components,
    components.all (·.isClosed), label, hw, h₂, h₃, h₄, h₅.1, h₅.2, h₆⟩, ?_, ?_⟩
  · unfold aggregate
    simp only [hsum]
    unfold aggregatedCandle
    rw [dif_pos hw, dif_pos h₂, dif_pos h₃, dif_pos h₄]
    exact (dif_pos h₅).trans (dif_pos h₆)
  · refine ⟨?_, ?_, rfl, rfl, rfl, hhigh, hlow, rfl, rfl, rfl, rfl, rfl⟩
    · rw [List.head?_eq_some_head hne]
      rfl
    · rw [List.getLast?_eq_some_getLast hne]
      rfl

/-- A candle without the label of its source. -/
def Candle.unlabelled (c : Candle) : Candle := { c with source := "" }

/-- The sum of the volumes of the parts. -/
theorem sum_flatMap_volume {β : Type} (xs : List β) (block : β → List Candle) :
    ((xs.flatMap block).map (·.volume)).sum =
      (xs.map fun x => ((block x).map (·.volume)).sum).sum := by
  induction xs with
  | nil => rfl
  | cons x xs ih => simp [ih]

/-- **Aggregating in two steps**: a candle made of candles that are made of the parts is the candle
made of all the parts, up to its label. -/
theorem Aggregated.compose {β : Type} {xs : List β} {block : β → List Candle} {part : β → Candle}
    {start : β → Instant} {w : Instant} {b c : Timeframe} {label label' label'' : String}
    {x y : Candle} (hparts : ∀ j ∈ xs, Aggregated (block j) (start j) b label (part j))
    (hx : Aggregated (xs.map part) w c label' x) (hy : Aggregated (xs.flatMap block) w c label'' y) :
    x.unlabelled = y.unlabelled := by
  have hopening : x.opening = y.opening := by
    have h := hx.opening
    have h' := hy.opening
    cases xs with
    | nil => cases h
    | cons j rest =>
      have hj := (hparts j List.mem_cons_self).opening
      rw [List.flatMap_cons, List.head?_append] at h'
      cases hhead : (block j).head? with
      | none =>
        rw [hhead] at hj
        cases hj
      | some z =>
        rw [hhead] at h' hj
        simp only [List.map_cons, List.head?_cons, Option.map_some, Option.some_or,
          Option.some.injEq] at h h' hj
        rw [← h, ← h', hj]
  have hclosing : x.close = y.close := by
    have h := hx.closing
    have h' := hy.closing
    rcases List.eq_nil_or_concat xs with rfl | ⟨init, j, rfl⟩
    · cases h
    · rw [List.concat_eq_append] at h h' hparts
      have hj := (hparts j (by simp)).closing
      rw [List.flatMap_append, List.flatMap_singleton, List.getLast?_append] at h'
      cases hlast : (block j).getLast? with
      | none =>
        rw [hlast] at hj
        cases hj
      | some z =>
        rw [hlast] at h' hj
        simp only [List.map_append, List.map_cons, List.map_nil, List.getLast?_append,
          List.getLast?_singleton, Option.map_some, Option.some_or, Option.some.injEq] at h h' hj
        rw [← h, ← h', hj]
  have hhigh : x.high = y.high := by
    have hparts' := hx.high
    rw [List.map_map] at hparts'
    have h := isGreatest_flatMap (fun j => (block j).map (·.high)) _
      (fun j hj => (hparts j hj).high) hparts'
    rw [← List.map_flatMap] at h
    exact h.unique hy.high
  have hlow : x.low = y.low := by
    have hparts' := hx.low
    rw [List.map_map] at hparts'
    have h := isLeast_flatMap (fun j => (block j).map (·.low)) _
      (fun j hj => (hparts j hj).low) hparts'
    rw [← List.map_flatMap] at h
    exact h.unique hy.low
  have hvolume : x.volume = y.volume := by
    rw [hx.volume, hy.volume, sum_flatMap_volume, List.map_map]
    congr 1
    exact List.map_congr_left fun j hj => (hparts j hj).volume
  have hquote : x.quoteVolume = y.quoteVolume := by
    rw [hx.quoteVolume, hy.quoteVolume, total_map]
    exact (total_flatMap xs fun j hj => (hparts j hj).quoteVolume).symm
  have htrades : x.tradeCount = y.tradeCount := by
    rw [hx.tradeCount, hy.tradeCount, total_map]
    exact (total_flatMap xs fun j hj => (hparts j hj).tradeCount).symm
  have hclosed : x.isClosed = y.isClosed := by
    rw [hx.isClosed, hy.isClosed, List.all_map, List.all_flatMap]
    rw [Bool.eq_iff_iff, List.all_eq_true, List.all_eq_true]
    refine forall₂_congr fun j hj => ?_
    simp only [Function.comp_apply]
    rw [(hparts j hj).isClosed]
  obtain ⟨hexchange, hmarket, hsymbol, hopen⟩ : x.exchange = y.exchange ∧
      x.marketType = y.marketType ∧ x.symbol = y.symbol ∧ x.openPrice = y.openPrice := by
    simpa [Candle.opening] using hopening
  exact Candle.ext hexchange hmarket hsymbol (hx.timeframe.trans hy.timeframe.symm)
    (hx.openTime.trans hy.openTime.symm) (hx.closeTime.trans hy.closeTime.symm) hopen hhigh hlow
    hclosing hvolume hquote htrades hclosed rfl

/-! ### The windows of a plan -/

/-- The candle of one window, in exact arithmetic. -/
def windowCandle (d : DerivedSeries) (size : ℤ) (components : List Candle) (w : Instant) :
    Option Candle :=
  if h : completeGroup components w d.source d.target size = true then
    (aggregate .exact components (d.ne_nil_of_completeGroup h) w d.target d.targetSource).toOption
  else none

theorem DerivedSeries.thousand_lt_target (d : DerivedSeries) : 1000 < d.target.duration := by
  have hall : ∀ p ∈ supportedResampling, 1000 < p.2.duration := by decide
  exact hall _ d.supported

section

variable {d : DerivedSeries} {size : ℤ} {components : List Candle} {w : Instant}

/-- A complete window has a candle. -/
theorem windowCandle_of_complete (hw : d.target.validateOpenTime w = true)
    (h : completeGroup components w d.source d.target size = true) :
    ∃ c, windowCandle d size components w = some c ∧
      Aggregated components w d.target d.targetSource c := by
  obtain ⟨c, hc, hmade⟩ := aggregate_exact (ne_nil_of_completeGroup h) hw d.thousand_lt_target
    d.targetSource
  refine ⟨c, ?_, hmade⟩
  rw [windowCandle, dif_pos h, hc]
  rfl

theorem windowCandle_of_incomplete
    (h : completeGroup components w d.source d.target size ≠ true) :
    windowCandle d size components w = none := dif_neg h

theorem windowCandle_isSome_iff (hw : d.target.validateOpenTime w = true) :
    (windowCandle d size components w).isSome = true ↔
      completeGroup components w d.source d.target size = true := by
  constructor
  · intro hsome
    by_contra h
    rw [windowCandle_of_incomplete h] at hsome
    cases hsome
  · intro h
    obtain ⟨c, hc, -⟩ := windowCandle_of_complete hw h
    rw [hc]
    rfl

/-- **What becomes of one window**: only the strict policy raises. -/
theorem resampleWindow_exact (hw : d.target.validateOpenTime w = true) :
    resampleWindow .exact d size components w =
      if d.gapPolicy = .strict ∧ windowCandle d size components w = none then
        FailureKind.marketDataInconsistency.raiseWith
          "Um grupo de resampling está incompleto ou inválido."
      else .ok (windowCandle d size components w) := by
  unfold resampleWindow
  by_cases h : completeGroup components w d.source d.target size = true
  · obtain ⟨c, hc, -⟩ := aggregate_exact (ne_nil_of_completeGroup h) hw d.thousand_lt_target
      d.targetSource
    have hcandle : windowCandle d size components w = some c := by
      rw [windowCandle, dif_pos h, hc]
      rfl
    rw [dif_pos h, if_neg (fun hn => by rw [hcandle] at hn; cases hn.2), hcandle, hc]
    rfl
  · rw [dif_neg h, windowCandle_of_incomplete h]
    by_cases hs : d.gapPolicy = .strict
    · rw [if_pos hs, if_pos ⟨hs, rfl⟩]
    · rw [if_neg hs, if_neg fun hn => hs hn.1]

end

/-- The source candles pass the checks exactly when each is valid and they are in order. -/
theorem foldlM_checkSource_iff {plan : ResamplingPlan} {candles : List Candle} :
    ∀ previous : Option Candle,
      (∃ last, candles.foldlM (checkSource plan) previous = .ok last) ↔
        (∀ c ∈ candles, validateCandleSerialization c false = .ok () ∧
          c.identity = plan.series.sourceIdentity ∧ plan.dataRange.start ≤ c.openTime ∧
          c.openTime < plan.dataRange.stop) ∧
        candles.Pairwise (fun c c' => c.openTime < c'.openTime) ∧
        ∀ p ∈ previous, ∀ c ∈ candles, p.openTime < c.openTime := by
  intro previous
  refine ⟨?_, fun ⟨hvalid, hsorted, hprevious⟩ =>
    foldlM_checkSource hvalid hsorted previous hprevious⟩
  rintro ⟨last, h⟩
  induction candles generalizing previous with
  | nil => simp
  | cons c candles ih =>
    simp only [List.foldlM_cons, bind_eq_ok, checkSource, FailureKind.unless_eq_ok, exists_const,
      pure, Except.pure, Except.ok.injEq, Bool.and_eq_true, decide_eq_true_eq, beq_iff_eq] at h
    obtain ⟨_, ⟨_, hser, hid, ⟨hstart, hstop⟩, hbefore, rfl⟩, hrest⟩ := h
    obtain ⟨hvalid, hsorted, hnext⟩ := ih (some c) hrest
    have hc : ∀ p ∈ previous, p.openTime < c.openTime := by
      intro p hp
      rw [Option.mem_def.mp hp] at hbefore
      simpa using hbefore
    have hafter := hnext c rfl
    refine ⟨fun x hx => ?_, List.pairwise_cons.mpr ⟨hafter, hsorted⟩, fun p hp x hx => ?_⟩
    · rcases List.mem_cons.mp hx with rfl | hx
      · exact ⟨hser, hid, hstart, hstop⟩
      · exact hvalid x hx
    · rcases List.mem_cons.mp hx with rfl | hx
      · exact hc p hp
      · exact (hc p hp).trans (hafter x hx)

/-- A map that raises at some elements only returns when there are none. -/
theorem mapM_guarded {ε α β : Type} {f : α → Except ε β} {g : α → β} {b : α → Prop} {l : List α}
    (hgood : ∀ a ∈ l, ¬ b a → f a = .ok (g a)) (hbad : ∀ a ∈ l, b a → ∀ x, f a ≠ .ok x) :
    ((∃ bs, l.mapM f = .ok bs) ↔ ∀ a ∈ l, ¬ b a) ∧
      ∀ bs, l.mapM f = .ok bs → bs = l.map g := by
  have hnone : ∀ bs, l.mapM f = .ok bs → ∀ a ∈ l, ¬ b a := by
    clear hgood
    induction l with
    | nil => exact fun _ _ a ha => absurd ha List.not_mem_nil
    | cons a l ih =>
      intro bs hbs x hx
      obtain ⟨y, bs', hy, hbs', -⟩ := mapM_cons_eq_ok.mp hbs
      rcases List.mem_cons.mp hx with rfl | hx
      · exact fun h => hbad x List.mem_cons_self h y hy
      · exact ih (fun y hy => hbad y (List.mem_cons_of_mem a hy)) bs' hbs' x hx
  have hmap : (∀ a ∈ l, ¬ b a) → l.mapM f = .ok (l.map g) := fun h =>
    mapM_eq_map fun a ha => hgood a ha (h a ha)
  refine ⟨⟨fun ⟨bs, hbs⟩ => hnone bs hbs, fun h => ⟨_, hmap h⟩⟩, fun bs hbs => ?_⟩
  rw [hmap (hnone bs hbs)] at hbs
  cases hbs
  rfl

/-- The elements that a map sends to nothing. -/
theorem filterMap_zip_isNone {α β γ : Type} (g : α → Option β) (h : α → γ) (l : List α) :
    ((l.zip (l.map g)).filterMap fun p => if p.2.isNone then some (h p.1) else none) =
      (l.filter fun a => (g a).isNone).map h := by
  induction l with
  | nil => rfl
  | cons a l ih =>
    rw [List.map_cons, List.zip_cons_cons, List.filterMap_cons, List.filter_cons, ih]
    cases g a <;> rfl

/-- The windows of a plan open in its target cadence. -/
theorem validateOpenTime_of_mem_windowStarts {plan : ResamplingPlan}
    (haligned : plan.series.target.validateOpenTime plan.dataRange.start = true) {w : ℤ}
    (hw : w ∈ windowStarts plan.dataRange plan.series.target.duration) :
    plan.series.target.validateOpenTime w = true := by
  obtain ⟨-, -, hdvd⟩ := (mem_windowStarts plan.series.target.duration_pos).mp hw
  simp only [Timeframe.validateOpenTime, beq_iff_eq, ← Int.dvd_iff_emod_eq_zero] at haligned ⊢
  have h := dvd_add hdvd haligned
  rwa [sub_add_sub_cancel] at h

/-- **What the resampler returns** in exact arithmetic: the candles of the complete windows, and
the ranges of the others, when the source candles pass its checks and the policy tolerates them. -/
theorem resample_exact {Digest : Type} (canonicalDigest : List Candle → Digest)
    (candles : List Candle) {plan : ResamplingPlan}
    (hsize : validateTimeframes plan.series.source plan.series.target = .ok plan.groupSize)
    (haligned : plan.series.target.validateOpenTime plan.dataRange.start = true) :
    let starts := windowStarts plan.dataRange plan.series.target.duration
    let candle := fun w => windowCandle plan.series plan.groupSize
      (windowGroup candles plan.series.target w) w
    ((∃ r, resample .exact canonicalDigest candles plan = .ok r) ↔
      (∃ last, candles.foldlM (checkSource plan) none = .ok last) ∧
        (plan.series.gapPolicy = .strict → ∀ w ∈ starts, candle w ≠ none)) ∧
      ∀ r, resample .exact canonicalDigest candles plan = .ok r →
        r.candles = starts.filterMap candle ∧
        r.skippedRanges = (starts.filter fun w => (candle w).isNone).map
          (windowRange · plan.series.target) := by
  intro starts candle
  have hopen : ∀ w ∈ starts, plan.series.target.validateOpenTime w = true := fun w hw =>
    validateOpenTime_of_mem_windowStarts haligned hw
  obtain ⟨hwindows, hvalue⟩ := mapM_guarded (l := starts)
    (f := fun w => resampleWindow .exact plan.series plan.groupSize
      (windowGroup candles plan.series.target w) w) (g := candle)
    (b := fun w => plan.series.gapPolicy = .strict ∧ candle w = none)
    (fun w hw hgood => by rw [resampleWindow_exact (hopen w hw), if_neg hgood])
    (fun w hw hbad x => by
      rw [resampleWindow_exact (hopen w hw), if_pos hbad]
      simp)
  constructor
  · constructor
    · rintro ⟨r, hr⟩
      simp only [resample, hsize, ok_bind, bind_eq_ok, pure, Except.pure, Except.ok.injEq,
        FailureKind.unless_eq_ok, exists_const] at hr
      obtain ⟨-, last, hchecks, windows, hmap, -⟩ := hr
      exact ⟨⟨last, hchecks⟩, fun hs w hw hnone => hwindows.mp ⟨windows, hmap⟩ w hw ⟨hs, hnone⟩⟩
    · rintro ⟨⟨last, hchecks⟩, hstrict⟩
      obtain ⟨windows, hmap⟩ := hwindows.mpr fun w hw hbad => hstrict hbad.1 w hw hbad.2
      obtain ⟨r, hr, -⟩ := resample_ok .exact canonicalDigest hsize hchecks hmap
      exact ⟨r, hr⟩
  · intro r hr
    simp only [resample, hsize, ok_bind, bind_eq_ok, pure, Except.pure, Except.ok.injEq,
      FailureKind.unless_eq_ok, exists_const] at hr
    obtain ⟨-, -, -, windows, hmap, rfl⟩ := hr
    obtain rfl := hvalue windows hmap
    refine ⟨?_, filterMap_zip_isNone candle
      (fun w => windowRange w plan.series.target) starts⟩
    rw [List.filterMap_map]
    rfl

/-! ### Two steps and one -/

/-- **The plans of two steps, and of the direct one**: one instrument, range and policy, the first
step ends where the second begins, and the range is aligned to the last cadence. -/
structure Chained (plan₁ plan₂ plan : ResamplingPlan) : Prop where
  source : plan₁.series.source = plan.series.source
  middle : plan₂.series.source = plan₁.series.target
  target : plan₂.series.target = plan.series.target
  exchange : plan₁.series.exchange = plan.series.exchange ∧
    plan₂.series.exchange = plan.series.exchange
  marketType : plan₁.series.marketType = plan.series.marketType ∧
    plan₂.series.marketType = plan.series.marketType
  symbol : plan₁.series.symbol = plan.series.symbol ∧ plan₂.series.symbol = plan.series.symbol
  policy : plan₁.series.gapPolicy = plan.series.gapPolicy ∧
    plan₂.series.gapPolicy = plan.series.gapPolicy
  range : plan₁.dataRange = plan.dataRange ∧ plan₂.dataRange = plan.dataRange
  aligned : plan.series.target.validateOpenTime plan.dataRange.start = true ∧
    plan.series.target.validateOpenTime plan.dataRange.stop = true
  size₁ : validateTimeframes plan₁.series.source plan₁.series.target = .ok plan₁.groupSize
  size₂ : validateTimeframes plan₂.series.source plan₂.series.target = .ok plan₂.groupSize
  size : validateTimeframes plan.series.source plan.series.target = .ok plan.groupSize

/-- A target window is a whole number of source ones. -/
theorem duration_of_validateTimeframes {source target : Timeframe} {n : ℤ}
    (h : validateTimeframes source target = .ok n) :
    ∃ k : ℕ, n = k ∧ 0 < k ∧ target.duration = k * source.duration := by
  simp only [validateTimeframes, validatePair, bind_eq_ok, FailureKind.unless_eq_ok, exists_const,
    pure, Except.pure, Except.ok.injEq, Bool.and_eq_true, beq_iff_eq, decide_eq_true_eq] at h
  obtain ⟨-, -, ⟨hmod, htwo⟩, -, -, rfl⟩ := h
  refine ⟨(target.duration / source.duration).toNat, ?_, by omega, ?_⟩
  · omega
  · rw [Int.toNat_of_nonneg (by omega), Int.ediv_mul_cancel (Int.dvd_of_emod_eq_zero hmod)]

theorem validateOpenTime_iff (d : DerivedSeries) (w : ℤ) :
    d.target.validateOpenTime w = true ↔ d.target.duration ∣ w := by
  rw [Timeframe.validateOpenTime, d.target_spec.1, sub_zero, beq_iff_eq, Int.dvd_iff_emod_eq_zero]

/-- The group of a window is the part of the candles that opens in it. -/
theorem windowGroup_eq_between (d : DerivedSeries) (candles : List Candle) {w : ℤ}
    (hw : d.target.duration ∣ w) :
    windowGroup candles d.target w =
      between Candle.openTime candles w (w + d.target.duration) := by
  refine List.filter_congr fun c _ => ?_
  rw [Bool.eq_iff_iff, beq_iff_eq, groupStart_eq_iff hw]
  simp

/-- The windows of a shorter cadence that lie in one window. -/
theorem between_windowStarts {r : DataRange} {d w : ℤ} {k : ℕ} (hd : 0 < d) (hw : r.start ≤ w)
    (hstop : w + k * d ≤ r.stop) (hdvd : d ∣ w - r.start) :
    between id (windowStarts r d) w (w + k * d) = (List.range k).map fun j : ℕ => w + j * d := by
  have hsorted : (between id (windowStarts r d) w (w + k * d)).Pairwise (· < ·) :=
    (windowStarts_sorted hd).sublist List.filter_sublist
  have hsorted' : ((List.range k).map fun j : ℕ => w + j * d).Pairwise (· < ·) := by
    rw [List.pairwise_map]
    refine List.pairwise_lt_range.imp fun {a b} hab => ?_
    have hab' : (a : ℤ) < b := by exact_mod_cast hab
    have := mul_lt_mul_of_pos_right hab' hd
    linarith
  refine List.Perm.eq_of_pairwise (fun a b _ _ hab hba => absurd hab (lt_asymm hba)) hsorted
    hsorted' ((List.perm_ext_iff_of_nodup (hsorted.imp fun h => h.ne)
      (hsorted'.imp fun h => h.ne)).mpr fun v => ?_)
  rw [mem_between, mem_windowStarts hd]
  simp only [id_eq, List.mem_map, List.mem_range]
  constructor
  · rintro ⟨⟨-, -, q, hq⟩, hlo, hhi⟩
    obtain ⟨p, hp⟩ := hdvd
    have hv : v - w = d * (q - p) := by linarith [mul_sub d q p]
    have h0 : 0 ≤ q - p := by
      by_contra hneg
      have : d * (q - p) < 0 := mul_neg_of_pos_of_neg hd (not_le.mp hneg)
      linarith
    refine ⟨(q - p).toNat, ?_, ?_⟩
    · have hlt : d * (q - p) < d * k := by linarith [mul_comm d (k : ℤ)]
      have := lt_of_mul_lt_mul_left hlt hd.le
      omega
    · rw [Int.toNat_of_nonneg h0]
      linarith [mul_comm d (q - p)]
  · rintro ⟨j, hj, rfl⟩
    obtain ⟨hlo, hhi⟩ := part_le hd w hj
    refine ⟨⟨hw.trans hlo, ?_, ?_⟩, hlo, ?_⟩
    · linarith
    · rw [show w + j * d - r.start = w - r.start + j * d by ring]
      exact dvd_add hdvd (Dvd.intro_left _ rfl)
    · linarith

/-- The candle of a window opens with it. -/
theorem windowCandle_openTime {d : DerivedSeries} {size : ℤ} {components : List Candle} {w : Instant}
    {c : Candle} (h : windowCandle d size components w = some c) : c.openTime = w := by
  unfold windowCandle at h
  split at h
  · next hcomplete =>
    cases hc : aggregate .exact components (ne_nil_of_completeGroup hcomplete) w d.target
        d.targetSource with
    | error e =>
      rw [hc] at h
      cases h
    | ok c' =>
      rw [hc] at h
      cases h
      exact (aggregate_eq_ok hc).1
  · cases h

section

variable {d₁ d₂ d : DerivedSeries} {g k : ℕ} {candles : List Candle} {r : DataRange} {w : ℤ}

/-- **One window of the second step.**  It has a candle exactly when each window in between has
one, and exactly when the direct one has, and then they are the same, up to their labels. -/
theorem windowCandle_composes (hsource : d₁.source = d.source) (hmiddle : d₂.source = d₁.target)
    (htarget : d₂.target = d.target) (hg : d₁.target.duration = g * d₁.source.duration)
    (hk : d.target.duration = k * d₁.target.duration) (hkpos : 0 < k)
    (hsorted : candles.Pairwise fun c c' => c.openTime < c'.openTime)
    (hstart : d.target.duration ∣ r.start) (hw : d.target.duration ∣ w) (hlo : r.start ≤ w)
    (hhi : w + d.target.duration ≤ r.stop) :
    let first := fun v => windowCandle d₁ g (windowGroup candles d₁.target v) v
    let direct := windowCandle d ((k * g : ℕ) : ℤ) (windowGroup candles d.target w) w
    let second := windowCandle d₂ k (windowGroup
      ((windowStarts r d₁.target.duration).filterMap first) d₂.target w) w
    (direct ≠ none ↔ ∀ j < k, first (w + (j : ℕ) * d₁.target.duration) ≠ none) ∧
      second.map Candle.unlabelled = direct.map Candle.unlabelled := by
  intro first direct second
  have hpos := d₁.target.duration_pos
  have hdvd : d₁.target.duration ∣ d.target.duration := ⟨k, by rw [hk, mul_comm]⟩
  have hpart : ∀ j : ℕ, d₁.target.duration ∣ w + j * d₁.target.duration := fun j =>
    dvd_add (hdvd.trans hw) (Dvd.intro_left _ rfl)
  have hgroup : ∀ j : ℕ, windowGroup candles d₁.target (w + j * d₁.target.duration) =
      between Candle.openTime candles (w + j * d₁.target.duration)
        (w + j * d₁.target.duration + d₁.target.duration) := fun j =>
    windowGroup_eq_between d₁ candles (hpart j)
  have hfirst : ∀ j : ℕ, first (w + j * d₁.target.duration) ≠ none ↔
      completeGroup (between Candle.openTime candles (w + j * d₁.target.duration)
        (w + j * d₁.target.duration + d₁.target.duration)) (w + j * d₁.target.duration)
          d₁.source d₁.target g = true := by
    intro j
    rw [← Option.isSome_iff_ne_none, windowCandle_isSome_iff ((validateOpenTime_iff d₁ _).mpr
      (hpart j)), hgroup j]
  have hblocks := completeGroup_iff_blocks hsorted hg hk w
  have hdirect : direct ≠ none ↔ ∀ j < k, first (w + (j : ℕ) * d₁.target.duration) ≠ none := by
    rw [← Option.isSome_iff_ne_none, windowCandle_isSome_iff ((validateOpenTime_iff d _).mpr hw),
      windowGroup_eq_between d candles hw, ← hsource, hblocks]
    exact forall₂_congr fun j _ => (hfirst j).symm
  refine ⟨hdirect, ?_⟩
  have hcomponents : windowGroup ((windowStarts r d₁.target.duration).filterMap first) d₂.target w =
      (List.range k).filterMap fun j : ℕ => first (w + j * d₁.target.duration) := by
    rw [windowGroup_eq_between d₂ _ (by rw [htarget]; exact hw),
      between_filterMap fun v c hc => windowCandle_openTime hc, htarget, hk,
      between_windowStarts hpos hlo (by rwa [← hk]) ((hdvd.trans hw).sub (hdvd.trans hstart)),
      List.filterMap_map]
    rfl
  have hk' : d₂.target.duration = k * d₂.source.duration := by rw [htarget, hmiddle, hk]
  by_cases hall : ∀ j < k, first (w + (j : ℕ) * d₁.target.duration) ≠ none
  · have hsome : ∀ j < k, ∃ c, first (w + (j : ℕ) * d₁.target.duration) = some c ∧
        Aggregated (between Candle.openTime candles (w + j * d₁.target.duration)
          (w + j * d₁.target.duration + d₁.target.duration)) (w + j * d₁.target.duration)
            d₁.target d₁.targetSource c := by
      intro j hj
      rw [← hgroup j]
      refine windowCandle_of_complete ((validateOpenTime_iff d₁ _).mpr (hpart j)) ?_
      rw [hgroup j]
      exact (hfirst j).mp (hall j hj)
    obtain ⟨c₀, -⟩ := hsome 0 hkpos
    have hchoice : ∀ j : ℕ, ∃ c, j < k → first (w + (j : ℕ) * d₁.target.duration) = some c ∧
        Aggregated (between Candle.openTime candles (w + j * d₁.target.duration)
          (w + j * d₁.target.duration + d₁.target.duration)) (w + j * d₁.target.duration)
            d₁.target d₁.targetSource c := fun j =>
      if hj : j < k then (hsome j hj).imp fun c hc _ => hc else ⟨c₀, fun h => absurd h hj⟩
    choose part hmade using hchoice
    have hmap : ((List.range k).filterMap fun j : ℕ => first (w + j * d₁.target.duration)) =
        (List.range k).map part := by
      rw [← List.filterMap_eq_map]
      exact List.filterMap_congr fun j hj => (hmade j (List.mem_range.mp hj)).1
    have hcomplete : completeGroup ((List.range k).map part) w d₂.source d₂.target k = true := by
      rw [completeGroup_iff hk', List.map_map]
      refine List.map_congr_left fun j hj => ?_
      have h := (hmade j (List.mem_range.mp hj)).2
      have hclosed : (part j).isClosed = true := by
        have hgroupClosed := (hfirst j).mp (hall j (List.mem_range.mp hj))
        rw [h.isClosed]
        simp only [completeGroup, Bool.and_eq_true] at hgroupClosed
        exact hgroupClosed.1.2
      rw [Function.comp_apply, Candle.timing, h.openTime, h.closeTime, hclosed, hmiddle]
    obtain ⟨x, hx, hxmade⟩ := windowCandle_of_complete
      ((validateOpenTime_iff d₂ w).mpr (by rw [htarget]; exact hw)) hcomplete
    obtain ⟨y, hy, hymade⟩ := windowCandle_of_complete ((validateOpenTime_iff d w).mpr hw)
      ((windowCandle_isSome_iff ((validateOpenTime_iff d w).mpr hw)).mp
        (Option.isSome_iff_ne_none.mpr (hdirect.mpr hall)))
    rw [windowGroup_eq_between d candles hw, hk, between_blocks hsorted hpos.le] at hymade
    have hsecond : second = some x := by
      simp only [second]
      rw [hcomponents, hmap, hx]
    rw [hsecond, show direct = some y from hy, Option.map_some, Option.map_some]
    rw [htarget] at hxmade
    exact congrArg some (Aggregated.compose (fun j hj => (hmade j (List.mem_range.mp hj)).2) hxmade
      hymade)
  · have hnone : direct = none := by
      by_contra h
      exact hall (hdirect.mp h)
    have hsecond : second = none := by
      refine windowCandle_of_incomplete fun hcomplete => hall fun j hj => ?_
      rw [hcomponents, completeGroup_iff hk'] at hcomplete
      have hlength := congrArg List.length hcomplete
      rw [List.length_map, slots, List.length_map] at hlength
      have hsome := List.filterMap_length_eq_length.mp hlength j (List.mem_range.mpr hj)
      exact Option.isSome_iff_ne_none.mp hsome
    rw [hnone, hsecond]

end

/-! ### Storable candles -/

theorem fitsDecimal128_eq_ok {v : ℚ} {u : Unit} :
    fitsDecimal128 v = .ok u ↔ (∃ n : ℤ, v * 10 ^ 18 = n) ∧ |v| < 10 ^ 20 := by
  simp only [fitsDecimal128, bind_eq_ok, FailureKind.unless_eq_ok, exists_const, decide_eq_true_eq]
  refine and_congr_left fun _ => ⟨fun h => ⟨(v * 10 ^ 18).num, ?_⟩, ?_⟩
  · exact ((Rat.den_eq_one_iff _).mp h).symm
  · rintro ⟨n, hn⟩
    rw [hn]
    rfl

/-- What a candle needs to be stored without loss, open or closed. -/
theorem validateCandleSerialization_iff {c : Candle} :
    validateCandleSerialization c false = .ok () ↔
      (fitsDecimal128 c.openPrice = .ok () ∧ fitsDecimal128 c.high = .ok () ∧
        fitsDecimal128 c.low = .ok () ∧ fitsDecimal128 c.close = .ok ()) ∧
      (fitsDecimal128 c.volume = .ok () ∧ ∀ q ∈ c.quoteVolume, fitsDecimal128 q = .ok ()) ∧
      (1000 : ℤ) ∣ c.openTime ∧ (1000 : ℤ) ∣ c.closeTime := by
  have hquote : c.quoteVolume.forM fitsDecimal128 = .ok () ↔
      ∀ q ∈ c.quoteVolume, fitsDecimal128 q = .ok () := by
    cases c.quoteVolume with
    | none => exact ⟨fun _ q hq => (nomatch hq), fun _ => rfl⟩
    | some v => exact ⟨fun h q hq => Option.some.inj hq ▸ h, fun h => h v rfl⟩
  simp only [validateCandleSerialization, wholeMilliseconds, bind_eq_ok,
    FailureKind.unless_eq_ok, exists_const, Bool.not_false, Bool.true_or, true_and, beq_iff_eq,
    Int.dvd_iff_emod_eq_zero, ← hquote]
  tauto

/-- The totals of the candle fit the storage schema. -/
def Candle.TotalsFit (c : Candle) : Prop :=
  c.volume < 10 ^ 20 ∧ ∀ q ∈ c.quoteVolume, q < 10 ^ 20

/-- A total of multiples of the smallest unit is one. -/
theorem total_scaled {α : Type} {f : α → Option ℚ} {l : List α}
    (h : ∀ x ∈ l, ∀ q ∈ f x, ∃ n : ℤ, q * 10 ^ 18 = n) :
    ∀ q ∈ total f l, ∃ n : ℤ, q * 10 ^ 18 = n := by
  induction l with
  | nil =>
    intro q hq
    cases hq
    exact ⟨0, by simp⟩
  | cons x l ih =>
    intro q hq
    rw [total_cons, Option.mem_def, Option.bind_eq_some_iff] at hq
    obtain ⟨a, ha, hq⟩ := hq
    obtain ⟨b, hb, rfl⟩ := Option.map_eq_some_iff.mp hq
    obtain ⟨n, hn⟩ := h x List.mem_cons_self a ha
    obtain ⟨m, hm⟩ := ih (fun y hy => h y (List.mem_cons_of_mem x hy)) b hb
    exact ⟨n + m, by rw [add_mul, hn, hm]; push_cast; ring⟩

theorem total_volume (components : List Candle) :
    total (fun c : Candle => some c.volume) components =
      some (components.map (·.volume)).sum := by
  induction components with
  | nil => rfl
  | cons c components ih =>
    rw [total_cons, ih]
    simp

/-- **An aggregated candle is storable exactly when its totals fit.** -/
theorem Aggregated.storable_iff {components : List Candle} {w : Instant} {tf : Timeframe}
    {label : String} {c : Candle} (h : Aggregated components w tf label c)
    (hvalid : ∀ x ∈ components, validateCandleSerialization x false = .ok ())
    (hw : (1000 : ℤ) ∣ w) (htf : (1000 : ℤ) ∣ tf.duration) :
    validateCandleSerialization c false = .ok () ↔ c.TotalsFit := by
  have hprices : fitsDecimal128 c.openPrice = .ok () ∧ fitsDecimal128 c.high = .ok () ∧
      fitsDecimal128 c.low = .ok () ∧ fitsDecimal128 c.close = .ok () := by
    obtain ⟨x, hx, hopening⟩ := Option.map_eq_some_iff.mp h.opening
    obtain ⟨y, hy, hclose⟩ := Option.map_eq_some_iff.mp h.closing
    obtain ⟨u, hu, hhigh⟩ := List.mem_map.mp h.high.1
    obtain ⟨v, hv, hlow⟩ := List.mem_map.mp h.low.1
    have hopen : x.openPrice = c.openPrice := congrArg (fun o => o.2.2.2) hopening
    rw [← hopen, ← hclose, ← hhigh, ← hlow]
    exact ⟨(validateCandleSerialization_iff.mp (hvalid x (List.mem_of_head? hx))).1.1,
      (validateCandleSerialization_iff.mp (hvalid u hu)).1.2.1,
      (validateCandleSerialization_iff.mp (hvalid v hv)).1.2.2.1,
      (validateCandleSerialization_iff.mp (hvalid y (List.mem_of_getLast? hy))).1.2.2.2⟩
  have hvolume : fitsDecimal128 c.volume = .ok () ↔ c.volume < 10 ^ 20 := by
    rw [fitsDecimal128_eq_ok, abs_of_nonneg c.volume_nonneg]
    refine and_iff_right (total_scaled (f := fun c : Candle => some c.volume) ?_ c.volume
      (by rw [total_volume, ← h.volume]; rfl))
    rintro x hx q ⟨⟩
    exact (fitsDecimal128_eq_ok.mp (validateCandleSerialization_iff.mp (hvalid x hx)).2.1.1).1
  have hquote : ∀ q ∈ c.quoteVolume, fitsDecimal128 q = .ok () ↔ q < 10 ^ 20 := by
    intro q hq
    rw [fitsDecimal128_eq_ok, abs_of_nonneg (c.quoteVolume_nonneg q hq)]
    refine and_iff_right (total_scaled (f := fun c : Candle => c.quoteVolume) ?_ q
      (by rw [← h.quoteVolume]; exact hq))
    intro x hx p hp
    exact (fitsDecimal128_eq_ok.mp
      ((validateCandleSerialization_iff.mp (hvalid x hx)).2.1.2 p hp)).1
  rw [validateCandleSerialization_iff, Candle.TotalsFit, hvolume, h.openTime, h.closeTime]
  refine ⟨fun hc => ⟨hc.2.1.1, fun q hq => (hquote q hq).mp (hc.2.1.2 q hq)⟩, fun hc =>
    ⟨hprices, ⟨hc.1, fun q hq => (hquote q hq).mpr (hc.2 q hq)⟩, hw, ?_⟩⟩
  exact (dvd_add hw htf).sub (dvd_refl 1000)

/-! ### The resampler -/

/-- The candle of a window is made of its group. -/
theorem aggregated_of_windowCandle {d : DerivedSeries} {size : ℤ} {components : List Candle}
    {w : Instant} {c : Candle} (hw : d.target.validateOpenTime w = true)
    (h : windowCandle d size components w = some c) :
    Aggregated components w d.target d.targetSource c := by
  obtain ⟨c', hc', hmade⟩ := windowCandle_of_complete hw
    ((windowCandle_isSome_iff hw).mp (by rw [h]; rfl))
  rw [h] at hc'
  cases hc'
  exact hmade

/-- The window an instant of the range falls in. -/
theorem groupStart_mem_windowStarts {d : DerivedSeries} {r : DataRange} {t : ℤ}
    (haligned : d.target.duration ∣ r.start) (hstart : r.start ≤ t) (hstop : t < r.stop) :
    groupStart t d.target ∈ windowStarts r d.target.duration ∧
      d.target.duration ∣ groupStart t d.target ∧ groupStart t d.target ≤ t ∧
      t < groupStart t d.target + d.target.duration := by
  have hdvd : d.target.duration ∣ groupStart t d.target := by
    rw [groupStart, d.target_spec.1, zero_add]
    exact Dvd.intro_left _ rfl
  obtain ⟨hlo, hhi⟩ := (groupStart_eq_iff hdvd).mp rfl
  refine ⟨(mem_windowStarts d.target.duration_pos).mpr ⟨?_, hlo.trans_lt hstop, hdvd.sub haligned⟩,
    hdvd, hlo, hhi⟩
  obtain ⟨p, hp⟩ := haligned
  obtain ⟨q, hq⟩ := hdvd
  have hlt : d.target.duration * p < d.target.duration * (q + 1) := by
    rw [mul_add, mul_one, ← hp, ← hq]
    exact hstart.trans_lt hhi
  rw [hp, hq]
  exact mul_le_mul_of_nonneg_left (Int.lt_add_one_iff.mp
    (lt_of_mul_lt_mul_left hlt d.target.duration_pos.le)) d.target.duration_pos.le

/-- **How the source candles are used**: the totals of a candle are those of its group, and a source
candle of a complete group is in the group of exactly one candle. -/
theorem resample_uses {Digest : Type} {canonicalDigest : List Candle → Digest}
    {candles : List Candle} {plan : ResamplingPlan} {r : ResamplingResult Digest}
    (hsize : validateTimeframes plan.series.source plan.series.target = .ok plan.groupSize)
    (haligned : plan.series.target.validateOpenTime plan.dataRange.start = true)
    (hr : resample .exact canonicalDigest candles plan = .ok r) :
    (∀ c ∈ r.candles, ∀ components,
      components = windowGroup candles plan.series.target c.openTime →
      c.volume = (components.map (·.volume)).sum ∧
        c.quoteVolume = total (·.quoteVolume) components ∧
        c.tradeCount = total (·.tradeCount) components) ∧
    ∀ x ∈ candles, ∀ w, w = groupStart x.openTime plan.series.target →
      completeGroup (windowGroup candles plan.series.target w) w plan.series.source
        plan.series.target plan.groupSize = true →
      ∃! c, c ∈ r.candles ∧ x ∈ windowGroup candles plan.series.target c.openTime := by
  obtain ⟨hiff, hvalue⟩ := resample_exact canonicalDigest candles hsize haligned
  obtain ⟨hcandles, -⟩ := hvalue r hr
  obtain ⟨⟨_, hchecks⟩, -⟩ := hiff.mp ⟨r, hr⟩
  obtain ⟨hvalid, -, -⟩ := (foldlM_checkSource_iff none).mp ⟨_, hchecks⟩
  have hmem : ∀ c ∈ r.candles, c.openTime ∈
      windowStarts plan.dataRange plan.series.target.duration ∧
      windowCandle plan.series plan.groupSize
        (windowGroup candles plan.series.target c.openTime) c.openTime = some c := by
    intro c hc
    rw [hcandles] at hc
    obtain ⟨w, hw, hcandle⟩ := List.mem_filterMap.mp hc
    obtain rfl := windowCandle_openTime hcandle
    exact ⟨hw, hcandle⟩
  constructor
  · rintro c hc components rfl
    obtain ⟨hw, hcandle⟩ := hmem c hc
    have hmade := aggregated_of_windowCandle
      (validateOpenTime_of_mem_windowStarts haligned hw) hcandle
    exact ⟨hmade.volume, hmade.quoteVolume, hmade.tradeCount⟩
  · rintro x hx w rfl hcomplete
    obtain ⟨-, -, hstart, hstop⟩ := hvalid x hx
    obtain ⟨hw, hdvd, -, -⟩ := groupStart_mem_windowStarts
      ((validateOpenTime_iff plan.series _).mp haligned) hstart hstop
    set w := groupStart x.openTime plan.series.target with hwdef
    obtain ⟨c, hc, hmade⟩ := windowCandle_of_complete
      ((validateOpenTime_iff plan.series w).mpr hdvd) hcomplete
    have hin : x ∈ windowGroup candles plan.series.target w :=
      List.mem_filter.mpr ⟨hx, by simp [hwdef]⟩
    refine ⟨c, ⟨?_, ?_⟩, fun c' ⟨hc', hx'⟩ => ?_⟩
    · rw [hcandles]
      exact List.mem_filterMap.mpr ⟨w, hw, hc⟩
    · rwa [hmade.openTime]
    · have hsame : w = c'.openTime := by simpa [hwdef] using (List.mem_filter.mp hx').2
      have hcandle := (hmem c' hc').2
      rw [← hsame, hc] at hcandle
      exact (Option.some.inj hcandle).symm

/-- A window of an aligned range lies in it. -/
theorem window_le_stop {r : DataRange} {d w : ℤ} (hd : 0 < d) (hw : w ∈ windowStarts r d)
    (hspan : d ∣ r.stop - r.start) : w + d ≤ r.stop := by
  obtain ⟨-, hlt, hdvd⟩ := (mem_windowStarts hd).mp hw
  have hrest : d ∣ r.stop - w := by
    have h := hspan.sub hdvd
    rwa [sub_sub_sub_cancel_right] at h
  have hle := Int.le_of_dvd (sub_pos.mpr hlt) hrest
  linarith

namespace Chained

variable {plan₁ plan₂ plan : ResamplingPlan}

theorem sourceIdentity₁ (h : Chained plan₁ plan₂ plan) :
    plan₁.series.sourceIdentity = plan.series.sourceIdentity := by
  simp [DerivedSeries.sourceIdentity, h.source, h.exchange.1, h.marketType.1, h.symbol.1]

theorem sourceIdentity₂ (h : Chained plan₁ plan₂ plan) :
    plan₂.series.sourceIdentity = plan₁.series.targetIdentity := by
  simp [DerivedSeries.sourceIdentity, DerivedSeries.targetIdentity, h.middle, h.exchange,
    h.marketType, h.symbol]

theorem checkSource₁ (h : Chained plan₁ plan₂ plan) : checkSource plan₁ = checkSource plan := by
  funext previous c
  rw [checkSource, checkSource, h.sourceIdentity₁, h.range.1]

/-- How many windows of one cadence make one of the next. -/
theorem sizes (h : Chained plan₁ plan₂ plan) : ∃ g k : ℕ, 0 < k ∧ plan₁.groupSize = g ∧
    plan₂.groupSize = k ∧ plan.groupSize = ((k * g : ℕ) : ℤ) ∧
    plan₁.series.target.duration = g * plan₁.series.source.duration ∧
    plan.series.target.duration = k * plan₁.series.target.duration := by
  obtain ⟨g, hg, -, hgd⟩ := duration_of_validateTimeframes h.size₁
  obtain ⟨k, hk, hkpos, hkd⟩ := duration_of_validateTimeframes h.size₂
  obtain ⟨n, hn, -, hnd⟩ := duration_of_validateTimeframes h.size
  rw [h.target, h.middle] at hkd
  refine ⟨g, k, hkpos, hg, hk, ?_, hgd, hkd⟩
  rw [hn]
  have hpos := plan.series.source.duration_pos
  refine mul_right_cancel₀ hpos.ne' ?_
  rw [← hnd, hkd, hgd, h.source]
  push_cast
  ring

theorem dvd (h : Chained plan₁ plan₂ plan) :
    plan.series.target.duration ∣ plan.dataRange.start ∧
      plan.series.target.duration ∣ plan.dataRange.stop ∧
      plan₁.series.target.duration ∣ plan.series.target.duration := by
  obtain ⟨g, k, -, -, -, -, -, hk⟩ := h.sizes
  exact ⟨(validateOpenTime_iff _ _).mp h.aligned.1, (validateOpenTime_iff _ _).mp h.aligned.2,
    ⟨k, by rw [hk, mul_comm]⟩⟩

/-- **One window, of the plans.** -/
theorem window (h : Chained plan₁ plan₂ plan) {candles : List Candle}
    (hsorted : candles.Pairwise fun c c' => c.openTime < c'.openTime) {w : ℤ}
    (hw : w ∈ windowStarts plan.dataRange plan.series.target.duration) :
    let starts := windowStarts plan.dataRange plan₁.series.target.duration
    let first := fun v => windowCandle plan₁.series plan₁.groupSize
      (windowGroup candles plan₁.series.target v) v
    let direct := windowCandle plan.series plan.groupSize
      (windowGroup candles plan.series.target w) w
    let second := windowCandle plan₂.series plan₂.groupSize
      (windowGroup (starts.filterMap first) plan₂.series.target w) w
    (direct ≠ none ↔ ∀ v ∈ starts, w ≤ v → v < w + plan.series.target.duration →
        first v ≠ none) ∧ second.map Candle.unlabelled = direct.map Candle.unlabelled := by
  intro starts first direct second
  obtain ⟨g, k, hkpos, hg, hk, hn, hgd, hkd⟩ := h.sizes
  obtain ⟨hstart, hstop, hdvd⟩ := h.dvd
  obtain ⟨hlo, -, hoffset⟩ := (mem_windowStarts plan.series.target.duration_pos).mp hw
  have hdvdw : plan.series.target.duration ∣ w := by
    have := dvd_add hoffset hstart
    rwa [sub_add_cancel] at this
  have hhi := window_le_stop plan.series.target.duration_pos hw (hstop.sub hstart)
  obtain ⟨hiff, hsame⟩ := windowCandle_composes (r := plan.dataRange) h.source h.middle h.target hgd
    hkd hkpos hsorted hstart hdvdw hlo hhi
  rw [← hg, ← hn] at hiff
  rw [← hg, ← hk, ← hn] at hsame
  refine ⟨hiff.trans ?_, hsame⟩
  have hparts := between_windowStarts plan₁.series.target.duration_pos hlo (by rwa [← hkd])
    (hdvd.trans hoffset)
  rw [← hkd] at hparts
  constructor
  · intro hall v hv hle hlt
    have hmem : v ∈ between id starts w (w + plan.series.target.duration) :=
      mem_between.mpr ⟨hv, hle, hlt⟩
    rw [hparts] at hmem
    obtain ⟨j, hj, rfl⟩ := List.mem_map.mp hmem
    exact hall j (List.mem_range.mp hj)
  · intro hall j hj
    have hmem : w + (j : ℤ) * plan₁.series.target.duration ∈
        between id starts w (w + plan.series.target.duration) := by
      rw [hparts]
      exact List.mem_map.mpr ⟨j, List.mem_range.mpr hj, rfl⟩
    obtain ⟨hv, hle, hlt⟩ := mem_between.mp hmem
    exact hall _ hv hle hlt

/-- Every window in between lies in one of the last cadence. -/
theorem forall_windows_iff (h : Chained plan₁ plan₂ plan) {P : ℤ → Prop} :
    (∀ w ∈ windowStarts plan.dataRange plan.series.target.duration,
        ∀ v ∈ windowStarts plan.dataRange plan₁.series.target.duration, w ≤ v →
          v < w + plan.series.target.duration → P v) ↔
      ∀ v ∈ windowStarts plan.dataRange plan₁.series.target.duration, P v := by
  refine ⟨fun hall v hv => ?_, fun hall w _ v hv _ _ => hall v hv⟩
  obtain ⟨hlo, hhi, -⟩ := (mem_windowStarts plan₁.series.target.duration_pos).mp hv
  obtain ⟨hw, -, hle, hlt⟩ := groupStart_mem_windowStarts h.dvd.1 hlo hhi
  exact hall _ hw v hv hle hlt

end Chained

/-- Windows that have the same candles, up to their labels. -/
theorem same_of_unlabelled {l : List ℤ} {f g : ℤ → Option Candle}
    (h : ∀ w ∈ l, (f w).map Candle.unlabelled = (g w).map Candle.unlabelled) {α : Type}
    (range : ℤ → α) :
    (l.filterMap f).map Candle.unlabelled = (l.filterMap g).map Candle.unlabelled ∧
      (l.filter fun w => (f w).isNone).map range = (l.filter fun w => (g w).isNone).map range := by
  constructor
  · rw [List.map_filterMap, List.map_filterMap]
    exact List.filterMap_congr h
  · congr 1
    refine List.filter_congr fun w hw => ?_
    have hw' := congrArg Option.isNone (h w hw)
    rwa [Option.isNone_map, Option.isNone_map] at hw'

/-- What the second step checks of a candle in between. -/
theorem checks_of_first {plan₁ plan₂ plan : ResamplingPlan} (h : Chained plan₁ plan₂ plan)
    {candles : List Candle}
    (hvalid : ∀ c ∈ candles, validateCandleSerialization c false = .ok () ∧
      c.identity = plan.series.sourceIdentity) {v : ℤ} {c : Candle}
    (hv : v ∈ windowStarts plan.dataRange plan₁.series.target.duration)
    (hc : windowCandle plan₁.series plan₁.groupSize
      (windowGroup candles plan₁.series.target v) v = some c) :
    (validateCandleSerialization c false = .ok () ↔ c.TotalsFit) ∧
      c.identity = plan₂.series.sourceIdentity ∧ plan₂.dataRange.start ≤ c.openTime ∧
      c.openTime < plan₂.dataRange.stop := by
  obtain ⟨hstart, -, hdvd⟩ := h.dvd
  obtain ⟨hlo, hhi, hoffset⟩ := (mem_windowStarts plan₁.series.target.duration_pos).mp hv
  have hdvdv : plan₁.series.target.duration ∣ v := by
    have := dvd_add hoffset (hdvd.trans hstart)
    rwa [sub_add_cancel] at this
  have hmade := aggregated_of_windowCandle ((validateOpenTime_iff plan₁.series v).mpr hdvdv) hc
  have hms := plan₁.series.target_spec.2.2
  refine ⟨hmade.storable_iff (fun x hx => (hvalid x (List.mem_filter.mp hx).1).1)
    (hms.trans hdvdv) hms, ?_, ?_, ?_⟩
  · obtain ⟨x, hx, hopening⟩ := Option.map_eq_some_iff.mp hmade.opening
    have hid := (hvalid x (List.mem_filter.mp (List.mem_of_head? hx)).1).2
    have hexchange : c.exchange = plan.series.exchange :=
      (congrArg (fun o => o.1) hopening).symm.trans (congrArg (fun o => o.1) hid)
    have hmarket : c.marketType = plan.series.marketType :=
      (congrArg (fun o => o.2.1) hopening).symm.trans (congrArg (fun o => o.2.1) hid)
    have hsymbol : c.symbol = plan.series.symbol :=
      (congrArg (fun o => o.2.2.1) hopening).symm.trans (congrArg (fun o => o.2.2.1) hid)
    rw [h.sourceIdentity₂, Candle.identity, DerivedSeries.targetIdentity, hmade.timeframe,
      hexchange, hmarket, hsymbol, h.exchange.1, h.marketType.1, h.symbol.1]
  · rw [h.range.2, hmade.openTime]
    exact hlo
  · rw [h.range.2, hmade.openTime]
    exact hhi

/-- **Resampling in two steps is resampling directly.**  Both ways pass the first resampling
together; the second step then returns exactly when the totals of every candle in between fit the
storage schema, with the candles of the direct way, up to their labels, and the same skipped ranges.
The totals of a candle are those of its group, and every source candle of a complete group is in the
group of exactly one candle. -/
theorem resample_composes {Digest : Type} (canonicalDigest : List Candle → Digest)
    {plan₁ plan₂ plan : ResamplingPlan} (h : Chained plan₁ plan₂ plan) (candles : List Candle) :
    let direct := resample .exact canonicalDigest candles plan
    let first := resample .exact canonicalDigest candles plan₁
    ((∃ r, direct = .ok r) ↔ ∃ r₁, first = .ok r₁) ∧
    ∀ r r₁, direct = .ok r → first = .ok r₁ →
      let second := resample .exact canonicalDigest r₁.candles plan₂
      ((∃ r₂, second = .ok r₂) ↔ ∀ c ∈ r₁.candles, c.TotalsFit) ∧
      (∀ r₂, second = .ok r₂ →
        r₂.candles.map Candle.unlabelled = r.candles.map Candle.unlabelled ∧
        r₂.skippedRanges = r.skippedRanges) ∧
      (∀ c ∈ r.candles, ∀ components,
        components = windowGroup candles plan.series.target c.openTime →
        c.volume = (components.map (·.volume)).sum ∧
          c.quoteVolume = total (·.quoteVolume) components ∧
          c.tradeCount = total (·.tradeCount) components) ∧
      ∀ x ∈ candles, ∀ w, w = groupStart x.openTime plan.series.target →
        completeGroup (windowGroup candles plan.series.target w) w plan.series.source
          plan.series.target plan.groupSize = true →
        ∃! c, c ∈ r.candles ∧ x ∈ windowGroup candles plan.series.target c.openTime := by
  intro direct first
  obtain ⟨hstart, -, hdvd⟩ := h.dvd
  have haligned₁ : plan₁.series.target.validateOpenTime plan₁.dataRange.start = true := by
    rw [h.range.1, validateOpenTime_iff]
    exact hdvd.trans hstart
  have haligned₂ : plan₂.series.target.validateOpenTime plan₂.dataRange.start = true := by
    rw [h.range.2, h.target]
    exact h.aligned.1
  obtain ⟨hiff, hvalue⟩ := resample_exact canonicalDigest candles h.size h.aligned.1
  obtain ⟨hiff₁, hvalue₁⟩ := resample_exact canonicalDigest candles h.size₁ haligned₁
  rw [h.range.1, h.checkSource₁, h.policy.1] at hiff₁
  simp only [h.range.1] at hvalue₁
  constructor
  · change (∃ r, resample .exact canonicalDigest candles plan = .ok r) ↔
      ∃ r₁, resample .exact canonicalDigest candles plan₁ = .ok r₁
    rw [hiff, hiff₁]
    refine and_congr_right fun ⟨_, hchecks⟩ => imp_congr_right fun _ => ?_
    obtain ⟨-, hsorted, -⟩ := (foldlM_checkSource_iff none).mp ⟨_, hchecks⟩
    rw [← h.forall_windows_iff]
    exact forall₂_congr fun w hw => (h.window hsorted hw).1
  · intro r r₁ hr hr₁ second
    obtain ⟨⟨_, hchecks⟩, hstrict⟩ := hiff.mp ⟨r, hr⟩
    obtain ⟨hvalid, hsorted, -⟩ := (foldlM_checkSource_iff none).mp ⟨_, hchecks⟩
    obtain ⟨hcandles, hskipped⟩ := hvalue r hr
    obtain ⟨hcandles₁, -⟩ := hvalue₁ r₁ hr₁
    obtain ⟨hiff₂, hvalue₂⟩ :=
      resample_exact canonicalDigest r₁.candles h.size₂ haligned₂
    rw [h.range.2, h.policy.2] at hiff₂
    simp only [h.range.2] at hvalue₂
    have hsecond : ∀ w ∈ windowStarts plan.dataRange plan.series.target.duration,
        (windowCandle plan₂.series plan₂.groupSize
          (windowGroup r₁.candles plan₂.series.target w) w).map Candle.unlabelled =
        (windowCandle plan.series plan.groupSize
          (windowGroup candles plan.series.target w) w).map Candle.unlabelled := by
      intro w hw
      rw [hcandles₁]
      exact (h.window hsorted hw).2
    have hmem : ∀ c ∈ r₁.candles, (validateCandleSerialization c false = .ok () ↔ c.TotalsFit) ∧
        c.identity = plan₂.series.sourceIdentity ∧ plan₂.dataRange.start ≤ c.openTime ∧
        c.openTime < plan₂.dataRange.stop := by
      intro c hc
      rw [hcandles₁] at hc
      obtain ⟨v, hv, hcandle⟩ := List.mem_filterMap.mp hc
      exact checks_of_first h (fun x hx => ⟨(hvalid x hx).1, (hvalid x hx).2.1⟩) hv hcandle
    have hsorted₁ : r₁.candles.Pairwise fun c c' => c.openTime < c'.openTime := by
      rw [hcandles₁, List.pairwise_filterMap]
      refine (windowStarts_sorted plan₁.series.target.duration_pos).imp ?_
      intro v v' hlt c hc c' hc'
      rw [windowCandle_openTime hc, windowCandle_openTime hc']
      exact hlt
    refine ⟨?_, fun r₂ hr₂ => ?_, resample_uses h.size h.aligned.1 hr⟩
    · change (∃ r₂, resample .exact canonicalDigest r₁.candles plan₂ = .ok r₂) ↔ _
      rw [hiff₂, foldlM_checkSource_iff]
      constructor
      · rintro ⟨⟨hvalid₂, -, -⟩, -⟩ c hc
        exact (hmem c hc).1.mp (hvalid₂ c hc).1
      · intro hfit
        refine ⟨⟨fun c hc => ⟨(hmem c hc).1.mpr (hfit c hc), (hmem c hc).2⟩, hsorted₁,
          fun p hp => absurd hp (Option.not_mem_none p)⟩, fun hs w hw hnone => ?_⟩
        rw [h.target] at hw
        have hw' := hsecond w hw
        dsimp only at hnone
        rw [hnone, Option.map_none] at hw'
        exact hstrict hs w hw (Option.map_eq_none_iff.mp hw'.symm)
    · obtain ⟨hcandles₂, hskipped₂⟩ := hvalue₂ r₂ hr₂
      rw [h.target] at hcandles₂ hskipped₂
      rw [h.target] at hsecond
      rw [hcandles₂, hskipped₂, hcandles, hskipped]
      exact same_of_unlabelled hsecond _

/-! ### Fifteen minutes -/

/-- The RAW candle of a minute, with a volume. -/
def minuteCandle (volume : ℕ) (i : ℕ) : Candle where
  exchange := .binance
  marketType := .spot
  symbol := "BTCUSDT"
  timeframe := timeframe1m
  openTime := 60000000 * i
  closeTime := 60000000 * i + 60000000 - 1000
  openPrice := 100
  high := 100
  low := 100
  close := 100
  volume := volume
  quoteVolume := none
  tradeCount := none
  isClosed := true
  source := "binance"
  openTime_aligned := by simp [Timeframe.validateOpenTime, timeframe1m, minuteTimeframe]
  openTime_lt_closeTime := by linarith
  high_ge := by simp
  low_le := by simp
  volume_nonneg := by positivity
  quoteVolume_nonneg := Candle.quoteVolume_none
  tradeCount_nonneg := Candle.tradeCount_none

/-- The first fifteen minutes, of one cadence in another. -/
def quarterPlan (source target : Timeframe) (h : (source, target) ∈ supportedResampling) :
    ResamplingPlan where
  series := {
    exchange := .binance
    marketType := .spot
    symbol := "BTCUSDT"
    source := source
    target := target
    gapPolicy := .skipIncomplete
    schemaVersion := 1
    supported := h }
  dataRange := ⟨0, 900000000, by decide⟩
  sourceDatasetVersion := "v1"
  sourceChecksum := "v1"
  sourceCandles := 900000000 / source.duration
  expectedGroups := 900000000 / target.duration
  estimatedPartitions := 1
  groupSize := target.duration / source.duration
  sourceVersionAlgorithm := "sha256"

/-- From minutes to five minutes, from there to fifteen, and directly. -/
theorem chained_quarter : Chained (quarterPlan timeframe1m timeframe5m (by decide))
    (quarterPlan timeframe5m timeframe15m (by decide))
    (quarterPlan timeframe1m timeframe15m (by decide)) := by
  refine ⟨rfl, rfl, rfl, ⟨rfl, rfl⟩, ⟨rfl, rfl⟩, ⟨rfl, rfl⟩, ⟨rfl, rfl⟩, ⟨rfl, rfl⟩, ?_, rfl, rfl,
    rfl⟩
  decide

/-- Fifteen minutes, resampled directly and to five minutes. -/
theorem quarter_returns : ∃ r r₁,
    resample .exact id ((List.range 15).map (minuteCandle 1))
      (quarterPlan timeframe1m timeframe15m (by decide)) = .ok r ∧
    resample .exact id ((List.range 15).map (minuteCandle 1))
      (quarterPlan timeframe1m timeframe5m (by decide)) = .ok r₁ ∧
    ∀ c ∈ r₁.candles, c.TotalsFit := by
  have hrun : ((resample .exact id ((List.range 15).map (minuteCandle 1))
      (quarterPlan timeframe1m timeframe15m (by decide))).toOption.map fun _ =>
        (resample .exact id ((List.range 15).map (minuteCandle 1))
          (quarterPlan timeframe1m timeframe5m (by decide))).toOption.map fun r₁ =>
            r₁.candles.all fun c => decide (c.volume < 10 ^ 20) && c.quoteVolume.isNone) =
              some (some true) := by
    decide +kernel
  cases hr : resample .exact id ((List.range 15).map (minuteCandle 1))
      (quarterPlan timeframe1m timeframe15m (by decide)) with
  | error e =>
    rw [hr] at hrun
    cases hrun
  | ok r =>
    cases hr₁ : resample .exact id ((List.range 15).map (minuteCandle 1))
        (quarterPlan timeframe1m timeframe5m (by decide)) with
    | error e =>
      rw [hr, hr₁] at hrun
      cases hrun
    | ok r₁ =>
      rw [hr, hr₁] at hrun
      simp only [Except.toOption, Option.map_some, Option.some.injEq, List.all_eq_true,
        Bool.and_eq_true, decide_eq_true_eq, Option.isNone_iff_eq_none] at hrun
      refine ⟨r, r₁, rfl, rfl, fun c hc => ⟨(hrun c hc).1, fun q hq => ?_⟩⟩
      rw [(hrun c hc).2] at hq
      cases hq

/-- Both ways, for fifteen minutes. -/
theorem resample_composes_quarter : ∃ r r₁ r₂,
    resample .exact id ((List.range 15).map (minuteCandle 1))
      (quarterPlan timeframe1m timeframe15m (by decide)) = .ok r ∧
    resample .exact id ((List.range 15).map (minuteCandle 1))
      (quarterPlan timeframe1m timeframe5m (by decide)) = .ok r₁ ∧
    resample .exact id r₁.candles (quarterPlan timeframe5m timeframe15m (by decide)) = .ok r₂ ∧
    r₂.candles.map Candle.unlabelled = r.candles.map Candle.unlabelled := by
  obtain ⟨r, r₁, hr, hr₁, hfit⟩ := quarter_returns
  obtain ⟨hsecond, hsame, -⟩ := (resample_composes id chained_quarter _).2 r r₁ hr hr₁
  obtain ⟨r₂, hr₂⟩ := hsecond.mpr hfit
  exact ⟨r, r₁, r₂, hr, hr₁, hr₂, (hsame r₂ hr₂).1⟩

/-- **Volumes that are storable, whose sum is not**: the direct way makes a candle of fifteen
minutes, and the second step refuses the candles of five. -/
theorem second_step_refuses : Chained (quarterPlan timeframe1m timeframe5m (by decide))
      (quarterPlan timeframe5m timeframe15m (by decide))
      (quarterPlan timeframe1m timeframe15m (by decide)) ∧
    ∃ r r₁,
    resample .exact id ((List.range 15).map (minuteCandle (5 * 10 ^ 19)))
      (quarterPlan timeframe1m timeframe15m (by decide)) = .ok r ∧
    resample .exact id ((List.range 15).map (minuteCandle (5 * 10 ^ 19)))
      (quarterPlan timeframe1m timeframe5m (by decide)) = .ok r₁ ∧ r.candles.length = 1 ∧
    ∀ r₂, resample .exact id r₁.candles (quarterPlan timeframe5m timeframe15m (by decide)) ≠
      .ok r₂ := by
  refine ⟨chained_quarter, ?_⟩
  have hrun : ((resample .exact id ((List.range 15).map (minuteCandle (5 * 10 ^ 19)))
      (quarterPlan timeframe1m timeframe15m (by decide))).toOption.map fun r =>
        ((resample .exact id ((List.range 15).map (minuteCandle (5 * 10 ^ 19)))
          (quarterPlan timeframe1m timeframe5m (by decide))).toOption.map fun r₁ =>
            (r.candles.length, (resample .exact id r₁.candles
              (quarterPlan timeframe5m timeframe15m (by decide))).toOption.isNone))) =
                some (some (1, true)) := by
    decide +kernel
  cases hr : resample .exact id ((List.range 15).map (minuteCandle (5 * 10 ^ 19)))
      (quarterPlan timeframe1m timeframe15m (by decide)) with
  | error e =>
    rw [hr] at hrun
    cases hrun
  | ok r =>
    cases hr₁ : resample .exact id ((List.range 15).map (minuteCandle (5 * 10 ^ 19)))
        (quarterPlan timeframe1m timeframe5m (by decide)) with
    | error e =>
      rw [hr, hr₁] at hrun
      cases hrun
    | ok r₁ =>
      rw [hr, hr₁] at hrun
      simp only [Except.toOption, Option.map_some, Option.some.injEq, Prod.mk.injEq] at hrun
      refine ⟨r, r₁, rfl, rfl, hrun.1, fun r₂ hr₂ => ?_⟩
      rw [hr₂] at hrun
      exact absurd hrun.2 (by simp)

end MarketData
end DryTrade
