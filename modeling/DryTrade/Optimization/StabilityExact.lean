import DryTrade.Growth
import DryTrade.OrderStatistics
import DryTrade.SignificantDigits
import DryTrade.Optimization.Stability

/-!
# Stability assessments are exact and monotone

Every number the analysis computes from scores within the canonical limit has fewer digits than its
context, so nothing is rounded, and each control compares exact rationals.  Better scores on the
holdouts lower every degradation, hence their median and their maximum, and turn no control from
passed to failed.

## Main definitions

* `exactControl` — what a control says, in exact arithmetic.
* `Buildable` — the numbers of a report are within the canonical limit.
* `Improved` — a fold with a score that is at least as good.

## Main results

* `ratioAtLeast_iff`, `ratioAtMost_iff` — ratios are compared without rounding.
* `distributionFor_eq_ok` — the distribution of some values.
* `controlsFor_exact` — the controls.
* `exactControl_mono` — better scores.
* `stability_exact_and_monotone` — the reports.
-/

namespace DryTrade
namespace Optimization

open Decimal (rounded)

/-! ### Thresholds -/

theorem decimalFraction_spec (d : Decimal) :
    0 < (decimalFraction d).2 ∧ d.value = (decimalFraction d).1 / (decimalFraction d).2 := by
  have hcoefficient :
      (((if d.negative = true then -d.coefficient else d.coefficient : ℤ) : ℤ) : ℚ) =
        (if d.negative then -1 else 1) * d.coefficient := by
    cases d.negative <;> simp
  unfold decimalFraction
  dsimp only
  rcases d.exponent_cases with ⟨e, he⟩ | ⟨e, hpos, he⟩
  · rw [if_pos (by omega), he, Int.toNat_natCast]
    refine ⟨one_pos, ?_⟩
    push_cast at hcoefficient ⊢
    rw [hcoefficient, Decimal.value, he, zpow_natCast, div_one]
  · rw [if_neg (by omega), he, neg_neg, Int.toNat_natCast]
    refine ⟨by positivity, ?_⟩
    push_cast at hcoefficient ⊢
    rw [hcoefficient, Decimal.value, he, zpow_neg, zpow_natCast, div_eq_mul_inv]

/-- **Ratios are compared without rounding.** -/
theorem ratioAtLeast_iff {ratio : ExactRatio} (hpos : 0 < ratio.denominator) (threshold : Decimal) :
    ratioAtLeast ratio threshold = true ↔
      threshold.value ≤ (ratio.numerator : ℚ) / ratio.denominator := by
  obtain ⟨hfraction, hvalue⟩ := decimalFraction_spec threshold
  have hdenominator : (0 : ℚ) < ratio.denominator := by exact_mod_cast hpos
  rw [hvalue, div_le_div_iff₀ (by exact_mod_cast hfraction) hdenominator]
  unfold ratioAtLeast
  rw [decide_eq_true_iff]
  exact_mod_cast Iff.rfl

@[inherit_doc ratioAtLeast_iff]
theorem ratioAtMost_iff {ratio : ExactRatio} (hpos : 0 < ratio.denominator) (threshold : Decimal) :
    ratioAtMost ratio threshold = true ↔
      (ratio.numerator : ℚ) / ratio.denominator ≤ threshold.value := by
  obtain ⟨hfraction, hvalue⟩ := decimalFraction_spec threshold
  have hdenominator : (0 : ℚ) < ratio.denominator := by exact_mod_cast hpos
  rw [hvalue, div_le_div_iff₀ hdenominator (by exact_mod_cast hfraction)]
  unfold ratioAtMost
  rw [decide_eq_true_iff]
  exact_mod_cast Iff.rfl

/-! ### The canonical limit -/

/-- A number whose canonical text is not too long. -/
def Canonical (q : ℚ) : Prop := ∃ d : Decimal, d.value = q ∧ d.Fits

theorem fits_iff_canonical {d : Decimal} : d.Fits ↔ Canonical d.value := by
  constructor
  · exact fun h => ⟨d, rfl, h⟩
  · rintro ⟨d', hvalue, h⟩
    unfold Decimal.Fits at h ⊢
    rwa [← Decimal.text_eq_iff.mpr hvalue]

theorem finiteDecimal_eq_ok {d v : Decimal} {label : String} :
    finiteDecimal d label = .ok v ↔ d.Fits ∧ v = d := by
  unfold finiteDecimal
  rw [Decimal.boundedText_eq]
  split
  · next h => simp [bind, Except.bind, pure, Except.pure, h, eq_comm]
  · next h => simp [bind, Except.bind, h]

/-- A number of 128 characters has at most 128 digits before its point and 128 after it. -/
def shortBound : ℤ := 10 ^ 256

/-- A number within the limit is a short integer, scaled. -/
theorem Canonical.scaled {q : ℚ} (h : Canonical q) :
    ∃ m : ℤ, q = m * 10 ^ (-128 : ℤ) ∧ |m| ≤ shortBound := by
  obtain ⟨d, rfl, hd⟩ := h
  obtain ⟨m, hm, hle⟩ := Decimal.exists_scaled_of_text_length hd
  exact ⟨m, hm, hle⟩

/-- **The context keeps short integers**, scaled. -/
theorem value_rounded_scaled {m : ℤ} (e : ℤ) (h : |m| ≤ 10 * shortBound) :
    (rounded contextDigits (m * 10 ^ e)).value = m * 10 ^ e := by
  have hbound : 10 * shortBound ≤ 10 ^ contextDigits := by
    rw [shortBound, ← pow_succ']
    exact pow_le_pow_right₀ (by norm_num) (by decide)
  have hdigits : HasDigits contextDigits ((m : ℚ) * 10 ^ e) := ⟨m, e, h.trans hbound, rfl⟩
  rw [Decimal.value_rounded, hdigits.round_eq (by decide)]

/-- The degradation of a score, without rounding. -/
def exactDegradation (direction : SelectionDirection) (validation test : ℚ) : ℚ :=
  match direction with
  | .maximize => validation - test
  | .minimize => test - validation

theorem value_rounded_sub {a b : ℚ} (ha : Canonical a) (hb : Canonical b) :
    (rounded contextDigits (a - b)).value = a - b := by
  obtain ⟨m, rfl, hm⟩ := ha.scaled
  obtain ⟨n, rfl, hn⟩ := hb.scaled
  have hle : |m - n| ≤ 10 * shortBound := by
    have hsum : |m - n| ≤ |m| + |n| := abs_sub _ _
    linarith [abs_nonneg m]
  have h := value_rounded_scaled (-128) hle
  rw [Int.cast_sub, sub_mul] at h
  exact h

theorem value_degradationOf (direction : SelectionDirection) {v t : Decimal} (hv : v.Fits)
    (ht : t.Fits) :
    (degradationOf direction v t).value = exactDegradation direction v.value t.value := by
  cases direction with
  | maximize => exact value_rounded_sub (fits_iff_canonical.mp hv) (fits_iff_canonical.mp ht)
  | minimize => exact value_rounded_sub (fits_iff_canonical.mp ht) (fits_iff_canonical.mp hv)

theorem value_halved {a b : Decimal} (ha : a.Fits) (hb : b.Fits) :
    (halved a b).value = (a.value + b.value) / 2 := by
  obtain ⟨m, hm, hmle⟩ := (fits_iff_canonical.mp ha).scaled
  obtain ⟨n, hn, hnle⟩ := (fits_iff_canonical.mp hb).scaled
  have hsum : |m + n| ≤ 2 * shortBound := (abs_add_le _ _).trans (by linarith)
  have hvalue : a.value + b.value = ((m + n : ℤ) : ℚ) * 10 ^ (-128 : ℤ) := by
    rw [hm, hn]
    push_cast
    ring
  have hhalf : ((m + n : ℤ) : ℚ) * 10 ^ (-128 : ℤ) / 2 =
      ((5 * (m + n) : ℤ) : ℚ) * 10 ^ (-129 : ℤ) := by
    have hten : (10 : ℚ) ^ (-128 : ℤ) = 10 * 10 ^ (-129 : ℤ) := by
      rw [← zpow_one_add₀ (by norm_num)]
      norm_num
    rw [hten]
    push_cast
    ring
  unfold halved
  have hfive : |5 * (m + n)| ≤ 10 * shortBound := by
    rw [abs_mul, show |(5 : ℤ)| = 5 from rfl]
    linarith
  have hwhole : |m + n| ≤ 10 * shortBound := by
    linarith [abs_nonneg (m + n)]
  rw [hvalue, value_rounded_scaled _ hwhole, hhalf, value_rounded_scaled _ hfive]

/-! ### Observations -/

/-- The completed folds. -/
def completedFolds (folds : List FoldResult) : List CompletedFold :=
  folds.filterMap fun f =>
    match f with
    | .completed fold => some fold
    | .failed _ => none

/-- How much worse the score on the holdout is. -/
def CompletedFold.degradation (direction : SelectionDirection) (f : CompletedFold) : ℚ :=
  exactDegradation direction f.validationScore.value f.testScore.value

/-- A score at least as good as another one. -/
def AsGood (direction : SelectionDirection) (a b : ℚ) : Prop :=
  match direction with
  | .maximize => a ≤ b
  | .minimize => b ≤ a

instance (direction : SelectionDirection) (a b : ℚ) : Decidable (AsGood direction a b) := by
  cases direction <;> exact Rat.instDecidableLe _ _

/-- The scores of a fold and its degradation are within the canonical limit. -/
def Admissible (direction : SelectionDirection) (f : CompletedFold) : Prop :=
  f.validationScore.Fits ∧ f.testScore.Fits ∧ Canonical (f.degradation direction)

/-- The observation of an admissible fold. -/
def observed (policy : StabilityAnalysisPolicy) (fold : CompletedFold)
    (previousParameterSetId : Option ℕ) : CompletedObservation where
  parameterSetId := fold.parameterSetId
  validationScore := fold.validationScore
  testScore := fold.testScore
  degradation := degradationOf policy.direction fold.validationScore fold.testScore
  testNotWorse := decide (AsGood policy.direction fold.validationScore.value fold.testScore.value)
  parameterChanged := previousParameterSetId.map fun previous => fold.parameterSetId != previous

/-- The observations of admissible folds. -/
def observedAll (policy : StabilityAnalysisPolicy) :
    Option ℕ → List CompletedFold → List CompletedObservation
  | _, [] => []
  | previous, fold :: folds =>
    observed policy fold previous :: observedAll policy (some fold.parameterSetId) folds

theorem completedObservation_eq_ok {policy : StabilityAnalysisPolicy} {fold : CompletedFold}
    {previous : Option ℕ} {o : CompletedObservation} :
    completedObservation policy fold previous = .ok o ↔
      Admissible policy.direction fold ∧ o = observed policy fold previous := by
  have hcanonical : fold.validationScore.Fits → fold.testScore.Fits →
      ((degradationOf policy.direction fold.validationScore fold.testScore).Fits ↔
        Canonical (fold.degradation policy.direction)) := by
    intro hv ht
    rw [fits_iff_canonical, value_degradationOf _ hv ht, CompletedFold.degradation]
  have hworse : fold.validationScore.Fits → fold.testScore.Fits →
      testIsNotWorse fold.validationScore fold.testScore policy.direction =
        .ok (decide (AsGood policy.direction fold.validationScore.value fold.testScore.value)) := by
    intro hv ht
    unfold testIsNotWorse
    rw [finiteDecimal_eq_ok.mpr ⟨hv, rfl⟩, ok_bind, finiteDecimal_eq_ok.mpr ⟨ht, rfl⟩, ok_bind]
    cases policy.direction <;> rfl
  unfold completedObservation signedDegradation
  simp only [bind_eq_ok, finiteDecimal_eq_ok]
  constructor
  · rintro ⟨d, ⟨v, ⟨hv, rfl⟩, t, ⟨ht, rfl⟩, hd, rfl⟩, w, hw, h⟩
    rw [hworse hv ht] at hw
    cases hw
    cases h
    exact ⟨⟨hv, ht, (hcanonical hv ht).mp hd⟩, rfl⟩
  · rintro ⟨⟨hv, ht, hd⟩, rfl⟩
    exact ⟨_, ⟨_, ⟨hv, rfl⟩, _, ⟨ht, rfl⟩, (hcanonical hv ht).mpr hd, rfl⟩, _, hworse hv ht, rfl⟩

/-- The observations exist exactly when every completed fold is admissible. -/
theorem observationsOf_spec (policy : StabilityAnalysisPolicy) :
    ∀ (folds : List FoldResult) (previous : Option ℕ),
      ((∃ os, observationsOf policy previous folds = .ok os) ↔
        ∀ f ∈ completedFolds folds, Admissible policy.direction f) ∧
      ∀ os, observationsOf policy previous folds = .ok os →
        os.length = folds.length ∧
          completedOf os = observedAll policy previous (completedFolds folds) := by
  intro folds
  induction folds with
  | nil =>
    intro previous
    refine ⟨iff_of_true ⟨[], rfl⟩ fun f hf => (List.not_mem_nil hf).elim, ?_⟩
    rintro os ⟨⟩
    exact ⟨rfl, rfl⟩
  | cons result folds ih =>
    intro previous
    cases result with
    | failed failure =>
      obtain ⟨hiff, hspec⟩ := ih previous
      have hfolds : completedFolds (.failed failure :: folds) = completedFolds folds := rfl
      rw [hfolds, ← hiff]
      simp only [observationsOf, bind_eq_ok, pure, Except.pure, Except.ok.injEq]
      constructor
      · constructor
        · rintro ⟨_, os, hos, rfl⟩
          exact ⟨os, hos⟩
        · rintro ⟨os, hos⟩
          exact ⟨_, os, hos, rfl⟩
      · rintro _ ⟨os, hos, rfl⟩
        obtain ⟨hlength, hcompleted⟩ := hspec os hos
        exact ⟨congrArg Nat.succ hlength, hcompleted⟩
    | completed fold =>
      obtain ⟨hiff, hspec⟩ := ih (some fold.parameterSetId)
      have hfolds : completedFolds (.completed fold :: folds) = fold :: completedFolds folds := rfl
      rw [hfolds, List.forall_mem_cons, ← hiff]
      simp only [observationsOf, bind_eq_ok, completedObservation_eq_ok, pure, Except.pure,
        Except.ok.injEq]
      constructor
      · constructor
        · rintro ⟨_, o, ⟨hfold, rfl⟩, os, hos, rfl⟩
          exact ⟨hfold, os, hos⟩
        · rintro ⟨hfold, os, hos⟩
          exact ⟨_, _, ⟨hfold, rfl⟩, os, hos, rfl⟩
      · rintro _ ⟨o, ⟨-, rfl⟩, os, hos, rfl⟩
        obtain ⟨hlength, hcompleted⟩ := hspec os hos
        exact ⟨congrArg Nat.succ hlength, congrArg (observed policy fold previous :: ·) hcompleted⟩

section

variable (policy : StabilityAnalysisPolicy)

theorem map_observedAll {α : Type} {f : CompletedObservation → α} {g : CompletedFold → α}
    (h : ∀ fold previous, f (observed policy fold previous) = g fold) :
    ∀ (folds : List CompletedFold) (previous : Option ℕ),
      (observedAll policy previous folds).map f = folds.map g := by
  intro folds
  induction folds with
  | nil => exact fun _ => rfl
  | cons fold folds ih =>
    intro previous
    rw [observedAll, List.map_cons, List.map_cons, h, ih]

theorem length_observedAll (folds : List CompletedFold) (previous : Option ℕ) :
    (observedAll policy previous folds).length = folds.length := by
  have h := congrArg List.length (map_observedAll policy (fun _ _ => rfl : ∀ fold previous,
    (observed policy fold previous).testScore = fold.testScore) folds previous)
  rwa [List.length_map, List.length_map] at h

theorem countP_testNotWorse (folds : List CompletedFold) (previous : Option ℕ) :
    (observedAll policy previous folds).countP (·.testNotWorse) =
      folds.countP fun f => AsGood policy.direction f.validationScore.value f.testScore.value := by
  have h := congrArg (List.countP id) (map_observedAll policy (fun _ _ => rfl : ∀ fold previous,
    (observed policy fold previous).testNotWorse =
      decide (AsGood policy.direction fold.validationScore.value fold.testScore.value))
    folds previous)
  rwa [List.countP_map, List.countP_map] at h

/-- The number of neighbours that differ. -/
def switches (ids : List ℕ) : ℕ := (ids.zip ids.tail).countP fun p => p.2 != p.1

theorem countP_parameterChanged (folds : List CompletedFold) :
    (observedAll policy none folds).countP (·.parameterChanged == some true) =
      switches (folds.map (·.parameterSetId)) := by
  have hrest : ∀ (folds : List CompletedFold) (id : ℕ),
      (observedAll policy (some id) folds).countP (·.parameterChanged == some true) =
        switches (id :: folds.map (·.parameterSetId)) := by
    intro folds
    induction folds with
    | nil => exact fun _ => rfl
    | cons fold folds ih =>
      intro id
      rw [observedAll, List.countP_cons, ih]
      have hsome : ∀ b : Bool, (some b == some true) = b := by decide
      simp only [switches, List.map_cons, List.tail_cons, List.zip_cons_cons, List.countP_cons,
        observed, Option.map_some, hsome]
  cases folds with
  | nil => rfl
  | cons fold folds =>
    rw [observedAll, List.countP_cons, hrest]
    rfl

end

/-! ### Distributions -/

theorem map_sortedValues (values : List Decimal) :
    (sortedValues values).map Decimal.value =
      (values.map Decimal.value).insertionSort (· ≤ ·) :=
  List.map_insertionSort _ _ _ _ fun _ _ _ _ => Iff.rfl

theorem length_sortedValues (values : List Decimal) :
    (sortedValues values).length = values.length := List.length_insertionSort _ _

theorem mem_sortedValues {values : List Decimal} {d : Decimal} :
    d ∈ sortedValues values ↔ d ∈ values := List.mem_insertionSort _

/-- The entries of the sorted values. -/
theorem getElem?_sortedValues {values : List Decimal} {i : ℕ} (h : i < values.length) :
    (sortedValues values).getD i .zero ∈ values ∧
      ((values.map Decimal.value).insertionSort (· ≤ ·))[i]? =
        some ((sortedValues values).getD i .zero).value := by
  have hi : i < (sortedValues values).length := by rwa [length_sortedValues]
  rw [List.getD_eq_getElem?_getD, ← map_sortedValues, List.getElem?_map,
    List.getElem?_eq_getElem hi, Option.getD_some]
  exact ⟨mem_sortedValues.mp (List.getElem_mem hi), rfl⟩

/-- **The median is exact**, and only the mean of the middle two may be too long. -/
theorem medianOf_spec {values : List Decimal} (hne : values ≠ []) (hfits : ∀ v ∈ values, v.Fits) :
    ∃ m : Decimal, median (values.map Decimal.value) = some m.value ∧
      medianOf (sortedValues values) = finiteDecimal m "distribution median" := by
  have hpos : 0 < values.length := List.length_pos_iff.mpr hne
  have hlength : ((values.map Decimal.value).insertionSort (· ≤ ·)).length = values.length := by
    rw [List.length_insertionSort, List.length_map]
  obtain ⟨hmem, hmiddle⟩ := getElem?_sortedValues (show values.length / 2 < values.length by omega)
  unfold median medianOf
  dsimp only
  rw [hlength, length_sortedValues]
  by_cases hodd : values.length % 2 = 1
  · rw [if_pos hodd, if_pos hodd]
    exact ⟨_, hmiddle, (finiteDecimal_eq_ok.mpr ⟨hfits _ hmem, rfl⟩).symm⟩
  · rw [if_neg hodd, if_neg hodd]
    obtain ⟨hmem', hbefore⟩ :=
      getElem?_sortedValues (show values.length / 2 - 1 < values.length by omega)
    refine ⟨_, ?_, rfl⟩
    rw [hbefore, hmiddle, value_halved (hfits _ hmem') (hfits _ hmem)]
    rfl

/-- A distribution has the exact median and the exact greatest value. -/
structure IsDistribution (values : List ℚ) (d : MetricDistribution) : Prop where
  count : d.count = values.length
  minimum : (values.insertionSort (· ≤ ·))[0]? = some d.minimum.value
  median : median values = some d.median.value
  maximum : (values.insertionSort (· ≤ ·))[values.length - 1]? = some d.maximum.value

/-- **A distribution is exact**, and fails only when its median is too long. -/
theorem distributionFor_spec {values : List Decimal} (hne : values ≠ [])
    (hfits : ∀ v ∈ values, v.Fits) (hlength : values.length ≤ maximumStabilityFolds) :
    ((∃ o, distributionFor values = .ok o) ↔
        ∀ m ∈ median (values.map Decimal.value), Canonical m) ∧
      ∀ o, distributionFor values = .ok o →
        ∃ d, o = some d ∧ IsDistribution (values.map Decimal.value) d := by
  have hpos : 0 < values.length := List.length_pos_iff.mpr hne
  obtain ⟨m, hmedian, hmedianOf⟩ := medianOf_spec hne hfits
  obtain ⟨hfirst, hleast⟩ := getElem?_sortedValues (show 0 < values.length from hpos)
  obtain ⟨hlast, hgreatest⟩ :=
    getElem?_sortedValues (show values.length - 1 < values.length by omega)
  have hgetLast : (sortedValues values).getLastD .zero =
      (sortedValues values).getD (values.length - 1) .zero := by
    rw [List.getLastD_eq_getLast?, List.getLast?_eq_getElem?, length_sortedValues,
      List.getD_eq_getElem?_getD]
  have horder := median_mem_Icc hmedian hleast (by rw [List.length_map]; exact hgreatest)
  have hnormalized : values.mapM (finiteDecimal · "distribution metric") = .ok values := by
    have hmap := mapM_eq_map (f := (finiteDecimal · "distribution metric")) (g := id)
      fun v hv => finiteDecimal_eq_ok.mpr ⟨hfits v hv, rfl⟩
    rwa [List.map_id] at hmap
  have hiff : ∀ o, distributionFor values = .ok o ↔ m.Fits ∧
      o = some ⟨values.length, (sortedValues values).getD 0 .zero, m,
        (sortedValues values).getD (values.length - 1) .zero⟩ := by
    intro o
    unfold distributionFor MetricDistribution.construct exactInt
    rw [if_neg hne, hnormalized, ok_bind]
    simp only [hmedianOf, hgetLast, length_sortedValues, bind_eq_ok, finiteDecimal_eq_ok,
      require_eq_ok, exists_const, pure, Except.pure, Except.ok.injEq]
    constructor
    · rintro ⟨_, ⟨hm, rfl⟩, d, ⟨-, _, ⟨-, rfl⟩, _, ⟨-, rfl⟩, _, ⟨-, rfl⟩, -, rfl⟩, rfl⟩
      exact ⟨hm, rfl⟩
    · rintro ⟨hm, rfl⟩
      exact ⟨_, ⟨hm, rfl⟩, _, ⟨⟨hpos, hlength⟩, _, ⟨hfits _ hfirst, rfl⟩, _, ⟨hm, rfl⟩, _,
        ⟨hfits _ hlast, rfl⟩, horder, rfl⟩, rfl⟩
  constructor
  · rw [hmedian]
    constructor
    · rintro ⟨o, ho⟩ q ⟨⟩
      exact fits_iff_canonical.mp ((hiff o).mp ho).1
    · intro h
      exact ⟨_, (hiff _).mpr ⟨fits_iff_canonical.mpr (h _ rfl), rfl⟩⟩
  · intro o ho
    obtain ⟨-, rfl⟩ := (hiff o).mp ho
    refine ⟨_, rfl, (List.length_map _).symm, hleast, hmedian, ?_⟩
    rw [List.length_map]
    exact hgreatest

/-! ### Controls -/

/-- The degradations of the completed folds. -/
def degradations (policy : StabilityAnalysisPolicy) (folds : List FoldResult) : List ℚ :=
  (completedFolds folds).map (·.degradation policy.direction)

/-- What a control says, in exact arithmetic. -/
def exactControl (policy : StabilityAnalysisPolicy) (folds : List FoldResult) :
    StabilityControlName → Prop
  | .minCompletedFolds => policy.minimumCompletedFolds ≤ (completedFolds folds).length
  | .minCompletionRatio =>
    policy.minimumCompletionRatio.value ≤ ((completedFolds folds).length : ℚ) / folds.length
  | .minTestNotWorseRatio =>
    completedFolds folds ≠ [] ∧ policy.minimumTestNotWorseRatio.value ≤
      (((completedFolds folds).countP fun f =>
        AsGood policy.direction f.validationScore.value f.testScore.value : ℕ) : ℚ) /
          (completedFolds folds).length
  | .maxMedianDegradation =>
    ∃ m ∈ median (degradations policy folds), m ≤ policy.maximumMedianDegradation.value
  | .maxWorstDegradation =>
    completedFolds folds ≠ [] ∧
      ∀ x ∈ degradations policy folds, x ≤ policy.maximumWorstDegradation.value
  | .maxParameterTurnoverRatio =>
    (switches ((completedFolds folds).map (·.parameterSetId)) : ℚ) /
      orOne ((completedFolds folds).length - 1) ≤ policy.maximumParameterTurnoverRatio.value

/-- The numbers of a report are within the canonical limit. -/
structure Buildable (policy : StabilityAnalysisPolicy) (folds : List FoldResult) : Prop where
  two_le : 2 ≤ folds.length
  length_le : folds.length ≤ maximumStabilityFolds
  admissible : ∀ f ∈ completedFolds folds, Admissible policy.direction f
  validations : ∀ m ∈ median ((completedFolds folds).map (·.validationScore.value)), Canonical m
  tests : ∀ m ∈ median ((completedFolds folds).map (·.testScore.value)), Canonical m
  degradations : ∀ m ∈ median (degradations policy folds), Canonical m

theorem orOne_pos (n : ℕ) : 0 < orOne n := by
  unfold orOne
  split <;> omega

theorem orOne_of_pos {n : ℕ} (h : 0 < n) : orOne n = n := if_neg h.ne'

theorem orOne_le {n m : ℕ} (h : n ≤ m) (hm : 0 < m) : orOne n ≤ m := by
  unfold orOne
  split <;> omega

theorem length_completedFolds_le (folds : List FoldResult) :
    (completedFolds folds).length ≤ folds.length := List.length_filterMap_le _ _

theorem switches_le (ids : List ℕ) : switches ids ≤ ids.length - 1 := by
  refine List.countP_le_length.trans ?_
  rw [List.length_zip, List.length_tail]
  exact min_le_right _ _

theorem construct_eq_ok {n d : ℕ} {ratio : ExactRatio} :
    ExactRatio.construct n d = .ok ratio ↔
      (1 ≤ d ∧ d ≤ maximumStabilityFolds ∧ n ≤ d) ∧ ratio = ⟨n, d⟩ := by
  unfold ExactRatio.construct exactInt
  simp only [bind_eq_ok, require_eq_ok, exists_const, pure, Except.pure, Except.ok.injEq]
  constructor
  · rintro ⟨⟨-, -⟩, ⟨h₁, h₂⟩, h₃, rfl⟩
    exact ⟨⟨h₁, h₂, h₃⟩, rfl⟩
  · rintro ⟨⟨h₁, h₂, h₃⟩, rfl⟩
    exact ⟨⟨Nat.zero_le _, h₃.trans h₂⟩, ⟨h₁, h₂⟩, h₃, rfl⟩

/-- The distribution of the values of a report. -/
def DistributionOf (values : List ℚ) (o : Option MetricDistribution) : Prop :=
  (values = [] → o = none) ∧ (values ≠ [] → ∃ d, o = some d ∧ IsDistribution values d)

theorem distributionFor_nil : distributionFor [] = .ok none := rfl

theorem exists_distributionFor {values : List Decimal} (hfits : ∀ v ∈ values, v.Fits)
    (hlength : values.length ≤ maximumStabilityFolds) :
    (∃ o, distributionFor values = .ok o) ↔
      ∀ m ∈ median (values.map Decimal.value), Canonical m := by
  rcases eq_or_ne values [] with rfl | hne
  · exact iff_of_true ⟨none, rfl⟩ (by rintro m ⟨⟩)
  · exact (distributionFor_spec hne hfits hlength).1

theorem distributionOf_distributionFor {values : List Decimal} (hfits : ∀ v ∈ values, v.Fits)
    (hlength : values.length ≤ maximumStabilityFolds) {o : Option MetricDistribution}
    (h : distributionFor values = .ok o) : DistributionOf (values.map Decimal.value) o := by
  refine ⟨fun hnil => ?_, fun hne => ?_⟩
  · rw [List.map_eq_nil_iff.mp hnil, distributionFor_nil] at h
    exact (Except.ok.inj h).symm
  · exact (distributionFor_spec (fun hnil => hne (by rw [hnil]; rfl)) hfits hlength).2 o h

/-- **Each control is exact.** -/
theorem controlsFor_exact {policy : StabilityAnalysisPolicy} {folds : List FoldResult}
    (hpos : 0 < folds.length) {distribution : Option MetricDistribution}
    (hdistribution : DistributionOf (degradations policy folds) distribution) :
    let completed := completedFolds folds
    ∀ c ∈ controlsFor policy completed.length ⟨completed.length, folds.length⟩
      ⟨completed.countP fun f =>
        AsGood policy.direction f.validationScore.value f.testScore.value, orOne completed.length⟩
      ⟨switches (completed.map (·.parameterSetId)), orOne (completed.length - 1)⟩ distribution,
      c.passed = true ↔ exactControl policy folds c.name := by
  intro completed c hc
  obtain ⟨hnone, hsome⟩ := hdistribution
  have hempty : degradations policy folds = [] ↔ completed = [] := List.map_eq_nil_iff
  have hlength : completed ≠ [] ↔ 0 < completed.length := List.length_pos_iff.symm
  simp only [controlsFor, List.mem_cons, List.not_mem_nil, or_false] at hc
  rcases hc with rfl | rfl | rfl | rfl | rfl | rfl
  · exact decide_eq_true_iff
  · exact ratioAtLeast_iff hpos _
  · simp only [Bool.and_eq_true, decide_eq_true_iff, exactControl]
    rw [ratioAtLeast_iff (orOne_pos _)]
    change (0 < completed.length ∧ _) ↔ (completed ≠ [] ∧ _)
    rw [hlength]
    refine and_congr_right fun h => ?_
    dsimp only
    rw [orOne_of_pos h]
  · by_cases hcompleted : completed = []
    · rw [hnone (hempty.mpr hcompleted)]
      refine iff_of_false Bool.false_ne_true ?_
      rintro ⟨m, hm, -⟩
      rw [hempty.mpr hcompleted] at hm
      cases hm
    · obtain ⟨d, rfl, hd⟩ := hsome fun h => hcompleted (hempty.mp h)
      simp only [Option.any_some, decide_eq_true_iff, exactControl, hd.median, Option.mem_def,
        Option.some.injEq, exists_eq_left']
  · by_cases hcompleted : completed = []
    · rw [hnone (hempty.mpr hcompleted)]
      exact iff_of_false Bool.false_ne_true fun h => h.1 hcompleted
    · obtain ⟨d, rfl, hd⟩ := hsome fun h => hcompleted (hempty.mp h)
      have hlast := hd.maximum
      rw [← List.length_insertionSort (· ≤ ·) (degradations policy folds),
        ← List.getLast?_eq_getElem?] at hlast
      simp only [Option.any_some, decide_eq_true_iff, exactControl]
      rw [getLast?_insertionSort_le_iff hlast]
      exact ⟨fun h => ⟨hcompleted, h⟩, fun h => h.2⟩
  · exact ratioAtMost_iff (orOne_pos _) _

/-! ### Reports -/

/-- What a report says. -/
structure Exact (policy : StabilityAnalysisPolicy) (folds : List FoldResult)
    (report : StabilityReport) : Prop where
  completedCount : report.completedCount = (completedFolds folds).length
  names : report.controls.map (·.name) = [.minCompletedFolds, .minCompletionRatio,
    .minTestNotWorseRatio, .maxMedianDegradation, .maxWorstDegradation, .maxParameterTurnoverRatio]
  controls : ∀ c ∈ report.controls, c.passed = true ↔ exactControl policy folds c.name
  validations : DistributionOf ((completedFolds folds).map (·.validationScore.value))
    report.validationDistribution
  tests : DistributionOf ((completedFolds folds).map (·.testScore.value)) report.testDistribution
  degradations : DistributionOf (degradations policy folds) report.degradationDistribution
  assessments : (report.overfittingAssessment, report.parameterStabilityAssessment,
    report.assessment) = assessmentsFor policy report.controls report.completedCount

section

variable {policy : StabilityAnalysisPolicy} {folds : List FoldResult}

/-- The scores and the degradations a report has the distributions of. -/
theorem observedAll_values (folds : List CompletedFold) (previous : Option ℕ)
    (hadmissible : ∀ f ∈ folds, Admissible policy.direction f) :
    let os := observedAll policy previous folds
    (∀ v ∈ os.map (·.validationScore), v.Fits) ∧ (∀ v ∈ os.map (·.testScore), v.Fits) ∧
      (∀ v ∈ os.map (·.degradation), v.Fits) ∧
      (os.map (·.validationScore)).map Decimal.value = folds.map (·.validationScore.value) ∧
      (os.map (·.testScore)).map Decimal.value = folds.map (·.testScore.value) ∧
      (os.map (·.degradation)).map Decimal.value = folds.map (·.degradation policy.direction) := by
  intro os
  have hvalidation : os.map (·.validationScore) = folds.map (·.validationScore) :=
    map_observedAll policy (fun _ _ => rfl) folds previous
  have htest : os.map (·.testScore) = folds.map (·.testScore) :=
    map_observedAll policy (fun _ _ => rfl) folds previous
  have hdegradation : os.map (·.degradation) =
      folds.map fun f => degradationOf policy.direction f.validationScore f.testScore :=
    map_observedAll policy (fun _ _ => rfl) folds previous
  have hexact : ∀ f ∈ folds, (degradationOf policy.direction f.validationScore f.testScore).value =
      f.degradation policy.direction :=
    fun f hf => value_degradationOf _ (hadmissible f hf).1 (hadmissible f hf).2.1
  rw [hvalidation, htest, hdegradation]
  refine ⟨?_, ?_, ?_, List.map_map, List.map_map, ?_⟩
  · intro v hv
    obtain ⟨f, hf, rfl⟩ := List.mem_map.mp hv
    exact (hadmissible f hf).1
  · intro v hv
    obtain ⟨f, hf, rfl⟩ := List.mem_map.mp hv
    exact (hadmissible f hf).2.1
  · intro v hv
    obtain ⟨f, hf, rfl⟩ := List.mem_map.mp hv
    rw [fits_iff_canonical, hexact f hf]
    exact (hadmissible f hf).2.2
  · rw [List.map_map]
    exact List.map_congr_left hexact

/-- **A report is exact**, and of a buildable execution. -/
theorem buildReport_exact {report : StabilityReport} (h : buildReport policy folds = .ok report) :
    Buildable policy folds ∧ Exact policy folds report := by
  unfold buildReport at h
  simp only [bind_eq_ok, require_eq_ok, exists_const, construct_eq_ok, pure, Except.pure,
    Except.ok.injEq] at h
  obtain ⟨os, hos, _, ⟨-, rfl⟩, _, ⟨-, rfl⟩, _, ⟨-, rfl⟩, dv, hdv, dt, hdt, dd, hdd,
    ⟨htwo, hmax⟩, rfl⟩ := h
  obtain ⟨hiff, hspec⟩ := observationsOf_spec policy folds none
  have hadmissible := hiff.mp ⟨os, hos⟩
  obtain ⟨hlength, hcompleted⟩ := hspec os hos
  obtain ⟨hv, ht, hd, hvalidations, htests, hdegradations⟩ :=
    observedAll_values (completedFolds folds) none hadmissible
  rw [hcompleted] at hdv hdt hdd
  rw [hlength] at htwo hmax
  have hle : (observedAll policy none (completedFolds folds)).length ≤ maximumStabilityFolds := by
    rw [length_observedAll]
    exact (length_completedFolds_le folds).trans hmax
  have hdistribution := distributionOf_distributionFor hd (by rwa [List.length_map]) hdd
  rw [hdegradations] at hdistribution
  refine ⟨⟨htwo, hmax, hadmissible, ?_, ?_, ?_⟩, ?_, rfl, ?_, ?_, ?_, hdistribution, rfl⟩
  · rw [← hvalidations]
    exact (exists_distributionFor hv (by rwa [List.length_map])).mp ⟨dv, hdv⟩
  · rw [← htests]
    exact (exists_distributionFor ht (by rwa [List.length_map])).mp ⟨dt, hdt⟩
  · rw [degradations, ← hdegradations]
    exact (exists_distributionFor hd (by rwa [List.length_map])).mp ⟨dd, hdd⟩
  · exact (congrArg List.length hcompleted).trans (length_observedAll policy _ _)
  · have hcontrols := controlsFor_exact (by omega) hdistribution
    dsimp only at hcontrols ⊢
    rw [hcompleted, hlength, length_observedAll, countP_testNotWorse, countP_parameterChanged]
    exact hcontrols
  · rw [← hvalidations]
    exact distributionOf_distributionFor hv (by rwa [List.length_map]) hdv
  · rw [← htests]
    exact distributionOf_distributionFor ht (by rwa [List.length_map]) hdt

/-- **A buildable execution has a report.** -/
theorem Buildable.exists_report (h : Buildable policy folds) :
    ∃ report, buildReport policy folds = .ok report := by
  obtain ⟨hiff, hspec⟩ := observationsOf_spec policy folds none
  obtain ⟨os, hos⟩ := hiff.mpr h.admissible
  obtain ⟨hlength, hcompleted⟩ := hspec os hos
  obtain ⟨hv, ht, hd, hvalidations, htests, hdegradations⟩ :=
    observedAll_values (completedFolds folds) none h.admissible
  have htwo := h.two_le
  have hmax := h.length_le
  have hcount := length_completedFolds_le folds
  have hle : (observedAll policy none (completedFolds folds)).length ≤ maximumStabilityFolds := by
    rw [length_observedAll]
    exact hcount.trans hmax
  have hbounds : 2 ≤ maximumStabilityFolds := by decide
  have hswitches := switches_le ((completedFolds folds).map (·.parameterSetId))
  rw [List.length_map] at hswitches
  obtain ⟨dv, hdv⟩ := (exists_distributionFor hv (by rwa [List.length_map])).mpr
    (hvalidations ▸ h.validations)
  obtain ⟨dt, hdt⟩ := (exists_distributionFor ht (by rwa [List.length_map])).mpr
    (htests ▸ h.tests)
  obtain ⟨dd, hdd⟩ := (exists_distributionFor hd (by rwa [List.length_map])).mpr
    (hdegradations ▸ h.degradations)
  unfold buildReport
  simp only [bind_eq_ok, require_eq_ok, exists_const, construct_eq_ok, pure, Except.pure]
  refine ⟨_, os, hos, _, ⟨?_, rfl⟩, _, ⟨?_, rfl⟩, _, ⟨?_, rfl⟩, dv, ?_, dt, ?_, dd, ?_, ?_, rfl⟩
  · rw [hcompleted, length_observedAll, hlength]
    exact ⟨by omega, hmax, hcount⟩
  · rw [hcompleted, length_observedAll, countP_testNotWorse]
    refine ⟨orOne_pos _, orOne_le (hcount.trans hmax) (by omega), List.countP_le_length.trans ?_⟩
    unfold orOne
    split <;> omega
  · rw [hcompleted, length_observedAll, countP_parameterChanged]
    refine ⟨orOne_pos _, orOne_le (by omega) (by omega), hswitches.trans ?_⟩
    unfold orOne
    split <;> omega
  · rwa [hcompleted]
  · rwa [hcompleted]
  · rwa [hcompleted]
  · rw [hlength]
    exact ⟨htwo, hmax⟩

end

/-! ### Better scores -/

/-- The same fold, with a score on the holdout that is at least as good. -/
inductive Improves (direction : SelectionDirection) : FoldResult → FoldResult → Prop
  | failed (failure : FoldFailure) : Improves direction (.failed failure) (.failed failure)
  | completed (fold : CompletedFold) (score : Decimal)
      (h : AsGood direction fold.testScore.value score.value) :
      Improves direction (.completed fold) (.completed { fold with testScore := score })

/-- What improved completed folds have in common. -/
structure CompletedFold.Improves (direction : SelectionDirection) (f f' : CompletedFold) :
    Prop where
  parameterSetId : f'.parameterSetId = f.parameterSetId
  notWorse : AsGood direction f.validationScore.value f.testScore.value →
    AsGood direction f'.validationScore.value f'.testScore.value
  degradation : f'.degradation direction ≤ f.degradation direction

theorem AsGood.trans {direction : SelectionDirection} {a b c : ℚ} (h : AsGood direction a b)
    (h' : AsGood direction b c) : AsGood direction a c := by
  cases direction with
  | maximize => exact le_trans h h'
  | minimize => exact le_trans h' h

theorem AsGood.exactDegradation_le {direction : SelectionDirection} {a b : ℚ}
    (h : AsGood direction a b) (v : ℚ) :
    exactDegradation direction v b ≤ exactDegradation direction v a := by
  cases direction with
  | maximize => exact sub_le_sub_left h v
  | minimize => exact sub_le_sub_right h v

section

variable {policy : StabilityAnalysisPolicy} {folds folds' : List FoldResult}

theorem completedFolds_improves (h : List.Forall₂ (Improves policy.direction) folds folds') :
    List.Forall₂ (CompletedFold.Improves policy.direction) (completedFolds folds)
      (completedFolds folds') := by
  induction h with
  | nil => exact .nil
  | cons hfold h ih =>
    cases hfold with
    | failed failure => exact ih
    | completed fold score hscore =>
      exact .cons ⟨rfl, fun hgood => hgood.trans hscore, hscore.exactDegradation_le _⟩ ih

theorem map_eq_of_forall₂ {α β : Type} {R : α → α → Prop} {f : α → β}
    (hf : ∀ a b, R a b → f b = f a) {l l' : List α} (h : List.Forall₂ R l l') :
    l'.map f = l.map f := by
  induction h with
  | nil => rfl
  | cons hab h ih => rw [List.map_cons, List.map_cons, hf _ _ hab, ih]

theorem countP_le_of_forall₂ {α : Type} {R : α → α → Prop} {p : α → Bool}
    (hp : ∀ a b, R a b → p a = true → p b = true) {l l' : List α} (h : List.Forall₂ R l l') :
    l.countP p ≤ l'.countP p := by
  induction h with
  | nil => exact le_rfl
  | @cons a b l l' hab h ih =>
    rw [List.countP_cons, List.countP_cons]
    refine Nat.add_le_add ih ?_
    by_cases ha : p a = true
    · rw [if_pos ha, if_pos (hp a b hab ha)]
    · rw [if_neg ha]
      exact Nat.zero_le _

theorem degradations_improves (h : List.Forall₂ (Improves policy.direction) folds folds') :
    List.Forall₂ (· ≤ ·) (degradations policy folds') (degradations policy folds) := by
  refine List.forall₂_map_left_iff.mpr (List.forall₂_map_right_iff.mpr ?_)
  exact (completedFolds_improves h).flip.imp fun f f' hf => hf.degradation

/-- **Better scores turn no control from passed to failed.** -/
theorem exactControl_mono (h : List.Forall₂ (Improves policy.direction) folds folds')
    (name : StabilityControlName) (hpassed : exactControl policy folds name) :
    exactControl policy folds' name := by
  have hcompleted := completedFolds_improves h
  have hlength := hcompleted.length_eq
  have hdegradations := degradations_improves h
  have hne : completedFolds folds ≠ [] → completedFolds folds' ≠ [] := by
    rw [← List.length_pos_iff, ← List.length_pos_iff, hlength]
    exact id
  cases name with
  | minCompletedFolds => exact hpassed.trans hlength.le
  | minCompletionRatio =>
    unfold exactControl at hpassed ⊢
    rwa [← hlength, ← h.length_eq]
  | minTestNotWorseRatio =>
    refine ⟨hne hpassed.1, hpassed.2.trans ?_⟩
    rw [← hlength]
    refine div_le_div_of_nonneg_right (Nat.cast_le.mpr ?_) (Nat.cast_nonneg _)
    refine countP_le_of_forall₂ (fun f f' hf hgood => ?_) hcompleted
    exact decide_eq_true (hf.notWorse (of_decide_eq_true hgood))
  | maxMedianDegradation =>
    obtain ⟨m, hm, hle⟩ := hpassed
    have hdegradations' : degradations policy folds' ≠ [] := by
      intro hnil
      rw [hnil, List.forall₂_nil_left_iff] at hdegradations
      rw [hdegradations] at hm
      cases hm
    obtain ⟨m', hm'⟩ := median_isSome hdegradations'
    exact ⟨m', hm', (median_mono hdegradations hm' hm).trans hle⟩
  | maxWorstDegradation =>
    refine ⟨hne hpassed.1, fun x hx => ?_⟩
    obtain ⟨i, hi, rfl⟩ := List.mem_iff_getElem.mp hx
    obtain ⟨hlength', hle⟩ := List.forall₂_iff_get.mp hdegradations
    exact (hle i hi (hlength' ▸ hi)).trans (hpassed.2 _ (List.getElem_mem _))
  | maxParameterTurnoverRatio =>
    unfold exactControl at hpassed ⊢
    rwa [map_eq_of_forall₂ (fun f f' hf => hf.parameterSetId) hcompleted, ← hlength]

end

/-- Controls of the same names that have all passed when others have. -/
theorem passedAll_mono {cs cs' : List StabilityControlResult}
    (h : ∀ c ∈ cs, c.passed = true → c ∈ cs') {names : List StabilityControlName}
    (hpassed : passedAll cs names = true) : passedAll cs' names = true := by
  unfold passedAll at hpassed ⊢
  rw [List.all_eq_true] at hpassed ⊢
  intro name hname
  obtain ⟨c, hc, hand⟩ := List.any_eq_true.mp (hpassed name hname)
  exact List.any_eq_true.mpr ⟨c, h c hc ((Bool.and_eq_true _ _).mp hand).2, hand⟩

/-- The assessments of controls that have all passed when others have. -/
theorem assessmentsFor_mono (policy : StabilityAnalysisPolicy)
    {cs cs' : List StabilityControlResult} (h : ∀ c ∈ cs, c.passed = true → c ∈ cs')
    (hall : cs.all (·.passed) = true → cs'.all (·.passed) = true) (count : ℕ) :
    ((assessmentsFor policy cs count).2.2 = .passed →
        (assessmentsFor policy cs' count).2.2 = .passed) ∧
      ((assessmentsFor policy cs count).1 = .noSignal →
        (assessmentsFor policy cs' count).1 = .noSignal) := by
  unfold assessmentsFor
  by_cases hcount : count < policy.minimumCompletedFolds
  · rw [if_pos hcount, if_pos hcount]
    exact ⟨id, id⟩
  · rw [if_neg hcount, if_neg hcount]
    constructor
    · intro hpassed
      dsimp only at hpassed ⊢
      have hcontrols : cs.all (·.passed) = true := by
        by_contra hnot
        rw [if_neg hnot] at hpassed
        cases hpassed
      rw [if_pos (hall hcontrols)]
    · intro hsignal
      dsimp only at hsignal ⊢
      have hnames : passedAll cs [.minTestNotWorseRatio, .maxMedianDegradation,
          .maxWorstDegradation] = true := by
        by_contra hnot
        rw [if_neg hnot] at hsignal
        cases hsignal
      rw [if_pos (passedAll_mono h hnames)]

/-- **Stability assessments are exact and monotone**: a report is built exactly when its numbers are
within the canonical limit, it is exact, and better scores on the holdouts turn no control from
passed to failed. -/
theorem stability_exact_and_monotone (policy : StabilityAnalysisPolicy) (folds : List FoldResult) :
    ((∃ report, buildReport policy folds = .ok report) ↔ Buildable policy folds) ∧
      (∀ report, buildReport policy folds = .ok report → Exact policy folds report) ∧
      ∀ folds' report report', List.Forall₂ (Improves policy.direction) folds folds' →
        buildReport policy folds = .ok report → buildReport policy folds' = .ok report' →
        (∀ c ∈ report.controls, c.passed = true → c ∈ report'.controls) ∧
          (report.assessment = .passed → report'.assessment = .passed) ∧
          (report.overfittingAssessment = .noSignal →
            report'.overfittingAssessment = .noSignal) := by
  refine ⟨⟨?_, Buildable.exists_report⟩, fun report h => (buildReport_exact h).2, ?_⟩
  · rintro ⟨report, h⟩
    exact (buildReport_exact h).1
  intro folds' report report' himproves hreport hreport'
  obtain ⟨-, hexact⟩ := buildReport_exact hreport
  obtain ⟨-, hexact'⟩ := buildReport_exact hreport'
  have hcontrols : ∀ c ∈ report.controls, c.passed = true → c ∈ report'.controls := by
    intro c hc hpassed
    have hname : c.name ∈ report'.controls.map (·.name) := by
      rw [hexact'.names, ← hexact.names]
      exact List.mem_map_of_mem hc
    obtain ⟨c', hc', hsame⟩ := List.mem_map.mp hname
    have hpassed' : c'.passed = true := by
      rw [hexact'.controls c' hc', hsame]
      exact exactControl_mono himproves c.name ((hexact.controls c hc).mp hpassed)
    have heq : c' = c := by
      cases c'
      cases c
      exact congrArg₂ StabilityControlResult.mk hsame (hpassed'.trans hpassed.symm)
    exact heq ▸ hc'
  have hcount : report'.completedCount = report.completedCount := by
    rw [hexact.completedCount, hexact'.completedCount]
    exact (completedFolds_improves himproves).length_eq.symm
  have hall : report.controls.all (·.passed) = true → report'.controls.all (·.passed) = true := by
    simp only [List.all_eq_true]
    intro hpassed c' hc'
    have hname : c'.name ∈ report.controls.map (·.name) := by
      rw [hexact.names, ← hexact'.names]
      exact List.mem_map_of_mem hc'
    obtain ⟨c, hc, hsame⟩ := List.mem_map.mp hname
    rw [hexact'.controls c' hc', ← hsame]
    exact exactControl_mono himproves c.name ((hexact.controls c hc).mp (hpassed c hc))
  obtain ⟨hpassed, hsignal⟩ := assessmentsFor_mono policy hcontrols hall report.completedCount
  have hassessments' := hexact'.assessments
  rw [hcount] at hassessments'
  rw [← hexact.assessments, ← hassessments'] at hpassed hsignal
  exact ⟨hcontrols, hpassed, hsignal⟩

/-! ### Samples -/

/-- The threshold `0.5`. -/
def halfThreshold : Decimal := ⟨false, 5, -1⟩

theorem value_halfThreshold : halfThreshold.value = 1 / 2 := by
  norm_num [Decimal.value, halfThreshold]

theorem fits_halfThreshold : halfThreshold.Fits := by
  unfold Decimal.Fits
  decide

theorem halfThreshold_ratio : RatioThreshold halfThreshold :=
  ⟨fits_halfThreshold, by rw [value_halfThreshold]; norm_num,
    by rw [value_halfThreshold]; norm_num⟩

theorem halfThreshold_nonneg : NonnegativeDecimal halfThreshold :=
  ⟨halfThreshold_ratio.1, halfThreshold_ratio.2.1⟩

theorem two_le_maximumStabilityFolds : 2 ≤ maximumStabilityFolds := by decide

/-- A policy whose thresholds are all `0.5`. -/
def halfPolicy : StabilityAnalysisPolicy where
  direction := .maximize
  minimumCompletedFolds := 2
  minimumCompletionRatio := halfThreshold
  minimumTestNotWorseRatio := halfThreshold
  maximumMedianDegradation := halfThreshold
  maximumWorstDegradation := halfThreshold
  maximumParameterTurnoverRatio := halfThreshold
  minimumCompletedFolds_ge := le_rfl
  minimumCompletedFolds_le := two_le_maximumStabilityFolds
  minimumCompletionRatio_valid := halfThreshold_ratio
  minimumTestNotWorseRatio_valid := halfThreshold_ratio
  maximumMedianDegradation_valid := halfThreshold_nonneg
  maximumWorstDegradation_valid := halfThreshold_nonneg
  maximumParameterTurnoverRatio_valid := halfThreshold_ratio

/-- Two completed folds around a failed one; the first has some score on its holdout. -/
def threeFolds (score : Decimal) : List FoldResult :=
  [.completed ⟨⟨false, 15, -1⟩, score, 1⟩, .failed .holdout,
    .completed ⟨⟨false, 2, 0⟩, ⟨false, 25, -1⟩, 1⟩]

/-- The score `1` becomes `1.4`, and the report stays passed. -/
theorem threeFolds_stay_passed : ∃ report report',
    buildReport halfPolicy (threeFolds ⟨false, 1, 0⟩) = .ok report ∧
      buildReport halfPolicy (threeFolds ⟨false, 14, -1⟩) = .ok report' ∧
      report.assessment = .passed ∧ report'.assessment = .passed := by
  have hrun : (buildReport halfPolicy (threeFolds ⟨false, 1, 0⟩)).map
      (fun report => decide (report.assessment = .passed)) = .ok true := by
    decide +kernel
  have hrun' : (buildReport halfPolicy (threeFolds ⟨false, 14, -1⟩)).map
      (fun report => decide (report.assessment = .passed)) = .ok true := by
    decide +kernel
  obtain ⟨report, hreport, hpassed⟩ := exists_of_map_eq_true hrun
  obtain ⟨report', hreport', -⟩ := exists_of_map_eq_true hrun'
  have hscore : AsGood halfPolicy.direction (⟨false, 1, 0⟩ : Decimal).value
      (⟨false, 14, -1⟩ : Decimal).value := by
    norm_num [AsGood, halfPolicy, Decimal.value]
  have himproves : List.Forall₂ (Improves halfPolicy.direction) (threeFolds ⟨false, 1, 0⟩)
      (threeFolds ⟨false, 14, -1⟩) := by
    refine .cons (.completed _ _ hscore) (.cons (.failed _) (.cons ?_ .nil))
    exact .completed ⟨⟨false, 2, 0⟩, ⟨false, 25, -1⟩, 1⟩ ⟨false, 25, -1⟩ (le_refl (α := ℚ) _)
  have hassessment := of_decide_eq_true hpassed
  exact ⟨report, report', hreport, hreport', hassessment,
    ((stability_exact_and_monotone halfPolicy _).2.2 _ report report' himproves hreport
      hreport').2.1 hassessment⟩

/-- Scores within the canonical limit whose difference is not. -/
def farApart : List FoldResult :=
  [.completed ⟨⟨false, 1, 127⟩, ⟨false, 1, -126⟩, 1⟩, .failed .holdout]

/-- **Two scores may be within the canonical limit and their difference not**; there is no
report. -/
theorem farApart_has_no_report :
    (∀ f ∈ completedFolds farApart, f.validationScore.Fits ∧ f.testScore.Fits) ∧
      ∀ report, buildReport halfPolicy farApart ≠ .ok report := by
  constructor
  · unfold Decimal.Fits
    decide +kernel
  · intro report h
    have hrun : (buildReport halfPolicy farApart).isOk = false := by decide +kernel
    rw [h] at hrun
    cases hrun

end Optimization
end DryTrade
