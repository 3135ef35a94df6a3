import Mathlib.Data.List.Sort
import Mathlib.Tactic

/-!
# Sorting and order statistics

Values with distinct keys are sorted in one way, whatever order they come in.  Sorting keeps the order of two lists that are compared element by element, so the statistics that
read a sorted list, the median and the maximum, are monotone.

## Main definitions

* `sortBy` — the values in the order of their keys.
* `median` — the middle of the sorted values.

## Main results

* `sortBy_congr`, `sortBy_of_pairwise` — distinct keys.
* `forall₂_le_insertionSort` — sorting is monotone.
* `median_mono`, `getLast?_insertionSort_le_iff` — the median and the maximum.
-/

namespace DryTrade

/-! ### Sorting by a key -/

section

variable {α κ : Type*} [LinearOrder κ] {key : α → κ}

/-- The values in the order of their keys. -/
def sortBy (key : α → κ) (l : List α) : List α := l.insertionSort fun a b => key a ≤ key b

theorem sortBy_perm (l : List α) : (sortBy key l).Perm l := List.perm_insertionSort _ l

@[simp] theorem sortBy_eq_nil_iff {l : List α} : sortBy key l = [] ↔ l = [] := by
  rw [← List.length_eq_zero_iff, (sortBy_perm l).length_eq, List.length_eq_zero_iff]

theorem pairwise_sortBy (l : List α) : (sortBy key l).Pairwise fun a b => key a ≤ key b := by
  have : Std.Total fun a b : α => key a ≤ key b := ⟨fun a b => le_total (key a) (key b)⟩
  have : IsTrans α fun a b => key a ≤ key b := ⟨fun _ _ _ => le_trans⟩
  exact List.pairwise_insertionSort _ l

/-- Distinct keys are strictly increasing once they are sorted. -/
theorem pairwise_lt_sortBy {l : List α} (h : (l.map key).Nodup) :
    (sortBy key l).Pairwise fun a b => key a < key b := by
  have hnodup : ((sortBy key l).map key).Nodup := ((sortBy_perm l).map key).nodup_iff.mpr h
  exact (pairwise_sortBy l).imp₂ (fun a b hle hne => lt_of_le_of_ne hle hne)
    (List.pairwise_map.mp hnodup)

/-- Values whose keys are strictly increasing are equal when they are the same ones. -/
theorem eq_of_perm_of_pairwise_lt {l l' : List α} (h : l.Perm l')
    (hl : l.Pairwise fun a b => key a < key b) (hl' : l'.Pairwise fun a b => key a < key b) :
    l = l' :=
  List.Perm.eq_of_pairwise (fun _ _ _ _ hab hba => absurd hab (lt_asymm hba)) hl hl' h

/-- **Distinct keys are sorted in one way.** -/
theorem sortBy_congr {l l' : List α} (h : l.Perm l') (hnodup : (l.map key).Nodup) :
    sortBy key l = sortBy key l' :=
  eq_of_perm_of_pairwise_lt ((sortBy_perm l).trans (h.trans (sortBy_perm l').symm))
    (pairwise_lt_sortBy hnodup) (pairwise_lt_sortBy ((h.map key).nodup_iff.mp hnodup))

/-- What is sorted already stays as it is. -/
theorem sortBy_of_pairwise {l : List α} (h : l.Pairwise fun a b => key a < key b) :
    sortBy key l = l :=
  eq_of_perm_of_pairwise_lt (sortBy_perm l)
    (pairwise_lt_sortBy (List.pairwise_map.mpr (h.imp ne_of_lt))) h

end

/-! ### Sorted values -/

section

variable {α : Type*} [LinearOrder α]

theorem forall₂_le_orderedInsert {a b : α} {l l' : List α} (hab : a ≤ b)
    (hl : l.Pairwise (· ≤ ·)) (hl' : l'.Pairwise (· ≤ ·)) (h : List.Forall₂ (· ≤ ·) l l') :
    List.Forall₂ (· ≤ ·) (l.orderedInsert (· ≤ ·) a) (l'.orderedInsert (· ≤ ·) b) := by
  induction h generalizing a b with
  | nil => exact .cons hab .nil
  | @cons x y l l' hxy h ih =>
    obtain ⟨hx, hl⟩ := List.pairwise_cons.mp hl
    obtain ⟨hy, hl'⟩ := List.pairwise_cons.mp hl'
    have hfirst : (x :: l) = l.orderedInsert (· ≤ ·) x := by
      cases l with
      | nil => rfl
      | cons z l => rw [List.orderedInsert_cons_of_le _ _ (hx z List.mem_cons_self)]
    have hsecond : (y :: l') = l'.orderedInsert (· ≤ ·) y := by
      cases l' with
      | nil => rfl
      | cons z l' => rw [List.orderedInsert_cons_of_le _ _ (hy z List.mem_cons_self)]
    by_cases hax : a ≤ x
    · rw [List.orderedInsert_cons_of_le _ _ hax]
      by_cases hby : b ≤ y
      · rw [List.orderedInsert_cons_of_le _ _ hby]
        exact .cons hab (.cons hxy h)
      · rw [List.orderedInsert_of_not_le _ _ hby, hfirst]
        exact .cons (hax.trans hxy) (ih (hxy.trans (not_le.mp hby).le) hl hl')
    · rw [List.orderedInsert_of_not_le _ _ hax]
      by_cases hby : b ≤ y
      · rw [List.orderedInsert_cons_of_le _ _ hby, hsecond]
        exact .cons ((not_le.mp hax).le.trans hab) (ih (hab.trans hby) hl hl')
      · rw [List.orderedInsert_of_not_le _ _ hby]
        exact .cons hxy (ih hab hl hl')

theorem getElem?_le_of_forall₂ {l l' : List α} (h : List.Forall₂ (· ≤ ·) l l') {i : ℕ} {a b : α}
    (ha : l[i]? = some a) (hb : l'[i]? = some b) : a ≤ b := by
  obtain ⟨hi, rfl⟩ := List.getElem?_eq_some_iff.mp ha
  obtain ⟨hi', rfl⟩ := List.getElem?_eq_some_iff.mp hb
  exact (List.forall₂_iff_get.mp h).2 i hi hi'

theorem getElem?_le_of_pairwise {l : List α} (h : l.Pairwise (· ≤ ·)) {i j : ℕ} (hij : i ≤ j)
    {a b : α} (ha : l[i]? = some a) (hb : l[j]? = some b) : a ≤ b := by
  obtain ⟨hi, rfl⟩ := List.getElem?_eq_some_iff.mp ha
  obtain ⟨hj, rfl⟩ := List.getElem?_eq_some_iff.mp hb
  rcases hij.eq_or_lt with rfl | hlt
  · exact le_rfl
  · exact List.pairwise_iff_getElem.mp h i j hi hj hlt

/-- **Sorting keeps the order** of two lists that are compared element by element. -/
theorem forall₂_le_insertionSort {l l' : List α} (h : List.Forall₂ (· ≤ ·) l l') :
    List.Forall₂ (· ≤ ·) (l.insertionSort (· ≤ ·)) (l'.insertionSort (· ≤ ·)) := by
  induction h with
  | nil => exact .nil
  | cons hab h ih =>
    exact forall₂_le_orderedInsert hab (List.pairwise_insertionSort _ _)
      (List.pairwise_insertionSort _ _) ih

/-- The last of the sorted values is the greatest. -/
theorem getLast?_insertionSort_le_iff {l : List α} {m t : α}
    (h : (l.insertionSort (· ≤ ·)).getLast? = some m) : m ≤ t ↔ ∀ x ∈ l, x ≤ t := by
  obtain ⟨init, hinit⟩ := List.getLast?_eq_some_iff.mp h
  have hsorted := List.pairwise_insertionSort (· ≤ ·) l
  rw [hinit] at hsorted
  constructor
  · intro hm x hx
    have hmem : x ∈ l.insertionSort (· ≤ ·) := (List.mem_insertionSort _).mpr hx
    rw [hinit] at hmem
    rcases List.mem_append.mp hmem with hmem | hmem
    · exact ((List.pairwise_append.mp hsorted).2.2 x hmem m (by simp)).trans hm
    · rwa [List.mem_singleton.mp hmem]
  · intro hall
    refine hall m ((List.mem_insertionSort (· ≤ ·)).mp ?_)
    rw [hinit]
    simp

end

/-! ### The median -/

section

variable {K : Type*} [Field K] [LinearOrder K]

/-- The middle of the sorted values: the middle one, or the mean of the middle two. -/
def median (l : List K) : Option K :=
  let ordered := l.insertionSort (· ≤ ·)
  let middle := ordered.length / 2
  if ordered.length % 2 = 1 then ordered[middle]?
  else do
    let a ← ordered[middle - 1]?
    let b ← ordered[middle]?
    return (a + b) / 2

theorem median_isSome {l : List K} (h : l ≠ []) : ∃ m, median l = some m := by
  have hpos : 0 < (l.insertionSort (· ≤ ·)).length := by
    rw [List.length_insertionSort]
    exact List.length_pos_iff.mpr h
  unfold median
  dsimp only
  split
  · exact ⟨_, List.getElem?_eq_getElem (by omega)⟩
  · rw [List.getElem?_eq_getElem (show (l.insertionSort (· ≤ ·)).length / 2 - 1 < _ by omega),
      List.getElem?_eq_getElem (show (l.insertionSort (· ≤ ·)).length / 2 < _ by omega)]
    exact ⟨_, rfl⟩

/-- The median lies between the least and the greatest of the values. -/
theorem median_mem_Icc [IsStrictOrderedRing K] {l : List K} {m first last : K}
    (hm : median l = some m) (hfirst : (l.insertionSort (· ≤ ·))[0]? = some first)
    (hlast : (l.insertionSort (· ≤ ·))[l.length - 1]? = some last) : m ∈ Set.Icc first last := by
  have hsorted := List.pairwise_insertionSort (· ≤ ·) l
  have hlength := List.length_insertionSort (· ≤ ·) l
  have hbetween : ∀ {i : ℕ} {x : K}, (l.insertionSort (· ≤ ·))[i]? = some x →
      first ≤ x ∧ x ≤ last := by
    intro i x hx
    have hi := (List.getElem?_eq_some_iff.mp hx).1
    exact ⟨getElem?_le_of_pairwise hsorted (Nat.zero_le i) hfirst hx,
      getElem?_le_of_pairwise hsorted (by omega) hx hlast⟩
  unfold median at hm
  dsimp only at hm
  split at hm
  · exact hbetween hm
  · obtain ⟨a, ha, b, hb, rfl⟩ := by simpa [Option.bind_eq_some_iff] using hm
    obtain ⟨hfa, hal⟩ := hbetween ha
    obtain ⟨hfb, hbl⟩ := hbetween hb
    constructor <;> linarith

/-- **The median is monotone.** -/
theorem median_mono [IsStrictOrderedRing K] {l l' : List K} (h : List.Forall₂ (· ≤ ·) l l')
    {m m' : K} (hm : median l = some m) (hm' : median l' = some m') : m ≤ m' := by
  have hsort := forall₂_le_insertionSort h
  have hlength := hsort.length_eq
  unfold median at hm hm'
  dsimp only at hm hm'
  rw [← hlength] at hm'
  split at hm
  · next hodd =>
    rw [if_pos hodd] at hm'
    exact getElem?_le_of_forall₂ hsort hm hm'
  · next heven =>
    rw [if_neg heven] at hm'
    obtain ⟨a, ha, b, hb, rfl⟩ := by simpa [Option.bind_eq_some_iff] using hm
    obtain ⟨a', ha', b', hb', rfl⟩ := by simpa [Option.bind_eq_some_iff] using hm'
    have hfirst := getElem?_le_of_forall₂ hsort ha ha'
    have hsecond := getElem?_le_of_forall₂ hsort hb hb'
    exact div_le_div_of_nonneg_right (add_le_add hfirst hsecond) zero_le_two

end

end DryTrade
