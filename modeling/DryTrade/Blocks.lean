import Mathlib.Tactic

/-!
# Ordered lists in blocks

A list whose keys increase is the concatenation of its blocks, the parts whose keys lie
in consecutive intervals of one length.

## Main definitions

* `between key l s e` — the elements of `l` whose keys lie in `[s, e)`.
* `total f l` — the sum of a quantity, where every element of `l` has it.

## Main results

* `between_blocks` — a part is the concatenation of its blocks.
* `isGreatest_flatMap` — the greatest element is the greatest of those of the blocks.
* `total_flatMap` — a total is the total of the totals of the blocks.
-/

namespace DryTrade

section

variable {α : Type} {key : α → ℤ}

/-- The elements whose keys lie in an interval. -/
def between (key : α → ℤ) (l : List α) (s e : ℤ) : List α :=
  l.filter fun x => decide (s ≤ key x) && decide (key x < e)

theorem mem_between {l : List α} {s e : ℤ} {x : α} :
    x ∈ between key l s e ↔ x ∈ l ∧ s ≤ key x ∧ key x < e := by
  simp [between]

/-- A part of a part. -/
theorem between_between {l : List α} {s e s' e' : ℤ} (hs : s ≤ s') (he : e' ≤ e) :
    between key (between key l s e) s' e' = between key l s' e' := by
  unfold between
  rw [List.filter_filter]
  refine List.filter_congr fun x _ => ?_
  rw [Bool.eq_iff_iff]
  simp only [Bool.and_eq_true, decide_eq_true_eq]
  exact ⟨fun h => h.1, fun h => ⟨h, hs.trans h.1, h.2.trans_le he⟩⟩

/-- Nothing lies before what every key reaches, or after what no key reaches. -/
theorem between_eq_nil {l : List α} {s e : ℤ} (h : ∀ x ∈ l, e ≤ key x ∨ key x < s) :
    between key l s e = [] := by
  rw [between, List.filter_eq_nil_iff]
  intro x hx
  rcases h x hx with hx | hx <;> simp [hx]

theorem between_eq_self {l : List α} {s e : ℤ} (h : ∀ x ∈ l, s ≤ key x ∧ key x < e) :
    between key l s e = l := by
  rw [between, List.filter_eq_self]
  intro x hx
  simp [h x hx]

/-- The part of the images is the image of the part. -/
theorem map_between {β : Type} (f : α → β) (key' : β → ℤ) (l : List α) (s e : ℤ) :
    (between (key' ∘ f) l s e).map f = between key' (l.map f) s e := by
  rw [between, between, List.filter_map]
  rfl

/-- The part of what a map keeps, when it keeps the keys. -/
theorem between_filterMap {f : ℤ → Option α} (h : ∀ v x, f v = some x → key x = v) (l : List ℤ)
    (s e : ℤ) : between key (l.filterMap f) s e = (between id l s e).filterMap f := by
  rw [between, between, List.filter_filterMap, List.filterMap_filter]
  refine List.filterMap_congr fun v _ => ?_
  cases hv : f v with
  | none => simp
  | some x =>
    rw [Option.filter_some, h v x hv]
    rfl

/-- Two parts side by side. -/
theorem between_append {l : List α} (hl : l.Pairwise fun x y => key x < key y) {s m e : ℤ}
    (hs : s ≤ m) (he : m ≤ e) :
    between key l s m ++ between key l m e = between key l s e := by
  induction l with
  | nil => rfl
  | cons x l ih =>
    obtain ⟨hx, hrest⟩ := List.pairwise_cons.mp hl
    have htail := ih hrest
    rcases lt_or_ge (key x) m with hlt | hge
    · by_cases hin : s ≤ key x
      · simp only [between, List.filter_cons, hin, hlt, hlt.trans_le he, not_le.mpr hlt,
          decide_true, decide_false, Bool.and_true, Bool.false_and, if_true, Bool.false_eq_true,
          if_false, List.cons_append] at htail ⊢
        rw [htail]
      · simp only [between, List.filter_cons, hin, not_le.mpr hlt, decide_false, Bool.false_and,
          Bool.false_eq_true, if_false] at htail ⊢
        exact htail
    · have hnone : between key (x :: l) s m = [] := by
        refine between_eq_nil fun y hy => ?_
        rcases List.mem_cons.mp hy with rfl | hy
        · exact .inl hge
        · exact .inl (hge.trans (hx y hy).le)
      rw [hnone, List.nil_append]
      refine List.filter_congr fun y hy => ?_
      have hy' : m ≤ key y := by
        rcases List.mem_cons.mp hy with rfl | hy
        · exact hge
        · exact hge.trans (hx y hy).le
      simp [hy', hs.trans hy']

/-- **A part is the concatenation of its blocks.** -/
theorem between_blocks {l : List α} (hl : l.Pairwise fun x y => key x < key y) {d : ℤ} (hd : 0 ≤ d)
    (w : ℤ) (k : ℕ) : between key l w (w + k * d) =
      (List.range k).flatMap fun j : ℕ => between key l (w + j * d) (w + j * d + d) := by
  induction k with
  | zero =>
    rw [List.range_zero, List.flatMap_nil, between, List.filter_eq_nil_iff]
    intro x _
    simp
  | succ k ih =>
    rw [List.range_succ, List.flatMap_append, ← ih, List.flatMap_singleton]
    have hstep : w + ((k + 1 : ℕ) : ℤ) * d = w + k * d + d := by push_cast; ring
    rw [hstep, between_append hl]
    · linarith [mul_nonneg (Int.natCast_nonneg k) hd]
    · linarith

end

/-! ### Extremes -/

/-- Folding the maximum finds the greatest element. -/
theorem isGreatest_foldl_max {α : Type} [LinearOrder α] (l : List α) (v : α) :
    IsGreatest { q | q ∈ v :: l } (l.foldl max v) := by
  induction l generalizing v with
  | nil => exact ⟨List.mem_cons_self, fun q hq => (List.mem_singleton.mp hq).le⟩
  | cons z l ih =>
    obtain ⟨hmem, hle⟩ := ih (max v z)
    refine ⟨?_, fun q hq => ?_⟩
    · rcases List.mem_cons.mp hmem with heq | hmem
      · rw [List.foldl_cons, heq]
        rcases max_choice v z with h | h <;> simp [h]
      · exact List.mem_cons_of_mem v (List.mem_cons_of_mem z hmem)
    · have hmax := hle List.mem_cons_self
      rcases List.mem_cons.mp hq with rfl | hq
      · exact (le_max_left q z).trans hmax
      · rcases List.mem_cons.mp hq with rfl | hq
        · exact (le_max_right v q).trans hmax
        · exact hle (List.mem_cons_of_mem _ hq)

/-- Folding the minimum finds the least element. -/
theorem isLeast_foldl_min {α : Type} [LinearOrder α] (l : List α) (v : α) :
    IsLeast { q | q ∈ v :: l } (l.foldl min v) :=
  isGreatest_foldl_max (α := αᵒᵈ) l v

/-- The greatest of the parts' greatest elements. -/
theorem isGreatest_flatMap {α β : Type} [LinearOrder α] (block : β → List α) (top : β → α)
    {xs : List β} {q : α} (h : ∀ x ∈ xs, IsGreatest { a | a ∈ block x } (top x))
    (hq : IsGreatest { a | a ∈ xs.map top } q) : IsGreatest { a | a ∈ xs.flatMap block } q := by
  obtain ⟨hmem, hle⟩ := hq
  obtain ⟨x, hx, rfl⟩ := List.mem_map.mp hmem
  refine ⟨List.mem_flatMap.mpr ⟨x, hx, (h x hx).1⟩, fun a ha => ?_⟩
  obtain ⟨y, hy, ha⟩ := List.mem_flatMap.mp ha
  exact ((h y hy).2 ha).trans (hle (List.mem_map_of_mem hy))

/-- The least of the parts' least elements. -/
theorem isLeast_flatMap {α β : Type} [LinearOrder α] (block : β → List α) (bottom : β → α)
    {xs : List β} {q : α} (h : ∀ x ∈ xs, IsLeast { a | a ∈ block x } (bottom x))
    (hq : IsLeast { a | a ∈ xs.map bottom } q) : IsLeast { a | a ∈ xs.flatMap block } q :=
  isGreatest_flatMap (α := αᵒᵈ) block bottom h hq

/-! ### Totals -/

section

variable {α β M : Type} [AddCommMonoid M] {f : α → Option M}

/-- The sum of a quantity, when every element has it. -/
def total (f : α → Option M) (l : List α) : Option M :=
  if l.all fun x => (f x).isSome then some (l.filterMap f).sum else none

theorem total_cons (x : α) (l : List α) :
    total f (x :: l) = (f x).bind fun a => (total f l).map (a + ·) := by
  unfold total
  cases hx : f x with
  | none => simp [hx]
  | some a =>
    by_cases hl : l.all (fun x => (f x).isSome) = true
    · simp [hx, hl]
    · simp [hx, hl]

theorem total_map {g : β → Option M} (h : α → β) (l : List α) :
    total g (l.map h) = total (fun x => g (h x)) l := by
  simp [total, List.filterMap_map, Function.comp_def]

/-- A total of nonnegative quantities. -/
theorem total_nonneg [PartialOrder M] [AddLeftMono M] {l : List α}
    (h : ∀ x ∈ l, ∀ a ∈ f x, 0 ≤ a) {a : M} (ha : a ∈ total f l) : 0 ≤ a := by
  unfold total at ha
  split at ha
  · cases ha
    refine List.sum_nonneg fun b hb => ?_
    obtain ⟨x, hx, hb⟩ := List.mem_filterMap.mp hb
    exact h x hx b hb
  · cases ha

theorem total_append (l l' : List α) :
    total f (l ++ l') = (total f l).bind fun a => (total f l').map (a + ·) := by
  induction l with
  | nil =>
    have hnil : total f ([] : List α) = some 0 := rfl
    rw [List.nil_append, hnil]
    cases total f l' <;> simp
  | cons x l ih =>
    rw [List.cons_append, total_cons, ih, total_cons]
    cases f x with
    | none => rfl
    | some a =>
      cases total f l with
      | none => rfl
      | some b =>
        cases total f l' with
        | none => rfl
        | some c => simp [add_assoc]

/-- **A total is the total of the totals.** -/
theorem total_flatMap {g : β → Option M} {block : β → List α} (xs : List β)
    (h : ∀ x ∈ xs, g x = total f (block x)) : total f (xs.flatMap block) = total g xs := by
  induction xs with
  | nil => rfl
  | cons x xs ih =>
    rw [List.flatMap_cons, total_append, total_cons, h x List.mem_cons_self,
      ih fun y hy => h y (List.mem_cons_of_mem x hy)]

end

end DryTrade
