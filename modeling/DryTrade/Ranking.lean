import DryTrade.OrderStatistics

/-!
# Ranking

The first of the values with the least key, and the scores of sorted values.

## Main definitions

* `leastBy` — the first of the values with the least key.

## Main results

* `leastBy_spec` — no value has a smaller key.
* `score_le_of_head?` — no value scores less than the first of the sorted ones.
-/

namespace DryTrade

section

variable {α κ ι : Type*} [LinearOrder κ] [LinearOrder ι] {score : α → κ} {key : α → ι}

/-- The first of the values with the least key. -/
def leastBy (key : α → ι) : List α → Option α
  | [] => none
  | a :: l => some (l.foldl (fun best b => if key b < key best then b else best) a)

/-- The fold keeps a least key of what it has passed. -/
theorem foldl_least_spec (l : List α) (a : α) :
    let best := l.foldl (fun best b => if key b < key best then b else best) a
    best ∈ a :: l ∧ ∀ b ∈ a :: l, key best ≤ key b := by
  induction l generalizing a with
  | nil =>
    refine ⟨List.mem_cons_self, fun b hb => ?_⟩
    rw [List.mem_singleton.mp hb]
    exact le_rfl
  | cons c l ih =>
    rw [List.foldl_cons]
    by_cases h : key c < key a
    · rw [if_pos h]
      obtain ⟨hmem, hleast⟩ := ih c
      refine ⟨List.mem_cons_of_mem _ hmem, fun b hb => ?_⟩
      rcases List.mem_cons.mp hb with rfl | hb
      · exact (hleast c List.mem_cons_self).trans h.le
      · exact hleast b hb
    · rw [if_neg h]
      obtain ⟨hmem, hleast⟩ := ih a
      refine ⟨?_, fun b hb => ?_⟩
      · rcases List.mem_cons.mp hmem with heq | hmem
        · rw [heq]
          exact List.mem_cons_self
        · exact List.mem_cons_of_mem _ (List.mem_cons_of_mem _ hmem)
      · rcases List.mem_cons.mp hb with rfl | hb
        · exact hleast b List.mem_cons_self
        · rcases List.mem_cons.mp hb with rfl | hb
          · exact (hleast a List.mem_cons_self).trans (not_lt.mp h)
          · exact hleast b (List.mem_cons_of_mem _ hb)

theorem leastBy_spec {l : List α} {a : α} (h : leastBy key l = some a) :
    a ∈ l ∧ ∀ b ∈ l, key a ≤ key b := by
  cases l with
  | nil => cases h
  | cons c l =>
    obtain rfl := Option.some.inj h
    exact foldl_least_spec l c

theorem leastBy_eq_none_iff {l : List α} : leastBy key l = none ↔ l = [] := by
  cases l <;> simp [leastBy]

/-- The first of the sorted values has a least score. -/
theorem score_le_of_head? {l : List α} {top a : α} (h : (sortBy score l).head? = some top)
    (ha : a ∈ l) : score top ≤ score a := by
  have hsorted : (sortBy score l).Pairwise fun a b => score a ≤ score b := pairwise_sortBy l
  have hmem : a ∈ sortBy score l := (sortBy_perm l).mem_iff.mpr ha
  cases hl : sortBy score l with
  | nil =>
    rw [hl] at h
    cases h
  | cons c rest =>
    rw [hl] at h hsorted hmem
    obtain rfl := Option.some.inj h
    rcases List.mem_cons.mp hmem with rfl | hmem
    · exact le_rfl
    · exact List.rel_of_pairwise_cons hsorted hmem

end

end DryTrade
