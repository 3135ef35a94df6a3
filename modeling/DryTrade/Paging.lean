import Mathlib.Data.List.Basic
import Mathlib.Tactic

/-!
# Pages of a sorted table

A table whose keys grow by at least a step from one row to the next is read in pages: each page is
the first rows from a cursor on, and the next cursor is one step after the last row.  No row is
lost between two pages, and none is read twice.

## Main definitions

* `page` — the first rows of a table whose keys lie between two bounds.

## Main results

* `filter_after_page` — the rows after a page are those from the next cursor on.
* `take_filter_eq_take_takeWhile` — the first rows that pass a test are the leading ones, when no
  row that fails comes before one of them.
* `le_countP_of_take_filter_eq` — otherwise no test that fails on a later row whenever it fails on
  an earlier one has the same first rows.
-/

namespace DryTrade

section

variable {α : Type*} {key : α → ℤ} {step : ℤ}

/-- The first `limit` rows whose keys lie between two bounds. -/
def page (key : α → ℤ) (cursor stop : ℤ) (limit : ℕ) (table : List α) : List α :=
  (table.filter fun a => decide (cursor ≤ key a ∧ key a < stop)).take limit

/-- **The rows after a page** are those from the next cursor on. -/
theorem filter_after_page {done todo : List α} {a : α} (hstep : 0 < step)
    (hspaced : (done ++ a :: todo).Pairwise fun x y => key x + step ≤ key y) :
    (done ++ a :: todo).filter (fun x => decide (key a + step ≤ key x)) = todo := by
  obtain ⟨-, htodo, hdone⟩ := List.pairwise_append.mp hspaced
  obtain ⟨hafter, -⟩ := List.pairwise_cons.mp htodo
  have hnone : done.filter (fun x => decide (key a + step ≤ key x)) = [] := by
    refine List.filter_eq_nil_iff.mpr fun x hx => ?_
    have h := hdone x hx a List.mem_cons_self
    simp only [decide_eq_true_eq]
    omega
  have hall : todo.filter (fun x => decide (key a + step ≤ key x)) = todo :=
    List.filter_eq_self.mpr fun x hx => decide_eq_true (hafter x hx)
  rw [List.filter_append, List.filter_cons, hnone, hall]
  have ha : ¬ key a + step ≤ key a := by omega
  simp [ha]

end

/-! ### Leading rows -/

section

variable {α : Type*} {p : α → Bool}

/-- Where no row passes before which fewer than `m + 1` rows do, none passes at all. -/
theorem countP_take_pos {l : List α} (h : ∀ j (hj : j < l.length), p l[j] = true →
    0 < (l.take j).countP p) : ∀ a ∈ l, ¬ p a = true := by
  have hindex : ∀ j (hj : j < l.length), ¬ p l[j] = true := by
    intro j
    induction j using Nat.strong_induction_on with
    | _ j ih =>
      intro hj hp
      obtain ⟨a, ha, hpa⟩ := List.countP_pos_iff.mp (h j hj hp)
      obtain ⟨i, hi, rfl⟩ := List.mem_iff_getElem.mp ha
      rw [List.length_take] at hi
      rw [List.getElem_take] at hpa
      exact ih i (by omega) (by omega) hpa
  intro a ha
  obtain ⟨j, hj, rfl⟩ := List.mem_iff_getElem.mp ha
  exact hindex j hj

/-- **The first rows that pass a test are the leading ones**, when no row that fails comes before
one of them. -/
theorem take_filter_eq_take_takeWhile {l : List α} {m : ℕ}
    (h : ∀ i j (hi : i < l.length) (hj : j < l.length), i < j → ¬ p l[i] = true → p l[j] = true →
      m ≤ (l.take j).countP p) :
    (l.filter p).take m = (l.takeWhile p).take m := by
  induction l generalizing m with
  | nil => rfl
  | cons a l ih =>
    cases m with
    | zero => rfl
    | succ m =>
      by_cases ha : p a = true
      · rw [List.filter_cons_of_pos ha, List.takeWhile_cons_of_pos ha, List.take_succ_cons,
          List.take_succ_cons]
        rw [ih fun i j hi hj hlt hpi hpj => ?_]
        have hcount := h (i + 1) (j + 1) (Nat.succ_lt_succ hi) (Nat.succ_lt_succ hj)
          (Nat.succ_lt_succ hlt) hpi hpj
        rw [List.take_succ_cons, List.countP_cons_of_pos ha] at hcount
        omega
      · have hnone : ∀ b ∈ l, ¬ p b = true := by
          refine countP_take_pos fun j hj hpj => ?_
          have hcount := h 0 (j + 1) (Nat.succ_pos _) (Nat.succ_lt_succ hj) (Nat.succ_pos _) ha hpj
          rw [List.take_succ_cons, List.countP_cons_of_neg ha] at hcount
          omega
        rw [List.filter_cons_of_neg ha, List.takeWhile_cons_of_neg ha,
          List.filter_eq_nil_iff.mpr hnone]

/-- Among the first rows that pass, the one that comes first does. -/
theorem le_countP_of_take_filter_eq {q : α → Bool} {front rest : List α} {a b : α} {m : ℕ}
    (hnodup : (front ++ b :: rest).Nodup)
    (heq : ((front ++ b :: rest).filter p).take m = ((front ++ b :: rest).filter q).take m)
    (hfront : a ∈ front) (hq : q b = true → q a = true) (ha : ¬ p a = true) (hb : p b = true) :
    m ≤ front.countP p := by
  by_contra hlt
  rw [List.filter_append, List.filter_append, List.filter_cons_of_pos hb] at heq
  have hbp : b ∈ (front.filter p ++ b :: rest.filter p).take m := by
    rw [List.countP_eq_length_filter] at hlt
    obtain ⟨k, hk⟩ : ∃ k, m - (front.filter p).length = k + 1 :=
      ⟨m - (front.filter p).length - 1, by omega⟩
    rw [List.take_append, hk, List.take_succ_cons]
    exact List.mem_append_right _ List.mem_cons_self
  rw [heq] at hbp
  have hqb : q b = true := by
    rw [← List.filter_append] at hbp
    exact (List.mem_filter.mp (List.mem_of_mem_take hbp)).2
  have hap : a ∈ (front.filter q ++ (b :: rest).filter q).take m := by
    by_cases hlength : m ≤ (front.filter q).length
    · rw [List.take_append_of_le_length hlength] at hbp
      have hmem := (List.mem_filter.mp (List.mem_of_mem_take hbp)).1
      exact absurd rfl ((List.pairwise_append.mp hnodup).2.2 b hmem b List.mem_cons_self)
    · rw [List.take_append, List.take_of_length_le (by omega)]
      exact List.mem_append_left _ (List.mem_filter.mpr ⟨hfront, hq hqb⟩)
  rw [← heq] at hap
  rcases List.mem_append.mp (List.mem_of_mem_take hap) with hmem | hmem
  · exact ha (List.mem_filter.mp hmem).2
  · rcases List.mem_cons.mp hmem with rfl | hmem
    · exact ha hb
    · exact ha (List.mem_filter.mp hmem).2

/-- The first rows that pass are a beginning of the table. -/
theorem take_filter_eq_take {l : List α} {m k : ℕ} (hkm : k ≤ m)
    (hall : ∀ a ∈ l.take k, p a = true) (hnone : m = k ∨ ∀ a ∈ l.drop k, ¬ p a = true) :
    (l.filter p).take m = l.take k := by
  conv_lhs => rw [← List.take_append_drop k l]
  rw [List.filter_append, List.filter_eq_self.mpr hall]
  rcases hnone with rfl | hnone
  · by_cases hlength : m ≤ l.length
    · rw [List.take_left' (List.length_take_of_le hlength)]
    · rw [List.drop_eq_nil_of_le (by omega), List.filter_nil, List.append_nil, List.take_take,
        Nat.min_self]
  · rw [List.filter_eq_nil_iff.mpr hnone, List.append_nil,
      List.take_of_length_le ((List.length_take_le k l).trans hkm)]

end

end DryTrade
