import Mathlib.Tactic

/-!
# Cartesian products

The product of some lists, in the order of nested loops: the last one varies fastest.

## Main definitions

* `product` — one choice of each list.

## Main results

* `mem_product_iff` — the choices.
* `length_product` — their number.
* `pairwise_product` — they are in lexicographic order.
-/

namespace DryTrade

section

variable {α β : Type*}

/-- One choice of each list; the last choice varies fastest. -/
def product : List (List α) → List (List α)
  | [] => [[]]
  | l :: ls => l.flatMap fun a => (product ls).map (a :: ·)

theorem mem_product_iff : ∀ {ls : List (List α)} {c : List α},
    c ∈ product ls ↔ List.Forall₂ (· ∈ ·) c ls := by
  intro ls
  induction ls with
  | nil =>
    intro c
    rw [product, List.mem_singleton, List.forall₂_nil_right_iff]
  | cons l ls ih =>
    intro c
    rw [product, List.mem_flatMap]
    constructor
    · rintro ⟨a, ha, hc⟩
      obtain ⟨rest, hrest, rfl⟩ := List.mem_map.mp hc
      exact .cons ha (ih.mp hrest)
    · intro h
      cases h with
      | cons ha hc => exact ⟨_, ha, List.mem_map_of_mem (ih.mpr hc)⟩

theorem length_product (ls : List (List α)) :
    (product ls).length = (ls.map List.length).prod := by
  induction ls with
  | nil => rfl
  | cons l ls ih =>
    rw [product, List.length_flatMap, List.map_cons, List.prod_cons, ← ih]
    simp

/-- A choice of images is the image of a choice. -/
theorem product_map (f : α → β) (ls : List (List α)) :
    product (ls.map (List.map f)) = (product ls).map (List.map f) := by
  induction ls with
  | nil => rfl
  | cons l ls ih =>
    rw [List.map_cons, product, product, ih, List.flatMap_map, List.map_flatMap]
    refine List.flatMap_congr fun a _ => ?_
    rw [List.map_map, List.map_map]
    rfl

/-- **The choices of sorted lists are in lexicographic order.** -/
theorem pairwise_product [LinearOrder α] {ls : List (List α)}
    (h : ∀ l ∈ ls, l.Pairwise (· < ·)) : (product ls).Pairwise (· < ·) := by
  induction ls with
  | nil => exact List.pairwise_singleton _ _
  | cons l ls ih =>
    obtain ⟨hl, hls⟩ := List.forall_mem_cons.mp h
    rw [product, List.pairwise_flatMap]
    constructor
    · intro a _
      exact List.pairwise_map.mpr ((ih hls).imp fun hlt => List.Lex.cons hlt)
    · refine hl.imp fun {a b} hab c hc c' hc' => ?_
      obtain ⟨c, -, rfl⟩ := List.mem_map.mp hc
      obtain ⟨c', -, rfl⟩ := List.mem_map.mp hc'
      exact List.Lex.rel hab

end

end DryTrade
