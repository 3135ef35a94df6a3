import Mathlib.Tactic

/-!
# Slots

A linear order cut into consecutive half-open slots, which are numbered by the
integers, and the grouping of a list by the slot of each of its elements.

## Main definitions

* `Slots` — where each slot starts, and the slot of an element.
* `Slots.starts` — the starts of consecutive slots.
* `grouped` — a list in groups, one for each key.

## Main results

* `Slots.floor_mem_starts` — what lies between two starts lies in a slot that starts between them.
* `foldl_addTo` — adding the elements of a list one by one to their groups.
* `flatMap_grouped_perm` — the groups together are the list.
* `additive_grouped` — what adds up over lists adds up over the groups.
-/

namespace DryTrade

/-- Consecutive half-open slots that cover a linear order. -/
structure Slots (α : Type*) [LinearOrder α] where
  /-- The first element of a slot. -/
  start : ℤ → α
  /-- The slot of an element. -/
  index : α → ℤ
  start_strictMono : StrictMono start
  start_le_iff : ∀ {k : ℤ} {t : α}, start k ≤ t ↔ k ≤ index t

namespace Slots

section

variable {α : Type*} [LinearOrder α] (slots : Slots α) {i k : ℤ} {n : ℕ} {s t : α}

/-- The start of the slot of an element. -/
def floor (t : α) : α := slots.start (slots.index t)

theorem floor_le (t : α) : slots.floor t ≤ t := slots.start_le_iff.mpr le_rfl

theorem lt_start_iff : t < slots.start k ↔ slots.index t < k := by
  rw [← not_le, slots.start_le_iff, not_le]

theorem lt_start_succ (t : α) : t < slots.start (slots.index t + 1) :=
  slots.lt_start_iff.mpr (Int.lt_succ _)

theorem index_eq_iff : slots.index t = k ↔ slots.start k ≤ t ∧ t < slots.start (k + 1) := by
  rw [slots.start_le_iff, slots.lt_start_iff]
  omega

@[simp] theorem index_start (k : ℤ) : slots.index (slots.start k) = k :=
  slots.index_eq_iff.mpr ⟨le_rfl, slots.start_strictMono (Int.lt_succ k)⟩

@[simp] theorem floor_start (k : ℤ) : slots.floor (slots.start k) = slots.start k := by
  rw [floor, index_start]

/-- An element at which a slot starts is the start of its slot. -/
theorem exists_of_floor_eq (h : slots.floor t = t) : ∃ k, t = slots.start k := ⟨_, h.symm⟩

/-! ### Consecutive slots -/

/-- The starts of `n` slots, from slot `i` on. -/
def starts (i : ℤ) (n : ℕ) : List α := (List.range n).map fun m : ℕ => slots.start (i + m)

@[simp] theorem length_starts (i : ℤ) (n : ℕ) : (slots.starts i n).length = n := by
  simp [starts]

@[simp] theorem starts_zero (i : ℤ) : slots.starts i 0 = [] := rfl

theorem starts_succ (i : ℤ) (n : ℕ) :
    slots.starts i (n + 1) = slots.start i :: slots.starts (i + 1) n := by
  unfold starts
  rw [List.range_succ_eq_map, List.map_cons, List.map_map, Nat.cast_zero, add_zero]
  congr 1
  refine List.map_congr_left fun m _ => ?_
  rw [Function.comp_apply, Nat.cast_succ, add_comm (m : ℤ) 1, add_assoc]

theorem mem_starts : s ∈ slots.starts i n ↔ ∃ k, i ≤ k ∧ k < i + n ∧ s = slots.start k := by
  simp only [starts, List.mem_map, List.mem_range]
  constructor
  · rintro ⟨m, hm, rfl⟩
    exact ⟨i + m, by omega, by omega, rfl⟩
  · rintro ⟨k, hi, hn, rfl⟩
    exact ⟨(k - i).toNat, by omega, by congr 1; omega⟩

theorem pairwise_starts (i : ℤ) (n : ℕ) : (slots.starts i n).Pairwise (· < ·) := by
  unfold starts
  rw [List.pairwise_map]
  exact List.pairwise_lt_range.imp fun h => slots.start_strictMono (by omega)

theorem nodup_starts (i : ℤ) (n : ℕ) : (slots.starts i n).Nodup :=
  (slots.pairwise_starts i n).imp fun h => h.ne

/-- **The slot of an element between two starts** is one of those between them. -/
theorem floor_mem_starts (hs : slots.start i ≤ t) (ht : t < slots.start (i + n)) :
    slots.floor t ∈ slots.starts i n :=
  slots.mem_starts.mpr ⟨_, slots.start_le_iff.mp hs, slots.lt_start_iff.mp ht, rfl⟩

/-- What lies in one of these slots lies between the two ends. -/
theorem between_of_floor_mem (h : slots.floor t ∈ slots.starts i n) :
    slots.start i ≤ t ∧ t < slots.start (i + n) := by
  obtain ⟨k, hi, hn, hk⟩ := slots.mem_starts.mp h
  have hindex : slots.index t = k := slots.start_strictMono.injective hk
  exact ⟨slots.start_le_iff.mpr (hindex ▸ hi), slots.lt_start_iff.mpr (hindex ▸ hn)⟩

theorem floor_eq_start_iff : slots.floor t = slots.start k ↔
    slots.start k ≤ t ∧ t < slots.start (k + 1) := by
  rw [floor, slots.start_strictMono.injective.eq_iff, slots.index_eq_iff]

/-- `n` slots, from slot `i` on, as pairs of their two ends. -/
def intervals (i : ℤ) (n : ℕ) : List (α × α) :=
  (List.range n).map fun m : ℕ => (slots.start (i + m), slots.start (i + m + 1))

theorem map_fst_intervals (i : ℤ) (n : ℕ) : (slots.intervals i n).map Prod.fst = slots.starts i n := by
  rw [intervals, List.map_map]
  rfl

/-- Each slot ends where the next one starts. -/
theorem isChain_intervals (i : ℤ) (n : ℕ) :
    (slots.intervals i n).IsChain fun left right => left.2 = right.1 := by
  rw [intervals, List.isChain_map, List.isChain_range]
  intro m _
  simp only [Nat.cast_succ, add_assoc]

theorem head?_intervals (i : ℤ) (hn : 0 < n) :
    (slots.intervals i n).head?.map Prod.fst = some (slots.start i) := by
  obtain ⟨n, rfl⟩ := Nat.exists_eq_succ_of_ne_zero hn.ne'
  simp [intervals, List.range_succ_eq_map]

theorem getLast?_intervals (i : ℤ) (hn : 0 < n) :
    (slots.intervals i n).getLast?.map Prod.snd = some (slots.start (i + n)) := by
  obtain ⟨n, rfl⟩ := Nat.exists_eq_succ_of_ne_zero hn.ne'
  simp [intervals, List.range_succ, add_assoc]

/-- The interval of a slot holds exactly the elements of the slot. -/
theorem countP_intervals (i : ℤ) (n : ℕ) (t : α) :
    ((slots.intervals i n).countP fun ends => decide (ends.1 ≤ t) && decide (t < ends.2)) =
      (slots.starts i n).count (slots.floor t) := by
  rw [List.count, starts, intervals, List.countP_map, List.countP_map]
  refine List.countP_congr fun m _ => ?_
  simp only [Function.comp_apply, Bool.and_eq_true, decide_eq_true_eq, beq_iff_eq]
  rw [eq_comm, floor_eq_start_iff]

/-- **An element between two starts lies in exactly one slot between them**, and any other one in
none. -/
theorem countP_intervals_eq (i : ℤ) (n : ℕ) (t : α) :
    ((slots.intervals i n).countP fun ends => decide (ends.1 ≤ t) && decide (t < ends.2)) =
      if slots.start i ≤ t ∧ t < slots.start (i + n) then 1 else 0 := by
  rw [countP_intervals, (slots.nodup_starts i n).count]
  refine if_congr ⟨slots.between_of_floor_mem, fun h => ?_⟩ rfl rfl
  exact slots.floor_mem_starts h.1 h.2

end

end Slots

/-! ### Groups -/

section

variable {κ β : Type*} [DecidableEq κ] {key : β → κ} {keys : List κ} {items : List β}

/-- A list in groups, one for each key. -/
def grouped (key : β → κ) (keys : List κ) (items : List β) : List (κ × List β) :=
  keys.map fun k => (k, items.filter fun x => decide (key x = k))

/-- One more element in the group of a key. -/
def addTo (groups : List (κ × List β)) (k : κ) (x : β) : List (κ × List β) :=
  groups.map fun group => if group.1 = k then (group.1, group.2 ++ [x]) else group

theorem grouped_nil : grouped key keys [] = keys.map fun k => (k, []) := rfl

theorem map_fst_grouped : (grouped key keys items).map Prod.fst = keys := by
  rw [grouped, List.map_map]
  exact List.map_id keys

theorem map_fst_addTo (groups : List (κ × List β)) (k : κ) (x : β) :
    (addTo groups k x).map Prod.fst = groups.map Prod.fst := by
  unfold addTo
  rw [List.map_map]
  refine List.map_congr_left fun group _ => ?_
  by_cases h : group.1 = k <;> simp [h]

/-- Adding an element to the group of its key. -/
theorem addTo_grouped (x : β) :
    addTo (grouped key keys items) (key x) x = grouped key keys (items ++ [x]) := by
  unfold addTo grouped
  rw [List.map_map]
  refine List.map_congr_left fun k _ => ?_
  by_cases h : k = key x
  · simp [h]
  · simp [h, Ne.symm h]

/-- **Adding elements one by one** to the groups of their keys. -/
theorem foldl_addTo (more : List β) :
    more.foldl (fun groups x => addTo groups (key x) x) (grouped key keys items) =
      grouped key keys (items ++ more) := by
  induction more generalizing items with
  | nil => rw [List.foldl_nil, List.append_nil]
  | cons x more ih =>
    rw [List.foldl_cons, addTo_grouped, ih, List.append_assoc, List.singleton_append]

/-- **The groups together** are the elements whose keys are among those given. -/
theorem flatMap_grouped_perm (hnodup : keys.Nodup) :
    ((grouped key keys items).flatMap Prod.snd).Perm
      (items.filter fun x => decide (key x ∈ keys)) := by
  induction keys with
  | nil => simp [grouped]
  | cons k keys ih =>
    obtain ⟨hk, hnodup⟩ := List.nodup_cons.mp hnodup
    -- the group of `k` and the rest are the two parts of the elements that are kept
    have hhead : (items.filter fun x => decide (key x ∈ k :: keys)).filter
        (fun x => decide (key x = k)) = items.filter fun x => decide (key x = k) := by
      rw [List.filter_filter]
      refine List.filter_congr fun x _ => ?_
      by_cases h : key x = k <;> simp [h]
    have hrest : (items.filter fun x => decide (key x ∈ k :: keys)).filter
        (fun x => !decide (key x = k)) = items.filter fun x => decide (key x ∈ keys) := by
      rw [List.filter_filter]
      refine List.filter_congr fun x _ => ?_
      by_cases h : key x = k <;> simp [h, hk]
    refine List.Perm.trans ?_ (List.filter_append_perm (fun x => decide (key x = k)) _)
    rw [hhead, hrest]
    exact (ih hnodup).append_left _

/-- When every key is given, the groups together are the list. -/
theorem flatMap_grouped_perm_self (hnodup : keys.Nodup) (hmem : ∀ x ∈ items, key x ∈ keys) :
    ((grouped key keys items).flatMap Prod.snd).Perm items := by
  refine (flatMap_grouped_perm hnodup).trans (List.Perm.of_eq (List.filter_eq_self.mpr ?_))
  exact fun x hx => decide_eq_true (hmem x hx)

/-- **A sum over all elements** is the sum of the sums over the groups. -/
theorem sum_grouped {M : Type*} [AddCommMonoid M] (hnodup : keys.Nodup)
    (hmem : ∀ x ∈ items, key x ∈ keys) (f : β → M) :
    ((grouped key keys items).map fun group => (group.2.map f).sum).sum = (items.map f).sum := by
  rw [← ((flatMap_grouped_perm_self hnodup hmem).map f).sum_eq, List.map_flatMap,
    List.flatMap_def, List.sum_flatten, List.map_map]
  rfl

/-- What adds up over lists is a sum over their elements. -/
theorem eq_sum_of_append {M : Type*} [AddCommMonoid M] {F : List β → M} (hnil : F [] = 0)
    (happend : ∀ l l', F (l ++ l') = F l + F l') (l : List β) :
    F l = (l.map fun x => F [x]).sum := by
  induction l with
  | nil => exact hnil
  | cons x l ih => rw [List.map_cons, List.sum_cons, ← ih, ← happend, List.singleton_append]

/-- **What adds up over lists adds up over the groups.** -/
theorem additive_grouped {M : Type*} [AddCommMonoid M] (hnodup : keys.Nodup)
    (hmem : ∀ x ∈ items, key x ∈ keys) {F : List β → M} (hnil : F [] = 0)
    (happend : ∀ l l', F (l ++ l') = F l + F l') :
    ((grouped key keys items).map fun group => F group.2).sum = F items := by
  rw [eq_sum_of_append hnil happend items, ← sum_grouped hnodup hmem]
  refine congrArg List.sum (List.map_congr_left fun group _ => ?_)
  exact eq_sum_of_append hnil happend group.2

end

end DryTrade
