import Mathlib.Tactic

/-!
# Histories and cycles

Two ways to read a list as a history: a property of every event together with the
events before it, and the cut of the list into cycles, each of which ends at the
first event after which a running state is at rest.

## Main definitions

* `AlongPrefixes P l` — every event of `l` satisfies `P` over the events before it.
* `cycles step rest b l` — the cycles of `l` from the state `b`.

## Main results

* `alongPrefixes_concat` — one more event adds one more condition.
* `cyclesFrom_flatten` — the cycles contain every event once, in order.
* `cyclesFrom_append` — a history that comes to rest is cut where it does.
-/

namespace DryTrade

/-! ### Histories -/

section

variable {α : Type*} {P Q : List α → α → Prop} {l : List α}

/-- Every event satisfies `P` over the events before it. -/
def AlongPrefixes (P : List α → α → Prop) (l : List α) : Prop :=
  ∀ before a after, l = before ++ a :: after → P before a

theorem alongPrefixes_nil : AlongPrefixes P [] := by
  intro before a after h
  simp at h

/-- One more event adds one more condition. -/
theorem alongPrefixes_concat {a : α} :
    AlongPrefixes P (l ++ [a]) ↔ AlongPrefixes P l ∧ P l a := by
  constructor
  · intro h
    refine ⟨fun before b after hl => h before b (after ++ [a]) (by simp [hl]), h l a [] rfl⟩
  · rintro ⟨hl, ha⟩ before b after heq
    rcases List.eq_nil_or_concat after with rfl | ⟨after, c, rfl⟩
    · obtain ⟨rfl, hab⟩ := List.append_inj' heq rfl
      cases hab
      exact ha
    · rw [List.concat_eq_append, ← List.cons_append, ← List.append_assoc] at heq
      obtain ⟨rfl, -⟩ := List.append_inj' heq rfl
      exact hl before b after rfl

theorem AlongPrefixes.imp (h : AlongPrefixes P l) (hPQ : ∀ before a, P before a → Q before a) :
    AlongPrefixes Q l :=
  fun before a after hl => hPQ before a (h before a after hl)

/-- A beginning of a history is one. -/
theorem AlongPrefixes.of_prefix (h : AlongPrefixes P l) {l' : List α} (hl : l' <+: l) :
    AlongPrefixes P l' := by
  obtain ⟨later, rfl⟩ := hl
  exact fun before a after hl' => h before a (after ++ later) (by simp [hl'])

/-- The same, at every index. -/
theorem alongPrefixes_iff_take : AlongPrefixes P l ↔ ∀ i : Fin l.length, P (l.take i) l[i] := by
  constructor
  · intro h i
    refine h _ _ (l.drop (i + 1)) ?_
    rw [Fin.getElem_fin, ← List.drop_eq_getElem_cons, List.take_append_drop]
  · rintro h before a after rfl
    have hi := h ⟨before.length, by simp⟩
    simpa using hi

end

/-! ### Cycles -/

section

variable {α β : Type*} (step : β → α → β) (rest : β → Prop) [DecidablePred rest]

/-- The cycles of a list from a state, of which the current one already has `current`. -/
def cyclesFrom : β → List α → List α → List (List α)
  | _, current, [] => if current = [] then [] else [current]
  | b, current, a :: l =>
      if rest (step b a) then (current ++ [a]) :: cyclesFrom (step b a) [] l
      else cyclesFrom (step b a) (current ++ [a]) l

/-- The cycles of a list: each ends at the first event that leaves the state at rest, and the
last one may not have ended. -/
def cycles (b : β) (l : List α) : List (List α) := cyclesFrom step rest b [] l

/-- The cycles contain every event once, in order. -/
theorem cyclesFrom_flatten (b : β) (current l : List α) :
    (cyclesFrom step rest b current l).flatten = current ++ l := by
  induction l generalizing b current with
  | nil =>
    by_cases hc : current = []
    · simp [cyclesFrom, hc]
    · simp [cyclesFrom, hc]
  | cons a l ih =>
    by_cases hr : rest (step b a)
    · simp [cyclesFrom, hr, ih]
    · simp [cyclesFrom, hr, ih]

/-- **A history that comes to rest is cut where it does.** -/
theorem cyclesFrom_append (b : β) (current : List α) {l₁ : List α} (hne : l₁ ≠ [])
    (hrest : rest (l₁.foldl step b)) (l₂ : List α) :
    cyclesFrom step rest b current (l₁ ++ l₂) =
      cyclesFrom step rest b current l₁ ++ cycles step rest (l₁.foldl step b) l₂ := by
  induction l₁ generalizing b current with
  | nil => exact absurd rfl hne
  | cons a l₁ ih =>
    rcases eq_or_ne l₁ [] with rfl | hne₁
    · simp only [List.foldl_cons, List.foldl_nil] at hrest
      simp [cyclesFrom, cycles, hrest]
    · simp only [List.foldl_cons] at hrest
      by_cases hr : rest (step b a)
      · simp only [List.cons_append, cyclesFrom, if_pos hr, List.foldl_cons]
        rw [ih (step b a) [] hne₁ hrest]
      · simp only [List.cons_append, cyclesFrom, if_neg hr, List.foldl_cons]
        rw [ih (step b a) (current ++ [a]) hne₁ hrest]

/-- No cycle is empty. -/
theorem ne_nil_of_mem_cyclesFrom {b : β} {current l c : List α}
    (h : c ∈ cyclesFrom step rest b current l) : c ≠ [] := by
  induction l generalizing b current with
  | nil =>
    by_cases hc : current = []
    · simp [cyclesFrom, hc] at h
    · simp only [cyclesFrom, if_neg hc, List.mem_singleton] at h
      exact h ▸ hc
  | cons a l ih =>
    by_cases hr : rest (step b a)
    · simp only [cyclesFrom, if_pos hr, List.mem_cons] at h
      rcases h with rfl | h
      · simp
      · exact ih h
    · simp only [cyclesFrom, if_neg hr] at h
      exact ih h

end

end DryTrade
