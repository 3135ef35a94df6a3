import Mathlib.Tactic

/-!
# Rolling windows

Windows of one size roll over a row of slots, each a step further than the one before.  The last
step of a window is its tail: the tails follow one another without a gap, whatever the windows
share before them.  As many windows are laid as fit, and fewer than a step of slots is left over.

## Main definitions

* `RollingWindows` — the size of the windows and the step between them.
* `start`, `stop`, `tail` — the first slot of a window, the one after its last, and the first one
  of its tail.
* `count`, `trailing` — how many windows fit, and how many slots are left over.

## Main results

* `lt_count_iff` — a window is laid exactly when it fits.
* `stop_add_trailing` — the windows and the slots left over end together.
* `exists_tail` — every slot from the first tail on is left over or in exactly one tail.
-/

namespace DryTrade

/-- Windows of `size` slots, each `step` slots after the one before it. -/
structure RollingWindows where
  size : ℕ
  step : ℕ
  step_pos : 0 < step
  step_le : step ≤ size

namespace RollingWindows

variable (w : RollingWindows) {total i j : ℕ}

/-- The first slot of a window. -/
def start (i : ℕ) : ℕ := i * w.step

/-- The slot after the last one of a window. -/
def stop (i : ℕ) : ℕ := w.start i + w.size

/-- The first slot of the tail of a window. -/
def tail (i : ℕ) : ℕ := w.start i + (w.size - w.step)

/-- How many windows fit into `total` slots. -/
def count (total : ℕ) : ℕ := if total < w.size then 0 else 1 + (total - w.size) / w.step

/-- How many slots are left over. -/
def trailing (total : ℕ) : ℕ := if total < w.size then total else (total - w.size) % w.step

@[simp] theorem start_zero : w.start 0 = 0 := by simp [start]

theorem start_succ : w.start (i + 1) = w.start i + w.step := by
  unfold start
  ring

theorem stop_succ : w.stop (i + 1) = w.stop i + w.step := by
  unfold stop
  rw [start_succ]
  omega

theorem count_of_lt (h : total < w.size) : w.count total = 0 := if_pos h

theorem count_of_le (h : w.size ≤ total) : w.count total = 1 + (total - w.size) / w.step :=
  if_neg (not_lt.mpr h)

/-- The tail of a window starts where that of the window before it ends. -/
theorem tail_succ : w.tail (i + 1) = w.stop i := by
  have hle := w.step_le
  unfold tail stop
  rw [start_succ]
  omega

theorem tail_add_step : w.tail i + w.step = w.stop i := by
  have hle := w.step_le
  unfold tail stop
  omega

theorem start_le_tail : w.start i ≤ w.tail i := Nat.le_add_right _ _

theorem tail_le_stop : w.tail i ≤ w.stop i := by
  rw [← tail_add_step]
  exact Nat.le_add_right _ _

theorem start_mono (h : i ≤ j) : w.start i ≤ w.start j := Nat.mul_le_mul_right _ h

theorem stop_mono (h : i ≤ j) : w.stop i ≤ w.stop j :=
  Nat.add_le_add_right (w.start_mono h) _

theorem tail_mono (h : i ≤ j) : w.tail i ≤ w.tail j :=
  Nat.add_le_add_right (w.start_mono h) _

/-- The tails of two windows do not meet. -/
theorem stop_le_tail (h : i < j) : w.stop i ≤ w.tail j := by
  rw [← tail_succ]
  exact w.tail_mono h

/-- **A window is laid exactly when it fits.** -/
theorem lt_count_iff : i < w.count total ↔ w.stop i ≤ total := by
  unfold count stop start
  split
  · next hlt =>
    constructor
    · intro h
      exact absurd h (Nat.not_lt_zero i)
    · intro h
      omega
  · next hge =>
    rw [Nat.add_comm 1, Nat.lt_succ_iff, Nat.le_div_iff_mul_le w.step_pos]
    omega

theorem trailing_lt (h : w.size ≤ total) : w.trailing total < w.step := by
  unfold trailing
  rw [if_neg (not_lt.mpr h)]
  exact Nat.mod_lt _ w.step_pos

/-- **The last window and the slots left over end together.** -/
theorem stop_add_trailing (h : w.count total = i + 1) : w.stop i + w.trailing total = total := by
  unfold count at h
  split at h
  · exact absurd h (Nat.succ_ne_zero i).symm
  · next hge =>
    have hi : i = (total - w.size) / w.step := by omega
    have hdiv := Nat.div_add_mod (total - w.size) w.step
    unfold stop start trailing
    rw [if_neg hge, hi, Nat.mul_comm]
    omega

/-- A window that ends with the slots left over is the last one. -/
theorem count_of_stop_add_trailing (h : w.stop i + w.trailing total = total) :
    w.count total = i + 1 := by
  have hstop : w.stop i ≤ total := Nat.le.intro h
  have hsize : w.size ≤ total := (Nat.le_add_left _ _).trans hstop
  have hlt : i < w.count total := w.lt_count_iff.mpr hstop
  have hnext : ¬ i + 1 < w.count total := by
    rw [lt_count_iff, stop_succ]
    have := w.trailing_lt hsize
    omega
  omega

/-- **Every slot from the first tail on is left over, or in one tail.** -/
theorem exists_tail {slot : ℕ} (hfirst : w.tail 0 ≤ slot) :
    ∃ i, w.tail i ≤ slot ∧ slot < w.stop i ∧ ∀ j, w.tail j ≤ slot → slot < w.stop j → j = i := by
  have hpos := w.step_pos
  have hdiv := Nat.div_add_mod (slot - w.tail 0) w.step
  have hmod := Nat.mod_lt (slot - w.tail 0) hpos
  have htail : ∀ k, w.tail k = w.tail 0 + w.step * k := by
    intro k
    unfold tail start
    ring
  refine ⟨(slot - w.tail 0) / w.step, ?_, ?_, ?_⟩
  · rw [htail]
    omega
  · rw [← tail_add_step, htail]
    omega
  · intro j hj hj'
    set i := (slot - w.tail 0) / w.step with hi
    have hi' : w.tail i ≤ slot := by
      rw [htail]
      omega
    have hi'' : slot < w.stop i := by
      rw [← tail_add_step, htail]
      omega
    rcases lt_trichotomy j i with hlt | heq | hgt
    · have := w.stop_le_tail hlt
      omega
    · exact heq
    · have := w.stop_le_tail hgt
      omega

end RollingWindows
end DryTrade
