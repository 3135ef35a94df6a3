import Mathlib.Analysis.SpecialFunctions.Pow.NNReal
import DryTrade.Decimal

/-!
# Rounding of real numbers

What a decimal context does with the exact result of an operation, whichever its precision is: a
monotone and idempotent map of the real numbers to the rational ones.

## Main definitions

* `RootContext` — a decimal context with a rounded square root.
* `RealRounding` — a monotone, idempotent rounding that keeps `0`, `1`, `50` and `100`.

## Main results

* `RealRounding.round_nonneg`, `RealRounding.round_le_hundred` — it keeps these bounds.
-/

namespace DryTrade

/-- A decimal context with the square roots it computes. -/
structure RootContext extends DecimalContext where
  /-- The rounded square root. -/
  sqrt : ℚ → ℚ

/-- A rounding that keeps the order of the numbers and the numbers it rounds to. -/
structure RealRounding where
  round : ℝ → ℚ
  monotone : Monotone round
  idempotent : ∀ x, round (round x) = round x
  round_zero : round 0 = 0
  round_one : round 1 = 1
  round_fifty : round 50 = 50
  round_hundred : round 100 = 100

namespace RealRounding

/-- Every exact result is rounded, that of the square root too. -/
noncomputable def context (R : RealRounding) : RootContext where
  round q := R.round q
  sqrt v := R.round √(v : ℝ)

/-- Rounding down to an integer. -/
noncomputable instance : Inhabited RealRounding where
  default :=
    { round := fun x => (⌊x⌋ : ℤ)
      monotone := fun _ _ h => Int.cast_le.mpr (Int.floor_mono h)
      idempotent := fun x => by rw [Rat.cast_intCast, Int.floor_intCast]
      round_zero := by norm_num
      round_one := by norm_num
      round_fifty := by norm_num
      round_hundred := by norm_num }

variable (R : RealRounding) {a b q : ℚ}

theorem round_mono (h : a ≤ b) : R.context.round a ≤ R.context.round b :=
  R.monotone (Rat.cast_le.mpr h)

@[simp] theorem round_round (q : ℚ) :
    R.context.round (R.context.round q) = R.context.round q := R.idempotent q

theorem round_natCast {n : ℕ} (h : R.round n = n) : R.context.round n = n := by
  change R.round ((n : ℚ) : ℝ) = n
  rw [Rat.cast_natCast, h]

theorem round_nonneg (h : 0 ≤ q) : 0 ≤ R.context.round q := by
  have hzero := R.round_natCast (n := 0) (by simpa using R.round_zero)
  rw [Nat.cast_zero] at hzero
  exact hzero ▸ R.round_mono h

theorem one_le_round (h : 1 ≤ q) : 1 ≤ R.context.round q := by
  have hone := R.round_natCast (n := 1) (by simpa using R.round_one)
  rw [Nat.cast_one] at hone
  exact hone ▸ R.round_mono h

theorem round_le_hundred (h : q ≤ 100) : R.context.round q ≤ 100 := by
  have hhundred := R.round_natCast (n := 100) (by simpa using R.round_hundred)
  rw [Nat.cast_ofNat] at hhundred
  exact hhundred ▸ R.round_mono h

theorem round_sub_le (ha : R.context.round a = a) (hb : 0 ≤ b) :
    R.context.round (R.context.sub a b) ≤ a := by
  have h := R.round_mono (R.round_mono (sub_le_self a hb))
  rwa [ha, ha] at h

theorem le_round_add (ha : R.context.round a = a) (hb : 0 ≤ b) :
    a ≤ R.context.round (R.context.add a b) := by
  have h := R.round_mono (R.round_mono (le_add_of_nonneg_right hb (a := a)))
  rwa [ha, ha] at h

theorem sqrt_nonneg (v : ℚ) : 0 ≤ R.context.sqrt v := by
  have h := R.monotone (Real.sqrt_nonneg v)
  rwa [R.round_zero] at h

end RealRounding
end DryTrade
