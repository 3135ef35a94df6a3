import Mathlib.Algebra.Order.Floor.Ring
import Mathlib.Data.Rat.Floor
import Mathlib.Tactic

/-!
# Decimal arithmetic

A finite decimal number is modelled by the rational it denotes: two spellings of
one number compare equal in Python, and nothing here depends on the spelling.
What the ambient decimal context decides is how the exact result of an operation
is rounded, so a `DecimalContext` is that rounding, and the four operations are
the exact ones followed by it.

## Main definitions

* `DecimalContext` — the rounding applied after every operation.
* `DecimalContext.exact` — the context that never rounds.
* `toIntegralDown` — truncation to an integer, toward zero.
-/

namespace DryTrade

/-- The rounding a decimal context applies to the exact result of an operation. -/
structure DecimalContext where
  /-- Round one exact result. -/
  round : ℚ → ℚ

namespace DecimalContext

/-- The context in which no result is rounded. -/
def exact : DecimalContext := ⟨id⟩

/-- `a + b`, rounded. -/
def add (ctx : DecimalContext) (a b : ℚ) : ℚ := ctx.round (a + b)

/-- `a - b`, rounded. -/
def sub (ctx : DecimalContext) (a b : ℚ) : ℚ := ctx.round (a - b)

/-- `a * b`, rounded. -/
def mul (ctx : DecimalContext) (a b : ℚ) : ℚ := ctx.round (a * b)

/-- `a / b`, rounded.  Every divisor of the modelled code is checked nonzero. -/
def div (ctx : DecimalContext) (a b : ℚ) : ℚ := ctx.round (a / b)

/-- `-a`, rounded. -/
def neg (ctx : DecimalContext) (a : ℚ) : ℚ := ctx.round (-a)

/-- `abs(a)`, rounded. -/
def abs (ctx : DecimalContext) (a : ℚ) : ℚ := ctx.round |a|

@[simp] theorem exact_round (a : ℚ) : exact.round a = a := rfl

@[simp] theorem exact_add (a b : ℚ) : exact.add a b = a + b := rfl

@[simp] theorem exact_sub (a b : ℚ) : exact.sub a b = a - b := rfl

@[simp] theorem exact_mul (a b : ℚ) : exact.mul a b = a * b := rfl

@[simp] theorem exact_div (a b : ℚ) : exact.div a b = a / b := rfl

@[simp] theorem exact_neg (a : ℚ) : exact.neg a = -a := rfl

@[simp] theorem exact_abs (a : ℚ) : exact.abs a = |a| := rfl

end DecimalContext

/-- `value.to_integral_value(rounding=ROUND_DOWN)`: truncation toward zero. -/
def toIntegralDown (q : ℚ) : ℚ := if 0 ≤ q then (⌊q⌋ : ℚ) else (⌈q⌉ : ℚ)

theorem toIntegralDown_of_nonneg {q : ℚ} (h : 0 ≤ q) : toIntegralDown q = (⌊q⌋ : ℚ) := by
  unfold toIntegralDown
  rw [if_pos h]

end DryTrade
