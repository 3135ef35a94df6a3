import DryTrade.DecimalText
import DryTrade.SignificantDigits

/-!
# Normalized decimals

Normalizing rounds a decimal to the digits of its context and strips the zeros at the end of the
coefficient.  In fixed-point notation the result is the canonical text of the rounded number.

## Main definitions

* `Decimal.rounded` — a number rounded to significant digits.
* `Decimal.stripZeros`, `Decimal.normalize` — without zeros at the end.

## Main results

* `Decimal.fixed_normalize` — its notation is a canonical text.
-/

namespace DryTrade
namespace Decimal

/-- A number, rounded to `n` significant digits. -/
def rounded (n : ℕ) (q : ℚ) : Decimal :=
  ⟨decide (q < 0), (roundHalfEven (q / 10 ^ lastDigitExponent n q)).natAbs, lastDigitExponent n q⟩

/-- Strip at most `k` zeros at the end of the coefficient. -/
def stripZeros : ℕ → Decimal → Decimal
  | 0, d => d
  | k + 1, d =>
    if d.coefficient % 10 = 0 then
      stripZeros k ⟨d.negative, d.coefficient / 10, d.exponent + 1⟩
    else d

/-- `value.normalize()`. -/
def normalize (n : ℕ) (q : ℚ) : Decimal :=
  let d := rounded n q
  if d.coefficient = 0 then ⟨d.negative, 0, 0⟩ else stripZeros (digits d.coefficient).length d

section

variable {n : ℕ} {q : ℚ} {d : Decimal}

theorem value_rounded (n : ℕ) (q : ℚ) : (rounded n q).value = roundSignificant n q := by
  unfold value rounded roundSignificant
  dsimp only
  congr 1
  set k := roundHalfEven (q / 10 ^ lastDigitExponent n q) with hk
  by_cases hq : q < 0
  · have hneg : k ≤ 0 := by
      refine roundHalfEven_le ?_
      push_cast
      exact (div_neg_of_neg_of_pos hq (ten_zpow_pos _)).le
    have habs : ((k.natAbs : ℕ) : ℤ) = -k := by omega
    rw [if_pos (decide_eq_true hq), ← Int.cast_natCast, habs]
    push_cast
    ring
  · have hpos : 0 ≤ k := by
      refine le_roundHalfEven ?_
      push_cast
      exact div_nonneg (not_lt.mp hq) (ten_zpow_pos _).le
    have habs : ((k.natAbs : ℕ) : ℤ) = k := by omega
    rw [if_neg (by simpa using hq), ← Int.cast_natCast, habs, one_mul]

/-- A number that is not zero does not round to zero. -/
theorem roundSignificant_ne_zero (hn : 0 < n) (hq : q ≠ 0) : roundSignificant n q ≠ 0 := by
  have hone := one_le_scaled hn hq
  refine mul_ne_zero (Int.cast_ne_zero.mpr fun hzero => ?_) (ten_zpow_pos _).ne'
  rcases le_abs'.mp hone with h | h
  · have hle := roundHalfEven_le (m := -1) (by push_cast; exact h)
    omega
  · have hle := le_roundHalfEven (m := 1) (by push_cast; exact h)
    omega

theorem coefficient_rounded_ne_zero (hn : 0 < n) (hq : q ≠ 0) :
    (rounded n q).coefficient ≠ 0 := by
  rw [ne_eq, ← value_eq_zero_iff, value_rounded]
  exact roundSignificant_ne_zero hn hq

theorem text_stripZeros (k : ℕ) (h : d.coefficient ≠ 0) : (stripZeros k d).text = d.text := by
  induction k generalizing d with
  | zero => rfl
  | succ k ih =>
    unfold stripZeros
    split
    · next hzero =>
      have hten : d.coefficient / 10 * 10 = d.coefficient := by omega
      have hne : d.coefficient / 10 ≠ 0 := by omega
      rw [ih (d := ⟨d.negative, d.coefficient / 10, d.exponent + 1⟩) hne,
        ← text_mul_ten d.negative hne, hten]
    · rfl

/-- Enough steps leave no zero at the end. -/
theorem coefficient_stripZeros {k : ℕ} (hlt : d.coefficient < 10 ^ k) (h : d.coefficient ≠ 0) :
    (stripZeros k d).coefficient % 10 ≠ 0 := by
  induction k generalizing d with
  | zero =>
    rw [pow_zero] at hlt
    omega
  | succ k ih =>
    unfold stripZeros
    split
    · next hzero =>
      rw [pow_succ] at hlt
      refine ih (d := ⟨d.negative, d.coefficient / 10, d.exponent + 1⟩) ?_ ?_
      · show d.coefficient / 10 < 10 ^ k
        omega
      · show d.coefficient / 10 ≠ 0
        omega
    · next hlast => exact hlast

/-- The last digit of a number. -/
theorem digits_eq_concat (m : ℕ) : ∃ l, digits m = l ++ [Nat.digitChar (m % 10)] := by
  have hlast : digits (m % 10) = [Nat.digitChar (m % 10)] :=
    Nat.toDigits_of_lt_base (Nat.mod_lt m (by decide))
  rcases Nat.eq_zero_or_pos (m / 10) with h | h
  · have hm10 : m % 10 = m := by omega
    exact ⟨[], by rw [List.nil_append, ← hlast, hm10]⟩
  · refine ⟨digits (m / 10), ?_⟩
    have happ := Nat.toDigits_append_toDigits (b := 10) (n := m / 10) (d := m % 10) (by decide) h
      (Nat.mod_lt m (by decide))
    rw [Nat.div_add_mod] at happ
    rw [← hlast]
    exact happ.symm

/-- Without a zero at the end there is nothing to strip from the text. -/
theorem fixed_eq_text (h : d.coefficient % 10 ≠ 0) : d.fixed = d.text := by
  have hdigit : ∀ k < 10, k ≠ 0 → Nat.digitChar k ≠ '0' := by decide
  rw [fixed_eq, text_eq_join fun hzero => h (by rw [hzero])]
  congr 1
  rcases d.exponent_cases with ⟨e, he⟩ | ⟨e, hpos, he⟩
  · rw [parts_of_nonneg he]
    rfl
  · rw [parts_of_neg hpos he]
    dsimp only
    have hmod : d.coefficient % 10 ^ e % 10 = d.coefficient % 10 :=
      Nat.mod_mod_of_dvd _ (dvd_pow_self 10 hpos.ne')
    obtain ⟨l, hl⟩ := digits_eq_concat (d.coefficient % 10 ^ e)
    rw [hmod] at hl
    rw [List.leftpad, hl, ← List.append_assoc, List.rdropWhile_concat_neg]
    simpa using hdigit _ (Nat.mod_lt _ (by decide)) h

theorem lt_pow_length_digits (m : ℕ) : m < 10 ^ (digits m).length :=
  (Nat.length_toDigits_le_iff (by decide) Nat.length_toDigits_pos).mp le_rfl

/-- **The notation of a normalized number** is the canonical text of the rounded one. -/
theorem fixed_normalize (hn : 0 < n) (hq : q ≠ 0) : (normalize n q).fixed = (rounded n q).text := by
  have hne := coefficient_rounded_ne_zero hn hq
  unfold normalize
  dsimp only
  rw [if_neg hne, fixed_eq_text (coefficient_stripZeros (lt_pow_length_digits _) hne),
    text_stripZeros _ hne]

end

end Decimal
end DryTrade
