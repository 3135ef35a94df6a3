import Mathlib.Data.Int.Log
import Mathlib.Data.Rat.Floor
import Mathlib.Tactic

/-!
# Rounding to significant digits

A decimal number with `n` significant digits is an integer of at most `n` digits
times a power of ten.  Rounding takes a rational to the nearest such number, and to
the even one of two that are equally near.

## Main definitions

* `roundHalfEven` — the nearest integer, the even one on a tie.
* `roundSignificant` — the nearest number with `n` significant digits.
* `HasDigits` — a number with `n` significant digits.

## Main results

* `hasDigits_roundSignificant`, `HasDigits.round_eq` — rounding reaches exactly these
  numbers, so rounding twice is rounding once.
* `roundSignificant_nonneg_iff` — rounding keeps the sign.
* `HasDigits.roundSignificant_le` — rounding does not pass a number with `n` digits.
-/

namespace DryTrade

/-! ### Rounding to an integer -/

/-- The nearest integer, and the even one of two that are equally near. -/
def roundHalfEven (q : ℚ) : ℤ :=
  if q - ⌊q⌋ < 1 / 2 then ⌊q⌋
  else if 1 / 2 < q - ⌊q⌋ then ⌊q⌋ + 1
  else if Even ⌊q⌋ then ⌊q⌋
  else ⌊q⌋ + 1

theorem floor_le_roundHalfEven (q : ℚ) : ⌊q⌋ ≤ roundHalfEven q := by
  unfold roundHalfEven
  split_ifs <;> omega

theorem roundHalfEven_le_floor_add_one (q : ℚ) : roundHalfEven q ≤ ⌊q⌋ + 1 := by
  unfold roundHalfEven
  split_ifs <;> omega

@[simp] theorem roundHalfEven_intCast (m : ℤ) : roundHalfEven m = m := by
  simp [roundHalfEven]

/-- Rounding does not leave an interval between integers. -/
theorem le_roundHalfEven {m : ℤ} {q : ℚ} (h : (m : ℚ) ≤ q) : m ≤ roundHalfEven q :=
  (Int.le_floor.mpr h).trans (floor_le_roundHalfEven q)

theorem roundHalfEven_le {m : ℤ} {q : ℚ} (h : q ≤ m) : roundHalfEven q ≤ m := by
  rcases h.eq_or_lt with rfl | hlt
  · exact (roundHalfEven_intCast m).le
  · have hfloor : ⌊q⌋ < m := Int.floor_lt.mpr hlt
    have hle := roundHalfEven_le_floor_add_one q
    omega

/-! ### Rounding to significant digits -/

/-- The exponent of the last of `n` digits of a number. -/
def lastDigitExponent (n : ℕ) (q : ℚ) : ℤ := Int.log 10 |q| + 1 - n

/-- The nearest number with `n` significant digits, half to even. -/
def roundSignificant (n : ℕ) (q : ℚ) : ℚ :=
  roundHalfEven (q / 10 ^ lastDigitExponent n q) * 10 ^ lastDigitExponent n q

/-- A number with at most `n` significant digits. -/
def HasDigits (n : ℕ) (q : ℚ) : Prop := ∃ m e : ℤ, |m| ≤ 10 ^ n ∧ q = m * 10 ^ e

section

variable {n : ℕ} {q : ℚ}

theorem ten_zpow_pos (e : ℤ) : (0 : ℚ) < 10 ^ e := zpow_pos (by norm_num) e

@[simp] theorem roundSignificant_zero (n : ℕ) : roundSignificant n 0 = 0 := by
  have hzero : roundHalfEven 0 = 0 := by simpa using roundHalfEven_intCast 0
  simp [roundSignificant, hzero]

/-- A number scaled to its last digit lies between two powers of ten. -/
theorem scaled_lt (n : ℕ) (q : ℚ) : |q / 10 ^ lastDigitExponent n q| < 10 ^ n := by
  rw [abs_div, abs_of_pos (ten_zpow_pos _), div_lt_iff₀ (ten_zpow_pos _), ← zpow_natCast,
    ← zpow_add₀ (by norm_num)]
  have hlog := Int.lt_zpow_succ_log_self (b := 10) (by norm_num) |q|
  rw [show (n : ℤ) + lastDigitExponent n q = Int.log 10 |q| + 1 by
    unfold lastDigitExponent
    ring]
  exact_mod_cast hlog

theorem one_le_scaled (hn : 0 < n) (hq : q ≠ 0) : 1 ≤ |q / 10 ^ lastDigitExponent n q| := by
  rw [abs_div, abs_of_pos (ten_zpow_pos _), one_le_div₀ (ten_zpow_pos _)]
  have hlog := Int.zpow_log_le_self (b := 10) (by norm_num) (abs_pos.mpr hq)
  refine le_trans (zpow_le_zpow_right₀ (by norm_num) ?_) (by exact_mod_cast hlog)
  unfold lastDigitExponent
  omega

/-- **A rounded number has `n` digits.** -/
theorem hasDigits_roundSignificant (n : ℕ) (q : ℚ) : HasDigits n (roundSignificant n q) := by
  refine ⟨_, _, ?_, rfl⟩
  obtain ⟨hlow, hhigh⟩ := abs_lt.mp (scaled_lt n q)
  refine abs_le.mpr ⟨le_roundHalfEven ?_, roundHalfEven_le ?_⟩
  · push_cast
    exact hlow.le
  · push_cast
    exact hhigh.le

/-- A number with `n` digits is a multiple of the power of ten of its last digit. -/
theorem HasDigits.scaled_int (hn : 0 < n) (h : HasDigits n q) (hq : q ≠ 0) :
    ∃ m : ℤ, q / 10 ^ lastDigitExponent n q = m := by
  obtain ⟨m, e, hm, rfl⟩ := h
  have habs : |(m : ℚ) * 10 ^ e| ≤ 10 ^ (n + e : ℤ) := by
    rw [abs_mul, abs_of_pos (ten_zpow_pos e), zpow_add₀ (by norm_num), zpow_natCast]
    exact mul_le_mul_of_nonneg_right (by exact_mod_cast hm) (ten_zpow_pos e).le
  set L := Int.log 10 |(m : ℚ) * 10 ^ e| with hL
  have hlow : (10 : ℚ) ^ L ≤ |(m : ℚ) * 10 ^ e| := by
    exact_mod_cast Int.zpow_log_le_self (b := 10) (by norm_num) (abs_pos.mpr hq)
  have hle : L ≤ n + e := (zpow_le_zpow_iff_right₀ (by norm_num)).mp (hlow.trans habs)
  rcases hle.lt_or_eq with hlt | heq
  · -- its last digit is not before the last digit it was written with
    refine ⟨m * 10 ^ (e - lastDigitExponent n (m * 10 ^ e)).toNat, ?_⟩
    have hexp : 0 ≤ e - lastDigitExponent n (m * 10 ^ e) := by
      unfold lastDigitExponent
      omega
    rw [mul_div_assoc, ← zpow_sub₀ (by norm_num)]
    push_cast
    rw [← zpow_natCast, Int.toNat_of_nonneg hexp]
  · -- it is the power of ten after the largest number of `n` digits
    have hpower : |(m : ℚ) * 10 ^ e| = 10 ^ L := le_antisymm (heq ▸ habs) hlow
    have hscaled : |(m : ℚ) * 10 ^ e / 10 ^ lastDigitExponent n (m * 10 ^ e)| =
        10 ^ (n - 1) := by
      rw [abs_div, abs_of_pos (ten_zpow_pos _), hpower, ← zpow_sub₀ (by norm_num), ← zpow_natCast]
      congr 1
      unfold lastDigitExponent
      rw [← hL]
      omega
    rcases abs_eq (by positivity) |>.mp hscaled with h | h
    · exact ⟨10 ^ (n - 1), by exact_mod_cast h⟩
    · exact ⟨-10 ^ (n - 1), by exact_mod_cast h⟩

/-- **Rounding keeps a number that has `n` digits.** -/
theorem HasDigits.round_eq (hn : 0 < n) (h : HasDigits n q) : roundSignificant n q = q := by
  rcases eq_or_ne q 0 with rfl | hq
  · exact roundSignificant_zero n
  · obtain ⟨m, hm⟩ := h.scaled_int hn hq
    unfold roundSignificant
    rw [hm, roundHalfEven_intCast, ← hm, div_mul_cancel₀ _ (ten_zpow_pos _).ne']

/-- **Rounding keeps the sign.** -/
theorem roundSignificant_nonneg_iff (hn : 0 < n) : 0 ≤ roundSignificant n q ↔ 0 ≤ q := by
  unfold roundSignificant
  rw [mul_nonneg_iff_of_pos_right (ten_zpow_pos _), Int.cast_nonneg_iff]
  constructor
  · intro h
    by_contra hneg
    have hq : q < 0 := not_le.mp hneg
    have hone := one_le_scaled hn hq.ne
    rw [abs_of_neg (div_neg_of_neg_of_pos hq (ten_zpow_pos _))] at hone
    have hle : roundHalfEven (q / 10 ^ lastDigitExponent n q) ≤ -1 :=
      roundHalfEven_le (by push_cast; linarith)
    omega
  · intro h
    exact le_roundHalfEven (by push_cast; exact div_nonneg h (ten_zpow_pos _).le)

/-- The last digit of a larger number does not come after that of a smaller one. -/
theorem lastDigitExponent_mono {a : ℚ} (hq : 0 < q) (h : q ≤ a) :
    lastDigitExponent n q ≤ lastDigitExponent n a := by
  have hlog : Int.log 10 |q| ≤ Int.log 10 |a| := by
    rw [abs_of_pos hq, abs_of_pos (hq.trans_le h)]
    exact Int.log_mono_right hq h
  unfold lastDigitExponent
  omega

/-- **Rounding does not pass a number that has `n` digits.** -/
theorem HasDigits.roundSignificant_le {a : ℚ} (hn : 0 < n) (ha : HasDigits n a) (hq : 0 ≤ q)
    (h : q ≤ a) : roundSignificant n q ≤ a := by
  rcases hq.eq_or_lt with rfl | hpos
  · rwa [roundSignificant_zero]
  · -- `a` is an integer in units of the last digit of `q`
    obtain ⟨m, hm⟩ := ha.scaled_int hn (hpos.trans_le h).ne'
    obtain ⟨k, hk⟩ := Int.eq_ofNat_of_zero_le (sub_nonneg.mpr (lastDigitExponent_mono hpos h))
    have hscaled : a / 10 ^ lastDigitExponent n q = ((m * 10 ^ k : ℤ) : ℚ) := by
      have hexp : lastDigitExponent n a = lastDigitExponent n q + k := by linarith
      have ha' : a = m * 10 ^ lastDigitExponent n a := by
        rw [← hm, div_mul_cancel₀ _ (ten_zpow_pos _).ne']
      rw [div_eq_iff (ten_zpow_pos _).ne', ha', hexp, zpow_add₀ (by norm_num), zpow_natCast]
      push_cast
      ring
    have hround : roundHalfEven (q / 10 ^ lastDigitExponent n q) ≤ m * 10 ^ k := by
      refine roundHalfEven_le ?_
      rw [← hscaled]
      exact div_le_div_of_nonneg_right h (ten_zpow_pos _).le
    rw [roundSignificant, ← le_div_iff₀ (ten_zpow_pos _), hscaled]
    exact_mod_cast hround

end

end DryTrade
