import DryTrade.NormalizedDecimal

/-!
# The layout of a canonical text

The canonical text of a decimal, written from its digits and its exponent: the zeros at the end of
the coefficient are stripped, the length of the text is computed before the text is built, and a
text that is too long is refused.

## Main definitions

* `Decimal.outputLength`, `Decimal.layoutText` — the length and the text of stripped digits.
* `Decimal.boundedText` — the text, unless it is too long.

## Main results

* `Decimal.layoutText_eq_fixed` — the digits are the fixed-point notation.
* `Decimal.boundedText_eq` — the canonical text, or the error.
* `Decimal.exists_scaled_of_text_length` — a number with a short text is a short integer, scaled.
-/

namespace DryTrade
namespace Decimal

/-- The characters a canonical text may have. -/
def maximumCharacters : ℕ := 128

/-- The text of a decimal is not too long. -/
def Fits (d : Decimal) : Prop := d.text.length ≤ maximumCharacters

instance (d : Decimal) : Decidable d.Fits := inferInstanceAs (Decidable (_ ≤ _))

/-- `Decimal(0)`. -/
def zero : Decimal := ⟨false, 0, 0⟩

/-- The zeros at the end of the coefficient, stripped. -/
def stripped (d : Decimal) : Decimal := stripZeros (digits d.coefficient).length d

/-- Where the point stands among the digits. -/
def pointPosition (d : Decimal) : ℤ := (digits d.coefficient).length + d.exponent

/-- The length of the text. -/
def outputLength (d : Decimal) : ℤ :=
  let signLength : ℤ := if d.negative then 1 else 0
  let digitCount : ℤ := (digits d.coefficient).length
  if 0 ≤ d.exponent then signLength + digitCount + d.exponent
  else if 0 < d.pointPosition then signLength + digitCount + 1
  else signLength + 2 + -d.pointPosition + digitCount

/-- The text, from the digits and the exponent. -/
def layoutText (d : Decimal) : List Char :=
  let coefficient := digits d.coefficient
  let unsigned :=
    if 0 ≤ d.exponent then coefficient ++ List.replicate d.exponent.toNat '0'
    else if 0 < d.pointPosition then
      coefficient.take d.pointPosition.toNat ++ '.' :: coefficient.drop d.pointPosition.toNat
    else '0' :: '.' :: (List.replicate (-d.pointPosition).toNat '0' ++ coefficient)
  signText d.negative ++ unsigned

/-- `decimal_text`: the canonical text of a decimal, unless it has too many characters. -/
def boundedText {ε : Type} (error : ε) (d : Decimal) : Except ε (List Char) :=
  if d.coefficient = 0 then .ok ['0']
  else if (maximumCharacters : ℤ) < d.stripped.outputLength then .error error
  else .ok d.stripped.layoutText

section

variable {d : Decimal}

theorem digits_mul_pow {c : ℕ} (hc : 0 < c) (e : ℕ) :
    digits (c * 10 ^ e) = digits c ++ List.replicate e '0' := by
  induction e with
  | zero => simp
  | succ e ih =>
    rw [pow_succ, ← mul_assoc, digits_mul_ten (by positivity), ih, List.append_assoc,
      List.replicate_succ']

theorem length_digits_le {c k : ℕ} (hk : 0 < k) (h : c < 10 ^ k) : (digits c).length ≤ k :=
  (Nat.length_toDigits_le_iff (by decide) hk).mpr h

theorem digits_of_ten_le {c : ℕ} (h : 10 ≤ c) :
    digits c = digits (c / 10) ++ [Nat.digitChar (c % 10)] :=
  Nat.toDigits_of_base_le (by decide) h

theorem leftpad_concat {m k r : ℕ} (hr : r < 10) (hk : 0 < k) :
    (digits (m * 10 + r)).leftpad (k + 1) '0' =
      (digits m).leftpad k '0' ++ [Nat.digitChar r] := by
  rcases Nat.eq_zero_or_pos m with rfl | hm
  · have hdigit : digits (0 * 10 + r) = [Nat.digitChar r] := by
      rw [Nat.zero_mul, Nat.zero_add]
      exact Nat.toDigits_of_lt_base hr
    obtain ⟨j, rfl⟩ := Nat.exists_eq_succ_of_ne_zero hk.ne'
    rw [hdigit]
    change List.replicate (j + 1 + 1 - 1) '0' ++ [Nat.digitChar r] =
      List.replicate (j + 1 - 1) '0' ++ ['0'] ++ [Nat.digitChar r]
    rw [Nat.add_sub_cancel, Nat.add_sub_cancel, List.replicate_succ']
  · have hdiv : (m * 10 + r) / 10 = m := by omega
    have hmod : (m * 10 + r) % 10 = r := by omega
    rw [digits_of_ten_le (by omega), hdiv, hmod, List.leftpad, List.leftpad, List.length_append,
      List.length_singleton, Nat.add_sub_add_right, List.append_assoc]

/-- The digits of a number, cut before its last `e` ones. -/
theorem digits_split {c e : ℕ} (he : 0 < e) (hc : 10 ^ e ≤ c) :
    digits c = digits (c / 10 ^ e) ++ (digits (c % 10 ^ e)).leftpad e '0' := by
  induction e, he using Nat.le_induction generalizing c with
  | base =>
    have hdigit : digits (c % 10) = [Nat.digitChar (c % 10)] :=
      Nat.toDigits_of_lt_base (Nat.mod_lt c (by decide))
    rw [pow_one] at hc ⊢
    rw [digits_of_ten_le hc, hdigit]
    rfl
  | succ e he ih =>
    have hpow : 10 ≤ 10 ^ (e + 1) := Nat.le_self_pow (Nat.succ_ne_zero e) 10
    have hten : 10 ≤ c := hpow.trans hc
    have hquotient : 10 ^ e ≤ c / 10 := by
      rw [Nat.le_div_iff_mul_le (by decide), ← pow_succ]
      exact hc
    have hmod : c % 10 ^ (e + 1) = c / 10 % 10 ^ e * 10 + c % 10 := by
      rw [pow_succ', Nat.mod_mul, add_comm, mul_comm]
    rw [digits_of_ten_le hten, ih hquotient, Nat.div_div_eq_div_mul, ← pow_succ', hmod,
      leftpad_concat (Nat.mod_lt c (by decide)) he, List.append_assoc]

/-- The digits before and after the point, and where it stands. -/
theorem layout_cases (d : Decimal) :
    (0 ≤ d.exponent) ∨
    (d.exponent < 0 ∧ 0 < d.pointPosition ∧ ∃ int frac, digits d.coefficient = int ++ frac ∧
      d.parts = (signText d.negative, int, frac) ∧ (int.length : ℤ) = d.pointPosition ∧
      frac ≠ []) ∨
    (d.exponent < 0 ∧ d.pointPosition ≤ 0 ∧ d.parts = (signText d.negative, ['0'],
      List.replicate (-d.pointPosition).toNat '0' ++ digits d.coefficient)) := by
  rcases d.exponent_cases with ⟨e, he⟩ | ⟨e, hpos, he⟩
  · exact .inl (by omega)
  have hparts := parts_of_neg hpos he
  rcases le_or_gt (10 ^ e) d.coefficient with hle | hlt
  · have hsplit := digits_split hpos hle
    have hlength : ((digits (d.coefficient % 10 ^ e)).leftpad e '0').length = e :=
      length_leftpad_digits (Nat.mod_lt _ (by positivity)) hpos
    have hint : 0 < (digits (d.coefficient / 10 ^ e)).length := Nat.length_toDigits_pos
    have hposition : ((digits (d.coefficient / 10 ^ e)).length : ℤ) = d.pointPosition := by
      unfold pointPosition
      rw [hsplit, List.length_append, hlength, he]
      push_cast
      ring
    refine .inr (.inl ⟨by omega, by omega, _, _, hsplit, hparts, hposition, fun hnil => ?_⟩)
    rw [hnil, List.length_nil] at hlength
    omega
  · have hlength := length_digits_le hpos hlt
    have hposition : -d.pointPosition = ((e - (digits d.coefficient).length : ℕ) : ℤ) := by
      unfold pointPosition
      rw [he]
      omega
    refine .inr (.inr ⟨by omega, by omega, ?_⟩)
    rw [hparts, Nat.div_eq_of_lt hlt, Nat.mod_eq_of_lt hlt, hposition, Int.toNat_natCast]
    rfl

/-- **The digits are the fixed-point notation.** -/
theorem layoutText_eq_fixed (h : d.coefficient ≠ 0) : d.layoutText = d.fixed := by
  rw [fixed_eq]
  unfold layoutText
  dsimp only
  rcases layout_cases d with hnonneg | ⟨hneg, hpoint, int, frac, hdigits, hparts, hint, hfrac⟩ |
    ⟨hneg, hpoint, hparts⟩
  · obtain ⟨e, he⟩ := Int.eq_ofNat_of_zero_le hnonneg
    rw [if_pos hnonneg, parts_of_nonneg he, he, Int.toNat_natCast,
      digits_mul_pow (Nat.pos_of_ne_zero h)]
    simp [join]
  · have hcut : d.pointPosition.toNat = int.length := by omega
    rw [if_neg (by omega), if_pos hpoint, hparts, hdigits, hcut, List.take_left, List.drop_left]
    simp [join, hfrac]
  · rw [if_neg (by omega), if_neg (by omega), hparts]
    have hne : List.replicate (-d.pointPosition).toNat '0' ++ digits d.coefficient ≠ [] :=
      List.append_ne_nil_of_right_ne_nil _ (digits_ne_nil _)
    simp [join, hne]

theorem length_layoutText (d : Decimal) :
    (d.layoutText.length : ℤ) = d.outputLength := by
  have hsign : ((signText d.negative).length : ℤ) = if d.negative then 1 else 0 := by
    unfold signText
    cases d.negative <;> rfl
  unfold layoutText outputLength
  dsimp only
  rw [← hsign, List.length_append, Nat.cast_add]
  generalize ((signText d.negative).length : ℤ) = signLength
  rcases layout_cases d with hnonneg | ⟨hneg, hpoint, int, frac, hdigits, -, hint, -⟩ |
    ⟨hneg, hpoint, -⟩
  · rw [if_pos hnonneg, if_pos hnonneg, List.length_append, List.length_replicate]
    omega
  · have hcut : d.pointPosition.toNat = int.length := by omega
    rw [if_neg (not_le.mpr hneg), if_neg (not_le.mpr hneg), if_pos hpoint, if_pos hpoint, hdigits,
      hcut, List.take_left, List.drop_left, List.length_append, List.length_append, List.length_cons]
    omega
  · rw [if_neg (not_le.mpr hneg), if_neg (not_le.mpr hneg), if_neg (not_lt.mpr hpoint),
      if_neg (not_lt.mpr hpoint), List.length_cons, List.length_cons, List.length_append,
      List.length_replicate]
    omega

theorem stripped_spec (h : d.coefficient ≠ 0) :
    d.stripped.coefficient ≠ 0 ∧ d.stripped.layoutText = d.text := by
  have hlast := coefficient_stripZeros (lt_pow_length_digits d.coefficient) h
  have hne : d.stripped.coefficient ≠ 0 := fun hzero => hlast (by
    change d.stripped.coefficient % 10 = 0
    rw [hzero])
  refine ⟨hne, ?_⟩
  rw [layoutText_eq_fixed hne, stripped, fixed_eq_text hlast, text_stripZeros _ h]

/-- **The canonical text**, or the error when it is too long. -/
theorem boundedText_eq {ε : Type} (error : ε) (d : Decimal) : d.boundedText error =
    if d.Fits then .ok d.text else .error error := by
  unfold boundedText
  by_cases h : d.coefficient = 0
  · have htext : d.text = ['0'] := if_pos h
    have hfits : d.Fits := by
      unfold Fits
      rw [htext]
      decide
    rw [if_pos h, if_pos hfits, htext]
  · obtain ⟨hne, htext⟩ := stripped_spec h
    rw [if_neg h, ← length_layoutText, htext]
    by_cases hfits : d.Fits
    · have hle : d.text.length ≤ maximumCharacters := hfits
      rw [if_pos hfits, if_neg (by omega)]
    · have hlt : maximumCharacters < d.text.length := not_le.mp hfits
      rw [if_neg hfits, if_pos (by omega)]

theorem ofDigits_lt {l : List Char} (h : ∀ c ∈ l, c.isDigit = true) :
    ofDigits l < 10 ^ l.length := by
  induction l using List.reverseRecOn with
  | nil => decide
  | append_singleton l c ih =>
    have hc : c.isDigit = true := h c (by simp)
    have hlt : ofDigits [c] < 10 := by
      have hle : c.toNat ≤ 57 := by
        rw [Char.isDigit, Bool.and_eq_true, decide_eq_true_eq, decide_eq_true_eq] at hc
        exact hc.2
      change 10 * 0 + (c.toNat - 48) < 10
      omega
    have hl := ih fun c hc => h c (List.mem_append_left _ hc)
    rw [ofDigits_append, List.length_append, List.length_singleton, pow_one, pow_succ]
    omega

/-- A number with a short text is a short integer, scaled. -/
theorem exists_scaled_of_text_length {k : ℕ} (h : d.text.length ≤ k) :
    ∃ m : ℤ, d.value = m * 10 ^ (-(k : ℤ)) ∧ |m| ≤ 10 ^ (2 * k) := by
  by_cases hzero : d.coefficient = 0
  · exact ⟨0, by rw [value_eq_zero_iff.mpr hzero]; simp, by positivity⟩
  rw [text_eq_join hzero] at h
  have hvalue := value_of_parts d
  rw [mul_assoc, ← value_of_stripped, ← mul_assoc] at hvalue
  have hint : ∀ c ∈ d.parts.2.1, c.isDigit = true := fun c => isDigit_of_mem_int
  have hfrac : ∀ c ∈ d.parts.2.2.rdropWhile (· = '0'), c.isDigit = true := fun c hc =>
    isDigit_of_mem_frac ((List.rdropWhile_prefix _ _).subset hc)
  generalize d.parts.2.1 = int at *
  generalize d.parts.2.2.rdropWhile (· = '0') = frac at *
  have hlength : int.length + frac.length ≤ k := by
    have hjoin : int.length + frac.length ≤ (join (signText d.negative) int frac).length := by
      unfold join
      rw [List.length_append, List.length_append]
      split
      · next hnil =>
        rw [hnil]
        simp
      · rw [List.length_cons]
        omega
    omega
  have hdigits : ofDigits (int ++ frac) < 10 ^ k := by
    have hlt := ofDigits_lt fun c hc => (List.mem_append.mp hc).elim (hint c) (hfrac c)
    rw [List.length_append] at hlt
    exact hlt.trans_le (Nat.pow_le_pow_right (by decide) hlength)
  have hscale : (10 : ℚ) ^ (-(frac.length : ℤ)) = 10 ^ (k - frac.length) * 10 ^ (-(k : ℤ)) := by
    rw [← zpow_natCast, ← zpow_add₀ (by norm_num)]
    congr 1
    omega
  refine ⟨(if d.negative then -1 else 1) * ofDigits (int ++ frac) * 10 ^ (k - frac.length), ?_, ?_⟩
  · rw [hvalue, hscale]
    push_cast
    ring
  · have hsign : |(if d.negative = true then -1 else 1 : ℤ)| = 1 := by
      cases d.negative <;> rfl
    rw [abs_mul, abs_mul, hsign, one_mul, Nat.abs_cast, abs_of_nonneg (by positivity)]
    calc (ofDigits (int ++ frac) : ℤ) * 10 ^ (k - frac.length)
        ≤ 10 ^ k * 10 ^ k := by
          refine mul_le_mul (by exact_mod_cast hdigits.le) ?_ (by positivity) (by positivity)
          exact pow_le_pow_right₀ (by norm_num) (Nat.sub_le _ _)
      _ = 10 ^ (2 * k) := by rw [two_mul, pow_add]

end

end Decimal
end DryTrade
