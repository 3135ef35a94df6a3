import Mathlib.Data.List.DropRight
import Mathlib.Tactic

/-!
# Decimals as they are written

A `Decimal` carries a sign, digits and an exponent; two of them may denote the same number.
The canonical text writes the number without an exponent and without trailing zeros after the
point, and reading it back gives the number again.

## Main definitions

* `Decimal`, `Decimal.value` — a finite decimal and the number it denotes.
* `Decimal.fixed`, `Decimal.text` — the fixed-point notation and the canonical text.
* `Decimal.ofText` — reading a text.

## Main results

* `Decimal.ofText_text` — reading the canonical text gives the number back.
* `Decimal.text_eq_iff` — canonical texts are equal exactly when the numbers are.
-/

namespace DryTrade

/-- A finite `Decimal`. -/
structure Decimal where
  negative : Bool
  coefficient : ℕ
  exponent : ℤ
  deriving DecidableEq, Repr

namespace Decimal

/-- The number a decimal denotes. -/
def value (d : Decimal) : ℚ :=
  (if d.negative then -1 else 1) * d.coefficient * 10 ^ d.exponent

/-- The digits of a number. -/
def digits (n : ℕ) : List Char := Nat.toDigits 10 n

/-- The number some digits denote. -/
def ofDigits (l : List Char) : ℕ := Nat.ofDigitChars 10 l 0

/-- The sign of a decimal, and its integer and fractional digits. -/
def parts (d : Decimal) : List Char × List Char × List Char :=
  let sign := if d.negative then ['-'] else []
  if 0 ≤ d.exponent then (sign, digits (d.coefficient * 10 ^ d.exponent.toNat), [])
  else
    let places := (-d.exponent).toNat
    (sign, digits (d.coefficient / 10 ^ places),
      (digits (d.coefficient % 10 ^ places)).leftpad places '0')

/-- `format(value, "f")`. -/
def fixed (d : Decimal) : List Char :=
  let (sign, int, frac) := d.parts
  sign ++ int ++ if frac = [] then [] else '.' :: frac

/-- `decimal_text`: trailing zeros after the point, and then the point, are stripped. -/
def text (d : Decimal) : List Char :=
  if d.coefficient = 0 then ['0']
  else if '.' ∈ d.fixed then (d.fixed.rdropWhile (· = '0')).rdropWhile (· = '.')
  else d.fixed

/-- The sign of a decimal text. -/
def signOfText : List Char → Bool × List Char
  | '-' :: s => (true, s)
  | '+' :: s => (false, s)
  | s => (false, s)

/-- The exponent part of a decimal text. -/
def exponentOfText : List Char → Option ℤ
  | [] => some 0
  | c :: s =>
    let (negative, s) := signOfText s
    if (c = 'e' ∨ c = 'E') ∧ s ≠ [] ∧ s.all Char.isDigit then
      some (if negative then -(ofDigits s : ℤ) else ofDigits s)
    else none

/-- The digits after the point of a decimal text. -/
def fractionOfText : List Char → List Char × List Char
  | '.' :: s => s.span Char.isDigit
  | s => ([], s)

/-- `Decimal(text)`: a sign, digits with a point, and an exponent.  Blanks and underscores, which
no writer emits, are not read. -/
def ofText (s : List Char) : Option Decimal :=
  let (negative, s) := signOfText s
  let (int, s) := s.span Char.isDigit
  let (frac, s) := fractionOfText s
  if int = [] ∧ frac = [] then none
  else (exponentOfText s).map fun e => ⟨negative, ofDigits (int ++ frac), e - frac.length⟩

/-! ### Digits -/

section

variable {l l' : List Char} {n k : ℕ}

theorem ofDigits_digits (n : ℕ) : ofDigits (digits n) = n := Nat.ofDigitChars_ten_toDigits

theorem isDigit_of_mem_digits {c : Char} (h : c ∈ digits n) : c.isDigit = true :=
  Nat.isDigit_of_mem_toDigits (by decide) (by decide) h

theorem digits_ne_nil (n : ℕ) : digits n ≠ [] := Nat.toDigits_ne_nil

theorem ofDigits_append (l l' : List Char) :
    ofDigits (l ++ l') = 10 ^ l'.length * ofDigits l + ofDigits l' := by
  unfold ofDigits
  rw [Nat.ofDigitChars_append, Nat.ofDigitChars_eq_ofDigitChars_zero]

theorem ofDigits_replicate_zero (k : ℕ) : ofDigits (List.replicate k '0') = 0 := by
  unfold ofDigits
  rw [Nat.ofDigitChars_replicate_zero, Nat.mul_zero]

/-- Padding with zeros on the left does not change the number. -/
theorem ofDigits_leftpad (l : List Char) (k : ℕ) : ofDigits (l.leftpad k '0') = ofDigits l := by
  rw [List.leftpad, ofDigits_append, ofDigits_replicate_zero, Nat.mul_zero, Nat.zero_add]

theorem length_leftpad_digits (h : n < 10 ^ k) (hk : 0 < k) :
    ((digits n).leftpad k '0').length = k := by
  rw [List.length_leftpad]
  exact max_eq_left ((Nat.length_toDigits_le_iff (by decide) hk).mpr h)

/-- A run of digits ends at the first character that is none. -/
theorem span_isDigit (hl : ∀ c ∈ l, c.isDigit = true) (hl' : ∀ c ∈ l'.head?, c.isDigit = false) :
    (l ++ l').span Char.isDigit = (l, l') := by
  rw [List.span_eq_takeWhile_dropWhile, List.takeWhile_append_of_pos hl,
    List.dropWhile_append_of_pos hl]
  cases l' with
  | nil => simp
  | cons c l' => simp [hl' c rfl]

end

/-! ### Texts -/

/-- A sign, digits, and digits after a point. -/
def join (sign int frac : List Char) : List Char :=
  sign ++ int ++ if frac = [] then [] else '.' :: frac

/-- The sign character of a decimal. -/
def signText (negative : Bool) : List Char := if negative then ['-'] else []

section

variable {int frac : List Char} {negative : Bool}

theorem ne_point_of_isDigit {c : Char} (h : c.isDigit = true) : c ≠ '.' := by
  rintro rfl
  exact absurd h (by decide)

/-- Reading digits with a point. -/
theorem ofText_join (hne : int ≠ []) (hint : ∀ c ∈ int, c.isDigit = true)
    (hfrac : ∀ c ∈ frac, c.isDigit = true) :
    ofText (join (signText negative) int frac) =
      some ⟨negative, ofDigits (int ++ frac), -frac.length⟩ := by
  have hsign : signOfText (join (signText negative) int frac) = (negative, join [] int frac) := by
    cases negative with
    | true => rfl
    | false =>
      cases int with
      | nil => exact absurd rfl hne
      | cons c int =>
        have hc := hint c List.mem_cons_self
        change signOfText (c :: _) = _
        unfold signOfText
        split
        · next heq =>
          rw [(List.cons.inj heq).1] at hc
          exact absurd hc (by decide)
        · next heq =>
          rw [(List.cons.inj heq).1] at hc
          exact absurd hc (by decide)
        · rfl
  have hspan : (join [] int frac).span Char.isDigit =
      (int, if frac = [] then [] else '.' :: frac) := by
    rw [join, List.nil_append]
    refine span_isDigit hint fun c hc => ?_
    split at hc
    · cases hc
    · cases hc
      decide
  have hfraction : fractionOfText (if frac = [] then [] else '.' :: frac) = (frac, []) := by
    split
    · next h =>
      subst h
      rfl
    · have hspan : (frac ++ []).span Char.isDigit = (frac, []) :=
        span_isDigit hfrac fun c hc => by cases hc
      rwa [List.append_nil] at hspan
  unfold ofText
  rw [hsign]
  dsimp only
  rw [hspan]
  dsimp only
  rw [hfraction]
  dsimp only
  rw [if_neg fun h => hne h.1]
  simp [exponentOfText]

theorem rdropWhile_append {p : Char → Bool} (l m : List Char) :
    (l ++ m).rdropWhile p = if m.rdropWhile p = [] then l.rdropWhile p else l ++ m.rdropWhile p := by
  unfold List.rdropWhile
  rw [List.reverse_append, List.dropWhile_append]
  by_cases h : m.reverse.dropWhile p = []
  · simp [h]
  · simp [h, List.isEmpty_iff]

/-- Digits do not end in a point. -/
theorem rdropWhile_point (sign : List Char) (hne : int ≠ [])
    (hint : ∀ c ∈ int, c.isDigit = true) :
    (sign ++ int).rdropWhile (· = '.') = sign ++ int := by
  rw [List.rdropWhile_eq_self_iff]
  intro hl
  rw [List.getLast_append_of_ne_nil _ hne]
  simpa using ne_point_of_isDigit (hint _ (List.getLast_mem hne))

/-- Stripping zeros, and then the point, after which nothing is left. -/
theorem strip_join {sign : List Char} (hne : int ≠ []) (hint : ∀ c ∈ int, c.isDigit = true)
    (hfrac : ∀ c ∈ frac, c.isDigit = true) (h : frac ≠ []) :
    ((join sign int frac).rdropWhile (· = '0')).rdropWhile (· = '.') =
      join sign int (frac.rdropWhile (· = '0')) := by
  rw [join, if_neg h, ← List.singleton_append, ← List.append_assoc, rdropWhile_append]
  by_cases hnil : frac.rdropWhile (· = '0') = []
  · rw [if_pos hnil, hnil, List.rdropWhile_concat_neg _ _ _ (by decide),
      List.rdropWhile_concat_pos _ _ _ (by decide), rdropWhile_point sign hne hint]
    simp [join]
  · rw [if_neg hnil, join, if_neg hnil]
    have hdigit : ∀ c ∈ frac.rdropWhile (· = '0'), c.isDigit = true := fun c hc =>
      hfrac c ((List.rdropWhile_prefix _ _).subset hc)
    rw [rdropWhile_point (sign ++ int ++ ['.']) hnil hdigit]
    simp

end

section

variable {d : Decimal}

theorem isDigit_of_mem_int {c : Char} (h : c ∈ d.parts.2.1) : c.isDigit = true := by
  unfold parts at h
  dsimp only at h
  split at h <;> exact isDigit_of_mem_digits h

theorem isDigit_of_mem_frac {c : Char} (h : c ∈ d.parts.2.2) : c.isDigit = true := by
  unfold parts at h
  dsimp only at h
  split at h
  · exact (List.not_mem_nil h).elim
  · rcases List.mem_append.mp h with h | h
    · rw [List.eq_of_mem_replicate h]
      decide
    · exact isDigit_of_mem_digits h

theorem int_ne_nil (d : Decimal) : d.parts.2.1 ≠ [] := by
  unfold parts
  dsimp only
  split <;> exact digits_ne_nil _

theorem fixed_eq (d : Decimal) : d.fixed = join (signText d.negative) d.parts.2.1 d.parts.2.2 := by
  unfold fixed join signText parts
  dsimp only
  split <;> rfl

/-- The canonical text, by its parts. -/
theorem text_eq_join (h : d.coefficient ≠ 0) : d.text =
    join (signText d.negative) d.parts.2.1 (d.parts.2.2.rdropWhile (· = '0')) := by
  have hint : ∀ c ∈ d.parts.2.1, c.isDigit = true := fun c => isDigit_of_mem_int
  have hfrac : ∀ c ∈ d.parts.2.2, c.isDigit = true := fun c => isDigit_of_mem_frac
  unfold text
  rw [if_neg h, fixed_eq]
  by_cases hnil : d.parts.2.2 = []
  · rw [hnil, if_neg]
    · rfl
    · simp only [join, if_true, List.append_nil, List.mem_append, not_or]
      refine ⟨?_, fun hmem => absurd rfl (ne_point_of_isDigit (hint _ hmem))⟩
      unfold signText
      split <;> simp
  · rw [if_pos (by simp [join, hnil]), strip_join (int_ne_nil d) hint hfrac hnil]

theorem parts_of_nonneg {e : ℕ} (he : d.exponent = e) :
    d.parts = (signText d.negative, digits (d.coefficient * 10 ^ e), []) := by
  unfold parts
  rw [he]
  simp [signText]

theorem parts_of_neg {e : ℕ} (hpos : 0 < e) (he : d.exponent = -(e : ℤ)) :
    d.parts = (signText d.negative, digits (d.coefficient / 10 ^ e),
      (digits (d.coefficient % 10 ^ e)).leftpad e '0') := by
  unfold parts
  rw [he, if_neg (by omega)]
  simp [signText]

/-- The exponent is a number of zeros or a number of places. -/
theorem exponent_cases (d : Decimal) :
    (∃ e : ℕ, d.exponent = e) ∨ ∃ e : ℕ, 0 < e ∧ d.exponent = -(e : ℤ) := by
  rcases le_or_gt 0 d.exponent with h | h
  · exact .inl (Int.eq_ofNat_of_zero_le h)
  · exact .inr ⟨(-d.exponent).toNat, by omega, by omega⟩

/-- The digits of a decimal, with its exponent, denote it. -/
theorem value_of_parts (d : Decimal) : d.value = (if d.negative then -1 else 1) *
    ofDigits (d.parts.2.1 ++ d.parts.2.2) * 10 ^ (-(d.parts.2.2.length : ℤ)) := by
  unfold value
  rcases d.exponent_cases with ⟨e, he⟩ | ⟨e, hpos, he⟩
  · rw [parts_of_nonneg he, he]
    dsimp only
    rw [List.append_nil, ofDigits_digits, zpow_natCast]
    push_cast
    simp
  · rw [parts_of_neg hpos he, he]
    dsimp only
    rw [ofDigits_append, ofDigits_leftpad, ofDigits_digits, ofDigits_digits,
      length_leftpad_digits (Nat.mod_lt _ (by positivity)) hpos, Nat.div_add_mod]

/-- Zeros at the end of the fraction do not count. -/
theorem value_of_stripped (int frac : List Char) :
    (ofDigits (int ++ frac.rdropWhile (· = '0')) : ℚ) *
        10 ^ (-((frac.rdropWhile (· = '0')).length : ℤ)) =
      ofDigits (int ++ frac) * 10 ^ (-(frac.length : ℤ)) := by
  obtain ⟨k, hk⟩ : ∃ k, frac = frac.rdropWhile (· = '0') ++ List.replicate k '0' := by
    refine ⟨(frac.rtakeWhile (· = '0')).length, ?_⟩
    have hall : frac.rtakeWhile (· = '0') =
        List.replicate (frac.rtakeWhile (· = '0')).length '0' :=
      List.eq_replicate_of_mem fun c hc => by simpa using List.mem_rtakeWhile_imp hc
    rw [← hall, List.rdropWhile_append_rtakeWhile]
  generalize frac.rdropWhile (· = '0') = f at hk
  subst hk
  rw [← List.append_assoc, ofDigits_append _ (List.replicate k '0'), ofDigits_replicate_zero,
    List.length_append, List.length_replicate]
  push_cast
  rw [neg_add, zpow_add₀ (by norm_num), zpow_neg _ (k : ℤ), zpow_natCast]
  field_simp
  ring

/-- **Reading the canonical text** gives the number back. -/
theorem ofText_text (d : Decimal) : ∃ d', ofText d.text = some d' ∧ d'.value = d.value := by
  by_cases h : d.coefficient = 0
  · refine ⟨⟨false, 0, 0⟩, ?_, by simp [value, h]⟩
    unfold text
    rw [if_pos h]
    decide
  · rw [text_eq_join h, ofText_join (int_ne_nil d) (fun c => isDigit_of_mem_int) fun c hc =>
      isDigit_of_mem_frac ((List.rdropWhile_prefix _ _).subset hc)]
    refine ⟨_, rfl, ?_⟩
    rw [value_of_parts d, mul_assoc, ← value_of_stripped, ← mul_assoc]
    rfl

/-! ### One text for one number -/

theorem digits_mul_ten {n : ℕ} (h : 0 < n) : digits (n * 10) = digits n ++ ['0'] := by
  have happ := Nat.toDigits_append_toDigits (b := 10) (n := n) (d := 0) (by decide) h (by decide)
  rw [Nat.add_zero, mul_comm] at happ
  exact happ.symm

/-- A fraction with one more place. -/
theorem leftpad_mul_ten (n : ℕ) {k : ℕ} (hk : 0 < k) :
    (digits (n * 10)).leftpad (k + 1) '0' = (digits n).leftpad k '0' ++ ['0'] := by
  rcases Nat.eq_zero_or_pos n with rfl | hn
  · change ['0'].leftpad (k + 1) '0' = ['0'].leftpad k '0' ++ ['0']
    rw [List.leftpad, List.leftpad]
    simp only [List.length_singleton, Nat.add_sub_cancel, List.append_assoc]
    obtain ⟨j, rfl⟩ := Nat.exists_eq_succ_of_ne_zero hk.ne'
    rw [Nat.succ_sub_one, List.replicate_succ', List.append_assoc]
  · rw [digits_mul_ten hn, List.leftpad, List.leftpad, List.length_append, List.length_singleton,
      Nat.add_sub_add_right, List.append_assoc]

/-- A trailing zero in the digits is a step of the exponent. -/
theorem text_mul_ten (negative : Bool) {c : ℕ} (hc : c ≠ 0) (e : ℤ) :
    text ⟨negative, c * 10, e⟩ = text ⟨negative, c, e + 1⟩ := by
  have hc' : c * 10 ≠ 0 := by omega
  rw [text_eq_join (d := ⟨negative, c * 10, e⟩) hc', text_eq_join (d := ⟨negative, c, e + 1⟩) hc]
  rcases exponent_cases ⟨negative, c * 10, e⟩ with ⟨k, hk⟩ | ⟨k, hpos, hk⟩
  · dsimp only at hk
    rw [parts_of_nonneg (e := k) hk, parts_of_nonneg (e := k + 1) (by push_cast; rw [← hk])]
    dsimp only
    rw [Nat.mul_assoc, ← Nat.pow_succ']
  · dsimp only at hk
    obtain ⟨j, rfl⟩ := Nat.exists_eq_succ_of_ne_zero hpos.ne'
    rw [parts_of_neg (e := j + 1) hpos hk]
    dsimp only
    have hdiv : c * 10 / 10 ^ (j + 1) = c / 10 ^ j := by
      rw [Nat.pow_succ, Nat.mul_div_mul_right _ _ (by decide)]
    have hmod : c * 10 % 10 ^ (j + 1) = c % 10 ^ j * 10 := by
      rw [Nat.pow_succ, Nat.mul_mod_mul_right]
    rw [hdiv, hmod]
    rcases Nat.eq_zero_or_pos j with rfl | hj
    · rw [parts_of_nonneg (e := 0) (show e + 1 = ((0 : ℕ) : ℤ) by rw [hk]; norm_num)]
      dsimp only
      simp [Nat.mod_one]
      rfl
    · rw [parts_of_neg (e := j) hj (show e + 1 = -(j : ℤ) by rw [hk]; push_cast; ring)]
      dsimp only
      rw [leftpad_mul_ten _ hj, List.rdropWhile_concat_pos _ _ _ (by decide)]

theorem text_mul_pow (negative : Bool) {c : ℕ} (hc : c ≠ 0) (e : ℤ) (k : ℕ) :
    text ⟨negative, c * 10 ^ k, e⟩ = text ⟨negative, c, e + k⟩ := by
  induction k generalizing e with
  | zero => simp
  | succ k ih =>
    have hck : c * 10 ^ k ≠ 0 := mul_ne_zero hc (by positivity)
    rw [Nat.pow_succ, ← Nat.mul_assoc, text_mul_ten negative hck, ih]
    push_cast
    rw [add_assoc, add_comm 1]

theorem value_eq_zero_iff : d.value = 0 ↔ d.coefficient = 0 := by
  unfold value
  have hten : (10 : ℚ) ^ d.exponent ≠ 0 := zpow_ne_zero _ (by norm_num)
  split <;> simp [hten]

/-- The sign of a number that is not zero. -/
theorem value_pos_iff (h : d.coefficient ≠ 0) : 0 < d.value ↔ d.negative = false := by
  have hc : (0 : ℚ) < d.coefficient := by exact_mod_cast Nat.pos_of_ne_zero h
  have hten : (0 : ℚ) < 10 ^ d.exponent := by positivity
  have hpos : (0 : ℚ) < d.coefficient * 10 ^ d.exponent := mul_pos hc hten
  unfold value
  cases d.negative with
  | false => simpa using hpos
  | true => simpa using hpos.le

/-- **Canonical texts are equal exactly when the numbers are.** -/
theorem text_eq_iff {d d' : Decimal} : d.text = d'.text ↔ d.value = d'.value := by
  constructor
  · intro h
    obtain ⟨a, ha, hval⟩ := ofText_text d
    obtain ⟨b, hb, hval'⟩ := ofText_text d'
    rw [h, hb] at ha
    rw [← hval, ← hval', Option.some.inj ha]
  · intro h
    by_cases hzero : d.coefficient = 0
    · have hzero' := value_eq_zero_iff.mp (h.symm.trans (value_eq_zero_iff.mpr hzero))
      rw [text, if_pos hzero, text, if_pos hzero']
    · have hzero' : d'.coefficient ≠ 0 := fun h' =>
        hzero (value_eq_zero_iff.mp (h.trans (value_eq_zero_iff.mpr h')))
      have hsign : d.negative = d'.negative := by
        have hiff := value_pos_iff hzero
        rw [h, value_pos_iff hzero'] at hiff
        cases hd : d.negative <;> cases hd' : d'.negative <;> simp_all
      -- the shorter exponent scales the digits of the other
      have hscale : ∀ {a b : Decimal}, a.coefficient ≠ 0 → b.coefficient ≠ 0 →
          a.negative = b.negative → a.value = b.value → a.exponent ≤ b.exponent →
          a.text = b.text := by
        rintro ⟨s, c, e⟩ ⟨s', c', e'⟩ hc hc' hs hv he
        dsimp only at hc hc' hs he
        subst hs
        obtain ⟨k, rfl⟩ := Int.le.dest he
        have hten : (10 : ℚ) ^ e ≠ 0 := zpow_ne_zero _ (by norm_num)
        have hcoef : (c : ℚ) = c' * 10 ^ k := by
          unfold value at hv
          dsimp only at hv
          rw [zpow_add₀ (by norm_num), zpow_natCast] at hv
          cases s <;> simp only [if_true, Bool.false_eq_true, if_false] at hv <;>
            field_simp at hv <;> linarith
        have hnat : c = c' * 10 ^ k := by exact_mod_cast hcoef
        rw [hnat, text_mul_pow s hc']
      rcases le_total d.exponent d'.exponent with he | he
      · exact hscale hzero hzero' hsign h he
      · exact (hscale hzero' hzero hsign.symm h.symm he).symm

/-! ### The canonical spelling -/

/-- The decimal that the canonical text of `d` spells. -/
def canonical (d : Decimal) : Decimal := (ofText d.text).getD d

theorem ofText_text_eq (d : Decimal) : ofText d.text = some d.canonical := by
  obtain ⟨d', h, -⟩ := ofText_text d
  rw [canonical, h]
  rfl

/-- It denotes the same number. -/
@[simp] theorem value_canonical (d : Decimal) : d.canonical.value = d.value := by
  obtain ⟨d', h, hvalue⟩ := ofText_text d
  rw [canonical, h]
  exact hvalue

/-- It is written the same way. -/
@[simp] theorem text_canonical (d : Decimal) : d.canonical.text = d.text :=
  text_eq_iff.mpr (value_canonical d)

end

end Decimal
end DryTrade
