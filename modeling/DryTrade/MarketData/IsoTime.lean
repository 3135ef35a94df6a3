import DryTrade.DecimalText
import DryTrade.MarketData.Months

/-!
# Instants as they are written

`isoformat` writes an instant as its date and its time of day in UTC, with six more digits when
it is not on a full second.  `fromisoformat` reads that form back.

## Main definitions

* `isoformat`, `fromisoformat` — writing and reading an instant.

## Main results

* `fromisoformat_isoformat` — what is written is read back.
* `isoformat_injective` — one text for one instant.
-/

namespace DryTrade
namespace MarketData

/-! ### Numbers of a fixed width -/

/-- A number, padded with zeros to a width. -/
def padded (width n : ℕ) : List Char := (Decimal.digits n).leftpad width '0'

/-- Read a number of a fixed width. -/
def takeDigits (width : ℕ) (s : List Char) : Option (ℕ × List Char) :=
  if width ≤ s.length ∧ (s.take width).all Char.isDigit then
    some (Decimal.ofDigits (s.take width), s.drop width)
  else none

/-- Read one character. -/
def expectChar (c : Char) : List Char → Option (List Char)
  | [] => none
  | c' :: s => if c' = c then some s else none

@[simp] theorem expectChar_cons (c : Char) (s : List Char) : expectChar c (c :: s) = some s :=
  if_pos rfl

theorem isDigit_of_mem_padded {w n : ℕ} {c : Char} (h : c ∈ padded w n) : c.isDigit = true := by
  rcases List.mem_append.mp h with h | h
  · rw [List.eq_of_mem_replicate h]
    decide
  · exact Decimal.isDigit_of_mem_digits h

theorem ofDigits_padded (w n : ℕ) : Decimal.ofDigits (padded w n) = n := by
  rw [padded, Decimal.ofDigits_leftpad, Decimal.ofDigits_digits]

theorem takeDigits_padded {w n : ℕ} (hw : 0 < w) (hn : n < 10 ^ w) (r : List Char) :
    takeDigits w (padded w n ++ r) = some (n, r) := by
  have hlen : (padded w n).length = w := Decimal.length_leftpad_digits hn hw
  have htake : (padded w n ++ r).take w = padded w n := by
    rw [List.take_append_of_le_length hlen.ge, List.take_of_length_le hlen.le]
  have hdrop : (padded w n ++ r).drop w = r := List.drop_left' hlen
  unfold takeDigits
  rw [htake, hdrop, ofDigits_padded, if_pos]
  refine ⟨?_, List.all_eq_true.mpr fun c hc => isDigit_of_mem_padded hc⟩
  rw [List.length_append, hlen]
  exact Nat.le_add_right w _

/-! ### Dates and times -/

/-- A year, in four digits.  Years that no `datetime` has are written in more digits or with a
sign. -/
def yearText (year : ℤ) : List Char :=
  if year < 0 then '-' :: padded 4 year.natAbs else padded 4 year.natAbs

/-- Microseconds, unless there are none. -/
def fractionText (microsecond : ℕ) : List Char :=
  if microsecond = 0 then [] else '.' :: padded 6 microsecond

/-- The offset of UTC. -/
def utcText : List Char := ['+', '0', '0', ':', '0', '0']

/-- `value.isoformat()`. -/
def isoformat (t : Instant) : List Char :=
  let month := monthOf t
  let day := t.date - monthFirstDay month
  let time := (t % Instant.microsecondsPerDay).toNat
  let second := time / 1000000
  yearText (month / 12) ++ '-' :: (padded 2 (month % 12 + 1).toNat ++ '-' ::
    (padded 2 (day + 1).toNat ++ 'T' :: (padded 2 (second / 3600) ++ ':' ::
      (padded 2 (second / 60 % 60) ++ ':' :: (padded 2 (second % 60) ++
        (fractionText (time % 1000000) ++ utcText))))))

/-- The sign of a year. -/
def signOfYear : List Char → Bool × List Char
  | '-' :: s => (true, s)
  | s => (false, s)

/-- Read a year. -/
def takeYear (s : List Char) : Option (ℤ × List Char) :=
  let (negative, s) := signOfYear s
  let (year, s) := s.span Char.isDigit
  if 4 ≤ year.length then
    some (if negative then -(Decimal.ofDigits year : ℤ) else Decimal.ofDigits year, s)
  else none

/-- Read the microseconds, if there are any. -/
def takeFraction : List Char → Option (ℕ × List Char)
  | '.' :: s => takeDigits 6 s
  | s => some (0, s)

/-- `datetime.fromisoformat(text)`, for the texts `isoformat` writes: a date and a time of day that
exist, in UTC. -/
def fromisoformat (s : List Char) : Option Instant := do
  let (year, s) ← takeYear s
  let s ← expectChar '-' s
  let (month, s) ← takeDigits 2 s
  let s ← expectChar '-' s
  let (day, s) ← takeDigits 2 s
  let s ← expectChar 'T' s
  let (hour, s) ← takeDigits 2 s
  let s ← expectChar ':' s
  let (minute, s) ← takeDigits 2 s
  let s ← expectChar ':' s
  let (second, s) ← takeDigits 2 s
  let (microsecond, s) ← takeFraction s
  let first := monthFirstDay (12 * year + (month - 1))
  let next := monthFirstDay (12 * year + month)
  if s = utcText ∧ 1 ≤ month ∧ month ≤ 12 ∧ 1 ≤ day ∧ first + (day - 1) < next ∧ hour < 24 ∧
      minute < 60 ∧ second < 60 then
    some ((first + (day - 1)) * Instant.microsecondsPerDay +
      ((hour * 60 + minute) * 60 + second) * 1000000 + microsecond)
  else none

theorem length_padded_ge (w n : ℕ) : w ≤ (padded w n).length := by
  rw [padded, List.length_leftpad]
  exact le_max_left _ _

/-- A year starts with a digit or with its sign. -/
theorem signOfYear_yearText (year : ℤ) (r : List Char) :
    signOfYear (yearText year ++ r) = (decide (year < 0), padded 4 year.natAbs ++ r) := by
  unfold yearText
  split
  · next hneg =>
    rw [decide_eq_true hneg]
    rfl
  · next hpos =>
    rw [decide_eq_false hpos]
    unfold signOfYear
    split
    · next s heq =>
      have hmem : '-' ∈ padded 4 year.natAbs := by
        cases hp : padded 4 year.natAbs with
        | nil => exact absurd (hp ▸ length_padded_ge 4 year.natAbs) (by decide)
        | cons c cs =>
          rw [hp] at heq
          rw [(List.cons.inj heq).1]
          exact List.mem_cons_self
      exact absurd (isDigit_of_mem_padded hmem) (by decide)
    · rfl

/-- A year ends at the dash after it. -/
theorem takeYear_yearText (year : ℤ) (r : List Char) :
    takeYear (yearText year ++ '-' :: r) = some (year, '-' :: r) := by
  have hspan : (padded 4 year.natAbs ++ '-' :: r).span Char.isDigit =
      (padded 4 year.natAbs, '-' :: r) := by
    refine Decimal.span_isDigit (fun c => isDigit_of_mem_padded) fun c hc => ?_
    cases hc
    decide
  unfold takeYear
  rw [signOfYear_yearText]
  dsimp only
  rw [hspan]
  dsimp only
  rw [if_pos (length_padded_ge 4 year.natAbs), ofDigits_padded]
  by_cases hneg : year < 0
  · rw [if_pos (decide_eq_true hneg)]
    congr
    omega
  · rw [if_neg (by simpa using hneg)]
    congr
    omega

theorem takeFraction_fractionText {n : ℕ} (hn : n < 1000000) :
    takeFraction (fractionText n ++ utcText) = some (n, utcText) := by
  unfold fractionText
  split
  · next h =>
    subst h
    rfl
  · exact takeDigits_padded (by decide) hn utcText

/-- No month is longer than 31 days. -/
theorem monthFirstDay_succ_le (m : ℤ) : monthFirstDay (m + 1) ≤ monthFirstDay m + 31 := by
  have hall : ∀ leap : Bool, ∀ k : Fin 12,
      daysBeforeMonth leap (k + 1) ≤ daysBeforeMonth leap k + 31 := by
    decide
  have h0 : 0 ≤ m % 12 := Int.emod_nonneg m (by norm_num)
  have h1 : m % 12 < 12 := Int.emod_lt_of_pos m (by norm_num)
  have hm : 12 * (m / 12) + m % 12 = m := Int.mul_ediv_add_emod m 12
  have hfirst : monthFirstDay (12 * (m / 12) + m % 12) = _ := monthFirstDay_mul_add h0 h1
  have hnext : monthFirstDay (12 * (m / 12) + m % 12 + 1) = _ := monthFirstDay_succ h0 h1
  rw [hm] at hfirst hnext
  rw [hfirst, hnext]
  have hk := hall (isLeap (m / 12)) ⟨(m % 12).toNat, by omega⟩
  simp only [Int.toNat_of_nonneg h0] at hk
  omega

/-- **What is written is read back.** -/
theorem fromisoformat_isoformat (t : Instant) : fromisoformat (isoformat t) = some t := by
  obtain ⟨hfirst, hnext⟩ := monthOf_spec t
  have hlen := monthFirstDay_succ_le (monthOf t)
  have ht0 : 0 ≤ t % Instant.microsecondsPerDay := Int.emod_nonneg _ (by decide)
  have ht1 : t % Instant.microsecondsPerDay < 86400000000 := Int.emod_lt_of_pos _ (by decide)
  have hday : t.date * Instant.microsecondsPerDay + t % Instant.microsecondsPerDay = t :=
    Int.ediv_mul_add_emod t _
  obtain ⟨month, hmonth⟩ : ∃ m : ℕ, monthOf t % 12 + 1 = m :=
    ⟨(monthOf t % 12 + 1).toNat, by omega⟩
  obtain ⟨day, hd⟩ : ∃ d : ℕ, t.date - monthFirstDay (monthOf t) + 1 = d :=
    ⟨(t.date - monthFirstDay (monthOf t) + 1).toNat, by omega⟩
  obtain ⟨time, htime⟩ := Int.eq_ofNat_of_zero_le ht0
  have hlast : time < 86400000000 := by
    rw [htime] at ht1
    exact_mod_cast ht1
  have hbefore : 12 * (monthOf t / 12) + ((month : ℤ) - 1) = monthOf t := by omega
  have hafter : 12 * (monthOf t / 12) + (month : ℤ) = monthOf t + 1 := by omega
  unfold isoformat fromisoformat
  dsimp only
  rw [hmonth, hd, htime, Int.toNat_natCast, Int.toNat_natCast, Int.toNat_natCast]
  simp only [takeYear_yearText, Option.bind_eq_bind, Option.bind_some, expectChar_cons,
    takeDigits_padded (w := 2) (by decide) (show month < 10 ^ 2 by omega),
    takeDigits_padded (w := 2) (by decide) (show day < 10 ^ 2 by omega),
    takeDigits_padded (w := 2) (by decide) (show time / 1000000 / 3600 < 10 ^ 2 by omega),
    takeDigits_padded (w := 2) (by decide) (show time / 1000000 / 60 % 60 < 10 ^ 2 by omega),
    takeDigits_padded (w := 2) (by decide) (show time / 1000000 % 60 < 10 ^ 2 by omega),
    takeFraction_fractionText (show time % 1000000 < 1000000 by omega), hbefore, hafter]
  rw [if_pos ⟨trivial, by omega, by omega, by omega, by omega, by omega, by omega, by omega⟩]
  have hdate : monthFirstDay (monthOf t) + ((day : ℤ) - 1) = t.date := by omega
  have hparts : (((time / 1000000 / 3600 : ℕ) : ℤ) * 60 + (time / 1000000 / 60 % 60 : ℕ)) * 60 +
      (time / 1000000 % 60 : ℕ) = (time / 1000000 : ℕ) := by omega
  have htime' : ((time / 1000000 : ℕ) : ℤ) * 1000000 + (time % 1000000 : ℕ) = time := by omega
  rw [hdate, hparts, add_assoc, htime', ← htime, hday]

example : isoformat 1709164800500000 = "2024-02-29T00:00:00.500000+00:00".toList := by
  decide +kernel

/-- One text for one instant. -/
theorem isoformat_injective : Function.Injective isoformat := fun t t' h => by
  have hread := fromisoformat_isoformat t
  rw [h, fromisoformat_isoformat] at hread
  exact (Option.some.inj hread).symm

end MarketData
end DryTrade
