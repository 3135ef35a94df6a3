import DryTrade.MarketData.Domain

/-!
# Calendar months

Partitions are files of one calendar month.  Months are numbered consecutively,
`12 * year + (month - 1)`, in the proleptic Gregorian calendar that `datetime`
uses, and `monthOf` reads the month off an instant the way `value.year` and
`value.month` do.

## Main definitions

* `daysBeforeYear`, `daysBeforeMonth` — the calendar's day counts.
* `monthStart m` — midnight of the first day of month `m`.
* `monthOf t` — the month of the instant `t`.
* `monthsInRange r` — the months a cursor visits while it is before `r.stop`.

## Main results

* `monthStart_monthOf_le`, `lt_monthStart_monthOf` — every instant lies in its month.
* `monthOf_eq_iff` — and in no other one.
* `mem_monthsInRange` — the months visited are those that meet the range.
-/

namespace DryTrade
namespace MarketData

/-- The days before January 1st of `year`, counted from January 1st of year 1. -/
def daysBeforeYear (year : ℤ) : ℤ :=
  (year - 1) * 365 + (year - 1) / 4 - (year - 1) / 100 + (year - 1) / 400

/-- The days of a year before its month number `month`, where January is number 0. -/
def daysBeforeMonth (leap : Bool) : ℤ → ℤ
  | 0 => 0
  | 1 => 31
  | 2 => if leap then 60 else 59
  | 3 => if leap then 91 else 90
  | 4 => if leap then 121 else 120
  | 5 => if leap then 152 else 151
  | 6 => if leap then 182 else 181
  | 7 => if leap then 213 else 212
  | 8 => if leap then 244 else 243
  | 9 => if leap then 274 else 273
  | 10 => if leap then 305 else 304
  | 11 => if leap then 335 else 334
  | _ => if leap then 366 else 365

/-- Whether `year` is a leap year. -/
def isLeap (year : ℤ) : Bool :=
  year % 4 == 0 && (year % 100 != 0 || year % 400 == 0)

/-- The days from the epoch to January 1st of year 1, counted backwards. -/
def epochDay : ℤ := 719162

/-- The first day of a month, counted from the epoch. -/
def monthFirstDay (m : ℤ) : ℤ :=
  daysBeforeYear (m / 12) + daysBeforeMonth (isLeap (m / 12)) (m % 12) - epochDay

/-- Midnight of the first day of a month. -/
def monthStart (m : ℤ) : ℤ := monthFirstDay m * Instant.microsecondsPerDay

/-- The year a day lies in: a guess from the mean length of a year, moved by one where it is
off. -/
def yearOfDay (day : ℤ) : ℤ :=
  let guess := (day + epochDay) * 400 / 146097 + 1
  if day + epochDay < daysBeforeYear guess then guess - 1
  else if daysBeforeYear (guess + 1) ≤ day + epochDay then guess + 1
  else guess

/-- How many months of its year have started by the given day of the year, January apart. -/
def monthOfYearDay (leap : Bool) (yearDay : ℤ) : ℤ :=
  ((List.range 11).countP fun k => decide (daysBeforeMonth leap (k + 1) ≤ yearDay) : ℕ)

/-- The month of an instant. -/
def monthOf (t : Instant) : ℤ :=
  let year := yearOfDay t.date
  12 * year + monthOfYearDay (isLeap year) (t.date + epochDay - daysBeforeYear year)

/-- A year has 365 days, and one more when it is a leap year. -/
theorem daysBeforeYear_succ (year : ℤ) :
    daysBeforeYear (year + 1) = daysBeforeYear year + daysBeforeMonth (isLeap year) 12 := by
  have hlen : daysBeforeMonth (isLeap year) 12 = if isLeap year then 366 else 365 := rfl
  rw [hlen]
  unfold daysBeforeYear isLeap
  simp only [Bool.and_eq_true, Bool.or_eq_true, beq_iff_eq, bne_iff_ne]
  split <;> omega

/-- The year found is the year the day lies in. -/
theorem yearOfDay_spec (day : ℤ) : daysBeforeYear (yearOfDay day) ≤ day + epochDay ∧
    day + epochDay < daysBeforeYear (yearOfDay day + 1) := by
  unfold yearOfDay daysBeforeYear
  dsimp only
  split_ifs <;> omega

/-- The month found is the month the day of the year lies in. -/
theorem monthOfYearDay_spec {leap : Bool} {yearDay : ℤ} (h0 : 0 ≤ yearDay)
    (h1 : yearDay < daysBeforeMonth leap 12) :
    0 ≤ monthOfYearDay leap yearDay ∧ monthOfYearDay leap yearDay < 12 ∧
      daysBeforeMonth leap (monthOfYearDay leap yearDay) ≤ yearDay ∧
      yearDay < daysBeforeMonth leap (monthOfYearDay leap yearDay + 1) := by
  have hall : ∀ leap : Bool, ∀ d : Fin 366, (d : ℤ) < daysBeforeMonth leap 12 →
      0 ≤ monthOfYearDay leap d ∧ monthOfYearDay leap d < 12 ∧
        daysBeforeMonth leap (monthOfYearDay leap d) ≤ d ∧
        (d : ℤ) < daysBeforeMonth leap (monthOfYearDay leap d + 1) := by
    decide +kernel
  have hlen : daysBeforeMonth leap 12 ≤ 366 := by
    cases leap <;> decide
  lift yearDay to ℕ using h0
  exact hall leap ⟨yearDay, by omega⟩ h1

/-- A month ends where the next one starts. -/
theorem monthFirstDay_succ {year k : ℤ} (h0 : 0 ≤ k) (h1 : k < 12) :
    monthFirstDay (12 * year + k + 1) =
      daysBeforeYear year + daysBeforeMonth (isLeap year) (k + 1) - epochDay := by
  unfold monthFirstDay
  by_cases hk : k = 11
  · have hyear : (12 * year + k + 1) / 12 = year + 1 := by omega
    have hmonth : (12 * year + k + 1) % 12 = 0 := by omega
    have hjan : ∀ leap, daysBeforeMonth leap 0 = 0 := fun _ => rfl
    rw [hyear, hmonth, hjan, daysBeforeYear_succ, hk]
    norm_num
  · have hyear : (12 * year + k + 1) / 12 = year := by omega
    have hmonth : (12 * year + k + 1) % 12 = k + 1 := by omega
    rw [hyear, hmonth]

theorem monthFirstDay_mul_add {year k : ℤ} (h0 : 0 ≤ k) (h1 : k < 12) :
    monthFirstDay (12 * year + k) =
      daysBeforeYear year + daysBeforeMonth (isLeap year) k - epochDay := by
  unfold monthFirstDay
  have hyear : (12 * year + k) / 12 = year := by omega
  have hmonth : (12 * year + k) % 12 = k := by omega
  rw [hyear, hmonth]

/-- Every month has at least one day. -/
theorem monthFirstDay_lt_succ (m : ℤ) : monthFirstDay m < monthFirstDay (m + 1) := by
  have hall : ∀ leap : Bool, ∀ k : Fin 12,
      daysBeforeMonth leap k < daysBeforeMonth leap (k + 1) := by
    decide
  have h0 : 0 ≤ m % 12 := Int.emod_nonneg m (by norm_num)
  have h1 : m % 12 < 12 := Int.emod_lt_of_pos m (by norm_num)
  have hm : 12 * (m / 12) + m % 12 = m := Int.mul_ediv_add_emod m 12
  have hfirst : monthFirstDay (12 * (m / 12) + m % 12) = _ := monthFirstDay_mul_add h0 h1
  have hnext : monthFirstDay (12 * (m / 12) + m % 12 + 1) = _ := monthFirstDay_succ h0 h1
  rw [hm] at hfirst hnext
  rw [hfirst, hnext]
  have hk := hall (isLeap (m / 12)) ⟨(m % 12).toNat, by omega⟩
  simp only [Int.toNat_of_nonneg h0] at hk
  omega

theorem monthStart_lt_succ (m : ℤ) : monthStart m < monthStart (m + 1) :=
  mul_lt_mul_of_pos_right (monthFirstDay_lt_succ m) (by decide)

/-- Months follow one another. -/
theorem monthStart_strictMono : StrictMono monthStart :=
  strictMono_int_of_lt_succ monthStart_lt_succ

/-- A month starts at midnight. -/
theorem dvd_monthStart (m : ℤ) : Instant.microsecondsPerDay ∣ monthStart m :=
  Dvd.intro_left (monthFirstDay m) rfl

/-- The month of a day starts on or before it, and the next one after it. -/
theorem monthOf_spec (t : Instant) :
    monthFirstDay (monthOf t) ≤ t.date ∧ t.date < monthFirstDay (monthOf t + 1) := by
  obtain ⟨hlow, hhigh⟩ := yearOfDay_spec t.date
  rw [daysBeforeYear_succ] at hhigh
  have hfirst : 0 ≤ t.date + epochDay - daysBeforeYear (yearOfDay t.date) := by omega
  have hlast : t.date + epochDay - daysBeforeYear (yearOfDay t.date) <
      daysBeforeMonth (isLeap (yearOfDay t.date)) 12 := by omega
  obtain ⟨h0, h1, h2, h3⟩ := monthOfYearDay_spec hfirst hlast
  unfold monthOf
  dsimp only
  rw [monthFirstDay_mul_add h0 h1, monthFirstDay_succ h0 h1]
  constructor <;> omega

theorem monthStart_monthOf_le (t : Instant) : monthStart (monthOf t) ≤ t := by
  have h := (monthOf_spec t).1
  have hday : t.date * Instant.microsecondsPerDay ≤ t :=
    Int.ediv_mul_le t (by decide)
  exact (mul_le_mul_of_nonneg_right h (by decide)).trans hday

theorem lt_monthStart_monthOf (t : Instant) : t < monthStart (monthOf t + 1) := by
  have h := (monthOf_spec t).2
  have hday : t < (t.date + 1) * Instant.microsecondsPerDay :=
    Int.lt_ediv_add_one_mul_self t (by decide)
  exact hday.trans_le (mul_le_mul_of_nonneg_right h (by decide))

/-- Where an instant lies before or after the start of a month, so does its month. -/
theorem monthStart_le_iff {t : Instant} {m : ℤ} : monthStart m ≤ t ↔ m ≤ monthOf t := by
  constructor
  · intro h
    have h' := monthStart_strictMono.lt_iff_lt.mp (h.trans_lt (lt_monthStart_monthOf t))
    exact Int.lt_add_one_iff.mp h'
  · intro h
    exact (monthStart_strictMono.monotone h).trans (monthStart_monthOf_le t)

theorem lt_monthStart_iff {t : Instant} {m : ℤ} : t < monthStart m ↔ monthOf t < m := by
  rw [← not_le, ← not_le, monthStart_le_iff]

/-- An instant lies in one month only. -/
theorem monthOf_eq_iff {t : Instant} {m : ℤ} :
    monthOf t = m ↔ monthStart m ≤ t ∧ t < monthStart (m + 1) := by
  rw [monthStart_le_iff, lt_monthStart_iff]
  omega

@[simp] theorem monthOf_monthStart (m : ℤ) : monthOf (monthStart m) = m :=
  monthOf_eq_iff.mpr ⟨le_rfl, monthStart_lt_succ m⟩

theorem monthOf_mono : Monotone monthOf := by
  intro t t' h
  exact monthStart_le_iff.mp ((monthStart_monthOf_le t).trans h)

/-! ### The months of a range -/

/-- The months a cursor visits, from the month of `r.start`, while its month starts before
`r.stop`. -/
def monthsInRange (r : DataRange) : List ℤ :=
  (List.range (monthOf (r.stop - 1) + 1 - monthOf r.start).toNat).map
    fun n : ℕ => monthOf r.start + n

/-- The months visited are those that meet the range. -/
theorem mem_monthsInRange {r : DataRange} {m : ℤ} :
    m ∈ monthsInRange r ↔ monthStart m < r.stop ∧ r.start < monthStart (m + 1) := by
  have hstop : monthStart m < r.stop ↔ m ≤ monthOf (r.stop - 1) := by
    rw [← monthStart_le_iff]
    exact Int.le_sub_one_iff.symm
  rw [lt_monthStart_iff, hstop]
  simp only [monthsInRange, List.mem_map, List.mem_range]
  constructor
  · rintro ⟨n, hn, rfl⟩
    constructor <;> omega
  · rintro ⟨h1, h2⟩
    exact ⟨(m - monthOf r.start).toNat, by omega, by omega⟩

/-- The month of an instant of the range is visited. -/
theorem monthOf_mem_monthsInRange {r : DataRange} {t : Instant} (h0 : r.start ≤ t)
    (h1 : t < r.stop) : monthOf t ∈ monthsInRange r :=
  mem_monthsInRange.mpr
    ⟨(monthStart_monthOf_le t).trans_lt h1, h0.trans_lt (lt_monthStart_monthOf t)⟩

theorem monthsInRange_sorted (r : DataRange) : (monthsInRange r).Pairwise (· < ·) := by
  unfold monthsInRange
  rw [List.pairwise_map]
  refine List.pairwise_lt_range.imp fun h => ?_
  omega

end MarketData
end DryTrade
