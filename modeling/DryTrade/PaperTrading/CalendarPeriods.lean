import DryTrade.Failure
import DryTrade.MarketData.Months
import DryTrade.Slots

/-!
# Calendar periods

Metrics are grouped by UTC days, weeks that start on a Monday, or months.  The
starts of the periods of a range are generated by going from each period to the end
of it, and an event is assigned to a period by truncating its time; both are read
off one cut of the time line into slots.

## Main definitions

* `calendarPeriodStart`, `calendarPeriodEnd` — the period of an instant.
* `periodStarts` — the starts of the periods of a range.
* `PaperPeriodGranularity.slots` — the periods as slots of the time line.

## Main results

* `calendarPeriodStart_eq`, `calendarPeriodEnd_eq_ok` — they are the ends of a slot.
* `periodStarts_eq_ok` — the starts generated for a range are those of its slots.
-/

namespace DryTrade
namespace PaperTrading

open MarketData

/-- Supported UTC calendar buckets. -/
inductive PaperPeriodGranularity
  | daily
  | weekly
  | monthly
  deriving DecidableEq, Repr

/-- `value.replace(hour=0, minute=0, second=0, microsecond=0)`. -/
def startOfDay (value : Instant) : Instant := value.date * Instant.microsecondsPerDay

/-- `value.weekday()`, where Monday is 0; the epoch was a Thursday. -/
def weekday (value : Instant) : ℤ := (value.date + 3) % 7

/-- `calendar_period_start`: the inclusive UTC start containing one event time. -/
def calendarPeriodStart (value : Instant) (granularity : PaperPeriodGranularity) : Instant :=
  let day := startOfDay value
  match granularity with
  | .daily => day
  | .weekly => day - weekday day * Instant.microsecondsPerDay
  | .monthly => monthStart (monthOf day)

/-- `calendar_period_end`: the exclusive UTC end of one aligned calendar period.  Months are
numbered consecutively, so that after the last month of a year comes the first one of the next. -/
def calendarPeriodEnd (periodStart : Instant) (granularity : PaperPeriodGranularity) :
    Except Failure Instant := do
  FailureKind.invalidPaperSession.unless
    (decide (periodStart = calendarPeriodStart periodStart granularity))
    "period_start must be aligned to granularity"
  match granularity with
  | .daily => return periodStart + Instant.microsecondsPerDay
  | .weekly => return periodStart + 7 * Instant.microsecondsPerDay
  | .monthly => return monthStart (monthOf periodStart + 1)

/-- `_MAX_PERIOD_BUCKETS`. -/
def maxPeriodBuckets : ℕ := 5000

/-- The loop of `_period_starts`, while the list has room for `room` more starts. -/
def periodStartsFrom (granularity : PaperPeriodGranularity) (periodBefore : Instant) :
    ℕ → Instant → Except Failure (List Instant)
  | room, current =>
    if current < periodBefore then
      match room with
      | 0 => FailureKind.invalidPaperSession.raiseWith
          "A consulta excede o limite de 5000 períodos."
      | room + 1 => do
          let next ← calendarPeriodEnd current granularity
          let starts ← periodStartsFrom granularity periodBefore room next
          return current :: starts
    else do
      FailureKind.invalidPaperSession.unless (decide (current = periodBefore))
        "period_before não fecha um número inteiro de períodos."
      return []

/-- `_period_starts`. -/
def periodStarts (periodFrom periodBefore : Instant) (granularity : PaperPeriodGranularity) :
    Except Failure (List Instant) :=
  periodStartsFrom granularity periodBefore maxPeriodBuckets periodFrom

/-! ### Periods as slots -/

/-- Days, numbered from the epoch. -/
def dailySlots : Slots Instant where
  start k := k * Instant.microsecondsPerDay
  index t := t.date
  start_strictMono := strictMono_int_of_lt_succ fun k =>
    mul_lt_mul_of_pos_right (Int.lt_succ k) (by decide)
  start_le_iff := (Int.le_ediv_iff_mul_le (by decide)).symm

/-- Weeks from Monday to Sunday, numbered from the one of the epoch. -/
def weeklySlots : Slots Instant where
  start k := (7 * k - 3) * Instant.microsecondsPerDay
  index t := (t.date + 3) / 7
  start_strictMono := by
    refine strictMono_int_of_lt_succ fun k => ?_
    have hweek : 7 * k - 3 < 7 * (k + 1) - 3 := by omega
    exact mul_lt_mul_of_pos_right hweek (by decide)
  start_le_iff := by
    intro k t
    rw [Int.le_ediv_iff_mul_le (by norm_num), ← Int.le_ediv_iff_mul_le (by decide)]
    show 7 * k - 3 ≤ t.date ↔ k * 7 ≤ t.date + 3
    omega

/-- Calendar months. -/
def monthlySlots : Slots Instant where
  start := monthStart
  index := monthOf
  start_strictMono := monthStart_strictMono
  start_le_iff := monthStart_le_iff

/-- The periods of a granularity. -/
def PaperPeriodGranularity.slots : PaperPeriodGranularity → Slots Instant
  | .daily => dailySlots
  | .weekly => weeklySlots
  | .monthly => monthlySlots

section

variable {granularity : PaperPeriodGranularity} {t stop : Instant} {starts : List Instant} {k : ℤ}

theorem date_mul (k : ℤ) : Instant.date (k * Instant.microsecondsPerDay) = k :=
  Int.mul_ediv_cancel k (by decide)

theorem date_startOfDay (t : Instant) : (startOfDay t).date = t.date := date_mul _

/-- A month starts with a day, so an instant and the start of its day lie in one month. -/
theorem monthOf_startOfDay (t : Instant) : monthOf (startOfDay t) = monthOf t := by
  refine le_antisymm (monthOf_mono (dailySlots.floor_le t)) ?_
  rw [← monthStart_le_iff]
  obtain ⟨day, hday⟩ := dvd_monthStart (monthOf t)
  rw [mul_comm] at hday
  rw [hday]
  have hle : day * Instant.microsecondsPerDay ≤ t := hday ▸ monthStart_monthOf_le t
  exact dailySlots.start_strictMono.monotone (dailySlots.start_le_iff.mp hle)

/-- **The start of the period of an instant** is the start of its slot. -/
theorem calendarPeriodStart_eq (t : Instant) (granularity : PaperPeriodGranularity) :
    calendarPeriodStart t granularity = granularity.slots.floor t := by
  cases granularity with
  | daily => rfl
  | weekly =>
    simp only [calendarPeriodStart, weekday, date_startOfDay]
    show t.date * Instant.microsecondsPerDay - (t.date + 3) % 7 * Instant.microsecondsPerDay =
      (7 * ((t.date + 3) / 7) - 3) * Instant.microsecondsPerDay
    rw [← sub_mul]
    congr 1
    omega
  | monthly =>
    simp only [calendarPeriodStart, monthOf_startOfDay]
    rfl

/-- **The end of a period** is the start of the next slot. -/
theorem calendarPeriodEnd_start (granularity : PaperPeriodGranularity) (k : ℤ) :
    calendarPeriodEnd (granularity.slots.start k) granularity =
      .ok (granularity.slots.start (k + 1)) := by
  have haligned : granularity.slots.start k =
      calendarPeriodStart (granularity.slots.start k) granularity := by
    rw [calendarPeriodStart_eq, Slots.floor_start]
  unfold calendarPeriodEnd
  rw [decide_eq_true haligned]
  cases granularity with
  | daily =>
    show Except.ok (k * Instant.microsecondsPerDay + Instant.microsecondsPerDay) =
      .ok ((k + 1) * Instant.microsecondsPerDay)
    rw [add_one_mul]
  | weekly =>
    show Except.ok ((7 * k - 3) * Instant.microsecondsPerDay + 7 * Instant.microsecondsPerDay) =
      .ok ((7 * (k + 1) - 3) * Instant.microsecondsPerDay)
    rw [← add_mul]
    congr 2
    ring
  | monthly =>
    show Except.ok (monthStart (monthOf (monthStart k) + 1)) = .ok (monthStart (k + 1))
    rw [monthOf_monthStart]

/-- The loop from the start of a slot to the start of a later one. -/
theorem periodStartsFrom_slots (granularity : PaperPeriodGranularity) {n room : ℕ} (h : n ≤ room)
    (i : ℤ) :
    periodStartsFrom granularity (granularity.slots.start (i + n)) room
      (granularity.slots.start i) = .ok (granularity.slots.starts i n) := by
  induction n generalizing room i with
  | zero =>
    unfold periodStartsFrom
    simp [FailureKind.unless, bind, Except.bind, pure, Except.pure]
  | succ n ih =>
    obtain ⟨room, rfl⟩ := Nat.exists_eq_succ_of_ne_zero (by omega : room ≠ 0)
    have hlt : granularity.slots.start i < granularity.slots.start (i + (n + 1 : ℕ)) :=
      granularity.slots.start_strictMono (by omega)
    have hrest := ih (by omega : n ≤ room) (i + 1)
    rw [show i + 1 + (n : ℤ) = i + (n + 1 : ℕ) by push_cast; ring] at hrest
    unfold periodStartsFrom
    rw [if_pos hlt]
    simp only [calendarPeriodEnd_start, hrest, Slots.starts_succ, bind, Except.bind, pure,
      Except.pure]

/-- A range that is not as long as the limit is refused. -/
theorem periodStartsFrom_full (granularity : PaperPeriodGranularity) {n room : ℕ} (h : room < n)
    (i : ℤ) :
    periodStartsFrom granularity (granularity.slots.start (i + n)) room
      (granularity.slots.start i) = .error
        ⟨.invalidPaperSession, "A consulta excede o limite de 5000 períodos."⟩ := by
  induction room generalizing n i with
  | zero =>
    have hlt : granularity.slots.start i < granularity.slots.start (i + n) :=
      granularity.slots.start_strictMono (by omega)
    unfold periodStartsFrom
    rw [if_pos hlt]
    rfl
  | succ room ih =>
    obtain ⟨n, rfl⟩ := Nat.exists_eq_succ_of_ne_zero (by omega : n ≠ 0)
    have hlt : granularity.slots.start i < granularity.slots.start (i + (n + 1 : ℕ)) :=
      granularity.slots.start_strictMono (by omega)
    have hrest := ih (by omega : room < n) (i + 1)
    rw [show i + 1 + (n : ℤ) = i + (n + 1 : ℕ) by push_cast; ring] at hrest
    unfold periodStartsFrom
    rw [if_pos hlt]
    simp only [calendarPeriodEnd_start, hrest, bind, Except.bind]

/-- **The starts generated for an aligned range** are those of its slots, and there are no more of
them than the limit. -/
theorem periodStarts_eq_ok {periodFrom periodBefore : Instant}
    (hfrom : calendarPeriodStart periodFrom granularity = periodFrom)
    (hbefore : calendarPeriodStart periodBefore granularity = periodBefore)
    (hlt : periodFrom < periodBefore)
    (h : periodStarts periodFrom periodBefore granularity = .ok starts) :
    ∃ (i : ℤ) (n : ℕ), 0 < n ∧ n ≤ maxPeriodBuckets ∧ periodFrom = granularity.slots.start i ∧
      periodBefore = granularity.slots.start (i + n) ∧ starts = granularity.slots.starts i n := by
  rw [calendarPeriodStart_eq] at hfrom hbefore
  obtain ⟨i, rfl⟩ := granularity.slots.exists_of_floor_eq hfrom
  obtain ⟨j, rfl⟩ := granularity.slots.exists_of_floor_eq hbefore
  have hij : i < j := granularity.slots.start_strictMono.lt_iff_lt.mp hlt
  obtain ⟨n, hn⟩ : ∃ n : ℕ, j = i + n := ⟨(j - i).toNat, by omega⟩
  subst hn
  unfold periodStarts at h
  rcases le_or_gt n maxPeriodBuckets with hle | hgt
  · rw [periodStartsFrom_slots granularity hle] at h
    exact ⟨i, n, by omega, hle, rfl, rfl, (Except.ok.inj h).symm⟩
  · rw [periodStartsFrom_full granularity hgt] at h
    cases h

end

end PaperTrading
end DryTrade
