import Mathlib.Tactic.IntervalCases
import RecordSearch.Calendar.Date

/-! Day numbers count the days of the calendar.

    The day number of a date is found by divisions, in years that begin in March. Here the days are
    counted one month after the other, and one year after the other, by nothing but the lengths of
    the months. Both agree: they do on the first of January 1970, and from the first of one month to
    the first of the next both go on by the days of the month. -/

namespace RecordSearch.Date

/-- The days of the first months of a year. -/
def daysOfMonths (year : Nat) : Nat → Nat
  | 0 => 0
  | months + 1 => daysOfMonths year months + daysInMonth year (months + 1)

/-- The days of the years from 0 on, up to a year. -/
def daysOfYears : Nat → Nat
  | 0 => 0
  | year + 1 => daysOfYears year + daysOfMonths year 12

/-- The days from the first of January 1970 to a date that exists. -/
def daysSinceEpoch (year month day : Nat) : Int :=
  ((daysOfYears year + daysOfMonths year (month - 1) + (day - 1) : Nat) : Int) -
    (daysOfYears 1970 : Int)

/-- A year has a 29th of February if 4 divides it, and not 100, or else 400 too. -/
theorem daysInMonth_february (year : Int) :
    daysInMonth year 2 = if year % 4 = 0 ∧ (year % 100 ≠ 0 ∨ year % 400 = 0) then 29 else 28 := by
  simp only [daysInMonth, leapYear, Bool.and_eq_true, Bool.or_eq_true, decide_eq_true_eq, bne_iff_ne]

theorem countDays_day (year : Int) (month : Nat) {day : Nat} (h : 1 ≤ day) :
    countDays year month day = countDays year month 1 + ((day - 1 : Nat) : Int) := by
  simp only [countDays]
  omega

/-- The first of a month is the days of the month before later than the first of that one. -/
theorem countDays_month (year : Int) {month : Nat} (h : 1 ≤ month ∧ month ≤ 11) :
    countDays year (month + 1) 1 = countDays year month 1 + (daysInMonth year month : Int) := by
  obtain ⟨first, last⟩ := h
  by_cases february : month = 2
  · subst february
    rw [daysInMonth_february]
    by_cases long : year % 4 = 0 ∧ (year % 100 ≠ 0 ∨ year % 400 = 0)
    · rw [if_pos long]
      simp only [countDays]
      omega
    · rw [if_neg long]
      simp only [countDays]
      omega
  · interval_cases month <;> simp only [countDays, daysInMonth] <;> omega

theorem countDays_newYear (year : Int) : countDays (year + 1) 1 1 = countDays year 12 1 + 31 := by
  simp only [countDays]
  omega

theorem countDays_months (year : Nat) {months : Nat} (h : months ≤ 11) :
    countDays year (months + 1) 1 = countDays year 1 1 + (daysOfMonths year months : Int) := by
  induction months with
  | zero => rw [daysOfMonths, Nat.cast_zero, Int.add_zero]
  | succ months ih =>
    rw [countDays_month year ⟨Nat.le_add_left 1 months, h⟩, ih (Nat.le_of_succ_le h), daysOfMonths,
      Nat.cast_add, Int.add_assoc]

theorem countDays_years (year : Nat) :
    countDays year 1 1 = countDays 0 1 1 + (daysOfYears year : Int) := by
  induction year with
  | zero => rfl
  | succ year ih =>
    have december : daysOfMonths year 12 = daysOfMonths year 11 + 31 := rfl
    rw [Nat.cast_succ, countDays_newYear, countDays_months year (Nat.le_refl 11), ih, daysOfYears,
      december]
    omega

/-- The day number of a date is the number of days from the first of January 1970 to it. -/
theorem countDays_eq_daysSinceEpoch (year : Nat) {month day : Nat} (hmonth : 1 ≤ month ∧ month ≤ 12)
    (hday : 1 ≤ day) : countDays year month day = daysSinceEpoch year month day := by
  have epoch := countDays_years 1970
  rw [show countDays (1970 : Nat) 1 1 = 0 from rfl] at epoch
  obtain ⟨months, rfl⟩ := Nat.exists_eq_add_of_le' hmonth.1
  rw [countDays_day year _ hday, countDays_months year (by omega), countDays_years, daysSinceEpoch,
    Nat.add_sub_cancel]
  omega

end RecordSearch.Date
