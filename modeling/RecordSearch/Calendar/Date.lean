/-! Dates of the proleptic Gregorian calendar and their day numbers.

    Years run from -262143 to 262142, with a year 0. Day 0 is the first of January 1970. Both
    directions count years from March, so that the leap day is the last day of a year and months
    follow the fixed pattern of 153 days in five. -/

namespace RecordSearch

/-- Whether a year has a 29th of February. -/
def leapYear (year : Int) : Bool := year % 4 = 0 && (year % 100 != 0 || year % 400 = 0)

/-- The number of days of a month. -/
def daysInMonth (year : Int) : Nat → Nat
  | 2 => if leapYear year then 29 else 28
  | 4 | 6 | 9 | 11 => 30
  | _ => 31

/-- A date that exists. -/
structure Date where
  year : Int
  month : Nat
  day : Nat
  year_range : -262143 ≤ year ∧ year ≤ 262142
  month_range : 1 ≤ month ∧ month ≤ 12
  day_range : 1 ≤ day ∧ day ≤ daysInMonth year month
  deriving DecidableEq, Repr

namespace Date

/-- The date with a year, month and day, if there is one. -/
def of? (year : Int) (month day : Nat) : Option Date :=
  if h : (-262143 ≤ year ∧ year ≤ 262142) ∧ (1 ≤ month ∧ month ≤ 12) ∧
      1 ≤ day ∧ day ≤ daysInMonth year month then
    some ⟨year, month, day, h.1, h.2.1, h.2.2⟩
  else none

/-- Day numbers of a calendar date, also of one that does not exist. -/
def countDays (year : Int) (month day : Nat) : Int :=
  let y := if month ≤ 2 then year - 1 else year
  let era := y / 400
  let yearOfEra := y % 400
  let monthFromMarch : Int := (month + 9) % 12
  let dayOfYear := (153 * monthFromMarch + 2) / 5 + day - 1
  let dayOfEra := yearOfEra * 365 + yearOfEra / 4 - yearOfEra / 100 + dayOfYear
  era * 146097 + dayOfEra - 719468

/-- Days since the first of January 1970. -/
def dayNumber (d : Date) : Int := countDays d.year d.month d.day

/-- Year, month and day of a day number. -/
def civil (dayNumber : Int) : Int × Nat × Nat :=
  let z := dayNumber + 719468
  let era := z / 146097
  let dayOfEra := z % 146097
  let yearOfEra := (dayOfEra - dayOfEra / 1460 + dayOfEra / 36524 - dayOfEra / 146096) / 365
  let dayOfYear := dayOfEra - (365 * yearOfEra + yearOfEra / 4 - yearOfEra / 100)
  let monthFromMarch := (5 * dayOfYear + 2) / 153
  let day := dayOfYear - (153 * monthFromMarch + 2) / 5 + 1
  let month := if monthFromMarch < 10 then monthFromMarch + 3 else monthFromMarch - 9
  let year := yearOfEra + era * 400 + if month ≤ 2 then 1 else 0
  (year, month.toNat, day.toNat)

theorem of?_eq_some {year : Int} {month day : Nat} {d : Date} (h : of? year month day = some d) :
    d.year = year ∧ d.month = month ∧ d.day = day := by
  unfold of? at h
  split at h
  · cases h; exact ⟨rfl, rfl, rfl⟩
  · cases h

end Date

end RecordSearch
