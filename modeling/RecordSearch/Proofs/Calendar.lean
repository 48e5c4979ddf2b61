import Mathlib.Tactic.IntervalCases
import RecordSearch.Calendar.Date

/-! From a day number to its date and back.

    A day of an era of 400 years is taken apart in the order of the calendar: the century, the cycle
    of four years in it, the year in the cycle and the day in the year, where every part but the day
    is counted from March. From the parts, the divisions that find the year and the month come out
    exact.

        era 146097 days = 4 centuries of 36524 days, and a day
        century         = 25 cycles of 1461 days, less a day in all but the last century
        cycle           = 4 years of 365 days, and a day -/

namespace RecordSearch.Date

/-! ### The parts of an era -/

/-- Century, cycle, year and day of a day of an era. The last day of a long year stands at the end
    of a cycle, and of a century only in the fourth. -/
structure InEra (century cycle year day : Int) : Prop where
  century_range : 0 ≤ century ∧ century ≤ 3
  cycle_range : 0 ≤ cycle ∧ cycle ≤ 24
  year_range : 0 ≤ year ∧ year ≤ 3
  day_range : 0 ≤ day ∧ day ≤ 365
  long : day = 365 → year = 3 ∧ (cycle = 24 → century = 3)

theorem exists_inEra {n : Int} (h : 0 ≤ n ∧ n < 146097) :
    ∃ c q k j, InEra c q k j ∧ n = 36524 * c + 1461 * q + 365 * k + j := by
  obtain ⟨c, hc⟩ : ∃ c, c = min 3 (n / 36524) := ⟨_, rfl⟩
  obtain ⟨k, hk⟩ : ∃ k, k = min 3 ((n - 36524 * c) % 1461 / 365) := ⟨_, rfl⟩
  refine ⟨c, (n - 36524 * c) / 1461, k, (n - 36524 * c) % 1461 - 365 * k, ⟨?_, ?_, ?_, ?_, ?_⟩, ?_⟩ <;>
    omega

/-- The corrections of a day number take the year out of it. -/
theorem yearOfEra_eq {c q k j n : Int} (h : InEra c q k j)
    (hn : n = 36524 * c + 1461 * q + 365 * k + j) :
    (n - n / 1460 + n / 36524 - n / 146096) / 365 = 100 * c + 4 * q + k := by
  obtain ⟨hc, hq, hk, hj, long⟩ := h
  have centuries : n / 36524 - n / 146096 = c := by
    by_cases last : n = 146096
    · have fourth : c = 3 := by omega
      omega
    · have inCentury : 1461 * q + 365 * k + j < 36524 := by
        by_cases full : j = 365
        · obtain ⟨hk3, hc3⟩ := long full
          by_cases hq24 : q = 24
          · have fourth := hc3 hq24
            omega
          · omega
        · omega
      omega
  -- the days in 1460 years run ahead of the cycles by one once a century, at most
  have cycles : n / 1460 = 25 * c + q + if 1460 ≤ 24 * c + q + 365 * k + j then 1 else 0 := by
    split <;> omega
  split at cycles <;> omega

/-- Without the days of the years before it, a day number is the day of its year. -/
theorem dayOfYear_eq {c q k j n : Int} (h : InEra c q k j)
    (hn : n = 36524 * c + 1461 * q + 365 * k + j) :
    n - (365 * (100 * c + 4 * q + k) + (100 * c + 4 * q + k) / 4 - (100 * c + 4 * q + k) / 100) =
      j := by
  obtain ⟨hc, hq, hk, -, -⟩ := h
  have fourth : (100 * c + 4 * q + k) / 4 = 25 * c + q := by omega
  have hundredth : (100 * c + 4 * q + k) / 100 = c := by omega
  rw [fourth, hundredth]
  omega

/-- The 29th of February ends a long year, so it falls into the calendar year after. -/
theorem leapYear_of_long {c q k e : Int} (hk : k = 3) (hq : 0 ≤ q ∧ q ≤ 24) (hc : q = 24 → c = 3) :
    leapYear (100 * c + 4 * q + k + e * 400 + 1) = true := by
  subst hk
  have fourth : (100 * c + 4 * q + 3 + e * 400 + 1) % 4 = 0 := by omega
  rw [leapYear, Bool.and_eq_true, Bool.or_eq_true, decide_eq_true_iff, bne_iff_ne, decide_eq_true_iff]
  refine ⟨fourth, ?_⟩
  by_cases last : q = 24
  · right
    rw [last, hc last]
    omega
  · left
    omega

/-! ### Months from March -/

/-- The month that is so many months after March. -/
def monthAfterMarch (p : Int) : Int := if p < 10 then p + 3 else p - 9

/-- Five months have 153 days: all months but February end where the next one starts. -/
theorem daysInMonth_afterMarch (year : Int) {p : Int} (hp : 0 ≤ p ∧ p ≤ 10) :
    (daysInMonth year (monthAfterMarch p).toNat : Int) =
      (153 * (p + 1) + 2) / 5 - (153 * p + 2) / 5 := by
  obtain ⟨low, high⟩ := hp
  interval_cases p <;> rfl

/-- Month and day that are found from the day of a year exist. -/
theorem day_le_daysInMonth {j p year : Int} {month day : Nat} (hj : 0 ≤ j ∧ j ≤ 365)
    (hp : p = (5 * j + 2) / 153) (hmonth : month = (monthAfterMarch p).toNat)
    (hday : (day : Int) = j - (153 * p + 2) / 5 + 1) (leap : j = 365 → leapYear year = true) :
    (1 ≤ month ∧ month ≤ 12) ∧ 1 ≤ day ∧ day ≤ daysInMonth year month := by
  have monthRange : 1 ≤ month ∧ month ≤ 12 := by
    rw [monthAfterMarch] at hmonth
    split at hmonth <;> omega
  refine ⟨monthRange, by omega, ?_⟩
  by_cases february : p = 11
  · obtain rfl : month = 2 := by rw [hmonth, february]; rfl
    rw [daysInMonth]
    by_cases full : j = 365
    · rw [if_pos (leap full)]
      omega
    · split <;> omega
  · have days := daysInMonth_afterMarch year (p := p) (by omega)
    rw [← hmonth] at days
    omega

/-! ### There and back -/

/-- The date of a day number, from its parts. -/
theorem civil_eq (n : Int) {c q k j : Int} (h : InEra c q k j)
    (hn : (n + 719468) % 146097 = 36524 * c + 1461 * q + 365 * k + j) :
    civil n =
      let p := (5 * j + 2) / 153
      (100 * c + 4 * q + k + (n + 719468) / 146097 * 400 +
          if monthAfterMarch p ≤ 2 then 1 else 0,
        (monthAfterMarch p).toNat, (j - (153 * p + 2) / 5 + 1).toNat) := by
  have year := yearOfEra_eq h hn
  have day := dayOfYear_eq h hn
  unfold civil
  simp only [year, day]
  rfl

/-- Counting the days of a date whose year is counted from March. -/
theorem countDays_eq {year e Y p j : Int} {month day : Nat} (hY : 0 ≤ Y ∧ Y ≤ 399)
    (hp : 0 ≤ p ∧ p ≤ 11)
    (hyear : year = Y + e * 400 + if monthAfterMarch p ≤ 2 then 1 else 0)
    (hmonth : month = (monthAfterMarch p).toNat)
    (hday : (day : Int) = j - (153 * p + 2) / 5 + 1) :
    countDays year month day = e * 146097 + (365 * Y + Y / 4 - Y / 100 + j) - 719468 := by
  rw [monthAfterMarch] at hmonth hyear
  have fromMarch : ((month : Int) + 9) % 12 = p := by
    split at hmonth <;> omega
  have counted : (if month ≤ 2 then year - 1 else year) = e * 400 + Y := by
    split at hmonth <;> split at hyear <;> split <;> omega
  have era : (e * 400 + Y) / 400 = e := by omega
  have yearOfEra : (e * 400 + Y) % 400 = Y := by omega
  unfold countDays
  simp only [counted, era, yearOfEra, fromMarch]
  omega

/-- A day number names a day that exists, and counting the days of that day gives the number
    back. -/
theorem civil_spec {n year : Int} {month day : Nat} (h : civil n = (year, month, day)) :
    (1 ≤ month ∧ month ≤ 12) ∧ (1 ≤ day ∧ day ≤ daysInMonth year month) ∧
      countDays year month day = n := by
  obtain ⟨c, q, k, j, parts, hn⟩ := exists_inEra (n := (n + 719468) % 146097) (by omega)
  have dayOfEra := dayOfYear_eq parts hn
  rw [civil_eq n parts hn, Prod.mk.injEq, Prod.mk.injEq] at h
  obtain ⟨hyear, hmonth, hday⟩ := h
  obtain ⟨hc, hq, hk, hj, long⟩ := parts
  have yearRange : 0 ≤ 100 * c + 4 * q + k ∧ 100 * c + 4 * q + k ≤ 399 := by omega
  have monthRange : 0 ≤ (5 * j + 2) / 153 ∧ (5 * j + 2) / 153 ≤ 11 := by omega
  have leap : j = 365 → leapYear year = true := by
    intro full
    obtain ⟨hk3, hc3⟩ := long full
    rw [← hyear, full]
    exact leapYear_of_long hk3 hq hc3
  have day_eq : (day : Int) = j - (153 * ((5 * j + 2) / 153) + 2) / 5 + 1 := by omega
  obtain ⟨months, days⟩ := day_le_daysInMonth hj rfl hmonth.symm day_eq leap
  refine ⟨months, days, ?_⟩
  rw [countDays_eq yearRange monthRange hyear.symm hmonth.symm day_eq]
  omega

/-! ### Years -/

/-- The day number of the first of January. -/
def newYear (year : Int) : Int :=
  365 * (year - 1) + (year - 1) / 4 - (year - 1) / 100 + (year - 1) / 400 - 719162

theorem newYear_le {a b : Int} (h : a ≤ b) : newYear a ≤ newYear b := by
  unfold newYear
  by_cases same : a = b
  · rw [same]
  · omega

/-- A date lies between the first days of its year and of the next. -/
theorem newYear_le_countDays (year : Int) {month day : Nat} (hmonth : 1 ≤ month ∧ month ≤ 12)
    (hday : 1 ≤ day ∧ day ≤ 31) :
    newYear year ≤ countDays year month day ∧ countDays year month day < newYear (year + 1) := by
  unfold countDays newYear
  by_cases early : month ≤ 2
  · have fromMarch : ((month : Int) + 9) % 12 = month + 9 := by omega
    simp only [if_pos early, fromMarch]
    omega
  · have fromMarch : ((month : Int) + 9) % 12 = month - 3 := by omega
    simp only [if_neg early, fromMarch]
    omega

end RecordSearch.Date
