import RecordSearch.Json.Decode
import RecordSearch.Proofs.Calendar

/-! Points in time that are written and read back.

    The written form has the year, month, day, hour, minute and second in digits of fixed width, as
    many places of the fraction as it takes, and `Z`. Reading takes up each item and leaves what
    follows it, and the numbers that are read name the point in time again: the date by its day
    number, a leap second by its second 60. -/

namespace RecordSearch

/-! ### Digits -/

namespace Text

theorem length_paddedDigits {width n : Nat} (hw : 0 < width) (h : n < tenTo width) :
    (paddedDigits width n).length = width := by
  have short : (digitsOf n).length ≤ width := (Nat.length_toDigits_le_iff (by decide) hw).2 h
  rw [paddedDigits, List.length_append, List.length_replicate]
  omega

theorem isDigit_paddedDigits {width n : Nat} : ∀ c ∈ paddedDigits width n, c.isDigit = true := by
  intro c hc
  rw [paddedDigits, List.mem_append, List.mem_replicate] at hc
  rcases hc with ⟨-, rfl⟩ | hc
  · rfl
  · exact Nat.isDigit_of_mem_toDigits (by decide) (by decide) hc

theorem paddedDigits_ne_nil (width n : Nat) : paddedDigits width n ≠ [] :=
  List.append_ne_nil_of_right_ne_nil _ Nat.toDigits_ne_nil

theorem exists_paddedDigits (width n : Nat) :
    ∃ c ds, paddedDigits width n = c :: ds ∧ c.isDigit = true := by
  obtain ⟨c, ds, digits⟩ := List.exists_cons_of_ne_nil (paddedDigits_ne_nil width n)
  exact ⟨c, ds, digits, isDigit_paddedDigits c (digits ▸ List.mem_cons_self)⟩

theorem digitsValue_paddedDigits (width n : Nat) : digitsValue (paddedDigits width n) = n := by
  rw [digitsValue, paddedDigits, Nat.ofDigitChars_append, Nat.ofDigitChars_replicate_zero,
    Nat.mul_zero, digitsOf, Nat.ofDigitChars_ten_toDigits]

/-- The run of digits ends where something stands that is no digit. -/
theorem leadingDigits_append_of_ends {ds rest : List Char} (digits : ∀ c ∈ ds, c.isDigit = true)
    (ends : ∀ c ∈ rest.head?, c.isDigit = false) : leadingDigits (ds ++ rest) = (ds, rest) := by
  rw [leadingDigits, List.takeWhile_append_of_pos digits, List.dropWhile_append_of_pos digits]
  rcases rest with _ | ⟨c, rest⟩
  · simp
  · simp [ends c rfl]

theorem isBlank_of_isDigit {c : Char} (h : c.isDigit = true) : isBlank c = false := by
  obtain ⟨low, high⟩ := Char.isDigit_iff_toNat.1 h
  have low : 48 ≤ c.toNat := low
  have high : c.toNat ≤ 57 := high
  simp only [isBlank, Bool.or_eq_false_iff, Bool.and_eq_false_iff, decide_eq_false_iff_not,
    beq_eq_false_iff_ne]
  omega

/-- The text ends in something that is no blank. -/
def EndsPlain (s : List Char) : Prop := ∃ c ∈ s.getLast?, isBlank c = false

theorem EndsPlain.append {s : List Char} (h : EndsPlain s) (t : List Char) : EndsPlain (t ++ s) := by
  obtain ⟨c, last, plain⟩ := h
  refine ⟨c, ?_, plain⟩
  rw [List.getLast?_append, Option.mem_def.1 last]
  rfl

theorem EndsPlain.cons {s : List Char} (h : EndsPlain s) (c : Char) : EndsPlain (c :: s) :=
  h.append [c]

theorem endsPlain_paddedDigits (width n : Nat) : EndsPlain (paddedDigits width n) := by
  have last := List.getLast?_eq_some_getLast (paddedDigits_ne_nil width n)
  exact ⟨_, last, isBlank_of_isDigit (isDigit_paddedDigits _ (List.getLast_mem _))⟩

/-- Without a blank at either end there is nothing to trim. -/
theorem trimmed_eq_self {c : Char} {s : List Char} (first : isBlank c = false)
    (last : EndsPlain (c :: s)) : trimmed (c :: s) = c :: s := by
  have left : trimLeft (c :: s) = c :: s := List.dropWhile_cons_of_neg (Bool.eq_false_iff.1 first)
  obtain ⟨d, ends, plain⟩ := last
  obtain ⟨front, split⟩ := List.getLast?_eq_some_iff.1 ends
  rw [trimmed, left, trimRight, split, List.reverse_append, List.reverse_singleton,
    List.singleton_append, List.dropWhile_cons_of_neg (Bool.eq_false_iff.1 plain),
    ← List.singleton_append, List.reverse_append, List.reverse_reverse, List.reverse_singleton]

end Text

/-- No month has more than 31 days. -/
theorem daysInMonth_le (year : Int) (month : Nat) : daysInMonth year month ≤ 31 := by
  unfold daysInMonth
  split
  · split <;> decide
  all_goals decide

/-- The year in UTC is from 0 to 9999, so that it is written in four digits without a sign. -/
def Instant.HasPlainYear (t : Instant) : Prop := 0 ≤ t.civil.1 ∧ t.civil.1 ≤ 9999

instance (t : Instant) : Decidable t.HasPlainYear := inferInstanceAs (Decidable (_ ∧ _))

namespace Calendar

open Text

/-! ### Items -/

theorem exactNumber_paddedDigits {width n : Nat} (hw : 0 < width) (h : n < tenTo width)
    (rest : List Char) : exactNumber width (paddedDigits width n ++ rest) = some (n, rest) := by
  have length := length_paddedDigits hw h
  rw [exactNumber, List.take_left' length, List.drop_left' length,
    if_pos ⟨length, List.all_eq_true.2 isDigit_paddedDigits⟩, digitsValue_paddedDigits]

theorem nanosOf_paddedDigits {width n : Nat} (hw : 0 < width ∧ width ≤ 9) (h : n < tenTo width) :
    nanosOf (paddedDigits width n) = n * tenTo (9 - width) := by
  have length := length_paddedDigits hw.1 h
  have whole : (paddedDigits width n).take 9 = paddedDigits width n :=
    List.take_of_length_le (by omega)
  show digitsValue ((paddedDigits width n).take 9) *
    tenTo (9 - ((paddedDigits width n).take 9).length) = _
  rw [whole, length, digitsValue_paddedDigits]

variable (t : Stamp) (rest : List Char)

theorem read_exact (part : Part) {width n : Nat} (hw : 0 < width) (h : n < tenTo width) :
    (Item.exact part width).read t (paddedDigits width n ++ rest) = some (t.set part n, rest) := by
  show (exactNumber width (paddedDigits width n ++ rest)).map _ = _
  rw [exactNumber_paddedDigits hw h]
  rfl

theorem read_mark (c : Char) : (Item.mark c).read t (c :: rest) = some (t, rest) := if_pos rfl

theorem ends_cons {c : Char} (h : c.isDigit = false) (rest : List Char) :
    ∀ d ∈ (c :: rest).head?, d.isDigit = false := by
  rintro _ ⟨⟩
  exact h

/-- A fraction of so many places is read back, whatever follows its digits. -/
theorem read_fraction_places {width n : Nat} (hw : 0 < width ∧ width ≤ 9) (h : n < tenTo width)
    (ends : ∀ c ∈ rest.head?, c.isDigit = false) :
    Item.fraction.read t ('.' :: (paddedDigits width n ++ rest)) =
      some ({ t with nanos := n * tenTo (9 - width) }, rest) := by
  simp only [Item.read, leadingDigits_append_of_ends isDigit_paddedDigits ends,
    paddedDigits_ne_nil, if_false, nanosOf_paddedDigits hw h]

/-- A fraction is written with as few groups of three places as hold it, and read back. -/
theorem read_fractionText {n : Nat} (h : n < 1000000000) (ht : t.nanos = 0) :
    Item.fraction.read t (fractionText n ++ 'Z' :: rest) =
      some ({ t with nanos := n }, 'Z' :: rest) := by
  have ends : ∀ c ∈ ('Z' :: rest).head?, c.isDigit = false := ends_cons rfl rest
  unfold fractionText
  split
  case isTrue whole =>
    rw [whole, ← ht]
    rfl
  case isFalse =>
    split
    case isTrue millis =>
      rw [List.cons_append,
        read_fraction_places t _ (by decide) (show n / 1000000 < 1000 by omega) ends]
      show some ({ t with nanos := n / 1000000 * 1000000 }, _) = _
      rw [Nat.div_mul_cancel (Nat.dvd_of_mod_eq_zero millis)]
    case isFalse =>
      split
      case isTrue micros =>
        rw [List.cons_append,
          read_fraction_places t _ (by decide) (show n / 1000 < 1000000 by omega) ends]
        show some ({ t with nanos := n / 1000 * 1000 }, _) = _
        rw [Nat.div_mul_cancel (Nat.dvd_of_mod_eq_zero micros)]
      case isFalse =>
        rw [List.cons_append, read_fraction_places t _ (by decide) h ends]
        show some ({ t with nanos := n * 1 }, _) = _
        rw [Nat.mul_one]

variable {t rest}

theorem readItems_cons {i : Item} {t' : Stamp} {s s' : List Char} {items : List Item}
    (h : i.read t s = some (t', s')) : readItems (i :: items) t s = readItems items t' s' := by
  rw [readItems, h]
  rfl

/-! ### The standard form -/

/-- The standard form of the numbers of a point in time. -/
def standardText (year month day hour minute second nanos : Nat) : List Char :=
  paddedDigits 4 year ++ '-' :: (paddedDigits 2 month ++ '-' :: (paddedDigits 2 day ++
    'T' :: (paddedDigits 2 hour ++ ':' :: (paddedDigits 2 minute ++ ':' :: (paddedDigits 2 second ++
      (fractionText nanos ++ ['Z']))))))

theorem readForm_standardText {year month day hour minute second nanos : Nat} (hyear : year < 10000)
    (hmonth : month < 100) (hday : day < 100) (hhour : hour < 100) (hminute : minute < 100)
    (hsecond : second < 100) (hnanos : nanos < 1000000000) :
    readForm standardForm (standardText year month day hour minute second nanos) =
      some ⟨year, month, day, hour, minute, second, nanos, 0⟩ := by
  have two : 0 < 2 := by decide
  have items : readItems standardForm {} (standardText year month day hour minute second nanos) =
      some (⟨year, month, day, hour, minute, second, nanos, 0⟩, []) := by
    unfold standardForm standardText
    rw [readItems_cons (read_exact _ _ .year (by decide) hyear), readItems_cons (read_mark _ _ '-'),
      readItems_cons (read_exact _ _ .month two hmonth), readItems_cons (read_mark _ _ '-'),
      readItems_cons (read_exact _ _ .day two hday), readItems_cons (i := .separator) rfl,
      readItems_cons (read_exact _ _ .hour two hhour), readItems_cons (read_mark _ _ ':'),
      readItems_cons (read_exact _ _ .minute two hminute), readItems_cons (read_mark _ _ ':'),
      readItems_cons (read_exact _ _ .second two hsecond),
      readItems_cons (read_fractionText _ _ hnanos rfl), readItems_cons (i := .offset) rfl]
    rfl
  rw [readForm, items]

/-- A text in the standard form begins with a digit and ends with `Z`. -/
theorem exists_standardText (year month day hour minute second nanos : Nat) :
    ∃ c s, standardText year month day hour minute second nanos = c :: s ++ ['Z'] ∧
      c.isDigit = true := by
  obtain ⟨c, ds, digits, digit⟩ := exists_paddedDigits 4 year
  refine ⟨c, ds ++ '-' :: (paddedDigits 2 month ++ '-' :: (paddedDigits 2 day ++
    'T' :: (paddedDigits 2 hour ++ ':' :: (paddedDigits 2 minute ++ ':' :: (paddedDigits 2 second ++
      fractionText nanos))))), ?_, digit⟩
  simp only [standardText, digits, List.append_assoc, List.cons_append]

/-! ### Writing and reading -/

/-- The text of a point in time whose year has four digits is in the standard form. -/
theorem instantText_eq {t : Instant} {year : Int} {month day hour minute second : Nat}
    (date : t.civil = (year, month, day)) (clock : t.clock = (hour, minute, second))
    (hyear : 0 ≤ year ∧ year ≤ 9999) :
    instantText t =
      String.ofList (standardText year.natAbs month day hour minute second t.fraction) := by
  rw [instantText, date, clock]
  simp only [civilText, yearText, hyear, standardText, and_self, if_true, List.append_assoc,
    List.cons_append]

/-- The parts of the time of day make up the second and its nanoseconds again; the second 60 stands
    for the leap second. -/
theorem clock_spec {t : Instant} {hour minute second : Nat} (h : t.clock = (hour, minute, second)) :
    hour < 24 ∧ minute < 60 ∧ second ≤ 60 ∧
      t.seconds / 86400 * 86400 + hour * 3600 + minute * 60 + (min second 59 : Nat) = t.seconds ∧
      t.fraction + (if second = 60 then 1000000000 else 0) = t.nanos := by
  obtain ⟨hhour, hminute, hsecond⟩ : (t.seconds % 86400).toNat / 3600 = hour ∧
      (t.seconds % 86400).toNat / 60 % 60 = minute ∧
      (t.seconds % 86400).toNat % 60 + (if 1000000000 ≤ t.nanos then 1 else 0) = second := by
    simpa only [Instant.clock, Prod.mk.injEq] using h
  obtain ⟨s, hs⟩ : ∃ s : Nat, (s : Int) = t.seconds % 86400 :=
    ⟨(t.seconds % 86400).toNat, Int.toNat_of_nonneg (by omega)⟩
  rw [← hs, Int.toNat_natCast] at hhour hminute hsecond
  have bound : s < 86400 := by omega
  have nanos := t.nanos_lt
  rw [Instant.fraction]
  by_cases leap : 1000000000 ≤ t.nanos
  · have last : s % 60 = 59 := by
      have ends := t.leap leap
      omega
    rw [if_pos leap, last] at hsecond
    subst hsecond
    refine ⟨by omega, by omega, by omega, ?_, ?_⟩
    · rw [show min (59 + 1) 59 = 59 from rfl]
      omega
    · rw [if_pos rfl]
      omega
  · rw [if_neg leap] at hsecond
    have second_lt : second < 60 := by omega
    refine ⟨by omega, by omega, by omega, ?_, ?_⟩
    · rw [Nat.min_eq_left (by omega)]
      omega
    · rw [if_neg (by omega)]
      omega

/-- A point in time is in a year of the calendar. -/
theorem civil_year_range {t : Instant} {year : Int} {month day : Nat}
    (date : t.civil = (year, month, day)) : -262143 ≤ year ∧ year ≤ 262142 := by
  obtain ⟨months, days, counted⟩ := Date.civil_spec date
  have within := Date.newYear_le_countDays year months
    ⟨days.1, days.2.trans (daysInMonth_le year month)⟩
  have span := t.seconds_range
  constructor
  · by_contra below
    have early := Date.newYear_le (show year + 1 ≤ -262143 by omega)
    rw [show Date.newYear (-262143) = -96465292 from rfl] at early
    omega
  · by_contra above
    have late := Date.newYear_le (show 262143 ≤ year by omega)
    rw [show Date.newYear 262143 = 95026237 from rfl] at late
    omega

/-- The numbers that are written name the point in time. -/
theorem instant?_civil {t : Instant} {year : Int} {month day hour minute second : Nat}
    (date : t.civil = (year, month, day)) (clock : t.clock = (hour, minute, second)) :
    Stamp.instant? ⟨year, month, day, hour, minute, second, t.fraction, 0⟩ = some t := by
  obtain ⟨months, days, counted⟩ := Date.civil_spec date
  obtain ⟨hours, minutes, seconds, whole, nanos⟩ := clock_spec clock
  have years := civil_year_range date
  have found : Stamp.date? ⟨year, month, day, hour, minute, second, t.fraction, 0⟩ =
      some ⟨year, month, day, years, months, days⟩ := dif_pos ⟨years, months, days⟩
  have counted : Date.dayNumber ⟨year, month, day, years, months, days⟩ = t.seconds / 86400 :=
    counted
  rw [Stamp.instant?, found]
  show (if hour < 24 ∧ minute < 60 ∧ second ≤ 60 then _ else none) = _
  rw [if_pos ⟨hours, minutes, seconds⟩, counted, whole, nanos, Int.sub_zero]
  exact dif_pos ⟨t.seconds_range, t.nanos_lt, t.leap⟩

/-- The text that a point in time is written as is not blank, and is read as that point in time,
    leap seconds included. -/
theorem readTimestamp_instantText {t : Instant} (h : t.HasPlainYear) :
    blank (instantText t) = false ∧ readTimestamp (instantText t) = some t := by
  obtain ⟨year, month, day, date⟩ : ∃ y m d, t.civil = (y, m, d) := ⟨_, _, _, rfl⟩
  obtain ⟨hour, minute, second, clock⟩ : ∃ h m s, t.clock = (h, m, s) := ⟨_, _, _, rfl⟩
  have years : 0 ≤ year ∧ year ≤ 9999 := by rwa [Instant.HasPlainYear, date] at h
  have named := instant?_civil date clock
  obtain ⟨months, days, -⟩ := Date.civil_spec date
  obtain ⟨hours, minutes, seconds, -, -⟩ := clock_spec clock
  have day_lt := daysInMonth_le year month
  have year_lt : year.natAbs < 10000 := by omega
  have fraction_lt : t.fraction < 1000000000 := Nat.mod_lt _ (by decide)
  have read := readForm_standardText year_lt (show month < 100 by omega) (show day < 100 by omega)
    (show hour < 100 by omega) (show minute < 100 by omega) (show second < 100 by omega) fraction_lt
  rw [Int.natAbs_of_nonneg years.1] at read
  obtain ⟨c, s, chars, digit⟩ := exists_standardText year.natAbs month day hour minute second
    t.fraction
  rw [instantText_eq date clock years]
  constructor
  · rw [blank, String.toList_ofList, chars]
    show (isBlank c && _) = false
    rw [isBlank_of_isDigit digit, Bool.false_and]
  · have untouched : trimmed (standardText year.natAbs month day hour minute second t.fraction) =
        standardText year.natAbs month day hour minute second t.fraction := by
      rw [chars]
      exact trimmed_eq_self (isBlank_of_isDigit digit) (.append ⟨'Z', rfl, by decide⟩ (c :: s))
    rw [readTimestamp, String.toList_ofList, untouched]
    show List.findSome? _ (standardForm :: (localForms ++ [dateForm])) = _
    rw [List.findSome?_cons, read, Option.bind_some, named]

/-- A text as a bound: blank text means none, any other has to name a point in time. -/
theorem decodeBound_text (s : String) :
    Json.decodeBound (.text s) =
      if blank s then .ok none
      else (readTimestamp s).elim (.error (.notTimestamp (trim s))) (fun t => .ok (some t)) := by
  show (if blank s = true then (.ok none : Decoded (Option Instant)) else _) = _
  rcases readTimestamp s with _ | t
  · rfl
  · rfl

theorem decodeBound_text_eq_some_iff {s : String} {t : Instant} :
    Json.decodeBound (.text s) = .ok (some t) ↔ blank s = false ∧ readTimestamp s = some t := by
  rw [decodeBound_text]
  cases hs : blank s with
  | true => simp
  | false =>
    rcases readTimestamp s with _ | t'
    · simp
    · simp

/-- A bound that is written is read back. -/
theorem decodeBound_ofInstant {t : Instant} (h : t.HasPlainYear) :
    Json.decodeBound (Json.ofInstant t) = .ok (some t) :=
  decodeBound_text_eq_some_iff.2 (readTimestamp_instantText h)

end Calendar

end RecordSearch
