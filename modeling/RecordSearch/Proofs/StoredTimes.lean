import RecordSearch.Proofs.Timestamps

/-! Dates and points in time that are stored and read back.

    The stored form holds for every year of the calendar: a year that does not fit into four digits
    has a sign and as many digits as it takes. It is read loosely, with blanks around its pieces and
    fewer digits than are written, so each number has to end where something else stands.

        -0044-03-15            the year -44
        +12345-01-01           a year of five digits
        2016-12-31T23:59:60Z   a leap second -/

namespace RecordSearch

namespace Text

theorem trimLeft_cons {c : Char} (h : isBlank c = false) (s : List Char) :
    trimLeft (c :: s) = c :: s :=
  List.dropWhile_cons_of_neg (Bool.eq_false_iff.1 h)

theorem trimLeft_paddedDigits (width n : Nat) (rest : List Char) :
    trimLeft (paddedDigits width n ++ rest) = paddedDigits width n ++ rest := by
  obtain ⟨c, ds, digits, digit⟩ := exists_paddedDigits width n
  rw [digits]
  exact trimLeft_cons (isBlank_of_isDigit digit) (ds ++ rest)

end Text

namespace Calendar

open Text

/-! ### Loose numbers -/

section

variable {width n : Nat} {rest : List Char}

theorem shortNumber_paddedDigits (hw : 0 < width) (h : n < tenTo width)
    (ends : ∀ c ∈ rest.head?, c.isDigit = false) :
    shortNumber width (paddedDigits width n ++ rest) = some (n, rest) := by
  have length := length_paddedDigits hw h
  have run : (paddedDigits width n ++ rest).takeWhile Char.isDigit = paddedDigits width n :=
    congrArg Prod.fst (leadingDigits_append_of_ends isDigit_paddedDigits ends)
  have whole : (paddedDigits width n).take width = paddedDigits width n :=
    List.take_of_length_le length.le
  simp only [shortNumber, run, whole, paddedDigits_ne_nil, if_false, digitsValue_paddedDigits,
    List.drop_left]

theorem longNumber_paddedDigits (width n : Nat) (ends : ∀ c ∈ rest.head?, c.isDigit = false) :
    longNumber (paddedDigits width n ++ rest) = some (n, rest) := by
  simp only [longNumber, leadingDigits_append_of_ends isDigit_paddedDigits ends,
    paddedDigits_ne_nil, if_false, digitsValue_paddedDigits]

/-- Without a sign, a year has only so many digits. -/
theorem looseYear_of_unsigned {s : List Char} (unsigned : ∀ c ∈ s.head?, c ≠ '+' ∧ c ≠ '-')
    (width : Nat) :
    looseYear width s = (shortNumber width s).map fun (n, rest) => (n, rest) := by
  unfold looseYear
  split
  · exact absurd rfl (unsigned '-' rfl).2
  · exact absurd rfl (unsigned '+' rfl).1
  · rfl

/-- A year is read up to the hyphen behind it. -/
theorem looseYear_yearText (year : Int) (rest : List Char) :
    looseYear 4 (yearText year ++ '-' :: rest) = some (year, '-' :: rest) := by
  have ends : ∀ c ∈ ('-' :: rest).head?, c.isDigit = false := by
    rintro _ ⟨⟩
    rfl
  have long := longNumber_paddedDigits 4 year.natAbs ends
  unfold yearText
  by_cases plain : 0 ≤ year ∧ year ≤ 9999
  · have back : (year.natAbs : Int) = year := by omega
    have four : year.natAbs < tenTo 4 := show year.natAbs < 10000 by omega
    have short := shortNumber_paddedDigits (by decide) four ends
    obtain ⟨c, ds, digits, digit⟩ := exists_paddedDigits 4 year.natAbs
    rw [digits, List.cons_append] at short
    have unsigned : ∀ d ∈ (c :: (ds ++ '-' :: rest)).head?, d ≠ '+' ∧ d ≠ '-' := by
      rintro _ ⟨⟩
      constructor <;> rintro rfl <;> cases digit
    rw [if_pos plain, digits, List.cons_append, looseYear_of_unsigned unsigned, short]
    simp only [Option.map_some, back]
  · rw [if_neg plain]
    by_cases negative : year < 0
    · have back : -(year.natAbs : Int) = year := by omega
      rw [if_pos negative, List.cons_append, looseYear, long]
      simp only [Option.map_some, back]
    · have back : (year.natAbs : Int) = year := by omega
      rw [if_neg negative, List.cons_append, looseYear, long]
      simp only [Option.map_some, back]

/-- A year has no blank in front, and a sign if it is not plain. -/
theorem exists_yearText (year : Int) :
    ∃ c ds, yearText year = c :: ds ∧ isBlank c = false ∧
      (¬ (0 ≤ year ∧ year ≤ 9999) → c.isDigit = false) := by
  unfold yearText
  split
  case isTrue plain =>
    obtain ⟨c, ds, digits, digit⟩ := exists_paddedDigits 4 year.natAbs
    exact ⟨c, ds, digits, isBlank_of_isDigit digit, fun far => absurd plain far⟩
  case isFalse =>
    split
    · exact ⟨'-', _, rfl, by decide, fun _ => rfl⟩
    · exact ⟨'+', _, rfl, by decide, fun _ => rfl⟩

theorem trimLeft_yearText (year : Int) (rest : List Char) :
    trimLeft (yearText year ++ rest) = yearText year ++ rest := by
  obtain ⟨c, ds, text, notBlank, -⟩ := exists_yearText year
  rw [text]
  exact trimLeft_cons notBlank (ds ++ rest)

end

/-! ### Items -/

section

variable (t : Stamp) {rest : List Char}

theorem read_loose_year (year : Int) (rest : List Char) :
    (Item.loose .year 4).read t (yearText year ++ '-' :: rest) =
      some ({ t with year }, '-' :: rest) := by
  rw [Item.read, trimLeft_yearText, looseYear_yearText]
  rfl

theorem read_loose (part : Part) {n : Nat} (other : part ≠ .year) (h : n < 100)
    (ends : ∀ c ∈ rest.head?, c.isDigit = false) :
    (Item.loose part 2).read t (paddedDigits 2 n ++ rest) = some (t.set part n, rest) := by
  rw [Item.read, trimLeft_paddedDigits, shortNumber_paddedDigits (by decide) h ends]
  · rfl
  · exact other

theorem read_blanks {c : Char} (h : isBlank c = false) (rest : List Char) :
    Item.blanks.read t (c :: rest) = some (t, c :: rest) := by
  rw [Item.read, trimLeft_cons h]

end

/-! ### Forms -/

/-- The items of a date take up the text of a date. -/
theorem readItems_civilText {month day : Nat} (year : Int) (hmonth : month < 100) (hday : day < 100)
    {rest : List Char} (ends : ∀ c ∈ rest.head?, c.isDigit = false) (items : List Item) :
    readItems (.loose .year 4 :: .blanks :: .mark '-' :: .loose .month 2 :: .blanks :: .mark '-' ::
        .loose .day 2 :: items) {} (civilText year month day ++ rest) =
      readItems items { year, month, day } rest := by
  have text : civilText year month day ++ rest =
      yearText year ++ '-' :: (paddedDigits 2 month ++ '-' :: (paddedDigits 2 day ++ rest)) := by
    simp [civilText]
  have hyphen : isBlank '-' = false := by decide
  rw [text, readItems_cons (read_loose_year _ year _), readItems_cons (read_blanks _ hyphen _),
    readItems_cons (read_mark _ _ '-'),
    readItems_cons (read_loose _ .month (by decide) hmonth (ends_cons rfl _)),
    readItems_cons (read_blanks _ hyphen _), readItems_cons (read_mark _ _ '-'),
    readItems_cons (read_loose _ .day (by decide) hday ends)]
  rfl

/-- A date is read back from the text that is stored of it. -/
theorem readStoredDate_dateText (d : Date) : readStoredDate (dateText d) = some d := by
  obtain ⟨year, month, day, years, months, days⟩ := d
  have day_le := daysInMonth_le year month
  have nothing : ∀ c ∈ ([] : List Char).head?, c.isDigit = false := nofun
  have items := readItems_civilText year (show month < 100 by omega) (show day < 100 by omega)
    nothing [.blanks]
  rw [List.append_nil] at items
  have form : readForm storedDateForm (civilText year month day) = some { year, month, day } := by
    rw [readForm, storedDateForm, items]
    rfl
  rw [readStoredDate, dateText, String.toList_ofList, form]
  exact dif_pos ⟨years, months, days⟩

/-- The stored form of the numbers of a point in time. -/
def storedText (year : Int) (month day hour minute second nanos : Nat) : List Char :=
  civilText year month day ++ 'T' :: (paddedDigits 2 hour ++ ':' :: (paddedDigits 2 minute ++
    ':' :: (paddedDigits 2 second ++ (fractionText nanos ++ ['Z']))))

theorem instantText_eq_storedText {t : Instant} {year : Int} {month day hour minute second : Nat}
    (date : t.civil = (year, month, day)) (clock : t.clock = (hour, minute, second)) :
    instantText t =
      String.ofList (storedText year month day hour minute second t.fraction) := by
  rw [instantText, date, clock]
  simp only [storedText, List.append_assoc, List.cons_append]

theorem ends_fractionText (nanos : Nat) :
    ∀ c ∈ (fractionText nanos ++ ['Z']).head?, c.isDigit = false := by
  unfold fractionText
  repeat' split
  all_goals exact ends_cons rfl _

theorem readForm_storedText {month day hour minute second nanos : Nat} (year : Int)
    (hmonth : month < 100) (hday : day < 100) (hhour : hour < 100) (hminute : minute < 100)
    (hsecond : second < 100) (hnanos : nanos < 1000000000) :
    readForm storedForm (storedText year month day hour minute second nanos) =
      some ⟨year, month, day, hour, minute, second, nanos, 0⟩ := by
  have colon : isBlank ':' = false := by decide
  have zulu : isBlank 'Z' = false := by decide
  have items : readItems storedForm {} (storedText year month day hour minute second nanos) =
      some (⟨year, month, day, hour, minute, second, nanos, 0⟩, []) := by
    unfold storedForm storedText
    rw [readItems_civilText year hmonth hday (ends_cons rfl _),
      readItems_cons (i := .separator) rfl,
      readItems_cons (read_loose _ .hour (by decide) hhour (ends_cons rfl _)),
      readItems_cons (read_blanks _ colon _), readItems_cons (read_mark _ _ ':'),
      readItems_cons (read_loose _ .minute (by decide) hminute (ends_cons rfl _)),
      readItems_cons (read_blanks _ colon _), readItems_cons (read_mark _ _ ':'),
      readItems_cons
        (read_loose _ .second (by decide) hsecond (ends_fractionText nanos)),
      readItems_cons (read_fractionText _ _ hnanos rfl), readItems_cons (read_blanks _ zulu _),
      readItems_cons (i := .zone) rfl]
    rfl
  rw [readForm, items]

/-- A point in time is read back from the text that is stored of it, leap seconds and years of any
    sign included. -/
theorem readStored_instantText (t : Instant) : readStored (instantText t) = some t := by
  obtain ⟨year, month, day, date⟩ : ∃ y m d, t.civil = (y, m, d) := ⟨_, _, _, rfl⟩
  obtain ⟨hour, minute, second, clock⟩ : ∃ h m s, t.clock = (h, m, s) := ⟨_, _, _, rfl⟩
  obtain ⟨months, days, -⟩ := Date.civil_spec date
  obtain ⟨hours, minutes, seconds, -, -⟩ := clock_spec clock
  have day_le := daysInMonth_le year month
  have fraction_lt : t.fraction < 1000000000 := Nat.mod_lt _ (by decide)
  have form := readForm_storedText year (show month < 100 by omega) (show day < 100 by omega)
    (show hour < 100 by omega) (show minute < 100 by omega) (show second < 100 by omega) fraction_lt
  rw [readStored, instantText_eq_storedText date clock, String.toList_ofList, form]
  exact instant?_civil date clock

end Calendar

end RecordSearch
