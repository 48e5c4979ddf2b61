import RecordSearch.Proofs.DayCount
import RecordSearch.Proofs.Entries
import RecordSearch.Proofs.StoredTimes

/-! Written times and the points in time that they name.

    A date is written with four, two and two digits, a time of day with two digits each for hour,
    minute and second and, behind a point, up to nine for a part of a second.

        2024-03-15T12:00:00.5Z    2024-03-15T12:00:00.5    2024-03-15T12:00    2024-03-15
        2024-03-15T14:00:00.5+02:00    2024-03-15 12:00:00.5    2024-03-15 12:00

    All of these are read by the calendar: the days up to the date, the seconds of the day, less the
    offset. The forms are tried in order, so that for each text it has to be shown where the forms
    before its own get stuck. A text with a date that does not exist is refused by all of them, since
    whichever takes the text up has taken its date up. -/

namespace RecordSearch

/-- There is such a date in the calendar. -/
def Date.Exists (year : Int) (month day : Nat) : Prop :=
  (1 ≤ month ∧ month ≤ 12) ∧ 1 ≤ day ∧ day ≤ daysInMonth year month

instance (year : Int) (month day : Nat) : Decidable (Date.Exists year month day) :=
  inferInstanceAs (Decidable (_ ∧ _))

namespace Text

/-- A number that two digits cannot hold is written with more than two. -/
theorem exists_paddedDigits_of_le {n : Nat} (h : 100 ≤ n) :
    ∃ a b ds, paddedDigits 2 n = a :: b :: ds ∧ a.isDigit = true ∧ b.isDigit = true ∧ ds ≠ [] ∧
      ∀ c ∈ ds, c.isDigit = true := by
  have long : ¬ (digitsOf n).length ≤ 2 := fun short =>
    Nat.not_lt.2 h ((Nat.length_toDigits_le_iff (by decide) (by decide)).1 short)
  have length : 2 < (paddedDigits 2 n).length := by
    rw [paddedDigits, List.length_append]
    omega
  have digits : ∀ c ∈ paddedDigits 2 n, c.isDigit = true := isDigit_paddedDigits
  rcases hs : paddedDigits 2 n with _ | ⟨a, _ | ⟨b, _ | ⟨c, ds⟩⟩⟩
  · simp [hs] at length
  · simp [hs] at length
  · simp [hs] at length
  · rw [hs] at digits
    simp only [List.forall_mem_cons] at digits
    obtain ⟨ha, hb, hds⟩ := digits
    exact ⟨a, b, c :: ds, rfl, ha, hb, by simp, by simpa using hds⟩

end Text

namespace Calendar

open Text

/-! ### Times of day -/

/-- A part of a second, in one to nine places. -/
structure Fraction where
  places : Nat
  digits : Nat
  places_range : 1 ≤ places ∧ places ≤ 9
  digits_lt : digits < tenTo places

/-- The nanoseconds of a part of a second. -/
def Fraction.nanos (f : Fraction) : Nat := f.digits * tenTo (9 - f.places)

theorem Fraction.nanos_lt (f : Fraction) : f.nanos < 1000000000 := by
  have whole : tenTo f.places * tenTo (9 - f.places) = 1000000000 := by
    rw [← tenTo_add, Nat.add_sub_cancel' f.places_range.2]
    rfl
  rw [nanos, ← whole]
  exact Nat.mul_lt_mul_of_pos_right f.digits_lt (tenTo_pos _)

/-- A time of day. -/
structure TimeOfDay where
  hour : Nat
  minute : Nat
  second : Nat
  fraction : Option Fraction
  hour_lt : hour < 24
  minute_lt : minute < 60
  second_lt : second < 60

namespace TimeOfDay

/-- The seconds since midnight. -/
def seconds (t : TimeOfDay) : Nat := 3600 * t.hour + 60 * t.minute + t.second

/-- The nanoseconds within the second. -/
def nanos (t : TimeOfDay) : Nat := (t.fraction.map Fraction.nanos).getD 0

/-- Hour and minute. -/
def toMinute (t : TimeOfDay) : List Char := paddedDigits 2 t.hour ++ ':' :: paddedDigits 2 t.minute

/-- A point and the digits of the part of a second, if there is one. -/
def point (t : TimeOfDay) : List Char :=
  match t.fraction with
  | none => []
  | some f => '.' :: paddedDigits f.places f.digits

/-- What stands behind the minute. -/
def toSecond (t : TimeOfDay) : List Char := ':' :: (paddedDigits 2 t.second ++ t.point)

theorem nanos_of_whole (t : TimeOfDay) (h : t.fraction = none) : t.nanos = 0 := by
  rw [nanos, h]
  rfl

theorem nanos_lt (t : TimeOfDay) : t.nanos < 1000000000 := by
  rw [nanos]
  rcases t.fraction with _ | f
  · decide
  · exact f.nanos_lt

end TimeOfDay

/-! ### Texts -/

/-- The digits of a date. -/
def dateDigits (year month day : Nat) : List Char :=
  paddedDigits 4 year ++ '-' :: (paddedDigits 2 month ++ '-' :: paddedDigits 2 day)

/-- What stands behind a date to give it a time of day, and the seconds that this is ahead of UTC.
    The second can be left out if it is zero, and all of the time if it is midnight. -/
inductive Tail (t : TimeOfDay) : Int → List Char → Prop where
  | zulu : Tail t 0 ('T' :: (t.toMinute ++ (t.toSecond ++ ['Z'])))
  | ahead {hours minutes : Nat} : hours < 24 → minutes < 60 →
    Tail t (3600 * hours + 60 * minutes : Nat) ('T' :: (t.toMinute ++ (t.toSecond ++
      '+' :: (paddedDigits 2 hours ++ ':' :: paddedDigits 2 minutes))))
  | behind {hours minutes : Nat} : hours < 24 → minutes < 60 →
    Tail t (-((3600 * hours + 60 * minutes : Nat) : Int)) ('T' :: (t.toMinute ++ (t.toSecond ++
      '-' :: (paddedDigits 2 hours ++ ':' :: paddedDigits 2 minutes))))
  | joined : Tail t 0 ('T' :: (t.toMinute ++ t.toSecond))
  | spaced : Tail t 0 (' ' :: (t.toMinute ++ t.toSecond))
  | joinedMinute : t.second = 0 → t.fraction = none → Tail t 0 ('T' :: t.toMinute)
  | spacedMinute : t.second = 0 → t.fraction = none → Tail t 0 (' ' :: t.toMinute)
  | midnight : t.seconds = 0 → t.fraction = none → Tail t 0 []

/-- The text goes on with nothing that a number or its part of a second could take up. -/
def Stops (rest : List Char) : Prop := ∀ c ∈ rest.head?, c.isDigit = false ∧ c ≠ '.' ∧ c ≠ ':'

theorem stops_nil : Stops [] := nofun

theorem stops_cons {c : Char} (h : c.isDigit = false ∧ c ≠ '.' ∧ c ≠ ':') (rest : List Char) :
    Stops (c :: rest) := by
  rintro _ ⟨⟩
  exact h

theorem Stops.ends {rest : List Char} (h : Stops rest) : ∀ c ∈ rest.head?, c.isDigit = false :=
  fun c hc => (h c hc).1

theorem Tail.stops {t : TimeOfDay} {offset : Int} {rest : List Char} (h : Tail t offset rest) :
    Stops rest := by
  cases h with
  | midnight => exact stops_nil
  | _ => exact stops_cons (by decide) _

/-! ### Numbers in a form -/

/-- Items for numbers, exact or loose: they take up the digits of a number that fits its places, and
    of a larger one they leave some digits. -/
structure Numeral (item : Part → Nat → Item) : Prop where
  year : ∀ (t : Stamp) (rest : List Char) {n : Nat}, n < 10000 →
    (item .year 4).read t (paddedDigits 4 n ++ '-' :: rest) = some ({ t with year := n }, '-' :: rest)
  fits : ∀ (t : Stamp) {rest : List Char} (part : Part) {n : Nat}, part ≠ .year → n < 100 →
    (∀ c ∈ rest.head?, c.isDigit = false) →
    (item part 2).read t (paddedDigits 2 n ++ rest) = some (t.set part n, rest)
  exceeds : ∀ (t : Stamp) (rest : List Char) (part : Part) {n : Nat}, part ≠ .year → 100 ≤ n →
    ∃ t' ds, (item part 2).read t (paddedDigits 2 n ++ rest) = some (t', ds ++ rest) ∧ ds ≠ [] ∧
      ∀ c ∈ ds, c.isDigit = true

theorem numeral_exact : Numeral .exact where
  year t rest _ h := read_exact t _ .year (by decide) h
  fits t rest part _ _ h _ := read_exact t rest part (by decide) h
  exceeds t rest part n _ h := by
    obtain ⟨a, b, ds, written, ha, hb, more, digits⟩ := exists_paddedDigits_of_le h
    refine ⟨t.set part (digitsValue [a, b]), ds, ?_, more, digits⟩
    rw [written]
    simp [Item.read, exactNumber, ha, hb]

theorem numeral_loose : Numeral .loose where
  year t rest n h := by
    have plain : yearText n = paddedDigits 4 n := by
      rw [yearText, if_pos (by omega), Int.natAbs_natCast]
    rw [← plain]
    exact read_loose_year t n rest
  fits t rest part _ other h ends := read_loose t part other h ends
  exceeds t rest part n other h := by
    obtain ⟨a, b, ds, written, ha, hb, more, digits⟩ := exists_paddedDigits_of_le h
    refine ⟨t.set part (digitsValue [a, b]), ds, ?_, more, digits⟩
    rw [Item.read, trimLeft_paddedDigits, written]
    · simp [shortNumber, ha, hb]
    · exact other

/-! ### Dates in a form -/

/-- A form that begins with a date. -/
def datedForm (item : Part → Nat → Item) (items : List Item) : List Item :=
  item .year 4 :: .mark '-' :: item .month 2 :: .mark '-' :: item .day 2 :: items

section

variable {item : Part → Nat → Item} (numeral : Numeral item) {items : List Item} {year month day : Nat}
  (hyear : year < 10000) {rest : List Char} (stops : Stops rest)

include numeral hyear

/-- The items of a date take up its digits. -/
theorem readItems_datedForm (hmonth : month < 100) (hday : day < 100)
    (ends : ∀ c ∈ rest.head?, c.isDigit = false) :
    readItems (datedForm item items) {} (dateDigits year month day ++ rest) =
      readItems items { year, month, day } rest := by
  have text : dateDigits year month day ++ rest = paddedDigits 4 year ++
      '-' :: (paddedDigits 2 month ++ '-' :: (paddedDigits 2 day ++ rest)) := by
    simp [dateDigits]
  rw [text, datedForm, readItems_cons (numeral.year _ _ hyear), readItems_cons (read_mark _ _ '-'),
    readItems_cons (numeral.fits _ .month (by decide) hmonth (ends_cons rfl _)),
    readItems_cons (read_mark _ _ '-'), readItems_cons (numeral.fits _ .day (by decide) hday ends)]
  rfl

/-- Digits of the month or the day that are left over stop the items of a date. -/
theorem readItems_datedForm_of_month (hmonth : 100 ≤ month) :
    readItems (datedForm item items) {} (dateDigits year month day ++ rest) = none := by
  have text : dateDigits year month day ++ rest = paddedDigits 4 year ++
      '-' :: (paddedDigits 2 month ++ ('-' :: paddedDigits 2 day ++ rest)) := by
    simp [dateDigits]
  obtain ⟨t', ds, read, more, digits⟩ := numeral.exceeds { year := year }
    ('-' :: paddedDigits 2 day ++ rest) .month (by decide) hmonth
  obtain ⟨c, ds, rfl⟩ := List.exists_cons_of_ne_nil more
  have other : c ≠ '-' := by
    rintro rfl
    exact absurd (digits '-' List.mem_cons_self) (by decide)
  rw [text, datedForm, readItems_cons (numeral.year _ _ hyear), readItems_cons (read_mark _ _ '-'),
    readItems_cons read]
  exact congrArg (Option.bind · _) (if_neg other)

variable (items) (rest) in
theorem readItems_datedForm_of_day (hmonth : month < 100) (hday : 100 ≤ day) :
    ∃ t ds, readItems (datedForm item items) {} (dateDigits year month day ++ rest) =
      readItems items t (ds ++ rest) ∧ ds ≠ [] ∧ ∀ c ∈ ds, c.isDigit = true := by
  have text : dateDigits year month day ++ rest = paddedDigits 4 year ++
      '-' :: (paddedDigits 2 month ++ '-' :: (paddedDigits 2 day ++ rest)) := by
    simp [dateDigits]
  obtain ⟨t, ds, read, more, digits⟩ := numeral.exceeds
    (Stamp.set { year := year } .month month) rest .day (by decide) hday
  refine ⟨t, ds, ?_, more, digits⟩
  rw [text, datedForm, readItems_cons (numeral.year _ _ hyear), readItems_cons (read_mark _ _ '-'),
    readItems_cons (numeral.fits _ .month (by decide) hmonth (ends_cons rfl _)),
    readItems_cons (read_mark _ _ '-'), readItems_cons read]

end

/-! ### What an item sets -/

/-- Of the numbers read so far, an item sets its own at most. -/
def Item.Sets (t t' : Stamp) : Item → Prop
  | .loose .year _ => ∃ n, t' = { t with year := n }
  | .exact part _ | .loose part _ => ∃ n, t' = t.set part n
  | .mark _ | .separator | .blanks => t' = t
  | .fraction => ∃ n, t' = { t with nanos := n }
  | .offset | .zone => ∃ n, t' = { t with offset := n }

theorem Item.sets_of_read {i : Item} {t t' : Stamp} {s s' : List Char}
    (read : i.read t s = some (t', s')) : i.Sets t t' := by
  have set_of_map {α : Type} {f : α → Stamp} {number : Option (α × List Char)}
      (h : number.map (fun (n, rest) => (f n, rest)) = some (t', s')) : ∃ n, t' = f n := by
    obtain ⟨⟨n, rest⟩, -, same⟩ := Option.map_eq_some_iff.1 h
    cases same
    exact ⟨n, rfl⟩
  cases i with
  | exact part width => exact set_of_map read
  | loose part width => cases part with | _ => exact set_of_map read
  | mark c =>
    rcases s with _ | ⟨d, s⟩
    · cases read
    · obtain ⟨-, same⟩ := Option.ite_none_right_eq_some.1 read
      cases same
      rfl
  | separator =>
    rcases s with _ | ⟨d, s⟩
    · cases read
    · obtain ⟨-, same⟩ := Option.ite_none_right_eq_some.1 read
      cases same
      rfl
  | blanks =>
    cases read
    rfl
  | fraction =>
    simp only [Item.read] at read
    split at read
    · obtain ⟨-, same⟩ := Option.ite_none_left_eq_some.1 read
      cases same
      exact ⟨_, rfl⟩
    · cases read
      exact ⟨t.nanos, rfl⟩
  | offset => exact set_of_map read
  | zone =>
    simp only [Item.read] at read
    split at read
    · cases read
      exact ⟨0, rfl⟩
    · exact set_of_map read

/-- What no item changes, reading them all does not change. -/
theorem keeps_of_readItems {α : Type} {f : Stamp → α} {items : List Item}
    (keeps : ∀ i ∈ items, ∀ t t', i.Sets t t' → f t' = f t) {t t' : Stamp} {s s' : List Char}
    (read : readItems items t s = some (t', s')) : f t' = f t := by
  induction items generalizing t s with
  | nil =>
    cases read
    rfl
  | cons i items ih =>
    rw [List.forall_mem_cons] at keeps
    obtain ⟨⟨u, rest⟩, first, others⟩ := Option.bind_eq_some_iff.1 read
    exact (ih keeps.2 others).trans (keeps.1 t u (Item.sets_of_read first))

/-! ### Items behind a date -/

/-- The item sets no part of the date. -/
def Item.Dateless : Item → Prop
  | .exact part _ | .loose part _ => part ≠ .year ∧ part ≠ .month ∧ part ≠ .day
  | _ => True

instance : DecidablePred Item.Dateless
  | .exact .. | .loose .. => inferInstanceAs (Decidable (_ ∧ _))
  | .mark _ | .separator | .blanks | .fraction | .offset | .zone => .isTrue trivial

theorem date?_set {part : Part} (h : part ≠ .year ∧ part ≠ .month ∧ part ≠ .day) (t : Stamp)
    (n : Nat) : (t.set part n).date? = t.date? := by
  obtain ⟨year, month, day⟩ := h
  cases part with
  | year => exact absurd rfl year
  | month => exact absurd rfl month
  | day => exact absurd rfl day
  | hour => rfl
  | minute => rfl
  | second => rfl

theorem date?_of_sets {i : Item} (h : i.Dateless) {t t' : Stamp} (sets : i.Sets t t') :
    t'.date? = t.date? := by
  cases i with
  | exact part width =>
    obtain ⟨n, rfl⟩ := sets
    exact date?_set h t n
  | loose part width =>
    rw [Item.Sets] at sets
    · obtain ⟨n, rfl⟩ := sets
      exact date?_set h t n
    · exact h.1
  | mark | separator | blanks =>
    obtain rfl : t' = t := sets
    rfl
  | fraction | offset | zone =>
    obtain ⟨n, rfl⟩ := sets
    rfl

theorem date?_of_readItems {items : List Item} (h : ∀ i ∈ items, i.Dateless) {t t' : Stamp}
    {s s' : List Char} (read : readItems items t s = some (t', s')) : t'.date? = t.date? :=
  keeps_of_readItems (fun i member _ _ => date?_of_sets (h i member)) read

/-- Items behind a date: they set no part of it, and do not take up a text that begins with digits,
    which the day has left over. -/
structure BehindDate (items : List Item) : Prop where
  dateless : ∀ i ∈ items, i.Dateless
  stuck : ∀ (t t' : Stamp) {ds rest : List Char}, ds ≠ [] → (∀ c ∈ ds, c.isDigit = true) →
    Stops rest → readItems items t (ds ++ rest) ≠ some (t', [])

theorem behindDate_nil : BehindDate [] where
  dateless := nofun
  stuck t t' ds rest more _ _ read := by
    cases ds with
    | nil => exact more rfl
    | cons c ds => cases read

/-- An item that takes up one character, which is no digit, gets stuck at digits. -/
theorem behindDate_cons {i : Item} {items : List Item} (h : ∀ i' ∈ i :: items, i'.Dateless)
    (refuses : ∀ (t : Stamp) (c : Char) (s : List Char), c.isDigit = true → i.read t (c :: s) = none) :
    BehindDate (i :: items) where
  dateless := h
  stuck t t' ds rest more digits _ read := by
    obtain ⟨c, ds, rfl⟩ := List.exists_cons_of_ne_nil more
    rw [List.cons_append, readItems, refuses t c _ (digits c List.mem_cons_self)] at read
    cases read

/-- The form goes on with an hour and a colon, but where digits of the day are left over, no colon
    stands behind the two that an hour takes up. -/
theorem behindDate_blanks {items : List Item} (h : ∀ i ∈ items, i.Dateless) :
    BehindDate (.blanks :: .loose .hour 2 :: .mark ':' :: items) where
  dateless := by
    simp only [List.forall_mem_cons]
    exact ⟨trivial, by decide, trivial, h⟩
  stuck t t' ds rest more digits stops read := by
    have run : (ds ++ rest).takeWhile Char.isDigit = ds :=
      congrArg Prod.fst (leadingDigits_append_of_ends digits stops.ends)
    have whole : trimLeft (ds ++ rest) = ds ++ rest := by
      obtain ⟨c, ds, rfl⟩ := List.exists_cons_of_ne_nil more
      exact trimLeft_cons (isBlank_of_isDigit (digits c List.mem_cons_self)) _
    have hour : (Item.loose .hour 2).read t (ds ++ rest) =
        some (t.set .hour (digitsValue (ds.take 2)), ds.drop 2 ++ rest) := by
      simp [Item.read, shortNumber, whole, run, more, List.drop_append]
    have blanks : Item.blanks.read t (ds ++ rest) = some (t, ds ++ rest) := by
      rw [Item.read, whole]
    rw [readItems_cons blanks, readItems_cons hour] at read
    have noColon : ∀ c ∈ (ds.drop 2 ++ rest).head?, c ≠ ':' := by
      intro c hc
      rw [List.head?_append, Option.mem_def, Option.or_eq_some_iff] at hc
      rcases hc with hc | ⟨-, hc⟩
      · rintro rfl
        have digit := digits ':' (List.mem_of_mem_drop (List.mem_of_head? hc))
        exact absurd digit (by decide)
      · exact (stops c hc).2.2
    rcases left : ds.drop 2 ++ rest with _ | ⟨c, s⟩
    · rw [left] at read
      cases read
    · rw [left] at read noColon
      have refused : (Item.mark ':').read (t.set .hour (digitsValue (ds.take 2))) (c :: s) = none :=
        if_neg (noColon c rfl)
      rw [readItems, refused] at read
      cases read

/-! ### The forms -/

/-- What the standard form has behind the date. -/
def standardTime : List Item :=
  [.separator, .exact .hour 2, .mark ':', .exact .minute 2, .mark ':', .exact .second 2, .fraction,
   .offset]

/-- What the loose forms have behind the date. -/
def looseTimes : List (List Item) :=
  [.mark 'T' :: timeForm, .blanks :: timeForm, .mark 'T' :: shortTimeForm,
   .blanks :: shortTimeForm, []]

/-- The point in time that a form reads. -/
def attempt (s : List Char) (form : List Item) : Option Instant :=
  (readForm form s).bind Stamp.instant?

/-- All forms begin with a date; they are tried in order. -/
theorem readTimestamp_eq (s : List Char) :
    readTimestamp (String.ofList s) =
      (datedForm .exact standardTime :: looseTimes.map (datedForm .loose)).findSome?
        (attempt (trimmed s)) := by
  rw [readTimestamp, String.toList_ofList]
  rfl

theorem behindDate_standardTime : BehindDate standardTime := by
  refine behindDate_cons (by decide) fun t c s digit => if_neg ?_
  rintro (rfl | rfl | rfl)
  all_goals exact absurd digit (by decide)

theorem behindDate_looseTimes : ∀ items ∈ looseTimes, BehindDate items := by
  have marked {items : List Item} (h : ∀ i ∈ .mark 'T' :: items, i.Dateless) :
      BehindDate (.mark 'T' :: items) := by
    refine behindDate_cons h fun t c s digit => if_neg ?_
    rintro rfl
    exact absurd digit (by decide)
  simp only [looseTimes, List.forall_mem_cons]
  refine ⟨marked (by decide), behindDate_blanks (by decide), marked (by decide),
    behindDate_blanks (by decide), behindDate_nil, nofun⟩

theorem readItems_of_readForm {form : List Item} {s : List Char} {t : Stamp}
    (read : readForm form s = some t) : readItems form {} s = some (t, []) := by
  rw [readForm] at read
  split at read
  · cases read
    assumption
  · cases read

/-- Whichever form takes up a text that begins with a date has taken up this date. -/
theorem date?_of_readForm {item : Part → Nat → Item} (numeral : Numeral item) {items : List Item}
    (behind : BehindDate items) {year month day : Nat} (hyear : year < 10000) {rest : List Char}
    (stops : Stops rest) {t : Stamp}
    (read : readForm (datedForm item items) (dateDigits year month day ++ rest) = some t) :
    t.date? = Date.of? year month day := by
  have taken := readItems_of_readForm read
  rcases Nat.lt_or_ge month 100 with hmonth | hmonth
  · rcases Nat.lt_or_ge day 100 with hday | hday
    · rw [readItems_datedForm numeral hyear hmonth hday stops.ends] at taken
      exact date?_of_readItems behind.dateless taken
    · obtain ⟨u, ds, left, more, digits⟩ :=
        readItems_datedForm_of_day numeral items hyear rest hmonth hday
      exact absurd (left.symm.trans taken) (behind.stuck u t more digits stops)
  · rw [readItems_datedForm_of_month numeral hyear hmonth] at taken
    cases taken

/-- A text that begins with a date that does not exist is refused by every form. -/
theorem findSome?_attempt_of_not_exists {year month day : Nat} (hyear : year < 10000)
    {rest : List Char} (stops : Stops rest) (missing : ¬ Date.Exists year month day) :
    (datedForm .exact standardTime :: looseTimes.map (datedForm .loose)).findSome?
      (attempt (dateDigits year month day ++ rest)) = none := by
  have refused {item : Part → Nat → Item} (numeral : Numeral item) {items : List Item}
      (behind : BehindDate items) :
      attempt (dateDigits year month day ++ rest) (datedForm item items) = none := by
    rw [attempt, Option.bind_eq_none_iff]
    intro t read
    have none : t.date? = none := by
      rw [date?_of_readForm numeral behind hyear stops read]
      exact dif_neg fun h => missing h.2
    rw [Stamp.instant?, none]
    rfl
  rw [List.findSome?_eq_none_iff, List.forall_mem_cons, List.forall_mem_map]
  exact ⟨refused numeral_exact behindDate_standardTime,
    fun items member => refused numeral_loose (behindDate_looseTimes items member)⟩

/-! ### Times in a form -/

theorem read_point (time : TimeOfDay) {t : Stamp} (fresh : t.nanos = 0) {rest : List Char}
    (stops : Stops rest) :
    Item.fraction.read t (time.point ++ rest) = some ({ t with nanos := time.nanos }, rest) := by
  rw [TimeOfDay.point, TimeOfDay.nanos]
  cases time.fraction with
  | some f => exact read_fraction_places t rest f.places_range f.digits_lt stops.ends
  | none =>
    have nothing : Item.fraction.read t rest = some (t, rest) := by
      cases rest with
      | nil => rfl
      | cons c rest =>
        have noPoint : c ≠ '.' := (stops c rfl).2.1
        simp [Item.read, noPoint]
    rw [List.nil_append, nothing, Option.map_none, Option.getD_none, ← fresh]

section

variable {item : Part → Nat → Item} (numeral : Numeral item) (time : TimeOfDay) (items : List Item)
  (t : Stamp) {rest : List Char}

include numeral

theorem readItems_toMinute (ends : ∀ c ∈ rest.head?, c.isDigit = false) :
    readItems (item .hour 2 :: .mark ':' :: item .minute 2 :: items) t (time.toMinute ++ rest) =
      readItems items { t with hour := time.hour, minute := time.minute } rest := by
  have hour := time.hour_lt
  have minute := time.minute_lt
  rw [TimeOfDay.toMinute, List.append_assoc, List.cons_append,
    readItems_cons (numeral.fits _ .hour (by decide) (by omega) (ends_cons rfl _)),
    readItems_cons (read_mark _ _ ':'),
    readItems_cons (numeral.fits _ .minute (by decide) (by omega) ends)]
  rfl

/-- The items of a time of day take up its digits. -/
theorem readItems_time (fresh : t.nanos = 0) (stops : Stops rest) :
    readItems (item .hour 2 :: .mark ':' :: item .minute 2 :: .mark ':' :: item .second 2 ::
        .fraction :: items) t (time.toMinute ++ (time.toSecond ++ rest)) =
      readItems items
        { t with hour := time.hour, minute := time.minute, second := time.second,
                 nanos := time.nanos } rest := by
  have second := time.second_lt
  have ends : ∀ c ∈ (time.point ++ rest).head?, c.isDigit = false := by
    rw [TimeOfDay.point]
    cases time.fraction with
    | none => exact stops.ends
    | some f => exact ends_cons rfl _
  have kept : (Stamp.set { t with hour := time.hour, minute := time.minute } .second
    time.second).nanos = 0 := fresh
  rw [TimeOfDay.toSecond, List.cons_append, List.append_assoc,
    readItems_toMinute numeral time _ t (ends_cons rfl _), readItems_cons (read_mark _ _ ':'),
    readItems_cons (numeral.fits _ .second (by decide) (by omega) ends),
    readItems_cons (read_point time kept stops)]
  rfl

end

theorem read_blanks_space (time : TimeOfDay) (t : Stamp) (rest : List Char) :
    Item.blanks.read t (' ' :: (time.toMinute ++ rest)) = some (t, time.toMinute ++ rest) := by
  have whole : trimLeft (' ' :: (time.toMinute ++ rest)) = time.toMinute ++ rest := by
    show trimLeft (time.toMinute ++ rest) = _
    rw [TimeOfDay.toMinute, List.append_assoc]
    exact trimLeft_paddedDigits 2 time.hour _
  rw [Item.read, whole]

theorem hoursMinutes_paddedDigits {hours minutes : Nat} (hhours : hours < 24)
    (hminutes : minutes < 60) :
    hoursMinutes colon (paddedDigits 2 hours ++ ':' :: paddedDigits 2 minutes) =
      some (3600 * hours + 60 * minutes, []) := by
  have first : hours < tenTo 2 := Nat.lt_trans hhours (by decide)
  have second : minutes < tenTo 2 := Nat.lt_trans hminutes (by decide)
  have last := exactNumber_paddedDigits (by decide) second []
  rw [List.append_nil] at last
  rw [hoursMinutes, exactNumber_paddedDigits (by decide) first]
  simp [colon, last, hhours, hminutes, Nat.mul_comm]

/-! ### Points in time -/

/-- The years of four digits, in days. -/
theorem plainYear_iff {year : Int} {month day : Nat} (hmonth : 1 ≤ month ∧ month ≤ 12)
    (hday : 1 ≤ day ∧ day ≤ daysInMonth year month) :
    (0 ≤ year ∧ year ≤ 9999) ↔
      -719528 ≤ Date.countDays year month day ∧ Date.countDays year month day < 2932897 := by
  have within := Date.newYear_le_countDays year hmonth
    ⟨hday.1, hday.2.trans (daysInMonth_le year month)⟩
  have first : Date.newYear 0 = -719528 := rfl
  have last : Date.newYear 10000 = 2932897 := rfl
  constructor
  · rintro ⟨low, high⟩
    have next : year + 1 ≤ 10000 := by omega
    have early := Date.newYear_le low
    have late := Date.newYear_le next
    omega
  · rintro ⟨low, high⟩
    constructor
    · by_contra below
      have before : year + 1 ≤ 0 := by omega
      have early := Date.newYear_le before
      omega
    · by_contra above
      have after : 10000 ≤ year := by omega
      have late := Date.newYear_le after
      omega

/-- A date that exists, with a time of day and an offset of less than a day, names the point in time
    that the days and seconds make up. -/
theorem exists_instant? {year month day : Nat} (hyear : year < 10000)
    (there : Date.Exists year month day) (time : TimeOfDay) {offset : Int}
    (near : -86400 < offset ∧ offset < 86400) :
    ∃ t, Stamp.instant? ⟨year, month, day, time.hour, time.minute, time.second, time.nanos, offset⟩ =
        some t ∧
      t.seconds = 86400 * Date.daysSinceEpoch year month day + time.seconds - offset ∧
      t.nanos = time.nanos := by
  obtain ⟨hmonth, hday⟩ := there
  have years : -262143 ≤ (year : Int) ∧ (year : Int) ≤ 262142 := by omega
  have days := Date.countDays_eq_daysSinceEpoch year hmonth hday.1
  have within := (plainYear_iff hmonth hday).1 ⟨by omega, by omega⟩
  rw [days] at within
  have nanos := time.nanos_lt
  have hour := time.hour_lt
  have minute := time.minute_lt
  have second := time.second_lt
  obtain ⟨seconds, seconds_eq⟩ : ∃ seconds : Int, seconds =
    86400 * Date.daysSinceEpoch year month day + time.seconds - offset := ⟨_, rfl⟩
  rw [TimeOfDay.seconds] at seconds_eq
  have span : -8334601228800 ≤ seconds ∧ seconds ≤ 8210266876799 := by omega
  have small : time.nanos < 2000000000 := by omega
  have leap : 1000000000 ≤ time.nanos → seconds % 60 = 59 := by omega
  refine ⟨⟨seconds, time.nanos, span, small, leap⟩, ?_, seconds_eq, rfl⟩
  have found : Stamp.date?
      ⟨year, month, day, time.hour, time.minute, time.second, time.nanos, offset⟩ =
      some ⟨year, month, day, years, hmonth, hday⟩ := dif_pos ⟨years, hmonth, hday⟩
  have counted : Date.dayNumber ⟨year, month, day, years, hmonth, hday⟩ =
      Date.daysSinceEpoch year month day := days
  have sum : Date.daysSinceEpoch year month day * 86400 + time.hour * 3600 + time.minute * 60 +
      (min time.second 59 : Nat) - offset = seconds := by omega
  have noLeap : ¬ time.second = 60 := by omega
  rw [Stamp.instant?, found]
  show (if time.hour < 24 ∧ time.minute < 60 ∧ time.second ≤ 60 then _ else none) = _
  rw [if_pos ⟨hour, minute, second.le⟩, counted, sum, if_neg noLeap, Nat.add_zero]
  exact dif_pos ⟨span, small, leap⟩

/-! ### Texts in the forms -/

section

variable {year month day : Nat} (hyear : year < 10000) (hmonth : month < 100) (hday : day < 100)
  {item : Part → Nat → Item} (numeral : Numeral item) {items : List Item} {rest : List Char}
  (stops : Stops rest)

include hyear hmonth hday numeral stops

theorem attempt_of_read {t : Stamp}
    (read : readItems items { year, month, day } rest = some (t, [])) :
    attempt (dateDigits year month day ++ rest) (datedForm item items) = t.instant? := by
  rw [attempt, readForm, readItems_datedForm numeral hyear hmonth hday stops.ends, read]
  rfl

theorem attempt_of_stuck (stuck : readItems items { year, month, day } rest = none) :
    attempt (dateDigits year month day ++ rest) (datedForm item items) = none := by
  rw [attempt, readForm, readItems_datedForm numeral hyear hmonth hday stops.ends, stuck]
  rfl

end

section

variable (time : TimeOfDay) {t : Stamp}

/-- The standard form takes up a time of day and then asks for an offset. -/
theorem readItems_standardTime {c : Char} (between : c = 'T' ∨ c = ' ') (fresh : t.nanos = 0)
    {rest : List Char} (stops : Stops rest) :
    readItems standardTime t (c :: (time.toMinute ++ (time.toSecond ++ rest))) =
      readItems [.offset]
        { t with hour := time.hour, minute := time.minute, second := time.second,
                 nanos := time.nanos } rest := by
  have separated (s : List Char) : Item.separator.read t (c :: s) = some (t, s) :=
    if_pos (between.imp_right .inr)
  rw [standardTime, readItems_cons (separated _), readItems_time numeral_exact time _ t fresh stops]

theorem readItems_standardTime_toSecond {c : Char} (between : c = 'T' ∨ c = ' ')
    (fresh : t.nanos = 0) :
    readItems standardTime t (c :: (time.toMinute ++ time.toSecond)) = none := by
  have taken := readItems_standardTime time between fresh stops_nil
  rw [List.append_nil] at taken
  exact taken

theorem readItems_standardTime_toMinute {c : Char} (between : c = 'T' ∨ c = ' ') :
    readItems standardTime t (c :: time.toMinute) = none := by
  have separated (s : List Char) : Item.separator.read t (c :: s) = some (t, s) :=
    if_pos (between.imp_right .inr)
  have taken := readItems_toMinute numeral_exact time
    [.mark ':', .exact .second 2, .fraction, .offset] t stops_nil.ends
  rw [List.append_nil] at taken
  rw [standardTime, readItems_cons (separated _), taken]
  rfl

theorem readItems_timeForm (fresh : t.nanos = 0) :
    readItems timeForm t (time.toMinute ++ time.toSecond) =
      some ({ t with hour := time.hour, minute := time.minute, second := time.second,
                     nanos := time.nanos }, []) := by
  have taken := readItems_time numeral_loose time [] t fresh stops_nil
  rwa [List.append_nil] at taken

/-- A form with seconds cannot do without them. -/
theorem readItems_timeForm_toMinute : readItems timeForm t time.toMinute = none := by
  have taken := readItems_toMinute numeral_loose time [.mark ':', .loose .second 2, .fraction] t
    stops_nil.ends
  rw [List.append_nil] at taken
  exact taken

theorem readItems_shortTimeForm :
    readItems shortTimeForm t time.toMinute =
      some ({ t with hour := time.hour, minute := time.minute }, []) := by
  have taken := readItems_toMinute numeral_loose time [] t stops_nil.ends
  rwa [List.append_nil] at taken

end

/-- An offset is counted from its sign. -/
theorem readItems_ahead {hours minutes : Nat} (hhours : hours < 24) (hminutes : minutes < 60)
    (t : Stamp) :
    readItems [.offset] t ('+' :: (paddedDigits 2 hours ++ ':' :: paddedDigits 2 minutes)) =
      some ({ t with offset := (3600 * hours + 60 * minutes : Nat) }, []) := by
  have counted (s : List Char) : zuluOffset colon ('+' :: s) =
      (hoursMinutes colon s).map fun p => ((p.1 : Int), p.2) := rfl
  rw [readItems, Item.read, counted, hoursMinutes_paddedDigits hhours hminutes]
  rfl

theorem readItems_behind {hours minutes : Nat} (hhours : hours < 24) (hminutes : minutes < 60)
    (t : Stamp) :
    readItems [.offset] t ('-' :: (paddedDigits 2 hours ++ ':' :: paddedDigits 2 minutes)) =
      some ({ t with offset := -((3600 * hours + 60 * minutes : Nat) : Int) }, []) := by
  have counted (s : List Char) : zuluOffset colon ('-' :: s) =
      (hoursMinutes colon s).map fun p => (-(p.1 : Int), p.2) := rfl
  rw [readItems, Item.read, counted, hoursMinutes_paddedDigits hhours hminutes]
  rfl

/-- A text is read by its own form, and the forms before get stuck behind the date. -/
theorem findSome?_attempt_of_tail {year month day : Nat} (hyear : year < 10000)
    (hmonth : month < 100) (hday : day < 100) {time : TimeOfDay} {offset : Int} {rest : List Char}
    (tail : Tail time offset rest) {x : Instant}
    (named : Stamp.instant?
      ⟨year, month, day, time.hour, time.minute, time.second, time.nanos, offset⟩ = some x) :
    (datedForm .exact standardTime :: looseTimes.map (datedForm .loose)).findSome?
        (attempt (dateDigits year month day ++ rest)) = some x := by
  have stops := tail.stops
  have stuck {item : Part → Nat → Item} (numeral : Numeral item) (items : List Item)
      (h : readItems items { year, month, day } rest = none) :=
    attempt_of_stuck hyear hmonth hday numeral stops h
  have reads {item : Part → Nat → Item} (numeral : Numeral item) {items : List Item}
      (h : readItems items { year, month, day } rest = some (⟨year, month, day, time.hour,
        time.minute, time.second, time.nanos, offset⟩, [])) :=
    (attempt_of_read hyear hmonth hday numeral stops h).trans named
  have skipT (items : List Item) (s : List Char) :
      readItems (.mark 'T' :: items) { year, month, day } ('T' :: s) =
        readItems items { year, month, day } s :=
    readItems_cons (read_mark _ s 'T')
  have skipBlanks (items : List Item) (s : List Char) :
      readItems (.blanks :: items) { year, month, day } (' ' :: (time.toMinute ++ s)) =
        readItems items { year, month, day } (time.toMinute ++ s) :=
    readItems_cons (read_blanks_space time _ s)
  simp only [looseTimes, List.map_cons, List.findSome?_cons]
  cases tail with
  | zulu =>
    have read := readItems_standardTime time (t := { year, month, day }) (.inl rfl) rfl
      (stops_cons (c := 'Z') (by decide) [])
    rw [reads numeral_exact (read.trans rfl)]
  | @ahead hours minutes hhours hminutes =>
    have read := readItems_standardTime time (t := { year, month, day }) (.inl rfl) rfl
      (stops_cons (c := '+') (by decide) (paddedDigits 2 hours ++ ':' :: paddedDigits 2 minutes))
    rw [reads numeral_exact (read.trans (readItems_ahead hhours hminutes _))]
  | @behind hours minutes hhours hminutes =>
    have read := readItems_standardTime time (t := { year, month, day }) (.inl rfl) rfl
      (stops_cons (c := '-') (by decide) (paddedDigits 2 hours ++ ':' :: paddedDigits 2 minutes))
    rw [reads numeral_exact (read.trans (readItems_behind hhours hminutes _))]
  | joined =>
    rw [stuck numeral_exact _ (readItems_standardTime_toSecond time (.inl rfl) rfl),
      reads numeral_loose ((skipT _ _).trans (readItems_timeForm time rfl))]
  | spaced =>
    rw [stuck numeral_exact _ (readItems_standardTime_toSecond time (.inr rfl) rfl),
      stuck numeral_loose (.mark 'T' :: timeForm) rfl,
      reads numeral_loose ((skipBlanks _ _).trans (readItems_timeForm time rfl))]
  | joinedMinute noSecond noFraction =>
    have noNanos := time.nanos_of_whole noFraction
    rw [noSecond, noNanos] at reads
    rw [stuck numeral_exact _ (readItems_standardTime_toMinute time (.inl rfl)),
      stuck numeral_loose _ ((skipT _ _).trans (readItems_timeForm_toMinute time)),
      stuck numeral_loose (.blanks :: timeForm) rfl,
      reads numeral_loose ((skipT _ _).trans (readItems_shortTimeForm time))]
  | spacedMinute noSecond noFraction =>
    have noNanos := time.nanos_of_whole noFraction
    rw [noSecond, noNanos] at reads
    have skipSpace (items : List Item) := skipBlanks items []
    rw [List.append_nil] at skipSpace
    rw [stuck numeral_exact _ (readItems_standardTime_toMinute time (.inr rfl)),
      stuck numeral_loose (.mark 'T' :: timeForm) rfl,
      stuck numeral_loose _ ((skipSpace _).trans (readItems_timeForm_toMinute time)),
      stuck numeral_loose (.mark 'T' :: shortTimeForm) rfl,
      reads numeral_loose ((skipSpace _).trans (readItems_shortTimeForm time))]
  | midnight noSeconds noFraction =>
    have noNanos := time.nanos_of_whole noFraction
    obtain ⟨noHour, noMinute, noSecond⟩ : time.hour = 0 ∧ time.minute = 0 ∧ time.second = 0 := by
      rw [TimeOfDay.seconds] at noSeconds
      omega
    rw [noHour, noMinute, noSecond, noNanos] at reads
    rw [stuck numeral_exact standardTime rfl,
      stuck numeral_loose (.mark 'T' :: timeForm) rfl,
      stuck numeral_loose (.blanks :: timeForm) rfl,
      stuck numeral_loose (.mark 'T' :: shortTimeForm) rfl,
      stuck numeral_loose (.blanks :: shortTimeForm) rfl,
      reads numeral_loose rfl]

/-! ### Whole texts -/

theorem TimeOfDay.endsPlain_toMinute (time : TimeOfDay) : EndsPlain time.toMinute :=
  ((endsPlain_paddedDigits 2 time.minute).cons ':').append _

theorem TimeOfDay.endsPlain_toSecond (time : TimeOfDay) : EndsPlain time.toSecond := by
  refine .cons ?_ ':'
  rw [TimeOfDay.point]
  cases time.fraction with
  | none =>
    rw [List.append_nil]
    exact endsPlain_paddedDigits 2 time.second
  | some f => exact ((endsPlain_paddedDigits f.places f.digits).cons '.').append _

/-- A written time has no blank at its ends. -/
theorem trimmed_dateDigits (year month day : Nat) {time : TimeOfDay} {offset : Int}
    {rest : List Char} (tail : Tail time offset rest) :
    trimmed (dateDigits year month day ++ rest) = dateDigits year month day ++ rest := by
  have offsetEnds (hours minutes : Nat) :
      EndsPlain (paddedDigits 2 hours ++ ':' :: paddedDigits 2 minutes) :=
    ((endsPlain_paddedDigits 2 minutes).cons ':').append _
  have ends : EndsPlain (dateDigits year month day ++ rest) := by
    cases tail with
    | zulu =>
      have mark : EndsPlain ['Z'] := ⟨'Z', rfl, by decide⟩
      exact (((mark.append _).append _).cons 'T').append _
    | @ahead hours minutes =>
      exact (((((offsetEnds hours minutes).cons '+').append _).append _).cons 'T').append _
    | @behind hours minutes =>
      exact (((((offsetEnds hours minutes).cons '-').append _).append _).cons 'T').append _
    | joined => exact ((time.endsPlain_toSecond.append _).cons 'T').append _
    | spaced => exact ((time.endsPlain_toSecond.append _).cons ' ').append _
    | joinedMinute => exact (time.endsPlain_toMinute.cons 'T').append _
    | spacedMinute => exact (time.endsPlain_toMinute.cons ' ').append _
    | midnight =>
      rw [List.append_nil]
      exact ((((endsPlain_paddedDigits 2 day).cons '-').append _).cons '-').append _
  obtain ⟨c, ds, digits, digit⟩ := exists_paddedDigits 4 year
  rw [dateDigits, digits] at ends ⊢
  exact trimmed_eq_self (isBlank_of_isDigit digit) ends

theorem Tail.near {time : TimeOfDay} {offset : Int} {rest : List Char}
    (tail : Tail time offset rest) : -86400 < offset ∧ offset < 86400 := by
  cases tail with
  | ahead | behind => omega
  | _ => decide

/-- A written time whose date exists is read as the one point in time that the calendar gives it,
    whatever form it has and whatever blanks are around it; where the date does not exist, no form
    reads it. -/
theorem readTimestamp_written {year : Nat} (hyear : year ≤ 9999) (month day : Nat)
    {time : TimeOfDay} {offset : Int} {rest : List Char} (tail : Tail time offset rest)
    {before after : List Char} (hbefore : before.all isBlank = true)
    (hafter : after.all isBlank = true) :
    (Date.Exists year month day →
      ∃ t, readTimestamp (String.ofList
          (before ++ ((dateDigits year month day ++ rest) ++ after))) = some t ∧
        t.seconds = 86400 * Date.daysSinceEpoch year month day + time.seconds - offset ∧
        t.nanos = time.nanos) ∧
    (¬ Date.Exists year month day →
      readTimestamp (String.ofList
        (before ++ ((dateDigits year month day ++ rest) ++ after))) = none) := by
  have years : year < 10000 := Nat.lt_succ_of_le hyear
  rw [readTimestamp_eq, trimmed_surrounded hbefore hafter, trimmed_dateDigits year month day tail]
  constructor
  · intro there
    obtain ⟨t, named, seconds, nanos⟩ := exists_instant? years there time tail.near
    obtain ⟨⟨-, hmonth⟩, -, hday⟩ := there
    have short := daysInMonth_le year month
    exact ⟨t, findSome?_attempt_of_tail years (by omega) (by omega) tail named, seconds, nanos⟩
  · intro missing
    exact findSome?_attempt_of_not_exists years tail.stops missing

/-- An offset takes a leap day on into the next day, and the year before has no such day. -/
theorem readTimestamp_written_leapDay :
    (∃ t, readTimestamp "\t2024-02-29T23:59:59.5-23:59 " = some t ∧ t.seconds = 1709337539 ∧
      t.nanos = 500000000) ∧
    readTimestamp "\t2023-02-29T23:59:59.5-23:59 " = none := by
  have tail := Tail.behind (t := ⟨23, 59, 59, some ⟨1, 5, by decide, by decide⟩, by decide, by decide,
    by decide⟩) (show 23 < 24 by decide) (show 59 < 60 by decide)
  have days : Date.daysSinceEpoch 2024 2 29 = 19782 := by
    rw [← Date.countDays_eq_daysSinceEpoch 2024 (by decide) (by decide)]
    rfl
  have read := readTimestamp_written (show 2024 ≤ 9999 by decide) 2 29 tail
    (show ['\t'].all isBlank = true by decide) (show [' '].all isBlank = true by decide)
  have refused := readTimestamp_written (show 2023 ≤ 9999 by decide) 2 29 tail
    (show ['\t'].all isBlank = true by decide) (show [' '].all isBlank = true by decide)
  rw [days] at read
  exact ⟨read.1 (by decide), refused.2 (by decide)⟩

end Calendar

end RecordSearch
