import Mathlib.Data.List.Induction
import RecordSearch.Proofs.Storage
import RecordSearch.Proofs.WrittenTimes

/-! Bounds of requests that are written and read again.

    A bound is read in many forms and written in one, in UTC and with `Z`. Years from 0 to 9999 are
    written in four digits, and what is written is read as the bound again. Other years have a sign,
    and then no form reads what was written: the standard form reads no sign, and the loose forms,
    which do, leave the `Z`.

        2016-12-31T23:59:60Z         2016-12-31T23:59:60Z          read again
        9999-12-31T23:00:00-02:00    +10000-01-01T01:00:00Z        refused
        -0044-03-15                  -0044-03-15T00:00:00Z         refused -/

namespace RecordSearch

namespace Text

theorem digitsValue_lt {ds : List Char} (digits : ∀ c ∈ ds, c.isDigit = true) :
    digitsValue ds < tenTo ds.length := by
  induction ds using List.reverseRecOn with
  | nil => decide
  | append_singleton ds d ih =>
    rw [List.forall_mem_append, List.forall_mem_singleton] at digits
    have front := ih digits.1
    have last : d.toNat - 48 < 10 := by
      obtain ⟨-, high⟩ := Char.isDigit_iff_toNat.1 digits.2
      have high : d.toNat ≤ 57 := high
      omega
    have value : digitsValue (ds ++ [d]) = 10 * digitsValue ds + (d.toNat - 48) := by
      rw [digitsValue, Nat.ofDigitChars_append]
      rfl
    rw [value, List.length_append, List.length_singleton, tenTo_succ]
    omega

/-- Nothing blank is left in front. -/
theorem trimLeft_trimmed (s : List Char) : trimLeft (trimmed s) = trimmed s := by
  rcases h : trimmed s with _ | ⟨c, r⟩
  · rfl
  · refine trimLeft_cons ?_ r
    by_contra blank
    rw [Bool.not_eq_false] at blank
    have again : trimmed (c :: r) = c :: r := by
      rw [← h]
      exact trimmed_trimmed s
    have dropped : trimmed (c :: r) = trimmed r := by
      rw [trimmed, trimmed, trimLeft, List.dropWhile_cons_of_pos blank]
      rfl
    obtain ⟨before, after, -, -, parts⟩ := exists_trimmed r
    have longer := congrArg List.length parts
    rw [← dropped, again, List.length_append, List.length_append, List.length_cons] at longer
    omega

end Text

namespace Calendar

open Text

/-! ### Numbers -/

/-- What was taken up in front of the rest is digits, of which there are so many at most. -/
theorem exactNumber_eq_some {width n : Nat} {s rest : List Char}
    (read : exactNumber width s = some (n, rest)) :
    ∃ ds, s = ds ++ rest ∧ (∀ c ∈ ds, c.isDigit = true) ∧ n < tenTo width := by
  obtain ⟨⟨length, all⟩, same⟩ := Option.ite_none_right_eq_some.1 read
  have digits : ∀ c ∈ s.take width, c.isDigit = true := List.all_eq_true.1 all
  have small := digitsValue_lt digits
  cases same
  rw [length] at small
  exact ⟨s.take width, (List.take_append_drop width s).symm, digits, small⟩

theorem shortNumber_eq_some {width n : Nat} {s rest : List Char}
    (read : shortNumber width s = some (n, rest)) :
    ∃ ds, s = ds ++ rest ∧ (∀ c ∈ ds, c.isDigit = true) ∧ n < tenTo width := by
  obtain ⟨-, same⟩ := Option.ite_none_left_eq_some.1 read
  cases same
  have front : (s.takeWhile Char.isDigit).take width <+: s :=
    (List.take_prefix _ _).trans (List.takeWhile_prefix _)
  have digits : ∀ c ∈ (s.takeWhile Char.isDigit).take width, c.isDigit = true :=
    fun c hc => List.all_eq_true.1 List.all_takeWhile c (List.mem_of_mem_take hc)
  refine ⟨_, ?_, digits, ?_⟩
  · conv_lhs => rw [← List.take_append_drop ((s.takeWhile Char.isDigit).take width).length s]
    rw [← List.prefix_iff_eq_take.1 front]
  · refine Nat.lt_of_lt_of_le (digitsValue_lt digits) ?_
    exact Nat.pow_le_pow_right (by decide) (List.length_take_le _ _)

theorem longNumber_eq_some {n : Nat} {s rest : List Char} (read : longNumber s = some (n, rest)) :
    ∃ ds, s = ds ++ rest ∧ ∀ c ∈ ds, c.isDigit = true := by
  obtain ⟨-, same⟩ := Option.ite_none_left_eq_some.1 read
  cases same
  exact ⟨(leadingDigits s).1, (leadingDigits_append s).symm, leadingDigits_isDigit s⟩

/-! ### Items that take up no zone -/

/-- The item takes up no `Z`. -/
def Item.Zoneless : Item → Prop
  | .mark c => c ≠ 'Z'
  | .offset | .zone => False
  | _ => True

instance : DecidablePred Item.Zoneless
  | .mark _ => inferInstanceAs (Decidable (_ ≠ _))
  | .offset | .zone => .isFalse id
  | .exact .. | .loose .. | .separator | .blanks | .fraction => .isTrue trivial

theorem zulu_behind_digits {ds rest : List Char} (digits : ∀ c ∈ ds, c.isDigit = true)
    (zulu : 'Z' ∈ ds ++ rest) : 'Z' ∈ rest := by
  rcases List.mem_append.1 zulu with taken | left
  · exact absurd (digits 'Z' taken) (by decide)
  · exact left

theorem zulu_behind_blanks {s : List Char} (zulu : 'Z' ∈ s) : 'Z' ∈ trimLeft s := by
  rw [← List.takeWhile_append_dropWhile (p := isBlank) (l := s)] at zulu
  rcases List.mem_append.1 zulu with taken | left
  · exact absurd (List.all_eq_true.1 List.all_takeWhile 'Z' taken) (by decide)
  · exact left

theorem zulu_of_looseYear {width : Nat} {year : Int} {s rest : List Char}
    (read : looseYear width s = some (year, rest)) (zulu : 'Z' ∈ s) : 'Z' ∈ rest := by
  unfold looseYear at read
  split at read
  case h_1 s =>
    obtain ⟨⟨n, rest⟩, number, same⟩ := Option.map_eq_some_iff.1 read
    obtain ⟨ds, rfl, digits⟩ := longNumber_eq_some number
    cases same
    exact zulu_behind_digits digits ((List.mem_cons.1 zulu).resolve_left (by decide))
  case h_2 s =>
    obtain ⟨⟨n, rest⟩, number, same⟩ := Option.map_eq_some_iff.1 read
    obtain ⟨ds, rfl, digits⟩ := longNumber_eq_some number
    cases same
    exact zulu_behind_digits digits ((List.mem_cons.1 zulu).resolve_left (by decide))
  case h_3 =>
    obtain ⟨⟨n, rest⟩, number, same⟩ := Option.map_eq_some_iff.1 read
    obtain ⟨ds, rfl, digits, -⟩ := shortNumber_eq_some number
    cases same
    exact zulu_behind_digits digits zulu

/-- A `Z` stays in what is left to read. -/
theorem zulu_of_read {i : Item} (h : i.Zoneless) {t t' : Stamp} {s s' : List Char}
    (read : i.read t s = some (t', s')) (zulu : 'Z' ∈ s) : 'Z' ∈ s' := by
  cases i with
  | exact part width =>
    obtain ⟨⟨n, rest⟩, number, same⟩ := Option.map_eq_some_iff.1 read
    obtain ⟨ds, rfl, digits, -⟩ := exactNumber_eq_some number
    cases same
    exact zulu_behind_digits digits zulu
  | loose part width =>
    by_cases year : part = .year
    · subst year
      obtain ⟨⟨n, rest⟩, number, same⟩ := Option.map_eq_some_iff.1 read
      cases same
      exact zulu_of_looseYear number (zulu_behind_blanks zulu)
    · rw [Item.read] at read
      · obtain ⟨⟨n, rest⟩, number, same⟩ := Option.map_eq_some_iff.1 read
        obtain ⟨ds, split, digits, -⟩ := shortNumber_eq_some number
        cases same
        have kept := zulu_behind_blanks zulu
        rw [split] at kept
        exact zulu_behind_digits digits kept
      · exact year
  | mark c =>
    rcases s with _ | ⟨d, s⟩
    · cases read
    · obtain ⟨rfl, same⟩ := Option.ite_none_right_eq_some.1 read
      cases same
      exact (List.mem_cons.1 zulu).resolve_left fun here => h here.symm
  | separator =>
    rcases s with _ | ⟨d, s⟩
    · cases read
    · obtain ⟨between, same⟩ := Option.ite_none_right_eq_some.1 read
      cases same
      refine (List.mem_cons.1 zulu).resolve_left ?_
      rintro rfl
      exact absurd between (by decide)
  | blanks =>
    cases read
    exact zulu_behind_blanks zulu
  | fraction =>
    simp only [Item.read] at read
    split at read
    next point =>
      obtain ⟨-, same⟩ := Option.ite_none_left_eq_some.1 read
      cases same
      have behind := (List.mem_cons.1 zulu).resolve_left (by decide)
      rw [← leadingDigits_append point] at behind
      exact zulu_behind_digits (leadingDigits_isDigit point) behind
    next =>
      cases read
      exact zulu
  | offset => exact absurd h id
  | zone => exact absurd h id

theorem zulu_of_readItems {items : List Item} (h : ∀ i ∈ items, i.Zoneless) {t t' : Stamp}
    {s s' : List Char} (read : readItems items t s = some (t', s')) (zulu : 'Z' ∈ s) : 'Z' ∈ s' := by
  induction items generalizing t s with
  | nil =>
    cases read
    exact zulu
  | cons i items ih =>
    rw [List.forall_mem_cons] at h
    obtain ⟨⟨u, rest⟩, first, others⟩ := Option.bind_eq_some_iff.1 read
    exact ih h.2 others (zulu_of_read h.1 first zulu)

/-- Only the standard form reads a text with a `Z`. -/
theorem readForm_of_zulu {form : List Item} (h : ∀ i ∈ form, i.Zoneless) {s : List Char}
    (zulu : 'Z' ∈ s) : readForm form s = none := by
  rw [Option.eq_none_iff_forall_ne_some]
  intro t read
  exact absurd (zulu_of_readItems h (readItems_of_readForm read) zulu) List.not_mem_nil

theorem offset_of_sets {i : Item} (h : i.Zoneless) {t t' : Stamp} (sets : i.Sets t t') :
    t'.offset = t.offset := by
  have set_offset (part : Part) (n : Nat) : (t.set part n).offset = t.offset := by
    cases part with | _ => rfl
  cases i with
  | exact part width =>
    obtain ⟨n, rfl⟩ := sets
    exact set_offset part n
  | loose part width =>
    cases part with
    | _ =>
      obtain ⟨n, rfl⟩ := sets
      rfl
  | mark | separator | blanks =>
    obtain rfl : t' = t := sets
    rfl
  | fraction =>
    obtain ⟨n, rfl⟩ := sets
    rfl
  | offset | zone => exact absurd h id

/-! ### The year of a text -/

/-- The item sets something else than the year. -/
def Item.Yearless : Item → Prop
  | .exact part _ | .loose part _ => part ≠ .year
  | _ => True

instance : DecidablePred Item.Yearless
  | .exact .. | .loose .. => inferInstanceAs (Decidable (_ ≠ _))
  | .mark _ | .separator | .blanks | .fraction | .offset | .zone => .isTrue trivial

theorem year_of_sets {i : Item} (h : i.Yearless) {t t' : Stamp} (sets : i.Sets t t') :
    t'.year = t.year := by
  have set_year {part : Part} (h : part ≠ .year) (n : Nat) : (t.set part n).year = t.year := by
    cases part with
    | year => exact absurd rfl h
    | _ => rfl
  cases i with
  | exact part width =>
    obtain ⟨n, rfl⟩ := sets
    exact set_year h n
  | loose part width =>
    rw [Item.Sets] at sets
    · obtain ⟨n, rfl⟩ := sets
      exact set_year h n
    · exact h
  | mark | separator | blanks =>
    obtain rfl : t' = t := sets
    rfl
  | fraction | offset | zone =>
    obtain ⟨n, rfl⟩ := sets
    rfl

/-- The year of a text is set by its first item. -/
theorem exists_year_of_readForm {item : Part → Nat → Item} {items : List Item}
    (yearless : ∀ i ∈ .mark '-' :: item .month 2 :: .mark '-' :: item .day 2 :: items, i.Yearless)
    {s : List Char} {t : Stamp} (read : readForm (datedForm item items) s = some t) :
    ∃ u rest, (item .year 4).read {} s = some (u, rest) ∧ t.year = u.year := by
  obtain ⟨⟨u, rest⟩, year, others⟩ := Option.bind_eq_some_iff.1 (readItems_of_readForm read)
  exact ⟨u, rest, year, keeps_of_readItems (fun i member _ _ => year_of_sets (yearless i member)) others⟩

theorem year_of_read_exact {s rest : List Char} {t : Stamp}
    (read : (Item.exact .year 4).read {} s = some (t, rest)) : ∃ n : Nat, n < 10000 ∧ t.year = n := by
  obtain ⟨⟨n, rest⟩, number, same⟩ := Option.map_eq_some_iff.1 read
  obtain ⟨-, -, -, small⟩ := exactNumber_eq_some number
  cases same
  exact ⟨n, small, rfl⟩

/-- A loose year without a sign has four digits at most. -/
theorem year_of_read_loose {s rest : List Char} {t : Stamp} (tight : trimLeft s = s)
    (unsigned : ∀ c ∈ s.head?, c ≠ '+' ∧ c ≠ '-')
    (read : (Item.loose .year 4).read {} s = some (t, rest)) : ∃ n : Nat, n < 10000 ∧ t.year = n := by
  obtain ⟨⟨year, rest⟩, number, same⟩ := Option.map_eq_some_iff.1 read
  rw [tight, looseYear_of_unsigned unsigned] at number
  obtain ⟨⟨n, rest⟩, number, cast⟩ := Option.map_eq_some_iff.1 number
  obtain ⟨-, -, -, small⟩ := shortNumber_eq_some number
  cases cast
  cases same
  exact ⟨n, small, rfl⟩

/-! ### Plain years -/

/-- The plain years last from the start of the year 0 to the end of the year 9999. -/
theorem hasPlainYear_iff {t : Instant} :
    t.HasPlainYear ↔ -62167219200 ≤ t.seconds ∧ t.seconds < 253402300800 := by
  obtain ⟨year, month, day, date⟩ : ∃ y m d, t.civil = (y, m, d) := ⟨_, _, _, rfl⟩
  obtain ⟨months, days, counted⟩ := Date.civil_spec date
  rw [Instant.HasPlainYear, date, plainYear_iff months days, counted]
  omega

/-- A date in a plain year, with a time of day in UTC, is a point in time in a plain year. -/
theorem hasPlainYear_of_instant? {t : Stamp} {x : Instant} (named : t.instant? = some x)
    (year : ∃ n : Nat, n < 10000 ∧ t.year = n) (utc : t.offset = 0) : x.HasPlainYear := by
  obtain ⟨n, small, year⟩ := year
  obtain ⟨d, found, clock⟩ := Option.bind_eq_some_iff.1 named
  obtain ⟨⟨hour, minute, second⟩, placed⟩ := Option.ite_none_right_eq_some.1 clock
  obtain ⟨seconds, -⟩ := Instant.of?_eq_some placed
  obtain ⟨sameYear, -, -⟩ := Date.of?_eq_some found
  have within := (plainYear_iff d.month_range d.day_range).1 (by omega)
  have counted : d.dayNumber = Date.countDays d.year d.month d.day := rfl
  rw [hasPlainYear_iff]
  omega

/-- The text has no sign in front, and an offset in it is zero. -/
def WrittenInUtc (text : String) : Prop :=
  (∀ c ∈ (trimmed text.toList).head?, c ≠ '+' ∧ c ≠ '-') ∧
    ∀ t, readForm standardForm (trimmed text.toList) = some t → t.offset = 0

theorem hasPlainYear_of_writtenInUtc {text : String} {x : Instant}
    (read : readTimestamp text = some x) (utc : WrittenInUtc text) : x.HasPlainYear := by
  obtain ⟨unsigned, zero⟩ := utc
  have tight := trimLeft_trimmed text.toList
  rw [← String.ofList_toList (s := text), readTimestamp_eq] at read
  obtain ⟨form, member, attempted⟩ := List.exists_of_findSome?_eq_some read
  obtain ⟨t, readForm, named⟩ := Option.bind_eq_some_iff.1 attempted
  rcases List.mem_cons.1 member with rfl | member
  · obtain ⟨u, rest, first, same⟩ := exists_year_of_readForm (by decide) readForm
    exact hasPlainYear_of_instant? named (same ▸ year_of_read_exact first) (zero t readForm)
  · obtain ⟨items, loose, rfl⟩ := List.mem_map.1 member
    have yearless : ∀ items ∈ looseTimes,
        ∀ i ∈ .mark '-' :: .loose .month 2 :: .mark '-' :: .loose .day 2 :: items, i.Yearless := by
      decide
    have zoneless : ∀ items ∈ looseTimes, ∀ i ∈ datedForm .loose items, i.Zoneless := by decide
    obtain ⟨u, rest, first, same⟩ := exists_year_of_readForm (yearless items loose) readForm
    have offset : t.offset = 0 :=
      keeps_of_readItems (fun i behind _ _ => offset_of_sets (zoneless items loose i behind))
        (readItems_of_readForm readForm)
    exact hasPlainYear_of_instant? named (same ▸ year_of_read_loose tight unsigned first) offset

/-! ### What is written of a point in time -/

/-- The text of a point in time begins with its year and ends with `Z`. -/
theorem exists_instantText (t : Instant) :
    ∃ front, (instantText t).toList = yearText t.civil.1 ++ front ++ ['Z'] := by
  obtain ⟨year, month, day, date⟩ : ∃ y m d, t.civil = (y, m, d) := ⟨_, _, _, rfl⟩
  obtain ⟨hour, minute, second, clock⟩ : ∃ h m s, t.clock = (h, m, s) := ⟨_, _, _, rfl⟩
  refine ⟨'-' :: (paddedDigits 2 month ++ '-' :: (paddedDigits 2 day ++ 'T' :: (paddedDigits 2 hour ++
    ':' :: (paddedDigits 2 minute ++ ':' :: (paddedDigits 2 second ++ fractionText t.fraction))))), ?_⟩
  rw [instantText_eq_storedText date clock, String.toList_ofList, date]
  simp only [storedText, civilText, List.append_assoc, List.cons_append]

/-- There is nothing blank at its ends. -/
theorem trimmed_instantText (t : Instant) :
    trimmed (instantText t).toList = (instantText t).toList := by
  obtain ⟨front, text⟩ := exists_instantText t
  obtain ⟨c, ds, year, plain, -⟩ := exists_yearText t.civil.1
  rw [text, year]
  exact trimmed_eq_self plain (.append ⟨'Z', rfl, by decide⟩ (c :: ds ++ front))

/-- A year that is not plain is written with a sign in front, which the standard form does not read,
    and the other forms do not read the `Z` behind. -/
theorem readTimestamp_instantText_eq_none {t : Instant} (h : ¬ t.HasPlainYear) :
    readTimestamp (instantText t) = none := by
  obtain ⟨front, text⟩ := exists_instantText t
  obtain ⟨c, ds, year, -, sign⟩ := exists_yearText t.civil.1
  have standard : readForm (datedForm .exact standardTime) (instantText t).toList = none := by
    have stuck : (Item.exact .year 4).read {} (instantText t).toList = none := by
      rw [text, year]
      simp [Item.read, exactNumber, sign h]
    rw [readForm, datedForm, readItems, stuck]
    rfl
  have zulu : 'Z' ∈ (instantText t).toList := by
    rw [text]
    exact List.mem_append_right _ List.mem_cons_self
  have loose : ∀ items ∈ looseTimes, ∀ i ∈ datedForm .loose items, i.Zoneless := by decide
  rw [← String.ofList_toList (s := instantText t), readTimestamp_eq, trimmed_instantText,
    List.findSome?_eq_none_iff, List.forall_mem_cons, List.forall_mem_map]
  constructor
  · rw [attempt, standard]
    rfl
  · intro items member
    rw [attempt, readForm_of_zulu (loose items member) zulu]
    rfl

/-- A bound is read back from what is written of it iff its year is plain. -/
theorem decodeBound_ofInstant_eq (t : Instant) :
    Json.decodeBound (Json.ofInstant t) =
      if t.HasPlainYear then .ok (some t) else .error (.notTimestamp (instantText t)) := by
  by_cases plain : t.HasPlainYear
  · rw [if_pos plain, decodeBound_ofInstant plain]
  · have trimmed : Text.trim (instantText t) = instantText t := by
      rw [Text.trim, trimmed_instantText, String.ofList_toList]
    have notBlank : blank (instantText t) = false := by
      obtain ⟨front, text⟩ := exists_instantText t
      rw [Bool.eq_false_iff, blank, Ne, ← trimmed_eq_nil_iff, trimmed_instantText, text]
      exact List.append_ne_nil_of_right_ne_nil _ (List.cons_ne_nil _ _)
    rw [if_neg plain, Json.ofInstant, decodeBound_text, notBlank,
      readTimestamp_instantText_eq_none plain, trimmed]
    rfl

end Calendar

/-! ### Requests -/

open Json

/-- The first of the bounds whose year is not plain. -/
def farBound (lower upper : Option Instant) : Option Instant :=
  (lower.toList ++ upper.toList).find? fun t => ¬ t.HasPlainYear

theorem farBound_eq_none_iff {lower upper : Option Instant} :
    farBound lower upper = none ↔
      ∀ t, lower = some t ∨ upper = some t → t.HasPlainYear := by
  simp only [farBound, List.find?_eq_none, List.mem_append, Option.mem_toList, decide_eq_true_eq,
    Decidable.not_not]

/-- Going through the bounds stops at the first that is not read back. -/
theorem walk_bounds {known : String → Option (Json → Decoded Unit)} {other : Json → Bool}
    {seen : List String} (judgesFrom : known "createdFrom" = some (check decodeBound))
    (judgesTo : known "createdTo" = some (check decodeBound))
    (fresh : "createdFrom" ∉ seen ∧ "createdTo" ∉ seen) (lower upper : Option Instant) :
    walk known other seen (memberIfSome "createdFrom" ofInstant lower ++
        memberIfSome "createdTo" ofInstant upper) =
      (farBound lower upper).elim (.ok ())
        fun t => .error (.notTimestamp (Calendar.instantText t)) := by
  obtain ⟨freshFrom, freshTo⟩ := fresh
  have plain {t : Instant} (h : t.HasPlainYear) : check decodeBound (ofInstant t) = .ok () := by
    rw [check, Calendar.decodeBound_ofInstant_eq, if_pos h]
    rfl
  have far {t : Instant} (h : ¬ t.HasPlainYear) :
      check decodeBound (ofInstant t) = .error (.notTimestamp (Calendar.instantText t)) := by
    rw [check, Calendar.decodeBound_ofInstant_eq, if_neg h]
    rfl
  have last (seen : List String) (fresh : "createdTo" ∉ seen) :
      walk known other seen (memberIfSome "createdTo" ofInstant upper) =
        (farBound none upper).elim (.ok ())
          fun t => .error (.notTimestamp (Calendar.instantText t)) := by
    rcases upper with _ | t
    · rfl
    · rw [memberIfSome, walk_cons_known judgesTo fresh]
      by_cases h : t.HasPlainYear
      · rw [plain h]
        simp [farBound, h, walk]
        rfl
      · rw [far h]
        simp [farBound, h]
        rfl
  rcases lower with _ | t
  · exact last seen freshTo
  · rw [memberIfSome, List.singleton_append, walk_cons_known judgesFrom freshFrom]
    by_cases h : t.HasPlainYear
    · have skipped : farBound (some t) upper = farBound none upper := by simp [farBound, h]
      rw [plain h, skipped]
      exact last _ (by simp [freshTo])
    · have found : farBound (some t) upper = some t := by simp [farBound, h]
      rw [far h, found]
      rfl

/-- Typed filters that are written with their bounds last are read back unless a bound is far, and
    then the first far one is named. -/
theorem Json.Codec.decode_encode_bounds {α : Type} {c : Codec α} {a : α} {before : Members}
    {lower upper : Option Instant}
    (members : c.members a = before ++ (memberIfSome "createdFrom" ofInstant lower ++
      memberIfSome "createdTo" ofInstant upper))
    (judgesFrom : c.judge "createdFrom" = some (check decodeBound))
    (judgesTo : c.judge "createdTo" = some (check decodeBound))
    (accepted : walk c.judge skippable [] before = .ok ())
    (absent : "createdFrom" ∉ before.map Prod.fst ∧ "createdTo" ∉ before.map Prod.fst)
    (restores : farBound lower upper = none → c.Restores a) :
    c.decode (c.encode a) =
      (farBound lower upper).elim (.ok a)
        fun t => .error (.notTimestamp (Calendar.instantText t)) := by
  rcases far : farBound lower upper with _ | t
  · exact (restores far).decode _ (.refl _)
  · have fresh (name : String) (h : name ∉ before.map Prod.fst) :
        name ∉ (judgedNames c.judge before).reverse ++ [] := by
      rw [List.append_nil, List.mem_reverse]
      exact fun judged => h (List.mem_filter.1 judged).1
    rw [Codec.encode, Codec.decode_object, members, walk_append accepted,
      walk_bounds judgesFrom judgesTo ⟨fresh _ absent.1, fresh _ absent.2⟩, far]
    rfl

namespace Request

variable {δ : Type} {typed : Codec δ}

theorem lossless_directiveMembers (r : Request δ) :
    ∀ m ∈ directiveMembers r, m.2.lossless = true := by
  have word (n : Int64) : (integer n.toInt).lossless = true := by
    have low := n.le_toInt
    have high := n.toInt_lt
    exact lossless_integer.2 ⟨by omega, by rw [wordLimit]; omega⟩
  have criterion (c : Criterion) : (Criterion.codec.encode c).lossless = true := by
    obtain ⟨field, operator, value⟩ := c
    rcases value with _ | v
    · rfl
    · rfl
  intro m hm
  simp only [directiveMembers, List.mem_append, List.mem_singleton, mem_memberIfSome] at hm
  rcases hm with ((((⟨s, -, rfl⟩ | ⟨n, -, rfl⟩) | ⟨n, -, rfl⟩) | ⟨s, -, rfl⟩) | ⟨s, -, rfl⟩) | rfl
  · rfl
  · exact word n
  · exact word n
  · rfl
  · rfl
  · rw [lossless, losslessItems_iff]
    rintro v hv
    obtain ⟨c, -, rfl⟩ := List.mem_map.1 hv
    exact criterion c

/-- A request that is written is read as the request with what its typed filters are read as, from
    the document and from its text. -/
theorem read_encode {r : Request δ}
    (stand : ∀ m ∈ typed.members r.domain, directive m.1 = none ∧ Plain m.2)
    (distinct : ((typed.members r.domain).map Prod.fst).Nodup) :
    decode typed (encode typed r) = (typed.decode (typed.encode r.domain)).map r.withDomain ∧
      read typed (encode typed r).compact =
        (typed.decode (typed.encode r.domain)).map r.withDomain := by
  have free : ∀ m ∈ typed.members r.domain, directive m.1 = none := fun m hm => (stand m hm).1
  have document : decode typed (encode typed r) =
      (typed.decode (typed.encode r.domain)).map r.withDomain := by
    rw [encode_eq, decode_eq_of_perm free (fun m hm => (stand m hm).2.keeps) distinct (.refl _),
      kept_append_members free]
    rfl
  have lossless : (encode typed r).lossless = true := by
    rw [encode_eq, lossless, losslessMembers_iff]
    intro m hm
    rcases List.mem_append.1 hm with hm | hm
    · exact lossless_directiveMembers r m hm
    · exact (stand m hm).2.lossless
  refine ⟨document, ?_⟩
  rw [read, parse_compact lossless, ← document]
  simp only [if_true, bind_pure]

end Request

/-- A request is read back from what is written of it, document or text, unless one of its bounds is
    in a year that is not plain; then it is refused over the first of these. -/
def DomainFilters.Rereads {ρ δ : Type} (d : DomainFilters ρ δ) (lower upper : δ → Option Instant) :
    Prop :=
  ∀ r : Request δ,
    let document := d.encodeRequest r
    let outcome : Decoded (Request δ) :=
      (farBound (lower r.domain) (upper r.domain)).elim (.ok r)
        fun t => .error (.notTimestamp (Calendar.instantText t))
    d.decodeRequest document = outcome ∧ d.readRequest document.compact = outcome

/-- It is so for typed filters that are written with their bounds last. -/
theorem rereads_of_members {ρ δ : Type} {d : DomainFilters ρ δ} {lower upper : δ → Option Instant}
    (before : δ → Members) (names : List String)
    (members : ∀ f, (d.codec isNothingOrEmpty).members f =
      before f ++ (memberIfSome "createdFrom" ofInstant (lower f) ++
        memberIfSome "createdTo" ofInstant (upper f)))
    (judgesFrom : (d.codec isNothingOrEmpty).judge "createdFrom" = some (check decodeBound))
    (judgesTo : (d.codec isNothingOrEmpty).judge "createdTo" = some (check decodeBound))
    (named : ∀ f, ((before f).map Prod.fst).Sublist names)
    (distinct : (names ++ ["createdFrom", "createdTo"]).Nodup)
    (stores : ∀ f, ∀ m ∈ before f, (d.codec isNothingOrEmpty).Stores m)
    (restores : ∀ f, (∀ t, lower f = some t ∨ upper f = some t → t.HasPlainYear) →
      (d.codec isNothingOrEmpty).Restores f) :
    d.Rereads lower upper := by
  intro r
  have stand : ∀ m ∈ (d.codec isNothingOrEmpty).members r.domain,
      Request.directive m.1 = none ∧ Plain m.2 := by
    intro m hm
    rw [members, List.mem_append, List.mem_append, mem_memberIfSome, mem_memberIfSome] at hm
    rcases hm with hm | ⟨t, -, rfl⟩ | ⟨t, -, rfl⟩
    · obtain ⟨⟨free, keeps, sorted, -⟩, lossless⟩ := stores r.domain m hm
      exact ⟨free, keeps, sorted, lossless⟩
    · exact ⟨rfl, plain_ofInstant t⟩
    · exact ⟨rfl, plain_ofInstant t⟩
  have nodup : (((d.codec isNothingOrEmpty).members r.domain).map Prod.fst).Nodup := by
    rw [members, List.map_append, List.map_append]
    exact ((named r.domain).append ((names_memberIfSome ..).append (names_memberIfSome ..))).nodup
      distinct
  obtain ⟨distinct, -, apart⟩ := List.nodup_append.1 distinct
  have accepted : walk (d.codec isNothingOrEmpty).judge skippable [] (before r.domain) = .ok () :=
    walk_of_fit (fun m hm => (stores r.domain m hm).stands.fit) ((named r.domain).nodup distinct)
  have absent (name : String) (h : name ∈ ["createdFrom", "createdTo"]) :
      name ∉ (before r.domain).map Prod.fst :=
    fun here => apart name ((named r.domain).subset here) name h rfl
  have typed := Codec.decode_encode_bounds (members r.domain) judgesFrom judgesTo accepted
    ⟨absent _ (by decide), absent _ (by decide)⟩
    fun near => restores r.domain (farBound_eq_none_iff.1 near)
  obtain ⟨document, text⟩ := Request.read_encode stand nodup
  rw [typed] at document text
  generalize farBound (lower r.domain) (upper r.domain) = far at document text ⊢
  cases far with
  | none => exact ⟨document, text⟩
  | some t => exact ⟨document, text⟩

theorem UserFilters.rereads : domain.Rereads createdFrom createdTo := by
  refine rereads_of_members
    (fun f => memberIfSome "gender" (fun g => text g.tag) f.gender ++
      memberIfSome "isEmailVerified" bool f.isEmailVerified)
    ["gender", "isEmailVerified"] (fun f => List.append_assoc ..) rfl rfl ?named (by decide) ?stores
    fun f => restores isNothingOrEmpty
  case named =>
    intro f
    rw [List.map_append]
    exact (names_memberIfSome ..).append (names_memberIfSome ..)
  case stores =>
    intro f m hm
    rw [List.mem_append, mem_memberIfSome, mem_memberIfSome] at hm
    rcases hm with ⟨g, -, rfl⟩ | ⟨b, -, rfl⟩
    · exact Codec.stores (plain_text _) rfl rfl (Gender.decodeOption_tag isNothingOrEmpty g)
    · have judged : (codec isNothingOrEmpty).judge "isEmailVerified" =
          some (check (decodeOption decodeBool)) := rfl
      exact Codec.stores (plain_bool b) rfl judged (b := some b) rfl

theorem ContactFilters.rereads : domain.Rereads createdFrom createdTo := by
  refine rereads_of_members (fun _ => []) [] (fun _ => rfl) rfl rfl (fun _ => .refl []) (by decide)
    ?stores fun f => restores isNothingOrEmpty
  intro f m hm
  cases hm

/-- A bound that was read off a text is read back from what is written of it if its year is plain,
    and is refused with what was written if not. A bound without a sign, in UTC, always has a plain
    year. So requests are read back unless a bound is in a year that is not plain. -/
theorem written_bounds_reread {text : String} {t : Instant}
    (read : Calendar.readTimestamp text = some t) :
    decodeBound (ofInstant t) =
        (if t.HasPlainYear then .ok (some t) else .error (.notTimestamp (Calendar.instantText t))) ∧
      (Calendar.WrittenInUtc text → t.HasPlainYear) ∧
      UserFilters.domain.Rereads UserFilters.createdFrom UserFilters.createdTo ∧
      ContactFilters.domain.Rereads ContactFilters.createdFrom ContactFilters.createdTo := by
  refine ⟨?_, ?_, UserFilters.rereads, ContactFilters.rereads⟩
  · exact Calendar.decodeBound_ofInstant_eq t
  · exact Calendar.hasPlainYear_of_writtenInUtc read

/-- A noon in the year -44. -/
def sampleFarNoon : Instant := ⟨-63549316800, 250000000, by decide, by decide, by decide⟩

/-- A leap second is read back, a year with a sign is not, and a request that has both bounds is
    refused over the latter. -/
theorem written_bounds_reread_leapSecond :
    Calendar.readTimestamp " 2016-12-31T23:59:60.5 " = some sampleLeapSecond ∧
      decodeBound (ofInstant sampleLeapSecond) = .ok (some sampleLeapSecond) ∧
      Calendar.readTimestamp "-0044-03-15 12:00:00.25" = some sampleFarNoon ∧
      decodeBound (ofInstant sampleFarNoon) =
        .error (.notTimestamp "-0044-03-15T12:00:00.250Z") ∧
      UserFilters.domain.readRequest
          (UserFilters.domain.encodeRequest
            { domain := ⟨none, none, some sampleLeapSecond, some sampleFarNoon⟩ }).compact =
        .error (.notTimestamp "-0044-03-15T12:00:00.250Z") := by
  have leap : Calendar.readTimestamp " 2016-12-31T23:59:60.5 " = some sampleLeapSecond := by decide
  have far : Calendar.readTimestamp "-0044-03-15 12:00:00.25" = some sampleFarNoon := by decide
  obtain ⟨readBack, -, -, -⟩ := written_bounds_reread leap
  obtain ⟨refused, -, users, -⟩ := written_bounds_reread far
  exact ⟨leap, readBack, far, refused, (users _).2⟩

/-- The last hours of the year 9999 behind UTC are in the year 10000 in UTC: a bound that is read in
    RFC 3339 is not read back. -/
theorem written_bounds_lost_yearEnd :
    ∃ (t : Instant) (r : Request UserFilters),
      Calendar.readTimestamp "9999-12-31T23:00:00-02:00" = some t ∧
        ofInstant t = .text "+10000-01-01T01:00:00Z" ∧
        decodeBound (ofInstant t) = .error (.notTimestamp "+10000-01-01T01:00:00Z") ∧
        UserFilters.domain.decodeRequest
          (object [("createdFrom", .text "9999-12-31T23:00:00-02:00")]) = .ok r ∧
        UserFilters.domain.decodeRequest (UserFilters.domain.encodeRequest r) =
          .error (.notTimestamp "+10000-01-01T01:00:00Z") := by
  obtain ⟨t, t_eq⟩ : ∃ t : Instant, t = ⟨253402304400, 0, by decide, by decide, by decide⟩ := ⟨_, rfl⟩
  have read : Calendar.readTimestamp "9999-12-31T23:00:00-02:00" = some t := by
    rw [t_eq]
    decide
  have written : Calendar.instantText t = "+10000-01-01T01:00:00Z" := by
    rw [t_eq]
    decide
  have far : ¬ t.HasPlainYear := by
    rw [t_eq]
    decide
  have first : farBound (some t) none = some t := by simp [farBound, far]
  obtain ⟨r, r_eq⟩ : ∃ r : Request UserFilters, r = { domain := ⟨none, none, some t, none⟩ } :=
    ⟨_, rfl⟩
  have refused : UserFilters.domain.decodeRequest (UserFilters.domain.encodeRequest r) =
      (farBound r.domain.createdFrom r.domain.createdTo).elim (.ok r)
        fun t => .error (.notTimestamp (Calendar.instantText t)) := (UserFilters.rereads r).1
  have bounds : r.domain.createdFrom = some t ∧ r.domain.createdTo = none := by simp [r_eq]
  rw [bounds.1, bounds.2, first, Option.elim_some, written] at refused
  have bound : decodeBound (.text "9999-12-31T23:00:00-02:00") = .ok (some t) :=
    Calendar.decodeBound_text_eq_some_iff.2 ⟨by decide, read⟩
  have accepted : UserFilters.domain.decodeRequest
      (object [("createdFrom", .text "9999-12-31T23:00:00-02:00")]) = .ok r := by
    rw [r_eq]
    refine Request.decode_object_eq_ok_iff.2 ⟨rfl, rfl, ?_⟩
    refine Codec.decode_object_eq_ok_iff.2 ⟨?_, UserFilters.build_eq_ok_iff.2 ⟨rfl, rfl, bound, rfl⟩⟩
    refine walk_of_fit (fun m hm => ?_) (by decide)
    obtain rfl := List.mem_singleton.1 hm
    exact check_eq_ok bound
  refine ⟨t, r, read, ?_, ?_, accepted, refused⟩
  · rw [ofInstant, written]
  · rw [Calendar.decodeBound_ofInstant_eq, if_neg far, written]

end RecordSearch
