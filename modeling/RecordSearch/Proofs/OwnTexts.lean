import RecordSearch.Proofs.Membership
import RecordSearch.Proofs.Operators
import RecordSearch.Proofs.Tags
import RecordSearch.Proofs.WrittenTimes
import RecordSearch.Proofs.Writing
import RecordSearch.Users.Sample

/-! Values that are found by their own texts.

    A value is written as a text, and a criterion that asks for equality with that text accepts the
    records with exactly this value.

        type         value                  texts
        text         Vu Thu Ha              Vu Thu Ha
        int32        -7                     -7
        bool         true                   true
        timestamp    midnight of a date     2024-03-15T00:00:00Z    2024-03-15
        tag          its place              the tag at that place

    The text has to come back from `coerce` as the literal it was written from: neither may its type
    refuse it, nor an earlier form of time or an earlier tag take it. After that, equality of
    literals is equality of values. -/

namespace RecordSearch

/-! ### Texts of integers and truth values -/

namespace Text

theorem paddedDigits_zero (n : Nat) : paddedDigits 0 n = digitsOf n := by simp [paddedDigits]

theorem exists_digitsOf (n : Nat) : ∃ c ds, digitsOf n = c :: ds ∧ c.isDigit = true := by
  rw [← paddedDigits_zero]
  exact exists_paddedDigits 0 n

theorem endsPlain_digitsOf (n : Nat) : EndsPlain (digitsOf n) := by
  rw [← paddedDigits_zero]
  exact endsPlain_paddedDigits 0 n

/-- An integer is written without blanks at its ends. -/
theorem trim_integerText (n : Int) : trim (integerText n) = integerText n := by
  obtain ⟨c, ds, digits, digit⟩ := exists_digitsOf n.natAbs
  have ends := endsPlain_digitsOf n.natAbs
  rw [trim, integerText, String.toList_ofList]
  congr 1
  split
  · exact trimmed_eq_self (by decide) (ends.cons '-')
  · rw [digits] at ends ⊢
    exact trimmed_eq_self (isBlank_of_isDigit digit) ends

theorem blank_integerText (n : Int) : blank (integerText n) = false := by
  obtain ⟨c, ds, digits, digit⟩ := exists_digitsOf n.natAbs
  have visible := isBlank_of_isDigit digit
  have hyphen : isBlank '-' = false := by decide
  rw [blank, integerText, String.toList_ofList, digits]
  split <;> simp [visible, hyphen]

/-- The sign of an integer is told apart from its digits. -/
theorem splitSign_integerText (n : Int) :
    splitSign (integerText n).toList = (decide (n < 0), digitsOf n.natAbs) := by
  obtain ⟨c, ds, digits, digit⟩ := exists_digitsOf n.natAbs
  rw [integerText, String.toList_ofList]
  by_cases negative : n < 0
  · simp [negative, splitSign]
  · have hyphen : c ≠ '-' := by
      rintro rfl
      cases digit
    have plus : c ≠ '+' := by
      rintro rfl
      cases digit
    simp only [negative, if_false, digits, decide_false]
    rw [splitSign]
    · rintro s ⟨⟩
      exact hyphen rfl
    · rintro s ⟨⟩
      exact plus rfl

end Text

/-- The text of an integer of the width is not blank and is read as the integer. -/
theorem IntWidth.read?_integerText {w : IntWidth} {n : Int} (h : -w.bound ≤ n ∧ n < w.bound) :
    Text.blank (Text.integerText n) = false ∧
      w.read? (Text.trim (Text.integerText n)).toList = some n := by
  have digits : (Text.digitsOf n.natAbs).all Char.isDigit = true :=
    List.all_eq_true.2 (Text.isDigit_digitsOf n.natAbs)
  have some : Text.digitsOf n.natAbs ≠ [] := Nat.toDigits_ne_nil
  have value : Text.signed (decide (n < 0)) n.natAbs = n := by
    simp only [Text.signed, decide_eq_true_eq]
    split <;> omega
  refine ⟨Text.blank_integerText n, ?_⟩
  rw [Text.trim_integerText, read?, Text.splitSign_integerText]
  simp only [Text.digitsValue_digitsOf, value]
  rw [if_pos ⟨some, digits, fits_iff.2 h⟩]

/-! ### Texts of points in time -/

/-- The point in time starts a day in UTC. -/
def Instant.AtMidnight (t : Instant) : Prop := t.seconds % 86400 = 0 ∧ t.nanos = 0

instance (t : Instant) : Decidable t.AtMidnight := inferInstanceAs (Decidable (_ ∧ _))

namespace Calendar

open Text

/-- Year, month and day of a point in time. -/
def dayText (t : Instant) : String :=
  let (year, month, day) := t.civil
  String.ofList (civilText year month day)

/-- Midnight is read from the day alone. -/
theorem readTimestamp_dayText {t : Instant} (plain : t.HasPlainYear) (midnight : t.AtMidnight) :
    blank (dayText t) = false ∧ readTimestamp (dayText t) = some t := by
  obtain ⟨year, month, day, date⟩ : ∃ y m d, t.civil = (y, m, d) := ⟨_, _, _, rfl⟩
  have years : 0 ≤ year ∧ year ≤ 9999 := by rwa [Instant.HasPlainYear, date] at plain
  have text : dayText t = String.ofList (dateDigits year.natAbs month day ++ []) := by
    rw [dayText, date]
    simp only [civilText, yearText, years, dateDigits, and_self, if_true, List.append_assoc,
      List.cons_append, List.append_nil]
  have clock : t.clock = (0, 0, 0) := by simp [Instant.clock, midnight.1, midnight.2]
  have fraction : t.fraction = 0 := by simp [Instant.fraction, midnight.2]
  have named := instant?_civil date clock
  let time : TimeOfDay := ⟨0, 0, 0, none, by decide, by decide, by decide⟩
  have tail : Tail time 0 [] := .midnight rfl rfl
  rw [fraction, ← Int.natAbs_of_nonneg years.1] at named
  obtain ⟨months, days, -⟩ := Date.civil_spec date
  have day_le := daysInMonth_le year month
  rw [text]
  constructor
  · obtain ⟨c, ds, digits, digit⟩ := exists_paddedDigits 4 year.natAbs
    simp [blank, dateDigits, digits, isBlank_of_isDigit digit]
  · rw [readTimestamp_eq, trimmed_dateDigits year.natAbs month day tail]
    exact findSome?_attempt_of_tail (by omega) (by omega) (by omega) tail named

end Calendar

/-! ### Texts of values -/

/-- The texts that stand for a value of a type. -/
def Literal.texts : FieldType → Literal → List String
  | .text, text s => [s]
  | .int32, number (.int n) => [Text.integerText n]
  | .int64, number (.int n) => [Text.integerText n]
  | .bool, bool b => [if b then "true" else "false"]
  | .timestamp, timestamp t =>
    Calendar.instantText t :: if t.AtMidnight then [Calendar.dayText t] else []
  | .tag tags, tag i => tags[i]?.toList
  | _, _ => []

/-- The values of the type have texts of their own: floating point numbers and decimals are left
    out, and tags have to be told apart up to case and to have no blanks around them. -/
def FieldType.Legible : FieldType → Prop
  | float32 | float64 | decimal => False
  | tag tags => TagSet.Distinct tags ∧ ∀ t ∈ tags, Text.trim t = t ∧ Text.blank t = false
  | text | int32 | int64 | bool | timestamp => True

/-- The value has a text that a criterion can carry: a text that is not blank, a point in time whose
    year has four digits, any value of another type. -/
def Literal.Legible : Literal → Prop
  | text s => Text.blank s = false
  | timestamp t => t.HasPlainYear
  | number _ | bool _ | tag _ => True

section

variable {type : FieldType} {l : Literal}

/-- A tag is found at its own place. -/
theorem tagIndex_getElem {tags : List String} (distinct : TagSet.Distinct tags) {i : Nat}
    (h : i < tags.length) (bare : Text.trim tags[i] = tags[i]) :
    tagIndex tags tags[i] = some i := by
  let s : TagSet := ⟨"", tags⟩
  let v : s.Variant := ⟨i, h⟩
  have tag : v.tag = tags[i] := v.tag_eq
  have read : s.parse tags[i] = .ok v := by
    rw [TagSet.parse_eq_ok_iff_sameName distinct, tag, bare]
    exact Text.sameName_refl _
  exact TagSet.parse_eq_ok_iff.1 read

/-- A value of the type has a text. -/
theorem Literal.texts_ne_nil (legible : type.Legible) (fits : l.Fits type) : l.texts type ≠ [] := by
  cases type <;> rcases l with _ | (_ | _ | _) | _ | _ | i <;>
    first | exact absurd fits id | exact absurd legible id | simp [texts]
  case tag.tag tags =>
    have place : i < tags.length := fits
    exact place

/-- Each of its texts is not blank and is read as the value. -/
theorem coerce_of_mem_texts (legible : type.Legible) (fits : l.Fits type) (shown : l.Legible)
    {text : String} (h : text ∈ l.texts type) :
    Text.blank text = false ∧ coerce text type = some l := by
  cases type with
  | float32 | float64 | decimal => exact absurd legible id
  | text =>
    rcases l with s | (_ | _ | _) | _ | _ | _ <;> try exact absurd fits id
    obtain rfl : text = s := by simpa [Literal.texts] using h
    exact ⟨shown, rfl⟩
  | int32 =>
    rcases l with _ | (n | _ | _) | _ | _ | _ <;> try exact absurd fits id
    obtain rfl : text = Text.integerText n := by simpa [Literal.texts] using h
    obtain ⟨given, read⟩ := IntWidth.read?_integerText (w := .bits32) fits
    exact ⟨given, by simp only [coerce, read, Option.map_some]⟩
  | int64 =>
    rcases l with _ | (n | _ | _) | _ | _ | _ <;> try exact absurd fits id
    obtain rfl : text = Text.integerText n := by simpa [Literal.texts] using h
    obtain ⟨given, read⟩ := IntWidth.read?_integerText (w := .bits64) fits
    exact ⟨given, by simp only [coerce, read, Option.map_some]⟩
  | bool =>
    rcases l with _ | (_ | _ | _) | b | _ | _ <;> try exact absurd fits id
    obtain rfl : text = if b then "true" else "false" := by simpa [Literal.texts] using h
    cases b <;> exact ⟨by decide, by decide⟩
  | timestamp =>
    rcases l with _ | (_ | _ | _) | _ | t | _ <;> try exact absurd fits id
    have read : Text.blank text = false ∧ Calendar.readTimestamp text = some t := by
      rcases List.mem_cons.1 h with rfl | day
      · exact Calendar.readTimestamp_instantText shown
      · split at day
        · obtain rfl := List.mem_singleton.1 day
          exact Calendar.readTimestamp_dayText shown ‹_›
        · cases day
    exact ⟨read.1, by simp [coerce, read.2]⟩
  | tag tags =>
    rcases l with _ | (_ | _ | _) | _ | _ | i <;> try exact absurd fits id
    obtain ⟨distinct, bare⟩ := legible
    have place : i < tags.length := fits
    obtain rfl : text = tags[i] := by simpa [Literal.texts, place] using h
    obtain ⟨trim, shown⟩ := bare tags[i] (List.getElem_mem place)
    exact ⟨shown, by simp [coerce, tagIndex_getElem distinct place trim]⟩

theorem FieldType.Legible.exact (legible : type.Legible) :
    type.kind ≠ .float ∧ type.kind ≠ .decimal := by
  cases type with
  | float32 | float64 | decimal => exact absurd legible id
  | _ => exact ⟨nofun, nofun⟩

/-- Two literals of such a type are the same only if they are equal. -/
theorem Literal.same_iff_eq {a : Literal} (kinds : a.kind = l.kind)
    (exact : l.kind ≠ .float ∧ l.kind ≠ .decimal) : a.same l = true ↔ a = l := by
  rcases a with _ | (_ | _ | _) | _ | _ | _ <;> rcases l with _ | (_ | _ | _) | _ | _ | _ <;>
    simp only [kind, reduceCtorEq] at kinds
  · simp [same]
  · simp [same, Number.compare?]
  · exact absurd rfl exact.1
  · exact absurd rfl exact.2
  · simp [same]
  · simp [same]
  · simp [same]

/-- A criterion on such a field that asks for a value accepts that value only. -/
theorem Test.accepts_equals_iff {v : Value} (exact : l.kind ≠ .float ∧ l.kind ≠ .decimal)
    (has : v.Has l.kind) : (equals l).accepts v = true ↔ v = .present l := by
  rcases v with _ | a
  · simp [accepts, Value.isNull]
  · simpa [accepts, Value.isNull, Value.equals] using Literal.same_iff_eq has exact

end

/-! ### Criteria -/

section

variable {ρ : Type} {s : Schema ρ} {f : Field ρ}

/-- No two fields have the same name up to case. -/
def Schema.Distinct (s : Schema ρ) : Prop :=
  s.fields.Pairwise fun f g => Text.sameName f.name g.name = false

instance (s : Schema ρ) : Decidable s.Distinct := inferInstanceAs (Decidable (List.Pairwise _ _))

/-- If names are distinct, a field is found by its name in any case. -/
theorem Schema.resolve_of_mem (distinct : s.Distinct) (member : f ∈ s.fields) {name : String}
    (same : Text.sameName f.name name = true) : s.resolve name = some f := by
  obtain ⟨before, after, split⟩ := List.append_of_mem member
  rw [Distinct, split, List.pairwise_append] at distinct
  refine resolve_eq_some_iff.2 ⟨before, after, split, same, fun g earlier => ?_⟩
  rw [← Text.sameName_right same]
  exact distinct.2.2 g earlier f List.mem_cons_self

/-- On a field whose type has legible values, every value is found by each of its texts, and by the
    name of the field in any case: the criterion compiles, and of all records with null or a value
    of the type it accepts those with that value. -/
theorem equals_own_text (distinct : s.Distinct) (member : f ∈ s.fields)
    (legible : f.type.Legible) {l : Literal} (fits : l.Fits f.type) (shown : l.Legible) :
    l.texts f.type ≠ [] ∧
      ∀ text ∈ l.texts f.type, ∀ name, Text.sameName f.name name = true →
        ∃ p, Criterion.compile s ⟨name, .equals, some text⟩ = .ok p ∧
          ∀ x, (f.read x).Has f.type.kind → (p.accepts x = true ↔ f.read x = .present l) := by
  refine ⟨l.texts_ne_nil legible fits, fun text own name same => ?_⟩
  obtain ⟨given, read⟩ := coerce_of_mem_texts legible fits shown own
  have found := s.resolve_of_mem distinct member same
  have literal : f.literal? (some text) = some l := by rw [f.literal?_of_not_blank given, read]
  have compiled : (Criterion.compile s ⟨name, .equals, some text⟩).toOption = _ :=
    Criterion.toOption_compile_equality found false rfl
  rw [literal, Option.map_some, exceptToOption_eq_some_iff] at compiled
  refine ⟨_, compiled, fun x has => ?_⟩
  rw [← fits.kind_eq] at has
  rw [Predicate.accepts_test]
  exact Test.accepts_equals_iff (fits.kind_eq ▸ legible.exact) has

/-- Midnight of a day, by the day and by the point in time. -/
theorem equals_own_text_midnight :
    let t := sampleStart
    (Literal.timestamp t).texts .timestamp = ["2024-01-01T00:00:00Z", "2024-01-01"] ∧
      ∀ text ∈ ["2024-01-01T00:00:00Z", "2024-01-01"],
        ∃ p, Criterion.compile User.shape.schema ⟨"CreatedAt", .equals, some text⟩ = .ok p ∧
          ∀ u : User, p.accepts u = true ↔ u.createdAt = t := by
  intro t
  have texts : (Literal.timestamp t).texts .timestamp = ["2024-01-01T00:00:00Z", "2024-01-01"] := by
    decide
  have member : User.createdAtField ∈ User.shape.schema.fields := by simp [User.shape]
  obtain ⟨-, found⟩ := equals_own_text (s := User.shape.schema) (l := .timestamp t)
    (by decide) member trivial trivial (show t.HasPlainYear by decide)
  refine ⟨texts, fun text own => ?_⟩
  obtain ⟨p, compiled, accepts⟩ := found text (texts ▸ own) "CreatedAt" (by decide)
  refine ⟨p, compiled, fun u => (accepts u rfl).trans ?_⟩
  simp [User.createdAtField, Field.required]

end

end RecordSearch
