import Mathlib.Data.List.Induction
import RecordSearch.Proofs.Typing

/-! The texts that integer fields take.

    What is left of a text without the blanks around it has to be digits behind at most one sign.
    Any number of zeros may stand in front. The digits denote a number of whatever size, and the
    width of the field decides whether it fits: one more below zero than above.

        text                    int32           int64
        +007                    7               7
        -2147483648             -2147483648     -2147483648
        2147483648              none            2147483648
        9223372036854775808     none            none
        +, --1, 1.0, 1 0        none            none -/

namespace RecordSearch

namespace Text

/-! ### The grammar -/

/-- One or more digits and the number they denote: the last digit counts once, and what stands before
    it ten times. -/
inductive DigitsDenote : List Char → Nat → Prop
  | digit {d : Nat} (small : d < 10) : DigitsDenote [d.digitChar] d
  | more {ds : List Char} {n d : Nat} (before : DigitsDenote ds n) (small : d < 10) :
      DigitsDenote (ds ++ [d.digitChar]) (10 * n + d)

/-- Digits behind at most one sign and the integer they denote. -/
inductive Denotes : List Char → Int → Prop
  | bare {ds : List Char} {n : Nat} (digits : DigitsDenote ds n) : Denotes ds n
  | plus {ds : List Char} {n : Nat} (digits : DigitsDenote ds n) : Denotes ('+' :: ds) n
  | minus {ds : List Char} {n : Nat} (digits : DigitsDenote ds n) : Denotes ('-' :: ds) (-n)

/-! ### Digits -/

variable {ds s : List Char} {n : Nat}

theorem isDigit_digitChar : ∀ {d : Nat}, d < 10 → d.digitChar.isDigit = true := by decide

/-- Every digit is that of a number below ten. -/
theorem exists_digitChar {c : Char} (digit : c.isDigit = true) : ∃ d < 10, c = d.digitChar := by
  obtain ⟨low, high⟩ := Char.isDigit_iff_toNat.1 digit
  simp at low high
  refine ⟨c.toNat - 48, by omega, ?_⟩
  rw [← Char.toNat_inj, Nat.toNat_digitChar_of_lt_ten (by omega)]
  omega

/-- The last digit counts once, and the value of what stands before it ten times. -/
theorem digitsValue_concat (ds : List Char) {d : Nat} (small : d < 10) :
    digitsValue (ds ++ [d.digitChar]) = 10 * digitsValue ds + d := by
  simp only [digitsValue, Nat.ofDigitChars_append,
    Nat.ofDigitChars_cons_digitChar_of_lt_ten small, Nat.ofDigitChars_nil]

/-- The grammar has the texts that consist of digits, with their values. -/
theorem digitsDenote_iff :
    DigitsDenote ds n ↔ ds ≠ [] ∧ ds.all Char.isDigit = true ∧ digitsValue ds = n := by
  constructor
  · intro h
    induction h with
    | @digit d small =>
      have value := digitsValue_concat [] small
      refine ⟨by simp, by simp [isDigit_digitChar small], ?_⟩
      simpa [digitsValue] using value
    | @more ds n d before small ih =>
      obtain ⟨-, digits, value⟩ := ih
      refine ⟨by simp, ?_, by rw [digitsValue_concat ds small, value]⟩
      rw [List.all_append, digits]
      simp [isDigit_digitChar small]
  · rintro ⟨some, digits, rfl⟩
    -- the grammar grows at its end, and so does the induction
    induction ds using List.reverseRecOn with
    | nil => exact absurd rfl some
    | append_singleton ds c ih =>
      rw [List.all_append, Bool.and_eq_true] at digits
      obtain ⟨d, small, rfl⟩ := exists_digitChar (by simpa using digits.2)
      rw [digitsValue_concat ds small]
      by_cases first : ds = []
      · subst first
        simpa [digitsValue] using DigitsDenote.digit small
      · exact .more (ih first digits.1) small

theorem DigitsDenote.exists_cons (h : DigitsDenote ds n) :
    ∃ c cs, ds = c :: cs ∧ c.isDigit = true := by
  obtain ⟨some, digits, -⟩ := digitsDenote_iff.1 h
  obtain ⟨c, cs, rfl⟩ := List.exists_cons_of_ne_nil some
  exact ⟨c, cs, rfl, List.all_eq_true.1 digits c List.mem_cons_self⟩

/-! ### Signs -/

/-- Digits have no sign in front. -/
theorem DigitsDenote.splitSign_eq (h : DigitsDenote ds n) : splitSign ds = (false, ds) := by
  obtain ⟨c, cs, rfl, digit⟩ := h.exists_cons
  rw [splitSign]
  · rintro s ⟨⟩
    cases digit
  · rintro s ⟨⟩
    cases digit

/-- The sign is told apart, and the rest has to be digits. -/
theorem denotes_iff {n : Int} :
    Denotes s n ↔ ∃ m, DigitsDenote (splitSign s).2 m ∧ n = signed (splitSign s).1 m := by
  constructor
  · rintro (digits | digits | digits)
    · rw [digits.splitSign_eq]
      exact ⟨_, digits, rfl⟩
    · exact ⟨_, digits, rfl⟩
    · exact ⟨_, digits, rfl⟩
  · rintro ⟨m, digits, rfl⟩
    revert digits
    rw [splitSign.eq_def]
    split
    · exact .minus
    · exact .plus
    · exact .bare

end Text

/-! ### Widths -/

/-- The reader of a width takes the texts of the grammar whose integers fit. -/
theorem IntWidth.read?_eq_some_iff {w : IntWidth} {s : List Char} {n : Int} :
    w.read? s = some n ↔ Text.Denotes s n ∧ -w.bound ≤ n ∧ n < w.bound := by
  simp only [read?, Option.ite_none_right_eq_some, Option.some.injEq, Text.denotes_iff,
    Text.digitsDenote_iff, fits_iff]
  constructor
  · rintro ⟨⟨some, digits, fits⟩, rfl⟩
    exact ⟨⟨_, ⟨some, digits, rfl⟩, rfl⟩, fits⟩
  · rintro ⟨⟨_, ⟨some, digits, rfl⟩, rfl⟩, fits⟩
    exact ⟨⟨some, digits, fits⟩, rfl⟩

/-! ### Fields -/

/-- A type reads from the text the integer that it denotes, if it has bounds that the integer keeps,
    and nothing else. -/
structure FieldType.ReadsInteger (type : FieldType) (bound : Int) (text : String) : Prop where
  accepts : ∀ l, coerce text type = some l ↔
    ∃ n, Text.Denotes (Text.trimmed text.toList) n ∧ -bound ≤ n ∧ n < bound ∧ l = .number (.int n)
  refuses : coerce text type = none ↔
    ∀ n, Text.Denotes (Text.trimmed text.toList) n → n < -bound ∨ bound ≤ n

/-- A type whose literals are the integers of a width reads the integers of that width. -/
theorem FieldType.readsInteger_of_width {type : FieldType} {w : IntWidth} {text : String}
    (read : coerce text type = (w.read? (Text.trimmed text.toList)).map fun n => .number (.int n)) :
    type.ReadsInteger w.bound text := by
  constructor
  · intro l
    simp only [read, Option.map_eq_some_iff, IntWidth.read?_eq_some_iff, and_assoc]
    simp only [eq_comm]
  · rw [read, Option.map_eq_none_iff, Option.eq_none_iff_forall_ne_some]
    refine forall_congr' fun n => ?_
    rw [ne_eq, IntWidth.read?_eq_some_iff]
    constructor
    · intro unfit denotes
      by_contra fits
      exact unfit ⟨denotes, by omega⟩
    · rintro far ⟨denotes, low, high⟩
      have := far denotes
      omega

/-- An integer field takes exactly the texts that are digits behind at most one sign, blanks around
    them apart, and denote an integer of its width, and reads this integer. The narrow type takes the
    texts that the wide type reads as an integer within the narrow bounds, and reads the same. -/
theorem coerce_integer (text : String) :
    FieldType.int64.ReadsInteger (2 ^ 63) text ∧ FieldType.int32.ReadsInteger (2 ^ 31) text ∧
      ∀ l, coerce text .int32 = some l ↔
        coerce text .int64 = some l ∧ ∃ n, l = .number (.int n) ∧ -2 ^ 31 ≤ n ∧ n < 2 ^ 31 := by
  have wide : FieldType.int64.ReadsInteger (2 ^ 63) text :=
    FieldType.readsInteger_of_width (w := .bits64) (by rw [coerce, Text.toList_trim])
  have narrow : FieldType.int32.ReadsInteger (2 ^ 31) text :=
    FieldType.readsInteger_of_width (w := .bits32) (by rw [coerce, Text.toList_trim])
  refine ⟨wide, narrow, fun l => ?_⟩
  rw [wide.accepts, narrow.accepts]
  constructor
  · rintro ⟨n, denotes, low, high, rfl⟩
    exact ⟨⟨n, denotes, by omega, by omega, rfl⟩, n, rfl, low, high⟩
  · rintro ⟨⟨n, denotes, -, -, rfl⟩, m, same, low, high⟩
    obtain rfl : n = m := by simpa using same
    exact ⟨n, denotes, low, high, rfl⟩

/-- The smallest integer of the narrow type, with zeros in front and blanks around it. -/
example : coerce " -002147483648\t" .int32 = some (.number (.int (-2147483648))) := by decide

end RecordSearch
