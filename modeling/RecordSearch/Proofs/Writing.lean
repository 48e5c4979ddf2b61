import RecordSearch.Json.Writer
import RecordSearch.Proofs.Reading

/-! JSON texts that are written and read back.

    A text is written between quotation marks with an escape for every character that may not stand
    there itself, an integer in digits without a leading zero. Around them there are brackets, commas
    and spaces, and both forms of writing agree with reading on those. Only gaps, floating point
    numbers and integers beyond 64 bits are left out here.

        object [("id", integer 7)]
          {"id":7}                on one line
          {⏎  "id": 7⏎}           with one member a line -/

namespace RecordSearch

namespace Text

/-- A number other than zero is written without a leading zero. -/
theorem exists_digitsOf_pos {n : Nat} (h : 0 < n) : ∃ c ds, digitsOf n = c :: ds ∧ c ≠ '0' := by
  induction n using Nat.strongRecOn with
  | _ n ih =>
    rw [digitsOf]
    by_cases short : n < 10
    · refine ⟨n.digitChar, [], Nat.toDigits_of_lt_base short, ?_⟩
      interval_cases n <;> decide
    · obtain ⟨c, ds, digits, first⟩ := ih (n / 10) (by omega) (by omega)
      rw [digitsOf] at digits
      refine ⟨c, ds ++ [(n % 10).digitChar], ?_, first⟩
      rw [Nat.toDigits_of_base_le (by decide) (by omega), digits, List.cons_append]

theorem isDigit_digitsOf (n : Nat) : ∀ c ∈ digitsOf n, c.isDigit = true := fun _ hc =>
  Nat.isDigit_of_mem_toDigits (by decide) (by decide) hc

theorem digitsValue_digitsOf (n : Nat) : digitsValue (digitsOf n) = n :=
  Nat.ofDigitChars_ten_toDigits

end Text

namespace Json

open Text

/-! ### Texts -/

/-- The number of a control is written with four digits. -/
theorem hexFour_control {n : Nat} (h : n < 0x20) (rest : List Char) :
    hexFour (List.replicate (4 - (Nat.toDigits 16 n).length) '0' ++ Nat.toDigits 16 n ++ rest) =
      some (n, rest) := by
  interval_cases n <;> rfl

/-- A character is written as an escape that stands for it, or as itself where it may stand. -/
theorem escapeChar_cases (c : Char) :
    (∃ s, escapeChar c = '\\' :: s ∧ ∀ rest, readEscape (s ++ rest) = some (some c, rest)) ∨
      (escapeChar c = [c] ∧ c ≠ '"' ∧ c ≠ '\\' ∧ ¬c.toNat < 0x20) := by
  by_cases named : c ∈ ['"', '\\', '\x08', '\x0c', '\n', '\r', '\t']
  · left
    simp only [List.mem_cons, List.not_mem_nil, or_false] at named
    rcases named with rfl | rfl | rfl | rfl | rfl | rfl | rfl
    all_goals exact ⟨_, rfl, fun _ => rfl⟩
  · simp only [List.mem_cons, List.not_mem_nil, or_false, not_or] at named
    obtain ⟨quote, backslash, h₁, h₂, h₃, h₄, h₅⟩ := named
    simp only [escapeChar, quote, backslash, h₁, h₂, h₃, h₄, h₅, if_false]
    by_cases control : c.toNat < 0x20
    · left
      refine ⟨'u' :: (List.replicate (4 - (Nat.toDigits 16 c.toNat).length) '0' ++
        Nat.toDigits 16 c.toNat), if_pos control, fun rest => ?_⟩
      have whole : c.toNat < 0xD800 ∨ 0xE000 ≤ c.toNat := by omega
      rw [List.cons_append]
      simp only [readEscape, hexFour_control control, if_pos whole, Char.ofNat_toNat]
    · exact .inr ⟨if_neg control, quote, backslash, control⟩

theorem length_escapeChar_pos (c : Char) : 0 < (escapeChar c).length := by
  obtain ⟨s, written, -⟩ | ⟨written, -⟩ := escapeChar_cases c
  · simp [written]
  · simp [written]

/-- A character is read back as it was written, in one step. -/
theorem readText_escapeChar (c : Char) (k : Nat) (done rest : List Char) :
    readText (k + 1) true done (escapeChar c ++ rest) = readText k true (c :: done) rest := by
  obtain ⟨s, written, read⟩ | ⟨written, quote, backslash, control⟩ := escapeChar_cases c
  · rw [written, List.cons_append, readText_escape, read]
    rfl
  · rw [written, List.singleton_append, readText, if_neg quote, if_neg backslash, if_neg control]

/-- The characters of a text are read up to the closing mark. -/
theorem readText_flatMap (cs done rest : List Char) {k : Nat}
    (enough : (cs.flatMap escapeChar).length < k) :
    readText k true done (cs.flatMap escapeChar ++ '"' :: rest) =
      some (text (String.ofList (done.reverse ++ cs)), rest) := by
  induction cs generalizing done k with
  | nil =>
    obtain ⟨k, rfl⟩ : ∃ k', k = k' + 1 := ⟨k - 1, by omega⟩
    rw [List.flatMap_nil, List.nil_append, readText, if_pos rfl, if_pos rfl, List.append_nil]
  | cons c cs ih =>
    rw [List.flatMap_cons, List.length_append] at enough
    have one := length_escapeChar_pos c
    obtain ⟨k, rfl⟩ : ∃ k', k = k' + 1 := ⟨k - 1, by omega⟩
    rw [List.flatMap_cons, List.append_assoc, readText_escapeChar, ih (c :: done) (by omega),
      List.reverse_cons, List.append_assoc, List.singleton_append]

theorem takes_textLiteral (s : String) : Takes (text s) (textLiteral s) := by
  have read : ∀ t k, (s.toList.flatMap escapeChar ++ ['"']).length ≤ k →
      readText k true [] (s.toList.flatMap escapeChar ++ ['"'] ++ t) = some (text s, t) := by
    intro t k enough
    rw [List.length_append, List.length_singleton] at enough
    rw [List.append_assoc, List.singleton_append, readText_flatMap s.toList [] t (by omega),
      List.reverse_nil, List.nil_append, String.ofList_toList]
  exact takes_text read

/-! ### Integers -/

/-- The digits of a number are read as a number without fraction and exponent. -/
theorem readUnsigned_digitsOf (negative : Bool) (n : Nat) {t : List Char} (stops : Stops t) :
    readUnsigned negative (digitsOf n ++ t) = some (⟨negative, digitsOf n, none, none⟩, t) := by
  have run : leadingDigits (digitsOf n ++ t) = (digitsOf n, t) :=
    leadingDigits_append_of_ends (isDigit_digitsOf n) fun c hc => (stops c hc).1
  have places : readPlaces t = some (none, t) := by
    rw [readPlaces]
    rintro s rfl
    exact (stops '.' rfl).2.1 rfl
  have rest : readFrom negative (digitsOf n) t = some (⟨negative, digitsOf n, none, none⟩, t) := by
    simp only [readFrom, places, readExponent_of_stops stops, Option.bind_eq_bind,
      Option.bind_some]
  simp only [readUnsigned, run]
  split
  next none => exact absurd none Nat.toDigits_ne_nil
  next more zeros =>
    exfalso
    rcases Nat.eq_zero_or_pos n with rfl | positive
    · cases zeros
    · obtain ⟨c, ds, digits, first⟩ := exists_digitsOf_pos positive
      rw [digits] at zeros
      cases zeros
      exact first rfl
  next => exact rest

theorem takes_integer {n : Int} (low : -9223372036854775808 ≤ n) (high : n ≤ wordLimit) :
    Takes (integer n) (integerText n).toList := by
  obtain ⟨c, ds, digits⟩ : ∃ c ds, digitsOf n.natAbs = c :: ds :=
    List.exists_cons_of_ne_nil Nat.toDigits_ne_nil
  have digit : c.isDigit = true := isDigit_digitsOf n.natAbs c (digits ▸ List.mem_cons_self)
  have notMinus : c ≠ '-' := by
    rintro rfl
    cases digit
  have read (negative : Bool) {t : List Char} (stops : Stops t) :=
    readUnsigned_digitsOf negative n.natAbs stops
  rw [integerText, String.toList_ofList]
  split
  case isTrue negative =>
    have said : integer n = (⟨true, digitsOf n.natAbs, none, none⟩ : NumberText).toJson := by
      have range : 0 < n.natAbs ∧ n.natAbs ≤ 9223372036854775808 := by omega
      have back : -(n.natAbs : Int) = n := by omega
      simp only [NumberText.toJson, digitsValue_digitsOf, if_true, if_pos range, back]
    rw [said]
    refine takes_number (.inl rfl) fun t stops => ?_
    rw [readNumber_minus, read true stops]
  case isFalse positive =>
    have said : integer n = (⟨false, digitsOf n.natAbs, none, none⟩ : NumberText).toJson := by
      have range : n.natAbs ≤ wordLimit := by omega
      have back : (n.natAbs : Int) = n := by omega
      simp only [NumberText.toJson, digitsValue_digitsOf, Bool.false_eq_true, if_false,
        if_pos range, back]
    rw [said, digits]
    rw [digits] at read
    refine takes_number (.inr digit) fun t stops => ?_
    rw [readNumber_of_ne notMinus, ← List.cons_append, read false stops]

theorem takes_bool (b : Bool) : Takes (bool b) (scalarText (bool b)) := by
  cases b with
  | false => exact takes_word (s := "alse".toList) rfl fun _ _ => rfl
  | true => exact takes_word (s := "rue".toList) rfl fun _ _ => rfl

theorem takes_null : Takes null (scalarText null) :=
  takes_word (s := "ull".toList) rfl fun _ _ => rfl

/-! ### Documents -/

mutual

/-- Whether a document has no gap, no floating point number, and no integer beyond 64 bits. -/
def lossless : Json → Bool
  | array items => losslessItems items
  | object members => losslessMembers members
  | integer n => -9223372036854775808 ≤ n && n ≤ wordLimit
  | real _ | gap _ => false
  | _ => true

/-- `lossless` for the items of an array. -/
def losslessItems : List Json → Bool
  | [] => true
  | v :: vs => lossless v && losslessItems vs

/-- `lossless` for the members of an object. -/
def losslessMembers : List (String × Json) → Bool
  | [] => true
  | (_, v) :: ms => lossless v && losslessMembers ms

end

theorem lossless_integer {n : Int} :
    (integer n).lossless = true ↔ -9223372036854775808 ≤ n ∧ n ≤ wordLimit := by
  simp [lossless]

theorem losslessItems_cons {v : Json} {vs : List Json} :
    losslessItems (v :: vs) = true ↔ v.lossless = true ∧ losslessItems vs = true := by
  rw [losslessItems, Bool.and_eq_true]

theorem losslessMembers_cons {n : String} {v : Json} {ms : List (String × Json)} :
    losslessMembers ((n, v) :: ms) = true ↔ v.lossless = true ∧ losslessMembers ms = true := by
  rw [losslessMembers, Bool.and_eq_true]

theorem all_nil : ([] : List Char).all isSpace = true := rfl

theorem all_blank : [' '].all isSpace = true := rfl

theorem all_newLine (level : Nat) : (newLine level).all isSpace = true := by
  simp [newLine, isSpace]

/-- A name, a colon, maybe space, and a text of a document. -/
theorem memberText {v : Json} {p space : List Char} (n : String) (document : Takes v p)
    (blank : space.all isSpace = true) : MemberText (n, v) (textLiteral n ++ ':' :: (space ++ p)) :=
  have quote : skipSpace (textLiteral n) = textLiteral n := skipSpace_cons (by decide) _
  ⟨text n, _, v, _, rfl, ⟨⟨_, quote⟩, takes_textLiteral n⟩, document.space_append blank, rfl⟩

mutual

/-- The text of a document on one line is a text of the document. -/
theorem takes_compactChars : ∀ v : Json, v.lossless = true → Takes v (compactChars v)
  | null, _ => takes_null
  | bool b, _ => takes_bool b
  | integer _, h => takes_integer (lossless_integer.1 h).1 (lossless_integer.1 h).2
  | text s, _ => takes_textLiteral s
  | array [], _ => takes_array_nil all_nil
  | array (v :: vs), h => by
    obtain ⟨first, others⟩ := losslessItems_cons.1 h
    exact takes_array (itemsText_compact vs others (takes_compactChars v first))
  | object [], _ => takes_object_nil all_nil
  | object ((n, v) :: ms), h => by
    obtain ⟨first, others⟩ := losslessMembers_cons (n := n).1 h
    have member := memberText n (takes_compactChars v first) all_nil
    have members := takes_object (membersText_compact ms others member)
    simpa only [compactChars, List.nil_append, List.append_assoc, List.cons_append] using members

/-- Further items are a text of themselves behind a text of the first. -/
theorem itemsText_compact : ∀ vs : List Json, losslessItems vs = true →
    ∀ {v : Json} {p : List Char}, Takes v p → ItemsText (v :: vs) (p ++ compactItems vs)
  | [], _, _, _, item => by
    rw [compactItems, List.append_nil]
    exact .one item
  | w :: ws, h, _, _, item => by
    obtain ⟨first, others⟩ := losslessItems_cons.1 h
    exact .cons item (itemsText_compact ws others (takes_compactChars w first))

/-- Further members are a text of themselves behind a text of the first. -/
theorem membersText_compact : ∀ ms : List (String × Json), losslessMembers ms = true →
    ∀ {m : String × Json} {p : List Char}, MemberText m p →
      MembersText (m :: ms) (p ++ compactMembers ms)
  | [], _, _, _, member => by
    rw [compactMembers, List.append_nil]
    exact .one member
  | (n, v) :: ms, h, _, _, member => by
    obtain ⟨first, others⟩ := losslessMembers_cons.1 h
    have next := memberText n (takes_compactChars v first) all_nil
    exact .cons member (membersText_compact ms others next)

end

theorem ItemsText.append_space {vs : List Json} {p space : List Char} (h : ItemsText vs p)
    (blank : space.all isSpace = true) : ItemsText vs (p ++ space) := by
  induction h with
  | one item => exact .one (item.append_space blank)
  | cons item _ ih =>
    rw [List.append_assoc, List.cons_append]
    exact .cons item ih

theorem MemberText.append_space {m : String × Json} {p space : List Char} (h : MemberText m p)
    (blank : space.all isSpace = true) : MemberText m (p ++ space) := by
  obtain ⟨key, name, v, value, rfl, named, document, rfl⟩ := h
  exact ⟨key, name, v, value ++ space, by simp, named, document.append_space blank, rfl⟩

theorem MembersText.append_space {ms : List (String × Json)} {p space : List Char}
    (h : MembersText ms p) (blank : space.all isSpace = true) : MembersText ms (p ++ space) := by
  induction h with
  | one member => exact .one (member.append_space blank)
  | cons member _ ih =>
    rw [List.append_assoc, List.cons_append]
    exact .cons member ih

mutual

/-- The text of a document on several lines is a text of the document. -/
theorem takes_prettyChars : ∀ (v : Json) (level : Nat), v.lossless = true →
    Takes v (prettyChars level v)
  | null, _, _ => takes_null
  | bool b, _, _ => takes_bool b
  | integer _, _, h => takes_integer (lossless_integer.1 h).1 (lossless_integer.1 h).2
  | text s, _, _ => takes_textLiteral s
  | array [], _, _ => takes_array_nil all_nil
  | array (v :: vs), level, h => by
    obtain ⟨first, others⟩ := losslessItems_cons.1 h
    have item := (takes_prettyChars v (level + 1) first).space_append (all_newLine (level + 1))
    have items := itemsText_pretty vs (level + 1) others item
    have whole := takes_array (items.append_space (all_newLine level))
    simpa only [prettyChars, List.append_assoc, List.cons_append] using whole
  | object [], _, _ => takes_object_nil all_nil
  | object ((n, v) :: ms), level, h => by
    obtain ⟨first, others⟩ := losslessMembers_cons (n := n).1 h
    have member := memberText n (takes_prettyChars v (level + 1) first) all_blank
    have members := membersText_pretty ms (level + 1) others member
    have whole := takes_object
      ((members.append_space (all_newLine level)).space_append (all_newLine (level + 1)))
    simpa only [prettyChars, List.nil_append, List.append_assoc, List.cons_append] using whole

/-- Further items on lines of their own are a text of themselves behind a text of the first. -/
theorem itemsText_pretty : ∀ (vs : List Json) (level : Nat), losslessItems vs = true →
    ∀ {v : Json} {p : List Char}, Takes v p → ItemsText (v :: vs) (p ++ prettyItems level vs)
  | [], _, _, _, _, item => by
    rw [prettyItems, List.append_nil]
    exact .one item
  | w :: ws, level, h, _, _, item => by
    obtain ⟨first, others⟩ := losslessItems_cons.1 h
    have next := (takes_prettyChars w level first).space_append (all_newLine level)
    exact .cons item (itemsText_pretty ws level others next)

/-- Further members on lines of their own are a text of themselves behind a text of the first. -/
theorem membersText_pretty : ∀ (ms : List (String × Json)) (level : Nat),
    losslessMembers ms = true → ∀ {m : String × Json} {p : List Char}, MemberText m p →
      MembersText (m :: ms) (p ++ prettyMembers level ms)
  | [], _, _, _, _, member => by
    rw [prettyMembers, List.append_nil]
    exact .one member
  | (n, v) :: ms, level, h, _, _, member => by
    obtain ⟨first, others⟩ := losslessMembers_cons.1 h
    have next := memberText n (takes_prettyChars v level first) all_blank
    have rest := (membersText_pretty ms level others next).space_append (all_newLine level)
    have whole := MembersText.cons member rest
    simpa only [prettyMembers, List.nil_append, List.append_assoc, List.cons_append] using whole

end

/-! ### Whole texts -/

theorem parse_compact {v : Json} (h : v.lossless = true) : parse v.compact = (v, true) := by
  rw [parse_eq_iff, compact, String.toList_ofList]
  exact takes_compactChars v h

theorem parse_pretty {v : Json} (h : v.lossless = true) : parse v.pretty = (v, true) := by
  rw [parse_eq_iff, pretty, String.toList_ofList]
  exact takes_prettyChars v 0 h

end Json

end RecordSearch
