import RecordSearch.Proofs.Spelling

/-! The one-line form of criteria as a grammar.

    A text is cut at its first two colons. What is left of the first part without the blanks around
    it is the field, the second part names the operator, and everything behind the second colon is
    the value as it stands.

        text                    field    operator       value
        name:eq:Ada             name     Equals         Ada
         name :Not_Equals:      name     NotEquals      the empty text
        at:gt:2024-05-01T10:30  at       GreaterThan    2024-05-01T10:30
        name:is-null            name     IsNull         none
        name                    refused: no colon
        :eq:Ada                 refused: no field
        name:like:Ada           refused: no operator

    The form that a criterion is printed in belongs to the grammar again and is read as the same
    criterion. -/

namespace RecordSearch

/-! ### The first colon -/

namespace Text

variable {mark : Char} {a b s : List Char}

/-- A part without the mark is cut off at the mark behind it. -/
theorem cut_append (absent : mark ∉ a) (b : List Char) :
    cut mark (a ++ mark :: b) = some (a, b) := by
  induction a with
  | nil => simp [cut]
  | cons c a ih =>
    obtain ⟨other, absent⟩ := not_or.1 (mt List.mem_cons.2 absent)
    simp [cut, ih absent, Ne.symm other]

/-- A text without the mark is not cut. -/
theorem cut_of_not_mem (absent : mark ∉ s) : cut mark s = none := by
  induction s with
  | nil => rfl
  | cons c s ih =>
    obtain ⟨other, absent⟩ := not_or.1 (mt List.mem_cons.2 absent)
    simp [cut, ih absent, Ne.symm other]

end Text

/-! ### Names of operators -/

namespace Operator

/-- The text names the operator: without the blanks around it and the marks in it, it is one of the
    words for the operator, both in lower case. -/
def Named (text : List Char) (op : Operator) : Prop :=
  ∃ w ∈ op.words, letters (Text.trimmed text) = w.toList.map Char.toLower

/-- The words have no marks in them. -/
theorem letters_of_mem_words {op : Operator} {w : String} (h : w ∈ op.words) :
    letters w.toList = w.toList.map Char.toLower := by
  cases op <;> simp only [words, List.mem_cons, List.not_mem_nil, or_false] at h <;>
    (rcases h with rfl | rfl | rfl) <;> rfl

/-- What stands in the table is a word for the operator in lower case. -/
theorem exists_word_of_lookup {k : String} {op : Operator} (h : spellings.lookup k = some op) :
    ∃ w ∈ op.words, k.toList = w.toList.map Char.toLower := by
  have known : ∀ p ∈ spellings, ∃ w ∈ p.2.words, p.1.toList = w.toList.map Char.toLower := by
    decide
  obtain ⟨before, after, split, -⟩ := List.lookup_eq_some_iff.1 h
  exact known (k, op) (by simp [split])

/-- A text is read as the operator that it names. -/
theorem read?_eq_some_iff {raw : String} {op : Operator} :
    read? raw = some op ↔ Named raw.toList op := by
  rw [read?, key_eq]
  constructor
  · intro h
    simpa [Named] using exists_word_of_lookup h
  · rintro ⟨w, hw, same⟩
    rw [same, ← letters_of_mem_words hw]
    exact (lookup_of_mem_words hw).2

theorem named_name (op : Operator) : Named op.name.toList op := read?_eq_some_iff.1 op.read?_name

/-- A text that names no operator is refused with the text itself. -/
theorem read_of_not_named {text : List Char} (h : ∀ op, ¬Named text op) :
    read (String.ofList text) = .error (.unknownOperator (String.ofList text)) := by
  have unknown : read? (String.ofList text) = none := by
    rw [Option.eq_none_iff_forall_ne_some]
    intro op known
    exact h op (by simpa using read?_eq_some_iff.1 known)
  rw [read, unknown]

theorem read_of_named {text : List Char} {op : Operator} (h : Named text op) :
    read (String.ofList text) = .ok op := by
  have known : read? (String.ofList text) = some op := read?_eq_some_iff.2 (by simpa using h)
  rw [read, known]

theorem colon_not_mem_name (op : Operator) : ':' ∉ op.name.toList := by cases op <;> decide

end Operator

namespace Criterion

/-! ### Parts -/

/-- The second colon and what stands behind it, if there is a second colon. -/
def tail : Option (List Char) → List Char
  | none => []
  | some value => ':' :: value

/-- The parts of a text around its first two colons: the one before the first colon, the one behind
    it, and what follows the second. -/
structure Parts (text first second : List Char) (value : Option (List Char)) : Prop where
  split : text = first ++ ':' :: (second ++ tail value)
  first : ':' ∉ first
  second : ':' ∉ second

variable {text first second : List Char} {value : Option (List Char)} {raw : String} {c : Criterion}

/-- A text with a colon has parts. -/
theorem exists_parts (h : ':' ∈ text) : ∃ first second value, Parts text first second value := by
  obtain ⟨first, rest, rfl, absent⟩ := List.eq_append_cons_of_mem h
  by_cases more : ':' ∈ rest
  · obtain ⟨second, value, rfl, absent'⟩ := List.eq_append_cons_of_mem more
    exact ⟨first, second, some value, rfl, absent, absent'⟩
  · exact ⟨first, rest, none, by simp [tail], absent, more⟩

theorem Parts.colon_mem (h : Parts text first second value) : ':' ∈ text := by
  simp [h.split]

/-- What the reader makes of the parts. -/
theorem Parts.read_eq (h : Parts raw.toList first second value) :
    read raw =
      if first.all Text.isBlank = true then .error (.malformedCriterion raw)
      else (Operator.read (String.ofList second)).map fun op =>
        ⟨String.ofList (Text.trimmed first), op, value.map String.ofList⟩ := by
  have rest : Text.cut ':' (second ++ tail value) = value.map fun v => (second, v) := by
    cases value with
    | none => simpa [tail] using Text.cut_of_not_mem h.second
    | some v => exact Text.cut_append h.second v
  rw [read, h.split, Text.cut_append h.first]
  simp only [Text.trimmed_eq_nil_iff, rest]
  cases value with
  | none => simp [tail]
  | some v => rfl

/-! ### The grammar -/

/-- The texts of the grammar, with the criterion that each of them stands for. -/
inductive Written (text : List Char) : Criterion → Prop
  | intro {first second : List Char} {value : Option (List Char)} {op : Operator}
      (parts : Parts text first second value) (shown : first.all Text.isBlank = false)
      (named : Operator.Named second op) :
      Written text ⟨String.ofList (Text.trimmed first), op, value.map String.ofList⟩

/-- The texts outside of the grammar, with the complaint about each of them. -/
inductive Refused (raw : String) : RequestError → Prop
  | noColon (absent : ':' ∉ raw.toList) : Refused raw (.malformedCriterion raw)
  | noField {first second : List Char} {value : Option (List Char)}
      (parts : Parts raw.toList first second value) (blank : first.all Text.isBlank = true) :
      Refused raw (.malformedCriterion raw)
  | noOperator {first second : List Char} {value : Option (List Char)}
      (parts : Parts raw.toList first second value) (shown : first.all Text.isBlank = false)
      (unnamed : ∀ op, ¬Operator.Named second op) :
      Refused raw (.unknownOperator (String.ofList second))

/-- Every text is inside of the grammar or outside. -/
theorem written_or_refused (raw : String) :
    (∃ c, Written raw.toList c) ∨ ∃ e, Refused raw e := by
  by_cases colon : ':' ∈ raw.toList
  · obtain ⟨first, second, value, parts⟩ := exists_parts colon
    cases shown : first.all Text.isBlank with
    | true => exact .inr ⟨_, .noField parts shown⟩
    | false =>
      by_cases named : ∃ op, Operator.Named second op
      · obtain ⟨op, named⟩ := named
        exact .inl ⟨_, .intro parts shown named⟩
      · exact .inr ⟨_, .noOperator parts shown (not_exists.1 named)⟩
  · exact .inr ⟨_, .noColon colon⟩

theorem Written.read_eq (h : Written raw.toList c) : read raw = .ok c := by
  obtain ⟨parts, shown, named⟩ := h
  rw [parts.read_eq, Operator.read_of_named named, if_neg (by simp [shown])]
  rfl

theorem Refused.read_eq {e : RequestError} (h : Refused raw e) : read raw = .error e := by
  cases h with
  | noColon absent => simp only [read, Text.cut_of_not_mem absent]
  | noField parts blank => rw [parts.read_eq, if_pos blank]
  | noOperator parts shown unnamed =>
    rw [parts.read_eq, Operator.read_of_not_named unnamed, if_neg (by simp [shown])]
    rfl

/-- The reader accepts the texts of the grammar. -/
theorem read_eq_ok_iff : read raw = .ok c ↔ Written raw.toList c := by
  refine ⟨fun accepted => ?_, Written.read_eq⟩
  rcases written_or_refused raw with ⟨d, written⟩ | ⟨e, refused⟩
  · obtain rfl : d = c := by simpa [written.read_eq] using accepted
    exact written
  · simp [refused.read_eq] at accepted

/-- The reader refuses all others. -/
theorem read_eq_error_iff {e : RequestError} : read raw = .error e ↔ Refused raw e := by
  refine ⟨fun failed => ?_, Refused.read_eq⟩
  rcases written_or_refused raw with ⟨d, written⟩ | ⟨e', refused⟩
  · simp [written.read_eq] at failed
  · obtain rfl : e' = e := by simpa [refused.read_eq] using failed
    exact refused

/-! ### Printing -/

/-- The field of the criterion is one that a text can give: not blank, without blanks around it, and
    without a colon. -/
structure Printable (c : Criterion) : Prop where
  shown : Text.blank c.field = false
  bare : Text.trim c.field = c.field
  colon : ':' ∉ c.field.toList

/-- What is read from a text can be printed. -/
theorem Written.printable (h : Written text c) : c.Printable := by
  obtain @⟨first, second, value, op, parts, shown, -⟩ := h
  refine ⟨?_, ?_, ?_⟩
  · rw [Text.blank_ofList_trimmed, decide_eq_false_iff_not, Text.trimmed_eq_nil_iff, shown]
    simp
  · simp [Text.trim, Text.trimmed_trimmed]
  · intro colon
    have inside : ':' ∈ Text.trimmed first := by simpa using colon
    exact parts.first (Text.mem_of_mem_trimmed inside)

/-- The printed form of such a criterion is a text of the grammar, and stands for the criterion. -/
theorem Printable.written (h : c.Printable) : Written c.toText.toList c := by
  have parts : Parts c.toText.toList c.field.toList c.operator.name.toList
      (c.value.map String.toList) := by
    refine ⟨?_, h.colon, c.operator.colon_not_mem_name⟩
    cases hv : c.value <;> simp [toText, tail, hv]
  have written := Written.intro parts h.shown c.operator.named_name
  have field : String.ofList (Text.trimmed c.field.toList) = c.field := h.bare
  simpa [field, Function.comp_def] using written

/-- The criteria that are read from texts are the printable ones. -/
theorem exists_read_eq_ok_iff : (∃ raw, read raw = .ok c) ↔ c.Printable := by
  constructor
  · rintro ⟨raw, accepted⟩
    exact (read_eq_ok_iff.1 accepted).printable
  · intro printable
    exact ⟨c.toText, printable.written.read_eq⟩

/-- A text is read as the criterion that the grammar gives to it, and is accepted iff it has a
    colon, a field before the first colon and the name of an operator behind it. Any other text is
    refused with its own complaint. A criterion comes from some text iff it is read back from its
    printed form. -/
theorem reads_grammar :
    (∀ raw c, read raw = .ok c ↔ Written raw.toList c) ∧
    (∀ raw, (∃ c, read raw = .ok c) ↔
      ':' ∈ raw.toList ∧ ∃ first second value, Parts raw.toList first second value ∧
        first.all Text.isBlank = false ∧ ∃ op, Operator.Named second op) ∧
    (∀ raw e, read raw = .error e ↔ Refused raw e) ∧
    (∀ c, (∃ raw, read raw = .ok c) ↔ read c.toText = .ok c) ∧
    ∀ c, (∃ raw, read raw = .ok c) ↔ c.Printable := by
  refine ⟨fun _ _ => read_eq_ok_iff, fun raw => ?_, fun _ _ => read_eq_error_iff, fun c => ?_,
    fun _ => exists_read_eq_ok_iff⟩
  · constructor
    · rintro ⟨c, accepted⟩
      obtain ⟨parts, shown, named⟩ := read_eq_ok_iff.1 accepted
      exact ⟨parts.colon_mem, _, _, _, parts, shown, _, named⟩
    · rintro ⟨-, first, second, value, parts, shown, op, named⟩
      exact ⟨_, (Written.intro parts shown named).read_eq⟩
  · constructor
    · intro given
      exact (exists_read_eq_ok_iff.1 given).written.read_eq
    · intro accepted
      exact ⟨_, accepted⟩

/-- The value keeps colons and blanks, and may be empty. -/
example : read " name :NOT_equals: a:b" = .ok ⟨"name", .notEquals, some " a:b"⟩ ∧
    read "name:eq:" = .ok ⟨"name", .equals, some ""⟩ ∧
    read "name:is-null" = .ok ⟨"name", .isNull, none⟩ := ⟨rfl, rfl, rfl⟩

end Criterion

end RecordSearch
