import RecordSearch.Proofs.Casing
import RecordSearch.Proofs.Operators
import RecordSearch.Proofs.Search

/-! Texts that are found where they stand.

    The text operators compare lower case with lower case. A value that stands in a text as it is
    written is found there if it is steady in its place, and a value that is steady everywhere is
    never missed. Only a capital sigma at an end of the value can make it unsteady.

        value    text           contains it    is found
        odos     street odos    yes            yes
        ΟΔΟΣ     ΟΔΟΣ ΑΘΗΝΑΣ    yes            yes
        ΟΔΟΣ     ΟΔΟΣΑ          yes            no -/

namespace RecordSearch

variable {ρ : Type} {s : Schema ρ} {name : String} {f : Field ρ} {v h : String} {x : ρ}

/-- What a text operator says of a text: whether the lower case of the value stands where it looks. -/
theorem Schema.verdict_of_text (hf : s.resolve name = some f) (text : f.type.isText = true)
    (given : Text.blank v = false) (read : f.read x = .present (.text h)) {op : Operator}
    {position : Position} {negate : Bool} (kind : op.kind = .text position negate) :
    s.verdict name (some v) x op =
      some (position.finds (Text.lower v.toList) (Text.lower h.toList) != negate) := by
  have value : (some v).filter (!Text.blank ·) = some v := by simp [Option.filter, given]
  rw [verdict_text hf (some v) x op kind, if_pos text, value, read, Option.map_some]
  simp only [Test.ofNeedle, Test.accepts, Value.text?, Text.toList_lowercase]

/-- At the front of a text, a value is found iff it is steady there. -/
theorem Position.finds_start (v q : List Char) :
    start.finds (Text.lower v) (Text.lower (v ++ q)) = decide (Text.Steady [] v q) := by
  rw [Bool.eq_iff_iff, decide_eq_true_iff, ← Text.lower_prefix_iff]
  exact List.isPrefixOf_iff_prefix

/-- At the end of a text, a value is found iff it is steady there. -/
theorem Position.finds_finish (p v : List Char) :
    finish.finds (Text.lower v) (Text.lower (p ++ v)) = decide (Text.Steady p v []) := by
  rw [Bool.eq_iff_iff, decide_eq_true_iff, ← Text.lower_suffix_iff]
  exact List.isSuffixOf_iff_suffix

/-- Anywhere in a text, a value is found if it is steady there. -/
theorem Position.finds_anywhere {p v q : List Char} (steady : Text.Steady p v q) :
    anywhere.finds (Text.lower v) (Text.lower (p ++ v ++ q)) = true :=
  Text.holds_iff.2 (Text.lower_infix steady)

/-- A value is found in every text that has it verbatim iff it is steady everywhere. -/
theorem Test.accepts_infix_iff (v : String) :
    (∀ h : String, v.toList <:+: h.toList →
        (ofNeedle .anywhere v false).accepts (.present (.text h)) = true) ↔
      ∀ p q, Text.Steady p v.toList q := by
  rw [← Text.lower_infix_iff]
  simp only [accepts_ofNeedle_anywhere, Value.text?, Option.some.injEq, exists_eq_left']
  constructor
  · intro found p q
    have inside := found (String.ofList (p ++ v.toList ++ q))
    rw [String.toList_ofList] at inside
    exact inside (List.infix_append p v.toList q)
  · rintro found h ⟨p, q, split⟩
    rw [← split]
    exact found p q

/-- Free text finds what one of its fields mentions. -/
theorem accepts_freeText_of_mentions (hf : s.resolve name = some f) (text : f.type.isText = true)
    (given : Text.blank v = false) (mentions : f.Mentions v x) {names : List String}
    (among : name ∈ names) : (freeText s names (some v)).value.accepts x = true := by
  have field : f ∈ s.textFields names :=
    List.mem_filterMap.2 ⟨name, among, by simp [hf, Option.filter, text]⟩
  rw [value_freeText s names given, Predicate.accepts_disjunction]
  exact .inr ⟨_, List.mem_map_of_mem field, (f.accepts_ofNeedle_iff v x).2 mentions⟩

/-- On a text field, a value that is not blank is found in every record whose text has it verbatim,
    if it is steady there: by the operators, and by free text over any fields among which is this
    one. At the front and at the end of a text it is found iff it is steady there, and no text is
    missed iff the value is steady everywhere, as it is without a capital sigma. -/
theorem verbatim_found (hf : s.resolve name = some f) (text : f.type.isText = true)
    (given : Text.blank v = false) :
    (∀ x h, f.read x = .present (.text h) →
      (∀ p q, h.toList = p ++ v.toList ++ q → Text.Steady p v.toList q →
        s.verdict name (some v) x .contains = some true ∧
          s.verdict name (some v) x .notContains = some false ∧
          ∀ names, name ∈ names → (freeText s names (some v)).value.accepts x = true) ∧
      (∀ q, h.toList = v.toList ++ q →
        s.verdict name (some v) x .startsWith = some (decide (Text.Steady [] v.toList q))) ∧
      (∀ p, h.toList = p ++ v.toList →
        s.verdict name (some v) x .endsWith = some (decide (Text.Steady p v.toList [])))) ∧
    ((∀ h : String, v.toList <:+: h.toList →
        (Test.ofNeedle .anywhere v false).accepts (.present (.text h)) = true) ↔
      ∀ p q, Text.Steady p v.toList q) ∧
    ('Σ' ∉ v.toList → ∀ p q, Text.Steady p v.toList q) := by
  refine ⟨fun x h read => ?_, Test.accepts_infix_iff v, Text.steady_of_not_mem⟩
  have said {op : Operator} {position : Position} {negate : Bool}
      (kind : op.kind = .text position negate) :=
    Schema.verdict_of_text hf text given read kind
  refine ⟨fun p q split steady => ⟨?_, ?_, fun names among => ?_⟩, fun q split => ?_,
    fun p split => ?_⟩
  · rw [said rfl, split, Position.finds_anywhere steady, Bool.bne_false]
  · rw [said rfl, split, Position.finds_anywhere steady, Bool.bne_true, Bool.not_true]
  · have inside : Text.lower v.toList <:+: Text.lower h.toList := split ▸ Text.lower_infix steady
    exact accepts_freeText_of_mentions hf text given ⟨h, read, inside⟩ among
  · rw [said rfl, split, Position.finds_start, Bool.bne_false]
  · rw [said rfl, split, Position.finds_finish, Bool.bne_false]

/-- A user of whom only the name is known. -/
def userNamed (fullName : String) : User where
  id := 1
  fullName := fullName
  email := ""
  password := ""
  gender := .other
  role := .user
  phoneNumber := none
  address := none
  dateOfBirth := none
  aboutMe := none
  profilePicture := none
  isEmailVerified := false
  createdAt := .epoch
  updatedAt := none

/-- A value that ends a word in the text is found there, with a final sigma on both sides. -/
theorem verbatim_found_whole_word :
    User.shape.schema.resolve "fullName" = some User.fullNameField ∧
      User.fullNameField.type.isText = true ∧ Text.blank "ΟΔΟΣ" = false ∧
      User.shape.schema.verdict "fullName" (some "ΟΔΟΣ") (userNamed "ΟΔΟΣ ΑΘΗΝΑΣ") .contains =
        some true := by
  have resolved : User.shape.schema.resolve "fullName" = some User.fullNameField := rfl
  have given : Text.blank "ΟΔΟΣ" = false := rfl
  have steady : Text.Steady [] "ΟΔΟΣ".toList " ΑΘΗΝΑΣ".toList := by decide
  have found := (verbatim_found resolved rfl given).1 (userNamed "ΟΔΟΣ ΑΘΗΝΑΣ") _ rfl
  exact ⟨resolved, rfl, given, (found.1 [] " ΑΘΗΝΑΣ".toList rfl steady).1⟩

/-- A value whose last sigma is final on its own is missed where the word goes on, and one that
    begins with a lone sigma is missed where the word began before it. -/
theorem verbatim_missed_within_word :
    "ΟΔΟΣ".toList <+: (userNamed "ΟΔΟΣΑ").fullName.toList ∧
      User.shape.schema.verdict "fullName" (some "ΟΔΟΣ") (userNamed "ΟΔΟΣΑ") .contains =
        some false ∧
      User.shape.schema.verdict "fullName" (some "ΟΔΟΣ") (userNamed "ΟΔΟΣΑ") .startsWith =
        some false ∧
      User.shape.schema.verdict "fullName" (some "ΟΔΟΣ") (userNamed "ΟΔΟΣΑ") .notContains =
        some true ∧
      (freeText User.shape.schema ["fullName"] (some "ΟΔΟΣ")).value.accepts (userNamed "ΟΔΟΣΑ") =
        false ∧
      "Σ".toList <:+ (userNamed "ΟΔΟΣ").fullName.toList ∧
      User.shape.schema.verdict "fullName" (some "Σ") (userNamed "ΟΔΟΣ") .endsWith =
        some false := by
  refine ⟨⟨['Α'], rfl⟩, ?_, ?_, ?_, ?_, ⟨['Ο', 'Δ', 'Ο'], rfl⟩, ?_⟩
  all_goals decide

end RecordSearch
