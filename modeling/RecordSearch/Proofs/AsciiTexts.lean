import RecordSearch.Proofs.Spelling
import RecordSearch.Proofs.Verbatim

/-! Text operators on ASCII texts.

    On ASCII texts lower case only folds A to Z, each letter on its own. So the text operators look
    for the folded value in the folded text, and the case of letters has no effect on what they find.

        value    text       contains it    starts with it    ends with it
        AN       Anna       x              x
        na       ANNA       x                                x
        annab    Anna -/

namespace RecordSearch

/-! ### Folding -/

namespace Text

/-- Every character is one of the first 128. -/
def IsAscii (s : String) : Prop := ∀ c ∈ s.toList, c.toNat < 128

instance (s : String) : Decidable (IsAscii s) := List.decidableBAll _ s.toList

theorem lower_of_isAscii {s : String} (h : IsAscii s) : lower s.toList = foldAscii s := lower_ascii h

/-- A character is ASCII if its small form is. -/
theorem toNat_lt_of_toLower {c : Char} (h : c.toLower.toNat < 128) : c.toNat < 128 := by
  rcases toLower_eq_or c with same | ⟨-, high, -⟩
  · rwa [same] at h
  · omega

/-- The small form of an ASCII character is ASCII. -/
theorem toNat_toLower_lt {c : Char} (h : c.toNat < 128) : c.toLower.toNat < 128 := by
  rcases toLower_eq_or c with same | ⟨-, -, -, high⟩
  · rwa [same]
  · omega

/-- Changing the case of letters keeps a text in ASCII. -/
theorem IsAscii.of_sameName {a b : String} (ascii : IsAscii a) (same : sameName a b = true) :
    IsAscii b := by
  intro c hc
  have folded : c.toLower ∈ foldAscii a := by
    rw [sameName_iff.1 same]
    exact List.mem_map_of_mem hc
  obtain ⟨d, hd, lowered⟩ := List.mem_map.1 folded
  exact toNat_lt_of_toLower (lowered ▸ toNat_toLower_lt (ascii d hd))

end Text

/-! ### Positions -/

namespace Position

variable {needle text : List Char}

theorem finds_anywhere_iff :
    anywhere.finds needle text = true ↔ ∃ p q, text = p ++ needle ++ q := by
  rw [finds, Text.holds_iff]
  constructor
  · rintro ⟨p, q, split⟩
    exact ⟨p, q, split.symm⟩
  · rintro ⟨p, q, rfl⟩
    exact List.infix_append p needle q

theorem finds_start_iff : start.finds needle text = true ↔ ∃ q, text = needle ++ q := by
  rw [finds, List.isPrefixOf_iff_prefix]
  constructor
  · rintro ⟨q, split⟩
    exact ⟨q, split.symm⟩
  · rintro ⟨q, rfl⟩
    exact List.prefix_append needle q

theorem finds_finish_iff : finish.finds needle text = true ↔ ∃ p, text = p ++ needle := by
  rw [finds, List.isSuffixOf_iff_suffix]
  constructor
  · rintro ⟨p, split⟩
    exact ⟨p, split.symm⟩
  · rintro ⟨p, rfl⟩
    exact List.suffix_append p needle

end Position

/-! ### Operators -/

namespace Operator

/-- The operators that look at texts. -/
def textual : List Operator := [contains, notContains, startsWith, endsWith]

/-- The text operators compile for a value, and say where the value stands in a text. -/
structure Locates (value text : List Char) (finds : Operator → Option Bool) : Prop where
  compiles : ∀ op ∈ textual, (finds op).isSome = true
  contains : finds .contains = some true ↔ ∃ p q, text = p ++ value ++ q
  notContains : finds .notContains = some true ↔ ¬∃ p q, text = p ++ value ++ q
  startsWith : finds .startsWith = some true ↔ ∃ q, text = value ++ q
  endsWith : finds .endsWith = some true ↔ ∃ p, text = p ++ value

theorem exists_kind_of_textual {op : Operator} (h : op ∈ textual) :
    ∃ position negate, op.kind = .text position negate := by
  simp only [textual, List.mem_cons, List.not_mem_nil, or_false] at h
  rcases h with rfl | rfl | rfl | rfl
  · exact ⟨.anywhere, false, rfl⟩
  · exact ⟨.anywhere, true, rfl⟩
  · exact ⟨.start, false, rfl⟩
  · exact ⟨.finish, false, rfl⟩

end Operator

section

variable {ρ : Type} {s : Schema ρ} {name : String} {f : Field ρ} {v h : String} {x : ρ}
  (hf : s.resolve name = some f) (text : f.type.isText = true) (given : Text.blank v = false)
  (asciiValue : Text.IsAscii v) (read : f.read x = .present (.text h))
  (asciiText : Text.IsAscii h)

include hf text given asciiValue read asciiText

/-- Between ASCII texts an operator compares foldings. -/
theorem Schema.verdict_of_ascii {op : Operator} {position : Position} {negate : Bool}
    (kind : op.kind = .text position negate) :
    s.verdict name (some v) x op =
      some (position.finds (Text.foldAscii v) (Text.foldAscii h) != negate) := by
  rw [verdict_of_text hf text given read kind, Text.lower_of_isAscii asciiValue,
    Text.lower_of_isAscii asciiText]

/-- On a text field, for an ASCII value that is not blank and a record with an ASCII text, the text
    operators find the folded value in the folded text: as a part of it, at its front or at its end.
    So the case of letters, in the value and in the text, has no effect on what any of them says. -/
theorem ascii_text_operators :
    Operator.Locates (Text.foldAscii v) (Text.foldAscii h) (s.verdict name (some v) x) ∧
      ∀ (v' h' : String) (y : ρ), Text.sameName v v' = true → Text.sameName h h' = true →
        f.read y = .present (.text h') → ∀ op ∈ Operator.textual,
          s.verdict name (some v') y op = s.verdict name (some v) x op := by
  have said {op : Operator} {position : Position} {negate : Bool}
      (kind : op.kind = .text position negate) :=
    Schema.verdict_of_ascii hf text given asciiValue read asciiText kind
  refine ⟨⟨?_, ?_, ?_, ?_, ?_⟩, ?_⟩
  · intro op textual
    obtain ⟨position, negate, kind⟩ := Operator.exists_kind_of_textual textual
    rw [said kind, Option.isSome_some]
  · rw [said rfl, Bool.bne_false, Option.some.injEq, Position.finds_anywhere_iff]
  · rw [said rfl, Bool.bne_true, Option.some.injEq, Bool.not_eq_true', ← Bool.not_eq_true,
      Position.finds_anywhere_iff]
  · rw [said rfl, Bool.bne_false, Option.some.injEq, Position.finds_start_iff]
  · rw [said rfl, Bool.bne_false, Option.some.injEq, Position.finds_finish_iff]
  · intro v' h' y sameValue sameText read' op textual
    obtain ⟨position, negate, kind⟩ := Operator.exists_kind_of_textual textual
    have given' : Text.blank v' = false := Text.blank_congr sameValue ▸ given
    rw [said kind, Schema.verdict_of_ascii hf text given' (asciiValue.of_sameName sameValue) read'
      (asciiText.of_sameName sameText) kind, Text.sameName_iff.1 sameValue,
      Text.sameName_iff.1 sameText]

end

/-- The value stands in the middle of the name and again at its end, and is found in any case. -/
theorem ascii_text_operators_anna :
    let finds := User.shape.schema.verdict "FULLNAME" (some "AnN") (userNamed "Joanna Mann")
    User.shape.schema.resolve "FULLNAME" = some User.fullNameField ∧
      User.fullNameField.type.isText = true ∧ Text.blank "AnN" = false ∧ Text.IsAscii "AnN" ∧
      Text.IsAscii "Joanna Mann" ∧
      Operator.Locates (Text.foldAscii "AnN") (Text.foldAscii "Joanna Mann") finds ∧
      ∀ op ∈ Operator.textual,
        User.shape.schema.verdict "FULLNAME" (some "aNn") (userNamed "JOANNA mANN") op =
          finds op := by
  intro finds
  have asciiValue : Text.IsAscii "AnN" := by decide
  have asciiText : Text.IsAscii "Joanna Mann" := by decide
  obtain ⟨located, recased⟩ := ascii_text_operators (x := userNamed "Joanna Mann")
    (rfl : User.shape.schema.resolve "FULLNAME" = some User.fullNameField) rfl rfl asciiValue rfl
    asciiText
  exact ⟨rfl, rfl, rfl, asciiValue, asciiText, located,
    recased "aNn" "JOANNA mANN" (userNamed "JOANNA mANN") rfl rfl rfl⟩

end RecordSearch
