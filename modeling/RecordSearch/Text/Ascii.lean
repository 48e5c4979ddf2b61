/-! Comparison of texts up to the case of the letters A to Z.

    Names of fields, shapes, tags and sort directions are compared this way: every other character,
    letters with accents included, has to be the same. -/

namespace RecordSearch.Text

/-- The text with A to Z in lower case and everything else as it is. -/
def foldAscii (s : String) : List Char := s.toList.map Char.toLower

/-- Equality up to the case of A to Z. -/
def sameName (a b : String) : Bool := foldAscii a == foldAscii b

theorem sameName_iff {a b : String} : sameName a b = true ↔ foldAscii a = foldAscii b := by
  simp [sameName]

theorem sameName_refl (a : String) : sameName a a = true := sameName_iff.2 rfl

theorem sameName_comm (a b : String) : sameName a b = sameName b a := by
  rw [Bool.eq_iff_iff, sameName_iff, sameName_iff]; exact eq_comm

theorem sameName_trans {a b c : String} (h : sameName a b = true) (k : sameName b c = true) :
    sameName a c = true := by
  rw [sameName_iff] at *; exact h.trans k

/-- The letter A to Z in lower case, any other character as it is. -/
def lowerFirst : List Char → List Char
  | [] => []
  | c :: cs => c.toLower :: cs

/-- The letter a to z in upper case, any other character as it is. -/
def upperFirst : List Char → List Char
  | [] => []
  | c :: cs => c.toUpper :: cs

end RecordSearch.Text
