/-! Blank characters and trimming.

    A character is blank when Unicode gives it the property White_Space. Trimming removes blanks at
    the ends only, and a text is blank when nothing is left of it. -/

namespace RecordSearch.Text

/-- The characters with the Unicode property White_Space. -/
def isBlank (c : Char) : Bool :=
  let n := c.toNat
  (9 ≤ n && n ≤ 13) || n == 0x20 || n == 0x85 || n == 0xA0 || n == 0x1680 ||
    (0x2000 ≤ n && n ≤ 0x200A) || n == 0x2028 || n == 0x2029 || n == 0x202F || n == 0x205F ||
    n == 0x3000

/-- What remains after the leading blanks. -/
def trimLeft (s : List Char) : List Char := s.dropWhile isBlank

/-- What remains before the trailing blanks. -/
def trimRight (s : List Char) : List Char := (s.reverse.dropWhile isBlank).reverse

/-- What remains between the blanks at both ends. -/
def trimmed (s : List Char) : List Char := trimRight (trimLeft s)

/-- The text without the blanks at both ends. -/
def trim (s : String) : String := String.ofList (trimmed s.toList)

/-- Nothing but blanks, possibly nothing at all. -/
def blank (s : String) : Bool := s.toList.all isBlank

@[simp] theorem toList_trim (s : String) : (trim s).toList = trimmed s.toList := by simp [trim]

end RecordSearch.Text
