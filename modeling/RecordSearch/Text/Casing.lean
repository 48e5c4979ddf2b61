import RecordSearch.Text.Ascii
import RecordSearch.Text.Casing.Table

/-! Lower and upper case of whole texts.

    Case is Unicode's default, with one rule that looks around: a capital sigma at the end of a word
    becomes the final sigma. A word ends where no letter with case follows, marks apart. ASCII
    letters are treated first, so on ASCII text both functions are the ASCII ones. -/

namespace RecordSearch.Text

open Casing

/-- Where a range moves the code point `n`, if it covers `n`. -/
def Casing.Shift.move? (r : Shift) (n : Nat) : Option Nat :=
  if r.first ≤ n ∧ n ≤ r.last ∧ (n - r.first) % r.stride = 0 then some (n + r.offset).toNat
  else none

/-- Moves a character by the first range that covers it. -/
def Casing.move (table : List Shift) (c : Char) : Char :=
  match table.findSome? (·.move? c.toNat) with
  | some n => Char.ofNat n
  | none => c

/-- The small form of a character on its own. -/
def lowerChar (c : Char) : List Char :=
  if c.toNat < 128 then [c.toLower]
  else if c = 'İ' then ['i', '\u0307']
  else [move smallForms c]

/-- The capital form of a character. -/
def upperChar (c : Char) : List Char :=
  if c.toNat < 128 then [c.toUpper]
  else match longCapitalForms.lookup c.toNat with
    | some ns => ns.map Char.ofNat
    | none => [move capitalForms c]

/-- Capital letters. -/
def isCapital (c : Char) : Bool :=
  if c.toNat < 128 then c.isUpper
  else capitalsWithoutSmallForm.contains c ||
    (lowerChar c != [c] && !titleLetters.contains c)

/-- The next character that is no mark is a letter with case. -/
def meetsLetter (s : List Char) : Bool :=
  match s.dropWhile caseIgnorable.contains with
  | [] => false
  | c :: _ => cased.contains c

/-- Lower case of the rest of a text, given what came `before` it, nearest character first. -/
def lowerFrom (before : List Char) : List Char → List Char
  | [] => []
  | c :: cs =>
    (if c = 'Σ' then [if meetsLetter before && !meetsLetter cs then 'ς' else 'σ'] else lowerChar c)
      ++ lowerFrom (c :: before) cs

/-- The text in lower case. -/
def lower (s : List Char) : List Char := lowerFrom [] s

/-- The text in upper case. -/
def upper (s : List Char) : List Char := s.flatMap upperChar

/-- The text in lower case. -/
def lowercase (s : String) : String := String.ofList (lower s.toList)

@[simp] theorem toList_lowercase (s : String) : (lowercase s).toList = lower s.toList := by
  simp [lowercase]

theorem lowerChar_ascii {c : Char} (h : c.toNat < 128) : lowerChar c = [c.toLower] := by
  simp [lowerChar, h]

theorem lowerFrom_ascii {s : List Char} (h : ∀ c ∈ s, c.toNat < 128) (before : List Char) :
    lowerFrom before s = s.map Char.toLower := by
  induction s generalizing before with
  | nil => rfl
  | cons c cs ih =>
    have hc := h c List.mem_cons_self
    have hs : c ≠ 'Σ' := by rintro rfl; exact absurd hc (by decide)
    simp [lowerFrom, hs, lowerChar_ascii hc, ih fun d hd => h d (List.mem_cons_of_mem c hd)]

/-- On ASCII text lower case only concerns A to Z. -/
theorem lower_ascii {s : List Char} (h : ∀ c ∈ s, c.toNat < 128) : lower s = s.map Char.toLower :=
  lowerFrom_ascii h []

end RecordSearch.Text
