/-! Decimal digits: reading runs of them, their value, and writing natural numbers. -/

namespace RecordSearch.Text

/-- The digits at the front and what follows them. -/
def leadingDigits (s : List Char) : List Char × List Char :=
  (s.takeWhile Char.isDigit, s.dropWhile Char.isDigit)

/-- The number that digits denote, the most significant first. -/
def digitsValue (ds : List Char) : Nat := Nat.ofDigitChars 10 ds 0

/-- The digits of a number, without leading zeros. -/
def digitsOf (n : Nat) : List Char := Nat.toDigits 10 n

/-- The digits of a number, with leading zeros up to `width` digits. -/
def paddedDigits (width n : Nat) : List Char :=
  List.replicate (width - (digitsOf n).length) '0' ++ digitsOf n

/-- Whether the text begins with `-`, and the text without its sign `-` or `+`. -/
def splitSign : List Char → Bool × List Char
  | '-' :: s => (true, s)
  | '+' :: s => (false, s)
  | s => (false, s)

/-- The number with a sign. -/
def signed (negative : Bool) (n : Nat) : Int := if negative then -(n : Int) else n

/-- The digits of an integer, with `-` in front of a negative one. -/
def integerText (n : Int) : String :=
  String.ofList (if n < 0 then '-' :: digitsOf n.natAbs else digitsOf n.natAbs)

theorem leadingDigits_append (s : List Char) :
    (leadingDigits s).1 ++ (leadingDigits s).2 = s := List.takeWhile_append_dropWhile

theorem leadingDigits_isDigit (s : List Char) : ∀ c ∈ (leadingDigits s).1, c.isDigit = true :=
  fun c hc => by
    induction s with
    | nil => simp [leadingDigits] at hc
    | cons a s ih =>
      by_cases ha : a.isDigit
      · simp only [leadingDigits, List.takeWhile_cons, ha, ↓reduceIte, List.mem_cons] at hc
        exact hc.elim (· ▸ ha) ih
      · simp [leadingDigits, ha] at hc

end RecordSearch.Text
