import RecordSearch.Number.Double
import RecordSearch.Text.Digits
import RecordSearch.Text.Pieces

/-! Reading floating point numbers from text.

    The text is an optional sign and then either `inf`, `infinity` or `nan` in any case, or digits
    with at most one point among them and an optional exponent. The value is rounded once, from the
    exact decimal fraction. -/

namespace RecordSearch

/-- A decimal fraction `digits · 10 ^ exponent` with a sign, not rounded yet. -/
structure DecimalFraction where
  negative : Bool
  digits : Nat
  exponent : Int
  deriving DecidableEq, Repr

namespace DecimalFraction

/-- Beyond this many places before or after the point every number is infinite or zero. -/
def farAway : Int := 420

/-- Rounds by a rule that takes a sign and a fraction; hopeless exponents go to the ends at once. -/
def roundBy (x : DecimalFraction) (rule : Bool → Nat → Nat → Double) : Double :=
  let reach := x.exponent + (Text.digitsOf x.digits).length
  if x.digits = 0 then rule x.negative 0 1
  else if farAway < reach then .infinity x.negative
  else if reach < -farAway then rule x.negative 0 1
  else if 0 ≤ x.exponent then rule x.negative (x.digits * tenTo x.exponent.toNat) 1
  else rule x.negative x.digits (tenTo (-x.exponent).toNat)

end DecimalFraction

namespace Double

/-- An optional exponent `e`, sign, digits, up to the end of the text. -/
def readExponent : List Char → Option Int
  | [] => some 0
  | c :: s =>
    if c = 'e' ∨ c = 'E' then
      let (negative, ds) := Text.splitSign s
      if ds ≠ [] ∧ ds.all Char.isDigit then some (Text.signed negative (Text.digitsValue ds))
      else none
    else none

/-- Digits with at most one point among them, then an optional exponent. -/
def readFraction (negative : Bool) (s : List Char) : Option DecimalFraction :=
  let (whole, rest) := Text.leadingDigits s
  let (places, rest) := match rest with
    | '.' :: r => Text.leadingDigits r
    | r => ([], r)
  if whole.isEmpty && places.isEmpty then none
  else (readExponent rest).map fun e =>
    ⟨negative, Text.digitsValue (whole ++ places), e - places.length⟩

/-- Reads a number and rounds it by a rule for fractions. -/
def readBy (rule : Bool → Nat → Nat → Double) (s : List Char) : Option Double :=
  let (negative, body) := Text.splitSign s
  let word := String.ofList (body.map Char.toLower)
  if word = "inf" ∨ word = "infinity" then some (infinity negative)
  else if word = "nan" then some nan
  else (readFraction negative body).map (·.roundBy rule)

/-- Reads a number of 64 bits. -/
def read? : List Char → Option Double := readBy ofRatio

/-- Reads a number of 32 bits, which is also one of 64 bits. -/
def readSingle? : List Char → Option Double := readBy ofRatioSingle

end Double

end RecordSearch
