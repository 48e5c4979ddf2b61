import RecordSearch.Number.Double
import RecordSearch.Text.Digits

/-! Exact decimal numbers: a sign, up to 96 bits of digits, and up to 28 places after the point.

    The number of places is kept, so `1.50` and `1.5` are written differently; they compare equal,
    because order only looks at the value. -/

namespace RecordSearch

/-- One more than the largest number of 96 bits. -/
def Decimal.limit : Nat := 79228162514264337593543950336

/-- The number `± mantissa / 10 ^ scale`. -/
structure Decimal where
  negative : Bool
  mantissa : Nat
  scale : Nat
  mantissa_lt : mantissa < Decimal.limit
  scale_le : scale ≤ 28
  deriving DecidableEq, Repr

namespace Decimal

/-- The number with the given parts if they are within bounds. Zero may have a sign: it is written,
    and does not count in order. -/
def ofParts? (negative : Bool) (mantissa scale : Nat) : Option Decimal :=
  if h : mantissa < limit ∧ scale ≤ 28 then some ⟨negative, mantissa, scale, h.1, h.2⟩
  else none

/-- The mantissa with its sign. -/
def digits (x : Decimal) : Int := Text.signed x.negative x.mantissa

/-- The order of the values: `a / 10 ^ s` against `b / 10 ^ t` by cross multiplication. -/
def compare (x y : Decimal) : Ordering :=
  Ord.compare (x.digits * tenTo y.scale) (y.digits * tenTo x.scale)

/-- The order of a value and an integer. -/
def compareInt (x : Decimal) (n : Int) : Ordering := Ord.compare x.digits (n * tenTo x.scale)

/-- All places are written, and a zero before a point that would stand first. -/
def toText (x : Decimal) : String :=
  let ds := Text.paddedDigits (x.scale + 1) x.mantissa
  let whole := ds.take (ds.length - x.scale)
  let places := ds.drop (ds.length - x.scale)
  String.ofList ((if x.negative then ['-'] else []) ++ whole ++
    if x.scale = 0 then [] else '.' :: places)

/-! ### Reading -/

/-- What has been read of a number: its digits, those of them after the point, and whether the point
    and any digit have been met. -/
structure Draft where
  mantissa : Nat
  scale : Nat
  point : Bool
  started : Bool
  deriving Repr

/-- Rounds at a digit that no longer fits: one of five or more counts one up in the last place. If
    that needs a bit too many, the last place goes. -/
def Draft.roundAt (d : Draft) (next : Char) : Option Draft :=
  if Text.digitsValue [next] < 5 then some d
  else if d.mantissa + 1 < limit then some { d with mantissa := d.mantissa + 1 }
  else if d.scale = 0 then none
  else some { d with mantissa := (d.mantissa + 5) / 10, scale := d.scale - 1 }

/-- Ends a number that has no room for another place. Only digits and underscores may follow, and
    the first of the digits decides on rounding. -/
def Draft.close (d : Draft) (rest : List Char) : Option Draft :=
  if rest.all fun c => c.isDigit || c == '_' then
    match rest.find? Char.isDigit with
    | some next => d.roundAt next
    | none => some d
  else none

/-- Reads on from a draft to the end of the text. Underscores may stand after the first digit. -/
def Draft.read : Draft → List Char → Option Draft
  | d, [] => if d.started then some d else none
  | d, c :: cs =>
    if d.point ∧ 28 ≤ d.scale then d.close (c :: cs)
    else if c.isDigit then
      let m := 10 * d.mantissa + Text.digitsValue [c]
      if m < limit then read ⟨m, if d.point then d.scale + 1 else 0, d.point, true⟩ cs
      else if d.point then d.close (c :: cs)
      else none
    else if c = '.' ∧ ¬d.point then read { d with point := true } cs
    else if c = '_' ∧ d.started then read d cs
    else none

/-- Reads an optional sign and digits with at most one point among them. Places beyond the 28th, or
    beyond 96 bits, are rounded off at the first of them. Zero loses its sign. -/
def readPlain? (s : List Char) : Option Decimal :=
  let (negative, body) := Text.splitSign s
  (Draft.read ⟨0, 0, false, false⟩ body).bind fun d =>
    ofParts? (negative && d.mantissa != 0) d.mantissa d.scale

/-- Divides by a power of ten and keeps 28 places; the last digit that goes decides on rounding. The
    sign stays, also where nothing but zeros is left. -/
def lower? (x : Decimal) (e : Nat) : Option Decimal :=
  if x.scale + e ≤ 28 then ofParts? x.negative x.mantissa (x.scale + e)
  else ofParts? x.negative ((x.mantissa / tenTo (x.scale + e - 29) + 5) / 10) 28

/-- Multiplies by a power of ten; places are used up before zeros are added. -/
def raise? (x : Decimal) (e : Nat) : Option Decimal :=
  if e ≤ x.scale then ofParts? x.negative x.mantissa (x.scale - e)
  else ofParts? x.negative (x.mantissa * tenTo (e - x.scale)) 0

/-- Multiplies by the power of ten with an exponent of at most 28, which may have one sign, or a `+`
    behind a `-`. -/
def scaleBy? (x : Decimal) (exponent : List Char) : Option Decimal :=
  let (down, rest) := match exponent with
    | '-' :: rest => (true, rest)
    | rest => (false, rest)
  let ds := match rest with
    | '+' :: ds => ds
    | ds => ds
  let e := Text.digitsValue ds
  if ds = [] ∨ ¬ds.all Char.isDigit ∨ 28 < e then none
  else if down then x.lower? e else x.raise? e

/-- Reads a plain number, or one with an exponent behind `e` or `E`. -/
def read? (s : List Char) : Option Decimal :=
  match s.span fun c => c != 'e' && c != 'E' with
  | (plain, []) => readPlain? plain
  | (plain, _ :: exponent) => (readPlain? plain).bind (·.scaleBy? exponent)

/-! ### As a floating point number -/

/-- The fraction of the floating point number nearest to a fraction. -/
def nearestDouble (x : Nat × Nat) : Nat × Nat := (Double.ofRatio false x.1 x.2).ratio

/-- The floating point number for a decimal. Without places it is the nearest to that integer.
    Otherwise whole part and places are rounded on their own and added, and the sum is rounded again
    to the places of the decimal; every step of that rounds to a floating point number. -/
def toDouble (x : Decimal) : Double :=
  if x.scale = 0 then .ofInt x.digits
  else
    let unit := nearestDouble (tenTo x.scale, 1)
    let quotient (a b : Nat × Nat) := nearestDouble (a.1 * b.2, a.2 * b.1)
    let whole := nearestDouble (x.mantissa / tenTo x.scale, 1)
    let places := quotient (nearestDouble (x.mantissa % tenTo x.scale, 1)) unit
    if places.1 = 0 then .ofRatio x.negative whole.1 whole.2
    else
      let sum := nearestDouble (whole.1 * places.2 + places.1 * whole.2, whole.2 * places.2)
      let raised := nearestDouble (sum.1 * unit.1, sum.2 * unit.2)
      let rounded := quotient ((2 * raised.1 + raised.2) / (2 * raised.2), 1) unit
      .ofRatio x.negative rounded.1 rounded.2

end Decimal

end RecordSearch
