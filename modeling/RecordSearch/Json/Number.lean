import RecordSearch.Json
import RecordSearch.Number.Decimal
import RecordSearch.Number.Double.Shortest

/-! Numbers of JSON texts.

    A number without fraction and exponent is an integer when it fits 64 bits, signed or unsigned;
    `-0` is not. Every other number becomes a floating point number in a fixed way: as many leading
    digits as fit 64 bits, multiplied or divided by a power of ten, with a rounding at each step. -/

namespace RecordSearch.Json

/-- The parts of a written number. -/
structure NumberText where
  negative : Bool
  whole : List Char
  places : Option (List Char)
  exponent : Option (Bool × List Char)
  deriving DecidableEq, Repr

/-- The largest integer of 64 bits. -/
def wordLimit : Nat := 18446744073709551615

/-- Appends digits to a number as long as the result fits 64 bits; also counts the digits used. -/
def absorb : Nat → List Char → Nat × Nat
  | n, [] => (n, 0)
  | n, d :: ds =>
    let m := 10 * n + Text.digitsValue [d]
    if m ≤ wordLimit then let (r, used) := absorb m ds; (r, used + 1) else (n, 0)

/-- `x · 10 ^ e` for a number `x` without sign, none beyond the largest number. Powers of ten beyond
    the 308th are taken off in steps. -/
def scaleBy : Nat → Nat × Nat → Int → Option (Nat × Nat)
  | 0, x, _ => some x
  | fuel + 1, x, e =>
    if x.1 = 0 then some (0, 1)
    else if 308 < e then none
    else if 0 ≤ e then
      let p := Decimal.nearestDouble (tenTo e.toNat, 1)
      let y := Double.ofRatio false (x.1 * p.1) (x.2 * p.2)
      if y.isFinite then some y.ratio else none
    else
      let k := min (-e).toNat 308
      let p := Decimal.nearestDouble (tenTo k, 1)
      let y := Decimal.nearestDouble (x.1 * p.2, x.2 * p.1)
      if (-e).toNat ≤ 308 then some y else scaleBy fuel y (e + 308)

namespace NumberText

/-- The floating point number that is written, none if it is too large. -/
def toDouble? (t : NumberText) : Option Double :=
  let (n, used) := absorb 0 t.whole
  let (n, placesUsed) := absorb n (t.places.getD [])
  let start : Int := (t.whole.length - used : Nat) - (placesUsed : Int)
  let zero := Double.ofRatio t.negative 0 1
  let finish (e : Int) : Option Double :=
    (scaleBy 8 (Decimal.nearestDouble (n, 1)) e).map fun x => .ofRatio t.negative x.1 x.2
  match t.exponent with
  | none => finish start
  | some (down, ds) =>
    let e := Text.digitsValue ds
    if e < 2147483648 then finish (if down then start - e else start + e)
    else if n = 0 ∨ down then some zero
    else none

/-- The document that is written. -/
def toJson (t : NumberText) : Json :=
  let n := Text.digitsValue t.whole
  let asReal := match t.toDouble? with
    | some x => real x
    | none => gap .unreadable
  match t.places, t.exponent with
  | none, none =>
    if t.negative then
      if 0 < n ∧ n ≤ 9223372036854775808 then integer (-(n : Int)) else asReal
    else if n ≤ wordLimit then integer n else asReal
  | _, _ => asReal

end NumberText

/-! ### Writing -/

/-- A floating point number in digits: plain from 10⁻⁵ to 10¹⁶, else with an exponent; always with a
    point or an exponent. -/
def realText (x : Double) : List Char :=
  let (n, k) := x.shortest
  let ds := Text.digitsOf n
  let top := ds.length + k
  let body :=
    if n = 0 then ['0', '.', '0']
    else if 0 ≤ k ∧ top ≤ 16 then ds ++ List.replicate k.toNat '0' ++ ['.', '0']
    else if 0 < top ∧ top ≤ 16 then ds.take top.toNat ++ '.' :: ds.drop top.toNat
    else if -5 < top ∧ top ≤ 0 then '0' :: '.' :: List.replicate (-top).toNat '0' ++ ds
    else
      let e := (Text.integerText (top - 1)).toList
      match ds with
      | [d] => d :: 'e' :: e
      | d :: rest => d :: '.' :: rest ++ 'e' :: e
      | [] => []
  if x.negative then '-' :: body else body

end RecordSearch.Json
