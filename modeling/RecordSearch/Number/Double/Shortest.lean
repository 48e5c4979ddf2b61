import RecordSearch.Number.Double
import RecordSearch.Text.Digits

/-! The fewest digits that denote a finite floating point number.

    All reals between the two midpoints to the neighbouring numbers round to a number; the midpoints
    themselves do so iff its significand is even. With `n` digits, only the two multiples of the
    `n`-digit unit next to the number can lie between the midpoints, so trying `n = 1, 2, …, 17`
    finds the fewest digits. -/

namespace RecordSearch.Double

/-- The reals that round to a number: `low / den` to `high / den`, ends included or not. -/
structure RoundingRange where
  low : Nat
  value : Nat
  high : Nat
  den : Nat
  closed : Bool
  deriving Repr

/-- The reals that round to a finite number without its sign, in quarters of its last unit. -/
def roundingRange (x : Double) : RoundingRange :=
  let (m, e) := x.parts
  let below := if m = exponentWeight ∧ -1074 < e then 1 else 2
  let up := if 0 ≤ e then twoTo e.toNat else 1
  let down := if 0 ≤ e then 1 else twoTo (-e).toNat
  ⟨(4 * m - below) * up, 4 * m * up, (4 * m + 2) * up, 4 * down, m % 2 = 0⟩

/-- Whether `digits · unit` is in the range, for the unit `up / down`. -/
def RoundingRange.covers (r : RoundingRange) (digits up down : Nat) : Bool :=
  let here := digits * up * r.den
  if r.closed then r.low * down ≤ here && here ≤ r.high * down
  else r.low * down < here && here < r.high * down

/-- The nearer of the two multiples of the unit next to the value, if one is in the range; halfway
    between two that are, the even one. -/
def RoundingRange.nearest? (r : RoundingRange) (up down : Nat) : Option Nat :=
  let under := r.value * down / (r.den * up)
  let rest := r.value * down % (r.den * up)
  match r.covers under up down, r.covers (under + 1) up down with
  | true, true =>
    match compare (2 * rest) (r.den * up) with
    | .lt => some under
    | .eq => some (if under % 2 = 0 then under else under + 1)
    | .gt => some (under + 1)
  | true, false => some under
  | false, true => some (under + 1)
  | false, false => none

/-- The least `k` from `k` on with `value / den < 10 ^ k`, looking `fuel` steps far. -/
def decimalTop (value den : Nat) : Nat → Int → Int
  | 0, k => k
  | fuel + 1, k =>
    let under := if 0 ≤ k then value < den * tenTo k.toNat else value * tenTo (-k).toNat < den
    if under then k else decimalTop value den fuel (k + 1)

/-- Digits and power of ten for the first digit count from `n` on that has a hit. A hit with a digit
    more is a power of ten, and then one digit is enough. -/
def shortestFrom (r : RoundingRange) (top : Int) : Nat → Nat → Nat × Int
  | 0, _ => (0, 0)
  | fuel + 1, n =>
    let k := top - n
    let hit := if 0 ≤ k then r.nearest? (tenTo k.toNat) 1 else r.nearest? 1 (tenTo (-k).toNat)
    match hit with
    | some ds => if ds = tenTo n then (1, top) else (ds, k)
    | none => shortestFrom r top fuel (n + 1)

/-- The fewest digits of a finite number without its sign, and their power of ten. -/
def shortest (x : Double) : Nat × Int :=
  let r := x.roundingRange
  if r.value = 0 then (0, 0)
  else shortestFrom r (decimalTop r.value r.den 700 (-330)) 17 1

end RecordSearch.Double
