import RecordSearch.Number.Power

/-! Binary floating point numbers of 64 bits, by exact arithmetic on natural numbers.

    A number is its bit pattern. Rounding goes from an exact fraction to the nearest number of a
    format, a tie to the even significand; the same rule with a shorter significand gives the
    single format, whose numbers are all numbers of the double format too. Order needs no rounding:
    among numbers of one sign it is the order of the bit patterns. -/

namespace RecordSearch

/-- The significands and exponents of a binary format: a finite number is `m · 2 ^ e` with
    `m < 2 ^ precision` and `minExponent ≤ e ≤ maxExponent`. -/
structure BinaryFormat where
  precision : Nat
  minExponent : Int
  maxExponent : Int
  deriving DecidableEq, Repr

namespace BinaryFormat

/-- Numbers of 32 bits. -/
def single : BinaryFormat := ⟨24, -149, 104⟩

/-- Numbers of 64 bits. -/
def double : BinaryFormat := ⟨53, -1074, 971⟩

/-- The natural number nearest to `num / den`, a tie to the even one. -/
def nearestEven (num den : Nat) : Nat :=
  let q := num / den
  let twice := 2 * (num % den)
  if twice < den ∨ (twice = den ∧ q % 2 = 0) then q else q + 1

/-- The fraction `num / den` counted in units of `2 ^ e`. -/
def inUnits (num den : Nat) (e : Int) : Nat × Nat :=
  if 0 ≤ e then (num, den * twoTo e.toNat) else (num * twoTo (-e).toNat, den)

/-- The exponent of the highest power of two that is at most `num / den`. -/
def topExponent (num den : Nat) : Int :=
  let guess : Int := (num.log2 : Int) - den.log2
  let (n, d) := inUnits num den guess
  if d ≤ n then guess else guess - 1

/-- The significand and exponent nearest to `num / den`; nothing when that is beyond the format. -/
def round (f : BinaryFormat) (num den : Nat) : Option (Nat × Int) :=
  if num = 0 then some (0, f.minExponent)
  else
    let e := max f.minExponent (topExponent num den - ((f.precision : Int) - 1))
    let (n, d) := inUnits num den e
    let m := nearestEven n d
    if f.maxExponent < e ∨ (e = f.maxExponent ∧ m = twoTo f.precision) then none else some (m, e)

end BinaryFormat

/-- A number of 64 bits, as its bit pattern. -/
structure Double where
  bits : UInt64
  deriving DecidableEq, Repr

namespace Double

/-- The weight of the sign in the bit pattern. -/
def signWeight : Nat := 0x8000000000000000

/-- The weight of the lowest bit of the exponent in the bit pattern. -/
def exponentWeight : Nat := 0x10000000000000

/-- The bit pattern of infinity: all bits of the exponent. -/
def infinityPattern : Nat := 0x7FF * exponentWeight

/-- The number with a sign and the other 63 bits. -/
def ofPattern (negative : Bool) (pattern : Nat) : Double :=
  ⟨UInt64.ofNat (pattern + if negative then signWeight else 0)⟩

/-- Not a number. -/
def nan : Double := ofPattern false (infinityPattern + 0x8000000000000)

/-- Infinity with a sign. -/
def infinity (negative : Bool) : Double := ofPattern negative infinityPattern

/-- The number nearest to `num / den` with a sign, infinity beyond the largest number. A significand
    `m` with exponent `e` has the pattern `(e + 1074) · 2 ^ 52 + m`, also when `m` has no leading
    one or was rounded up to the next power of two. -/
def ofRatio (negative : Bool) (num den : Nat) : Double :=
  match BinaryFormat.double.round num den with
  | some (m, e) => ofPattern negative ((e + 1074).toNat * exponentWeight + m)
  | none => infinity negative

/-- The number nearest to an integer. -/
def ofInt (n : Int) : Double := ofRatio (n < 0) n.natAbs 1

/-- The number of the single format nearest to `num / den`. -/
def ofRatioSingle (negative : Bool) (num den : Nat) : Double :=
  match BinaryFormat.single.round num den with
  | some (m, e) =>
    if 0 ≤ e then ofRatio negative (m * twoTo e.toNat) 1 else ofRatio negative m (twoTo (-e).toNat)
  | none => infinity negative

/-- The bits without the sign. -/
def pattern (x : Double) : Nat := x.bits.toNat % signWeight

/-- The sign bit. -/
def negative (x : Double) : Bool := signWeight ≤ x.bits.toNat

/-- Whether this is not a number. -/
def isNaN (x : Double) : Bool := infinityPattern < x.pattern

/-- Whether this is a finite number. -/
def isFinite (x : Double) : Bool := x.pattern < infinityPattern

/-- The place of a number in the order of all numbers; the two zeros share one place. -/
def place (x : Double) : Int := if x.negative then -(x.pattern : Int) else x.pattern

/-- The order of two numbers, none if one of them is not a number. -/
def compare? (x y : Double) : Option Ordering :=
  if x.isNaN || y.isNaN then none else some (compare x.place y.place)

/-- Significand and exponent of a finite number without its sign. -/
def parts (x : Double) : Nat × Int :=
  let e : Nat := x.pattern / exponentWeight
  let f := x.pattern % exponentWeight
  if e = 0 then (f, -1074) else (f + exponentWeight, (e : Int) - 1075)

/-- A finite number without its sign, as a fraction. -/
def ratio (x : Double) : Nat × Nat :=
  let (m, e) := x.parts
  if 0 ≤ e then (m * twoTo e.toNat, 1) else (m, twoTo (-e).toNat)

/-- The bit pattern in sixteen hexadecimal digits. -/
def hex (x : Double) : String :=
  let ds := Nat.toDigits 16 x.bits.toNat
  String.ofList (List.replicate (16 - ds.length) '0' ++ ds)

end Double

end RecordSearch
