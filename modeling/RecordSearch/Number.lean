import RecordSearch.Number.Decimal

/-! Numbers as records and requests hold them: integers, floating point numbers and decimals.

    Two numbers of one kind are compared in that kind. An integer and a decimal are compared exactly;
    as soon as one of the two is a floating point number, both are compared as such. -/

namespace RecordSearch

/-- A number in the representation of the field it belongs to. -/
inductive Number where
  | int (n : Int)
  | float (x : Double)
  | decimal (d : Decimal)
  deriving DecidableEq, Repr

namespace Number

/-- The floating point number for a number. -/
def toDouble : Number → Double
  | int n => .ofInt n
  | float x => x
  | decimal d => d.toDouble

/-- The order of two numbers, none if one of them is not a number. -/
def compare? : Number → Number → Option Ordering
  | int a, int b => some (compare a b)
  | decimal a, decimal b => some (a.compare b)
  | int a, decimal b => some (b.compareInt a).swap
  | decimal a, int b => some (a.compareInt b)
  | a, b => a.toDouble.compare? b.toDouble

end Number

end RecordSearch
