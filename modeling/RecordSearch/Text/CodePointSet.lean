/-! Sets of characters described by the code points at which membership changes.

    A table of a character property is an ascending list of code points: below the first nothing is
    a member, and every listed code point turns membership over. The tables of this library
    (letters with case, combining marks, wide characters, …) are all of this one type. -/

namespace RecordSearch

/-- A set of characters, given by the ascending code points at which membership turns over. -/
structure CodePointSet where
  turns : List Nat
  deriving DecidableEq, Repr

namespace CodePointSet

/-- Whether `n` is inside, starting from `inside` below the first turn. -/
def insideAfter (n : Nat) : Bool → List Nat → Bool
  | inside, [] => inside
  | inside, t :: ts => if t ≤ n then insideAfter n (!inside) ts else inside

/-- Membership of a character. -/
def contains (s : CodePointSet) (c : Char) : Bool := insideAfter c.toNat false s.turns

end CodePointSet

end RecordSearch
