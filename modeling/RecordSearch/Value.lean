import RecordSearch.Calendar.Instant
import RecordSearch.Number
import RecordSearch.Text.Pieces

/-! Values of fields, and the literals that requests compare them with.

    A literal is a value that is there; a field of a record may also hold nothing. Equality and order
    against a literal only relate values of one kind. The order for sorting is total in kind: null
    comes first, and pairs without a meaningful order count as equal. -/

namespace RecordSearch

/-- A value of a request, after its text was read by the type of a field. -/
inductive Literal where
  | text (s : String)
  | number (n : Number)
  | bool (b : Bool)
  | timestamp (t : Instant)
  | tag (index : Nat)
  deriving DecidableEq, Repr

/-- The value of one field of one record. -/
inductive Value where
  | null
  | present (l : Literal)
  deriving DecidableEq, Repr

namespace Literal

/-- Equality of two literals: texts exactly, numbers by their order. -/
def same : Literal → Literal → Bool
  | text a, text b => a == b
  | number a, number b => a.compare? b == some .eq
  | bool a, bool b => a == b
  | timestamp a, timestamp b => a == b
  | tag a, tag b => a == b
  | _, _ => false

/-- Order of two literals, for numbers and points in time. -/
def compare? : Literal → Literal → Option Ordering
  | number a, number b => a.compare? b
  | timestamp a, timestamp b => some (a.compare b)
  | _, _ => none

/-- Order of two literals for sorting. -/
def sortOrder : Literal → Literal → Ordering
  | text a, text b => Text.compare a.toList b.toList
  | number a, number b => (a.compare? b).getD .eq
  | bool a, bool b => Ord.compare a b
  | timestamp a, timestamp b => a.compare b
  | tag a, tag b => Ord.compare a b
  | _, _ => .eq

end Literal

namespace Value

/-- Whether the field holds nothing. -/
def isNull : Value → Bool
  | null => true
  | present _ => false

/-- The text of a text value. -/
def text? : Value → Option String
  | present (.text s) => some s
  | _ => none

/-- Equality with a literal; null equals nothing. -/
def equals (v : Value) (l : Literal) : Bool :=
  match v with
  | null => false
  | present a => a.same l

/-- Order against a literal. -/
def compare? (v : Value) (l : Literal) : Option Ordering :=
  match v with
  | null => none
  | present a => a.compare? l

/-- Order for sorting: null first. -/
def sortOrder : Value → Value → Ordering
  | null, null => .eq
  | null, present _ => .lt
  | present _, null => .gt
  | present a, present b => a.sortOrder b

/-- The value of a field that may be missing. -/
def ofOption {α : Type} (wrap : α → Literal) : Option α → Value
  | none => null
  | some a => present (wrap a)

end Value

end RecordSearch
