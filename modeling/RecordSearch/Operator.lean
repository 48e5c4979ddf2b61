import RecordSearch.Text.Blank

/-! The operators of filter criteria and their spellings.

    An operator may be written with any case of A to Z, with hyphens, underscores and spaces between
    its letters, and by one of a few short names. -/

namespace RecordSearch

/-- What a criterion asks of a field. -/
inductive Operator where
  | equals | notEquals
  | contains | notContains | startsWith | endsWith
  | greaterThan | greaterThanOrEqual | lessThan | lessThanOrEqual
  | isIn | notIn
  | isNull | isNotNull
  deriving DecidableEq, Repr

/-- Where a text operator looks for its needle. -/
inductive Position where | anywhere | start | finish
  deriving DecidableEq, Repr

/-- Which side of a bound an ordering operator accepts. -/
inductive Comparison where | greater | atLeast | less | atMost
  deriving DecidableEq, Repr

namespace Comparison

/-- Whether a value in the given order to the bound is accepted. -/
def accepts : Comparison → Ordering → Bool
  | greater, o => o == .gt
  | atLeast, o => o != .lt
  | less, o => o == .lt
  | atMost, o => o != .gt

end Comparison

namespace Operator

/-- The operators by the kind of test that they make. -/
inductive Kind where
  | equality (negate : Bool)
  | text (position : Position) (negate : Bool)
  | ordering (c : Comparison)
  | membership (negate : Bool)
  | nullness (negate : Bool)
  deriving DecidableEq, Repr

/-- The kind of an operator. -/
def kind : Operator → Kind
  | equals => .equality false
  | notEquals => .equality true
  | contains => .text .anywhere false
  | notContains => .text .anywhere true
  | startsWith => .text .start false
  | endsWith => .text .finish false
  | greaterThan => .ordering .greater
  | greaterThanOrEqual => .ordering .atLeast
  | lessThan => .ordering .less
  | lessThanOrEqual => .ordering .atMost
  | isIn => .membership false
  | notIn => .membership true
  | isNull => .nullness false
  | isNotNull => .nullness true

/-- The full name, as requests are written with it. -/
def name : Operator → String
  | equals => "Equals"
  | notEquals => "NotEquals"
  | contains => "Contains"
  | notContains => "NotContains"
  | startsWith => "StartsWith"
  | endsWith => "EndsWith"
  | greaterThan => "GreaterThan"
  | greaterThanOrEqual => "GreaterThanOrEqual"
  | lessThan => "LessThan"
  | lessThanOrEqual => "LessThanOrEqual"
  | isIn => "In"
  | notIn => "NotIn"
  | isNull => "IsNull"
  | isNotNull => "IsNotNull"

/-- Every operator but the two tests for null needs a value. -/
def requiresValue : Operator → Bool
  | isNull | isNotNull => false
  | _ => true

/-- What is left of a spelling: no blanks around it, no marks between letters, no capitals. -/
def key (raw : String) : List Char :=
  ((Text.trimmed raw.toList).filter fun c => c != '_' && c != '-' && c != ' ').map Char.toLower

/-- The keys of the operators. -/
def spellings : List (String × Operator) :=
  [("equals", equals), ("eq", equals),
   ("notequals", notEquals), ("ne", notEquals), ("neq", notEquals),
   ("contains", contains), ("notcontains", notContains),
   ("startswith", startsWith), ("endswith", endsWith),
   ("greaterthan", greaterThan), ("gt", greaterThan),
   ("greaterthanorequal", greaterThanOrEqual), ("gte", greaterThanOrEqual),
   ("ge", greaterThanOrEqual),
   ("lessthan", lessThan), ("lt", lessThan),
   ("lessthanorequal", lessThanOrEqual), ("lte", lessThanOrEqual), ("le", lessThanOrEqual),
   ("in", isIn), ("notin", notIn), ("nin", notIn),
   ("isnull", isNull), ("null", isNull), ("isnotnull", isNotNull), ("notnull", isNotNull)]

/-- The operator with a spelling. -/
def read? (raw : String) : Option Operator := spellings.lookup (String.ofList (key raw))

/-- The full name spells the operator. -/
theorem read?_name (op : Operator) : read? op.name = some op := by cases op <;> rfl

end Operator

end RecordSearch
