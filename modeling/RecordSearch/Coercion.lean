import RecordSearch.Calendar.Format
import RecordSearch.Field
import RecordSearch.Number.Double.Reader
import RecordSearch.Number.Integer

/-! From text to typed literals.

    Text of a request becomes a literal of the type of the field it is compared with. Text fields
    take it as it is; for every other type blanks around it do not matter, and text that does not
    fit the type yields nothing. -/

namespace RecordSearch

namespace Coercion

/-- The words `true` and `false` in any case. -/
def readBool (s : String) : Option Bool :=
  if Text.sameName s "true" then some true
  else if Text.sameName s "false" then some false
  else none

end Coercion

/-- The literal of a type that a text denotes. -/
def coerce (text : String) (type : FieldType) : Option Literal :=
  let s := Text.trim text
  match type with
  | .text => some (.text text)
  | .int32 => (IntWidth.bits32.read? s.toList).map fun n => .number (.int n)
  | .int64 => (IntWidth.bits64.read? s.toList).map fun n => .number (.int n)
  | .float32 => (Double.readSingle? s.toList).map fun x => .number (.float x)
  | .float64 => (Double.read? s.toList).map fun x => .number (.float x)
  | .decimal => (Decimal.read? s.toList).map fun d => .number (.decimal d)
  | .bool => (Coercion.readBool s).map .bool
  | .timestamp => (Calendar.readTimestamp text).map .timestamp
  | .tag tags => (tagIndex tags text).map .tag

/-- The entries of a comma-separated list, without blanks around them and without empty ones. -/
def splitList (text : String) : List String :=
  ((Text.pieces ',' text.toList).map Text.trimmed).filter (· ≠ []) |>.map String.ofList

end RecordSearch
