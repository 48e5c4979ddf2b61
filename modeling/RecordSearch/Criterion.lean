import RecordSearch.Operator
import RecordSearch.Text.Pieces

/-! Filter criteria, and their one-line form `field:operator` or `field:operator:value`. -/

namespace RecordSearch

/-- One filter of a client, not yet held against a schema. -/
structure Criterion where
  field : String
  operator : Operator
  value : Option String
  deriving DecidableEq, Repr

/-- Why a piece of a request is refused outright. -/
inductive RequestError where
  /-- No operator has this spelling. -/
  | unknownOperator (raw : String)
  /-- A criterion without a colon, or with a blank field name. -/
  | malformedCriterion (raw : String)
  /-- A name that is none of the tags of a closed set. -/
  | unknownTag (set name : String) (tags : List String)
  deriving DecidableEq, Repr

/-- The wording of a refusal. -/
def RequestError.message : RequestError → String
  | unknownOperator raw =>
    "invalid request: Unsupported filter operator: " ++ Text.trim raw
  | malformedCriterion raw => "invalid request: Invalid filter syntax: " ++ raw
  | unknownTag set name tags =>
    "invalid request: unknown " ++ set ++ " '" ++ name ++ "', expected one of: " ++
      Text.joinWith ", " tags

/-- The operator with a spelling, or the complaint about it. -/
def Operator.read (raw : String) : Except RequestError Operator :=
  match read? raw with
  | some op => .ok op
  | none => .error (.unknownOperator raw)

namespace Criterion

/-- The one-line form. -/
def toText (c : Criterion) : String :=
  c.field ++ ":" ++ c.operator.name ++
    match c.value with
    | some v => ":" ++ v
    | none => ""

/-- Reads the one-line form. The value keeps any further colons. -/
def read (raw : String) : Except RequestError Criterion :=
  match Text.cut ':' raw.toList with
  | none => .error (.malformedCriterion raw)
  | some (field, rest) =>
    if Text.trimmed field = [] then .error (.malformedCriterion raw)
    else
      let (operator, value) := match Text.cut ':' rest with
        | some (operator, value) => (operator, some (String.ofList value))
        | none => (rest, none)
      (Operator.read (String.ofList operator)).map fun op =>
        ⟨String.ofList (Text.trimmed field), op, value⟩

end Criterion

end RecordSearch
