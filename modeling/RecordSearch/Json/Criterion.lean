import RecordSearch.Json.Structure

/-! Criteria and operators in documents. -/

namespace RecordSearch

/-- An operator by its spelling. -/
def Operator.decode (v : Json) : Decoded Operator := do
  match Operator.read (← v.decodeText) with
  | .ok op => .ok op
  | .error e => .error (.refused e)

/-- A criterion. The operator may be left out and then means equality; a missing value is not
    written. -/
def Criterion.codec : Json.Codec Criterion where
  fields :=
    [("field", Json.check Json.decodeText), ("operator", Json.check Operator.decode),
     ("value", Json.check (Json.decodeOption Json.decodeText))]
  required := 1
  build ms := do
    let field ← Json.field ms "field" Json.decodeText
    let operator ← Json.fieldOr ms "operator" Operator.decode .equals
    let value ← Json.fieldOption ms "value" Json.decodeText
    pure ⟨field, operator, value⟩
  members c :=
    [("field", .text c.field), ("operator", .text c.operator.name)] ++
      Json.memberIfSome "value" .text c.value

end RecordSearch
