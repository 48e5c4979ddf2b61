import RecordSearch.Coercion
import RecordSearch.Log
import RecordSearch.Predicate

/-! From criteria and free text to predicates.

    A criterion becomes one test on the field it names, or a reason why it cannot. Reasons are met
    in a fixed order: the field, then the operator, then the value. Criteria that cannot be applied
    are noted and left out. -/

namespace RecordSearch

variable {ρ : Type}

namespace Criterion

/-- The text of a value that is there and not blank. -/
def text? (c : Criterion) : Option String :=
  match c.value with
  | some v => if Text.blank v then none else some v
  | none => none

/-- The reason why a value does not fit a field. -/
def notConvertible (field : Field ρ) (value : String) : Degradation :=
  .notConvertible field.name value field.type

/-- The text of the value, which has to be there and not blank. -/
def requireText (field : Field ρ) (c : Criterion) : Except Degradation String :=
  match c.text? with
  | some v => .ok v
  | none => .error (notConvertible field (c.value.getD ""))

/-- The literal of the field's type that the value denotes. -/
def requireLiteral (field : Field ρ) (c : Criterion) : Except Degradation Literal := do
  let v ← requireText field c
  match coerce v field.type with
  | some l => .ok l
  | none => .error (notConvertible field v)

/-- The literals of the field's type among the entries of the value; there has to be one. -/
def requireLiterals (field : Field ρ) (c : Criterion) : Except Degradation (List Literal) := do
  let v ← requireText field c
  match (splitList v).filterMap (coerce · field.type) with
  | [] => .error (notConvertible field v)
  | ls => .ok ls

/-- The test that a criterion makes on a field. -/
def testOn (field : Field ρ) (c : Criterion) : Except Degradation Test :=
  let unsupported := Degradation.unsupportedOperator field.name c.operator field.type
  match c.operator.kind with
  | .nullness negate => .ok (.isNull negate)
  | .equality false => (requireLiteral field c).map .equals
  | .equality true => (requireLiteral field c).map .differs
  | .text position negate =>
    if field.type.isText then (requireText field c).map fun v => .ofNeedle position v negate
    else .error unsupported
  | .ordering comparison =>
    if field.type.isOrdered then (requireLiteral field c).map (.compares comparison)
    else .error unsupported
  | .membership negate => (requireLiterals field c).map fun ls => .oneOf ls negate

/-- The predicate of a criterion. -/
def compile (schema : Schema ρ) (c : Criterion) : Except Degradation (Predicate ρ) :=
  match schema.resolve c.field with
  | none => .error (.unknownField c.field)
  | some field => (testOn field c).map (.test field)

/-- The predicate of a criterion if it has one; if not, the reason is noted. -/
def compileOrNote (schema : Schema ρ) (c : Criterion) : Logged (Option (Predicate ρ)) :=
  match compile schema c with
  | .ok p => pure (some p)
  | .error reason => do
    Logged.note (.filterIgnored schema.shape c reason)
    pure none

end Criterion

/-- All criteria that can be applied. -/
def compileAll (schema : Schema ρ) (criteria : List Criterion) : Logged (Predicate ρ) := do
  let ps ← criteria.mapM (Criterion.compileOrNote schema)
  pure (.conjunction (ps.filterMap id))

/-- A test for a term on one free-text field, if the schema has it as a text field. -/
def freeTextOn (schema : Schema ρ) (term name : String) : Logged (Option (Predicate ρ)) :=
  match schema.resolve name with
  | some field =>
    if field.type.isText then
      pure (some (.test field (.ofNeedle .anywhere term false)))
    else do
      Logged.note (.freeTextNotText schema.shape field.name field.type)
      pure none
  | none => do
    Logged.note (.freeTextUnknown schema.shape name)
    pure none

/-- Records with the term in one of the fields. A blank term, or no text field, is no condition. -/
def freeText (schema : Schema ρ) (fields : List String) (term : Option String) :
    Logged (Predicate ρ) :=
  match term with
  | none => pure .always
  | some term =>
    if Text.blank term then pure .always
    else do
      let ps ← fields.mapM (freeTextOn schema term)
      pure (.disjunction (ps.filterMap id))

end RecordSearch
