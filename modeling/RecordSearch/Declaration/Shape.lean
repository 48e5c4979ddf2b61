import RecordSearch.Declaration.Item
import RecordSearch.Declaration.Naming
import RecordSearch.Declaration.TypeText

/-! Searchable shapes from declarations of records.

    Options are gone through in order, those of the record before those of its fields, and the last
    one of a name counts. Fields may be skipped, renamed, and taken into free-text search. -/

namespace RecordSearch

/-- What the options of a record say. -/
structure ShapeOptions where
  shape : Option String := none
  rule : NamingRule := .plain
  defaultSort : Option String := none
  deriving DecidableEq, Repr

/-- Takes one option of a record into account. -/
def ShapeOptions.take (s : ShapeOptions) (o : DeclaredOption) : Declared ShapeOptions :=
  match o.name with
  | "shape" => do
    let name ← o.text
    pure { s with shape := some name }
  | "rename_all" => do
    let name ← o.text
    match NamingRule.read? name with
    | some rule => pure { s with rule := rule }
    | none => .error (.unknownRule name)
  | "default_sort" => do
    let name ← o.text
    pure { s with defaultSort := some name }
  | _ => .error .unknownShapeOption

/-- What the options of a field say. -/
structure FieldOptions where
  text : Bool := false
  skip : Bool := false
  name : Option String := none
  deriving DecidableEq, Repr

/-- Takes one option of a field into account. -/
def FieldOptions.take (s : FieldOptions) (o : DeclaredOption) : Declared FieldOptions :=
  match o.name with
  | "text" => do
    o.bare
    pure { s with text := true }
  | "skip" => do
    o.bare
    pure { s with skip := true }
  | "rename" => do
    let name ← o.text
    pure { s with name := some name }
  | _ => .error .unknownFieldOption

/-- A declared field of a shape. -/
structure DeclaredField where
  /-- The declared name. -/
  declared : String
  /-- The name that requests use. -/
  name : String
  type : String
  text : Bool
  deriving DecidableEq, Repr

/-- The name of the constant for a field: the declared name in capitals. -/
def DeclaredField.constant (f : DeclaredField) : String :=
  String.ofList (Text.upper f.declared.toList)

/-- The field of a member, unless it is skipped. -/
def DeclaredField.ofMember (rule : NamingRule) (m : Member) : Declared (Option DeclaredField) := do
  let o ← m.options.foldlM FieldOptions.take {}
  if o.skip then
    if o.text then .error .skippedText else pure none
  else if o.text ∧ ¬TypeText.holdsText m.type then .error .textOnOther
  else
    let declared := plainName m.name
    pure (some ⟨declared, o.name.getD (rule.apply declared), m.type, o.text⟩)

/-- A shape as it is declared. -/
structure DeclaredShape where
  shape : String
  fields : List DeclaredField
  defaultSort : Option String
  deriving DecidableEq, Repr

namespace DeclaredShape

/-- The names of the fields that free text looks at. -/
def textFields (s : DeclaredShape) : List String :=
  (s.fields.filter DeclaredField.text).map DeclaredField.name

/-- The shape of a declaration. -/
def ofItem (item : Item) : Declared DeclaredShape := do
  if item.generic then .error .genericShape
  let o ← item.options.foldlM ShapeOptions.take {}
  match item.kind with
  | .record => do
    let fields := (← item.members.mapM (DeclaredField.ofMember o.rule)).filterMap id
    match o.defaultSort with
    | some sort =>
      if fields.any fun f => Text.sameName f.name sort then pure ()
      else .error (.unknownSort sort)
    | none => pure ()
    pure ⟨o.shape.getD (shapeName item.name), fields, o.defaultSort⟩
  | .tuple | .unit => .error .unnamedFields
  | .variants => .error .notRecord

end DeclaredShape

end RecordSearch
