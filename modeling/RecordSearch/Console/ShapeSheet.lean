import RecordSearch.Console.Report
import RecordSearch.Field
import RecordSearch.Text.Digits

/-! Descriptions of shapes: the command `schema`. All shapes in short, or one with its fields. -/

namespace RecordSearch.Console

/-- The word for a type; a closed set of names is spelled out. -/
def typeWord : FieldType → String
  | .tag tags => "tag(" ++ Text.joinWith "|" tags ++ ")"
  | t => t.name

/-- A word for yes, and nothing for no. -/
def yesWord (b : Bool) : String := if b then "yes" else ""

/-- Whether free text looks into a field. -/
def isSearched (s : ShapeInfo) (f : FieldInfo) : Bool :=
  s.textFields.any fun name => Text.sameName name f.name

/-- One shape in a list of shapes. -/
def shapeDocument (s : ShapeInfo) : Json :=
  .object
    [("shape", .text s.shape), ("field_count", .integer s.fields.length),
      ("text_search_fields", .array (s.textFields.map .text)),
      ("default_sort", .ofOption .text s.defaultSort)]

/-- The row of a shape in a list of shapes. -/
def shapeRow (s : ShapeInfo) : List String :=
  [s.shape, Text.integerText s.fields.length, Text.joinWith ", " s.textFields, s.defaultSort.getD ""]

/-- A list of shapes. -/
def shapesSheet (shapes : List ShapeInfo) : Sheet where
  document := .object [("shapes", .array (shapes.map shapeDocument))]
  table :=
    { header := ["Shape", "Fields", "Text search", "Default sort"]
      rows := if shapes.isEmpty then [["No shapes registered"]] else shapes.map shapeRow }
  compact :=
    Text.joinWith "\n" (shapes.map fun s =>
      s.shape ++ " (" ++ Text.integerText s.fields.length ++ " fields)")

/-- A field of a shape. -/
def fieldDocument (s : ShapeInfo) (f : FieldInfo) : Json :=
  .object
    [("name", .text f.name), ("type", .text (typeWord f.type)), ("nullable", .bool f.nullable),
      ("text_search", .bool (isSearched s f))]

/-- The row of a field. -/
def fieldRow (s : ShapeInfo) (f : FieldInfo) : List String :=
  [f.name, typeWord f.type, yesWord f.nullable, yesWord (isSearched s f)]

/-- A shape with its fields. -/
def shapeSheet (s : ShapeInfo) : Sheet where
  document :=
    .object
      [("shape", .text s.shape), ("default_sort", .ofOption .text s.defaultSort),
        ("fields", .array (s.fields.map (fieldDocument s)))]
  table :=
    { header := ["Field", "Type", "Nullable", "Text search"], rows := s.fields.map (fieldRow s) }
  compact :=
    Text.joinWith "\n" (s.fields.map fun f =>
      f.name ++ ": " ++ typeWord f.type ++ if f.nullable then "?" else "")

/-- What there is to say about all shapes. -/
def shapesMessages (shapes : List ShapeInfo) : List Message :=
  [.heading ("Registered shapes (" ++ Text.integerText shapes.length ++ ")"),
    .result (shapesSheet shapes)]

/-- What there is to say about a shape. -/
def shapeMessages (s : ShapeInfo) : List Message :=
  .heading ("Shape: " ++ s.shape) ::
    (s.defaultSort.map fun sort => Message.entry "Default sort" sort).toList ++
    [.result (shapeSheet s)]

end RecordSearch.Console
