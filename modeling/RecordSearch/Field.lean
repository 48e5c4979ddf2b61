import RecordSearch.Text.Ascii
import RecordSearch.Text.Blank
import RecordSearch.Value

/-! Field types, fields and schemas.

    A schema lists the fields of a record type in order, each with the function that reads it out of
    a record. Names are looked up ignoring the case of A to Z, and the first match counts. -/

namespace RecordSearch

/-- The declared type of a field. Whether it may hold nothing is no part of the type. -/
inductive FieldType where
  | text | int32 | int64 | float32 | float64 | decimal | bool | timestamp
  /-- One of the listed tags, known by its place in the list. -/
  | tag (tags : List String)
  deriving DecidableEq, Repr

namespace FieldType

/-- The name of a type. -/
def name : FieldType → String
  | text => "text"
  | int32 => "int32"
  | int64 => "int64"
  | float32 => "float32"
  | float64 => "float64"
  | decimal => "decimal"
  | bool => "bool"
  | timestamp => "timestamp"
  | tag _ => "tag"

/-- Whether the text operators apply. -/
def isText : FieldType → Bool
  | text => true
  | _ => false

/-- Whether the ordering operators apply. -/
def isOrdered : FieldType → Bool
  | int32 | int64 | float32 | float64 | decimal | timestamp => true
  | _ => false

end FieldType

/-- The place of a tag, up to the case of A to Z and blanks around the given name. -/
def tagIndex (tags : List String) (name : String) : Option Nat :=
  tags.findIdx? fun t => Text.sameName t (Text.trim name)

/-- What is known of a field apart from the records. -/
structure FieldInfo where
  name : String
  type : FieldType
  nullable : Bool
  deriving DecidableEq, Repr

/-- A field of records of type `ρ`. -/
structure Field (ρ : Type) where
  info : FieldInfo
  read : ρ → Value

namespace Field

variable {ρ : Type}

/-- The declared name. -/
def name (f : Field ρ) : String := f.info.name

/-- The declared type. -/
def type (f : Field ρ) : FieldType := f.info.type

/-- A field that always holds a value. -/
def required (name : String) (type : FieldType) (read : ρ → Literal) : Field ρ :=
  ⟨⟨name, type, false⟩, fun r => .present (read r)⟩

/-- A field that may hold nothing. -/
def nullable {α : Type} (name : String) (type : FieldType) (wrap : α → Literal)
    (read : ρ → Option α) : Field ρ :=
  ⟨⟨name, type, true⟩, fun r => .ofOption wrap (read r)⟩

end Field

/-- The fields of a record type, under a shape name. -/
structure Schema (ρ : Type) where
  shape : String
  fields : List (Field ρ)

/-- The first field with the name, up to the case of A to Z. -/
def Schema.resolve {ρ : Type} (s : Schema ρ) (name : String) : Option (Field ρ) :=
  s.fields.find? fun f => Text.sameName f.name name

/-- What is known of a shape apart from its records. -/
structure ShapeInfo where
  shape : String
  fields : List FieldInfo
  textFields : List String
  defaultSort : Option String
  deriving DecidableEq, Repr

/-- A searchable record type: its schema, the fields that free text looks at, and the field that
    orders records when a request names none. -/
structure Shape (ρ : Type) where
  schema : Schema ρ
  textFields : List String
  defaultSort : Option String

namespace Shape

variable {ρ : Type}

/-- The name of a shape. -/
def name (s : Shape ρ) : String := s.schema.shape

/-- The description of a shape. -/
def info (s : Shape ρ) : ShapeInfo :=
  ⟨s.schema.shape, s.schema.fields.map Field.info, s.textFields, s.defaultSort⟩

end Shape

namespace Schema

variable {ρ : Type} {s : Schema ρ} {name : String} {f : Field ρ}

/-- A found field belongs to the schema. -/
theorem mem_of_resolve (h : s.resolve name = some f) : f ∈ s.fields := List.mem_of_find?_eq_some h

/-- A found field has the name that was asked for. -/
theorem name_of_resolve (h : s.resolve name = some f) : Text.sameName f.name name = true := by
  simpa using List.find?_some h

end Schema

end RecordSearch
