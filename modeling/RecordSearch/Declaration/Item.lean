/-! Declarations of record types and of closed sets: a name, options, and members with options of
    their own. -/

namespace RecordSearch

/-- What stands behind the equals sign of an option. -/
inductive Argument where
  | text (s : String)
  /-- A literal that is no text. -/
  | other
  deriving DecidableEq, Repr

/-- An option: a word, or a word with an argument. -/
structure DeclaredOption where
  name : String
  argument : Option Argument
  deriving DecidableEq, Repr

/-- A field of a record or a variant of a set. Behind the name stands the type of a field, or what a
    variant carries. -/
structure Member where
  name : String
  type : String
  options : List DeclaredOption
  deriving DecidableEq, Repr

/-- The kinds of declarations. -/
inductive ItemKind where
  /-- A record whose fields have names. -/
  | record
  /-- A record whose fields are known by place. -/
  | tuple
  /-- A record without fields. -/
  | unit
  /-- A set of variants. -/
  | variants
  deriving DecidableEq, Repr

/-- A declaration. -/
structure Item where
  kind : ItemKind
  name : String
  /-- Whether it has parameters. -/
  generic : Bool
  options : List DeclaredOption
  members : List Member
  deriving DecidableEq, Repr

/-- Why a declaration is refused. -/
inductive DeclarationError where
  | genericShape | genericTags
  | notRecord | unnamedFields | notVariants | noVariants
  | unknownShapeOption | unknownFieldOption | unknownTagOption
  | argumentMissing | argumentNotText | argumentUnused
  | unknownRule (name : String)
  | skippedText | textOnOther
  | unknownSort (name : String)
  | variantWithFields
  | tagCollision (tag : String)
  deriving DecidableEq, Repr

/-- The wording of a refusal. -/
def DeclarationError.message : DeclarationError → String
  | genericShape => "Searchable cannot be derived for generic types"
  | genericTags => "SearchTag cannot be derived for generic types"
  | notRecord => "Searchable can only be derived for structs"
  | unnamedFields => "Searchable requires named fields"
  | notVariants => "SearchTag can only be derived for enums"
  | noVariants => "SearchTag requires at least one variant"
  | unknownShapeOption =>
    "unknown search option, expected `shape`, `rename_all` or `default_sort`"
  | unknownFieldOption => "unknown search field option, expected `text`, `skip` or `rename`"
  | unknownTagOption => "unknown search option, expected `rename`"
  | argumentMissing => "expected `=`"
  | argumentNotText => "expected string literal"
  | argumentUnused => "expected `,`"
  | unknownRule name =>
    "unknown rename_all rule `" ++ name ++
      "`, expected one of: camelCase, PascalCase, snake_case"
  | skippedText => "a skipped field cannot also be `text`"
  | textOnOther => "#[search(text)] requires a `String` or `Option<String>` field"
  | unknownSort name => "default_sort `" ++ name ++ "` does not name a searchable field"
  | variantWithFields => "SearchTag variants must be unit variants"
  | tagCollision tag => "tag `" ++ tag ++ "` collides with another variant (tags ignore case)"

/-- A declared thing, or why it is refused. -/
abbrev Declared (α : Type) := Except DeclarationError α

namespace DeclaredOption

/-- The text that an option has to have as its argument. -/
def text (o : DeclaredOption) : Declared String :=
  match o.argument with
  | none => .error .argumentMissing
  | some (.text s) => .ok s
  | some .other => .error .argumentNotText

/-- Makes sure that an option has no argument. -/
def bare (o : DeclaredOption) : Declared Unit :=
  match o.argument with
  | none => .ok ()
  | some _ => .error .argumentUnused

end DeclaredOption

/-- The declared name without the mark that lets it be a keyword. -/
def plainName (name : String) : String :=
  match name.toList with
  | 'r' :: '#' :: rest => String.ofList rest
  | _ => name

end RecordSearch
