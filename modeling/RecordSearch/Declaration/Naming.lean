import RecordSearch.Text.Casing
import RecordSearch.Text.Pieces

/-! Names of fields and shapes made from declared names.

    Declared field names have underscores between their words; a rule may join the words and give
    each a capital. Shape names go the other way, from capitals to underscores, and into the plural. -/

namespace RecordSearch

open Text

/-- How the name of a field is made from the declared one. -/
inductive NamingRule where
  /-- As it is declared. -/
  | plain
  /-- Words with capitals, but the first letter small. -/
  | camel
  /-- Words with capitals. -/
  | pascal
  deriving DecidableEq, Repr

/-- Words joined, each with a capital. -/
def pascalCase (s : List Char) : List Char := ((pieces '_' s).map upperFirst).flatten

/-- Words joined, each but the first with a capital. -/
def camelCase (s : List Char) : List Char := lowerFirst (pascalCase s)

/-- Every capital in small, with an underscore before it unless it stands first. Capitals beyond
    A to Z stay. -/
def snakeCase : List Char → List Char
  | [] => []
  | c :: cs =>
    let step (c : Char) : List Char := if isCapital c then ['_', c.toLower] else [c]
    (if isCapital c then c.toLower else c) :: cs.flatMap step

/-- The plural of an English word in small letters. -/
def plural (s : List Char) : List Char :=
  if ['s'].isSuffixOf s ∨ ['x'].isSuffixOf s ∨ ['c', 'h'].isSuffixOf s ∨ ['s', 'h'].isSuffixOf s then
    s ++ ['e', 's']
  else
    let stem := s.dropLast
    if s.getLast? = some 'y' ∧ ¬(stem.getLast?.any fun c => c ∈ ['a', 'e', 'i', 'o', 'u']) then
      stem ++ ['i', 'e', 's']
    else s ++ ['s']

/-- The name of a shape, from the name of its record type. -/
def shapeName (name : String) : String := String.ofList (plural (snakeCase name.toList))

namespace NamingRule

/-- The rule with a name. -/
def read? : String → Option NamingRule
  | "camelCase" => some camel
  | "PascalCase" => some pascal
  | "snake_case" => some plain
  | _ => none

/-- The name of a field. -/
def apply (rule : NamingRule) (name : String) : String :=
  match rule with
  | plain => name
  | camel => String.ofList (camelCase name.toList)
  | pascal => String.ofList (pascalCase name.toList)

end NamingRule

end RecordSearch
