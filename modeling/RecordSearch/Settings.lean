import RecordSearch.FilePath
import RecordSearch.Paging
import RecordSearch.Toml.Reader

/-! Settings: bounds on page sizes, what is logged, and where records lie.

    They are read from a TOML text in which everything may be left out. A group of settings is a
    table; it may also be written as an array of its values in order. -/

namespace RecordSearch

/-- The settings. -/
structure Settings where
  defaultPageSize : Nat := RecordSearch.defaultPageSize
  maxPageSize : Nat := RecordSearch.maxPageSize
  logFilter : String := "warn"
  dataDirectory : String := "."
  deriving DecidableEq, Repr

/-- Why settings cannot be used. -/
inductive SettingsError where
  /-- The text is no TOML, or a setting has the wrong kind. -/
  | malformed
  /-- A variable of the environment is asked for and not set. -/
  | variableUnset (name : String)
  deriving DecidableEq, Repr

/-- The wording of a complaint about the environment. -/
def SettingsError.message? : SettingsError → Option String
  | malformed => none
  | variableUnset name => some ("Environment variable " ++ name ++ " not set")

namespace Settings

/-- The settings of a group by name, or by place; a date stands for no settings. -/
def group (names : List String) : Toml → Option (List (String × Toml))
  | .table ms => some ms
  | .array vs => some (names.zip vs)
  | .moment _ => some []
  | _ => none

/-- A setting, or its default. -/
def setting {α : Type} (ms : List (String × Toml)) (name : String) (read : Toml → Option α)
    (default : α) : Option α :=
  match ms.lookup name with
  | some v => read v
  | none => some default

/-- A count. -/
def count : Toml → Option Nat
  | .integer n => if 0 ≤ n then some n.toNat else none
  | _ => none

/-- A text. -/
def text : Toml → Option String
  | .text s => some s
  | _ => none

/-- The settings of a document. -/
def ofToml (v : Toml) : Option Settings := do
  let groups ← group ["search", "logging", "data"] v
  let search ← setting groups "search" (group ["default_page_size", "max_page_size"]) []
  let logging ← setting groups "logging" (group ["filter"]) []
  let data ← setting groups "data" (group ["dir"]) []
  let defaults : Settings := {}
  pure
    { defaultPageSize := ← setting search "default_page_size" count defaults.defaultPageSize
      maxPageSize := ← setting search "max_page_size" count defaults.maxPageSize
      logFilter := ← setting logging "filter" text defaults.logFilter
      dataDirectory := ← setting data "dir" text defaults.dataDirectory }

/-- The settings of a text. -/
def read (s : String) : Except SettingsError Settings :=
  match (Toml.parse s).bind ofToml with
  | some settings => .ok settings
  | none => .error .malformed

/-- The bounds on page sizes. -/
def pager (s : Settings) : Pager := .of s.defaultPageSize s.maxPageSize

end Settings

/-- The variables of an environment. -/
abbrev Environment := String → Option String

/-- The name in a text that is a placeholder as a whole. -/
def placeholder? (s : String) : Option String :=
  match s.toList with
  | '$' :: c :: rest =>
    if c = Char.ofNat 0x7B ∧ rest.getLast? = some (Char.ofNat 0x7D) then
      some (String.ofList rest.dropLast)
    else none
  | _ => none

/-- The text, or the value of the variable that it is a placeholder for. -/
def expand (env : Environment) (s : String) : Except SettingsError String :=
  match placeholder? s with
  | none => .ok s
  | some name =>
    match env name with
    | some value => .ok value
    | none => .error (.variableUnset name)

/-- Where a file of records lies: relative to the data directory, unless its path is absolute. -/
def Settings.resolve (s : Settings) (env : Environment) (path : String) :
    Except SettingsError String :=
  if FilePath.isAbsolute path then .ok path
  else (expand env s.dataDirectory).map fun directory => FilePath.below directory path

end RecordSearch
