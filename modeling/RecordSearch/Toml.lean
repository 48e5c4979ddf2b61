import RecordSearch.Number.Double

/-! TOML documents, as far as settings need them: the values, with names in the order of the text. -/

namespace RecordSearch

/-- A value of a TOML document. -/
inductive Toml where
  | text (s : String)
  | integer (n : Int)
  | real (x : Double)
  | bool (b : Bool)
  /-- A date, a time of day, or both, as it is written. -/
  | moment (s : String)
  | array (items : List Toml)
  | table (members : List (String × Toml))
  deriving Repr, Inhabited

end RecordSearch
