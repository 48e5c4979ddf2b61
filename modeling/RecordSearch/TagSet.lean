import RecordSearch.Criterion
import RecordSearch.Field

/-! Closed sets of named values.

    A member of the set is known by its place. Its tag is found up to the case of A to Z and blanks
    around it. -/

namespace RecordSearch

/-- A named set of tags, in order. -/
structure TagSet where
  name : String
  tags : List String
  deriving DecidableEq, Repr

namespace TagSet

/-- The tag at a place. -/
def tag? (s : TagSet) (index : Nat) : Option String := s.tags[index]?

/-- The place of a tag, or the complaint about a name that is none. -/
def read (s : TagSet) (name : String) : Except RequestError Nat :=
  match tagIndex s.tags name with
  | some i => .ok i
  | none => .error (.unknownTag s.name name s.tags)

end TagSet

end RecordSearch
