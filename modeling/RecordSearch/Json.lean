import RecordSearch.Number.Double
import RecordSearch.Text.Pieces

/-! JSON documents.

    Members of an object keep their order and may repeat a name, so that what a text says is not
    lost before it is judged. A text that stops being JSON still has a document: the part before the
    fault, with a gap where the fault is. Whoever reads members in order meets the gap at its place. -/

namespace RecordSearch

/-- Where a document has no value. -/
inductive Gap where
  /-- A well-formed word that stands for nothing: half a surrogate pair, or a number too large. -/
  | unreadable
  /-- The value of a member whose key stands for no name. -/
  | nameless
  /-- Here the text stops being JSON. -/
  | broken
  deriving DecidableEq, Repr

/-- A JSON document. -/
inductive Json where
  | null
  | bool (b : Bool)
  | integer (n : Int)
  | real (x : Double)
  | text (s : String)
  | array (items : List Json)
  | object (members : List (String × Json))
  | gap (g : Gap)
  deriving Repr, Inhabited

namespace Json

mutual

/-- The nesting of arrays and objects. -/
def depth : Json → Nat
  | array items => depthItems items + 1
  | object members => depthMembers members + 1
  | _ => 0

/-- The deepest nesting among the items of an array. -/
def depthItems : List Json → Nat
  | [] => 0
  | v :: vs => max (depth v) (depthItems vs)

/-- The deepest nesting among the members of an object. -/
def depthMembers : List (String × Json) → Nat
  | [] => 0
  | (_, v) :: ms => max (depth v) (depthMembers ms)

end

mutual

/-- Whether no gap of the document is one that `bad` names. -/
def freeOf (bad : Gap → Bool) : Json → Bool
  | array items => freeOfItems bad items
  | object members => freeOfMembers bad members
  | gap g => !bad g
  | _ => true

/-- `freeOf` for the items of an array. -/
def freeOfItems (bad : Gap → Bool) : List Json → Bool
  | [] => true
  | v :: vs => freeOf bad v && freeOfItems bad vs

/-- `freeOf` for the members of an object. -/
def freeOfMembers (bad : Gap → Bool) : List (String × Json) → Bool
  | [] => true
  | (_, v) :: ms => freeOf bad v && freeOfMembers bad ms

end

/-- Whether the value of a member can be passed over: its text is JSON to the end, and the member has
    a name. Within it this is not asked of members. -/
def skippable : Json → Bool
  | gap .nameless => false
  | v => v.freeOf (· == .broken)

/-- Whether the document can be kept for later: it has no gap, and it nests at most so deep. -/
def keepable (limit : Nat) (v : Json) : Bool := v.freeOf (fun _ => true) && v.depth ≤ limit

/-- Puts a member among others that are in the order of their names; a member of the same name is
    replaced. -/
def insertMember (name : String) (v : Json) : List (String × Json) → List (String × Json)
  | [] => [(name, v)]
  | (n, w) :: ms =>
    match Text.compare name.toList n.toList with
    | .lt => (name, v) :: (n, w) :: ms
    | .eq => (name, v) :: ms
    | .gt => (n, w) :: insertMember name v ms

mutual

/-- The document as a value: members in the order of their names, the last of a name counts. -/
def sorted : Json → Json
  | array items => array (sortedItems items)
  | object members => object (sortedMembers members [])
  | v => v

/-- `sorted` for the items of an array. -/
def sortedItems : List Json → List Json
  | [] => []
  | v :: vs => sorted v :: sortedItems vs

/-- `sorted` for the members of an object, on top of members that are sorted already. -/
def sortedMembers : List (String × Json) → List (String × Json) → List (String × Json)
  | [], done => done
  | (n, v) :: ms, done => sortedMembers ms (insertMember n (sorted v) done)

end

/-- The value of the first member with a name. -/
def member? (name : String) : Json → Option Json
  | object members => members.lookup name
  | _ => none

end Json

end RecordSearch
