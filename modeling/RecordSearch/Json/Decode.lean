import RecordSearch.Calendar.Format
import RecordSearch.Criterion
import RecordSearch.Json
import RecordSearch.Number.Integer

/-! Reading simple typed values out of documents: texts, truth values, integers, points in time, names
    of a closed set, and lists of values. -/

namespace RecordSearch

/-- Why a document is refused. -/
inductive DecodeError where
  /-- The document has not the form of the value. -/
  | mismatch
  /-- The form fits, but the content is refused. -/
  | refused (reason : RequestError)
  /-- A text that names no point in time. -/
  | notTimestamp (text : String)
  deriving DecidableEq, Repr

namespace DecodeError

/-- The wording of a complaint that is about content. -/
def message? : DecodeError → Option String
  | mismatch => none
  | refused reason => some reason.message
  | notTimestamp text => some ("'" ++ text ++ "' is not a date or RFC 3339 timestamp")

end DecodeError

/-- A typed value or the reason why the document is refused. -/
abbrev Decoded (α : Type) := Except DecodeError α

namespace Json

/-- A text. -/
def decodeText : Json → Decoded String
  | text s => .ok s
  | _ => .error .mismatch

/-- A truth value. -/
def decodeBool : Json → Decoded Bool
  | bool b => .ok b
  | _ => .error .mismatch

/-- An integer of a width. -/
def decodeInt (w : IntWidth) : Json → Decoded Int
  | integer n => if w.fits n then .ok n else .error .mismatch
  | _ => .error .mismatch

/-- Null, or a value. -/
def decodeOption {α : Type} (decode : Json → Decoded α) : Json → Decoded (Option α)
  | null => .ok none
  | v => (decode v).map some

/-- Every item of an array. -/
def decodeItems {α : Type} (decode : Json → Decoded α) : List Json → Decoded (List α)
  | [] => .ok []
  | v :: vs => do
    let a ← decode v
    let as ← decodeItems decode vs
    pure (a :: as)

/-- An array. -/
def decodeArray {α : Type} (decode : Json → Decoded α) : Json → Decoded (List α)
  | array vs => decodeItems decode vs
  | _ => .error .mismatch

/-- One of a closed set of names: its text, or an object with the name and nothing in it. What counts
    as nothing is `empty`. -/
def decodeName (names : List String) (empty : Json → Bool) (v : Json) : Decoded Nat :=
  let place (s : String) : Decoded Nat :=
    match names.idxOf? s with
    | some i => .ok i
    | none => .error .mismatch
  match v with
  | text s => place s
  | object [(s, v)] => if empty v then place s else .error .mismatch
  | _ => .error .mismatch

/-- Null. -/
def isNothing : Json → Bool
  | null => true
  | _ => false

/-- Null, or an object without members. -/
def isNothingOrEmpty : Json → Bool
  | null | object [] => true
  | _ => false

/-- A stored point in time. -/
def decodeInstant (v : Json) : Decoded Instant := do
  match Calendar.readStored (← v.decodeText) with
  | some t => .ok t
  | none => .error .mismatch

/-- A stored date. -/
def decodeDate (v : Json) : Decoded Date := do
  match Calendar.readStoredDate (← v.decodeText) with
  | some d => .ok d
  | none => .error .mismatch

/-- A point in time as a client writes it; null and blank text mean none. -/
def decodeBound (v : Json) : Decoded (Option Instant) := do
  match ← v.decodeOption decodeText with
  | none => .ok none
  | some s =>
    if Text.blank s then .ok none
    else match Calendar.readTimestamp s with
      | some t => .ok (some t)
      | none => .error (.notTimestamp (Text.trim s))

/-- Null, or the document of a value. -/
def ofOption {α : Type} (encode : α → Json) : Option α → Json
  | none => null
  | some a => encode a

/-- The stored form of a point in time. -/
def ofInstant (t : Instant) : Json := text (Calendar.instantText t)

/-- The stored form of a date. -/
def ofDate (d : Date) : Json := text (Calendar.dateText d)

/-- A member that is left out when there is no value. -/
def memberIfSome {α : Type} (name : String) (encode : α → Json) : Option α → List (String × Json)
  | none => []
  | some a => [(name, encode a)]

end Json

end RecordSearch
