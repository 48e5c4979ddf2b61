import RecordSearch.Json.Decode

/-! Structures in documents.

    A structure is an object with the names of its fields, or an array of its fields in order. The
    members of an object are gone through in order, and the first complaint counts: a known name
    that repeats, a known member of the wrong kind, an unknown member that cannot be passed over.
    Only afterwards the fields are taken by name, so the order of members has no other effect. -/

namespace RecordSearch.Json

/-- The members of an object. -/
abbrev Members := List (String × Json)

/-- A place where every reader complains. -/
def fault : String × Json := ("", gap .broken)

/-- Forgets what was read. -/
def check {α : Type} (decode : Json → Decoded α) (v : Json) : Decoded Unit :=
  (decode v).map fun _ => ()

/-- The value of a field that has to be given. -/
def field {α : Type} (ms : Members) (name : String) (decode : Json → Decoded α) : Decoded α :=
  match ms.lookup name with
  | some v => decode v
  | none => .error .mismatch

/-- The value of a field that may be left out. -/
def fieldOr {α : Type} (ms : Members) (name : String) (decode : Json → Decoded α)
    (otherwise : α) : Decoded α :=
  match ms.lookup name with
  | some v => decode v
  | none => .ok otherwise

/-- The value of a field that may be null or left out. -/
def fieldOption {α : Type} (ms : Members) (name : String) (decode : Json → Decoded α) :
    Decoded (Option α) :=
  fieldOr ms name (decodeOption decode) none

/-- Goes through members in order: `known` judges those with a name of their own, which may not
    repeat, and `other` the rest. -/
def walk (known : String → Option (Json → Decoded Unit)) (other : Json → Bool) :
    List String → Members → Decoded Unit
  | _, [] => .ok ()
  | seen, (name, v) :: ms =>
    match known name with
    | some judge =>
      if name ∈ seen then .error .mismatch
      else do
        judge v
        walk known other (name :: seen) ms
    | none => if other v then walk known other seen ms else .error .mismatch

/-- How a structure stands in a document. -/
structure Codec (α : Type) where
  /-- The fields in order, each with what it has to be. -/
  fields : List (String × (Json → Decoded Unit))
  /-- How many fields an array has to give; the rest may be left out at its end. -/
  required : Nat
  /-- The structure from members that have passed. -/
  build : Members → Decoded α
  /-- The members to write. -/
  members : α → Members

namespace Codec

variable {α : Type}

/-- What a field has to be, if it is one of the structure. -/
def judge (c : Codec α) (name : String) : Option (Json → Decoded Unit) := c.fields.lookup name

/-- The names of the fields. -/
def names (c : Codec α) : List String := c.fields.map Prod.fst

/-- The members of a document, by name or by place. -/
def membersOf (c : Codec α) : Json → Decoded Members
  | object ms => .ok ms
  | array vs =>
    .ok (c.names.zip vs ++
      if c.required ≤ vs.length ∧ vs.length ≤ c.fields.length then [] else [fault])
  | _ => .error .mismatch

/-- Reads a structure. -/
def decode (c : Codec α) (v : Json) : Decoded α := do
  let ms ← c.membersOf v
  walk c.judge skippable [] ms
  c.build ms

/-- Writes a structure as an object. -/
def encode (c : Codec α) (a : α) : Json := object (c.members a)

end Codec

end RecordSearch.Json
