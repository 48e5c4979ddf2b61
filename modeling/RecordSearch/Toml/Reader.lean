import RecordSearch.Toml.Quoted
import RecordSearch.Toml.Scalar
import RecordSearch.Toml.Tree

/-! Reading TOML texts. -/

namespace RecordSearch.Toml

/-- What follows a comment at the front. -/
def skipComment : List Char → List Char
  | '#' :: s => s.dropWhile plain
  | s => s

/-- What follows the end of a line: space, a comment, and a line end or the end of the text. -/
def skipLineEnd (s : List Char) : Option (List Char) :=
  match skipComment (skipSpace s) with
  | [] => some []
  | s => skipNewline s

/-- What follows the space, comments and line ends at the front. -/
def skipFiller : Nat → List Char → List Char
  | 0, s => s
  | fuel + 1, s =>
    let s := skipSpace s
    match skipNewline (skipComment s) with
    | some rest => skipFiller fuel rest
    | none => s

/-- A reader of values. -/
abbrev ValueReader := List Char → Option (Toml × List Char)

/-- The items of an array after its opening bracket; a comma may follow the last one. -/
def readItems (read : ValueReader) : Nat → List Char → Option (List Toml × List Char)
  | 0, _ => none
  | fuel + 1, s =>
    match skipFiller s.length s with
    | ']' :: rest => some ([], rest)
    | s => do
      let (v, rest) ← read s
      match skipFiller rest.length rest with
      | ',' :: rest => do
        let (vs, rest) ← readItems read fuel rest
        pure (v :: vs, rest)
      | ']' :: rest => pure ([v], rest)
      | _ => none

/-- How many parts a name may have, and how deep values may nest. -/
def nestingLimit : Nat := 79

/-- A name, an equals sign and a value. -/
def readPair (read : ValueReader) (s : List Char) : Option (List String × Toml × List Char) := do
  let (name, rest) ← readName nestingLimit s
  match rest with
  | '=' :: rest => do
    let (v, rest) ← read (skipSpace rest)
    pure (name, v, rest)
  | _ => none

/-- The members of an inline table, which stands on one line. -/
def readInline (read : ValueReader) : Nat → Nodes → List Char → Option (Nodes × List Char)
  | 0, _, _ => none
  | fuel + 1, ns, s => do
    let (name, v, rest) ← readPair read s
    let ns ← addValue name v ns
    match skipSpace rest with
    | ',' :: rest => readInline read fuel ns rest
    | c :: rest => if c = Char.ofNat 0x7D then pure (ns, rest) else none
    | [] => none

/-- A value that nests at most so deep. -/
def readValue : Nat → ValueReader
  | depth, c :: s =>
    if c = '"' ∨ c = '\x27' then (readText (c :: s)).map fun (t, rest) => (text t, rest)
    else if c = '[' then
      match depth with
      | 0 => none
      | depth + 1 =>
        (readItems (readValue depth) (s.length + 1) s).map fun (vs, rest) => (array vs, rest)
    else if c = Char.ofNat 0x7B then
      match depth with
      | 0 => none
      | depth + 1 =>
        match skipSpace s with
        | d :: rest =>
          if d = Char.ofNat 0x7D then some (table [], rest)
          else (readInline (readValue depth) (s.length + 1) [] (d :: rest)).map
            fun (ns, rest) => (table (memberValues ns), rest)
        | [] => none
    else if "true".toList.isPrefixOf (c :: s) then some (bool true, s.drop 3)
    else if "false".toList.isPrefixOf (c :: s) then some (bool false, s.drop 4)
    else (readMoment (c :: s)).or (readNumber (c :: s))
  | _, [] => none

/-- A document in the making: its tables, and the name of the one that is open. -/
structure Draft where
  root : Nodes := []
  opened : List String := []

namespace Draft

/-- Adds a value to the open table. -/
def add (d : Draft) (name : List String) (v : Toml) : Option Draft := do
  let root ← within .implied (fun _ ns => addValue name v ns) d.opened .header d.root
  pure { d with root := root }

/-- Opens the table of a header. -/
def header (d : Draft) (s : List Char) : Option (Draft × List Char) :=
  match s with
  | '[' :: s => do
    let (name, rest) ← readName nestingLimit s
    match rest with
    | ']' :: ']' :: rest => pure (⟨← openSeries name d.root, name⟩, rest)
    | _ => none
  | s => do
    let (name, rest) ← readName nestingLimit s
    match rest with
    | ']' :: rest => pure (⟨← openTable name d.root, name⟩, rest)
    | _ => none

end Draft

/-- Reads on line by line. -/
def readRest : Nat → Draft → List Char → Option Draft
  | 0, _, _ => none
  | fuel + 1, d, s =>
    match skipSpace s with
    | [] => some d
    | '[' :: s => do
      let (d, rest) ← d.header s
      let rest ← skipLineEnd rest
      readRest fuel d rest
    | c :: s =>
      if c = '#' ∨ c = '\n' ∨ c = '\r' then do
        let rest ← skipLineEnd (c :: s)
        readRest fuel d rest
      else do
        let (name, v, rest) ← readPair (readValue nestingLimit) (c :: s)
        let d ← d.add name v
        let rest ← skipLineEnd rest
        readRest fuel d rest

/-- The document of a text, if the text is TOML. Each step takes a character, so the length of the
    text is fuel enough. A mark of the byte order may stand first. -/
def parse (s : String) : Option Toml :=
  let s := match s.toList with
    | '\uFEFF' :: s => s
    | s => s
  (readRest (s.length + 1) {} s).map fun d => table (memberValues d.root)

end RecordSearch.Toml
