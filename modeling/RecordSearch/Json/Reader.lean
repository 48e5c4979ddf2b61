import RecordSearch.Json.Number

/-! Reading JSON texts.

    Reading never fails: it returns a document, with a gap at the place of a fault, and what follows
    the document in the text, or nothing when the text broke off inside. -/

namespace RecordSearch.Json

/-- Space, tab and the two line ends. -/
def isSpace (c : Char) : Bool := c = ' ' || c = '\t' || c = '\n' || c = '\r'

/-- What follows the spaces at the front. -/
def skipSpace (s : List Char) : List Char := s.dropWhile isSpace

/-- The value of four hexadecimal digits at the front. -/
def hexFour : List Char → Option (Nat × List Char)
  | a :: b :: c :: d :: rest =>
    let digit (c : Char) : Option Nat :=
      if c.isDigit then some (c.toNat - 48)
      else if 'a' ≤ c ∧ c ≤ 'f' then some (c.toNat - 87)
      else if 'A' ≤ c ∧ c ≤ 'F' then some (c.toNat - 55)
      else none
    match digit a, digit b, digit c, digit d with
    | some a, some b, some c, some d => some (((a * 16 + b) * 16 + c) * 16 + d, rest)
    | _, _, _, _ => none
  | _ => none

/-- The character after a backslash that stands for another one. -/
def plainEscape : Char → Option Char
  | '"' => some '"'
  | '\\' => some '\\'
  | '/' => some '/'
  | 'b' => some '\x08'
  | 'f' => some '\x0c'
  | 'n' => some '\n'
  | 'r' => some '\r'
  | 't' => some '\t'
  | _ => none

/-- One character of a text, or a half surrogate pair, and what follows. -/
def readEscape : List Char → Option (Option Char × List Char)
  | 'u' :: s =>
    match hexFour s with
    | none => none
    | some (n, rest) =>
      if n < 0xD800 ∨ 0xE000 ≤ n then some (some (Char.ofNat n), rest)
      else if 0xDC00 ≤ n then some (none, rest)
      else match rest with
        | '\\' :: 'u' :: more =>
          match hexFour more with
          | none => none
          | some (m, after) =>
            if 0xDC00 ≤ m ∧ m < 0xE000 then
              some (some (Char.ofNat (0x10000 + (n - 0xD800) * 0x400 + (m - 0xDC00))), after)
            else some (none, rest)
        | _ => some (none, rest)
  | c :: s => (plainEscape c).map fun d => (some d, s)
  | [] => none

/-- The rest of a text after its opening quotation mark, character by character and backwards in
    `done`; `whole` is lost at a half surrogate pair. -/
def readText : Nat → Bool → List Char → List Char → Option (Json × List Char)
  | 0, _, _, _ => none
  | _ + 1, _, _, [] => none
  | fuel + 1, whole, done, c :: s =>
    if c = '"' then some (if whole then text (String.ofList done.reverse) else gap .unreadable, s)
    else if c = '\\' then
      match readEscape s with
      | none => none
      | some (some d, rest) => readText fuel whole (d :: done) rest
      | some (none, rest) => readText fuel false done rest
    else if c.toNat < 0x20 then none
    else readText fuel whole (c :: done) s

/-- An exponent, if there is one. -/
def readExponent : List Char → Option (Option (Bool × List Char) × List Char)
  | c :: s =>
    if c = 'e' ∨ c = 'E' then
      let (down, s) := Text.splitSign s
      let (ds, rest) := Text.leadingDigits s
      if ds = [] then none else some (some (down, ds), rest)
    else some (none, c :: s)
  | [] => some (none, [])

/-- Digits after a point, if there is one. -/
def readPlaces : List Char → Option (Option (List Char) × List Char)
  | '.' :: s =>
    let (ds, rest) := Text.leadingDigits s
    if ds = [] then none else some (some ds, rest)
  | s => some (none, s)

/-- A number: no leading zeros, digits on both sides of a point, digits in the exponent. -/
def readNumber (s : List Char) : Option (NumberText × List Char) := do
  let (negative, s) := match s with
    | '-' :: s => (true, s)
    | s => (false, s)
  let (whole, s) := Text.leadingDigits s
  match whole with
  | [] => none
  | '0' :: _ :: _ => none
  | _ =>
    let (places, s) ← readPlaces s
    let (exponent, s) ← readExponent s
    some (⟨negative, whole, places, exponent⟩, s)

/-- A fixed word. -/
def readWord (word : String) (v : Json) (s : List Char) : Json × Option (List Char) :=
  if word.toList.isPrefixOf s then (v, some (s.drop word.length)) else (gap .broken, none)

/-- A member with its key. If the key is no name, it has no value either. -/
def member (key v : Json) : String × Json :=
  match key with
  | text name => (name, v)
  | _ => ("", gap .nameless)

mutual

/-- The document at the front of a text, and what follows it. -/
def readValue : Nat → List Char → Json × Option (List Char)
  | 0, _ => (gap .broken, none)
  | fuel + 1, s =>
    match skipSpace s with
    | '{' :: rest =>
      match skipSpace rest with
      | '}' :: after => (object [], some after)
      | rest => let (ms, after) := readMembers fuel rest; (object ms, after)
    | '[' :: rest =>
      match skipSpace rest with
      | ']' :: after => (array [], some after)
      | rest => let (vs, after) := readItems fuel rest; (array vs, after)
    | '"' :: rest =>
      match readText fuel true [] rest with
      | some (v, after) => (v, some after)
      | none => (gap .broken, none)
    | 'n' :: rest => readWord "null" null ('n' :: rest)
    | 't' :: rest => readWord "true" (bool true) ('t' :: rest)
    | 'f' :: rest => readWord "false" (bool false) ('f' :: rest)
    | s =>
      match readNumber s with
      | some (t, after) => (t.toJson, some after)
      | none => (gap .broken, none)

/-- One or more items, up to the closing bracket. -/
def readItems : Nat → List Char → List Json × Option (List Char)
  | 0, _ => ([gap .broken], none)
  | fuel + 1, s =>
    match readValue fuel s with
    | (v, none) => ([v], none)
    | (v, some after) =>
      match skipSpace after with
      | ',' :: rest => let (vs, after) := readItems fuel rest; (v :: vs, after)
      | ']' :: rest => ([v], some rest)
      | _ => ([v, gap .broken], none)

/-- One or more members, up to the closing brace. -/
def readMembers : Nat → List Char → List (String × Json) × Option (List Char)
  | 0, _ => ([("", gap .broken)], none)
  | fuel + 1, s =>
    match skipSpace s with
    | '"' :: rest =>
      match readText fuel true [] rest with
      | some (key, after) =>
        match skipSpace after with
        | ':' :: rest =>
          match readValue fuel rest with
          | (v, none) => ([((member key v).1, v)], none)
          | (v, some after) =>
            match skipSpace after with
            | ',' :: rest => let (ms, after) := readMembers fuel rest; (member key v :: ms, after)
            | '}' :: rest => ([member key v], some rest)
            | _ => ([member key v, ("", gap .broken)], none)
        | _ => ([("", gap .broken)], none)
      | none => ([("", gap .broken)], none)
    | _ => ([("", gap .broken)], none)

end

/-- The document of a text, and whether nothing but space follows it. No step is taken without a
    character, and no character takes more than two steps, so twice the length is fuel enough. -/
def parse (s : String) : Json × Bool :=
  match readValue (2 * s.toList.length + 2) s.toList with
  | (v, some rest) => (v, skipSpace rest = [])
  | (v, none) => (v, false)

end RecordSearch.Json
