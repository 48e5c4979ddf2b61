import RecordSearch.Json.Number

/-! Writing JSON documents, on one line or indented. -/

namespace RecordSearch.Json

/-- A character of a text: quotation marks, backslashes and controls are escaped. -/
def escapeChar (c : Char) : List Char :=
  if c = '"' then ['\\', '"']
  else if c = '\\' then ['\\', '\\']
  else if c = '\x08' then ['\\', 'b']
  else if c = '\x0c' then ['\\', 'f']
  else if c = '\n' then ['\\', 'n']
  else if c = '\r' then ['\\', 'r']
  else if c = '\t' then ['\\', 't']
  else if c.toNat < 0x20 then
    let ds := Nat.toDigits 16 c.toNat
    ['\\', 'u'] ++ List.replicate (4 - ds.length) '0' ++ ds
  else [c]

/-- A text between quotation marks. -/
def textLiteral (s : String) : List Char := '"' :: s.toList.flatMap escapeChar ++ ['"']

/-- A document without parts. -/
def scalarText : Json → List Char
  | bool true => "true".toList
  | bool false => "false".toList
  | integer n => (Text.integerText n).toList
  | real x => realText x
  | text s => textLiteral s
  | _ => "null".toList

mutual

/-- The document on one line, without spaces. -/
def compactChars : Json → List Char
  | array [] => ['[', ']']
  | array (v :: vs) => '[' :: compactChars v ++ compactItems vs ++ [']']
  | object [] => [Char.ofNat 0x7B, Char.ofNat 0x7D]
  | object ((n, v) :: ms) =>
    Char.ofNat 0x7B :: textLiteral n ++ ':' :: compactChars v ++ compactMembers ms ++
      [Char.ofNat 0x7D]
  | v => scalarText v

/-- Further items, each after a comma. -/
def compactItems : List Json → List Char
  | [] => []
  | v :: vs => ',' :: compactChars v ++ compactItems vs

/-- Further members, each after a comma. -/
def compactMembers : List (String × Json) → List Char
  | [] => []
  | (n, v) :: ms => ',' :: textLiteral n ++ ':' :: compactChars v ++ compactMembers ms

end

/-- The document on one line. -/
def compact (v : Json) : String := String.ofList (compactChars v)

/-- A new line with two spaces for each level. -/
def newLine (level : Nat) : List Char := '\n' :: List.replicate (2 * level) ' '

mutual

/-- The document with one item or member a line. -/
def prettyChars (level : Nat) : Json → List Char
  | array [] => ['[', ']']
  | array (v :: vs) =>
    '[' :: newLine (level + 1) ++ prettyChars (level + 1) v ++ prettyItems (level + 1) vs ++
      newLine level ++ [']']
  | object [] => [Char.ofNat 0x7B, Char.ofNat 0x7D]
  | object ((n, v) :: ms) =>
    Char.ofNat 0x7B :: newLine (level + 1) ++ textLiteral n ++ ':' :: ' ' ::
      prettyChars (level + 1) v ++ prettyMembers (level + 1) ms ++ newLine level ++
      [Char.ofNat 0x7D]
  | v => scalarText v

/-- Further items, each after a comma and on a line of its own. -/
def prettyItems (level : Nat) : List Json → List Char
  | [] => []
  | v :: vs => ',' :: newLine level ++ prettyChars level v ++ prettyItems level vs

/-- Further members, each after a comma and on a line of its own. -/
def prettyMembers (level : Nat) : List (String × Json) → List Char
  | [] => []
  | (n, v) :: ms =>
    ',' :: newLine level ++ textLiteral n ++ ':' :: ' ' :: prettyChars level v ++
      prettyMembers level ms

end

/-- The document with one item or member a line. -/
def pretty (v : Json) : String := String.ofList (prettyChars 0 v)

end RecordSearch.Json
