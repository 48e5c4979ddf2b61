import RecordSearch.Text.Blank
import RecordSearch.Text.Pieces

/-! Written types, as far as it matters whether a field holds text.

    A field holds text if the last part of its type's path is `String`, or is `Option` with such a
    path as its first argument. -/

namespace RecordSearch.TypeText

/-- Characters of words in types. -/
def isWordChar (c : Char) : Bool := c.isAlphanum || c = '_' || c = '#' || 128 ≤ c.toNat

/-- What stands between angle brackets after the opening one, and what follows the closing one.
    Brackets of all kinds nest; the arrow `->` is no bracket. -/
def untilClosed : Nat → List Char → List Char × List Char
  | _, [] => ([], [])
  | depth, '-' :: '>' :: s => let (inside, rest) := untilClosed depth s; ('-' :: '>' :: inside, rest)
  | depth, c :: s =>
    if c = '>' ∧ depth = 0 then ([], s)
    else
      let depth :=
        if c = '<' ∨ c = '(' ∨ c = '[' then depth + 1
        else if c = '>' ∨ c = ')' ∨ c = ']' then depth - 1
        else depth
      let (inside, rest) := untilClosed depth s
      (c :: inside, rest)

/-- The text before the first comma outside of brackets. -/
def firstArgument : Nat → List Char → List Char
  | _, [] => []
  | depth, '-' :: '>' :: s => '-' :: '>' :: firstArgument depth s
  | depth, c :: s =>
    if c = ',' ∧ depth = 0 then []
    else
      c :: firstArgument
        (if c = '<' ∨ c = '(' ∨ c = '[' then depth + 1
          else if c = '>' ∨ c = ')' ∨ c = ']' then depth - 1
          else depth) s

/-- The last part of a path without blanks: its word, and its arguments if it has any. Nothing if the
    text is no path. -/
def lastPart : Nat → List Char → Option (List Char × Option (List Char))
  | 0, _ => none
  | fuel + 1, s =>
    let word := s.takeWhile isWordChar
    let rest := s.dropWhile isWordChar
    if word = [] then none
    else match rest with
      | [] => some (word, none)
      | ':' :: ':' :: '<' :: s | '<' :: s =>
        match untilClosed 0 s with
        | (inside, []) => some (word, some inside)
        | (_, ':' :: ':' :: s) => lastPart fuel s
        | _ => none
      | ':' :: ':' :: s => lastPart fuel s
      | _ => none

/-- Words that begin a type which is no path. -/
def otherTypes : List String := ["dyn", "impl", "fn", "unsafe", "extern", "for", "_"]

/-- The last part of the path that a written type is. A path may begin with two colons, or with a
    type in angle brackets. -/
def path (text : List Char) : Option (List Char × Option (List Char)) :=
  let first := String.ofList ((Text.trimmed text).takeWhile isWordChar)
  let s := text.filter (!Text.isBlank ·)
  if first ∈ otherTypes then none
  else match s with
    | ':' :: ':' :: s => lastPart s.length s
    | '<' :: s =>
      match untilClosed 0 s with
      | (_, ':' :: ':' :: s) => lastPart s.length s
      | _ => none
    | s => lastPart s.length s

/-- Whether the type is named `String`. -/
def isString (text : List Char) : Bool :=
  match path text with
  | some (word, _) => word == "String".toList
  | none => false

/-- Whether fields of the type hold text. -/
def holdsText (text : String) : Bool :=
  match path text.toList with
  | some (word, some arguments) =>
    if word = "Option".toList then isString (firstArgument 0 arguments)
    else word == "String".toList
  | some (word, none) => word == "String".toList
  | none => false

/-- The type without blanks. -/
def bare (text : String) : String := String.ofList (text.toList.filter (!Text.isBlank ·))

end RecordSearch.TypeText
