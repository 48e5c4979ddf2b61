import RecordSearch.Text.Pieces

/-! Coloured text for terminals: a text between a style sequence and the reset sequence. -/

namespace RecordSearch.Console

/-- A text style: a colour by its number, bold or not. -/
structure Ink where
  color : Nat
  bold : Bool := false
  deriving DecidableEq, Repr

namespace Ink

/-- The colours of the messages. -/
def green : Ink := ⟨32, false⟩

/-- Warnings. -/
def yellow : Ink := ⟨33, false⟩

/-- Notes on results. -/
def blue : Ink := ⟨34, false⟩

/-- Errors. -/
def red : Ink := ⟨31, true⟩

/-- Commands of examples. -/
def magenta : Ink := ⟨35, false⟩

/-- Headings of help texts. -/
def cyan : Ink := ⟨36, true⟩

/-- Values. -/
def white : Ink := ⟨37, false⟩

/-- Progress. -/
def grey : Ink := ⟨90, false⟩

/-- Titles of example groups. -/
def sky : Ink := ⟨94, false⟩

/-- Names in help texts. -/
def aqua : Ink := ⟨96, false⟩

/-- The same colour in bold. -/
def strong (ink : Ink) : Ink := { ink with bold := true }

/-- The sequence that ends every style. -/
def reset : List Char := "\x1b[0m".toList

/-- The sequence that starts the style. -/
def start (ink : Ink) : List Char :=
  "\x1b[".toList ++ (if ink.bold then ['1', ';'] else []) ++ Nat.toDigits 10 ink.color ++ ['m']

/-- Starts the style anew after every reset inside the text. -/
def resume (start : List Char) : Nat → List Char → List Char
  | 0, s => s
  | _ + 1, [] => []
  | fuel + 1, c :: s =>
    if reset.isPrefixOf (c :: s) then reset ++ start ++ resume start fuel ((c :: s).drop reset.length)
    else c :: resume start fuel s

/-- The text in the style if colours are on, else the text as it is. -/
def paint (ink : Ink) (on : Bool) (s : String) : String :=
  if on then
    String.ofList (ink.start ++ resume ink.start s.length s.toList ++ reset)
  else s

end Ink

end RecordSearch.Console
