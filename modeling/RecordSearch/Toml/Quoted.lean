import RecordSearch.Toml

/-! Texts of TOML documents: in double quotation marks with escapes, or in single ones as they are;
    on one line, or on several between triple marks. -/

namespace RecordSearch.Toml

/-- Characters that may stand in comments and texts; controls other than the tab may not. -/
def plain (c : Char) : Bool := c = '\t' || (0x20 ≤ c.toNat && c.toNat != 0x7F)

/-- Space and tab. -/
def isSpace (c : Char) : Bool := c = ' ' || c = '\t'

/-- What follows the spaces at the front. -/
def skipSpace (s : List Char) : List Char := s.dropWhile isSpace

/-- What follows a line end at the front. -/
def skipNewline : List Char → Option (List Char)
  | '\n' :: s => some s
  | '\r' :: '\n' :: s => some s
  | _ => none

/-- The character of a code point written with so many hexadecimal digits. -/
def readCodePoint (width : Nat) (s : List Char) : Option (Char × List Char) :=
  let hex (c : Char) : Bool := c.isDigit || ('a' ≤ c && c ≤ 'f') || ('A' ≤ c && c ≤ 'F')
  let ds := s.take width
  let n := ds.foldl (fun n c =>
    16 * n + if c.isDigit then c.toNat - 48 else c.toLower.toNat - 87) 0
  if ds.length = width ∧ ds.all hex ∧ (n < 0xD800 ∨ (0xDFFF < n ∧ n < 0x110000)) then some (Char.ofNat n, s.drop width)
  else none

/-- The character of an escape, after its backslash. -/
def readEscape : List Char → Option (Char × List Char)
  | 'b' :: s => some ('\x08', s)
  | 't' :: s => some ('\t', s)
  | 'n' :: s => some ('\n', s)
  | 'f' :: s => some ('\x0c', s)
  | 'r' :: s => some ('\r', s)
  | '"' :: s => some ('"', s)
  | '\\' :: s => some ('\\', s)
  | 'u' :: s => readCodePoint 4 s
  | 'U' :: s => readCodePoint 8 s
  | _ => none

/-- The rest of a text on one line, after its opening `mark`; `done` is what was read, backwards. -/
def readLine (mark : Char) (escapes : Bool) :
    Nat → List Char → List Char → Option (String × List Char)
  | 0, _, _ => none
  | _ + 1, _, [] => none
  | fuel + 1, done, c :: s =>
    if c = mark then some (String.ofList done.reverse, s)
    else if escapes ∧ c = '\\' then do
      let (d, rest) ← readEscape s
      readLine mark escapes fuel (d :: done) rest
    else if plain c then readLine mark escapes fuel (c :: done) s
    else none

/-- What follows a line end and all blank space behind it, if only space stands before that. -/
def skipLineBreak (s : List Char) : Option (List Char) :=
  (skipNewline (skipSpace s)).map fun rest =>
    rest.dropWhile fun c => isSpace c || c = '\n' || c = '\r'

/-- The rest of a text on several lines. Up to two marks may stand before the closing three. -/
def readLines (mark : Char) (escapes : Bool) :
    Nat → List Char → List Char → Option (String × List Char)
  | 0, _, _ => none
  | _ + 1, _, [] => none
  | fuel + 1, done, c :: s =>
    if c = mark then
      let marks := ((c :: s).takeWhile (· = mark)).length
      if marks < 3 then readLines mark escapes fuel (c :: done) s
      else
        let inside := min (marks - 3) 2
        some (String.ofList (done.reverse ++ List.replicate inside mark),
          (c :: s).drop (inside + 3))
    else if escapes ∧ c = '\\' then
      match skipLineBreak s with
      | some rest => readLines mark escapes fuel done rest
      | none => do
        let (d, rest) ← readEscape s
        readLines mark escapes fuel (d :: done) rest
    else match skipNewline (c :: s) with
      | some rest => readLines mark escapes fuel ('\n' :: done) rest
      | none => if plain c then readLines mark escapes fuel (c :: done) s else none

/-- A text between marks of one kind, on one line or on several. A line end right after the opening
    triple mark does not count. -/
def readBetween (mark : Char) (escapes : Bool) (s : List Char) : Option (String × List Char) :=
  if [mark, mark, mark].isPrefixOf s then
    let body := s.drop 3
    readLines mark escapes (s.length + 1) [] ((skipNewline body).getD body)
  else readLine mark escapes (s.length + 1) [] (s.drop 1)

/-- A text. -/
def readText : List Char → Option (String × List Char)
  | '"' :: s => readBetween '"' true ('"' :: s)
  | '\x27' :: s => readBetween '\x27' false ('\x27' :: s)
  | _ => none

/-- One part of a name: letters, digits, hyphens and underscores, or a text on one line. -/
def readNamePart : List Char → Option (String × List Char)
  | '"' :: s => readLine '"' true (s.length + 1) [] s
  | '\x27' :: s => readLine '\x27' false (s.length + 1) [] s
  | s =>
    let bare (c : Char) : Bool := c.isAlphanum || c = '_' || c = '-'
    match s.takeWhile bare with
    | [] => none
    | cs => some (String.ofList cs, s.dropWhile bare)

/-- The parts of a name, with points between them and space around each part. -/
def readName : Nat → List Char → Option (List String × List Char)
  | 0, _ => none
  | fuel + 1, s => do
    let (part, rest) ← readNamePart (skipSpace s)
    match skipSpace rest with
    | '.' :: rest => do
      let (parts, rest) ← readName fuel rest
      pure (part :: parts, rest)
    | rest => pure ([part], rest)

end RecordSearch.Toml
