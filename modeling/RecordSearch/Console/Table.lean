import RecordSearch.Text.Columns
import RecordSearch.Text.Pieces

/-! Tables with frames.

    Every column is as wide as its widest cell, with a space on both sides. A cell with line ends
    takes several lines of its row. -/

namespace RecordSearch.Console

/-- A horizontal line of a frame: its left end, the line, where columns meet, and its right end. -/
structure Rule where
  left : Char
  line : Char
  cross : Char
  right : Char
  deriving DecidableEq, Repr

/-- The characters of a frame. -/
structure Frame where
  top : Rule
  belowHeader : Rule
  /-- The line between two rows, if there is one. -/
  between : Option Rule
  bottom : Rule
  edge : Char
  divider : Char
  deriving DecidableEq, Repr

namespace Frame

/-- A frame of line characters, without lines between rows. -/
def boxed : Frame where
  top := ⟨'┌', '─', '┬', '┐'⟩
  belowHeader := ⟨'╞', '═', '╪', '╡'⟩
  between := none
  bottom := ⟨'└', '─', '┴', '┘'⟩
  edge := '│'
  divider := '┆'

/-- A frame of ASCII characters, with lines between rows. -/
def ascii : Frame where
  top := ⟨'+', '-', '+', '+'⟩
  belowHeader := ⟨'+', '=', '=', '+'⟩
  between := some ⟨'|', '-', '+', '|'⟩
  bottom := ⟨'+', '-', '+', '+'⟩
  edge := '|'
  divider := '|'

end Frame

/-- A table: a header, and rows that may leave out cells at their end. -/
structure Table where
  header : List String
  rows : List (List String)
  deriving DecidableEq, Repr

namespace Table

/-- The lines of a cell. -/
def cellLines (cell : String) : List (List Char) := Text.pieces '\n' cell.toList

/-- The columns that a cell takes. -/
def cellWidth (cell : String) : Nat := ((cellLines cell).map Text.columns).foldl max 0

/-- The widths of the columns. -/
def widths (t : Table) : List Nat :=
  let rows := t.header :: t.rows
  let count := (rows.map List.length).foldl max 0
  (List.range count).map fun i => (rows.map fun r => cellWidth (r.getD i "")).foldl max 0

/-- A horizontal line. -/
def ruleLine (r : Rule) (widths : List Nat) : List Char :=
  r.left :: (List.intercalate [r.cross] (widths.map fun w => List.replicate (w + 2) r.line)) ++
    [r.right]

/-- A line of a cell with the space around it. -/
def padded (width : Nat) (s : List Char) : List Char :=
  ' ' :: s ++ List.replicate (width - Text.columns s) ' ' ++ [' ']

/-- The lines of a row. -/
def rowLines (f : Frame) (widths : List Nat) (row : List String) : List (List Char) :=
  let cells := widths.mapIdx fun i w => (w, cellLines (row.getD i ""))
  let height := (cells.map fun c => c.2.length).foldl max 1
  (List.range height).map fun k =>
    f.edge :: List.intercalate [f.divider] (cells.map fun c => padded c.1 (c.2.getD k [])) ++
      [f.edge]

/-- The rows with lines between them. -/
def bodyLines (f : Frame) (widths : List Nat) : List (List String) → List (List Char)
  | [] => []
  | [row] => rowLines f widths row
  | row :: rows =>
    rowLines f widths row ++ (f.between.map (ruleLine · widths)).toList ++ bodyLines f widths rows

/-- The table in a frame. -/
def render (t : Table) (f : Frame) : String :=
  let ws := t.widths
  Text.joinWith "\n" ((ruleLine f.top ws :: rowLines f ws t.header ++
    ruleLine f.belowHeader ws :: bodyLines f ws t.rows ++ [ruleLine f.bottom ws]).map String.ofList)

end Table

end RecordSearch.Console
