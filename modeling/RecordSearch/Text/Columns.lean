import RecordSearch.Text.Columns.Table

/-! How many columns a text takes on a terminal: none for marks, two for wide characters, one for
    any other character. -/

namespace RecordSearch.Text

/-- The columns of one character. -/
def columnsOf (c : Char) : Nat :=
  if c.toNat < 128 then 1
  else if Columns.weightless.contains c then 0
  else if Columns.wide.contains c then 2
  else 1

/-- The columns of a text. -/
def columns (s : List Char) : Nat := s.foldl (fun n c => n + columnsOf c) 0

end RecordSearch.Text
