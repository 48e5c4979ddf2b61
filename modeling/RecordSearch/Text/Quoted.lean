import RecordSearch.Text.Quoted.Table

/-! Texts between quotation marks, as messages show a value that a client sent.

    Quotation marks and backslashes are escaped, the usual controls have their letters, and every
    character that would not show on its own is written by its code point. -/

namespace RecordSearch.Text

open Quoted

/-- The code point of a character as a braced hexadecimal escape. -/
def codePointEscape (c : Char) : List Char :=
  ['\\', 'u', Char.ofNat 0x7B] ++ Nat.toDigits 16 c.toNat ++ [Char.ofNat 0x7D]

/-- How one character stands between quotation marks. -/
def quoteChar (c : Char) : List Char :=
  if c = '"' then ['\\', '"']
  else if c = '\\' then ['\\', '\\']
  else if c = '\t' then ['\\', 't']
  else if c = '\n' then ['\\', 'n']
  else if c = '\r' then ['\\', 'r']
  else if c.toNat = 0 then ['\\', '0']
  else if combining.contains c || unprintable.contains c then codePointEscape c
  else [c]

/-- The text between quotation marks. -/
def quote (s : String) : String := String.ofList ('"' :: s.toList.flatMap quoteChar ++ ['"'])

end RecordSearch.Text
