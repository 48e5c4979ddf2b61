import RecordSearch.Calendar.Date
import RecordSearch.Number.Double.Reader
import RecordSearch.Number.Integer
import RecordSearch.Toml

/-! Numbers, dates and times of TOML texts. -/

namespace RecordSearch.Toml

/-! ### Digits -/

/-- Digits of a base with single underscores between them, without the underscores. -/
def readRun (digit : Char → Bool) : List Char → List Char × List Char
  | '_' :: c :: s =>
    if digit c then let (ds, rest) := readRun digit s; (c :: ds, rest) else ([], '_' :: c :: s)
  | c :: s =>
    if digit c then let (ds, rest) := readRun digit s; (c :: ds, rest) else ([], c :: s)
  | [] => ([], [])

/-- One or more digits. -/
def readDigits (digit : Char → Bool) : List Char → Option (List Char × List Char)
  | c :: s => if digit c then some (readRun digit (c :: s)) else none
  | [] => none

/-- The value of a hexadecimal digit. -/
def digitValue (c : Char) : Nat :=
  if c.isDigit then c.toNat - 48 else c.toLower.toNat - 87

/-- The value of digits of a base. -/
def valueIn (base : Nat) (ds : List Char) : Nat :=
  ds.foldl (fun n c => base * n + digitValue c) 0

/-- The base of a marked integer and its digits. -/
def base? : Char → Option (Nat × (Char → Bool))
  | 'x' => some (16, fun c => c.isDigit || ('a' ≤ c && c ≤ 'f') || ('A' ≤ c && c ≤ 'F'))
  | 'o' => some (8, fun c => '0' ≤ c && c ≤ '7')
  | 'b' => some (2, fun c => c = '0' || c = '1')
  | _ => none

/-- An integer of 64 bits. -/
def integer? (n : Int) : Option Toml := if IntWidth.bits64.fits n then some (integer n) else none

/-! ### Numbers -/

/-- A point and digits behind it, if there is a point. -/
def readPlaces : List Char → Option (List Char × List Char)
  | '.' :: s => (readDigits Char.isDigit s).map fun (ds, rest) => ('.' :: ds, rest)
  | s => some ([], s)

/-- An exponent, if there is one. -/
def readExponent : List Char → Option (List Char × List Char)
  | c :: s =>
    if c = 'e' ∨ c = 'E' then
      let (sign, s) := match s with
        | '-' :: s => (['-'], s)
        | '+' :: s => ([], s)
        | s => ([], s)
      (readDigits Char.isDigit s).map fun (ds, rest) => ('e' :: sign ++ ds, rest)
    else some ([], c :: s)
  | [] => some ([], [])

/-- A number without sign in base ten; only a lone zero begins with a zero. It is a floating point
    number if it has places or an exponent, and then it must not be too large. -/
def readDecimal (negative : Bool) (s : List Char) : Option (Toml × List Char) := do
  let (whole, s) ← match s with
    | '0' :: s => some (['0'], s)
    | s => readDigits Char.isDigit s
  let (places, s) ← readPlaces s
  let (exponent, s) ← readExponent s
  let sign := if negative then ['-'] else []
  if places = [] ∧ exponent = [] then
    let v ← integer? (Text.signed negative (Text.digitsValue whole))
    pure (v, s)
  else
    let x ← Double.read? (sign ++ whole ++ places ++ exponent)
    if x = .infinity false then none else pure (real x, s)

/-- The words for numbers without digits. -/
def readSpecial (negative : Bool) : List Char → Option (Toml × List Char)
  | 'i' :: 'n' :: 'f' :: s => some (real (.infinity negative), s)
  | 'n' :: 'a' :: 'n' :: s => some (real .nan, s)
  | _ => none

/-- A number. Only numbers in base ten have a sign. -/
def readNumber : List Char → Option (Toml × List Char)
  | '0' :: c :: s =>
    match base? c with
    | some (base, digit) => do
      let (ds, rest) ← readDigits digit s
      let v ← integer? (valueIn base ds)
      pure (v, rest)
    | none => readDecimal false ('0' :: c :: s)
  | '-' :: s => (readSpecial true s).or (readDecimal true s)
  | '+' :: s => (readSpecial false s).or (readDecimal false s)
  | s => (readSpecial false s).or (readDecimal false s)

/-! ### Dates and times -/

/-- Two digits that denote a number within bounds. -/
def readTwo (low high : Nat) : List Char → Option (Nat × List Char)
  | a :: b :: s =>
    let n := Text.digitsValue [a, b]
    if a.isDigit ∧ b.isDigit ∧ low ≤ n ∧ n ≤ high then some (n, s) else none
  | _ => none

/-- A certain character. -/
def readMark (mark : Char) : List Char → Option (List Char)
  | c :: s => if c = mark then some s else none
  | [] => none

/-- What follows a date that exists. -/
def skipDate (s : List Char) : Option (List Char) := do
  let (century, s) ← readTwo 0 99 s
  let (year, s) ← readTwo 0 99 s
  let s ← readMark '-' s
  let (month, s) ← readTwo 1 12 s
  let s ← readMark '-' s
  let (_, s) ← readTwo 1 (daysInMonth (100 * century + year) month) s
  pure s

/-- What follows a fraction of a second, if there is one. -/
def skipFraction : List Char → List Char
  | '.' :: c :: s => if c.isDigit then s.dropWhile Char.isDigit else '.' :: c :: s
  | s => s

/-- What follows a time of day. -/
def skipTime (s : List Char) : Option (List Char) := do
  let (_, s) ← readTwo 0 23 s
  let s ← readMark ':' s
  let (_, s) ← readTwo 0 59 s
  let s ← readMark ':' s
  let (_, s) ← readTwo 0 60 s
  pure (skipFraction s)

/-- What follows an offset, if there is one. -/
def skipOffset (s : List Char) : List Char :=
  match s with
  | 'Z' :: rest | 'z' :: rest => rest
  | '+' :: rest | '-' :: rest =>
    (do
      let (_, rest) ← readTwo 0 23 rest
      let rest ← readMark ':' rest
      let (_, rest) ← readTwo 0 59 rest
      pure rest).getD s
  | _ => s

/-- What follows a time of day and an offset that stand behind a date, if there are any. -/
def skipTimePart : List Char → List Char
  | c :: s =>
    if c = 'T' ∨ c = 't' ∨ c = ' ' then
      match skipTime s with
      | some rest => skipOffset rest
      | none => c :: s
    else c :: s
  | [] => []

/-- A date with or without a time of day, or a time of day. -/
def readMoment (s : List Char) : Option (Toml × List Char) :=
  let rest := match skipDate s with
    | some rest => some (skipTimePart rest)
    | none => skipTime s
  rest.map fun rest => (moment (String.ofList (s.take (s.length - rest.length))), rest)

end RecordSearch.Toml
