import RecordSearch.Calendar.Instant
import RecordSearch.Number.Power
import RecordSearch.Text.Blank
import RecordSearch.Text.Digits

/-! Written forms of dates and points in time, as lists of items.

    An exact number has a fixed count of digits. A loose number may have blanks before it and fewer
    digits; a loose year may also have a sign and then any count of digits. A form is read when its
    items take up the whole text and the numbers name a point in time that exists. -/

namespace RecordSearch.Calendar

/-- The numbers of a written point in time. -/
inductive Part where | year | month | day | hour | minute | second
  deriving DecidableEq, Repr

/-- One item of a written form. -/
inductive Item where
  /-- Exactly so many digits. -/
  | exact (part : Part) (width : Nat)
  /-- Blanks, and then at most so many digits, at least one. -/
  | loose (part : Part) (width : Nat)
  /-- One character. -/
  | mark (c : Char)
  /-- The letter T of either case, or a space. -/
  | separator
  /-- Any run of blanks, none included. -/
  | blanks
  /-- Nothing, or a point and digits, of which the first nine count. -/
  | fraction
  /-- `Z`, or sign, hours, colon and minutes. -/
  | offset
  /-- `UTC`, `Z`, or sign, hours, any run of colons and blanks, and minutes. -/
  | zone
  deriving DecidableEq, Repr

/-- The numbers read so far; what a form leaves out stays at its least value. -/
structure Stamp where
  year : Int := 1970
  month : Nat := 1
  day : Nat := 1
  hour : Nat := 0
  minute : Nat := 0
  second : Nat := 0
  nanos : Nat := 0
  offset : Int := 0
  deriving DecidableEq, Repr

namespace Stamp

/-- Sets one number. -/
def set (t : Stamp) (part : Part) (n : Nat) : Stamp :=
  match part with
  | .year => { t with year := n }
  | .month => { t with month := n }
  | .day => { t with day := n }
  | .hour => { t with hour := n }
  | .minute => { t with minute := n }
  | .second => { t with second := n }

/-- The date, if there is one. -/
def date? (t : Stamp) : Option Date := Date.of? t.year t.month t.day

/-- The point in time, if there is one; second 60 is the leap second of its minute. -/
def instant? (t : Stamp) : Option Instant := do
  let d ← t.date?
  if t.hour < 24 ∧ t.minute < 60 ∧ t.second ≤ 60 then
    Instant.of?
      (d.dayNumber * 86400 + t.hour * 3600 + t.minute * 60 + (min t.second 59 : Nat) - t.offset)
      (t.nanos + if t.second = 60 then 1000000000 else 0)
  else none

end Stamp

/-! ### Reading -/

/-- A number with exactly `width` digits. -/
def exactNumber (width : Nat) (s : List Char) : Option (Nat × List Char) :=
  let ds := s.take width
  if ds.length = width ∧ ds.all Char.isDigit then some (Text.digitsValue ds, s.drop width) else none

/-- A number with one to `width` digits. -/
def shortNumber (width : Nat) (s : List Char) : Option (Nat × List Char) :=
  let ds := (s.takeWhile Char.isDigit).take width
  if ds = [] then none else some (Text.digitsValue ds, s.drop ds.length)

/-- A number with any count of digits, at least one. -/
def longNumber (s : List Char) : Option (Nat × List Char) :=
  let (ds, rest) := Text.leadingDigits s
  if ds = [] then none else some (Text.digitsValue ds, rest)

/-- A year with a sign and any count of digits, or without sign and with at most `width` digits. -/
def looseYear (width : Nat) : List Char → Option (Int × List Char)
  | '-' :: s => (longNumber s).map fun (n, rest) => (-(n : Int), rest)
  | '+' :: s => (longNumber s).map fun (n, rest) => (n, rest)
  | s => (shortNumber width s).map fun (n, rest) => (n, rest)

/-- Nanoseconds from the digits after a point. -/
def nanosOf (ds : List Char) : Nat :=
  let head := ds.take 9
  Text.digitsValue head * tenTo (9 - head.length)

/-- Hours and minutes after a sign, with `gap` between them, in seconds. -/
def hoursMinutes (gap : List Char → Option (List Char)) (s : List Char) :
    Option (Nat × List Char) := do
  let (hours, s) ← exactNumber 2 s
  let s ← gap s
  let (minutes, s) ← exactNumber 2 s
  if hours < 24 ∧ minutes < 60 then some (hours * 3600 + minutes * 60, s) else none

/-- A sign, which may be U+2212, and hours and minutes. -/
def signedOffset (gap : List Char → Option (List Char)) :
    List Char → Option (Int × List Char)
  | '+' :: s => (hoursMinutes gap s).map fun (n, rest) => ((n : Int), rest)
  | '-' :: s => (hoursMinutes gap s).map fun (n, rest) => (-(n : Int), rest)
  | '\u2212' :: s => (hoursMinutes gap s).map fun (n, rest) => (-(n : Int), rest)
  | _ => none

/-- `Z` of either case, or an offset. -/
def zuluOffset (gap : List Char → Option (List Char)) : List Char → Option (Int × List Char)
  | 'Z' :: s => some (0, s)
  | 'z' :: s => some (0, s)
  | s => signedOffset gap s

/-- One colon. -/
def colon : List Char → Option (List Char)
  | ':' :: s => some s
  | _ => none

/-- Any run of colons and blanks. -/
def colonsOrBlanks (s : List Char) : Option (List Char) :=
  some (s.dropWhile fun c => c = ':' || Text.isBlank c)

/-- Reads one item. -/
def Item.read (t : Stamp) (s : List Char) : Item → Option (Stamp × List Char)
  | .exact part width => (exactNumber width s).map fun (n, rest) => (t.set part n, rest)
  | .loose .year width =>
    (looseYear width (Text.trimLeft s)).map fun (n, rest) => ({ t with year := n }, rest)
  | .loose part width =>
    (shortNumber width (Text.trimLeft s)).map fun (n, rest) => (t.set part n, rest)
  | .mark c =>
    match s with
    | d :: rest => if d = c then some (t, rest) else none
    | [] => none
  | .separator =>
    match s with
    | d :: rest => if d = 'T' ∨ d = 't' ∨ d = ' ' then some (t, rest) else none
    | [] => none
  | .blanks => some (t, Text.trimLeft s)
  | .fraction =>
    match s with
    | '.' :: rest =>
      let (ds, rest) := Text.leadingDigits rest
      if ds = [] then none else some ({ t with nanos := nanosOf ds }, rest)
    | _ => some (t, s)
  | .offset => (zuluOffset colon s).map fun (n, rest) => ({ t with offset := n }, rest)
  | .zone =>
    if (s.take 3).map Char.toUpper = ['U', 'T', 'C'] then some ({ t with offset := 0 }, s.drop 3)
    else (zuluOffset colonsOrBlanks s).map fun (n, rest) => ({ t with offset := n }, rest)

/-- Reads the items in order. -/
def readItems : List Item → Stamp → List Char → Option (Stamp × List Char)
  | [], t, s => some (t, s)
  | i :: items, t, s => (i.read t s).bind fun (t, s) => readItems items t s

/-- Reads a text that the items take up wholly. -/
def readForm (form : List Item) (s : List Char) : Option Stamp :=
  match readItems form {} s with
  | some (t, []) => some t
  | _ => none

/-! ### The forms -/

/-- The form of RFC 3339, with a space allowed in place of `T`. -/
def standardForm : List Item :=
  [.exact .year 4, .mark '-', .exact .month 2, .mark '-', .exact .day 2, .separator,
   .exact .hour 2, .mark ':', .exact .minute 2, .mark ':', .exact .second 2, .fraction, .offset]

/-- A loose date. -/
def dateForm : List Item :=
  [.loose .year 4, .mark '-', .loose .month 2, .mark '-', .loose .day 2]

/-- A loose time of day down to the second. -/
def timeForm : List Item :=
  [.loose .hour 2, .mark ':', .loose .minute 2, .mark ':', .loose .second 2, .fraction]

/-- A loose time of day down to the minute. -/
def shortTimeForm : List Item := [.loose .hour 2, .mark ':', .loose .minute 2]

/-- The forms without offset, which are read as UTC. -/
def localForms : List (List Item) :=
  [dateForm ++ .mark 'T' :: timeForm, dateForm ++ .blanks :: timeForm,
   dateForm ++ .mark 'T' :: shortTimeForm, dateForm ++ .blanks :: shortTimeForm]

/-- The form of a stored date: a loose date with blanks around its pieces. -/
def storedDateForm : List Item :=
  [.loose .year 4, .blanks, .mark '-', .loose .month 2, .blanks, .mark '-', .loose .day 2, .blanks]

/-- The form of a stored point in time: loose, with blanks around its pieces and with an offset. -/
def storedForm : List Item :=
  [.loose .year 4, .blanks, .mark '-', .loose .month 2, .blanks, .mark '-', .loose .day 2,
   .separator, .loose .hour 2, .blanks, .mark ':', .loose .minute 2, .blanks, .mark ':',
   .loose .second 2, .fraction, .blanks, .zone, .blanks]

/-- The point in time that a client writes: the standard form, else a form without offset, else a
    date, which means its midnight. Blanks around it do not matter. -/
def readTimestamp (text : String) : Option Instant :=
  let s := Text.trimmed text.toList
  (standardForm :: localForms ++ [dateForm]).findSome? fun form =>
    (readForm form s).bind Stamp.instant?

/-- A stored point in time. -/
def readStored (text : String) : Option Instant :=
  (readForm storedForm text.toList).bind Stamp.instant?

/-- A stored date. -/
def readStoredDate (text : String) : Option Date :=
  (readForm storedDateForm text.toList).bind Stamp.date?

/-! ### Writing -/

/-- Four digits, and a sign on years that do not fit. -/
def yearText (year : Int) : List Char :=
  let ds := Text.paddedDigits 4 year.natAbs
  if 0 ≤ year ∧ year ≤ 9999 then ds else (if year < 0 then '-' else '+') :: ds

/-- Year, month and day with hyphens. -/
def civilText (year : Int) (month day : Nat) : List Char :=
  yearText year ++ '-' :: Text.paddedDigits 2 month ++ '-' :: Text.paddedDigits 2 day

/-- Nothing, or a point and as many of three, six or nine digits as it takes. -/
def fractionText (nanos : Nat) : List Char :=
  if nanos = 0 then []
  else if nanos % 1000000 = 0 then '.' :: Text.paddedDigits 3 (nanos / 1000000)
  else if nanos % 1000 = 0 then '.' :: Text.paddedDigits 6 (nanos / 1000)
  else '.' :: Text.paddedDigits 9 nanos

/-- The stored text of a date. -/
def dateText (d : Date) : String := String.ofList (civilText d.year d.month d.day)

/-- The stored text of a point in time, in UTC with `Z`. -/
def instantText (t : Instant) : String :=
  let (year, month, day) := t.civil
  let (hour, minute, second) := t.clock
  String.ofList (civilText year month day ++ 'T' :: Text.paddedDigits 2 hour ++
    ':' :: Text.paddedDigits 2 minute ++ ':' :: Text.paddedDigits 2 second ++
    fractionText t.fraction ++ ['Z'])

/-- Date, hour and minute of a point in time, as a table shows them. -/
def minuteText (t : Instant) : String :=
  let (year, month, day) := t.civil
  let (hour, minute, _) := t.clock
  String.ofList (civilText year month day ++ ' ' :: Text.paddedDigits 2 hour ++
    ':' :: Text.paddedDigits 2 minute)

end RecordSearch.Calendar
