import RecordSearch.Text.Digits

/-! Integers of a declared width, read from text. -/

namespace RecordSearch

/-- The two widths an integer field can have. -/
inductive IntWidth where | bits32 | bits64
  deriving DecidableEq, Repr

namespace IntWidth

/-- One more than the largest integer of the width. -/
def bound : IntWidth → Int
  | bits32 => 2147483648
  | bits64 => 9223372036854775808

/-- Whether an integer fits the width. -/
def fits (w : IntWidth) (n : Int) : Bool := -w.bound ≤ n && n < w.bound

/-- Reads an optional sign and one or more digits that denote an integer of the width. -/
def read? (w : IntWidth) (s : List Char) : Option Int :=
  let (negative, ds) := Text.splitSign s
  let n := Text.signed negative (Text.digitsValue ds)
  if ds ≠ [] ∧ ds.all Char.isDigit ∧ w.fits n then some n else none

theorem fits_iff {w : IntWidth} {n : Int} : w.fits n = true ↔ -w.bound ≤ n ∧ n < w.bound := by
  simp [fits]

theorem fits_of_read? {w : IntWidth} {s : List Char} {n : Int} (h : w.read? s = some n) :
    w.fits n = true := by
  simp only [read?, Option.ite_none_right_eq_some, Option.some.injEq] at h
  exact h.2 ▸ h.1.2.2

end IntWidth

end RecordSearch
