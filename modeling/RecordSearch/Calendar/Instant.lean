import RecordSearch.Calendar.Date

/-! Points in time: seconds since the first of January 1970 and nanoseconds within the second.

    A leap second has no second of its own: it is the second before it with 10⁹ to 2·10⁹ - 1
    nanoseconds, and only a second that ends a minute can have that many. -/

namespace RecordSearch

/-- A point in time within the years of the calendar. -/
structure Instant where
  seconds : Int
  nanos : Nat
  seconds_range : -8334601228800 ≤ seconds ∧ seconds ≤ 8210266876799
  nanos_lt : nanos < 2000000000
  leap : 1000000000 ≤ nanos → seconds % 60 = 59
  deriving DecidableEq, Repr

namespace Instant

/-- The point in time with the given parts, if there is one. -/
def of? (seconds : Int) (nanos : Nat) : Option Instant :=
  if h : (-8334601228800 ≤ seconds ∧ seconds ≤ 8210266876799) ∧ nanos < 2000000000 ∧
      (1000000000 ≤ nanos → seconds % 60 = 59) then
    some ⟨seconds, nanos, h.1, h.2.1, h.2.2⟩
  else none

/-- Earlier or later. -/
def compare (a b : Instant) : Ordering :=
  (Ord.compare a.seconds b.seconds).then (Ord.compare a.nanos b.nanos)

/-- The first of January 1970. -/
def epoch : Instant := ⟨0, 0, by decide, by decide, by decide⟩

/-- The point in time that is a number of seconds later, or `t` itself beyond the calendar. -/
def later (t : Instant) (seconds : Int) : Instant :=
  (of? (t.seconds + seconds) t.nanos).getD t

/-- Year, month and day. -/
def civil (t : Instant) : Int × Nat × Nat := Date.civil (t.seconds / 86400)

/-- Hour, minute and second; the second of a leap second is 60. -/
def clock (t : Instant) : Nat × Nat × Nat :=
  let s := (t.seconds % 86400).toNat
  (s / 3600, s / 60 % 60, s % 60 + if 1000000000 ≤ t.nanos then 1 else 0)

/-- Nanoseconds within the second, leap second or not. -/
def fraction (t : Instant) : Nat := t.nanos % 1000000000

end Instant

/-- Midnight at the start of a date. -/
def Date.midnight (d : Date) : Instant := (Instant.of? (d.dayNumber * 86400) 0).getD .epoch

theorem Instant.of?_eq_some {seconds : Int} {nanos : Nat} {t : Instant}
    (h : of? seconds nanos = some t) : t.seconds = seconds ∧ t.nanos = nanos := by
  unfold of? at h
  split at h
  · cases h; exact ⟨rfl, rfl⟩
  · cases h

end RecordSearch
