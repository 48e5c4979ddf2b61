import RecordSearch.Log

/-! Pages: bounds on what a client may ask for, and the slice of records that a page is.

    A request is clamped, never refused. Sizes and counts stay below 2⁶⁴, so the number of records
    to skip is capped there. -/

namespace RecordSearch

/-- The largest number of records that can be counted. -/
def countLimit : Nat := 18446744073709551615

/-- The page size when nothing else is set. -/
def defaultPageSize : Nat := 10

/-- The largest page size that can be set. -/
def maxPageSize : Nat := 100

/-- A page: its number and size, and the slice of the matching records that it is. -/
structure Window where
  page : Nat
  pageSize : Nat
  skip : Nat
  take : Nat
  deriving DecidableEq, Repr

/-- First and last index of the slice, the last one excluded, among `count` records. -/
def Window.range (w : Window) (count : Nat) : Nat × Nat :=
  let start := min w.skip count
  (start, min (min (start + w.take) countLimit) count)

/-- The slice of a list. -/
def Window.slice {α : Type} (w : Window) (xs : List α) : List α := (xs.drop w.skip).take w.take

/-- Bounds on page sizes. -/
structure Pager where
  defaultSize : Nat
  maxSize : Nat
  bounds : 1 ≤ defaultSize ∧ defaultSize ≤ maxSize ∧ maxSize ≤ maxPageSize
  deriving DecidableEq, Repr

namespace Pager

/-- The nearest number to `n` from `low` to `high`. -/
def clamp (low high n : Int) : Int := max low (min high n)

/-- Bounds from any two numbers: the maximum is kept from 1 to 100, the default from 1 to it. -/
def of (default maximum : Nat) : Pager :=
  let top := max 1 (min maxPageSize maximum)
  ⟨max 1 (min top default), top, by simp only [top, maxPageSize]; omega⟩

/-- The bounds when nothing is set. -/
def standard : Pager := of defaultPageSize maxPageSize

/-- The window for a page and a size, brought within bounds; if they were out of bounds that is
    noted. -/
def window (pager : Pager) (page pageSize : Int) : Logged Window := do
  let clampedPage := max 1 page
  let clampedSize := clamp 1 pager.maxSize pageSize
  if clampedPage ≠ page ∨ clampedSize ≠ pageSize then
    Logged.note (.pageClamped page pageSize clampedPage clampedSize)
  let number := clampedPage.toNat
  let size := clampedSize.toNat
  pure ⟨number, size, min ((number - 1) * size) countLimit, size⟩

/-- The window for a request that may leave out the page, which means the first, and the size, which
    means the default. -/
def windowOrDefault (pager : Pager) (page pageSize : Option Int) : Logged Window :=
  pager.window (page.getD 1) (pageSize.getD pager.defaultSize)

end Pager

/-- One page of results and the size of the whole match set. -/
structure ResultPage (α : Type) where
  items : List α
  totalCount : Nat
  page : Nat
  pageSize : Nat
  deriving DecidableEq, Repr

namespace ResultPage

variable {α β : Type}

/-- Whether a later page has items. -/
def hasMore (r : ResultPage α) : Bool := min (r.page * r.pageSize) countLimit < r.totalCount

/-- The number of pages; none if pages have no size. -/
def totalPages (r : ResultPage α) : Nat :=
  if r.pageSize = 0 then 0 else (r.totalCount + (r.pageSize - 1)) / r.pageSize

/-- The page with every item mapped. -/
def map (f : α → β) (r : ResultPage α) : ResultPage β := { r with items := r.items.map f }

end ResultPage

end RecordSearch
