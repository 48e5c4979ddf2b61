import RecordSearch.Criterion
import RecordSearch.SortKey

/-! Search requests.

    A request carries the general directives and, beside them, the typed filters `δ` of one shape.
    Everything may be left out. -/

namespace RecordSearch

/-- What a client asks for. Page and page size are any 64-bit integers. -/
structure Request (δ : Type) where
  search : Option String := none
  page : Option Int64 := none
  pageSize : Option Int64 := none
  sortBy : Option String := none
  sortOrder : Option String := none
  filters : List Criterion := []
  domain : δ
  deriving DecidableEq, Repr

namespace Request

variable {δ : Type}

/-- Asks for records with a term in their text fields. -/
def withSearch (r : Request δ) (term : String) : Request δ := { r with search := some term }

/-- Asks for a page of a size. -/
def withPage (r : Request δ) (page pageSize : Int64) : Request δ :=
  { r with page := some page, pageSize := some pageSize }

/-- Asks for an order. -/
def withSort (r : Request δ) (field : String) (order : SortOrder) : Request δ :=
  { r with sortBy := some field, sortOrder := some order.name }

/-- Adds a criterion. -/
def withFilter (r : Request δ) (c : Criterion) : Request δ := { r with filters := r.filters ++ [c] }

/-- Adds criteria. -/
def withFilters (r : Request δ) (cs : List Criterion) : Request δ :=
  { r with filters := r.filters ++ cs }

/-- Replaces the typed filters. -/
def withDomain {ε : Type} (r : Request δ) (domain : ε) : Request ε :=
  ⟨r.search, r.page, r.pageSize, r.sortBy, r.sortOrder, r.filters, domain⟩

end Request

end RecordSearch
