import RecordSearch.Json
import RecordSearch.Paging

/-! Pages of results in documents. -/

namespace RecordSearch.ResultPage

variable {α : Type}

/-- The members of a page: its items, the size of the whole match set, its number and its size. -/
def members (item : α → Json) (r : ResultPage α) : List (String × Json) :=
  [("items", .array (r.items.map item)), ("totalCount", .integer r.totalCount),
    ("page", .integer r.page), ("pageSize", .integer r.pageSize)]

/-- The document of a page. -/
def encode (item : α → Json) (r : ResultPage α) : Json := .object (r.members item)

end RecordSearch.ResultPage
