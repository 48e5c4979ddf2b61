import RecordSearch.Paging
import RecordSearch.Predicate
import RecordSearch.SortKey

/-! Plans, and how they run over a list of records.

    Without a sort key the page is cut out of the matching records as they come. With one, all
    matching records are sorted first, and there is no page if the sort gives up. -/

namespace RecordSearch

/-- Which records, in which order, and which slice of them. -/
structure Plan (ρ : Type) where
  predicate : Predicate ρ
  sort : Option (SortKey ρ)
  window : Window

namespace Plan

variable {ρ : Type}

/-- The records of the page, in order. -/
def execute (plan : Plan ρ) (records : List ρ) : Option (List ρ) :=
  let matching := records.filter plan.predicate.accepts
  match plan.sort with
  | none => some (plan.window.slice matching)
  | some key =>
    (key.sort matching).map fun sorted =>
      let (start, stop) := plan.window.range sorted.length
      (sorted.take stop).drop start

end Plan

end RecordSearch
