import RecordSearch.Compilation
import RecordSearch.Plan
import RecordSearch.Request

/-! Searching: from a request to a plan, and from a plan to a page.

    A plan puts the free text, the typed filters and the criteria together, in this order. The total
    is counted over all matching records, before sorting and slicing, so total and items always
    describe the same records. A request that makes no sense does not make a search fail; only a
    source can. A source over a list does so when the sort of its records gives up. -/

namespace RecordSearch

/-- A collection of records that can count and fetch, in a monad of its own. -/
structure Source (m : Type → Type) (ρ : Type) where
  count : Predicate ρ → m Nat
  fetch : Plan ρ → m (List ρ)

/-- The source over a list. It gives up where the sort of a plan does, and else it does not fail. -/
def Source.ofList {m : Type → Type} [Alternative m] {ρ : Type} (records : List ρ) :
    Source m ρ where
  count p := pure (records.countP p.accepts)
  fetch plan := liftOption (plan.execute records)

variable {ρ δ : Type}

/-- The name of the field to sort by: the one asked for unless it is blank, else the shape's own. -/
def Shape.sortName (shape : Shape ρ) (r : Request δ) : Option String :=
  match r.sortBy with
  | some name => if Text.blank name then shape.defaultSort else some name
  | none => shape.defaultSort

/-- The plan for a request, given the predicates of its typed filters. -/
def planRequest (pager : Pager) (shape : Shape ρ) (typed : δ → List (Predicate ρ)) (r : Request δ) :
    Logged (Plan ρ) := do
  let text ← freeText shape.schema shape.textFields r.search
  let criteria ← compileAll shape.schema r.filters
  let sort ← compileSort shape.schema (shape.sortName r) r.sortOrder
  let window ← pager.windowOrDefault (r.page.map Int64.toInt) (r.pageSize.map Int64.toInt)
  pure ⟨.conjunction (text :: typed r.domain ++ [criteria]), sort, window⟩

/-- The word for the direction of a plan, or for having none. -/
def Plan.sortName (plan : Plan ρ) : String :=
  match plan.sort with
  | some key => key.order.name
  | none => "no"

/-- Runs a request over a source and maps the records of the page. -/
def search {m : Type → Type} [Monad m] [MonadNotes m] {τ : Type} (pager : Pager) (shape : Shape ρ)
    (typed : δ → List (Predicate ρ)) (source : Source m ρ) (r : Request δ) (project : ρ → τ) :
    m (ResultPage τ) := do
  let plan ← (planRequest pager shape typed r).run
  MonadNotes.note (.searching shape.name plan.sortName plan.window.skip plan.window.take)
  let total ← source.count plan.predicate
  let records ← source.fetch plan
  MonadNotes.note (.found shape.name total records.length plan.window.page)
  pure ⟨records.map project, total, plan.window.page, plan.window.pageSize⟩

end RecordSearch
