import Mathlib.Data.List.Infix
import RecordSearch.Proofs.Insertion
import RecordSearch.Proofs.Plan
import RecordSearch.Users.Document
import RecordSearch.Users.Sample

/-! What a search over a list answers, said without plans.

    A request selects a record when the term is found in it, every typed filter matches it, and
    every criterion that compiles matches it. The selected records are put in the order that the
    request or else the shape asks for, and the answer is one slice of them with their number. There
    is one wherever that order is sure of a result. -/

namespace RecordSearch

variable {ρ δ τ : Type}

/-! ### Selection -/

/-- The term stands in a text field of the record, whatever the case. -/
def Field.Mentions (f : Field ρ) (term : String) (x : ρ) : Prop :=
  ∃ s, f.read x = .present (.text s) ∧ Text.lower term.toList <:+: Text.lower s.toList

/-- The search term lets the record through: there is none, or it is blank, or there is no text
    field to look at, or one of them mentions it. -/
def Shape.Finds (shape : Shape ρ) (term : Option String) (x : ρ) : Prop :=
  ∀ t, term = some t → Text.blank t = true ∨ shape.schema.textFields shape.textFields = [] ∨
    ∃ f ∈ shape.schema.textFields shape.textFields, f.Mentions t x

/-- A request selects a record. Criteria that do not compile impose nothing. -/
structure Shape.Selects (shape : Shape ρ) (typed : δ → List (Predicate ρ)) (r : Request δ)
    (x : ρ) : Prop where
  term : shape.Finds r.search x
  domain : ∀ p ∈ typed r.domain, p.accepts x = true
  criteria : ∀ c ∈ r.filters, ∀ p, c.compile shape.schema = .ok p → p.accepts x = true

theorem Value.text?_eq_some_iff {v : Value} {s : String} :
    v.text? = some s ↔ v = .present (.text s) := by
  rcases v with _ | (_ | _ | _ | _ | _) <;> simp [text?]

/-- The test for a term on a field is passed by the records that mention it. -/
theorem Field.accepts_ofNeedle_iff (f : Field ρ) (term : String) (x : ρ) :
    (Predicate.test f (.ofNeedle .anywhere term false)).accepts x = true ↔ f.Mentions term x := by
  rw [Predicate.accepts_test, Test.accepts_ofNeedle_anywhere, Mentions]
  simp only [Value.text?_eq_some_iff]

/-- Free text accepts what the term lets through. -/
theorem Shape.accepts_freeText_iff (shape : Shape ρ) (term : Option String) (x : ρ) :
    (freeText shape.schema shape.textFields term).value.accepts x = true ↔ shape.Finds term x := by
  rcases term with _ | t
  · simp [freeText, Finds]
  · cases hb : Text.blank t with
    | true => simp [freeText, Finds, hb]
    | false =>
      rw [value_freeText _ _ hb, Predicate.accepts_disjunction, List.map_eq_nil_iff]
      constructor
      · rintro (none | ⟨p, hp, hx⟩) t' ht'
        · exact .inr (.inl none)
        · obtain ⟨f, hf, rfl⟩ := List.mem_map.1 hp
          obtain rfl := Option.some.inj ht'
          exact .inr (.inr ⟨f, hf, (f.accepts_ofNeedle_iff t x).1 hx⟩)
      · intro h
        rcases h t rfl with blank | none | ⟨f, hf, hx⟩
        · rw [hb] at blank
          exact absurd blank (by simp)
        · exact .inl none
        · exact .inr ⟨_, List.mem_map_of_mem hf, (f.accepts_ofNeedle_iff t x).2 hx⟩

/-- The criteria accept what every criterion that compiles accepts. -/
theorem accepts_compileAll_iff (schema : Schema ρ) (cs : List Criterion) (x : ρ) :
    (compileAll schema cs).value.accepts x = true ↔
      ∀ c ∈ cs, ∀ p, c.compile schema = .ok p → p.accepts x = true := by
  rw [value_compileAll, Predicate.accepts_conjunction, List.all_filterMap, List.all_eq_true]
  refine forall₂_congr fun c _ => ?_
  rcases c.compile schema with e | q
  · simp [Except.toOption]
  · simp [Except.toOption]

/-- The predicate of a plan accepts exactly the records that the request selects. -/
theorem accepts_planRequest_iff (pager : Pager) (shape : Shape ρ) (typed : δ → List (Predicate ρ))
    (r : Request δ) (x : ρ) :
    (planRequest pager shape typed r).value.predicate.accepts x = true ↔
      shape.Selects typed r x := by
  rw [predicate_planRequest, Predicate.accepts_conjunction, List.all_eq_true]
  constructor
  · intro h
    refine ⟨?_, ?_, ?_⟩
    · exact (shape.accepts_freeText_iff r.search x).1 (h _ (by simp))
    · intro p hp
      exact h p (by simp [hp])
    · exact (accepts_compileAll_iff shape.schema r.filters x).1 (h _ (by simp))
  · rintro ⟨term, domain, criteria⟩ p hp
    rw [List.cons_append, List.mem_cons, List.mem_append, List.mem_singleton] at hp
    rcases hp with rfl | hp | rfl
    · exact (shape.accepts_freeText_iff r.search x).2 term
    · exact domain p hp
    · exact (accepts_compileAll_iff shape.schema r.filters x).2 criteria

/-! ### Deciding selection -/

instance (f : Field ρ) (term : String) (x : ρ) : Decidable (f.Mentions term x) :=
  match h : (f.read x).text? with
  | some s =>
    decidable_of_iff (Text.lower term.toList <:+: Text.lower s.toList) (by
      rw [Field.Mentions]
      simp only [← Value.text?_eq_some_iff, h, Option.some.injEq, exists_eq_left'])
  | none =>
    .isFalse (by
      rw [Field.Mentions]
      simp only [← Value.text?_eq_some_iff, h, reduceCtorEq, false_and, exists_const,
        not_false_eq_true])

instance (shape : Shape ρ) (term : Option String) (x : ρ) : Decidable (shape.Finds term x) :=
  match term with
  | none => .isTrue fun _ h => absurd h (by simp)
  | some t =>
    decidable_of_iff (Text.blank t = true ∨ shape.schema.textFields shape.textFields = [] ∨
      ∃ f ∈ shape.schema.textFields shape.textFields, f.Mentions t x)
      ⟨fun h t' ht' => Option.some.inj ht' ▸ h, fun h => h t rfl⟩

instance (shape : Shape ρ) (typed : δ → List (Predicate ρ)) (r : Request δ) (x : ρ) :
    Decidable (shape.Selects typed r x) :=
  decidable_of_iff (shape.Finds r.search x ∧ (∀ p ∈ typed r.domain, p.accepts x = true) ∧
      ∀ c ∈ r.filters, ∀ p ∈ (c.compile shape.schema).toOption, p.accepts x = true) (by
    simp only [Option.mem_def, exceptToOption_eq_some_iff]
    exact ⟨fun ⟨term, domain, criteria⟩ => ⟨term, domain, criteria⟩,
      fun ⟨term, domain, criteria⟩ => ⟨term, domain, criteria⟩⟩)

/-! ### Answers -/

/-- The order that a request asks for, or else its shape: a name that is not blank and that a field
    has. Only the word `asc` in any case means ascending. -/
def Shape.sortKey (shape : Shape ρ) (r : Request δ) : Option (SortKey ρ) :=
  let asked := r.sortBy.filter (!Text.blank ·)
  let name := (asked.or shape.defaultSort).filter (!Text.blank ·)
  (name.bind shape.schema.resolve).map fun field => ⟨field, .ofToken r.sortOrder⟩

/-- The selected records in the order that is asked for, or in the order of the list. -/
def Shape.ordered (shape : Shape ρ) (typed : δ → List (Predicate ρ)) (r : Request δ)
    (records : List ρ) : Option (List ρ) :=
  let selected := records.filter fun x => shape.Selects typed r x
  match shape.sortKey r with
  | none => some selected
  | some key => key.sort selected

/-- The order that is asked for, if any, is sure of a result on the selected records, however they
    stand and whichever of them are left out. -/
def Shape.Copes (shape : Shape ρ) (typed : δ → List (Predicate ρ)) (r : Request δ)
    (records : List ρ) : Prop :=
  ∀ key, shape.sortKey r = some key → key.Copes (records.filter fun x => shape.Selects typed r x)

theorem Shape.copes_of_few {shape : Shape ρ} {typed : δ → List (Predicate ρ)} {r : Request δ}
    {records : List ρ} (few : records.length ≤ SortKey.fewRecords) : shape.Copes typed r records :=
  fun _ _ => .inl ((List.length_filter_le _ _).trans few)

/-- The order that is asked for, if any, is sure of a result on the selected records. -/
def Shape.Settles (shape : Shape ρ) (typed : δ → List (Predicate ρ)) (r : Request δ)
    (records : List ρ) : Prop :=
  ∀ key, shape.sortKey r = some key → key.Settles (records.filter fun x => shape.Selects typed r x)

theorem Shape.Copes.settles {shape : Shape ρ} {typed : δ → List (Predicate ρ)} {r : Request δ}
    {records : List ρ} (h : shape.Copes typed r records) : shape.Settles typed r records :=
  fun key hk => .inl (h key hk)

/-- The answer to a request: the items from position `skip` up to `skip + take`, as far as there are
    so many, and the number of all selected records. -/
def Shape.answer (shape : Shape ρ) (pager : Pager) (typed : δ → List (Predicate ρ))
    (r : Request δ) (project : ρ → τ) (records : List ρ) : Option (ResultPage τ) :=
  let window := (pager.windowOrDefault (r.page.map Int64.toInt) (r.pageSize.map Int64.toInt)).value
  let n := (records.filter fun x => shape.Selects typed r x).length
  (shape.ordered typed r records).map fun ordered =>
    let items := ordered.extract (min window.skip n) (min (window.skip + window.take) n)
    ⟨items.map project, n, window.page, window.pageSize⟩

theorem Shape.sortName_eq (shape : Shape ρ) (r : Request δ) :
    shape.sortName r = (r.sortBy.filter (!Text.blank ·)).or shape.defaultSort := by
  rw [sortName]
  rcases r.sortBy with _ | name
  · rfl
  · by_cases hb : Text.blank name = true
    · simp [hb, Option.filter]
    · simp [hb, Option.filter]

/-- A plan sorts in the order that is asked for. -/
theorem sort_planRequest_eq_sortKey (pager : Pager) (shape : Shape ρ)
    (typed : δ → List (Predicate ρ)) (r : Request δ) :
    (planRequest pager shape typed r).value.sort = shape.sortKey r := by
  rw [sort_planRequest, value_compileSort, shape.sortName_eq]
  rfl

/-- A sort copes with any records that conform to a schema without floating point numbers. -/
theorem Shape.copes_of_conforms {shape : Shape ρ} {typed : δ → List (Predicate ρ)} {r : Request δ}
    {records : List ρ}
    (exact : ∀ f ∈ shape.schema.fields, f.type ≠ .float32 ∧ f.type ≠ .float64)
    (conforms : ∀ x ∈ records, shape.schema.Conforms x) : shape.Copes typed r records := by
  intro key asked
  have member : key.field ∈ shape.schema.fields := by
    rw [← sort_planRequest_eq_sortKey .standard shape typed] at asked
    exact mem_of_mem_sort_planRequest .standard shape typed r asked
  obtain ⟨single, double⟩ := exact key.field member
  exact .inr (SortKey.orders_of_has single double fun x hx =>
    conforms x (List.mem_filter.1 hx).1 key.field member)

theorem filter_accepts_planRequest (pager : Pager) (shape : Shape ρ)
    (typed : δ → List (Predicate ρ)) (r : Request δ) (records : List ρ) :
    records.filter (planRequest pager shape typed r).value.predicate.accepts =
      records.filter fun x => shape.Selects typed r x :=
  List.filter_congr fun x _ => by
    rw [Bool.eq_iff_iff, decide_eq_true_iff, accepts_planRequest_iff]

/-- A plan arranges the selected records in the order that is asked for. -/
theorem arrange_planRequest (pager : Pager) (shape : Shape ρ) (typed : δ → List (Predicate ρ))
    (r : Request δ) (records : List ρ) :
    (planRequest pager shape typed r).value.arrange records = shape.ordered typed r records := by
  rw [Plan.arrange, sort_planRequest_eq_sortKey, filter_accepts_planRequest]
  rfl

theorem Shape.ordered_perm {shape : Shape ρ} {typed : δ → List (Predicate ρ)} {r : Request δ}
    {records ordered : List ρ} (h : shape.ordered typed r records = some ordered) :
    ordered.Perm (records.filter fun x => shape.Selects typed r x) := by
  rw [Shape.ordered] at h
  rcases hk : shape.sortKey r with _ | key
  · rw [hk] at h
    cases h
    exact .refl _
  · rw [hk] at h
    exact SortKey.sort_perm h

/-- The records are put in order exactly if the order that is asked for is sure of a result. -/
theorem Shape.exists_ordered_iff {shape : Shape ρ} {typed : δ → List (Predicate ρ)} {r : Request δ}
    {records : List ρ} :
    (∃ ordered, shape.ordered typed r records = some ordered) ↔ shape.Settles typed r records := by
  rw [ordered, Settles]
  rcases shape.sortKey r with _ | key
  · simp
  · simp [SortKey.sort_eq_some_iff]

/-- A plan has a page exactly if the order that is asked for is sure of a result. -/
theorem exists_execute_planRequest_iff (pager : Pager) (shape : Shape ρ)
    (typed : δ → List (Predicate ρ)) (r : Request δ) (records : List ρ) :
    (∃ items, (planRequest pager shape typed r).value.execute records = some items) ↔
      shape.Settles typed r records := by
  rw [← Shape.exists_ordered_iff, ← arrange_planRequest pager, ← Option.isSome_iff_exists,
    ← Option.isSome_iff_exists, Plan.isSome_execute]

section

variable {pager : Pager} {shape : Shape ρ} {typed : δ → List (Predicate ρ)} {records : List ρ}
  {r : Request δ} {project : ρ → τ}

/-- A list answers a request exactly if the order that is asked for is sure of a result. -/
theorem exists_search_ofList_iff :
    (∃ page, (search pager shape typed (Source.ofList records) r project :
      Attempt (ResultPage τ)).value = some page) ↔ shape.Settles typed r records := by
  rw [← exists_execute_planRequest_iff pager, value_search_ofList, ← Option.isSome_iff_exists,
    ← Option.isSome_iff_exists, Option.isSome_map]

/-- The total counts the selected records. -/
theorem totalCount_search_ofList {page : ResultPage τ}
    (h : (search pager shape typed (Source.ofList records) r project :
      Attempt (ResultPage τ)).value = some page) :
    page.totalCount = (records.filter fun x => shape.Selects typed r x).length := by
  rw [value_search_ofList] at h
  obtain ⟨items, -, rfl⟩ := Option.map_eq_some_iff.1 h
  rw [← filter_accepts_planRequest pager, ← List.countP_eq_length_filter]

end

end RecordSearch
