import RecordSearch.Proofs.Exchange
import RecordSearch.Proofs.Search
import RecordSearch.Users.Sample

/-! Criteria as a set of conditions.

    A criterion that does not compile is ignored; any other is matched by some records. All criteria
    together accept the records that match each one that is not ignored. So neither their order nor
    repeating them matters, lists put together accept what each of them accepts, and more criteria
    never match more records. With c matched by the records C, and d by D:

        criteria           accepted
        c, d               C ∩ D
        d, c, d            C ∩ D
        c, ignored, d      C ∩ D
        c, d, e            C ∩ D ∩ E -/

namespace RecordSearch

variable {ρ δ : Type}

/-! ### One criterion -/

namespace Criterion

variable (schema : Schema ρ) (c d : Criterion)

/-- The criterion does not compile, and imposes nothing. -/
def Ignored : Prop := ∃ e, c.compile schema = .error e

/-- The criterion compiles, and its predicate accepts the record. -/
def Matches (x : ρ) : Prop := ∃ p, c.compile schema = .ok p ∧ p.accepts x = true

/-- Both criteria are ignored, or both are matched by the same records. -/
def Agrees : Prop :=
  (c.Ignored schema ↔ d.Ignored schema) ∧ ∀ x, c.Matches schema x ↔ d.Matches schema x

variable {schema c d}

theorem ignored_iff : c.Ignored schema ↔ (c.compile schema).toOption = none := by
  rw [Ignored]
  rcases c.compile schema with e | p
  · simp [Except.toOption]
  · simp [Except.toOption]

theorem matches_iff {x : ρ} :
    c.Matches schema x ↔ ∃ p, (c.compile schema).toOption = some p ∧ p.accepts x = true := by
  simp only [Matches, exceptToOption_eq_some_iff]

instance : Decidable (c.Ignored schema) := decidable_of_iff _ ignored_iff.symm

/-- A criterion compiles to the test that it makes on its field, if there is such a field. -/
theorem toOption_compile (schema : Schema ρ) (c : Criterion) :
    (c.compile schema).toOption =
      (schema.resolve c.field).bind fun f => (c.testOn f).toOption.map (.test f) := by
  rw [compile]
  rcases schema.resolve c.field with _ | f
  · rfl
  · exact exceptToOption_map ..

end Criterion

/-! ### Lists of criteria -/

section

variable {schema : Schema ρ} {xs ys : List Criterion} {x : ρ}

/-- The criteria accept the records that match each one that is not ignored. -/
theorem accepts_compileAll_iff_matches :
    (compileAll schema xs).value.accepts x = true ↔
      ∀ c ∈ xs, ¬c.Ignored schema → c.Matches schema x := by
  rw [accepts_compileAll_iff]
  refine forall₂_congr fun c _ => ?_
  rw [Criterion.Ignored, Criterion.Matches]
  rcases c.compile schema with e | p
  · simp
  · simp

/-- Records that more criteria accept are accepted by fewer of them. -/
theorem accepts_compileAll_of_subset (more : xs ⊆ ys)
    (accepted : (compileAll schema ys).value.accepts x = true) :
    (compileAll schema xs).value.accepts x = true := by
  rw [accepts_compileAll_iff_matches] at accepted ⊢
  intro c hc
  exact accepted c (more hc)

/-- The same criteria, in whatever order and however often, accept the same records. -/
theorem accepts_compileAll_congr (same : ∀ c, c ∈ xs ↔ c ∈ ys) (x : ρ) :
    (compileAll schema xs).value.accepts x = (compileAll schema ys).value.accepts x := by
  rw [Bool.eq_iff_iff]
  constructor
  · exact accepts_compileAll_of_subset fun c => (same c).2
  · exact accepts_compileAll_of_subset fun c => (same c).1

/-- Lists of criteria put together accept what each of them accepts. -/
theorem accepts_compileAll_append (schema : Schema ρ) (xs ys : List Criterion) (x : ρ) :
    (compileAll schema (xs ++ ys)).value.accepts x =
      ((compileAll schema xs).value.accepts x && (compileAll schema ys).value.accepts x) := by
  rw [Bool.eq_iff_iff, Bool.and_eq_true]
  simp only [accepts_compileAll_iff_matches, List.forall_mem_append]

end

/-! ### Plans -/

section

variable {shape : Shape ρ} {typed : δ → List (Predicate ρ)} {r : Request δ} {ds : List Criterion}

/-- A request with more criteria selects no other records. -/
theorem Shape.Selects.of_subset (more : r.filters ⊆ ds) {x : ρ}
    (h : shape.Selects typed { r with filters := ds } x) : shape.Selects typed r x :=
  ⟨h.term, h.domain, fun c hc => h.criteria c (more hc)⟩

theorem Shape.selected_sublist (shape : Shape ρ) (typed : δ → List (Predicate ρ))
    (more : r.filters ⊆ ds) (records : List ρ) :
    (records.filter fun x => shape.Selects typed { r with filters := ds } x).Sublist
      (records.filter fun x => shape.Selects typed r x) :=
  records.monotone_filter_right fun x hx => by
    rw [decide_eq_true_iff] at hx ⊢
    exact hx.of_subset more

/-- Where a sort copes with the selected records, it copes with those that more criteria select. -/
theorem Shape.Copes.of_subset {records : List ρ} (h : shape.Copes typed r records)
    (more : r.filters ⊆ ds) : shape.Copes typed { r with filters := ds } records := by
  intro key hk
  have fewer := shape.selected_sublist typed more records
  exact (h key hk).mono fewer.length_le fewer.subset

theorem accepts_planRequest_of_subset (pager : Pager) (more : r.filters ⊆ ds) {x : ρ}
    (accepted : (planRequest pager shape typed { r with filters := ds }).value.predicate.accepts x =
      true) :
    (planRequest pager shape typed r).value.predicate.accepts x = true := by
  rw [accepts_planRequest_iff] at accepted ⊢
  exact accepted.of_subset more

/-- So no more records are counted, whatever the list. -/
theorem countP_planRequest_le (pager : Pager) (more : r.filters ⊆ ds) (records : List ρ) :
    records.countP
        (planRequest pager shape typed { r with filters := ds }).value.predicate.accepts ≤
      records.countP (planRequest pager shape typed r).value.predicate.accepts :=
  List.countP_mono_left fun _ _ => accepts_planRequest_of_subset pager more

/-- A request with the same criteria selects the same records, in the same order and window. -/
theorem alike_planRequest (pager : Pager) (same : ∀ c, c ∈ r.filters ↔ c ∈ ds) :
    (planRequest pager shape typed { r with filters := ds }).value.Alike
      (planRequest pager shape typed r).value := by
  refine ⟨fun x => ?_, rfl, rfl⟩
  rw [Bool.eq_iff_iff]
  constructor
  · exact accepts_planRequest_of_subset pager fun c => (same c).1
  · exact accepts_planRequest_of_subset (r := { r with filters := ds }) pager fun c => (same c).2

end

/-! ### Totals -/

variable {σ ε τ α : Type}

/-- The source counts records that it holds: if it answers, then how many of them match. What it
    holds may change with its state, and it may fail. -/
def Outside.Counts (o : Outside σ ε ρ τ) (held : σ → List ρ) : Prop :=
  ∀ p s n s', o.count p s = (.ok n, s') → n = (held s).countP p.accepts

/-- The total of a page is what was counted. -/
theorem Outside.count_of_answer {o : Outside σ ε ρ τ} {plan : Plan ρ} {project : ρ → α} {s : σ}
    {page : ResultPage α} (h : (o.answer plan project s).1 = .ok page) :
    ∃ s', o.count plan.predicate s = (.ok page.totalCount, s') := by
  rw [answer] at h
  rcases count : o.count plan.predicate s with ⟨e | total, s'⟩
  · simp [count] at h
  · rcases fetch : o.fetch plan s' with ⟨e | records, s''⟩
    · simp [count, fetch] at h
    · simp only [count, fetch, Except.ok.injEq] at h
      exact ⟨s', by rw [← h]⟩

/-- The second request never gets a greater total than the first: from no list, which answers both
    where a sort copes with what the first one selects, and from no source that counts what it holds,
    if it answers both in the same state. -/
structure NoGreaterTotal (pager : Pager) (shape : Shape ρ) (typed : δ → List (Predicate ρ))
    (r s : Request δ) : Prop where
  list : ∀ {τ : Type} (records : List ρ) (project : ρ → τ) (page page' : ResultPage τ),
    (search pager shape typed (Source.ofList records) r project : Attempt (ResultPage τ)).value =
      some page →
    (search pager shape typed (Source.ofList records) s project : Attempt (ResultPage τ)).value =
      some page' →
        page'.totalCount ≤ page.totalCount
  answers : ∀ {τ : Type} (records : List ρ) (project : ρ → τ), shape.Copes typed r records →
    (∃ page, (search pager shape typed (Source.ofList records) r project :
      Attempt (ResultPage τ)).value = some page) ∧
    ∃ page', (search pager shape typed (Source.ofList records) s project :
      Attempt (ResultPage τ)).value = some page'
  source : ∀ {σ ε τ α : Type} (o : Outside σ ε ρ τ) (held : σ → List ρ), o.Counts held →
    ∀ (state : σ) (project : ρ → α) (page page' : ResultPage α),
      ((search pager shape typed o.source r project).outcome (state, [])).1 = .ok page →
      ((search pager shape typed o.source s project).outcome (state, [])).1 = .ok page' →
        page'.totalCount ≤ page.totalCount

theorem noGreaterTotal_of_subset (pager : Pager) (shape : Shape ρ)
    (typed : δ → List (Predicate ρ)) {r : Request δ} {ds : List Criterion}
    (more : r.filters ⊆ ds) : NoGreaterTotal pager shape typed r { r with filters := ds } where
  list records project page page' answered answered' := by
    rw [totalCount_search_ofList answered, totalCount_search_ofList answered']
    exact (shape.selected_sublist typed more records).length_le
  answers records project copes :=
    ⟨exists_search_ofList_iff.2 copes.settles,
      exists_search_ofList_iff.2 (copes.of_subset more).settles⟩
  source := by
    intro σ ε τ α o held counts state project page page' answered answered'
    rw [outcome_search] at answered answered'
    obtain ⟨_, count⟩ := Outside.count_of_answer answered
    obtain ⟨_, count'⟩ := Outside.count_of_answer answered'
    rw [counts _ _ _ _ count, counts _ _ _ _ count']
    exact countP_planRequest_le pager more (held state)

/-- Criteria are a set of conditions. The same ones accept the same records, whatever their order
    and however often they stand there; lists put together accept what each of them accepts. So
    adding criteria to a request never makes the total greater, and reordering or repeating them
    leaves every page as it is, over every list and every source that answers by what it is asked. -/
theorem criteria_conjoin :
    (∀ {ρ : Type} (schema : Schema ρ) (xs ys : List Criterion), (∀ c, c ∈ xs ↔ c ∈ ys) →
      ∀ x, (compileAll schema xs).value.accepts x = (compileAll schema ys).value.accepts x) ∧
    (∀ {ρ : Type} (schema : Schema ρ) (xs ys : List Criterion) (x : ρ),
      (compileAll schema (xs ++ ys)).value.accepts x =
        ((compileAll schema xs).value.accepts x && (compileAll schema ys).value.accepts x)) ∧
    ∀ {ρ δ : Type} (pager : Pager) (shape : Shape ρ) (typed : δ → List (Predicate ρ))
      (r : Request δ) (ds : List Criterion),
      (r.filters ⊆ ds → NoGreaterTotal pager shape typed r { r with filters := ds }) ∧
      ((∀ c, c ∈ r.filters ↔ c ∈ ds) →
        SameAnswers pager shape typed r { r with filters := ds }) := by
  refine ⟨?_, ?_, ?_⟩
  · intro ρ schema xs ys same x
    exact accepts_compileAll_congr same x
  · intro ρ schema xs ys x
    exact accepts_compileAll_append schema xs ys x
  · intro ρ δ pager shape typed r ds
    constructor
    · intro more
      exact noGreaterTotal_of_subset pager shape typed more
    · intro same
      exact .of_alike (alike_planRequest pager same)

/-- The women with small numbers: asked for the other way round and with a repetition, over a list
    and over a source that cannot fetch; and with a third criterion and one that is ignored, from a
    store that counts what it holds. -/
theorem criteria_conjoin_sampleUsers :
    let female : Criterion := ⟨"gender", .equals, some "female"⟩
    let small : Criterion := ⟨"id", .lessThan, some "10"⟩
    let again := [small, female, small]
    let more := [small, ⟨"nickname", .equals, some "x"⟩, ⟨"role", .notEquals, some "user"⟩, female]
    let r : Request UserFilters := { filters := [female, small], domain := {} }
    let broken : Source (Except String) User := ⟨fun _ => .ok 3, fun _ => .error "no disk"⟩
    let _ : MonadNotes (Except String) := ⟨fun _ => .ok ()⟩
    let store : Outside (List User) String User Unit :=
      ⟨fun p s => (.ok (s.countP p.accepts), s),
        fun plan s => ((plan.execute s).elim (.error "no order") .ok, s), fun _ s => ((), s)⟩
    let ask (r : Request UserFilters) := ((search .standard User.shape UserFilters.predicates
      store.source r User.response).outcome (sampleUsers, [])).1
    (∀ c, c ∈ r.filters ↔ c ∈ again) ∧
      (∀ x, (compileAll User.shape.schema r.filters).value.accepts x =
        (compileAll User.shape.schema again).value.accepts x) ∧
      (search .standard User.shape UserFilters.predicates (Source.ofList sampleUsers)
          { r with filters := again } User.response : Attempt _).value =
        (search .standard User.shape UserFilters.predicates (Source.ofList sampleUsers) r
          User.response : Attempt _).value ∧
      search .standard User.shape UserFilters.predicates broken { r with filters := again }
          User.response =
        search .standard User.shape UserFilters.predicates broken r User.response ∧
      r.filters ⊆ more ∧ store.Counts id ∧
      ∃ page page', ask r = .ok page ∧ ask { r with filters := more } = .ok page' ∧
        page'.totalCount ≤ page.totalCount := by
  intro female small again more r broken _ store ask
  have same : ∀ c, c ∈ r.filters ↔ c ∈ again := by
    intro c
    simp only [r, again, List.mem_cons, List.not_mem_nil, or_false]
    grind
  have among : r.filters ⊆ more := by simp [r, more]
  have counts : store.Counts id := by
    rintro p s n s' counted
    cases counted
    rfl
  have extensional : broken.Extensional := ⟨fun _ _ _ => rfl, fun _ _ _ => rfl⟩
  have answered (r : Request UserFilters) : ∃ page, ask r = .ok page := by
    obtain ⟨items, fetched⟩ := (exists_execute_planRequest_iff .standard User.shape
      UserFilters.predicates r sampleUsers).2 (Shape.copes_of_few (by decide)).settles
    simp only [ask, outcome_search, Outside.answer, store, fetched]
    exact ⟨_, rfl⟩
  obtain ⟨page, first⟩ := answered r
  obtain ⟨page', second⟩ := answered { r with filters := more }
  obtain ⟨alike, -, requests⟩ := criteria_conjoin
  have answers := (requests .standard User.shape UserFilters.predicates r again).2 same
  have total := (requests .standard User.shape UserFilters.predicates r more).1 among
  exact ⟨same, alike _ _ _ same, answers.list sampleUsers User.response,
    answers.source (fun _ => rfl) broken extensional User.response, among, counts, page, page',
    first, second, total.source store id counts sampleUsers User.response page page' first second⟩

end RecordSearch
