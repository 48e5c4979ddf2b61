import RecordSearch.Proofs.Compilation
import RecordSearch.Search

/-! What a plan for a request says, and what it gives over a list.

    Over a list a plan arranges the matching records, if its sort gives a result, and cuts the window
    out of them. The two ways to do that, with a sort key and without one, agree on which positions
    the window covers, as long as the number of records can be counted. -/

namespace RecordSearch

variable {ρ δ : Type}

/-! ### Windows -/

/-- The window for a page and a size, each brought within bounds. -/
theorem Pager.value_windowOrDefault (pager : Pager) (page pageSize : Option Int) :
    (pager.windowOrDefault page pageSize).value =
      let number := (max 1 (page.getD 1)).toNat
      let size := (clamp 1 pager.maxSize (pageSize.getD pager.defaultSize)).toNat
      ⟨number, size, min ((number - 1) * size) countLimit, size⟩ := by
  rw [windowOrDefault, window]
  split
  · rfl
  · rfl

/-- Cutting at positions that are kept within the list cuts out the same records. -/
theorem extract_min_min {α : Type} (xs : List α) (skip take : Nat) :
    xs.extract (min skip xs.length) (min (skip + take) xs.length) = (xs.drop skip).take take := by
  rw [List.extract_eq_take_drop, ← List.drop_eq_drop_min, List.take_eq_take_iff, List.length_drop]
  omega

/-- The positions of a window are those from the skipped ones on, up to the size of the page. -/
theorem Window.extract_range (w : Window) {α : Type} (xs : List α) (h : xs.length ≤ countLimit) :
    xs.extract (w.range xs.length).1 (w.range xs.length).2 = (xs.drop w.skip).take w.take := by
  have stop : (w.range xs.length).2 = min (w.skip + w.take) xs.length := by
    simp only [range]
    omega
  rw [stop]
  exact extract_min_min xs w.skip w.take

/-! ### Plans for requests -/

section

variable (pager : Pager) (shape : Shape ρ) (typed : δ → List (Predicate ρ)) (r : Request δ)

/-- The parts of the plan for a request. -/
theorem planRequest_eq :
    (planRequest pager shape typed r).value =
      ⟨.conjunction ((freeText shape.schema shape.textFields r.search).value ::
          typed r.domain ++ [(compileAll shape.schema r.filters).value]),
        (compileSort shape.schema (shape.sortName r) r.sortOrder).value,
        (pager.windowOrDefault (r.page.map Int64.toInt) (r.pageSize.map Int64.toInt)).value⟩ := rfl

theorem predicate_planRequest :
    (planRequest pager shape typed r).value.predicate =
      .conjunction ((freeText shape.schema shape.textFields r.search).value ::
        typed r.domain ++ [(compileAll shape.schema r.filters).value]) := rfl

theorem sort_planRequest :
    (planRequest pager shape typed r).value.sort =
      (compileSort shape.schema (shape.sortName r) r.sortOrder).value := rfl

/-- A plan tests fields of the schema and fields of the typed filters. -/
theorem mem_of_mem_fields_planRequest {f : Field ρ}
    (hf : f ∈ (planRequest pager shape typed r).value.predicate.fields) :
    f ∈ shape.schema.fields ∨ ∃ p ∈ typed r.domain, f ∈ p.fields := by
  rw [predicate_planRequest] at hf
  obtain ⟨p, hp, hfp⟩ := Predicate.fields_conjunction hf
  rw [List.cons_append, List.mem_cons, List.mem_append, List.mem_singleton] at hp
  rcases hp with rfl | hp | rfl
  · exact .inl (mem_of_mem_fields_freeText hfp)
  · exact .inr ⟨p, hp, hfp⟩
  · exact .inl (mem_of_mem_fields_compileAll hfp)

/-- A plan sorts by a field of the schema. -/
theorem mem_of_mem_sort_planRequest {key : SortKey ρ}
    (h : key ∈ (planRequest pager shape typed r).value.sort) : key.field ∈ shape.schema.fields := by
  rw [sort_planRequest] at h
  exact mem_of_mem_compileSort h

end

/-! ### Plans over lists -/

namespace Plan

/-- The matching records, in the order of the plan. -/
def arrange (plan : Plan ρ) (records : List ρ) : Option (List ρ) :=
  match plan.sort with
  | none => some (records.filter plan.predicate.accepts)
  | some key => key.sort (records.filter plan.predicate.accepts)

variable {plan : Plan ρ} {records arranged : List ρ}

theorem arrange_perm (h : plan.arrange records = some arranged) :
    arranged.Perm (records.filter plan.predicate.accepts) := by
  rw [arrange] at h
  rcases hs : plan.sort with _ | key
  · rw [hs] at h
    cases h
    exact .refl _
  · rw [hs] at h
    exact SortKey.sort_perm h

/-- The total counts exactly the records that are arranged. -/
theorem length_arrange (h : plan.arrange records = some arranged) :
    arranged.length = records.countP plan.predicate.accepts := by
  rw [(arrange_perm h).length_eq, List.countP_eq_length_filter]

/-- There is a page wherever the records can be arranged. -/
theorem isSome_execute : (plan.execute records).isSome = (plan.arrange records).isSome := by
  rw [execute, arrange]
  rcases plan.sort with _ | key
  · rfl
  · exact Option.isSome_map

/-- With a sort key or without one, the page is the window of the arranged records. -/
theorem execute_eq (plan : Plan ρ) (records : List ρ) (h : records.length ≤ countLimit) :
    plan.execute records = (plan.arrange records).map fun arranged =>
      (arranged.drop plan.window.skip).take plan.window.take := by
  rw [execute, arrange]
  rcases plan.sort with _ | key
  · rfl
  · refine Option.map_congr fun sorted hs => ?_
    have counted : sorted.length ≤ countLimit := by
      rw [(SortKey.sort_perm hs).length_eq]
      exact Nat.le_trans (List.length_filter_le _ _) h
    rw [← plan.window.extract_range _ counted, List.extract_eq_drop_take']

end Plan

/-! ### Plans that select the same -/

/-- Two plans ask for the same records in the same order and the same window; how their predicates
    are put together may differ. -/
structure Plan.Alike (p q : Plan ρ) : Prop where
  accepts : ∀ x, p.predicate.accepts x = q.predicate.accepts x
  sort : p.sort = q.sort
  window : p.window = q.window

/-- A source answers by the records that a predicate accepts, not by how it is put together. -/
structure Source.Extensional {m : Type → Type} (source : Source m ρ) : Prop where
  count : ∀ p q : Predicate ρ, (∀ x, p.accepts x = q.accepts x) → source.count p = source.count q
  fetch : ∀ p q : Plan ρ, p.Alike q → source.fetch p = source.fetch q

namespace Plan.Alike

protected theorem refl (p : Plan ρ) : p.Alike p := ⟨fun _ => rfl, rfl, rfl⟩

variable {p q : Plan ρ} (h : p.Alike q) (records : List ρ)

include h

protected theorem trans {o : Plan ρ} (k : q.Alike o) : p.Alike o :=
  ⟨fun x => (h.accepts x).trans (k.accepts x), h.sort.trans k.sort, h.window.trans k.window⟩

theorem countP_eq : records.countP p.predicate.accepts = records.countP q.predicate.accepts := by
  rw [funext h.accepts]

theorem execute_eq : p.execute records = q.execute records := by
  simp only [Plan.execute, funext h.accepts, h.sort, h.window]

end Plan.Alike

theorem Source.extensional_ofList {m : Type → Type} [Alternative m] (records : List ρ) :
    (Source.ofList records : Source m ρ).Extensional :=
  ⟨fun p q h => by simp only [ofList, funext h],
    fun p q h => by simp only [ofList, h.execute_eq records]⟩

/-! ### Searches over any source -/

/-- Where notes do nothing, running a stage that takes notes gives its result. -/
theorem Logged.run_of_silent {m : Type → Type} [Monad m] [LawfulMonad m] [MonadNotes m]
    (silent : ∀ e, (MonadNotes.note e : m Unit) = pure ()) {α : Type} (x : Logged α) :
    (x.run : m α) = pure x.value := by
  have notes : ∀ es : List Event, (es.forM MonadNotes.note : m PUnit) = pure ⟨⟩ := by
    intro es
    induction es with
    | nil => rfl
    | cons e es ih =>
      show (MonadNotes.note e >>= fun _ => es.forM MonadNotes.note : m PUnit) = _
      rw [silent, pure_bind, ih]
  rw [Logged.run, notes, pure_bind]

/-- Where notes do nothing, a search counts with the predicate of the plan, fetches with the plan,
    and maps what it got. -/
theorem search_of_silent {m : Type → Type} [Monad m] [LawfulMonad m] [MonadNotes m]
    (silent : ∀ e, (MonadNotes.note e : m Unit) = pure ()) {τ : Type} {pager : Pager}
    {shape : Shape ρ} {typed : δ → List (Predicate ρ)} {source : Source m ρ} {r : Request δ}
    {project : ρ → τ} :
    search pager shape typed source r project =
      let plan := (planRequest pager shape typed r).value
      (do
        let total ← source.count plan.predicate
        let records ← source.fetch plan
        pure ⟨records.map project, total, plan.window.page, plan.window.pageSize⟩) := by
  rw [search, Logged.run_of_silent silent, pure_bind]
  simp only [silent, pure_bind]

/-- Plans that select the same get the same answer from a source that answers by what a plan
    selects. -/
theorem search_congr_of_silent {m : Type → Type} [Monad m] [LawfulMonad m] [MonadNotes m]
    (silent : ∀ e, (MonadNotes.note e : m Unit) = pure ()) {τ : Type} {pager : Pager}
    {shape : Shape ρ} {typed : δ → List (Predicate ρ)} {source : Source m ρ}
    (extensional : source.Extensional) {r s : Request δ} (project : ρ → τ)
    (alike : (planRequest pager shape typed r).value.Alike
      (planRequest pager shape typed s).value) :
    search pager shape typed source r project = search pager shape typed source s project := by
  rw [search_of_silent silent, search_of_silent silent]
  simp only [extensional.count _ _ alike.accepts, extensional.fetch _ _ alike, alike.window]

/-! ### Searches over lists -/

/-- A logged result is its value and its notes. -/
theorem Logged.eq_of {α : Type} {x y : Logged α} (value : x.value = y.value) (log : x.log = y.log) :
    x = y := by
  rcases x with ⟨a, xs⟩
  rcases y with ⟨b, ys⟩
  obtain rfl : a = b := value
  obtain rfl : xs = ys := log
  rfl

/-- What was attempted is its result, if there is one, and its notes. -/
theorem Attempt.eq_of {α : Type} {x y : Attempt α} (value : x.value = y.value)
    (log : x.log = y.log) : x = y :=
  Logged.eq_of (x := OptionT.run x) (y := OptionT.run y) value log

/-- A stage that cannot give up, attempted, has its result and its notes. -/
theorem Logged.run_eq {α : Type} (x : Logged α) : (x.run : Attempt α) = OptionT.lift x := by
  have notes : ∀ es : List Event,
      (es.forM MonadNotes.note : Attempt PUnit) = OptionT.lift ⟨⟨⟩, es⟩ := by
    intro es
    induction es with
    | nil => rfl
    | cons e es ih =>
      show (MonadNotes.note e >>= fun _ => es.forM MonadNotes.note : Attempt PUnit) = _
      rw [ih]
      rfl
  rw [Logged.run, notes]
  refine Attempt.eq_of rfl ?_
  rw [Attempt.log_lift_bind, Attempt.log_pure, List.append_nil, Attempt.log_lift]

section

variable {τ : Type} (pager : Pager) (shape : Shape ρ) (typed : δ → List (Predicate ρ))
  (records : List ρ) (r : Request δ) (project : ρ → τ)

/-- A search over a list gives the page of its plan, if there is one, and the number of all matching
    records. -/
theorem value_search_ofList :
    (search pager shape typed (Source.ofList records) r project : Attempt (ResultPage τ)).value =
      let plan := (planRequest pager shape typed r).value
      (plan.execute records).map fun items =>
        ⟨items.map project, records.countP plan.predicate.accepts, plan.window.page,
          plan.window.pageSize⟩ := by
  rw [search, Logged.run_eq, Attempt.value_lift_bind, Attempt.value_note_bind]
  simp only [Source.ofList, pure_bind, Attempt.value_liftOption_bind, Attempt.value_note_bind,
    Attempt.value_pure]
  rw [Option.map_eq_bind]
  rfl

/-- Plans that select the same get the same answer from a list. -/
theorem value_search_ofList_congr {s : Request δ}
    (alike : (planRequest pager shape typed r).value.Alike
      (planRequest pager shape typed s).value) :
    (search pager shape typed (Source.ofList records) r project : Attempt (ResultPage τ)).value =
      (search pager shape typed (Source.ofList records) s project :
        Attempt (ResultPage τ)).value := by
  rw [value_search_ofList, value_search_ofList]
  simp only [alike.execute_eq, alike.countP_eq, alike.window]

/-- A search over a list notes what planning notes, the start and, unless it gives up, the end. -/
theorem log_search_ofList :
    (search pager shape typed (Source.ofList records) r project : Attempt (ResultPage τ)).log =
      let plan := (planRequest pager shape typed r).value
      (planRequest pager shape typed r).log ++
        .searching shape.name plan.sortName plan.window.skip plan.window.take ::
          (plan.execute records).elim [] fun items =>
            [.found shape.name (records.countP plan.predicate.accepts) items.length
              plan.window.page] := by
  rw [search, Logged.run_eq, Attempt.log_lift_bind, Attempt.log_note_bind]
  simp only [Source.ofList, pure_bind, Attempt.log_liftOption_bind, Attempt.log_note_bind,
    Attempt.log_pure]

end

/-! ### Requests with the same answers -/

/-- Two requests get the same answer from every list, and from every source that answers by what a
    plan selects. -/
structure SameAnswers (pager : Pager) (shape : Shape ρ) (typed : δ → List (Predicate ρ))
    (r s : Request δ) : Prop where
  list : ∀ {τ : Type} (records : List ρ) (project : ρ → τ),
    (search pager shape typed (Source.ofList records) s project : Attempt (ResultPage τ)).value =
      (search pager shape typed (Source.ofList records) r project : Attempt (ResultPage τ)).value
  source : ∀ {m : Type → Type} [Monad m] [LawfulMonad m] [MonadNotes m] {τ : Type},
    (∀ e, (MonadNotes.note e : m Unit) = pure ()) → ∀ source : Source m ρ, source.Extensional →
      ∀ project : ρ → τ,
        search pager shape typed source s project = search pager shape typed source r project

theorem SameAnswers.of_alike {pager : Pager} {shape : Shape ρ} {typed : δ → List (Predicate ρ)}
    {r s : Request δ} (alike : (planRequest pager shape typed s).value.Alike
      (planRequest pager shape typed r).value) : SameAnswers pager shape typed r s where
  list records project := value_search_ofList_congr _ _ _ records _ project alike
  source silent _ extensional project := search_congr_of_silent silent extensional project alike

end RecordSearch
