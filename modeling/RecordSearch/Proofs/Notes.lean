import RecordSearch.Proofs.Leniency
import RecordSearch.Proofs.Search
import RecordSearch.Proofs.Typing

/-! The notes of planning.

    Nothing that a request asks for is dropped or changed without a note, and there are no other
    notes. They come stage by stage, and within a stage in the order of what they are about.

        stage       about                              noted
        free text   the names of the text fields       a name of no field, or of one without text
        criteria    the criteria of the request        a criterion that fails, and why
        sort        the field asked for, else the      a name of no field
                    default one
        page        page and page size                 a number that is given and out of bounds

    Each element is noted at most once. So for every stage it is enough to look at a single element,
    and the lists follow by induction. -/

namespace RecordSearch

/-! ### Notes on the elements of a list -/

/-- The notes on a list: one for each element that gives cause for one, in the order of the list. -/
inductive Noted {α : Type} (cause : α → Event → Prop) : List α → List Event → Prop
  | nil : Noted cause [] []
  | quiet {a : α} {as : List α} {es : List Event} (none : ∀ e, ¬cause a e)
      (rest : Noted cause as es) : Noted cause (a :: as) es
  | noted {a : α} {e : Event} {as : List α} {es : List Event} (given : cause a e)
      (rest : Noted cause as es) : Noted cause (a :: as) (e :: es)

namespace Noted

variable {α β : Type} {cause : α → Event → Prop} {a : α} {as : List α} {e : Event}
  {es es' : List Event}

theorem one (given : cause a e) : Noted cause [a] [e] := .noted given .nil

theorem silent (none : ∀ e, ¬cause a e) : Noted cause [a] [] := .quiet none .nil

/-- The notes on the first element come before those on the rest. -/
theorem cons (first : Noted cause [a] es) (rest : Noted cause as es') :
    Noted cause (a :: as) (es ++ es') := by
  cases first with
  | quiet none nothing =>
    cases nothing
    exact .quiet none rest
  | noted given nothing =>
    cases nothing
    exact .noted given rest

/-- A stage that goes through a list notes its elements one by one. -/
theorem mapM {f : α → Logged β} (each : ∀ a, Noted cause [a] (f a).log) (as : List α) :
    Noted cause as (as.mapM f).log := by
  induction as with
  | nil => exact .nil
  | cons a as ih => simpa using (each a).cons ih

/-- Every note has its cause among the elements. -/
theorem exists_cause (h : Noted cause as es) : ∀ e ∈ es, ∃ a ∈ as, cause a e := by
  induction h with
  | nil => simp
  | quiet _ _ ih =>
    intro e he
    obtain ⟨a, member, given⟩ := ih e he
    exact ⟨a, List.mem_cons_of_mem _ member, given⟩
  | noted given _ ih =>
    refine List.forall_mem_cons.2 ⟨⟨_, List.mem_cons_self, given⟩, fun e he => ?_⟩
    obtain ⟨a, member, given⟩ := ih e he
    exact ⟨a, List.mem_cons_of_mem _ member, given⟩

/-- What holds of every note that there can be cause for holds of the notes. -/
theorem forall_mem {p : Event → Prop} (h : Noted cause as es) (all : ∀ a e, cause a e → p e) :
    ∀ e ∈ es, p e := by
  intro e he
  obtain ⟨a, -, given⟩ := h.exists_cause e he
  exact all a e given

end Noted

/-! ### Causes -/

section

variable {ρ : Type}

/-- No field has the name. -/
def Schema.Unknown (s : Schema ρ) (name : String) : Prop :=
  ∀ f ∈ s.fields, Text.sameName f.name name = false

theorem Schema.resolve_eq_none_iff {s : Schema ρ} {name : String} :
    s.resolve name = none ↔ s.Unknown name := by
  simp [resolve, Unknown]

/-- A name among the text fields is left out of the search. -/
inductive Schema.TextCause (s : Schema ρ) (name : String) : Event → Prop
  | notText {f : Field ρ} (first : s.First name f) (other : f.type ≠ .text) :
      TextCause s name (.freeTextNotText s.shape f.name f.type)
  | unknown (unknown : s.Unknown name) : TextCause s name (.freeTextUnknown s.shape name)

/-- A criterion fails, for a reason. -/
inductive Schema.FilterCause (s : Schema ρ) (c : Criterion) : Event → Prop
  | fails {reason : Degradation} (fails : c.Fails s reason) :
      FilterCause s c (.filterIgnored s.shape c reason)

/-- The records cannot be sorted by a name. -/
inductive Schema.SortCause (s : Schema ρ) (name : String) : Event → Prop
  | unknown (shown : Text.blank name = false) (unknown : s.Unknown name) :
      SortCause s name (.sortUnknown s.shape name)

/-- A page or a page size is given and out of bounds. The note has both numbers, with the default of
    one that is not given, as they were and as they are taken instead. -/
inductive Pager.PageCause (pager : Pager) : Option Int × Option Int → Event → Prop
  | clamped {page pageSize : Option Int}
      (out : (∃ n ∈ page, n < 1) ∨ ∃ n ∈ pageSize, n < 1 ∨ (pager.maxSize : Int) < n) :
      PageCause pager (page, pageSize)
        (.pageClamped (page.getD 1) (pageSize.getD pager.defaultSize) (max 1 (page.getD 1))
          (clamp 1 pager.maxSize (pageSize.getD pager.defaultSize)))

/-! ### Stages -/

variable (s : Schema ρ)

theorem noted_freeTextOn (term name : String) :
    Noted s.TextCause [name] (freeTextOn s term name).log := by
  rw [freeTextOn]
  cases resolved : s.resolve name with
  | none => exact .one (.unknown (Schema.resolve_eq_none_iff.1 resolved))
  | some f =>
    have first := Schema.resolve_eq_some_iff.1 resolved
    cases text : f.type.isText with
    | false =>
      have other : f.type ≠ .text := fun same => by simp [same, FieldType.isText] at text
      simpa [text] using Noted.one (.notText first other)
    | true =>
      simp only [text, if_true]
      refine .silent fun e cause => ?_
      cases cause with
      | notText hg other =>
        rw [hg.eq first] at other
        exact other (FieldType.isText_iff.1 text)
      | unknown unknown => simp [Schema.resolve_eq_none_iff.2 unknown] at resolved

theorem noted_freeText (names : List String) (term : Option String) :
    Noted s.TextCause (if term.all Text.blank then [] else names) (freeText s names term).log := by
  cases term with
  | none => exact .nil
  | some term =>
    rw [freeText, Option.all_some]
    split
    · exact .nil
    · simpa using Noted.mapM (noted_freeTextOn s term) names

theorem noted_compileOrNote (c : Criterion) :
    Noted s.FilterCause [c] (c.compileOrNote s).log := by
  rw [Criterion.compileOrNote]
  cases compiled : c.compile s with
  | error reason => exact .one (.fails (Criterion.compile_eq_error_iff.1 compiled))
  | ok p =>
    refine .silent ?_
    rintro e ⟨fails⟩
    simp [Criterion.compile_eq_error_iff.2 fails] at compiled

theorem noted_compileAll (cs : List Criterion) :
    Noted s.FilterCause cs (compileAll s cs).log := by
  simpa [compileAll] using Noted.mapM (noted_compileOrNote s) cs

theorem noted_compileSort (sortBy sortOrder : Option String) :
    Noted s.SortCause sortBy.toList (compileSort s sortBy sortOrder).log := by
  cases sortBy with
  | none => exact .nil
  | some name =>
    rw [compileSort]
    cases shown : Text.blank name with
    | true =>
      refine .silent ?_
      rintro e ⟨shown', -⟩
      simp [shown'] at shown
    | false =>
      cases resolved : s.resolve name with
      | none => exact .one (.unknown shown (Schema.resolve_eq_none_iff.1 resolved))
      | some f =>
        refine .silent ?_
        rintro e ⟨-, unknown⟩
        simp [Schema.resolve_eq_none_iff.2 unknown] at resolved

/-- What is not given is within bounds. -/
theorem Pager.clamped_iff (pager : Pager) (page pageSize : Option Int) :
    (max 1 (page.getD 1) ≠ page.getD 1 ∨
        clamp 1 pager.maxSize (pageSize.getD pager.defaultSize) ≠
          pageSize.getD pager.defaultSize) ↔
      (∃ n ∈ page, n < 1) ∨ ∃ n ∈ pageSize, n < 1 ∨ (pager.maxSize : Int) < n := by
  have bounds := pager.bounds
  have first : max 1 (page.getD 1) ≠ page.getD 1 ↔ ∃ n ∈ page, n < 1 := by
    cases page with
    | none => simp
    | some n =>
      simp only [Option.getD_some, Option.mem_some_iff, exists_eq_left']
      omega
  have size : clamp 1 pager.maxSize (pageSize.getD pager.defaultSize) ≠
      pageSize.getD pager.defaultSize ↔ ∃ n ∈ pageSize, n < 1 ∨ (pager.maxSize : Int) < n := by
    cases pageSize with
    | none =>
      simp only [clamp, Option.getD_none, Option.not_mem_none, false_and, exists_false, iff_false]
      omega
    | some n =>
      simp only [clamp, Option.getD_some, Option.mem_some_iff, exists_eq_left']
      omega
  rw [first, size]

theorem noted_windowOrDefault (pager : Pager) (page pageSize : Option Int) :
    Noted pager.PageCause [(page, pageSize)] (pager.windowOrDefault page pageSize).log := by
  rw [Pager.windowOrDefault, Pager.window]
  split
  next out => exact .one (.clamped ((pager.clamped_iff page pageSize).1 out))
  next within =>
    refine .silent ?_
    rintro e ⟨out⟩
    exact within ((pager.clamped_iff page pageSize).2 out)

end

/-! ### Planning -/

section

variable {ρ δ : Type}

/-- The stages of planning note one after the other. -/
theorem log_planRequest (pager : Pager) (shape : Shape ρ) (typed : δ → List (Predicate ρ))
    (r : Request δ) :
    (planRequest pager shape typed r).log =
      (freeText shape.schema shape.textFields r.search).log ++
        (compileAll shape.schema r.filters).log ++
        (compileSort shape.schema (shape.sortName r) r.sortOrder).log ++
        (pager.windowOrDefault (r.page.map Int64.toInt) (r.pageSize.map Int64.toInt)).log := by
  simp [planRequest]

/-- Planning notes, at the level for debugging, each name that free text leaves out (if there is a
    term), each criterion that fails, the name that the records cannot be sorted by, and the page
    that is out of bounds, in this order and nothing else. -/
theorem planRequest_notes (pager : Pager) (shape : Shape ρ) (typed : δ → List (Predicate ρ))
    (r : Request δ) :
    ∃ text filters sort page,
      (planRequest pager shape typed r).log = text ++ filters ++ sort ++ page ∧
      Noted shape.schema.TextCause (if r.search.all Text.blank then [] else shape.textFields) text ∧
      Noted shape.schema.FilterCause r.filters filters ∧
      Noted shape.schema.SortCause
        ((r.sortBy.filter (!Text.blank ·)).or shape.defaultSort).toList sort ∧
      Noted pager.PageCause [(r.page.map Int64.toInt, r.pageSize.map Int64.toInt)] page ∧
      ∀ e ∈ (planRequest pager shape typed r).log, e.level = .debug := by
  have text := noted_freeText shape.schema shape.textFields r.search
  have filters := noted_compileAll shape.schema r.filters
  have sort := noted_compileSort shape.schema (shape.sortName r) r.sortOrder
  have page := noted_windowOrDefault pager (r.page.map Int64.toInt) (r.pageSize.map Int64.toInt)
  have stages := log_planRequest pager shape typed r
  refine ⟨_, _, _, _, stages, text, filters, shape.sortName_eq r ▸ sort, page, ?_⟩
  rw [stages]
  simp only [List.forall_mem_append]
  refine ⟨⟨⟨text.forall_mem ?_, filters.forall_mem ?_⟩, sort.forall_mem ?_⟩, page.forall_mem ?_⟩
  all_goals
    rintro _ _ ⟨⟩
    all_goals rfl

/-- Every text field of users is one, so free text notes nothing. The page is not given and is not
    what is out of bounds, but it stands in the note on the page size. -/
example :
    (planRequest .standard User.shape UserFilters.predicates
      { search := some "an", pageSize := some 0, sortBy := some "age",
        filters := [⟨"id", .lessThan, some "10"⟩, ⟨"id", .contains, some "1"⟩],
        domain := {} }).log =
      [.filterIgnored "users" ⟨"id", .contains, some "1"⟩
          (.unsupportedOperator "id" .contains .int32),
        .sortUnknown "users" "age", .pageClamped 1 0 1 1] := by rfl

end

end RecordSearch
