import RecordSearch.Contacts.Document
import RecordSearch.Proofs.Secrecy
import RecordSearch.Proofs.Typing

/-! The form of a plan's predicate.

    Free text, typed filters and criteria are each put together on their own, and then with one
    another. Every time, parts without a condition go and a lone part stands for itself. So the
    predicate without a condition is left only where nothing has one, a connective always connects,
    and connectives nest as deep as there are stages.

        all ─┬─ any ─── tests of the term, one for each text field
             ├─ tests of the typed filters
             └─ all ─── tests of the criteria that compile -/

namespace RecordSearch

variable {ρ δ : Type}

namespace Predicate

/-! ### Parts and depth -/

mutual

/-- All parts of a predicate, itself included. -/
def parts : Predicate ρ → List (Predicate ρ)
  | always => [always]
  | test f t => [test f t]
  | all ps => all ps :: partsOf ps
  | any ps => any ps :: partsOf ps

/-- All parts of the predicates of a list. -/
def partsOf : List (Predicate ρ) → List (Predicate ρ)
  | [] => []
  | p :: ps => parts p ++ partsOf ps

end

mutual

/-- How deep the connectives of a predicate nest. -/
def depth : Predicate ρ → Nat
  | always => 0
  | test _ _ => 0
  | all ps => depthOf ps + 1
  | any ps => depthOf ps + 1

/-- The greatest depth in a list. -/
def depthOf : List (Predicate ρ) → Nat
  | [] => 0
  | p :: ps => max (depth p) (depthOf ps)

end

theorem mem_partsOf {ps : List (Predicate ρ)} {q : Predicate ρ} :
    q ∈ partsOf ps ↔ ∃ p ∈ ps, q ∈ p.parts := by
  induction ps with
  | nil => simp [partsOf]
  | cons p ps ih => simp [partsOf, ih]

theorem depthOf_le {ps : List (Predicate ρ)} {n : Nat} (h : ∀ p ∈ ps, p.depth ≤ n) :
    depthOf ps ≤ n := by
  induction ps with
  | nil => exact Nat.zero_le n
  | cons p ps ih =>
    rw [List.forall_mem_cons] at h
    exact Nat.max_le.2 ⟨h.1, ih h.2⟩

/-! ### Normal forms -/

/-- Only the whole predicate is without a condition, every connective has at least two parts, and no
    more than two of them nest. -/
structure NormalForm (p : Predicate ρ) : Prop where
  always : always ∈ p.parts → p = always
  all : ∀ ps, all ps ∈ p.parts → 2 ≤ ps.length
  any : ∀ ps, any ps ∈ p.parts → 2 ≤ ps.length
  depth : p.depth ≤ 2

/-- Built from tests, with connectives of at least two parts that nest at most so deep. -/
inductive Built : Nat → Predicate ρ → Prop
  | test {n : Nat} (f : Field ρ) (t : Test) : Built n (.test f t)
  | all {n : Nat} {ps : List (Predicate ρ)} (two : 2 ≤ ps.length) (built : ∀ p ∈ ps, Built n p) :
    Built (n + 1) (.all ps)
  | any {n : Nat} {ps : List (Predicate ρ)} (two : 2 ≤ ps.length) (built : ∀ p ∈ ps, Built n p) :
    Built (n + 1) (.any ps)

namespace Built

variable {n : Nat} {p : Predicate ρ}

theorem succ (h : Built n p) : Built (n + 1) p := by
  induction h with
  | test f t => exact .test f t
  | all two _ ih => exact .all two ih
  | any two _ ih => exact .any two ih

theorem depth_le (h : Built n p) : p.depth ≤ n := by
  induction h with
  | test f t => exact Nat.zero_le _
  | all _ _ ih => exact Nat.succ_le_succ (depthOf_le ih)
  | any _ _ ih => exact Nat.succ_le_succ (depthOf_le ih)

/-- What is built is built of parts that are. -/
theorem parts (h : Built n p) {q : Predicate ρ} (hq : q ∈ p.parts) : ∃ m, Built m q := by
  induction h with
  | test f t =>
    rw [Predicate.parts, List.mem_singleton] at hq
    exact ⟨0, hq ▸ .test f t⟩
  | all two built ih =>
    rw [Predicate.parts, List.mem_cons, mem_partsOf] at hq
    rcases hq with rfl | ⟨p, hp, hq⟩
    · exact ⟨_, .all two built⟩
    · exact ih p hp hq
  | any two built ih =>
    rw [Predicate.parts, List.mem_cons, mem_partsOf] at hq
    rcases hq with rfl | ⟨p, hp, hq⟩
    · exact ⟨_, .any two built⟩
    · exact ih p hp hq

theorem ne_always (h : Built n p) : p ≠ .always := by
  rintro rfl
  cases h

theorem normalForm (h : Built 2 p) : p.NormalForm := by
  refine ⟨fun hq => ?_, fun ps hq => ?_, fun ps hq => ?_, h.depth_le⟩
  · obtain ⟨m, built⟩ := h.parts hq
    exact absurd rfl built.ne_always
  · obtain ⟨m, built⟩ := h.parts hq
    cases built with
    | all two => exact two
  · obtain ⟨m, built⟩ := h.parts hq
    cases built with
    | any two => exact two

end Built

theorem normalForm_always : (always : Predicate ρ).NormalForm := by
  refine ⟨fun _ => rfl, fun ps hq => ?_, fun ps hq => ?_, Nat.zero_le 2⟩
  · simp [parts] at hq
  · simp [parts] at hq

/-! ### Putting together -/

theorem isAlways_iff {p : Predicate ρ} : p.isAlways = true ↔ p = .always := by
  cases p <;> simp [isAlways]

/-- A conjunction adds one level of connectives, at most. -/
theorem built_conjunction {n : Nat} {ps : List (Predicate ρ)}
    (h : ∀ p ∈ ps, p = .always ∨ Built n p) :
    conjunction ps = .always ∨ Built (n + 1) (conjunction ps) := by
  -- what is not dropped is built
  have kept : ∀ p ∈ ps.filter (!·.isAlways), Built n p := by
    intro p hp
    obtain ⟨mem, conditional⟩ := List.mem_filter.1 hp
    rcases h p mem with rfl | built
    · simp [isAlways] at conditional
    · exact built
  rw [conjunction]
  generalize ps.filter (!·.isAlways) = qs at kept
  rcases qs with _ | ⟨p, _ | ⟨q, qs⟩⟩
  · exact .inl rfl
  · exact .inr (kept p (by simp)).succ
  · exact .inr (.all (by simp) kept)

/-- A disjunction adds one level of connectives, at most. -/
theorem built_disjunction {n : Nat} {ps : List (Predicate ρ)} (h : ∀ p ∈ ps, Built n p) :
    disjunction ps = .always ∨ Built (n + 1) (disjunction ps) := by
  rcases ps with _ | ⟨p, _ | ⟨q, qs⟩⟩
  · exact .inl rfl
  · exact .inr (h p (by simp)).succ
  · exact .inr (.any (by simp) h)

/-- A conjunction is without a condition exactly if all its parts are. -/
theorem conjunction_eq_always_iff {ps : List (Predicate ρ)} :
    conjunction ps = .always ↔ ∀ p ∈ ps, p = .always := by
  have none : ps.filter (!·.isAlways) = [] ↔ ∀ p ∈ ps, p = .always := by
    simp only [List.filter_eq_nil_iff, Bool.not_eq_true', Bool.not_eq_false, isAlways_iff]
  have kept : ∀ p ∈ ps.filter (!·.isAlways), p ≠ .always := by
    rintro p hp rfl
    simp [isAlways] at hp
  rw [← none, conjunction]
  generalize ps.filter (!·.isAlways) = qs at kept
  rcases qs with _ | ⟨p, _ | ⟨q, qs⟩⟩
  · simp
  · simpa using kept p
  · simp

/-- A disjunction of predicates with a condition is without one exactly if it has no parts. -/
theorem disjunction_eq_always_iff {ps : List (Predicate ρ)} (h : ∀ p ∈ ps, p ≠ .always) :
    disjunction ps = .always ↔ ps = [] := by
  rcases ps with _ | ⟨p, _ | ⟨q, qs⟩⟩
  · simp [disjunction]
  · simpa [disjunction] using h p
  · simp [disjunction]

/-- The predicate is one test. -/
def IsTest (p : Predicate ρ) : Prop := ∃ f t, p = .test f t

theorem IsTest.built {n : Nat} {p : Predicate ρ} (h : p.IsTest) : Built n p := by
  obtain ⟨f, t, rfl⟩ := h
  exact .test f t

end Predicate

/-! ### Stages -/

theorem Criterion.isTest_of_compile {schema : Schema ρ} {c : Criterion} {p : Predicate ρ}
    (h : c.compile schema = .ok p) : p.IsTest := by
  obtain ⟨f, t, -, -, rfl⟩ := compile_eq_ok_iff.1 h
  exact ⟨f, t, rfl⟩

/-- What compiles of the criteria is tests, so none of it is without a condition. -/
theorem isTest_of_mem_compiled {schema : Schema ρ} {cs : List Criterion} {p : Predicate ρ}
    (hp : p ∈ cs.filterMap fun c => (c.compile schema).toOption) : p.IsTest := by
  obtain ⟨c, -, hc⟩ := List.mem_filterMap.1 hp
  exact c.isTest_of_compile (exceptToOption_eq_some_iff.1 hc)

theorem built_compileAll (schema : Schema ρ) (cs : List Criterion) :
    (compileAll schema cs).value = .always ∨ Predicate.Built 1 (compileAll schema cs).value := by
  rw [value_compileAll]
  exact Predicate.built_conjunction fun p hp => .inr (isTest_of_mem_compiled hp).built

theorem compileAll_eq_always_iff {schema : Schema ρ} {cs : List Criterion} :
    (compileAll schema cs).value = .always ↔ ∀ c ∈ cs, ∃ e, c.compile schema = .error e := by
  have none : (∀ p ∈ cs.filterMap fun c => (c.compile schema).toOption, p = .always) ↔
      cs.filterMap (fun c => (c.compile schema).toOption) = [] := by
    constructor
    · intro h
      refine List.eq_nil_iff_forall_not_mem.2 fun p hp => ?_
      exact (isTest_of_mem_compiled hp).built (n := 0).ne_always (h p hp)
    · intro h p hp
      simp [h] at hp
  rw [value_compileAll, Predicate.conjunction_eq_always_iff, none, List.filterMap_eq_nil_iff]
  refine forall₂_congr fun c _ => ?_
  rcases c.compile schema with e | p
  · simp [Except.toOption]
  · simp [Except.toOption]

theorem built_freeText (schema : Schema ρ) (names : List String) (term : Option String) :
    (freeText schema names term).value = .always ∨
      Predicate.Built 1 (freeText schema names term).value := by
  rcases term with _ | t
  · exact .inl rfl
  · cases hb : Text.blank t with
    | true => simp [freeText, hb]
    | false =>
      rw [value_freeText schema names hb]
      refine Predicate.built_disjunction fun p hp => ?_
      obtain ⟨f, -, rfl⟩ := List.mem_map.1 hp
      exact .test f _

theorem freeText_eq_always_iff {schema : Schema ρ} {names : List String} {term : Option String} :
    (freeText schema names term).value = .always ↔
      (∀ t, term = some t → Text.blank t = true) ∨ schema.textFields names = [] := by
  rcases term with _ | t
  · simp [freeText]
  · cases hb : Text.blank t with
    | true => simp [freeText, hb]
    | false =>
      rw [value_freeText schema names hb, Predicate.disjunction_eq_always_iff, List.map_eq_nil_iff]
      · simp [hb]
      · rintro p hp rfl
        simp at hp

theorem Schema.textFields_eq_nil_iff {schema : Schema ρ} {names : List String} :
    schema.textFields names = [] ↔
      ∀ name ∈ names, ∀ f, schema.resolve name = some f → f.type ≠ .text := by
  rw [textFields, List.filterMap_eq_nil_iff]
  refine forall₂_congr fun name _ => ?_
  rw [Option.filter_eq_none_iff]
  simp only [FieldType.isText_iff]

/-! ### Plans -/

/-- What the predicate of a plan is like, given that the typed filters are tests. -/
structure Shape.Condenses (shape : Shape ρ) (typed : δ → List (Predicate ρ)) (r : Request δ)
    (p : Predicate ρ) : Prop where
  normalForm : p.NormalForm
  /-- Its tests are on fields of the schema, those of the typed filters apart. -/
  fields : ∀ f ∈ p.fields, f ∈ shape.schema.fields ∨ ∃ q ∈ typed r.domain, f ∈ q.fields
  /-- It is without a condition exactly if nothing in the request imposes one. -/
  always : p = .always ↔
    ((∀ t, r.search = some t → Text.blank t = true) ∨
      ∀ name ∈ shape.textFields, ∀ f, shape.schema.resolve name = some f → f.type ≠ .text) ∧
    typed r.domain = [] ∧ ∀ c ∈ r.filters, ∃ e, c.compile shape.schema = .error e
  /-- It accepts what all its parts accept, put together as they are. -/
  accepts : ∀ x, p.accepts x =
    (Predicate.all ((freeText shape.schema shape.textFields r.search).value :: typed r.domain ++
      r.filters.filterMap fun c => (c.compile shape.schema).toOption)).accepts x

/-- A test that is only made for a given value is a test. -/
theorem Predicate.isTest_of_mem_given {α : Type} {given : Option α} {test : α → Test}
    {field : Field ρ} {p : Predicate ρ}
    (hp : p ∈ (given.map fun a => Predicate.test field (test a)).toList) : p.IsTest := by
  obtain ⟨a, -, rfl⟩ := Option.map_eq_some_iff.1 (Option.mem_toList.1 hp)
  exact ⟨field, test a, rfl⟩

theorem DomainFilters.isTest_of_mem_between {field : Field ρ} {lower upper : Option Instant}
    {p : Predicate ρ} (hp : p ∈ between field lower upper) : p.IsTest := by
  rw [between, List.mem_append] at hp
  rcases hp with hp | hp
  · exact Predicate.isTest_of_mem_given hp
  · exact Predicate.isTest_of_mem_given hp

theorem UserFilters.isTest {d : UserFilters} {p : Predicate User} (hp : p ∈ d.predicates) :
    p.IsTest := by
  rw [predicates, List.mem_append, List.mem_append] at hp
  rcases hp with (hp | hp) | hp
  · exact Predicate.isTest_of_mem_given hp
  · exact Predicate.isTest_of_mem_given hp
  · exact DomainFilters.isTest_of_mem_between hp

theorem ContactFilters.mem_of_mem_fields {d : ContactFilters} {p : Predicate Contact}
    {f : Field Contact} (hp : p ∈ d.predicates) (hf : f ∈ p.fields) :
    f ∈ Contact.shape.schema.fields := by
  obtain rfl := DomainFilters.eq_of_mem_fields_between hp hf
  simp [Contact.shape]

/-- With tests for typed filters, every stage adds one level of connectives, at most. -/
theorem built_planRequest (pager : Pager) (shape : Shape ρ) {typed : δ → List (Predicate ρ)}
    {r : Request δ} (tests : ∀ p ∈ typed r.domain, p.IsTest) :
    (planRequest pager shape typed r).value.predicate = .always ∨
      Predicate.Built 2 (planRequest pager shape typed r).value.predicate := by
  rw [predicate_planRequest]
  refine Predicate.built_conjunction fun p hp => ?_
  rw [List.cons_append, List.mem_cons, List.mem_append, List.mem_singleton] at hp
  rcases hp with rfl | hp | rfl
  · exact built_freeText _ _ _
  · exact .inr (tests p hp).built
  · exact built_compileAll _ _

theorem predicate_planRequest_eq_always_iff (pager : Pager) (shape : Shape ρ)
    {typed : δ → List (Predicate ρ)} {r : Request δ} (tests : ∀ p ∈ typed r.domain, p.IsTest) :
    (planRequest pager shape typed r).value.predicate = .always ↔
      ((∀ t, r.search = some t → Text.blank t = true) ∨
        ∀ name ∈ shape.textFields, ∀ f, shape.schema.resolve name = some f → f.type ≠ .text) ∧
      typed r.domain = [] ∧ ∀ c ∈ r.filters, ∃ e, c.compile shape.schema = .error e := by
  have typedNone : (∀ p ∈ typed r.domain, p = .always) ↔ typed r.domain = [] := by
    constructor
    · intro h
      exact List.eq_nil_iff_forall_not_mem.2 fun p hp =>
        (tests p hp).built (n := 0).ne_always (h p hp)
    · intro h p hp
      simp [h] at hp
  rw [predicate_planRequest, Predicate.conjunction_eq_always_iff, List.cons_append,
    List.forall_mem_cons, List.forall_mem_append, List.forall_mem_singleton, typedNone,
    freeText_eq_always_iff, compileAll_eq_always_iff, Schema.textFields_eq_nil_iff]

theorem accepts_planRequest_eq_all (pager : Pager) (shape : Shape ρ)
    (typed : δ → List (Predicate ρ)) (r : Request δ) (x : ρ) :
    (planRequest pager shape typed r).value.predicate.accepts x =
      (Predicate.all ((freeText shape.schema shape.textFields r.search).value :: typed r.domain ++
        r.filters.filterMap fun c => (c.compile shape.schema).toOption)).accepts x := by
  rw [predicate_planRequest, Predicate.accepts_conjunction, Predicate.accepts_all, List.all_append,
    List.all_append, List.all_cons, List.all_cons, List.all_nil, Bool.and_true, value_compileAll,
    Predicate.accepts_conjunction]

/-- Plans condense what they are made of, as long as the typed filters are tests, and look at fields
    of the schema only, if these do. Those of users, of contacts and of shapes without any are tests
    on fields of the schema. -/
theorem planRequest_condenses :
    (∀ {ρ δ : Type} (pager : Pager) (shape : Shape ρ) (typed : δ → List (Predicate ρ))
      (r : Request δ), (∀ p ∈ typed r.domain, p.IsTest) →
        shape.Condenses typed r (planRequest pager shape typed r).value.predicate ∧
        ((∀ p ∈ typed r.domain, ∀ f ∈ p.fields, f ∈ shape.schema.fields) →
          ∀ f ∈ (planRequest pager shape typed r).value.predicate.fields,
            f ∈ shape.schema.fields)) ∧
    (∀ d : UserFilters, ∀ p ∈ d.predicates, p.IsTest ∧
      ∀ f ∈ p.fields, f ∈ User.shape.schema.fields) ∧
    (∀ d : ContactFilters, ∀ p ∈ d.predicates, p.IsTest ∧
      ∀ f ∈ p.fields, f ∈ Contact.shape.schema.fields) ∧
    ∀ {ρ : Type} (d : Unit), (DomainFilters.nothing : DomainFilters ρ Unit).predicates d = [] := by
  refine ⟨?_, ?_, ?_, fun _ => rfl⟩
  · intro ρ δ pager shape typed r tests
    refine ⟨⟨?_, ?_, ?_, ?_⟩, fun own f hf => ?_⟩
    · rcases built_planRequest pager shape tests with always | built
      · exact always ▸ Predicate.normalForm_always
      · exact built.normalForm
    · exact fun f hf => mem_of_mem_fields_planRequest pager shape typed r hf
    · exact predicate_planRequest_eq_always_iff pager shape tests
    · exact accepts_planRequest_eq_all pager shape typed r
    · rcases mem_of_mem_fields_planRequest pager shape typed r hf with member | ⟨p, hp, hfp⟩
      · exact member
      · exact own p hp f hfp
  · exact fun d p hp => ⟨UserFilters.isTest hp, fun f hf => UserFilters.mem_of_mem_fields hp hf⟩
  · exact fun d p hp => ⟨DomainFilters.isTest_of_mem_between hp,
      fun f hf => ContactFilters.mem_of_mem_fields hp hf⟩

/-- A term, typed filters and criteria at once, one of them without effect: two connectives nest. -/
theorem planRequest_condenses_female :
    let d : UserFilters := { gender := some .female, createdFrom := some .epoch }
    let r : Request UserFilters :=
      { search := some "an", domain := d
        filters := [⟨"id", .lessThan, some "ten"⟩, ⟨"id", .lessThan, some "10"⟩,
          ⟨"address", .isNull, none⟩] }
    let p := (planRequest .standard User.shape UserFilters.predicates r).value.predicate
    (∀ p ∈ d.predicates, p.IsTest) ∧
      (∀ p ∈ d.predicates, ∀ f ∈ p.fields, f ∈ User.shape.schema.fields) ∧
      User.shape.Condenses UserFilters.predicates r p ∧
      (∀ f ∈ p.fields, f ∈ User.shape.schema.fields) ∧ p.depth = 2 := by
  intro d r p
  have own := planRequest_condenses.2.1 d
  have tests : ∀ p ∈ d.predicates, p.IsTest := fun p hp => (own p hp).1
  have fields : ∀ p ∈ d.predicates, ∀ f ∈ p.fields, f ∈ User.shape.schema.fields :=
    fun p hp => (own p hp).2
  obtain ⟨condenses, known⟩ :=
    planRequest_condenses.1 .standard User.shape UserFilters.predicates r tests
  exact ⟨tests, fields, condenses, known fields, by decide +kernel⟩

end RecordSearch
