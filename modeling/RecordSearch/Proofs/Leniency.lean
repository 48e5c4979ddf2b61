import RecordSearch.Proofs.Plan
import RecordSearch.Users.Document
import RecordSearch.Users.Sample

/-! Criteria that do not compile.

    A criterion fails for one of three reasons, and the first that applies is the one that is given:
    no field has the name, or the operator makes no sense on the type, or the value is missing or
    does not fit. The reasons are said here of the criterion and the schema alone. Criteria that fail
    impose nothing: wherever they stand in a request, the plan is the one without them, and so is
    what any source answers to it. -/

namespace RecordSearch

variable {ρ : Type}

/-! ### Reasons to fail -/

/-- A text operator on a field that holds no text, or an ordering operator on a field whose values
    have no order. -/
def Operator.Unsupported (op : Operator) (type : FieldType) : Prop :=
  (op ∈ [contains, notContains, startsWith, endsWith] ∧ type ≠ .text) ∨
    (op ∈ [greaterThan, greaterThanOrEqual, lessThan, lessThanOrEqual] ∧
      (type = .text ∨ type = .bool ∨ ∃ tags, type = .tag tags))

/-- The operator asks for a value, and the value is missing or blank, or is not of the type; as a
    list, no entry is. -/
def Criterion.Unusable (c : Criterion) (type : FieldType) : Prop :=
  c.operator ≠ .isNull ∧ c.operator ≠ .isNotNull ∧
    ∀ v, c.value = some v → Text.blank v = false →
      if c.operator = .isIn ∨ c.operator = .notIn then ∀ entry ∈ splitList v, coerce entry type = none
      else coerce v type = none

/-- The criterion fails for a reason. -/
inductive Criterion.Fails (schema : Schema ρ) (c : Criterion) : Degradation → Prop
  | unknownField (unknown : ∀ f ∈ schema.fields, Text.sameName f.name c.field = false) :
      Fails schema c (.unknownField c.field)
  | unsupported {f : Field ρ} (first : schema.First c.field f)
      (unsupported : c.operator.Unsupported f.type) :
      Fails schema c (.unsupportedOperator f.name c.operator f.type)
  | notConvertible {f : Field ρ} (first : schema.First c.field f)
      (supported : ¬c.operator.Unsupported f.type) (unusable : c.Unusable f.type) :
      Fails schema c (.notConvertible f.name (c.value.getD "") f.type)

/-- Whether an operator is supported is a matter of its kind. -/
theorem Operator.unsupported_iff {op : Operator} {type : FieldType} :
    op.Unsupported type ↔
      match op.kind with
      | .text _ _ => type.isText = false
      | .ordering _ => type.isOrdered = false
      | _ => False := by
  cases op <;> cases type <;> simp [Unsupported, kind, FieldType.isText, FieldType.isOrdered]

theorem Field.literal?_eq_none_iff {f : Field ρ} {value : Option String} :
    f.literal? value = none ↔
      ∀ v, value = some v → Text.blank v = false → coerce v f.type = none := by
  rw [literal?, Option.bind_eq_none_iff]
  simp only [Option.filter_eq_some_iff, Bool.not_eq_true', and_imp]

theorem Field.literals?_eq_none_iff {f : Field ρ} {value : Option String} :
    f.literals? value = none ↔ ∀ v, value = some v → Text.blank v = false →
      ∀ entry ∈ splitList v, coerce entry f.type = none := by
  rw [literals?, Option.filter_eq_none_iff]
  simp only [Option.map_eq_some_iff, Option.filter_eq_some_iff, Bool.not_eq_true']
  constructor
  · intro h v hv shown entry hentry
    have none := h _ ⟨v, ⟨hv, shown⟩, rfl⟩
    rw [List.isEmpty_eq_false_iff, Decidable.not_not, List.filterMap_eq_nil_iff] at none
    exact none entry hentry
  · rintro h ls ⟨v, ⟨hv, shown⟩, rfl⟩
    rw [List.isEmpty_eq_false_iff, Decidable.not_not, List.filterMap_eq_nil_iff]
    exact h v hv shown

/-- Whether the value is usable is a matter of the kind of the operator. -/
theorem Criterion.unusable_iff {c : Criterion} {f : Field ρ} :
    c.Unusable f.type ↔
      match c.operator.kind with
      | .nullness _ => False
      | .membership _ => f.literals? c.value = none
      | _ => f.literal? c.value = none := by
  obtain ⟨name, op, value⟩ := c
  cases op <;>
    simp [Unusable, Operator.kind, Field.literal?_eq_none_iff, Field.literals?_eq_none_iff]

/-- Every text that is not blank is a literal of a text field. -/
theorem Field.literal?_of_isText {f : Field ρ} (text : f.type.isText = true)
    (value : Option String) : f.literal? value = (value.filter (!Text.blank ·)).map .text := by
  have type : f.type = .text := by
    cases ht : f.type <;> rw [ht] at text <;> first | rfl | exact absurd text Bool.false_ne_true
  rw [literal?, type]
  rcases value.filter (!Text.blank ·) with _ | v
  · rfl
  · rfl

/-- A reading fails iff there is nothing to read, with the reason that goes with it. -/
theorem map_elim_eq_error_iff {ε α β : Type} {o : Option α} {reason e : ε} {f : α → β} :
    (o.elim (.error reason) .ok : Except ε α).map f = .error e ↔ o = none ∧ e = reason := by
  rcases o with _ | a
  · simp [Except.map, eq_comm]
  · simp [Except.map]

/-- On a field, a criterion fails because of its operator or else because of its value. -/
theorem Criterion.testOn_eq_error_iff {f : Field ρ} {c : Criterion} {e : Degradation} :
    c.testOn f = .error e ↔
      (c.operator.Unsupported f.type ∧ e = .unsupportedOperator f.name c.operator f.type) ∨
        (¬c.operator.Unsupported f.type ∧ c.Unusable f.type ∧
          e = .notConvertible f.name (c.value.getD "") f.type) := by
  rw [testOn, Operator.unsupported_iff, unusable_iff]
  rcases hk : c.operator.kind with (_ | _) | ⟨position, negate⟩ | comparison | negate | negate
  · simp only [requireLiteral_eq, map_elim_eq_error_iff, false_and, not_false_eq_true, true_and,
      false_or]
    rfl
  · simp only [requireLiteral_eq, map_elim_eq_error_iff, false_and, not_false_eq_true, true_and,
      false_or]
    rfl
  · cases ht : f.type.isText with
    | true =>
      simp only [if_true, requireText_eq, map_elim_eq_error_iff, Field.literal?_of_isText ht,
        Option.map_eq_none_iff, Bool.true_eq_false, false_and, not_false_eq_true, true_and,
        false_or]
      rfl
    | false => simp [eq_comm]
  · cases ho : f.type.isOrdered with
    | true =>
      simp only [if_true, requireLiteral_eq, map_elim_eq_error_iff, Bool.true_eq_false, false_and,
        not_false_eq_true, true_and, false_or]
      rfl
    | false => simp [eq_comm]
  · simp only [requireLiterals_eq, map_elim_eq_error_iff, false_and, not_false_eq_true, true_and,
      false_or]
    rfl
  · simp

/-- Compiling gives exactly the reason why a criterion fails. -/
theorem Criterion.compile_eq_error_iff {schema : Schema ρ} {c : Criterion} {e : Degradation} :
    c.compile schema = .error e ↔ c.Fails schema e := by
  rw [compile]
  rcases hf : schema.resolve c.field with _ | f
  · have unknown : ∀ f ∈ schema.fields, Text.sameName f.name c.field = false := by
      simpa [Schema.resolve] using hf
    constructor
    · intro h
      obtain rfl := Except.error.inj h
      exact .unknownField unknown
    · intro h
      have absent {f : Field ρ} (first : schema.First c.field f) : False := by
        rw [Schema.resolve_eq_some_iff.2 first] at hf
        exact Option.some_ne_none f hf
      cases h with
      | unknownField _ => rfl
      | unsupported first _ => exact (absent first).elim
      | notConvertible first _ _ => exact (absent first).elim
  · have first : schema.First c.field f := Schema.resolve_eq_some_iff.1 hf
    have mapped : (c.testOn f).map (Predicate.test f) = .error e ↔ c.testOn f = .error e := by
      rcases c.testOn f with e' | t
      · simp [Except.map]
      · simp [Except.map]
    show (c.testOn f).map (Predicate.test f) = .error e ↔ _
    rw [mapped, testOn_eq_error_iff]
    constructor
    · rintro (⟨unsupported, rfl⟩ | ⟨supported, unusable, rfl⟩)
      · exact .unsupported first unsupported
      · exact .notConvertible first supported unusable
    · intro h
      cases h with
      | unknownField unknown =>
        have known := schema.name_of_resolve hf
        rw [unknown f (schema.mem_of_resolve hf)] at known
        exact absurd known Bool.false_ne_true
      | unsupported hg unsupported =>
        obtain rfl := first.eq hg
        exact .inl ⟨unsupported, rfl⟩
      | notConvertible hg supported unusable =>
        obtain rfl := first.eq hg
        exact .inr ⟨supported, unusable, rfl⟩

/-! ### Failing criteria impose nothing -/

/-- The second list is the first one with failing criteria put in, anywhere and any number of
    them. -/
inductive Criterion.Padded (schema : Schema ρ) : List Criterion → List Criterion → Prop
  | nil : Padded schema [] []
  | keep (c : Criterion) {cs ds : List Criterion} (rest : Padded schema cs ds) :
      Padded schema (c :: cs) (c :: ds)
  | insert {c : Criterion} {e : Degradation} (fails : c.compile schema = .error e)
      {cs ds : List Criterion} (rest : Padded schema cs ds) : Padded schema cs (c :: ds)

/-- Padding does not change which predicates there are, nor their order. -/
theorem Criterion.Padded.filterMap_compile {schema : Schema ρ} {cs ds : List Criterion}
    (h : Padded schema cs ds) :
    (ds.filterMap fun c => (c.compile schema).toOption) =
      cs.filterMap fun c => (c.compile schema).toOption := by
  induction h with
  | nil => rfl
  | keep c _ ih => rw [List.filterMap_cons, List.filterMap_cons, ih]
  | insert fails _ ih => rw [List.filterMap_cons, fails, ← ih]; rfl

/-- Padding does not change the plan of a request. -/
theorem Criterion.Padded.value_planRequest {δ : Type} {shape : Shape ρ} {r : Request δ}
    {ds : List Criterion} (h : Padded shape.schema r.filters ds) (pager : Pager)
    (typed : δ → List (Predicate ρ)) :
    (planRequest pager shape typed { r with filters := ds }).value =
      (planRequest pager shape typed r).value := by
  rw [planRequest_eq, planRequest_eq, value_compileAll, value_compileAll, h.filterMap_compile]
  rfl

/-- Compiling fails exactly for the reasons that are given, in their order of precedence, and the
    tests for null always compile on a field that is known. Criteria that fail change neither the
    plan of a request nor what any source answers to it. -/
theorem failing_criteria_impose_nothing (shape : Shape ρ) :
    (∀ (c : Criterion) (e : Degradation),
      c.compile shape.schema = .error e ↔ c.Fails shape.schema e) ∧
    (∀ (c : Criterion) (f : Field ρ), shape.schema.First c.field f →
      (c.operator = .isNull → c.compile shape.schema = .ok (.test f (.isNull false))) ∧
      (c.operator = .isNotNull → c.compile shape.schema = .ok (.test f (.isNull true)))) ∧
    ∀ {δ τ : Type} (pager : Pager) (typed : δ → List (Predicate ρ)) (r : Request δ)
      (ds : List Criterion) (project : ρ → τ), Criterion.Padded shape.schema r.filters ds →
        (planRequest pager shape typed { r with filters := ds }).value =
          (planRequest pager shape typed r).value ∧
        (∀ {m : Type → Type} [Monad m] [LawfulMonad m] [MonadNotes m],
          (∀ e, (MonadNotes.note e : m Unit) = pure ()) → ∀ source : Source m ρ,
            search pager shape typed source { r with filters := ds } project =
              search pager shape typed source r project) ∧
        ∀ records : List ρ,
          (search pager shape typed (Source.ofList records) { r with filters := ds } project :
              Attempt (ResultPage τ)).value =
            (search pager shape typed (Source.ofList records) r project :
              Attempt (ResultPage τ)).value := by
  refine ⟨fun c e => Criterion.compile_eq_error_iff, fun c f first => ⟨?_, ?_⟩, ?_⟩
  · intro isNull
    rw [Criterion.compile, Schema.resolve_eq_some_iff.2 first]
    show (c.testOn f).map (Predicate.test f) = _
    rw [Criterion.testOn, isNull]
    rfl
  · intro isNotNull
    rw [Criterion.compile, Schema.resolve_eq_some_iff.2 first]
    show (c.testOn f).map (Predicate.test f) = _
    rw [Criterion.testOn, isNotNull]
    rfl
  · intro δ τ pager typed r ds project padded
    have plan := padded.value_planRequest pager typed
    refine ⟨plan, ?_, ?_⟩
    · intro m _ _ _ silent source
      rw [search_of_silent silent, search_of_silent silent, plan]
    · intro records
      rw [value_search_ofList, value_search_ofList, plan]

/-- One criterion among three that fail, each for another reason: over a list, and over a source
    that counts but cannot fetch. A test for null compiles whatever its value. -/
theorem failing_criteria_impose_nothing_sampleUsers :
    let valid : List Criterion := [⟨"id", .lessThan, some "10"⟩]
    let padded : List Criterion :=
      [⟨"nickname", .equals, some "x"⟩, ⟨"id", .lessThan, some "10"⟩,
        ⟨"FULLNAME", .greaterThan, none⟩, ⟨"gender", .isIn, some "x, ,y"⟩]
    let broken : Source (Except String) User := ⟨fun _ => .ok 3, fun _ => .error "no disk"⟩
    let _ : MonadNotes (Except String) := ⟨fun _ => .ok ()⟩
    Criterion.Padded User.shape.schema valid padded ∧
      (search .standard User.shape UserFilters.predicates (Source.ofList sampleUsers)
          { filters := padded, domain := {} } User.response : Attempt _).value =
        (search .standard User.shape UserFilters.predicates (Source.ofList sampleUsers)
          { filters := valid, domain := {} } User.response : Attempt _).value ∧
      search .standard User.shape UserFilters.predicates broken
          { filters := padded, domain := {} } User.response =
        search .standard User.shape UserFilters.predicates broken
          { filters := valid, domain := {} } User.response ∧
      User.shape.schema.First "GENDER" User.genderField ∧
      Criterion.compile User.shape.schema ⟨"GENDER", .isNull, some "x"⟩ =
        .ok (.test User.genderField (.isNull false)) := by
  intro valid padded broken _
  have unknown : Criterion.compile User.shape.schema ⟨"nickname", .equals, some "x"⟩ =
      .error (.unknownField "nickname") := rfl
  have unsupported : Criterion.compile User.shape.schema ⟨"FULLNAME", .greaterThan, none⟩ =
      .error (.unsupportedOperator "fullName" .greaterThan .text) := rfl
  have notConvertible : Criterion.compile User.shape.schema ⟨"gender", .isIn, some "x, ,y"⟩ =
      .error (.notConvertible "gender" "x, ,y" (.tag Gender.set.tags)) := rfl
  have isPadded : Criterion.Padded User.shape.schema valid padded :=
    .insert unknown (.keep _ (.insert unsupported (.insert notConvertible .nil)))
  have first : User.shape.schema.First "GENDER" User.genderField :=
    Schema.resolve_eq_some_iff.1 rfl
  obtain ⟨-, nullTests, answers⟩ := failing_criteria_impose_nothing User.shape
  obtain ⟨-, anySource, list⟩ := answers .standard UserFilters.predicates
    { filters := valid, domain := {} } padded User.response isPadded
  exact ⟨isPadded, list sampleUsers, anySource (fun _ => rfl) broken, first,
    (nullTests ⟨"GENDER", .isNull, some "x"⟩ _ first).1 rfl⟩

end RecordSearch
