import RecordSearch.Proofs.Criteria
import RecordSearch.Proofs.NormalForm
import RecordSearch.Users.Sample

/-! Free text and criteria.

    Free text looks at the fields that a list of names stands for. For each name it makes the test of
    the criterion that the field contains the term, and it leaves a name out exactly when that
    criterion is ignored: when no field has the name, or the field is of another type, or the term
    is blank. A record has to pass one of the tests, unless there is none.

        names          term    free text
        fullName, id   an      fullName contains an
        id, nickname   an      no condition
        fullName       blank   no condition -/

namespace RecordSearch

variable {ρ : Type}

/-! ### The criterion for a name -/

/-- The criterion that a field contains a term. -/
def Criterion.mentions (term : Option String) (name : String) : Criterion := ⟨name, .contains, term⟩

/-- It tests the text field with the name, for a term that is not blank. -/
theorem Criterion.toOption_compile_mentions (s : Schema ρ) (term : Option String) (name : String) :
    ((mentions term name).compile s).toOption =
      ((s.resolve name).filter (·.type.isText)).bind fun f =>
        (term.filter (!Text.blank ·)).map fun t => .test f (.ofNeedle .anywhere t false) := by
  rw [toOption_compile, mentions]
  rcases s.resolve name with _ | f
  · rfl
  · simp only [Option.bind_some, testOn, Operator.kind]
    by_cases text : f.type.isText = true
    · simp only [text, if_true, exceptToOption_map, requireText_eq, exceptToOption_elim,
        Option.map_map, Option.filter_some, Option.bind_some, Function.comp_def]
    · simp [text, Except.toOption, Option.filter]

theorem Criterion.ignored_mentions_of_blank {s : Schema ρ} {term : Option String}
    (blank : ∀ t, term = some t → Text.blank t = true) (name : String) :
    (mentions term name).Ignored s := by
  have none : term.filter (!Text.blank ·) = .none := by
    rw [Option.filter_eq_none_iff]
    simpa using blank
  rw [ignored_iff, toOption_compile_mentions, none]
  simp

/-! ### Free text -/

/-- Free text is the disjunction of the criteria for its names, as far as they compile. -/
theorem value_freeText_eq_disjunction (s : Schema ρ) (names : List String) (term : Option String) :
    (freeText s names term).value =
      .disjunction (names.filterMap fun name =>
        ((Criterion.mentions term name).compile s).toOption) := by
  by_cases blank : ∀ t, term = some t → Text.blank t = true
  · have ignored : names.filterMap
        (fun name => ((Criterion.mentions term name).compile s).toOption) = [] := by
      rw [List.filterMap_eq_nil_iff]
      intro name _
      exact Criterion.ignored_iff.1 (Criterion.ignored_mentions_of_blank blank name)
    rw [ignored, freeText_eq_always_iff.2 (.inl blank)]
    rfl
  · push Not at blank
    obtain ⟨t, rfl, given⟩ := blank
    have given : Text.blank t = false := Bool.eq_false_iff.2 given
    rw [value_freeText s names given, Schema.textFields, List.map_filterMap]
    simp only [Criterion.toOption_compile_mentions, Option.filter_some, given, Bool.not_false,
      if_true, Option.map_eq_bind, Option.bind_some, Function.comp_def]

/-- Free text is without a condition iff every criterion for its names is ignored. -/
theorem freeText_eq_always_iff_ignored {s : Schema ρ} {names : List String} {term : Option String} :
    (freeText s names term).value = .always ↔
      ∀ name ∈ names, (Criterion.mentions term name).Ignored s := by
  rw [value_freeText_eq_disjunction, Predicate.disjunction_eq_always_iff,
    List.filterMap_eq_nil_iff]
  · simp only [Criterion.ignored_iff]
  · intro p hp
    obtain ⟨name, -, compiled⟩ := List.mem_filterMap.1 hp
    have test := Criterion.isTest_of_compile (exceptToOption_eq_some_iff.1 compiled)
    exact (test.built (n := 0)).ne_always

/-- Free text with a condition accepts the records that match one of the criteria. -/
theorem accepts_freeText_iff_matches {s : Schema ρ} {names : List String} {term : Option String}
    (conditional : (freeText s names term).value ≠ .always) (x : ρ) :
    (freeText s names term).value.accepts x = true ↔
      ∃ name ∈ names, (Criterion.mentions term name).Matches s x := by
  have some : names.filterMap
      (fun name => ((Criterion.mentions term name).compile s).toOption) ≠ [] := by
    intro none
    rw [value_freeText_eq_disjunction, none] at conditional
    exact conditional rfl
  rw [value_freeText_eq_disjunction, Predicate.accepts_disjunction]
  simp only [some, false_or, List.mem_filterMap, Criterion.matches_iff]
  constructor
  · rintro ⟨p, ⟨name, among, compiled⟩, accepted⟩
    exact ⟨name, among, p, compiled, accepted⟩
  · rintro ⟨name, among, p, compiled, accepted⟩
    exact ⟨p, ⟨name, among, compiled⟩, accepted⟩

/-- The same names, in whatever order and however often, find the same records. -/
theorem accepts_freeText_congr {s : Schema ρ} {names names' : List String}
    (same : ∀ name, name ∈ names ↔ name ∈ names') (term : Option String) (x : ρ) :
    (freeText s names term).value.accepts x = (freeText s names' term).value.accepts x := by
  have always : (freeText s names term).value = .always ↔
      (freeText s names' term).value = .always := by
    simp only [freeText_eq_always_iff_ignored, same]
  by_cases none : (freeText s names term).value = .always
  · rw [none, always.1 none]
  · rw [Bool.eq_iff_iff, accepts_freeText_iff_matches none,
      accepts_freeText_iff_matches (none ∘ always.2)]
    simp only [same]

/-- Free text agrees with the criteria that a field of the list contains the term. It is without a
    condition iff every one of them is ignored, and otherwise finds the records that match one of
    them. Neither the order of the names nor repeating them matters to what it finds. -/
theorem freeText_agrees (s : Schema ρ) (names : List String) (term : Option String) :
    ((freeText s names term).value = .always ↔
      ∀ name ∈ names, (Criterion.mentions term name).Ignored s) ∧
    ((freeText s names term).value ≠ .always → ∀ x,
      ((freeText s names term).value.accepts x = true ↔
        ∃ name ∈ names, (Criterion.mentions term name).Matches s x)) ∧
    ∀ names', (∀ name, name ∈ names ↔ name ∈ names') → ∀ x,
      (freeText s names term).value.accepts x = (freeText s names' term).value.accepts x := by
  refine ⟨freeText_eq_always_iff_ignored, ?_, ?_⟩
  · intro conditional x
    exact accepts_freeText_iff_matches conditional x
  · intro names' same x
    exact accepts_freeText_congr same term x

/-- A term over a text field in two cases, a field of another type and a name that no field has. -/
theorem freeText_agrees_sampleUsers :
    let names := ["FULLNAME", "id", "nickname", "fullName"]
    let s := User.shape.schema
    (freeText s names (some "an")).value ≠ .always ∧
      (∀ x, (freeText s names (some "an")).value.accepts x = true ↔
        ∃ name ∈ names, (Criterion.mentions (some "an") name).Matches s x) ∧
      (∀ name, name ∈ names ↔ name ∈ names.reverse ++ names) ∧
      ∀ x, (freeText s names (some "an")).value.accepts x =
        (freeText s (names.reverse ++ names) (some "an")).value.accepts x := by
  intro names s
  have conditional : (freeText s names (some "an")).value ≠ .always := by
    intro none
    have ignored := (freeText_agrees s names (some "an")).1.1 none "FULLNAME" (by simp [names])
    revert ignored
    decide
  have same : ∀ name, name ∈ names ↔ name ∈ names.reverse ++ names := by simp
  obtain ⟨-, found, reordered⟩ := freeText_agrees s names (some "an")
  exact ⟨conditional, found conditional, same, reordered _ same⟩

end RecordSearch
