import RecordSearch.Compilation
import RecordSearch.Proofs.Predicate
import RecordSearch.SortKey

/-! What the stages of a plan give, apart from their notes.

    Free text is a disjunction over the text fields that are found, and the criteria are a
    conjunction of those that compile. Statements about plans cite these equations and do not open
    a stage again. Every field that a stage looks at is a field of the schema. -/

namespace RecordSearch

variable {ρ : Type}

/-! ### Stages over lists -/

/-- The results of a stage that is run for every item of a list. -/
theorem Logged.value_mapM {α β : Type} (f : α → Logged β) (xs : List α) :
    (xs.mapM f).value = xs.map fun a => (f a).value := by
  induction xs with
  | nil => rfl
  | cons a as ih => rw [List.mapM_cons, value_bind, value_bind, value_pure, ih, List.map_cons]

/-- A mapped result is there iff the result is. -/
theorem exceptMap_eq_ok_iff {ε α β : Type} {f : α → β} {x : Except ε α} {b : β} :
    x.map f = .ok b ↔ ∃ a, x = .ok a ∧ f a = b := by
  rcases x with e | a
  · simp [Except.map]
  · simp [Except.map]

theorem exceptBind_eq_ok_iff {ε α β : Type} {x : Except ε α} {f : α → Except ε β} {b : β} :
    x >>= f = .ok b ↔ ∃ a, x = .ok a ∧ f a = .ok b := by
  rcases x with e | a
  · simp [bind, Except.bind]
  · simp [bind, Except.bind]

/-- A condition that refuses stands before the rest. -/
theorem exceptGuard_eq_ok_iff {ε α β : Type} {c : Prop} [Decidable c] {e : ε} {x : Except ε β}
    {b : β} :
    (if c then (.error e : Except ε α) >>= fun _ => x else x) = .ok b ↔ ¬c ∧ x = .ok b := by
  by_cases h : c
  · simp [h, bind, Except.bind]
  · simp [h]

theorem exceptToOption_eq_some_iff {ε α : Type} {x : Except ε α} {a : α} :
    x.toOption = some a ↔ x = .ok a := by
  rcases x with e | b
  · simp [Except.toOption]
  · simp [Except.toOption]

theorem exceptToOption_map {ε α β : Type} (f : α → β) (x : Except ε α) :
    (x.map f).toOption = x.toOption.map f := by
  rcases x with e | a
  · rfl
  · rfl

theorem exceptToOption_elim {ε α : Type} (e : ε) (o : Option α) :
    (o.elim (.error e) .ok : Except ε α).toOption = o := by
  rcases o with _ | a
  · rfl
  · rfl

/-! ### Looking fields up -/

/-- `f` is the first field of the schema with the name, up to the case of A to Z. -/
def Schema.First (s : Schema ρ) (name : String) (f : Field ρ) : Prop :=
  ∃ before after, s.fields = before ++ f :: after ∧ Text.sameName f.name name = true ∧
    ∀ g ∈ before, Text.sameName g.name name = false

/-- Resolving gives the first field with the name. -/
theorem Schema.resolve_eq_some_iff {s : Schema ρ} {name : String} {f : Field ρ} :
    s.resolve name = some f ↔ s.First name f := by
  rw [Schema.resolve, List.find?_eq_some_iff_append]
  constructor
  · rintro ⟨hf, before, after, hs, hb⟩
    exact ⟨before, after, hs, hf, fun g hg => by simpa using hb g hg⟩
  · rintro ⟨before, after, hs, hf, hb⟩
    exact ⟨hf, before, after, hs, fun g hg => by simpa using hb g hg⟩

/-- There is only one first field with a name. -/
theorem Schema.First.eq {s : Schema ρ} {name : String} {f g : Field ρ} (hf : s.First name f)
    (hg : s.First name g) : f = g := by
  rw [← resolve_eq_some_iff] at hf hg
  exact Option.some.inj (hf.symm.trans hg)

/-! ### Values of criteria -/

namespace Criterion

variable {field : Field ρ} {c : Criterion}

/-- The value of a criterion counts when it is there and not blank. -/
theorem text?_eq_some_iff {v : String} :
    c.text? = some v ↔ c.value = some v ∧ Text.blank v = false := by
  rw [text?]
  rcases c.value with _ | w
  · simp
  · show (if Text.blank w = true then none else some w) = some v ↔ _
    by_cases hw : Text.blank w = true
    · rw [if_pos hw]
      constructor
      · intro h
        exact absurd h (by simp)
      · rintro ⟨h, hv⟩
        obtain rfl := Option.some.inj h
        rw [hw] at hv
        exact absurd hv (by simp)
    · rw [if_neg hw, Option.some.injEq]
      constructor
      · rintro rfl
        exact ⟨rfl, by simpa using hw⟩
      · exact fun h => h.1

theorem requireText_eq_ok_iff {v : String} : requireText field c = .ok v ↔ c.text? = some v := by
  rw [requireText]
  rcases c.text? with _ | w
  · simp
  · simp

theorem requireLiteral_eq_ok_iff {l : Literal} :
    requireLiteral field c = .ok l ↔ ∃ v, c.text? = some v ∧ coerce v field.type = some l := by
  rw [requireLiteral, requireText]
  rcases c.text? with _ | v
  · simp [bind, Except.bind]
  · rcases hl : coerce v field.type with _ | l'
    · simp [bind, Except.bind, hl]
    · simp [bind, Except.bind, hl]

theorem requireLiterals_eq_ok_iff {ls : List Literal} :
    requireLiterals field c = .ok ls ↔
      ∃ v, c.text? = some v ∧ ls = (splitList v).filterMap (coerce · field.type) ∧ ls ≠ [] := by
  rw [requireLiterals, requireText]
  rcases c.text? with _ | v
  · simp [bind, Except.bind]
  · simp only [bind, Except.bind, Option.some.injEq, exists_eq_left']
    rcases hl : (splitList v).filterMap (coerce · field.type) with _ | ⟨l, ls'⟩
    · simp
    · simp only [Except.ok.injEq]
      constructor
      · rintro rfl
        exact ⟨rfl, List.cons_ne_nil l ls'⟩
      · rintro ⟨h, -⟩
        exact h.symm

theorem text?_eq (c : Criterion) : c.text? = c.value.filter (!Text.blank ·) := by
  rw [text?]
  rcases c.value with _ | v
  · rfl
  · cases hv : Text.blank v with
    | true => simp [Option.filter, hv]
    | false => simp [Option.filter, hv]

end Criterion

/-- The literal that the value of a criterion denotes on a field: the value has to be there, must
    not be blank, and has to be of the type. -/
def Field.literal? (f : Field ρ) (value : Option String) : Option Literal :=
  (value.filter (!Text.blank ·)).bind (coerce · f.type)

/-- The literals that the entries of the value denote on a field; there has to be one. -/
def Field.literals? (f : Field ρ) (value : Option String) : Option (List Literal) :=
  ((value.filter (!Text.blank ·)).map fun v =>
    (splitList v).filterMap (coerce · f.type)).filter (!·.isEmpty)

namespace Criterion

variable {field : Field ρ} {c : Criterion}

/-- Without a text, the value is refused as it was given. -/
theorem requireText_eq : requireText field c =
    (c.value.filter (!Text.blank ·)).elim (.error (notConvertible field (c.value.getD ""))) .ok := by
  rw [requireText, text?_eq]
  rcases c.value.filter (!Text.blank ·) with _ | v
  · rfl
  · rfl

/-- Without a literal, the value is refused as it was given. -/
theorem requireLiteral_eq : requireLiteral field c =
    (field.literal? c.value).elim (.error (notConvertible field (c.value.getD ""))) .ok := by
  rw [requireLiteral, requireText_eq, Field.literal?]
  rcases hv : c.value.filter (!Text.blank ·) with _ | v
  · rfl
  · -- a value that is kept is the value that was given
    have given : c.value.getD "" = v := by rw [(Option.filter_eq_some_iff.1 hv).1]; rfl
    rw [given, Option.bind_some]
    rcases hl : coerce v field.type with _ | l
    · simp [bind, Except.bind, hl]
    · simp [bind, Except.bind, hl]

/-- Without any literal, the value is refused as it was given. -/
theorem requireLiterals_eq : requireLiterals field c =
    (field.literals? c.value).elim (.error (notConvertible field (c.value.getD ""))) .ok := by
  rw [requireLiterals, requireText_eq, Field.literals?]
  rcases hv : c.value.filter (!Text.blank ·) with _ | v
  · rfl
  · have given : c.value.getD "" = v := by rw [(Option.filter_eq_some_iff.1 hv).1]; rfl
    rw [given, Option.map_some]
    rcases hl : (splitList v).filterMap (coerce · field.type) with _ | ⟨l, ls⟩
    · simp [bind, Except.bind, hl, Option.filter]
    · simp [bind, Except.bind, hl, Option.filter]

/-- A criterion compiles to one test on the first field with its name. -/
theorem compile_eq_ok_iff {schema : Schema ρ} {p : Predicate ρ} :
    c.compile schema = .ok p ↔
      ∃ f t, schema.resolve c.field = some f ∧ testOn f c = .ok t ∧ p = .test f t := by
  rw [compile]
  rcases schema.resolve c.field with _ | f
  · simp
  · rw [exceptMap_eq_ok_iff]
    constructor
    · rintro ⟨t, ht, rfl⟩
      exact ⟨f, t, rfl, ht, rfl⟩
    · rintro ⟨g, t, hg, ht, rfl⟩
      obtain rfl := Option.some.inj hg
      exact ⟨t, ht, rfl⟩

/-- The predicate of a criterion, if it compiles. -/
theorem value_compileOrNote (schema : Schema ρ) (c : Criterion) :
    (compileOrNote schema c).value = (c.compile schema).toOption := by
  rw [compileOrNote]
  rcases c.compile schema with e | p
  · rfl
  · rfl

end Criterion

/-! ### Stages -/

/-- The criteria that compile, taken together. -/
theorem value_compileAll (schema : Schema ρ) (cs : List Criterion) :
    (compileAll schema cs).value =
      .conjunction (cs.filterMap fun c => (c.compile schema).toOption) := by
  rw [compileAll, Logged.value_bind, Logged.value_pure, Logged.value_mapM, List.filterMap_map]
  simp only [Function.comp_def, Criterion.value_compileOrNote, id_eq]

/-- The text fields among those that a list of names stands for. -/
def Schema.textFields (s : Schema ρ) (names : List String) : List (Field ρ) :=
  names.filterMap fun name => (s.resolve name).filter (·.type.isText)

theorem Schema.mem_fields_of_mem_textFields {s : Schema ρ} {names : List String} {f : Field ρ}
    (h : f ∈ s.textFields names) : f ∈ s.fields := by
  obtain ⟨name, -, hf⟩ := List.mem_filterMap.1 h
  exact s.mem_of_resolve (Option.filter_eq_some_iff.1 hf).1

theorem value_freeTextOn (schema : Schema ρ) (term name : String) :
    (freeTextOn schema term name).value =
      ((schema.resolve name).filter (·.type.isText)).map
        fun f => .test f (.ofNeedle .anywhere term false) := by
  rw [freeTextOn]
  rcases schema.resolve name with _ | f
  · rfl
  · cases hf : f.type.isText with
    | true => simp [Option.filter, hf]
    | false => simp [Option.filter, hf]

/-- Free text is one test for each text field that is found. -/
theorem value_freeText (schema : Schema ρ) (names : List String) {term : String}
    (h : Text.blank term = false) :
    (freeText schema names (some term)).value =
      .disjunction ((schema.textFields names).map fun f =>
        .test f (.ofNeedle .anywhere term false)) := by
  rw [freeText]
  simp only [h, Bool.false_eq_true, if_false]
  rw [Logged.value_bind, Logged.value_pure, Logged.value_mapM, List.filterMap_map,
    Schema.textFields, List.map_filterMap]
  simp only [Function.comp_def, value_freeTextOn, id_eq]

/-- The sort key is the field that a name resolves to, unless the name is blank. -/
theorem value_compileSort (schema : Schema ρ) (sortBy sortOrder : Option String) :
    (compileSort schema sortBy sortOrder).value =
      ((sortBy.filter (!Text.blank ·)).bind schema.resolve).map (⟨·, .ofToken sortOrder⟩) := by
  rcases sortBy with _ | name
  · rfl
  · rw [compileSort]
    by_cases hb : Text.blank name = true
    · simp [hb, Option.filter]
    · rcases hf : schema.resolve name with _ | f
      · simp [hb, Option.filter, hf]
      · simp [hb, Option.filter, hf]

/-! ### Fields of stages -/

/-- A criterion looks at a field of the schema. -/
theorem Criterion.mem_of_mem_fields {schema : Schema ρ} {c : Criterion} {p : Predicate ρ}
    {f : Field ρ} (h : c.compile schema = .ok p) (hf : f ∈ p.fields) : f ∈ schema.fields := by
  obtain ⟨g, t, hg, -, rfl⟩ := compile_eq_ok_iff.1 h
  obtain rfl : f = g := by simpa [Predicate.fields] using hf
  exact schema.mem_of_resolve hg

/-- The criteria look at fields of the schema. -/
theorem mem_of_mem_fields_compileAll {schema : Schema ρ} {cs : List Criterion} {f : Field ρ}
    (hf : f ∈ (compileAll schema cs).value.fields) : f ∈ schema.fields := by
  rw [value_compileAll] at hf
  obtain ⟨p, hp, hfp⟩ := Predicate.fields_conjunction hf
  obtain ⟨c, -, hc⟩ := List.mem_filterMap.1 hp
  exact c.mem_of_mem_fields (exceptToOption_eq_some_iff.1 hc) hfp

/-- Free text looks at fields of the schema. -/
theorem mem_of_mem_fields_freeText {schema : Schema ρ} {names : List String}
    {term : Option String} {f : Field ρ} (hf : f ∈ (freeText schema names term).value.fields) :
    f ∈ schema.fields := by
  rcases term with _ | term
  · simp [freeText, Predicate.fields] at hf
  · cases hb : Text.blank term with
    | true => simp [freeText, hb, Predicate.fields] at hf
    | false =>
      rw [value_freeText schema names hb] at hf
      obtain ⟨p, hp, hfp⟩ := Predicate.fields_disjunction hf
      obtain ⟨g, hg, rfl⟩ := List.mem_map.1 hp
      obtain rfl : f = g := by simpa [Predicate.fields] using hfp
      exact Schema.mem_fields_of_mem_textFields hg

/-- A sort key looks at a field of the schema. -/
theorem mem_of_mem_compileSort {schema : Schema ρ} {sortBy sortOrder : Option String}
    {key : SortKey ρ} (h : key ∈ (compileSort schema sortBy sortOrder).value) :
    key.field ∈ schema.fields := by
  rw [value_compileSort] at h
  obtain ⟨f, hf, rfl⟩ := Option.map_eq_some_iff.1 h
  obtain ⟨name, -, hname⟩ := Option.bind_eq_some_iff.1 hf
  exact schema.mem_of_resolve hname

end RecordSearch
