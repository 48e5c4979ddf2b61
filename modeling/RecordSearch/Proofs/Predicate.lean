import RecordSearch.Predicate

/-! What composed predicates mean, and which fields they look at.

    Putting predicates together drops those without a condition and unwraps a lone one; neither
    changes which records pass. A predicate only depends on a record through the fields of its
    tests, so two records that read the same in those fields pass or fail together. -/

namespace RecordSearch

/-! ### Containment -/

/-- The scan over all positions finds a needle iff it is a contiguous part of the text. -/
theorem Text.holds_iff {needle text : List Char} :
    Text.holds needle text = true ↔ needle <:+: text := by
  induction text with
  | nil => rw [Text.holds, List.isEmpty_iff, List.infix_nil]
  | cons c cs ih =>
    rw [Text.holds, Bool.or_eq_true, List.isPrefixOf_iff_prefix, ih, List.infix_cons_iff]

/-- A text test for a needle anywhere passes iff the lower case of the value has the lower case of
    the needle in it. -/
theorem Test.accepts_ofNeedle_anywhere {term : String} {v : Value} :
    (Test.ofNeedle .anywhere term false).accepts v = true ↔
      ∃ s, v.text? = some s ∧ Text.lower term.toList <:+: Text.lower s.toList := by
  rw [Test.ofNeedle, Test.accepts]
  cases hv : v.text? with
  | none => simp
  | some s =>
    simp only [Position.finds, Text.toList_lowercase, Bool.bne_false, Option.some.injEq]
    rw [Text.holds_iff]
    constructor
    · intro h
      exact ⟨s, rfl, h⟩
    · rintro ⟨s', rfl, h⟩
      exact h

namespace Predicate

variable {ρ : Type}

/-! ### Composition -/

theorem accepts_of_isAlways {p : Predicate ρ} (h : p.isAlways = true) (x : ρ) :
    p.accepts x = true := by
  cases p with
  | always => exact accepts_always x
  | test f t => exact absurd h (by simp [isAlways])
  | all ps => exact absurd h (by simp [isAlways])
  | any ps => exact absurd h (by simp [isAlways])

/-- A conjunction passes the records that pass all of its parts. -/
theorem accepts_conjunction (ps : List (Predicate ρ)) (x : ρ) :
    (conjunction ps).accepts x = ps.all (·.accepts x) := by
  -- the dropped parts accept every record
  have kept : (ps.filter (!·.isAlways)).all (·.accepts x) = ps.all (·.accepts x) := by
    rw [List.all_filter]
    refine List.all_congr rfl fun p => ?_
    cases h : p.isAlways with
    | true => rw [accepts_of_isAlways h]; rfl
    | false => rfl
  rw [← kept, conjunction]
  generalize ps.filter (!·.isAlways) = qs
  rcases qs with _ | ⟨p, _ | ⟨q, qs⟩⟩
  · rw [accepts_always]; rfl
  · rw [List.all_cons, List.all_nil, Bool.and_true]
  · rw [accepts_all]

/-- A disjunction passes the records that pass one of its parts, and all records if it has none. -/
theorem accepts_disjunction (ps : List (Predicate ρ)) (x : ρ) :
    (disjunction ps).accepts x = true ↔ ps = [] ∨ ∃ p ∈ ps, p.accepts x = true := by
  rcases ps with _ | ⟨p, _ | ⟨q, qs⟩⟩
  · simp [disjunction]
  · simp [disjunction]
  · show (Predicate.any (p :: q :: qs)).accepts x = true ↔ _
    rw [accepts_any, List.any_eq_true]
    simp

/-! ### Induction on predicates -/

/-- What holds of the predicates without parts, and of every list's conjunction and disjunction as
    soon as it holds of all members, holds of every predicate. -/
@[elab_as_elim]
theorem induct {motive : Predicate ρ → Prop} (always : motive .always)
    (test : ∀ f t, motive (.test f t))
    (all : ∀ ps, (∀ p ∈ ps, motive p) → motive (.all ps))
    (any : ∀ ps, (∀ p ∈ ps, motive p) → motive (.any ps)) (p : Predicate ρ) : motive p :=
  @Predicate.rec ρ motive (fun ps => ∀ p ∈ ps, motive p) always test all any
    (fun _ h => absurd h List.not_mem_nil)
    (fun _ _ hp hps q hq => (List.mem_cons.1 hq).elim (fun e => e ▸ hp) (hps q)) p

/-! ### Fields -/

mutual

/-- The fields that a predicate looks at. -/
def fields : Predicate ρ → List (Field ρ)
  | always => []
  | test f _ => [f]
  | all ps => fieldsOf ps
  | any ps => fieldsOf ps

/-- The fields that the predicates of a list look at. -/
def fieldsOf : List (Predicate ρ) → List (Field ρ)
  | [] => []
  | p :: ps => fields p ++ fieldsOf ps

end

theorem fieldsOf_eq (ps : List (Predicate ρ)) : fieldsOf ps = ps.flatMap fields := by
  induction ps with
  | nil => rw [fieldsOf, List.flatMap_nil]
  | cons p ps ih => rw [fieldsOf, ih, List.flatMap_cons]

theorem mem_fieldsOf {ps : List (Predicate ρ)} {f : Field ρ} :
    f ∈ fieldsOf ps ↔ ∃ p ∈ ps, f ∈ p.fields := by
  rw [fieldsOf_eq, List.mem_flatMap]

/-- Records that read the same in every field of a predicate pass it or fail it together. -/
theorem accepts_congr {x y : ρ} (p : Predicate ρ) (h : ∀ f ∈ p.fields, f.read x = f.read y) :
    p.accepts x = p.accepts y := by
  induction p using Predicate.induct with
  | always => rw [accepts_always, accepts_always]
  | test f t =>
    have hf : f.read x = f.read y := h f (by simp [fields])
    rw [accepts_test, accepts_test, hf]
  | all ps ih =>
    have members : ∀ p ∈ ps, p.accepts x = p.accepts y := fun p hp =>
      ih p hp fun f hf => h f (by rw [fields, mem_fieldsOf]; exact ⟨p, hp, hf⟩)
    rw [accepts_all, accepts_all, Bool.eq_iff_iff, List.all_eq_true, List.all_eq_true]
    exact forall₂_congr fun p hp => by rw [members p hp]
  | any ps ih =>
    have members : ∀ p ∈ ps, p.accepts x = p.accepts y := fun p hp =>
      ih p hp fun f hf => h f (by rw [fields, mem_fieldsOf]; exact ⟨p, hp, hf⟩)
    rw [accepts_any, accepts_any, Bool.eq_iff_iff, List.any_eq_true, List.any_eq_true]
    exact exists_congr fun p => and_congr_right fun hp => by rw [members p hp]

/-- A conjunction looks at no other fields than its parts. -/
theorem fields_conjunction {ps : List (Predicate ρ)} {f : Field ρ}
    (h : f ∈ (conjunction ps).fields) : ∃ p ∈ ps, f ∈ p.fields := by
  have kept : ∀ p, p ∈ ps.filter (!·.isAlways) → p ∈ ps := fun p hp => (List.mem_filter.1 hp).1
  rw [conjunction] at h
  generalize ps.filter (!·.isAlways) = qs at h kept
  rcases qs with _ | ⟨p, _ | ⟨q, qs⟩⟩
  · simp [fields] at h
  · exact ⟨p, kept p (by simp), h⟩
  · obtain ⟨p', hp', hf⟩ := mem_fieldsOf.1 (by simpa only [fields] using h)
    exact ⟨p', kept p' hp', hf⟩

/-- A disjunction looks at no other fields than its parts. -/
theorem fields_disjunction {ps : List (Predicate ρ)} {f : Field ρ}
    (h : f ∈ (disjunction ps).fields) : ∃ p ∈ ps, f ∈ p.fields := by
  rcases ps with _ | ⟨p, _ | ⟨q, qs⟩⟩
  · simp [disjunction, fields] at h
  · exact ⟨p, by simp, h⟩
  · exact mem_fieldsOf.1 (by simpa only [disjunction, fields] using h)

end Predicate

end RecordSearch
