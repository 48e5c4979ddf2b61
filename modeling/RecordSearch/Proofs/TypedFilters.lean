import Mathlib.Logic.Relation
import RecordSearch.Proofs.Plan
import RecordSearch.Proofs.RequestFormat
import RecordSearch.Users.Sample

/-! Typed filters and criteria that mean the same.

    A bound of a request and the criterion on the creation date with the same text are read on two
    ways, one with the document and one with the schema; they refuse the same texts, and else impose
    the same condition. So do the other typed filters and their criteria. A request may therefore
    have its typed filters moved, one by one, among its criteria: every request on the way selects
    the same records, in the same order and the same window. -/

namespace RecordSearch

open Json

variable {ρ δ : Type}

/-! ### Bounds and their criteria -/

/-- The two bounds on the creation date. -/
inductive Bound where | lower | upper
  deriving DecidableEq, Repr

namespace Bound

/-- The name of a bound in a document. -/
def name : Bound → String
  | lower => "createdFrom"
  | upper => "createdTo"

/-- The operator of the criterion for a bound. -/
def operator : Bound → Operator
  | lower => .greaterThanOrEqual
  | upper => .lessThanOrEqual

/-- The side that a bound accepts. -/
def comparison : Bound → Comparison
  | lower => .atLeast
  | upper => .atMost

/-- The criterion for a bound with a text. -/
def criterion (b : Bound) (t : String) : Criterion := ⟨"createdAt", b.operator, some t⟩

theorem directive_name (b : Bound) : Request.directive b.name = none := by
  cases b <;> rfl

/-- The criterion for a bound compiles iff its text names a point in time. -/
theorem compile_criterion {schema : Schema ρ} {field : Field ρ}
    (resolves : schema.resolve "createdAt" = some field) (timestamp : field.type = .timestamp)
    (b : Bound) {t : String} (shown : Text.blank t = false) :
    (b.criterion t).compile schema =
      (Calendar.readTimestamp t).elim (.error (.notConvertible field.name t .timestamp))
        fun x => .ok (.test field (.compares b.comparison (.timestamp x))) := by
  have literal : field.literal? (some t) = (Calendar.readTimestamp t).map .timestamp := by
    rw [Field.literal?, timestamp, Option.filter_some_pos (by rw [shown]; rfl)]
    rfl
  have kind : b.operator.kind = .ordering b.comparison := by
    cases b <;> rfl
  rw [criterion, Criterion.compile, resolves]
  show (Criterion.testOn field ⟨"createdAt", b.operator, some t⟩).map (Predicate.test field) = _
  rw [Criterion.testOn]
  simp only [kind, timestamp, FieldType.isOrdered, if_true, Criterion.requireLiteral_eq, literal]
  rcases Calendar.readTimestamp t with _ | x
  · show Except.error (Degradation.notConvertible field.name t field.type) = _
    rw [timestamp]
    rfl
  · rfl

end Bound

/-- Between the conditions of typed filters, `f` has one more than `g`: the predicate `p`. -/
def Contributes (typed : δ → List (Predicate ρ)) (f g : δ) (p : Predicate ρ) : Prop :=
  ∃ before after, typed f = before ++ p :: after ∧ typed g = before ++ after

/-- How the bounds of typed filters are read and set. -/
structure Bounds (δ : Type) where
  get : Bound → δ → Option Instant
  set : Bound → Option Instant → δ → δ

namespace Bounds

variable {d : DomainFilters ρ δ} {B : Bounds δ} {schema : Schema ρ} {field : Field ρ}

/-- The bounds stand in documents under their names, and are bounds on a field. -/
structure KeptBy (B : Bounds δ) (d : DomainFilters ρ δ) (field : Field ρ) : Prop where
  judge : ∀ b : Bound, (d.codec isNothingOrEmpty).judge b.name = some (check decodeBound)
  build : ∀ (b : Bound) {before after : Members} {f : δ} {v : Json} {x : Option Instant},
    (d.codec isNothingOrEmpty).build (before ++ after) = .ok f →
      b.name ∉ (before ++ after).map Prod.fst → decodeBound v = .ok x →
        B.get b f = none ∧
          (d.codec isNothingOrEmpty).build (before ++ (b.name, v) :: after) = .ok (B.set b x f)
  set_get : ∀ b f, B.set b (B.get b f) f = f
  contributes : ∀ b f x, Contributes d.predicates (B.set b (some x) f) (B.set b none f)
    (.test field (.compares b.comparison (.timestamp x)))

/-- What becomes of a request `r` when the document also gives a text `t` for a bound, next to the
    criterion with that text. -/
structure Agrees (B : Bounds δ) (d : DomainFilters ρ δ) (schema : Schema ρ) (b : Bound) (t : String)
    (r : Request δ) (answer : Decoded (Request δ)) : Prop where
  /-- Without the text the bound is absent, and so it is with a blank text. -/
  without : B.get b r.domain = none
  blank : Text.blank t = true → answer = .ok r
  /-- Any other text is refused by both or by neither. -/
  refused : Text.blank t = false →
    ((∃ e, answer = .error e) ↔ ∃ e, (b.criterion t).compile schema = .error e)
  /-- If it is not refused, the bound is there, and it is the condition of the criterion. -/
  accepted : Text.blank t = false → ∀ r', answer = .ok r' → ∃ x p,
    r' = { r with domain := B.set b (some x) r.domain } ∧
      (b.criterion t).compile schema = .ok p ∧ Contributes d.predicates r'.domain r.domain p

/-- With a text for a bound, an otherwise valid request is what the text is read as. -/
theorem KeptBy.decodeRequest_insert (h : B.KeptBy d field) (b : Bound) (t : String)
    {before after : Members} {r : Request δ}
    (valid : d.decodeRequest (object (before ++ after)) = .ok r)
    (absent : b.name ∉ (before ++ after).map Prod.fst) :
    B.get b r.domain = none ∧
      d.decodeRequest (object (before ++ (b.name, .text t) :: after)) =
        (decodeBound (.text t)).map fun x => { r with domain := B.set b x r.domain } := by
  obtain ⟨-, -, typed⟩ := Request.decode_object_eq_ok_iff.1 valid
  have absentKept : b.name ∉ (Request.kept (before ++ after)).map Prod.fst :=
    fun here => absent ((List.filter_sublist.map Prod.fst).subset here)
  rw [Request.kept_append] at typed absentKept
  obtain ⟨-, built⟩ := Codec.decode_object_eq_ok_iff.1 typed
  have inserted : (d.codec isNothingOrEmpty).decode
      (object (Request.kept before ++ (b.name, .text t) :: Request.kept after)) =
        (decodeBound (.text t)).map fun x => B.set b x r.domain := by
    rw [Codec.decode_insert typed (h.judge b) absentKept, check]
    rcases hx : decodeBound (.text t) with e | x
    · rfl
    · exact (h.build b built absentKept hx).2
  refine ⟨(h.build b built absentKept (v := .null) rfl).1, ?_⟩
  rw [DomainFilters.decodeRequest, Request.decode_insert valid b.directive_name rfl, inserted]
  rcases decodeBound (.text t) with e | x
  · rfl
  · rfl

/-- The criterion for a bound that is read from a text is the condition of the bound. -/
theorem KeptBy.compile (h : B.KeptBy d field) (resolves : schema.resolve "createdAt" = some field)
    (timestamp : field.type = .timestamp) (b : Bound) {t : String} {x : Instant} (f : δ)
    (read : decodeBound (.text t) = .ok (some x)) :
    ∃ p, (b.criterion t).compile schema = .ok p ∧
      Contributes d.predicates (B.set b (some x) f) (B.set b none f) p := by
  obtain ⟨shown, hx⟩ := Calendar.decodeBound_text_eq_some_iff.1 read
  rw [b.compile_criterion resolves timestamp shown, hx]
  exact ⟨_, rfl, h.contributes b f x⟩

/-- A text given as a bound in an otherwise valid request agrees with the criterion that has the same
    text. -/
theorem KeptBy.agrees (h : B.KeptBy d field) (resolves : schema.resolve "createdAt" = some field)
    (timestamp : field.type = .timestamp) (b : Bound) (t : String) {before after : Members}
    {r : Request δ} (valid : d.decodeRequest (object (before ++ after)) = .ok r)
    (absent : b.name ∉ (before ++ after).map Prod.fst) :
    B.Agrees d schema b t r
      (d.decodeRequest (object (before ++ (b.name, .text t) :: after))) := by
  obtain ⟨without, answer⟩ := h.decodeRequest_insert b t valid absent
  have unbounded : B.set b none r.domain = r.domain := by
    rw [← without, h.set_get]
  rw [answer]
  refine ⟨without, ?blank, ?refused, ?accepted⟩
  case blank =>
    intro blank
    rw [Calendar.decodeBound_text, if_pos blank]
    show Except.ok { r with domain := B.set b none r.domain } = _
    rw [unbounded]
  case refused =>
    intro shown
    rw [b.compile_criterion resolves timestamp shown, Calendar.decodeBound_text, shown]
    rcases Calendar.readTimestamp t with _ | x
    · exact ⟨fun _ => ⟨_, rfl⟩, fun _ => ⟨_, rfl⟩⟩
    · simp [Except.map]
  case accepted =>
    intro shown r' hr'
    obtain ⟨y, hy, rfl⟩ := exceptMap_eq_ok_iff.1 hr'
    rcases y with _ | x
    · rw [Calendar.decodeBound_text, shown] at hy
      rcases hx : Calendar.readTimestamp t with _ | x <;> rw [hx] at hy <;> cases hy
    · obtain ⟨p, compiles, contributes⟩ := h.compile resolves timestamp b r.domain hy
      rw [unbounded] at contributes
      exact ⟨x, p, rfl, compiles, contributes⟩

end Bounds

/-! ### Users and contacts -/

/-- The bounds of typed filters on users. -/
def UserFilters.bounds : Bounds UserFilters where
  get
    | .lower, f => f.createdFrom
    | .upper, f => f.createdTo
  set
    | .lower, x, f => { f with createdFrom := x }
    | .upper, x, f => { f with createdTo := x }

/-- The bounds of typed filters on contacts. -/
def ContactFilters.bounds : Bounds ContactFilters where
  get
    | .lower, f => f.createdFrom
    | .upper, f => f.createdTo
  set
    | .lower, x, f => { f with createdFrom := x }
    | .upper, x, f => { f with createdTo := x }

/-- A bound that is put among members is there, and was not there before; nothing else changes. -/
structure Inserted (b : Bound) (x : Option Instant) (ms ns : Members) : Prop where
  absent : fieldOr ms b.name decodeBound none = .ok none
  present : fieldOr ns b.name decodeBound none = .ok x
  others : ∀ {α : Type} (decode : Json → Decoded α) (otherwise : α) {k : String}, k ≠ b.name →
    fieldOr ns k decode otherwise = fieldOr ms k decode otherwise

theorem inserted_insert {b : Bound} {before after : Members} {v : Json} {x : Option Instant}
    (absent : b.name ∉ (before ++ after).map Prod.fst) (read : decodeBound v = .ok x) :
    Inserted b x (before ++ after) (before ++ (b.name, v) :: after) := by
  have absentBefore : b.name ∉ before.map Prod.fst := by
    rw [List.map_append, List.mem_append, not_or] at absent
    exact absent.1
  refine ⟨fieldOr_of_not_mem _ _ absent, ?_, fun _ _ _ other => fieldOr_insert_of_ne _ _ other⟩
  rw [fieldOr_insert_self _ _ absentBefore, read]

theorem UserFilters.build_inserted (nothing : Json → Bool) {b : Bound} {ms ns : Members}
    {f : UserFilters} {x : Option Instant} (built : (codec nothing).build ms = .ok f)
    (inserted : Inserted b x ms ns) :
    bounds.get b f = none ∧ (codec nothing).build ns = .ok (bounds.set b x f) := by
  obtain ⟨gender, isEmailVerified, createdFrom, createdTo⟩ := build_eq_ok_iff.1 built
  obtain ⟨absent, present, others⟩ := inserted
  cases b with
  | lower =>
    refine ⟨Except.ok.inj (createdFrom.symm.trans absent), build_eq_ok_iff.2 ⟨?_, ?_, present, ?_⟩⟩
    · exact (others _ _ (by decide)).trans gender
    · exact (others _ _ (by decide)).trans isEmailVerified
    · exact (others _ _ (by decide)).trans createdTo
  | upper =>
    refine ⟨Except.ok.inj (createdTo.symm.trans absent), build_eq_ok_iff.2 ⟨?_, ?_, ?_, present⟩⟩
    · exact (others _ _ (by decide)).trans gender
    · exact (others _ _ (by decide)).trans isEmailVerified
    · exact (others _ _ (by decide)).trans createdFrom

theorem ContactFilters.build_inserted (nothing : Json → Bool) {b : Bound} {ms ns : Members}
    {f : ContactFilters} {x : Option Instant} (built : (codec nothing).build ms = .ok f)
    (inserted : Inserted b x ms ns) :
    bounds.get b f = none ∧ (codec nothing).build ns = .ok (bounds.set b x f) := by
  obtain ⟨createdFrom, createdTo⟩ := build_eq_ok_iff.1 built
  obtain ⟨absent, present, others⟩ := inserted
  cases b with
  | lower =>
    refine ⟨Except.ok.inj (createdFrom.symm.trans absent), build_eq_ok_iff.2 ⟨present, ?_⟩⟩
    exact (others _ _ (by decide)).trans createdTo
  | upper =>
    refine ⟨Except.ok.inj (createdTo.symm.trans absent), build_eq_ok_iff.2 ⟨?_, present⟩⟩
    exact (others _ _ (by decide)).trans createdFrom

/-- Each of two bounds is one condition on the field. -/
theorem Contributes.lower {typed : δ → List (Predicate ρ)} {f g : δ}
    (conditions : List (Predicate ρ)) (field : Field ρ) (x : Instant) (other : Option Instant)
    (hf : typed f = conditions ++ DomainFilters.between field (some x) other)
    (hg : typed g = conditions ++ DomainFilters.between field none other) :
    Contributes typed f g (.test field (.compares .atLeast (.timestamp x))) :=
  ⟨conditions, _, hf, hg⟩

theorem Contributes.upper {typed : δ → List (Predicate ρ)} {f g : δ}
    (conditions : List (Predicate ρ)) (field : Field ρ) (x : Instant) (other : Option Instant)
    (hf : typed f = conditions ++ DomainFilters.between field other (some x))
    (hg : typed g = conditions ++ DomainFilters.between field other none) :
    Contributes typed f g (.test field (.compares .atMost (.timestamp x))) := by
  refine ⟨conditions ++ DomainFilters.between field other none, [], ?_, ?_⟩
  · rw [hf]
    simp [DomainFilters.between]
  · rw [hg, List.append_nil]

theorem UserFilters.keptBy : bounds.KeptBy domain User.createdAtField := by
  refine ⟨?judge, ?build, ?set_get, ?contributes⟩
  case judge => rintro (_ | _) <;> rfl
  case build => exact fun b _ _ _ _ _ built absent read =>
    build_inserted isNothingOrEmpty built (inserted_insert absent read)
  case set_get => rintro (_ | _) f <;> rfl
  case contributes =>
    rintro (_ | _) f x
    · exact .lower _ _ _ _ rfl rfl
    · exact .upper _ _ _ _ rfl rfl

theorem ContactFilters.keptBy : bounds.KeptBy domain Contact.createdAtField := by
  refine ⟨?judge, ?build, ?set_get, ?contributes⟩
  case judge => rintro (_ | _) <;> rfl
  case build => exact fun b _ _ _ _ _ built absent read =>
    build_inserted isNothingOrEmpty built (inserted_insert absent read)
  case set_get => rintro (_ | _) f <;> rfl
  case contributes =>
    rintro (_ | _) f x
    · exact .lower [] _ _ _ rfl rfl
    · exact .upper [] _ _ _ rfl rfl

/-- The criterion for a gender. -/
def Gender.criterion (g : Gender) : Criterion := ⟨"gender", .equals, some g.tag⟩

/-- The criterion for a confirmed or unconfirmed mail address. -/
def verifiedCriterion (b : Bool) : Criterion :=
  ⟨"isEmailVerified", .equals, some (if b then "true" else "false")⟩

theorem Gender.compile_criterion (g : Gender) :
    g.criterion.compile User.shape.schema =
      .ok (.test User.genderField (.equals (.tag g.index))) := by
  cases g <;> rfl

theorem compile_verifiedCriterion (b : Bool) :
    (verifiedCriterion b).compile User.shape.schema =
      .ok (.test User.isEmailVerifiedField (.equals (.bool b))) := by
  cases b <;> rfl

/-- Gender and mail address of typed filters are the conditions of their criteria. -/
theorem UserFilters.map_predicates (f : UserFilters) :
    f.predicates.map .ok =
      ((f.gender.map Gender.criterion).toList ++
          (f.isEmailVerified.map verifiedCriterion).toList).map (·.compile User.shape.schema) ++
        (DomainFilters.between User.createdAtField f.createdFrom f.createdTo).map .ok := by
  obtain ⟨gender, isEmailVerified, createdFrom, createdTo⟩ := f
  rw [predicates, List.map_append, List.map_append, List.map_append]
  rcases gender with _ | g <;> rcases isEmailVerified with _ | b
  · rfl
  · simp [compile_verifiedCriterion]
  · simp [Gender.compile_criterion]
  · simp [compile_verifiedCriterion, Gender.compile_criterion]

/-! ### Moving typed filters among the criteria -/

/-- One typed filter on users goes, and a criterion comes for it. -/
inductive UserFilters.Moves : UserFilters → UserFilters → Criterion → Prop
  | gender (f : UserFilters) (g : Gender) :
      Moves { f with gender := some g } { f with gender := none } g.criterion
  | isEmailVerified (f : UserFilters) (b : Bool) :
      Moves { f with isEmailVerified := some b } { f with isEmailVerified := none }
        (verifiedCriterion b)
  | bound (f : UserFilters) (b : Bound) {t : String} {x : Instant}
      (read : decodeBound (.text t) = .ok (some x)) :
      Moves (bounds.set b (some x) f) (bounds.set b none f) (b.criterion t)

/-- One typed filter on contacts goes, and a criterion comes for it. -/
inductive ContactFilters.Moves : ContactFilters → ContactFilters → Criterion → Prop
  | bound (f : ContactFilters) (b : Bound) {t : String} {x : Instant}
      (read : decodeBound (.text t) = .ok (some x)) :
      Moves (bounds.set b (some x) f) (bounds.set b none f) (b.criterion t)

/-- One typed filter of a request goes, and the criterion for it comes anywhere among the others. -/
inductive Request.Moves (moves : δ → δ → Criterion → Prop) : Request δ → Request δ → Prop
  | move (r : Request δ) {g : δ} {c : Criterion} {before after : List Criterion}
      (filters : r.filters = before ++ after) (h : moves r.domain g c) :
      Moves moves r { r with domain := g, filters := before ++ c :: after }

theorem UserFilters.Moves.contributes {f g : UserFilters} {c : Criterion} (h : Moves f g c) :
    ∃ p, c.compile User.shape.schema = .ok p ∧ Contributes predicates f g p := by
  cases h with
  | gender f g => exact ⟨_, g.compile_criterion, [], _, rfl, rfl⟩
  | isEmailVerified f b =>
    refine ⟨_, compile_verifiedCriterion b,
      (f.gender.map fun g => .test User.genderField (.equals (.tag g.index))).toList,
      DomainFilters.between User.createdAtField f.createdFrom f.createdTo, ?_, ?_⟩
    · simp [predicates]
    · simp [predicates]
  | bound f b read => exact keptBy.compile rfl rfl b f read

theorem ContactFilters.Moves.contributes {f g : ContactFilters} {c : Criterion} (h : Moves f g c) :
    ∃ p, c.compile Contact.shape.schema = .ok p ∧ Contributes predicates f g p := by
  cases h with
  | bound f b read => exact keptBy.compile rfl rfl b f read

/-- A move keeps what the plan selects. -/
theorem Request.Moves.alike {shape : Shape ρ} {typed : δ → List (Predicate ρ)}
    {moves : δ → δ → Criterion → Prop}
    (contributes : ∀ f g c, moves f g c →
      ∃ p, c.compile shape.schema = .ok p ∧ Contributes typed f g p)
    (pager : Pager) {r s : Request δ} (h : Moves moves r s) :
    (planRequest pager shape typed s).value.Alike (planRequest pager shape typed r).value := by
  cases h with
  | @move g c before after filters h =>
    obtain ⟨p, compiles, left, right, hf, hg⟩ := contributes _ _ _ h
    rw [planRequest_eq, planRequest_eq]
    refine ⟨fun x => ?_, rfl, rfl⟩
    have criteria : (before ++ c :: after).filterMap (fun c => (c.compile shape.schema).toOption) =
        before.filterMap (fun c => (c.compile shape.schema).toOption) ++
          p :: after.filterMap fun c => (c.compile shape.schema).toOption := by
      rw [List.filterMap_append, List.filterMap_cons, exceptToOption_eq_some_iff.2 compiles]
    -- the condition is counted once, among the typed filters or among the criteria
    simp only [Predicate.accepts_conjunction, value_compileAll, List.cons_append, List.all_cons,
      List.all_append, List.all_nil, Bool.and_true, hf, hg, filters, criteria, List.filterMap_append]
    simp only [Bool.and_assoc, Bool.and_left_comm]

/-- Any number of moves keeps what the plan selects. -/
theorem Request.Moves.alike_of_reflTransGen {shape : Shape ρ} {typed : δ → List (Predicate ρ)}
    {moves : δ → δ → Criterion → Prop}
    (contributes : ∀ f g c, moves f g c →
      ∃ p, c.compile shape.schema = .ok p ∧ Contributes typed f g p)
    (pager : Pager) {r s : Request δ} (h : Relation.ReflTransGen (Moves moves) r s) :
    (planRequest pager shape typed s).value.Alike (planRequest pager shape typed r).value := by
  induction h with
  | refl => exact .refl _
  | tail _ last ih => exact (last.alike contributes pager).trans ih

/-- Typed filters agree with criteria: bounds are refused together with the criteria of the same
    text, and else impose the same; so do gender and mail address; and any of the typed filters may
    be moved among the criteria without a change of the answer. -/
theorem typed_filters_agree :
    (∀ (b : Bound) (t : String) (before after : Members) (r : Request UserFilters),
      UserFilters.domain.decodeRequest (object (before ++ after)) = .ok r →
      b.name ∉ (before ++ after).map Prod.fst →
        UserFilters.bounds.Agrees UserFilters.domain User.shape.schema b t r
          (UserFilters.domain.decodeRequest (object (before ++ (b.name, .text t) :: after)))) ∧
    (∀ (b : Bound) (t : String) (before after : Members) (r : Request ContactFilters),
      ContactFilters.domain.decodeRequest (object (before ++ after)) = .ok r →
      b.name ∉ (before ++ after).map Prod.fst →
        ContactFilters.bounds.Agrees ContactFilters.domain Contact.shape.schema b t r
          (ContactFilters.domain.decodeRequest (object (before ++ (b.name, .text t) :: after)))) ∧
    (∀ f : UserFilters, f.predicates.map .ok =
      ((f.gender.map Gender.criterion).toList ++
          (f.isEmailVerified.map verifiedCriterion).toList).map (·.compile User.shape.schema) ++
        (DomainFilters.between User.createdAtField f.createdFrom f.createdTo).map .ok) ∧
    (∀ (pager : Pager) (r s : Request UserFilters),
      Relation.ReflTransGen (Request.Moves UserFilters.Moves) r s →
        SameAnswers pager User.shape UserFilters.predicates r s) ∧
    ∀ (pager : Pager) (r s : Request ContactFilters),
      Relation.ReflTransGen (Request.Moves ContactFilters.Moves) r s →
        SameAnswers pager Contact.shape ContactFilters.predicates r s := by
  refine ⟨?_, ?_, UserFilters.map_predicates, ?_, ?_⟩
  · intro b t before after r valid absent
    exact UserFilters.keptBy.agrees rfl rfl b t valid absent
  · intro b t before after r valid absent
    exact ContactFilters.keptBy.agrees rfl rfl b t valid absent
  · intro pager r s moved
    exact .of_alike (Request.Moves.alike_of_reflTransGen
      (fun _ _ _ h => UserFilters.Moves.contributes h) pager moved)
  · intro pager r s moved
    exact .of_alike (Request.Moves.alike_of_reflTransGen
      (fun _ _ _ h => ContactFilters.Moves.contributes h) pager moved)

/-- A bound without an offset beside a gender; and a request whose gender and lower bound have both
    been moved, over a list and over a source that counts but cannot fetch. -/
theorem typed_filters_agree_sampleUsers :
    let members : Members := [("gender", .text "Female")]
    let female : Request UserFilters := { domain := { gender := some .female } }
    let r : Request UserFilters :=
      { filters := [⟨"id", .lessThan, some "10"⟩],
        domain := { gender := some .female, createdFrom := some sampleLeapSecond } }
    let s : Request UserFilters :=
      { filters :=
          [Bound.lower.criterion (Calendar.instantText sampleLeapSecond),
            ⟨"id", .lessThan, some "10"⟩, Gender.female.criterion]
        domain := {} }
    let broken : Source (Except String) User := ⟨fun _ => .ok 3, fun _ => .error "no disk"⟩
    let _ : MonadNotes (Except String) := ⟨fun _ => .ok ()⟩
    UserFilters.domain.decodeRequest (object (members ++ [])) = .ok female ∧
      UserFilters.bounds.Agrees UserFilters.domain User.shape.schema .upper "2024-01-07 00:00" female
        (UserFilters.domain.decodeRequest
          (object (members ++ [("createdTo", .text "2024-01-07 00:00")]))) ∧
      (search .standard User.shape UserFilters.predicates (Source.ofList sampleUsers) s
          User.response : Attempt _).value =
        (search .standard User.shape UserFilters.predicates (Source.ofList sampleUsers) r
          User.response : Attempt _).value ∧
      broken.Extensional ∧
      search .standard User.shape UserFilters.predicates broken s User.response =
        search .standard User.shape UserFilters.predicates broken r User.response := by
  intro members female r s broken _
  have valid : UserFilters.domain.decodeRequest (object (members ++ [])) = .ok female := rfl
  have read : decodeBound (.text (Calendar.instantText sampleLeapSecond)) =
      .ok (some sampleLeapSecond) := Calendar.decodeBound_ofInstant (by decide)
  have first : Request.Moves UserFilters.Moves r
      { filters := [⟨"id", .lessThan, some "10"⟩] ++ [Gender.female.criterion],
        domain := { createdFrom := some sampleLeapSecond } } :=
    .move r rfl (.gender r.domain .female)
  have second : Request.Moves UserFilters.Moves
      { filters := [⟨"id", .lessThan, some "10"⟩] ++ [Gender.female.criterion],
        domain := { createdFrom := some sampleLeapSecond } } s :=
    .move _ (List.nil_append _).symm (.bound {} .lower read)
  have moved : Relation.ReflTransGen (Request.Moves UserFilters.Moves) r s :=
    .tail (.single first) second
  have extensional : broken.Extensional := ⟨fun _ _ _ => rfl, fun _ _ _ => rfl⟩
  obtain ⟨bounds, -, -, answers, -⟩ := typed_filters_agree
  obtain ⟨list, source⟩ := answers .standard r s moved
  exact ⟨valid, bounds .upper _ members [] female valid (by decide), list sampleUsers User.response,
    extensional, source (fun _ => rfl) broken extensional User.response⟩

end RecordSearch
