import RecordSearch.Proofs.Typing
import RecordSearch.Users.Sample

/-! The algebra of the operators.

    What the operators say of one field of one record, for one value, hangs together: an operator
    and its negation compile together and then say the opposite of a value that is there; null is
    only found by the tests for null; and the ordering operators are the three outcomes of one
    comparison, of which equality is one.

        outcome     <    =    >    no order
        less        x
        atMost      x    x
        equals           x
        atLeast          x    x
        greater               x -/

namespace RecordSearch

variable {ρ : Type}

/-! ### Equality is one outcome of the comparison -/

/-- Two points in time are the same iff neither is earlier. -/
theorem Instant.compare_eq_eq_iff {a b : Instant} : a.compare b = .eq ↔ a = b := by
  rw [Instant.compare, Ordering.then_eq_eq, Std.compare_eq_iff_eq, Std.compare_eq_iff_eq]
  constructor
  · rintro ⟨hs, hn⟩
    cases a
    cases b
    simp only at hs hn
    subst hs hn
    rfl
  · rintro rfl
    exact ⟨rfl, rfl⟩

/-- Against a literal of a kind with an order, equality is the outcome that neither comes first. -/
theorem Literal.same_eq_compare? {a l : Literal} (ordered : l.kind.ordered = true) :
    a.same l = (a.compare? l == some .eq) := by
  cases l with
  | number y => cases a <;> rfl
  | timestamp t =>
    cases a with
    | timestamp s =>
      rw [same, compare?, Bool.eq_iff_iff, beq_iff_eq, beq_iff_eq, Option.some.injEq]
      exact Instant.compare_eq_eq_iff.symm
    | text _ => rfl
    | number _ => rfl
    | bool _ => rfl
    | tag _ => rfl
  | text _ => exact absurd ordered Bool.false_ne_true
  | bool _ => exact absurd ordered Bool.false_ne_true
  | tag _ => exact absurd ordered Bool.false_ne_true

/-- Integers, decimals and points in time are always in some order. -/
theorem Literal.isSome_compare? {a l : Literal} (same : a.kind = l.kind)
    (total : l.kind = .int ∨ l.kind = .decimal ∨ l.kind = .timestamp) :
    (a.compare? l).isSome = true := by
  have ordered : l.kind.ordered = true := by rcases total with h | h | h <;> rw [h] <;> rfl
  have notFloat : l.kind ≠ .float := by rcases total with h | h | h <;> rw [h] <;> decide
  -- only floating point numbers can fail to be numbers
  have number : ∀ b : Literal, b.kind ≠ .float → b.isNaN = false := by
    rintro (_ | (_ | x | _) | _ | _ | _) hb
    · rfl
    · rfl
    · exact absurd rfl hb
    all_goals rfl
  rw [Option.isSome_iff_ne_none, Ne, compare?_eq_none_iff same ordered, number l notFloat,
    number a (same ▸ notFloat)]
  simp

/-! ### What an operator says -/

/-- What the criterion with an operator says of a record; nothing if it does not compile. -/
def Schema.verdict (s : Schema ρ) (name : String) (value : Option String) (x : ρ)
    (op : Operator) : Option Bool :=
  (Criterion.compile s ⟨name, op, value⟩).toOption.map (·.accepts x)

/-- How the value of a record compares with the literal that is asked for; nothing if there is no
    such literal. -/
def Field.outcome (f : Field ρ) (value : Option String) (x : ρ) : Option (Option Ordering) :=
  (f.literal? value).map (f.read x).compare?

section

variable {s : Schema ρ} {name : String} {f : Field ρ} (hf : s.resolve name = some f)
  (value : Option String) (x : ρ) (op : Operator)

include hf

/-- The verdict is the one of the test on the field. -/
theorem Schema.verdict_eq : s.verdict name value x op =
    (Criterion.testOn f ⟨name, op, value⟩).toOption.map (·.accepts (f.read x)) := by
  rw [verdict, Criterion.compile, hf]
  simp only [exceptToOption_map, Option.map_map]
  simp only [Function.comp_def, Predicate.accepts_test]

theorem Schema.verdict_nullness {negate : Bool} (h : op.kind = .nullness negate) :
    s.verdict name value x op = some ((f.read x).isNull != negate) := by
  rw [verdict_eq hf, Criterion.testOn]
  simp only [h]
  rfl

theorem Schema.verdict_equality {negate : Bool} (h : op.kind = .equality negate) :
    s.verdict name value x op = (f.literal? value).map fun l =>
      !(f.read x).isNull && ((f.read x).equals l != negate) := by
  rw [verdict_eq hf, Criterion.testOn]
  cases negate with
  | false =>
    simp only [h, exceptToOption_map, Criterion.requireLiteral_eq, exceptToOption_elim,
      Option.map_map, Bool.bne_false]
    rfl
  | true =>
    simp only [h, exceptToOption_map, Criterion.requireLiteral_eq, exceptToOption_elim,
      Option.map_map, Bool.bne_true]
    rfl

theorem Schema.verdict_text {position : Position} {negate : Bool}
    (h : op.kind = .text position negate) :
    s.verdict name value x op = if f.type.isText then
      (value.filter (!Text.blank ·)).map fun v =>
        (Test.ofNeedle position v negate).accepts (f.read x)
      else none := by
  rw [verdict_eq hf, Criterion.testOn]
  simp only [h]
  by_cases ht : f.type.isText = true
  · simp only [ht, if_true, exceptToOption_map, Criterion.requireText_eq, exceptToOption_elim,
      Option.map_map]
    rfl
  · simp only [ht]
    rfl

theorem Schema.verdict_ordering {c : Comparison} (h : op.kind = .ordering c) :
    s.verdict name value x op = if f.type.isOrdered then
      (f.outcome value x).map (·.any c.accepts)
      else none := by
  rw [verdict_eq hf, Criterion.testOn, Field.outcome]
  simp only [h]
  by_cases ho : f.type.isOrdered = true
  · simp only [ho, if_true, exceptToOption_map, Criterion.requireLiteral_eq, exceptToOption_elim,
      Option.map_map]
    congr 1
    funext l
    show (Test.compares c l).accepts (f.read x) = ((f.read x).compare? l).any c.accepts
    rw [Test.accepts]
    rcases (f.read x).compare? l with _ | o
    · rfl
    · rfl
  · simp only [ho]
    rfl

theorem Schema.verdict_membership {negate : Bool} (h : op.kind = .membership negate) :
    s.verdict name value x op = (f.literals? value).map fun ls =>
      !(f.read x).isNull && (ls.any ((f.read x).equals ·) != negate) := by
  rw [verdict_eq hf, Criterion.testOn]
  simp only [h, exceptToOption_map, Criterion.requireLiterals_eq, exceptToOption_elim,
    Option.map_map]
  rfl

end

/-! ### The algebra -/

/-- How the verdicts of the operators on one value of one field hang together. -/
structure Operator.Coherent (type : FieldType) (v : Value) (finds : Operator → Option Bool) :
    Prop where
  /-- Operators of one kind compile together. -/
  equality : (finds .equals).isSome = (finds .notEquals).isSome
  containment : (finds .contains).isSome = (finds .notContains).isSome
  membership : (finds .isIn).isSome = (finds .notIn).isSome
  ordering : type.isOrdered = true →
    ∀ op ∈ [greaterThan, greaterThanOrEqual, lessThan, lessThanOrEqual],
      (finds op).isSome = (finds .equals).isSome
  /-- Only the tests for null find null. -/
  null : v = .null → ∀ op, op ≠ isNull → op ≠ isNotNull → finds op ≠ some true
  isNull : finds .isNull = some v.isNull
  isNotNull : finds .isNotNull = some !v.isNull
  /-- Of a value that is there, an operator and its negation say the opposite. -/
  notEquals : v ≠ .null → finds .notEquals = (finds .equals).map not
  notContains : v ≠ .null → finds .notContains = (finds .contains).map not
  notIn : v ≠ .null → finds .notIn = (finds .isIn).map not
  /-- The ordering operators are outcomes of one comparison. -/
  greaterThanOrEqual : type.isOrdered = true →
    (finds .greaterThanOrEqual = some true ↔
      finds .greaterThan = some true ∨ finds .equals = some true)
  lessThanOrEqual : type.isOrdered = true →
    (finds .lessThanOrEqual = some true ↔
      finds .lessThan = some true ∨ finds .equals = some true)
  exclusive : type.isOrdered = true →
    ¬(finds .lessThan = some true ∧ finds .equals = some true) ∧
      ¬(finds .lessThan = some true ∧ finds .greaterThan = some true) ∧
      ¬(finds .equals = some true ∧ finds .greaterThan = some true)
  trichotomy : v ≠ .null → type ∈ [.int32, .int64, .decimal, .timestamp] →
    (finds .equals).isSome = true →
      finds .lessThan = some true ∨ finds .equals = some true ∨ finds .greaterThan = some true

section

variable {s : Schema ρ} {name : String} {f : Field ρ} (hf : s.resolve name = some f)
  (value : Option String) {x : ρ}

include hf

/-- On a field with an order, equality is the outcome that neither comes first. -/
theorem Schema.verdict_equals_of_ordered (x : ρ) (ordered : f.type.isOrdered = true) :
    s.verdict name value x .equals = (f.outcome value x).map (· == some .eq) := by
  rw [verdict_equality hf value x _ rfl, Field.outcome, Option.map_map]
  refine Option.map_congr fun l hl => ?_
  obtain ⟨w, -, hw⟩ := Option.bind_eq_some_iff.1 hl
  have kind : l.kind.ordered = true := by
    rw [(fits_of_coerce hw).kind_eq, ← FieldType.isOrdered_eq]
    exact ordered
  rcases f.read x with _ | a
  · rfl
  · show (true && (a.same l != false)) = (a.compare? l == some .eq)
    rw [Bool.true_and, Bool.bne_false, Literal.same_eq_compare? kind]

/-- Values of a type with a total order are in some order to every literal of the type. -/
theorem Schema.outcome_ne_of_total (conforms : s.Conforms x) (present : f.read x ≠ .null)
    (total : f.type ∈ [.int32, .int64, .decimal, .timestamp]) : f.outcome value x ≠ some none := by
  intro incomparable
  obtain ⟨l, hl, hnone⟩ := Option.map_eq_some_iff.1 incomparable
  obtain ⟨w, -, hw⟩ := Option.bind_eq_some_iff.1 hl
  have kind : l.kind = f.type.kind := (fits_of_coerce hw).kind_eq
  have has : (f.read x).Has f.type.kind := conforms f (s.mem_of_resolve hf)
  rcases hv : f.read x with _ | a
  · exact absurd hv present
  · rw [hv] at has hnone
    have some : (a.compare? l).isSome = true := by
      refine Literal.isSome_compare? (has.trans kind.symm) ?_
      rw [kind]
      simp only [List.mem_cons, List.not_mem_nil, or_false] at total
      rcases total with h | h | h | h <;> rw [h] <;> simp [FieldType.kind]
    rw [show a.compare? l = none from hnone] at some
    exact absurd some (by simp)

/-- No test but the one for null finds null. -/
theorem Schema.verdict_ne_of_null (null : f.read x = .null) {op : Operator}
    (isNull : op ≠ .isNull) (isNotNull : op ≠ .isNotNull) :
    s.verdict name value x op ≠ some true := by
  intro found
  rcases hk : op.kind with negate | ⟨position, negate⟩ | c | negate | negate
  · rw [verdict_equality hf value x op hk, null] at found
    obtain ⟨l, -, hl⟩ := Option.map_eq_some_iff.1 found
    exact Bool.false_ne_true hl
  · rw [verdict_text hf value x op hk, null] at found
    split at found
    · obtain ⟨w, -, hw⟩ := Option.map_eq_some_iff.1 found
      exact Bool.false_ne_true hw
    · exact absurd found (by simp)
  · rw [verdict_ordering hf value x op hk, Field.outcome, null, Option.map_map] at found
    split at found
    · obtain ⟨l, -, hl⟩ := Option.map_eq_some_iff.1 found
      exact Bool.false_ne_true hl
    · exact absurd found (by simp)
  · rw [verdict_membership hf value x op hk, null] at found
    obtain ⟨ls, -, hls⟩ := Option.map_eq_some_iff.1 found
    exact Bool.false_ne_true hls
  · cases op <;> simp [Operator.kind] at hk
    · exact isNull rfl
    · exact isNotNull rfl

/-- Of a text that is there, a text operator and its negation say the opposite. -/
theorem Schema.verdict_notContains (conforms : s.Conforms x) (present : f.read x ≠ .null) :
    s.verdict name value x .notContains = (s.verdict name value x .contains).map not := by
  rw [verdict_text hf value x .notContains rfl,
    verdict_text hf value x .contains rfl]
  by_cases ht : f.type.isText = true
  · -- a value of a text field that is not null is a text
    have has : (f.read x).Has f.type.kind := conforms f (s.mem_of_resolve hf)
    rw [FieldType.isText_iff.1 ht] at has
    rw [if_pos ht, if_pos ht, Option.map_map]
    congr 1
    funext w
    rcases hv : f.read x with _ | (_ | (_ | _ | _) | _ | _ | _)
    · exact absurd hv present
    · simp [Test.ofNeedle, Test.accepts, Value.text?]
    all_goals rw [hv] at has; exact absurd has (by simp [Value.Has, Literal.kind, FieldType.kind])
  · rw [if_neg ht, if_neg ht]
    rfl

/-- The verdicts of the operators on a field of a record hang together, whatever the value asked
    for, as long as the record holds null or values of the declared kinds. -/
theorem Schema.coherent_verdict (conforms : s.Conforms x) :
    Operator.Coherent f.type (f.read x) (s.verdict name value x) := by
  have equals := verdict_equality hf value x .equals rfl
  have notEquals := verdict_equality hf value x .notEquals rfl
  have isIn := verdict_membership hf value x .isIn rfl
  have notIn := verdict_membership hf value x .notIn rfl
  have shown : f.read x ≠ .null → (f.read x).isNull = false := fun present => by
    rcases hv : f.read x with _ | a
    · exact absurd hv present
    · rfl
  -- on an ordered field every ordering operator, and equality, reads the same outcome
  have compared : f.type.isOrdered = true → ∀ (op : Operator) {c : Comparison},
      op.kind = .ordering c → s.verdict name value x op =
        (f.outcome value x).map (·.any c.accepts) :=
    fun ordered op c h => by rw [verdict_ordering hf value x op h, if_pos ordered]
  have same := verdict_equals_of_ordered hf value x
  refine ⟨?_, ?_, ?_, ?_, ?_, ?_, ?_, ?_, ?_, ?_, ?_, ?_, ?_, ?_⟩
  · rw [equals, notEquals, Option.isSome_map, Option.isSome_map]
  · rw [verdict_text hf value x .contains rfl,
      verdict_text hf value x .notContains rfl]
    split
    · rw [Option.isSome_map, Option.isSome_map]
    · rfl
  · rw [isIn, notIn, Option.isSome_map, Option.isSome_map]
  · intro ordered op hop
    rw [same ordered, Option.isSome_map]
    simp only [List.mem_cons, List.not_mem_nil, or_false] at hop
    rcases hop with rfl | rfl | rfl | rfl <;> rw [compared ordered _ rfl, Option.isSome_map]
  · exact fun null op isNull isNotNull => verdict_ne_of_null hf value null isNull isNotNull
  · rw [verdict_nullness hf value x .isNull rfl, Bool.bne_false]
  · rw [verdict_nullness hf value x .isNotNull rfl, Bool.bne_true]
  · intro present
    rw [equals, notEquals, Option.map_map, shown present]
    simp [Function.comp_def]
  · exact verdict_notContains hf value conforms
  · intro present
    rw [isIn, notIn, Option.map_map, shown present]
    simp [Function.comp_def]
  · intro ordered
    rw [compared ordered .greaterThanOrEqual rfl, compared ordered .greaterThan rfl,
      same ordered]
    rcases f.outcome value x with _ | _ | _ | _ | _ <;> decide
  · intro ordered
    rw [compared ordered .lessThanOrEqual rfl, compared ordered .lessThan rfl,
      same ordered]
    rcases f.outcome value x with _ | _ | _ | _ | _ <;> decide
  · intro ordered
    rw [compared ordered .lessThan rfl, compared ordered .greaterThan rfl,
      same ordered]
    rcases f.outcome value x with _ | _ | _ | _ | _ <;> decide
  · intro present total compiles
    have ordered : f.type.isOrdered = true := by
      simp only [List.mem_cons, List.not_mem_nil, or_false] at total
      rcases total with h | h | h | h <;> rw [h] <;> rfl
    have some := outcome_ne_of_total hf value conforms present total
    rw [compared ordered .lessThan rfl, compared ordered .greaterThan rfl,
      same ordered]
    rw [same ordered] at compiles
    revert some compiles
    rcases f.outcome value x with _ | _ | _ | _ | _ <;> decide

end

/-! ### Users -/

/-- A field that may hold nothing holds null or a value of its kind. -/
theorem Field.has_nullable {α : Type} {name : String} {type : FieldType} {wrap : α → Literal}
    (read : ρ → Option α) (h : ∀ a, (wrap a).kind = type.kind) (x : ρ) :
    ((Field.nullable name type wrap read).read x).Has type.kind := by
  show (Value.ofOption wrap (read x)).Has type.kind
  rcases read x with _ | a
  · trivial
  · exact h a

/-- Users hold null or values of the declared kinds. -/
theorem User.conforms (u : User) : shape.schema.Conforms u := by
  simp only [Schema.Conforms, shape, List.forall_mem_cons]
  refine ⟨rfl, rfl, rfl, rfl, rfl, ?phoneNumber, ?address, ?dateOfBirth, ?aboutMe, ?profilePicture,
    rfl, rfl, ?updatedAt, fun f hf => absurd hf List.not_mem_nil⟩
  case phoneNumber => exact Field.has_nullable _ (fun _ => rfl) u
  case address => exact Field.has_nullable _ (fun _ => rfl) u
  case dateOfBirth => exact Field.has_nullable _ (fun _ => rfl) u
  case aboutMe => exact Field.has_nullable _ (fun _ => rfl) u
  case profilePicture => exact Field.has_nullable _ (fun _ => rfl) u
  case updatedAt => exact Field.has_nullable _ (fun _ => rfl) u

/-- The day on which a sample user was created, against a bound without seconds. -/
theorem coherent_verdict_sampleUser :
    let u := (⟨"Vu Thu Ha", "ha.vu@gmail.com", .female, .user, none, none, false⟩ : UserSketch).user 6
    User.shape.schema.resolve "CREATEDAT" = some User.createdAtField ∧
      User.shape.schema.Conforms u ∧
      Operator.Coherent User.createdAtField.type (User.createdAtField.read u)
        (User.shape.schema.verdict "CREATEDAT" (some "2024-01-07 00:00") u) :=
  ⟨rfl, User.conforms _, Schema.coherent_verdict rfl _ (User.conforms _)⟩

end RecordSearch
