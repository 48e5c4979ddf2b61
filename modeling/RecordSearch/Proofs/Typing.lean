import Mathlib.Algebra.Ring.Int.Defs
import RecordSearch.Proofs.Compilation
import RecordSearch.Users.User

/-! Typing of compiled criteria.

    Every literal and every value has a kind, and numbers of different representations are of
    different kinds. A compiled test is typed by the field it is made on: its literals fit the
    declared type, and only types that have an order, or are text, get tests that need one. Over
    records whose values are null or of the declared kind, a typed test never holds two values of
    different kinds against each other. -/

namespace RecordSearch

/-! ### Kinds -/

/-- What values that can be compared with each other have in common. -/
inductive Kind where | text | int | float | decimal | bool | timestamp | tag
  deriving DecidableEq, Repr

/-- Numbers and points in time have an order that filters can use. -/
def Kind.ordered : Kind → Bool
  | int | float | decimal | timestamp => true
  | text | bool | tag => false

/-- The kind of a literal. -/
def Literal.kind : Literal → Kind
  | text _ => .text
  | number (.int _) => .int
  | number (.float _) => .float
  | number (.decimal _) => .decimal
  | bool _ => .bool
  | timestamp _ => .timestamp
  | tag _ => .tag

/-- The kind that a type declares. -/
def FieldType.kind : FieldType → Kind
  | text => .text
  | int32 | int64 => .int
  | float32 | float64 => .float
  | decimal => .decimal
  | bool => .bool
  | timestamp => .timestamp
  | tag _ => .tag

/-- Null, or a value of the kind. -/
def Value.Has (k : Kind) : Value → Prop
  | null => True
  | present l => l.kind = k

/-- Every field of the record holds nothing or a value of the declared kind. -/
def Schema.Conforms {ρ : Type} (s : Schema ρ) (x : ρ) : Prop :=
  ∀ f ∈ s.fields, (f.read x).Has f.type.kind

theorem FieldType.isText_iff {type : FieldType} : type.isText = true ↔ type = .text := by
  cases type <;> simp [isText]

theorem FieldType.isOrdered_eq (type : FieldType) : type.isOrdered = type.kind.ordered := by
  cases type <;> rfl

/-! ### Literals that fit a type -/

/-- A literal is of the kind that the type declares and within its bounds. -/
def Literal.Fits : FieldType → Literal → Prop
  | .text, text _ => True
  | .int32, number (.int n) => -2 ^ 31 ≤ n ∧ n < 2 ^ 31
  | .int64, number (.int n) => -2 ^ 63 ≤ n ∧ n < 2 ^ 63
  | .float32, number (.float _) => True
  | .float64, number (.float _) => True
  | .decimal, number (.decimal _) => True
  | .bool, bool _ => True
  | .timestamp, timestamp _ => True
  | .tag tags, tag i => i < tags.length
  | _, _ => False

theorem Literal.Fits.kind_eq {type : FieldType} {l : Literal} (h : l.Fits type) :
    l.kind = type.kind := by
  cases type <;> rcases l with _ | (_ | _ | _) | _ | _ | _ <;> first | rfl | exact absurd h id

/-- A tag is found at a place of the list. -/
theorem tagIndex_lt {tags : List String} {name : String} {i : Nat}
    (h : tagIndex tags name = some i) : i < tags.length := by
  rw [tagIndex] at h
  obtain ⟨hi, -⟩ := List.findIdx?_eq_some_iff_getElem.1 h
  exact hi

/-- Text that denotes a literal of a type denotes one that fits it. -/
theorem fits_of_coerce {text : String} {type : FieldType} {l : Literal}
    (h : coerce text type = some l) : l.Fits type := by
  cases type <;> simp only [coerce, Option.map_eq_some_iff, Option.some.injEq] at h
  case text =>
    subst h
    trivial
  case int32 =>
    obtain ⟨n, hn, rfl⟩ := h
    exact IntWidth.fits_iff.1 (IntWidth.fits_of_read? hn)
  case int64 =>
    obtain ⟨n, hn, rfl⟩ := h
    exact IntWidth.fits_iff.1 (IntWidth.fits_of_read? hn)
  case float32 =>
    obtain ⟨x, -, rfl⟩ := h
    trivial
  case float64 =>
    obtain ⟨x, -, rfl⟩ := h
    trivial
  case decimal =>
    obtain ⟨d, -, rfl⟩ := h
    trivial
  case bool =>
    obtain ⟨b, -, rfl⟩ := h
    trivial
  case timestamp =>
    obtain ⟨t, -, rfl⟩ := h
    trivial
  case tag tags =>
    obtain ⟨i, hi, rfl⟩ := h
    exact tagIndex_lt hi

/-! ### Typed tests -/

/-- A test is one that a criterion with the value `given` may make on a field of the type. -/
inductive Test.Typed (type : FieldType) (given : Option String) : Test → Prop
  | equals {l : Literal} (fits : l.Fits type) : Typed type given (.equals l)
  | differs {l : Literal} (fits : l.Fits type) : Typed type given (.differs l)
  | text {v : String} {position : Position} {negate : Bool} (isText : type = .text)
      (value : given = some v) : Typed type given (.text position (Text.lowercase v) negate)
  | compares {c : Comparison} {l : Literal} (ordered : type.kind.ordered = true)
      (fits : l.Fits type) : Typed type given (.compares c l)
  | oneOf {ls : List Literal} {negate : Bool} (some : ls ≠ []) (fits : ∀ l ∈ ls, l.Fits type) :
      Typed type given (.oneOf ls negate)
  | isNull {negate : Bool} : Typed type given (.isNull negate)

/-- A criterion makes typed tests only. -/
theorem Criterion.typed_of_testOn {ρ : Type} {field : Field ρ} {c : Criterion} {t : Test}
    (h : c.testOn field = .ok t) : t.Typed field.type c.value := by
  have literal : ∀ {l}, c.requireLiteral field = .ok l → l.Fits field.type := fun hl =>
    let ⟨_, _, hc⟩ := requireLiteral_eq_ok_iff.1 hl
    fits_of_coerce hc
  rw [testOn] at h
  rcases hk : c.operator.kind with negate | ⟨position, negate⟩ | comparison | negate | negate <;>
    simp only [hk] at h
  · cases negate with
    | false =>
      obtain ⟨l, hl, rfl⟩ := exceptMap_eq_ok_iff.1 h
      exact .equals (literal hl)
    | true =>
      obtain ⟨l, hl, rfl⟩ := exceptMap_eq_ok_iff.1 h
      exact .differs (literal hl)
  · by_cases ht : field.type.isText = true
    · rw [if_pos ht] at h
      obtain ⟨v, hv, rfl⟩ := exceptMap_eq_ok_iff.1 h
      have given := (text?_eq_some_iff.1 (requireText_eq_ok_iff.1 hv)).1
      exact .text (FieldType.isText_iff.1 ht) given
    · rw [if_neg ht] at h
      exact absurd h (by simp)
  · by_cases ho : field.type.isOrdered = true
    · rw [if_pos ho] at h
      obtain ⟨l, hl, rfl⟩ := exceptMap_eq_ok_iff.1 h
      exact .compares (field.type.isOrdered_eq ▸ ho) (literal hl)
    · rw [if_neg ho] at h
      exact absurd h (by simp)
  · obtain ⟨ls, hls, rfl⟩ := exceptMap_eq_ok_iff.1 h
    obtain ⟨v, -, rfl, hne⟩ := requireLiterals_eq_ok_iff.1 hls
    refine .oneOf hne fun l hl => ?_
    obtain ⟨s, -, hs⟩ := List.mem_filterMap.1 hl
    exact fits_of_coerce hs
  · obtain rfl := Except.ok.inj h
    exact .isNull

/-! ### Checked evaluation -/

/-- What a test says of a value, refused (`none`) where it would hold two values of different kinds
    against each other. -/
def Test.checked : Test → Value → Option Bool
  | isNull negate, v => some (v.isNull != negate)
  | _, .null => some false
  | equals l, .present a => if a.kind = l.kind then some (a.same l) else none
  | differs l, .present a => if a.kind = l.kind then some (!a.same l) else none
  | text position needle negate, .present (.text s) =>
    some (position.finds needle.toList (Text.lower s.toList) != negate)
  | text _ _ _, .present _ => none
  | compares c l, .present a =>
    if a.kind = l.kind then some ((a.compare? l).any c.accepts) else none
  | oneOf ls negate, .present a =>
    if ∀ l ∈ ls, a.kind = l.kind then some (ls.any a.same != negate) else none

/-- Checking only refuses: where it gives an answer, that is the answer of the test. -/
theorem Test.accepts_of_checked {t : Test} {v : Value} {b : Bool} (h : t.checked v = some b) :
    t.accepts v = b := by
  rcases v with _ | a
  · cases t <;> simpa [checked, accepts, Value.isNull, Value.text?, Value.compare?] using h
  · cases t with
    | equals l =>
      simp only [checked, Option.ite_none_right_eq_some, Option.some.injEq] at h
      exact h.2
    | differs l =>
      simp only [checked, Option.ite_none_right_eq_some, Option.some.injEq] at h
      exact h.2
    | text position needle negate =>
      cases a with
      | text s => exact Option.some.inj h
      | number n => exact absurd h (by simp [checked])
      | bool b => exact absurd h (by simp [checked])
      | timestamp t => exact absurd h (by simp [checked])
      | tag i => exact absurd h (by simp [checked])
    | compares c l =>
      simp only [checked, Option.ite_none_right_eq_some, Option.some.injEq] at h
      rw [← h.2, accepts, Value.compare?]
      rcases a.compare? l with _ | o
      · rfl
      · rfl
    | oneOf ls negate =>
      simp only [checked, Option.ite_none_right_eq_some, Option.some.injEq] at h
      exact h.2
    | isNull negate => exact Option.some.inj h

/-- A typed test gives an answer for every value of the type's kind. -/
theorem Test.Typed.isSome_checked {type : FieldType} {given : Option String} {t : Test}
    (typed : t.Typed type given) {v : Value} (hv : v.Has type.kind) :
    (t.checked v).isSome = true := by
  rcases v with _ | a
  · cases t <;> rfl
  · have ha : a.kind = type.kind := hv
    cases typed with
    | equals fits => simp [checked, ha, fits.kind_eq]
    | differs fits => simp [checked, ha, fits.kind_eq]
    | text isText value =>
      subst isText
      rcases a with s | (_ | _ | _) | _ | _ | _
      · rfl
      all_goals exact absurd ha (by simp [Literal.kind, FieldType.kind])
    | compares ordered fits => simp [checked, ha, fits.kind_eq]
    | @oneOf ls negate some fits =>
      have same : ∀ l ∈ ls, a.kind = l.kind := fun l hl => ha.trans (fits l hl).kind_eq.symm
      rw [checked, if_pos same]
      rfl
    | isNull => rfl

/-! ### Order against a literal -/

/-- A number that is not a number. -/
def Literal.isNaN : Literal → Bool
  | number (.float x) => x.isNaN
  | _ => false

/-- The value is there and is not a number. -/
def Value.isNaN : Value → Bool
  | null => false
  | present l => l.isNaN

/-- Values of one kind with an order are in some order, unless one of them is not a number. -/
theorem Literal.compare?_eq_none_iff {a l : Literal} (same : a.kind = l.kind)
    (ordered : l.kind.ordered = true) :
    a.compare? l = none ↔ a.isNaN = true ∨ l.isNaN = true := by
  rcases a with _ | (_ | x | _) | _ | _ | _ <;> rcases l with _ | (_ | y | _) | _ | _ | _ <;>
    simp only [kind, reduceCtorEq] at same <;>
    simp only [kind, Kind.ordered, Bool.false_eq_true] at ordered
  · simp [compare?, Number.compare?, isNaN]
  · show (if x.isNaN || y.isNaN then none else some _) = none ↔ x.isNaN = true ∨ y.isNaN = true
    cases x.isNaN <;> cases y.isNaN <;> simp
  · simp [compare?, Number.compare?, isNaN]
  · simp [compare?, isNaN]

theorem Value.compare?_eq_none_iff {v : Value} {l : Literal} (hv : v.Has l.kind)
    (ordered : l.kind.ordered = true) :
    v.compare? l = none ↔ v = .null ∨ v.isNaN = true ∨ l.isNaN = true := by
  rcases v with _ | a
  · simp [compare?]
  · rw [compare?, Literal.compare?_eq_none_iff hv ordered]
    simp [isNaN]

/-! ### Compilation -/

/-- A criterion that compiles becomes one test, on the first field with its name, and the test is
    typed. So over a record whose values are null or of the declared kinds the test never holds two
    values of different kinds against each other, and an ordering test only finds no order when the
    field holds nothing or one of the two is not a number. -/
theorem Criterion.compile_typed {ρ : Type} {schema : Schema ρ} {c : Criterion} {p : Predicate ρ}
    (h : c.compile schema = .ok p) :
    ∃ f t, p = .test f t ∧ schema.First c.field f ∧ t.Typed f.type c.value ∧
      ∀ x, schema.Conforms x →
        t.checked (f.read x) = some (t.accepts (f.read x)) ∧
        ∀ comparison l, t = .compares comparison l →
          ((f.read x).compare? l = none ↔
            f.read x = .null ∨ (f.read x).isNaN = true ∨ l.isNaN = true) := by
  obtain ⟨f, t, hf, ht, rfl⟩ := compile_eq_ok_iff.1 h
  have typed := typed_of_testOn ht
  refine ⟨f, t, rfl, Schema.resolve_eq_some_iff.1 hf, typed, fun x hx => ?_⟩
  have hv : (f.read x).Has f.type.kind := hx f (schema.mem_of_resolve hf)
  constructor
  · obtain ⟨b, hb⟩ := Option.isSome_iff_exists.1 (typed.isSome_checked hv)
    rw [hb, Test.accepts_of_checked hb]
  · rintro comparison l rfl
    cases typed with
    | compares ordered fits =>
      rw [← fits.kind_eq] at hv ordered
      exact Value.compare?_eq_none_iff hv ordered

/-- Tags are found among the entries of a list in any case, and other entries are dropped. -/
theorem compile_typed_genders :
    Criterion.compile User.shape.schema ⟨"GENDER", .isIn, some "female, nobody , Male"⟩ =
        .ok (.test User.genderField (.oneOf [.tag 1, .tag 0] false)) ∧
      ∃ f t, Predicate.test User.genderField (.oneOf [.tag 1, .tag 0] false) = .test f t ∧
        User.shape.schema.First "GENDER" f ∧ t.Typed f.type (some "female, nobody , Male") ∧
        ∀ x, User.shape.schema.Conforms x →
          t.checked (f.read x) = some (t.accepts (f.read x)) ∧
          ∀ comparison l, t = .compares comparison l →
            ((f.read x).compare? l = none ↔
              f.read x = .null ∨ (f.read x).isNaN = true ∨ l.isNaN = true) := by
  have compiled :
      Criterion.compile User.shape.schema ⟨"GENDER", .isIn, some "female, nobody , Male"⟩ =
        .ok (.test User.genderField (.oneOf [.tag 1, .tag 0] false)) := rfl
  exact ⟨compiled, Criterion.compile_typed compiled⟩

end RecordSearch
