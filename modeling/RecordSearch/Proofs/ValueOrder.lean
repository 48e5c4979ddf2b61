import Mathlib.Algebra.Order.Field.Rat
import RecordSearch.Proofs.Typing
import RecordSearch.SortKey

/-! The order of values for sorting.

    Every kind of value has an order of its own, and each is the order of something well known: texts
    are ordered by their code points, decimals by the rational numbers they stand for, points in
    time by seconds and then nanoseconds. Turning the two values round turns the outcome round,
    whatever they are. Among null and the values of one kind the order is transitive, with one
    exception: what is not a number counts as equal to every number, so a greater and a smaller
    number may both be equal to it.

        1 = NaN,  NaN = ½,  but  1 > ½ -/

namespace RecordSearch

/-! ### Orders of the kinds -/

/-- The rational number that a decimal stands for. -/
def Decimal.value (x : Decimal) : ℚ := x.digits / tenTo x.scale

theorem Decimal.value_lt_iff {x y : Decimal} :
    x.value < y.value ↔ x.digits * tenTo y.scale < y.digits * tenTo x.scale := by
  have positive (n : Nat) : (0 : ℚ) < tenTo n := by exact_mod_cast tenTo_pos n
  rw [value, value, div_lt_div_iff₀ (positive x.scale) (positive y.scale)]
  norm_cast

/-- Decimals are ordered by their values, whatever their numbers of places. -/
theorem Decimal.compare_eq : compare = compareOn value := by
  funext x y
  show Ord.compare _ _ = Ord.compare x.value y.value
  rcases lt_trichotomy x.value y.value with h | h | h
  · rw [compare_lt_iff_lt.2 h, compare_lt_iff_lt.2 (value_lt_iff.1 h)]
  · rw [compare_eq_iff_eq.2 h, compare_eq_iff_eq]
    exact le_antisymm (not_lt.1 (mt value_lt_iff.2 h.not_gt)) (not_lt.1 (mt value_lt_iff.2 h.not_lt))
  · rw [compare_gt_iff_gt.2 h, compare_gt_iff_gt.2 (value_lt_iff.1 h)]

/-- Texts are ordered as the lists of their code points. -/
theorem Text.compare_eq : compare = List.compareLex (compareOn Char.toNat) := by
  funext a b
  induction a generalizing b with
  | nil => cases b <;> rfl
  | cons c a ih =>
    cases b with
    | nil => rfl
    | cons d b => rw [compare, ih, List.compareLex_cons_cons]; rfl

instance : Std.TransCmp Decimal.compare := Decimal.compare_eq ▸ inferInstance

instance : Std.TransCmp Text.compare := Text.compare_eq ▸ inferInstance

instance : Std.TransCmp Instant.compare :=
  inferInstanceAs (Std.TransCmp (compareLex (compareOn Instant.seconds) (compareOn Instant.nanos)))

/-- Turning two floating point numbers round turns their order round. -/
theorem Double.compare?_swap (x y : Double) : x.compare? y = (y.compare? x).map Ordering.swap := by
  rw [compare?, compare?, Bool.or_comm y.isNaN]
  cases x.isNaN || y.isNaN with
  | false => exact congrArg some Std.OrientedCmp.eq_swap
  | true => rfl

/-- Turning two numbers round turns their order round, whatever their representations. -/
theorem Number.compare?_swap (x y : Number) : x.compare? y = (y.compare? x).map Ordering.swap := by
  cases x with
  | int a =>
    cases y with
    | int b => exact congrArg some Std.OrientedCmp.eq_swap
    | float b => exact Double.compare?_swap _ _
    | decimal b => rfl
  | float a => cases y <;> exact Double.compare?_swap _ _
  | decimal a =>
    cases y with
    | int b => exact congrArg some Ordering.swap_swap.symm
    | float b => exact Double.compare?_swap _ _
    | decimal b => exact congrArg some Std.OrientedCmp.eq_swap

/-- Floating point numbers are in the order of their places around a number in the middle. -/
theorem Double.isLE_trans {x y z : Double} (number : y.isNaN = false)
    (hxy : ((x.compare? y).getD .eq).isLE = true) (hyz : ((y.compare? z).getD .eq).isLE = true) :
    ((x.compare? z).getD .eq).isLE = true := by
  rw [compare?, number] at hxy hyz
  rw [compare?]
  cases hx : x.isNaN with
  | true => rfl
  | false =>
    cases hz : z.isNaN with
    | true => rfl
    | false =>
      rw [hx] at hxy
      rw [hz] at hyz
      exact @Std.TransCmp.isLE_trans _ (compareOn Double.place) _ x y z hxy hyz

namespace Literal

/-- Turning two literals round turns their order round, whatever their kinds. -/
instance : Std.OrientedCmp sortOrder where
  eq_swap {a b} := by
    cases a <;> cases b <;> try rfl
    case text.text s t =>
      show Text.compare s.toList t.toList = (Text.compare t.toList s.toList).swap
      exact Std.OrientedCmp.eq_swap
    case number.number x y =>
      show (x.compare? y).getD .eq = ((y.compare? x).getD .eq).swap
      rw [x.compare?_swap]
      rcases y.compare? x with _ | o
      · rfl
      · rfl
    case bool.bool p q =>
      show Ord.compare p q = (Ord.compare q p).swap
      exact Std.OrientedCmp.eq_swap
    case timestamp.timestamp s t =>
      show s.compare t = (t.compare s).swap
      exact Std.OrientedCmp.eq_swap
    case tag.tag i j =>
      show Ord.compare i j = (Ord.compare j i).swap
      exact Std.OrientedCmp.eq_swap

/-- Within one kind the order passes on over what is a number. -/
theorem isLE_sortOrder_trans {a b c : Literal} (hab : a.kind = b.kind) (hbc : b.kind = c.kind)
    (number : b.isNaN = false) (first : (a.sortOrder b).isLE = true)
    (second : (b.sortOrder c).isLE = true) : (a.sortOrder c).isLE = true := by
  rcases b with s | (n | x | d) | p | t | i <;>
    rcases a with s' | (n' | x' | d') | p' | t' | i' <;> try cases hab
  all_goals rcases c with s'' | (n'' | x'' | d'') | p'' | t'' | i'' <;> try cases hbc
  · exact @Std.TransCmp.isLE_trans _ Text.compare _ s'.toList s.toList s''.toList first second
  · exact @Std.TransCmp.isLE_trans _ Ord.compare _ n' n n'' first second
  · exact Double.isLE_trans number first second
  · exact @Std.TransCmp.isLE_trans _ Decimal.compare _ d' d d'' first second
  · exact @Std.TransCmp.isLE_trans _ Ord.compare _ p' p p'' first second
  · exact @Std.TransCmp.isLE_trans _ Instant.compare _ t' t t'' first second
  · exact @Std.TransCmp.isLE_trans _ Ord.compare _ i' i i'' first second

theorem kind_eq_float_iff {l : Literal} : l.kind = .float ↔ ∃ x, l = .number (.float x) := by
  rcases l with _ | (_ | x | _) | _ | _ | _ <;> simp [kind]

theorem kind_of_isNaN {l : Literal} (nan : l.isNaN = true) : l.kind = .float := by
  rcases l with _ | (_ | x | _) | _ | _ | _ <;> first | rfl | exact absurd nan Bool.false_ne_true

/-- What is not a number counts as equal to every literal of its kind. -/
theorem sortOrder_eq_of_isNaN {a b : Literal} (same : a.kind = b.kind)
    (nan : a.isNaN = true ∨ b.isNaN = true) : a.sortOrder b = .eq := by
  have float : a.kind = .float := nan.elim kind_of_isNaN fun h => same.trans (kind_of_isNaN h)
  obtain ⟨x, rfl⟩ := kind_eq_float_iff.1 float
  obtain ⟨y, rfl⟩ := kind_eq_float_iff.1 (same.symm.trans float)
  have nan : x.isNaN = true ∨ y.isNaN = true := nan
  show (x.compare? y).getD .eq = .eq
  rw [Double.compare?, if_pos (Bool.or_eq_true_iff.2 nan)]
  rfl

end Literal

namespace Value

/-- Turning two values round turns their order round; so a value counts as equal to itself. -/
instance : Std.OrientedCmp sortOrder where
  eq_swap {a b} := by
    rcases a with _ | l <;> rcases b with _ | m
    · rfl
    · rfl
    · rfl
    · show l.sortOrder m = (m.sortOrder l).swap
      exact Std.OrientedCmp.eq_swap

variable {k : Kind} {a b c : Value}

/-- Among null and the values of one kind the order passes on over what is a number. -/
theorem isLE_sortOrder_trans (ha : a.Has k) (hb : b.Has k) (hc : c.Has k) (number : b.isNaN = false)
    (first : (a.sortOrder b).isLE = true) (second : (b.sortOrder c).isLE = true) :
    (a.sortOrder c).isLE = true := by
  rcases a with _ | l
  · rcases c with _ | n
    · rfl
    · rfl
  · -- a value that is there does not come before null, so all three are there
    rcases b with _ | m
    · exact absurd first (by simp [sortOrder])
    · rcases c with _ | n
      · exact absurd second (by simp [sortOrder])
      · exact Literal.isLE_sortOrder_trans (Eq.trans ha (Eq.symm hb)) (Eq.trans hb (Eq.symm hc))
          number first second

/-- What is not a number counts as equal to every value of its kind that is there. -/
theorem sortOrder_eq_of_isNaN (ha : a.Has k) (hb : b.Has k) (shown : a ≠ .null) (shown' : b ≠ .null)
    (nan : a.isNaN = true ∨ b.isNaN = true) : a.sortOrder b = .eq := by
  rcases a with _ | l
  · exact absurd rfl shown
  · rcases b with _ | m
    · exact absurd rfl shown'
    · exact Literal.sortOrder_eq_of_isNaN (Eq.trans ha (Eq.symm hb)) nan

end Value

/-! ### Records under a key -/

namespace SortKey

variable {ρ : Type} {key : SortKey ρ} {x y z : ρ}

/-- The key has a place for the record: its value is null or of the declared kind, and it is not one
    that is not a number. -/
def Ranks (key : SortKey ρ) (x : ρ) : Prop :=
  (key.field.read x).Has key.field.type.kind ∧ (key.field.read x).isNaN = false

instance (key : SortKey ρ) : Std.OrientedCmp key.compare where
  eq_swap {x y} := by
    have swap : (key.field.read x).sortOrder (key.field.read y) =
        ((key.field.read y).sortOrder (key.field.read x)).swap := Std.OrientedCmp.eq_swap
    rw [compare, compare]
    cases key.order with
    | ascending => exact swap
    | descending => exact congrArg Ordering.swap swap

/-- A descending key compares the other way round. -/
theorem compare_of_descending (h : key.order = .descending) (x y : ρ) :
    key.compare x y = (key.field.read y).sortOrder (key.field.read x) := by
  rw [compare, h]
  show ((key.field.read x).sortOrder (key.field.read y)).swap = _
  exact Std.OrientedCmp.eq_swap.symm

theorem compare_of_ascending (h : key.order = .ascending) (x y : ρ) :
    key.compare x y = (key.field.read x).sortOrder (key.field.read y) := by
  rw [compare, h]

/-- In either direction the order of a key passes on over a record whose value is a number, if it has
    to be one. -/
theorem isLE_compare_trans {k : Kind} (hx : (key.field.read x).Has k) (hy : (key.field.read y).Has k)
    (hz : (key.field.read z).Has k) (number : (key.field.read y).isNaN = false)
    (first : (key.compare x y).isLE = true) (second : (key.compare y z).isLE = true) :
    (key.compare x z).isLE = true := by
  cases h : key.order with
  | ascending =>
    rw [compare_of_ascending h] at *
    exact Value.isLE_sortOrder_trans hx hy hz number first second
  | descending =>
    rw [compare_of_descending h] at *
    exact Value.isLE_sortOrder_trans hz hy hx number second first

end SortKey

/-- Among null and the values of one type a value counts as equal to itself, and turning two values
    round turns the outcome round. The order is transitive over every value but one that is not a
    number, and there it fails exactly where the other two are in the wrong order. So is the order of
    the records under a key. -/
theorem Value.sortOrder_preorder_off_nan {type : FieldType} {a b c : Value} (ha : a.Has type.kind)
    (hb : b.Has type.kind) (hc : c.Has type.kind) :
    a.sortOrder a = .eq ∧ b.sortOrder a = (a.sortOrder b).swap ∧
      ((a.sortOrder b ≠ .gt → b.sortOrder c ≠ .gt → a.sortOrder c ≠ .gt) ↔
        ¬(b.isNaN = true ∧ a ≠ .null ∧ c ≠ .null ∧ a.sortOrder c = .gt)) ∧
      ∀ {ρ : Type} (key : SortKey ρ) (x y z : ρ), key.field.read x = a → key.field.read y = b →
        key.field.read z = c → b.isNaN = false →
          key.compare x y ≠ .gt → key.compare y z ≠ .gt → key.compare x z ≠ .gt := by
  simp only [← Ordering.isLE_iff_ne_gt]
  refine ⟨Std.ReflCmp.compare_self, Std.OrientedCmp.eq_swap, ⟨?_, ?_⟩, ?_⟩
  · rintro trans ⟨nan, shown, shown', wrong⟩
    have first : a.sortOrder b = .eq :=
      sortOrder_eq_of_isNaN ha hb shown (by rintro rfl; exact Bool.false_ne_true nan) (.inr nan)
    have second : b.sortOrder c = .eq :=
      sortOrder_eq_of_isNaN hb hc (by rintro rfl; exact Bool.false_ne_true nan) shown' (.inl nan)
    have right := trans (by rw [first]; rfl) (by rw [second]; rfl)
    rw [wrong] at right
    exact Bool.false_ne_true right
  · intro number first second
    cases nan : b.isNaN with
    | false => exact isLE_sortOrder_trans ha hb hc nan first second
    | true =>
      rw [Ordering.isLE_iff_ne_gt]
      intro wrong
      refine number ⟨nan, ?_, ?_, wrong⟩
      · rintro rfl
        cases c with
        | null => exact absurd wrong (by decide)
        | present l => exact absurd wrong (by simp [sortOrder])
      · rintro rfl
        cases b with
        | null => exact Bool.false_ne_true nan
        | present l => exact Bool.false_ne_true second
  · rintro ρ key x y z rfl rfl rfl number
    exact SortKey.isLE_compare_trans ha hb hc number

/-- A half, one and what is not a number, in this order: the order passes on over one. -/
theorem Value.sortOrder_preorder_off_nan_half_one :
    let half : Value := .present (.number (.float (.ofRatio false 1 2)))
    let one : Value := .present (.number (.float (.ofInt 1)))
    let nan : Value := .present (.number (.float .nan))
    let key : SortKey Value := ⟨⟨⟨"weight", .float64, false⟩, id⟩, .ascending⟩
    (half.Has FieldType.float64.kind ∧ one.Has FieldType.float64.kind ∧
      nan.Has FieldType.float64.kind) ∧
      half.sortOrder half = .eq ∧ one.sortOrder half = (half.sortOrder one).swap ∧
      half.sortOrder nan ≠ .gt ∧ key.compare half nan ≠ .gt := by
  intro half one nan key
  have kinds : half.Has FieldType.float64.kind ∧ one.Has FieldType.float64.kind ∧
      nan.Has FieldType.float64.kind := ⟨rfl, rfl, rfl⟩
  obtain ⟨self, swap, trans, order⟩ := sortOrder_preorder_off_nan kinds.1 kinds.2.1 kinds.2.2
  refine ⟨kinds, self, swap, trans.2 (by decide) (by decide) (by decide), ?_⟩
  exact order key half one nan rfl rfl rfl rfl (by decide) (by decide)

/-- One, what is not a number and a half: the order is not transitive, and sorting leaves the greater
    number in front of the smaller one. -/
theorem Value.sortOrder_intransitive_nan :
    let one : Value := .present (.number (.float (.ofInt 1)))
    let nan : Value := .present (.number (.float .nan))
    let half : Value := .present (.number (.float (.ofRatio false 1 2)))
    let key : SortKey Value := ⟨⟨⟨"weight", .float64, false⟩, id⟩, .ascending⟩
    (∀ v ∈ [one, nan, half], v.Has FieldType.float64.kind) ∧
      one.sortOrder nan ≠ .gt ∧ nan.sortOrder half ≠ .gt ∧ one.sortOrder half = .gt ∧
      key.sort [one, nan, half] = some [one, nan, half] := by
  refine ⟨?_, by decide, by decide, by decide, by decide⟩
  simp [Value.Has, Literal.kind, FieldType.kind]

end RecordSearch
