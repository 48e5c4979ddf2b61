import Mathlib.Algebra.Order.Field.Basic
import Mathlib.Order.Compare
import Mathlib.Tactic.NormNum
import RecordSearch.Proofs.ValueOrder

/-! Integers and decimals on one line.

    An integer stands for itself, a decimal for its digits divided by a power of ten. Comparing two of
    them, of one representation or of both, is comparing what they stand for: the numbers of places
    and the sign of a zero have no effect, and nothing is rounded.

        1.50 = 1.5      -0.0 = 0      -1 < -0.9999999999999999999999999999

    So they are all in one order. Floating point numbers are not in it: against one of them every
    number is compared as the floating point number nearest to it. -/

namespace RecordSearch

/-! ### What numbers stand for -/

/-- The rational number that an integer or a decimal stands for. -/
def Number.Denotes : Number → ℚ → Prop
  | int n, x => x = n
  | decimal d, x => x = d.value
  | float _, _ => False

/-- The places of a decimal, as a divisor, are no zero. -/
theorem Decimal.value_mul_tenTo (d : Decimal) : d.value * (tenTo d.scale : ℚ) = d.digits := by
  have positive : (tenTo d.scale : ℚ) ≠ 0 := by exact_mod_cast (tenTo_pos d.scale).ne'
  rw [value, div_mul_cancel₀ _ positive]

/-- Decimals and integers are ordered by their values. -/
theorem Decimal.compareInt_eq (d : Decimal) (n : Int) :
    d.compareInt n = Ord.compare d.value (n : ℚ) := by
  have positive : (0 : ℚ) < tenTo d.scale := by exact_mod_cast tenTo_pos d.scale
  have cast : StrictMono (Int.cast : ℤ → ℚ) := Int.cast_strictMono
  calc Ord.compare d.digits (n * tenTo d.scale)
      = cmp (d.digits : ℚ) ((n * tenTo d.scale : ℤ) : ℚ) := by
        rw [cast.cmp_map_eq, cmp_eq_compare]
    _ = cmp (d.value * (tenTo d.scale : ℚ)) ((n : ℚ) * (tenTo d.scale : ℚ)) := by
        rw [d.value_mul_tenTo, Int.cast_mul, Int.cast_natCast]
    _ = Ord.compare d.value (n : ℚ) := by rw [cmp_mul_pos_right positive, cmp_eq_compare]

namespace Number

variable {a b c : Number} {x y z : ℚ}

/-- Whatever the two representations are, numbers are ordered by their values. -/
theorem compare?_eq_of_denotes (ha : a.Denotes x) (hb : b.Denotes y) :
    a.compare? b = some (compare x y) := by
  cases a with
  | float f => exact absurd ha id
  | int m =>
    obtain rfl : x = m := ha
    cases b with
    | float f => exact absurd hb id
    | int n =>
      obtain rfl : y = n := hb
      have cast : StrictMono (Int.cast : ℤ → ℚ) := Int.cast_strictMono
      rw [compare?, ← cmp_eq_compare, ← cmp_eq_compare, cast.cmp_map_eq]
    | decimal e =>
      obtain rfl : y = e.value := hb
      rw [compare?, e.compareInt_eq, ← Std.OrientedCmp.eq_swap]
  | decimal d =>
    obtain rfl : x = d.value := ha
    cases b with
    | float f => exact absurd hb id
    | int n =>
      obtain rfl : y = n := hb
      rw [compare?, d.compareInt_eq]
    | decimal e =>
      obtain rfl : y = e.value := hb
      rw [compare?, Decimal.compare_eq, compareOn]

/-! ### Order -/

/-- The numbers have an order, and the first does not come after the second. -/
def AtMost (a b : Number) : Prop := ∃ o ∈ a.compare? b, o ≠ .gt

theorem atMost_iff (ha : a.Denotes x) (hb : b.Denotes y) : a.AtMost b ↔ x ≤ y := by
  rw [AtMost, compare?_eq_of_denotes ha hb]
  simp [compare_le_iff_le]

/-- Integers and decimals compare as the rational numbers that they stand for, exactly: they are
    equal in order iff these are, and numbers that stand for the same are exchangeable. So the order
    of integers and decimals together is total, antisymmetric and transitive. -/
theorem compare?_exact (ha : a.Denotes x) (hb : b.Denotes y) (hc : c.Denotes z) :
    a.compare? b = some (compare x y) ∧
      (a.compare? b = some .eq ↔ x = y) ∧
      (x = y → a.compare? c = b.compare? c) ∧
      (a.AtMost b ∨ b.AtMost a) ∧
      (a.AtMost b → b.AtMost a → a.compare? b = some .eq) ∧
      (a.AtMost b → b.AtMost c → a.AtMost c) := by
  have equal : a.compare? b = some .eq ↔ x = y := by
    rw [compare?_eq_of_denotes ha hb, Option.some_inj, compare_eq_iff_eq]
  refine ⟨compare?_eq_of_denotes ha hb, equal, ?_, ?_, ?_, ?_⟩
  · rintro rfl
    rw [compare?_eq_of_denotes ha hc, compare?_eq_of_denotes hb hc]
  · rw [atMost_iff ha hb, atMost_iff hb ha]
    exact le_total x y
  · rw [atMost_iff ha hb, atMost_iff hb ha, equal]
    exact le_antisymm
  · rw [atMost_iff ha hb, atMost_iff hb hc, atMost_iff ha hc]
    exact le_trans

/-- One and a half with one place more and less, and zero with a sign and a place against the
    integer. -/
theorem compare?_exact_places :
    let more : Number := .decimal ⟨false, 150, 2, by decide, by decide⟩
    let fewer : Number := .decimal ⟨false, 15, 1, by decide, by decide⟩
    let zero : Number := .decimal ⟨true, 0, 1, by decide, by decide⟩
    (more.Denotes (3 / 2) ∧ fewer.Denotes (3 / 2) ∧ zero.Denotes 0 ∧ (int 0).Denotes 0) ∧
      more.compare? fewer = some .eq ∧ zero.compare? (int 0) = some .eq ∧
      (zero.AtMost (int 0) → (int 0).AtMost more → zero.AtMost more) := by
  intro more fewer zero
  have hmore : more.Denotes (3 / 2) := by
    simp only [more, Denotes, Decimal.value, Decimal.digits, Text.signed, tenTo]
    norm_num
  have hfewer : fewer.Denotes (3 / 2) := by
    simp only [fewer, Denotes, Decimal.value, Decimal.digits, Text.signed, tenTo]
    norm_num
  have hzero : zero.Denotes 0 := by
    simp [zero, Denotes, Decimal.value, Decimal.digits, Text.signed]
  have hint : (int 0).Denotes 0 := by simp [Denotes]
  obtain ⟨-, places, -⟩ := compare?_exact hmore hfewer hint
  obtain ⟨-, sign, -, -, -, trans⟩ := compare?_exact hzero hint hmore
  exact ⟨⟨hmore, hfewer, hzero, hint⟩, places.2 rfl, sign.2 rfl, trans⟩

end Number

end RecordSearch
