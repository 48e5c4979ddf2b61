/-! Powers of two and of ten. -/

namespace RecordSearch

/-- The power of two with an exponent. -/
def twoTo (k : Nat) : Nat := Nat.pow 2 k

/-- The power of ten with an exponent. -/
def tenTo (k : Nat) : Nat := Nat.pow 10 k

@[simp] theorem tenTo_zero : tenTo 0 = 1 := rfl
theorem tenTo_succ (k : Nat) : tenTo (k + 1) = tenTo k * 10 := rfl

theorem tenTo_pos (k : Nat) : 0 < tenTo k := by
  induction k with
  | zero => decide
  | succ k ih => rw [tenTo_succ]; omega

theorem tenTo_add (j k : Nat) : tenTo (j + k) = tenTo j * tenTo k := by
  induction k with
  | zero => rw [Nat.add_zero, tenTo_zero, Nat.mul_one]
  | succ k ih => rw [← Nat.add_assoc, tenTo_succ, ih, tenTo_succ, Nat.mul_assoc]

end RecordSearch
