import RecordSearch.Proofs.Insertion

/-! Sorting records by a field.

    A sort that gives a result gives the same records, each as often. Where the key is an order on
    the records there is a result, and the one strict order of the numbered records says that no
    record stands behind one it should precede, that ties keep the order of the list, and that
    records without a value stand together at one end. Every key is an order on records whose values
    have a place in the order of their kind. What is not a number has none: a few records stay where
    they are because of it, and with more of them the sort may give up. -/

namespace RecordSearch

theorem Value.isNull_iff {v : Value} : v.isNull = true ↔ v = .null := by
  cases v <;> simp [isNull]

/-- Only null does not come behind null. -/
theorem Value.isNull_of_sortOrder {v w : Value} (h : (v.sortOrder w).isLE = true)
    (null : w.isNull = true) : v.isNull = true := by
  obtain rfl := isNull_iff.1 null
  cases v with
  | null => rfl
  | present l => exact absurd h Bool.false_ne_true

namespace SortKey

variable {ρ : Type} {key : SortKey ρ} {records : List ρ}

/-! ### Without ties -/

/-- Where no two records count as equal, the order of the list has no effect on the sorted list. -/
theorem sort_eq_of_perm {xs ys : List ρ} (orders : key.Orders xs) (perm : xs.Perm ys)
    (distinct : xs.Pairwise fun x y => key.compare x y ≠ .eq) : key.sort xs = key.sort ys := by
  have strict : ∀ zs : List ρ, zs.Perm xs →
      (key.insertAll zs).Pairwise fun x y => key.compare x y = .lt := by
    intro zs same
    have apart : (key.insertAll zs).Pairwise fun x y => key.compare x y ≠ .eq :=
      (((key.insertAll_perm zs).trans same).pairwise_iff fun {x y} h =>
        mt Std.OrientedCmp.eq_symm h).2 distinct
    refine ((pairwise_insertAll (orders.mono same.subset)).and apart).imp fun {x y} h => ?_
    exact (Ordering.isLE_iff_eq_lt_or_eq_eq.1 h.1).resolve_right h.2
  have sorted : (key.insertAll xs).Perm (key.insertAll ys) :=
    (key.insertAll_perm xs).trans (perm.trans (key.insertAll_perm ys).symm)
  have equal : key.insertAll xs = key.insertAll ys := by
    refine sorted.eq_of_pairwise (fun x y _ _ hxy hyx => ?_) (strict xs (.refl xs))
      (strict ys perm.symm)
    rw [compare_eq_swap, hyx] at hxy
    exact absurd hxy (by decide)
  rw [sort_of_orders orders, sort_of_orders (orders.mono perm.symm.subset), equal]

/-! ### What sorting gives -/

/-- The records of a list are arranged by a key. -/
structure Arranges (key : SortKey ρ) (records result : List ρ) : Prop where
  /-- No record stands behind one that it should precede. -/
  ordered : result.Pairwise fun x y => key.compare x y ≠ .gt
  /-- Records that count as equal keep the places they had to each other. -/
  stable : ∃ numbered : List (ρ × Nat), numbered.Perm records.zipIdx ∧
    numbered.map Prod.fst = result ∧
      numbered.Pairwise fun p q => key.compare p.1 q.1 = .eq → p.2 < q.2
  /-- Records without a value come first or, in descending order, last, as they stood in the list. -/
  nulls :
    let nulls := records.filter fun x => (key.field.read x).isNull
    let others := result.filter fun x => !(key.field.read x).isNull
    result = match key.order with
      | .ascending => nulls ++ others
      | .descending => others ++ nulls

/-- Where no member of a class stands behind a member of none, the class is the start. -/
theorem eq_filter_append_filter {α : Type} {p : α → Bool} {xs : List α}
    (h : xs.Pairwise fun x y => p y = true → p x = true) : xs = xs.filter p ++ xs.filter (!p ·) := by
  induction xs with
  | nil => rfl
  | cons x xs ih =>
    rw [List.pairwise_cons] at h
    cases hx : p x with
    | true => rw [List.filter_cons_of_pos hx, List.filter_cons_of_neg (by simp [hx]), List.cons_append,
        ← ih h.2]
    | false =>
      have none : ∀ y ∈ xs, p y = false := fun y hy => by
        rw [Bool.eq_false_iff]
        intro hy'
        rw [h.1 y hy hy'] at hx
        exact Bool.false_ne_true hx.symm
      rw [List.filter_cons_of_neg (by simp [hx]), List.filter_cons_of_pos (by simp [hx]),
        List.filter_eq_nil_iff.2 fun y hy => by simp [none y hy], List.nil_append,
        List.filter_eq_self.2 fun y hy => by simp [none y hy]]

/-- Records that all count as equal stay as they stood in the list. -/
theorem filter_insertAll (orders : key.Orders records) {p : ρ → Bool}
    (alike : ∀ x y, p x = true → p y = true → key.compare x y = .eq) :
    (key.insertAll records).filter p = records.filter p := by
  obtain ⟨numbered, perm, names, before⟩ := exists_numbered orders
  have numbers : (numbered.filter (p ∘ Prod.fst)).Pairwise fun q r => q.2 < r.2 := by
    rw [List.pairwise_filter]
    refine before.imp fun {q r} h hq hr => ?_
    rcases h with h | ⟨-, h⟩
    · exact absurd (h.symm.trans (alike _ _ hq hr)) (by decide)
    · exact h
  have same : numbered.filter (p ∘ Prod.fst) = records.zipIdx.filter (p ∘ Prod.fst) :=
    (perm.filter _).eq_of_pairwise (fun q r _ _ hqr hrq => absurd hrq hqr.not_gt) numbers
      ((pairwise_zipIdx records).filter _)
  rw [← names, List.filter_map, same, ← List.filter_map, List.zipIdx_map_fst]

/-- Records without a value are at the end where the direction puts them. -/
theorem insertAll_eq_nulls (orders : key.Orders records) :
    let nulls := records.filter fun x => (key.field.read x).isNull
    let others := (key.insertAll records).filter fun x => !(key.field.read x).isNull
    key.insertAll records = match key.order with
      | .ascending => nulls ++ others
      | .descending => others ++ nulls := by
  have ordered := pairwise_insertAll orders
  have kept : (key.insertAll records).filter (fun x => (key.field.read x).isNull) =
      records.filter fun x => (key.field.read x).isNull :=
    filter_insertAll orders fun x y hx hy => by
      rw [compare, Value.isNull_iff.1 hx, Value.isNull_iff.1 hy]
      cases key.order <;> rfl
  cases direction : key.order with
  | ascending =>
    simp only
    rw [← kept]
    refine eq_filter_append_filter (ordered.imp fun h null => ?_)
    rw [compare_of_ascending direction] at h
    exact Value.isNull_of_sortOrder h null
  | descending =>
    -- the records that hold a value are the start here
    have start := eq_filter_append_filter (p := fun x => !(key.field.read x).isNull)
      (ordered.imp fun {x y} h shown => by
        rw [compare_of_descending direction] at h
        cases null : (key.field.read x).isNull with
        | false => rfl
        | true => rw [Value.isNull_of_sortOrder h null] at shown; exact shown)
    simp only [Bool.not_not, kept] at start
    exact start

/-- Where the key is an order on the records, putting them in arranges them. -/
theorem arranges_insertAll (orders : key.Orders records) :
    key.Arranges records (key.insertAll records) := by
  obtain ⟨numbered, perm, names, before⟩ := exists_numbered orders
  refine ⟨(pairwise_insertAll orders).imp Ordering.isLE_iff_ne_gt.1,
    ⟨numbered, perm, names, before.imp fun h same => ?_⟩, insertAll_eq_nulls orders⟩
  rcases h with h | ⟨-, h⟩
  · exact absurd (h.symm.trans same) (by decide)
  · exact h

/-- A sort that gives a result loses and repeats no record, and arranges the records where the key is
    an order on them. It gives one for a few records, for records that stand in order already, and
    wherever the key is an order: so where it has a place for every record, and so, unless its type
    is one of floating point numbers, where every record holds null or a value of that type. -/
theorem sort_arranges (key : SortKey ρ) (records : List ρ) :
    (∀ result, key.sort records = some result →
      result.Perm records ∧ (key.Orders records → key.Arranges records result)) ∧
      (key.Settles records → ∃ result, key.sort records = some result) ∧
      ((∀ x ∈ records, key.Ranks x) →
        ∃ result, key.sort records = some result ∧ key.Arranges records result) ∧
      (key.field.type ≠ .float32 → key.field.type ≠ .float64 →
        (∀ x ∈ records, (key.field.read x).Has key.field.type.kind) →
          ∃ result, key.sort records = some result ∧ key.Arranges records result) := by
  have arranged : (∀ x ∈ records, key.Ranks x) →
      ∃ result, key.sort records = some result ∧ key.Arranges records result := fun ranks =>
    ⟨_, sort_of_orders (orders_of_ranks ranks), arranges_insertAll (orders_of_ranks ranks)⟩
  refine ⟨fun result h => ⟨sort_perm h, fun orders => ?_⟩, fun settles => ?_, arranged,
    fun single double has => arranged fun x hx => ranks_of_has single double (has x hx)⟩
  · rw [eq_insertAll_of_sort h]
    exact arranges_insertAll orders
  · exact ⟨_, sort_eq_some_iff.2 ⟨settles, rfl⟩⟩

/-- The sample users by the time of their last change, the latest first: those who never changed
    come last. -/
theorem sort_arranges_sampleUsers :
    let key : SortKey User :=
      ⟨.nullable "updatedAt" .timestamp .timestamp (·.updatedAt), .descending⟩
    key.field.type ≠ .float32 ∧ key.field.type ≠ .float64 ∧
      (∀ x ∈ sampleUsers, (key.field.read x).Has key.field.type.kind) ∧
      ∃ result, key.sort sampleUsers = some result ∧ result.Perm sampleUsers ∧
        key.Arranges sampleUsers result := by
  intro key
  have has : ∀ x ∈ sampleUsers, (key.field.read x).Has key.field.type.kind :=
    fun x _ => Field.has_nullable _ (fun _ => rfl) x
  obtain ⟨perm, -, -, arranged⟩ := key.sort_arranges sampleUsers
  obtain ⟨result, sorted, arranges⟩ := arranged (by decide) (by decide) has
  exact ⟨by decide, by decide, has, result, sorted, (perm result sorted).1, arranges⟩

end SortKey

/-! ### No order -/

/-- The order by weight, smallest first, of records that are their weights. -/
def byWeight : SortKey Value := ⟨⟨⟨"weight", .float64, false⟩, id⟩, .ascending⟩

/-- The shape of these records. -/
def weightShape : Shape Value := ⟨⟨"weights", [byWeight.field]⟩, [], none⟩

/-- Weights as the values of their field. A weight that is missing is not a number. -/
def weights (ws : List (Option Int)) : List Value :=
  ws.map fun w => .present (.number (.float (w.elim .nan Double.ofInt)))

/-- Weights with what is not a number in between, which counts as equal to all of them. -/
def scatteredWeights : List Value :=
  weights [none, some 8, some 2, some 9, some 2, none, some 4, some 8, some 8, some 6, some 8, none,
    none, some 3, some 5, some 1, some 9, some 8, none, some 3, some 2]

/-- No result is promised for them, though the key's type has all of these values. -/
theorem SortKey.sort_scatteredWeights :
    (∀ v ∈ scatteredWeights, (byWeight.field.read v).Has byWeight.field.type.kind) ∧
      byWeight.sort scatteredWeights = none := by
  refine ⟨fun v hv => ?_, by decide⟩
  obtain ⟨weight, -, rfl⟩ := List.mem_map.1 hv
  rfl

end RecordSearch
