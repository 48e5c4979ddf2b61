import Mathlib.Data.List.Basic
import RecordSearch.Proofs.Slices
import RecordSearch.Proofs.Sorting

/-! Sorted lists as blocks.

    Against a literal a value is null, less, equal or greater. In a list that is sorted by the field
    the records of each of these classes stand together, in this order or, if it is sorted the other
    way round, in the opposite one.

        ascending     null     less     equal      greater
        descending    greater  equal    less       null

    Which class a record is in is said by the filters, and where it stands by the sort key. They
    agree because both go back to one order, and the blocks are whole because that order is
    transitive. Within a block the records stand as if they had been sorted by themselves. -/

namespace RecordSearch

/-! ### Lists whose classes never decrease -/

/-- A list whose classes never decrease is its classes one after the other. -/
theorem eq_flatMap_filter {α : Type} {c : α → Nat} {n : Nat} {xs : List α}
    (below : ∀ x ∈ xs, c x < n) (ordered : xs.Pairwise fun x y => c x ≤ c y) :
    xs = (List.range n).flatMap fun i => xs.filter (c · == i) := by
  induction n generalizing xs with
  | zero => exact List.eq_nil_iff_forall_not_mem.2 fun x hx => Nat.not_lt_zero _ (below x hx)
  | succ n ih =>
    have split := SortKey.eq_filter_append_filter (p := fun x => decide (c x < n))
      (ordered.imp fun {x y} le less => by
        rw [decide_eq_true_eq] at less ⊢
        exact Nat.lt_of_le_of_lt le less)
    have start : xs.filter (fun x => decide (c x < n)) = _ :=
      ih (fun x hx => by simpa using (List.mem_filter.1 hx).2) (ordered.filter _)
    have classes : ∀ i ∈ List.range n,
        (xs.filter fun x => decide (c x < n)).filter (c · == i) = xs.filter (c · == i) := by
      intro i hi
      rw [List.filter_filter]
      refine List.filter_congr fun x _ => ?_
      rw [Bool.eq_iff_iff]
      simp only [Bool.and_eq_true, beq_iff_eq, decide_eq_true_eq, List.mem_range] at hi ⊢
      omega
    have last : xs.filter (fun x => !decide (c x < n)) = xs.filter (c · == n) := by
      refine List.filter_congr fun x hx => ?_
      have bound := below x hx
      rw [Bool.eq_iff_iff]
      simp only [Bool.not_eq_true', decide_eq_false_iff_not, beq_iff_eq]
      omega
    rw [List.range_succ, List.flatMap_append, List.flatMap_singleton, ← last]
    rw [start, List.flatMap_congr classes] at split
    exact split

namespace SortKey

/-! ### Sorting part of a list -/

variable {ρ : Type} {key : SortKey ρ}

/-- Of two records that differ in their numbers at most one comes before the other. -/
theorem Before.asymm {p q : ρ × Nat} (h : key.Before p q) : ¬key.Before q p := by
  have swap : key.compare q.1 p.1 = (key.compare p.1 q.1).swap := compare_eq_swap q.1 p.1
  intro k
  rcases h with h | ⟨h, number⟩ <;> rcases k with k | ⟨k, number'⟩ <;>
    simp only [h, k, Ordering.swap, reduceCtorEq] at swap
  omega

/-- However records are numbered upwards, only the sorted list has them in the order of the key and
    then of their numbers. -/
theorem map_fst_eq_insertAll {ps qs : List (ρ × Nat)} (orders : key.Orders (ps.map Prod.fst))
    (numbers : ps.Pairwise fun p q => p.2 < q.2) (perm : qs.Perm ps)
    (before : qs.Pairwise key.Before) : qs.map Prod.fst = key.insertAll (ps.map Prod.fst) := by
  have same : qs = (key.comap Prod.fst).insertAll ps :=
    (perm.trans (insertAll_perm _ ps).symm).eq_of_pairwise
      (fun p q _ _ hpq hqp => absurd hqp hpq.asymm) before (pairwise_insertAll_comap orders numbers)
  rw [same, map_insertAll_comap]

/-- Sorting and then choosing records is the same as choosing them and then sorting. -/
theorem insertAll_filter {records : List ρ} (orders : key.Orders records) (p : ρ → Bool) :
    (key.insertAll records).filter p = key.insertAll (records.filter p) := by
  obtain ⟨numbered, perm, names, before⟩ := exists_numbered orders
  have chosen_names : (records.zipIdx.filter (p ∘ Prod.fst)).map Prod.fst = records.filter p := by
    rw [← List.filter_map, List.zipIdx_map_fst]
  have fewer : key.Orders ((records.zipIdx.filter (p ∘ Prod.fst)).map Prod.fst) := by
    rw [chosen_names]
    exact orders.mono (List.filter_subset_self records)
  have chosen := map_fst_eq_insertAll fewer ((pairwise_zipIdx records).filter (p ∘ Prod.fst))
    (perm.filter (p ∘ Prod.fst)) (before.filter _)
  rwa [chosen_names, ← List.filter_map, names] at chosen

end SortKey

/-! ### Filters against a literal -/

/-- The literals of the kind are in one total order. -/
def Kind.Total (k : Kind) : Prop := k = .int ∨ k = .decimal ∨ k = .timestamp

theorem Kind.Total.ordered {k : Kind} (total : k.Total) : k.ordered = true := by
  rcases total with rfl | rfl | rfl <;> rfl

theorem FieldType.total_kind {type : FieldType}
    (h : type ∈ [FieldType.int32, .int64, .decimal, .timestamp]) : type.kind.Total := by
  simp only [List.mem_cons, List.not_mem_nil, or_false] at h
  rcases h with rfl | rfl | rfl | rfl <;> simp [kind, Kind.Total]

theorem Literal.isNaN_of_total {l : Literal} (total : l.kind.Total) : l.isNaN = false := by
  rw [Bool.eq_false_iff]
  intro nan
  rw [kind_of_isNaN nan] at total
  simp [Kind.Total] at total

section

variable {l : Literal} (total : l.kind.Total)

/-- Where a value stands to a literal: 0 for null, 1, 2 and 3 for less, equal and greater. -/
def Value.place (v : Value) (l : Literal) : Nat :=
  match v with
  | null => 0
  | present a =>
    match a.sortOrder l with
    | .lt => 1
    | .eq => 2
    | .gt => 3

theorem Value.place_lt (v : Value) (l : Literal) : v.place l < 4 := by
  rcases v with _ | a
  · simp [place]
  · rw [place]
    split <;> decide

theorem Value.place_eq_zero_iff {v : Value} : v.place l = 0 ↔ v = .null := by
  rcases v with _ | a
  · simp [place]
  · rw [place]
    split <;> simp

theorem Value.place_eq_two_iff {v : Value} : v.place l = 2 ↔ v.sortOrder (.present l) = .eq := by
  rcases v with _ | a
  · simp [place, sortOrder]
  · rw [place, sortOrder]
    split <;> simp [*]

include total

/-- Filters compare literals of such a kind as sorting does. -/
theorem Literal.compare?_eq_sortOrder {a : Literal} (kinds : a.kind = l.kind) :
    a.compare? l = some (a.sortOrder l) := by
  rcases a with _ | (_ | _ | _) | _ | _ | _ <;> rcases l with _ | (_ | _ | _) | _ | _ | _ <;>
    simp only [kind, reduceCtorEq] at kinds <;>
    first | rfl | exact absurd total (by simp [kind, Kind.Total])

variable {v : Value} (has : v.Has l.kind)

include has

/-- The filters against a literal say at which place a value stands to it. -/
theorem Test.accepts_eq_place :
    (isNull false).accepts v = (v.place l == 0) ∧
      (compares .less l).accepts v = (v.place l == 1) ∧
      (equals l).accepts v = (v.place l == 2) ∧
      (compares .greater l).accepts v = (v.place l == 3) := by
  rcases v with _ | a
  · exact ⟨rfl, rfl, rfl, rfl⟩
  · have compared : a.compare? l = some (a.sortOrder l) :=
      Literal.compare?_eq_sortOrder total has
    have same : a.same l = (a.compare? l == some .eq) := Literal.same_eq_compare? total.ordered
    simp only [accepts, Value.isNull, Value.equals, Value.compare?, same, compared, Value.place]
    cases a.sortOrder l <;> exact ⟨rfl, rfl, rfl, rfl⟩

end

section

variable {v w : Value} {l : Literal} (hv : v.Has l.kind) (hw : w.Has l.kind)

include hv hw

/-- A value that does not come behind another one is at no later place. -/
theorem Value.place_le (number : v.isNaN = false) (number' : w.isNaN = false)
    (h : (v.sortOrder w).isLE = true) : v.place l ≤ w.place l := by
  rcases v with _ | a
  · exact Nat.zero_le _
  · rcases w with _ | b
    · exact absurd h Bool.false_ne_true
    · have kinds : a.kind = b.kind := Eq.trans hv (Eq.symm hw)
      have le : (a.sortOrder b).isLE = true := h
      have below (less : (b.sortOrder l).isLE = true) : (a.sortOrder l).isLE = true :=
        Literal.isLE_sortOrder_trans kinds hw number' le less
      have above (less : (l.sortOrder a).isLE = true) : (l.sortOrder b).isLE = true :=
        Literal.isLE_sortOrder_trans (Eq.symm hv) kinds number less le
      have turned (c : Literal) : l.sortOrder c = (c.sortOrder l).swap := Std.OrientedCmp.eq_swap
      rw [turned, turned] at above
      simp only [place]
      cases ha : a.sortOrder l <;> cases hb : b.sortOrder l <;> simp [ha, hb] at below above ⊢

/-- Values that equal the literal count as equal to each other. -/
theorem Value.sortOrder_eq_of_place (number : l.isNaN = false) (hv' : v.place l = 2)
    (hw' : w.place l = 2) : v.sortOrder w = .eq := by
  rw [place_eq_two_iff] at hv' hw'
  have here : (Value.present l).Has l.kind := rfl
  have turned (u : Value) (equal : u.sortOrder (.present l) = .eq) :
      (Value.present l).sortOrder u = .eq := by
    have swap : (Value.present l).sortOrder u = (u.sortOrder (.present l)).swap :=
      Std.OrientedCmp.eq_swap
    rw [swap, equal]
    rfl
  have le : (v.sortOrder w).isLE = true :=
    isLE_sortOrder_trans hv here hw number (by simp [hv']) (by simp [turned w hw'])
  have ge : (w.sortOrder v).isLE = true :=
    isLE_sortOrder_trans hw here hv number (by simp [hw']) (by simp [turned v hv'])
  exact Std.OrientedCmp.isLE_antisymm le ge

end

/-! ### Blocks -/

namespace SortKey

variable {ρ : Type} {key : SortKey ρ} {records : List ρ} {l : Literal}

theorem ranks_of_total {x : ρ} (total : key.field.type.kind.Total)
    (has : (key.field.read x).Has key.field.type.kind) : key.Ranks x := by
  refine ranks_of_has ?_ ?_ has
  all_goals
    intro float
    simp [float, FieldType.kind, Kind.Total] at total

theorem compare_eq_of_sortOrder {x y : ρ}
    (h : (key.field.read x).sortOrder (key.field.read y) = .eq) : key.compare x y = .eq := by
  rw [compare, h]
  cases key.order <;> rfl

/-- The place of a record among the blocks, counted in the direction of the key. -/
def place (key : SortKey ρ) (l : Literal) (x : ρ) : Nat :=
  match key.order with
  | .ascending => (key.field.read x).place l
  | .descending => 3 - (key.field.read x).place l

theorem place_lt (x : ρ) : key.place l x < 4 := by
  have bound := (key.field.read x).place_lt l
  rw [place]
  split <;> omega

/-- Along the sorted list the places never decrease. -/
theorem pairwise_place (ranks : ∀ x ∈ records, key.Ranks x) (kind : l.kind = key.field.type.kind) :
    (key.insertAll records).Pairwise fun x y => key.place l x ≤ key.place l y := by
  refine (pairwise_insertAll (orders_of_ranks ranks)).imp_of_mem fun {x y} hx hy h => ?_
  obtain ⟨hasX, numberX⟩ := ranks x ((key.insertAll_perm records).mem_iff.1 hx)
  obtain ⟨hasY, numberY⟩ := ranks y ((key.insertAll_perm records).mem_iff.1 hy)
  rw [← kind] at hasX hasY
  cases direction : key.order with
  | ascending =>
    rw [compare_of_ascending direction] at h
    simpa only [place, direction] using Value.place_le hasX hasY numberX numberY h
  | descending =>
    rw [compare_of_descending direction] at h
    have le := Value.place_le hasY hasX numberY numberX h
    simp only [place, direction]
    omega

/-- The sorted list is its blocks one after the other, each of them sorted by itself. -/
theorem insertAll_eq_flatMap (ranks : ∀ x ∈ records, key.Ranks x)
    (kind : l.kind = key.field.type.kind) :
    key.insertAll records =
      (List.range 4).flatMap fun i => key.insertAll (records.filter (key.place l · == i)) := by
  have split := eq_flatMap_filter (fun x _ => place_lt x) (pairwise_place ranks kind)
  simpa only [insertAll_filter (orders_of_ranks ranks)] using split

/-- The blocks of an ascending list start with null, those of a descending one with the greatest
    values. -/
theorem filter_place (records : List ρ) {i : Nat} (h : i < 4) :
    records.filter (key.place l · == i) =
      match key.order with
      | .ascending => records.filter fun x => (key.field.read x).place l == i
      | .descending => records.filter fun x => (key.field.read x).place l == 3 - i := by
  cases direction : key.order with
  | ascending => simp only [place, direction]
  | descending =>
    refine List.filter_congr fun x _ => ?_
    have bound := (key.field.read x).place_lt l
    rw [Bool.eq_iff_iff, beq_iff_eq, beq_iff_eq]
    simp only [place, direction]
    omega

/-- Records without a value are sorted already, and so are those that equal the literal. -/
theorem insertAll_filter_place {i : Nat} (h : i = 0 ∨ i = 2) (total : l.kind.Total)
    (kind : l.kind = key.field.type.kind)
    (has : ∀ x ∈ records, (key.field.read x).Has key.field.type.kind) :
    key.insertAll (records.filter fun x => (key.field.read x).place l == i) =
      records.filter fun x => (key.field.read x).place l == i := by
  refine (eq_insertAll_of_sort (sort_of_ties fun x hx y hy => ?_)).symm
  obtain ⟨memberX, placeX⟩ := List.mem_filter.1 hx
  obtain ⟨memberY, placeY⟩ := List.mem_filter.1 hy
  rw [beq_iff_eq] at placeX placeY
  have hasX := has x memberX
  have hasY := has y memberY
  rw [← kind] at hasX hasY
  apply compare_eq_of_sortOrder
  rcases h with rfl | rfl
  · rw [Value.place_eq_zero_iff] at placeX placeY
    rw [placeX, placeY]
    rfl
  · exact Value.sortOrder_eq_of_place hasX hasY (Literal.isNaN_of_total total) placeX placeY

/-- The list sorted by a field of integers, decimals or points in time, and a literal of its type:
    the records without a value, those that are less than the literal, those that equal it and those
    that are greater stand in blocks, in this order if the list ascends and in the opposite one if
    it descends. Which block a record is in is what the filters on the field say. -/
theorem sort_blocks (key : SortKey ρ) (l : Literal) {records : List ρ}
    (type : key.field.type ∈ [FieldType.int32, .int64, .decimal, .timestamp])
    (kind : l.kind = key.field.type.kind)
    (has : ∀ x ∈ records, (key.field.read x).Has key.field.type.kind) :
    let matching (t : Test) := records.filter (Predicate.test key.field t).accepts
    ∃ less greater, key.sort (matching (.compares .less l)) = some less ∧
      key.sort (matching (.compares .greater l)) = some greater ∧
      key.sort records = some (match key.order with
        | .ascending => matching (.isNull false) ++ less ++ matching (.equals l) ++ greater
        | .descending => greater ++ matching (.equals l) ++ less ++ matching (.isNull false)) := by
  intro matching
  have total : l.kind.Total := kind ▸ FieldType.total_kind type
  have ranks : ∀ x ∈ records, key.Ranks x := fun x hx => ranks_of_total (kind ▸ total) (has x hx)
  have orders : key.Orders records := orders_of_ranks ranks
  have nulls := insertAll_filter_place (.inl rfl) total kind has
  have equals := insertAll_filter_place (.inr rfl) total kind has
  rw [← kind] at has
  -- what stands at a place is what a filter matches
  have block (t : Test) (i : Nat)
      (same : ∀ x ∈ records, t.accepts (key.field.read x) = ((key.field.read x).place l == i)) :
      records.filter (fun x => (key.field.read x).place l == i) = matching t :=
    List.filter_congr fun x hx => by rw [Predicate.accepts_test, same x hx]
  have null := block (.isNull false) 0 fun x hx => (Test.accepts_eq_place total (has x hx)).1
  have less := block (.compares .less l) 1 fun x hx =>
    (Test.accepts_eq_place total (has x hx)).2.1
  have equal := block (.equals l) 2 fun x hx => (Test.accepts_eq_place total (has x hx)).2.2.1
  have greater := block (.compares .greater l) 3 fun x hx =>
    (Test.accepts_eq_place total (has x hx)).2.2.2
  rw [null] at nulls
  rw [equal] at equals
  have blocks := insertAll_eq_flatMap ranks kind
  have four : List.range 4 = [0, 1, 2, 3] := rfl
  simp only [four, List.flatMap_cons, List.flatMap_nil, List.append_nil, filter_place,
    Nat.reduceLT] at blocks
  have sorted (t : Test) : key.sort (matching t) = some (key.insertAll (matching t)) :=
    sort_of_orders (orders.mono (List.filter_subset_self records))
  refine ⟨_, _, sorted _, sorted _, (sort_of_orders orders).trans (congrArg some ?_)⟩
  cases direction : key.order with
  | ascending =>
    simpa [direction, null, less, equal, greater, nulls, equals] using blocks
  | descending =>
    simpa [direction, null, less, equal, greater, nulls, equals] using blocks

/-- Prices and a price without its last zero: the two that are the same keep their order. -/
theorem sort_blocks_prices :
    let zero : Decimal := ⟨false, 0, 0, by decide, by decide⟩
    let price (mantissa scale : Nat) : Literal :=
      .number (.decimal ((Decimal.ofParts? false mantissa scale).getD zero))
    let key : SortKey Value := ⟨⟨⟨"price", .decimal, true⟩, id⟩, .descending⟩
    let records : List Value :=
      [.present (price 15 1), .null, .present (price 3 0), .present (price 150 2),
        .present (price 99 2), .null, .present (price 2 0)]
    (key.field.type ∈ [FieldType.int32, .int64, .decimal, .timestamp]) ∧
      (price 1500 3).kind = key.field.type.kind ∧
      (∀ x ∈ records, (key.field.read x).Has key.field.type.kind) ∧
      key.sort records = some
        ([.present (price 3 0), .present (price 2 0)] ++
          [.present (price 15 1), .present (price 150 2)] ++
          [.present (price 99 2)] ++ [.null, .null]) := by
  intro zero price key records
  have type : key.field.type ∈ [FieldType.int32, .int64, .decimal, .timestamp] := by decide
  have has : ∀ x ∈ records, (key.field.read x).Has key.field.type.kind := by
    simp only [records, List.forall_mem_cons]
    exact ⟨rfl, trivial, rfl, rfl, rfl, trivial, rfl, by simp⟩
  obtain ⟨less, greater, cheaper, dearer, blocks⟩ := sort_blocks key (price 1500 3) type rfl has
  refine ⟨type, rfl, has, blocks.trans ?_⟩
  rw [eq_insertAll_of_sort cheaper, eq_insertAll_of_sort dearer]
  decide

end SortKey

end RecordSearch
