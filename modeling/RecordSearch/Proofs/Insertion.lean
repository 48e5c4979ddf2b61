import RecordSearch.Proofs.ValueOrder
import RecordSearch.Proofs.Operators

/-! Putting records in one after the other, and when a sort gives a result.

    With every record numbered by its place in the list, the records that were put in are in one
    strict order: by the key, and among records that count as equal by the number. For this the key
    has to be an order on the list, which is all that is asked of it. A sort looks at the records it
    has put in to find out: an order shows there as ranks, from one neighbour to the next.

        x y  in order, x before y     x is before all further on
        x y  in order, x equals y     x stands to all further on as y does -/

namespace RecordSearch

namespace SortKey

variable {ρ σ : Type} {key : SortKey ρ}

/-! ### Orders -/

/-- The key is an order on the records of a list: it passes on over each of them. -/
def Orders (key : SortKey ρ) (records : List ρ) : Prop :=
  ∀ x ∈ records, ∀ y ∈ records, ∀ z ∈ records,
    (key.compare x y).isLE = true → (key.compare y z).isLE = true → (key.compare x z).isLE = true

theorem Orders.mono {xs ys : List ρ} (h : key.Orders ys) (sub : xs ⊆ ys) : key.Orders xs :=
  fun x hx y hy z hz => h x (sub hx) y (sub hy) z (sub hz)

/-- A key is an order on the records that it has a place for. -/
theorem orders_of_ranks {records : List ρ} (ranks : ∀ x ∈ records, key.Ranks x) :
    key.Orders records :=
  fun x hx y hy z hz => isLE_compare_trans (ranks x hx).1 (ranks y hy).1 (ranks z hz).1 (ranks y hy).2

/-- Only a field of floating point numbers can hold what is not a number. -/
theorem ranks_of_has {x : ρ} (single : key.field.type ≠ .float32) (double : key.field.type ≠ .float64)
    (has : (key.field.read x).Has key.field.type.kind) : key.Ranks x := by
  refine ⟨has, ?_⟩
  have kind : key.field.type.kind ≠ .float := by
    cases h : key.field.type <;> rw [h] at single double <;> simp [FieldType.kind] at *
  rcases hv : key.field.read x with _ | l
  · rfl
  · rw [hv] at has
    rw [Bool.eq_false_iff]
    exact fun nan => kind (Eq.trans (Eq.symm has) (Literal.kind_of_isNaN nan))

/-- A key whose field is not of floating point numbers is an order on values of the field's type. -/
theorem orders_of_has {records : List ρ} (single : key.field.type ≠ .float32)
    (double : key.field.type ≠ .float64)
    (has : ∀ x ∈ records, (key.field.read x).Has key.field.type.kind) : key.Orders records :=
  orders_of_ranks fun x hx => ranks_of_has single double (has x hx)

theorem compare_self (x : ρ) : key.compare x x = .eq := Std.ReflCmp.compare_self

theorem compare_eq_swap (x y : ρ) : key.compare x y = (key.compare y x).swap :=
  Std.OrientedCmp.eq_swap

/-- Over a record in the middle the order says what it says of the two steps. -/
theorem Orders.compare_eq_then {records : List ρ} (h : key.Orders records) {x y z : ρ}
    (hx : x ∈ records) (hy : y ∈ records) (hz : z ∈ records)
    (first : (key.compare x y).isLE = true) (second : (key.compare y z).isLE = true) :
    key.compare x z = (key.compare x y).then (key.compare y z) := by
  -- the key compares the records of the list as orders do
  let compared (a b : {x // x ∈ records}) : Ordering := key.compare a.1 b.1
  have : Std.TransCmp compared :=
    { eq_swap := compare_eq_swap _ _
      isLE_trans := fun {a b c} => h a.1 a.2 b.1 b.2 c.1 c.2 }
  have le : (compared ⟨y, hy⟩ ⟨z, hz⟩).isLE = true := second
  rcases Ordering.isLE_iff_eq_lt_or_eq_eq.1 first with before | same
  · have lt : compared ⟨x, hx⟩ ⟨y, hy⟩ = .lt := before
    have far : compared ⟨x, hx⟩ ⟨z, hz⟩ = .lt := Std.TransCmp.lt_of_lt_of_isLE lt le
    rw [before]
    exact far
  · have eq : compared ⟨x, hx⟩ ⟨y, hy⟩ = .eq := same
    have far : compared ⟨x, hx⟩ ⟨z, hz⟩ = compared ⟨y, hy⟩ ⟨z, hz⟩ := Std.TransCmp.congr_left eq
    rw [same]
    exact far

/-! ### Ranks -/

/-- A record in front of all others of the list may join it. -/
theorem Orders.cons_of_lt {x : ρ} {records : List ρ} (h : key.Orders records)
    (front : ∀ y ∈ records, key.compare x y = .lt) : key.Orders (x :: records) := by
  have last : ∀ y ∈ records, (key.compare y x).isLE ≠ true := fun y hy => by
    rw [compare_eq_swap, front y hy]
    decide
  have least : ∀ y ∈ x :: records, (key.compare x y).isLE = true :=
    List.forall_mem_cons.2 ⟨by rw [compare_self]; rfl, fun y hy => by rw [front y hy]; rfl⟩
  intro a ha b hb c hc ab bc
  rcases List.mem_cons.1 ha with isx | ha
  · exact isx ▸ least c hc
  rcases List.mem_cons.1 hb with isx | hb
  · exact absurd (isx ▸ ab) (last a ha)
  rcases List.mem_cons.1 hc with isx | hc
  · exact absurd (isx ▸ bc) (last b hb)
  exact h a ha b hb c hc ab bc

/-- A record that stands to the records of the list as one of them does may join it. -/
theorem Orders.cons_of_alike {x y : ρ} {records : List ρ} (h : key.Orders records)
    (hy : y ∈ records) (alike : ∀ z ∈ records, key.compare x z = key.compare y z) :
    key.Orders (x :: records) := by
  have same : key.compare x y = .eq := (alike y hy).trans (compare_self y)
  -- each record has one of the list that stands to all as it does
  have stands : ∀ a ∈ x :: records, ∃ b ∈ records, ∀ z ∈ x :: records,
      key.compare a z = key.compare b z := by
    refine List.forall_mem_cons.2 ⟨⟨y, hy, List.forall_mem_cons.2 ⟨?_, alike⟩⟩,
      fun a ha => ⟨a, ha, fun z _ => rfl⟩⟩
    rw [compare_self, compare_eq_swap, same]
    rfl
  have both {a a' b b' : ρ} (ha' : a' ∈ records) (hb : b ∈ x :: records)
      (sa : ∀ z ∈ x :: records, key.compare a z = key.compare a' z)
      (sb : ∀ z ∈ x :: records, key.compare b z = key.compare b' z) :
      key.compare a b = key.compare a' b' := by
    rw [sa b hb, compare_eq_swap, sb a' (List.mem_cons_of_mem x ha'), ← compare_eq_swap]
  intro a ha b hb c hc ab bc
  obtain ⟨a', ha', sa⟩ := stands a ha
  obtain ⟨b', hb', sb⟩ := stands b hb
  obtain ⟨c', hc', sc⟩ := stands c hc
  rw [both ha' hb sa sb] at ab
  rw [both hb' hc sb sc] at bc
  rw [both ha' hc sa sc]
  exact h a' ha' b' hb' c' hc' ab bc

/-- Records stand in ranks exactly if the key is an order on them and none of them precedes one in
    front of it. -/
theorem inRanks_iff {records : List ρ} :
    key.inRanks records = true ↔
      key.Orders records ∧ records.Pairwise fun x y => (key.compare x y).isLE = true := by
  fun_induction inRanks key records with
  | case1 x y rest ih =>
    rw [Bool.and_eq_true, Bool.and_eq_true, List.all_eq_true, ih]
    simp only [decide_eq_true_eq]
    constructor
    · rintro ⟨⟨first, stands⟩, order, le⟩
      have least : ∀ z ∈ y :: rest, (key.compare y z).isLE = true :=
        List.forall_mem_cons.2 ⟨by rw [compare_self]; rfl, (List.pairwise_cons.1 le).1⟩
      rcases Ordering.isLE_iff_eq_lt_or_eq_eq.1 first with before | same
      · have front : ∀ z ∈ y :: rest, key.compare x z = .lt :=
          List.forall_mem_cons.2 ⟨before, fun z hz => by rw [stands z hz, before]; rfl⟩
        refine ⟨order.cons_of_lt front, List.pairwise_cons.2 ⟨fun z hz => ?_, le⟩⟩
        rw [front z hz]
        rfl
      · have alike : ∀ z ∈ y :: rest, key.compare x z = key.compare y z :=
          List.forall_mem_cons.2 ⟨same.trans (compare_self y).symm,
            fun z hz => by rw [stands z hz, same]; rfl⟩
        refine ⟨order.cons_of_alike List.mem_cons_self alike,
          List.pairwise_cons.2 ⟨fun z hz => ?_, le⟩⟩
        rw [alike z hz]
        exact least z hz
    · rintro ⟨order, le⟩
      obtain ⟨front, le⟩ := List.pairwise_cons.1 le
      have first := front y List.mem_cons_self
      refine ⟨⟨first, fun z hz => ?_⟩, order.mono (List.subset_cons_self x _), le⟩
      exact order.compare_eq_then List.mem_cons_self (by simp) (by simp [hz]) first
        ((List.pairwise_cons.1 le).1 z hz)
  | case2 records short =>
    rcases records with _ | ⟨x, _ | ⟨y, rest⟩⟩
    · exact ⟨fun _ => ⟨fun x hx => absurd hx List.not_mem_nil, .nil⟩, fun _ => rfl⟩
    · refine ⟨fun _ => ⟨?_, List.pairwise_singleton _ _⟩, fun _ => rfl⟩
      have alone : key.Orders ([] : List ρ) := fun x hx => absurd hx List.not_mem_nil
      exact alone.cons_of_lt fun y hy => absurd hy List.not_mem_nil
    · exact absurd rfl (short x y rest)

/-! ### What stands for records -/

/-- The key for things that stand for records. -/
def comap (key : SortKey ρ) (f : σ → ρ) : SortKey σ :=
  ⟨⟨key.field.info, fun x => key.field.read (f x)⟩, key.order⟩

theorem map_insertBack_comap (f : σ → ρ) (x : σ) (sorted : List σ) :
    ((key.comap f).insertBack x sorted).map f = key.insertBack (f x) (sorted.map f) := by
  induction sorted with
  | nil => rfl
  | cons y rest ih =>
    rw [List.map_cons, insertBack, insertBack]
    show List.map f (if key.compare (f x) (f y) = .lt then _ else _) = _
    by_cases h : key.compare (f x) (f y) = .lt
    · rw [if_pos h, if_pos h, List.map_cons, ih]
    · rw [if_neg h, if_neg h, List.map_cons, List.map_cons]

theorem map_insertAll_comap (f : σ → ρ) (xs : List σ) :
    ((key.comap f).insertAll xs).map f = key.insertAll (xs.map f) := by
  have fold : ∀ xs sorted : List σ,
      (xs.foldl (fun sorted x => (key.comap f).insertBack x sorted) sorted).map f =
        (xs.map f).foldl (fun sorted r => key.insertBack r sorted) (sorted.map f) := by
    intro xs
    induction xs with
    | nil => intro sorted; rfl
    | cons x xs ih =>
      intro sorted
      rw [List.map_cons, List.foldl_cons, List.foldl_cons, ih, map_insertBack_comap]
  rw [insertAll, insertAll, List.map_reverse, fold]
  rfl

theorem inOrder_comap (f : σ → ρ) (xs : List σ) :
    (key.comap f).inOrder xs = key.inOrder (xs.map f) := by
  fun_induction inOrder (key.comap f) xs with
  | case1 x y rest ih =>
    rw [ih]
    rfl
  | case2 xs short =>
    rcases xs with _ | ⟨x, _ | ⟨y, rest⟩⟩
    · rfl
    · rfl
    · exact absurd rfl (short x y rest)

theorem inRanks_comap (f : σ → ρ) (xs : List σ) :
    (key.comap f).inRanks xs = key.inRanks (xs.map f) := by
  fun_induction inRanks (key.comap f) xs with
  | case1 x y rest ih =>
    rw [ih]
    simp only [List.map_cons, inRanks, List.all_map]
    rfl
  | case2 xs short =>
    rcases xs with _ | ⟨x, _ | ⟨y, rest⟩⟩
    · rfl
    · rfl
    · exact absurd rfl (short x y rest)

/-- Sorting what stands for records sorts the records. -/
theorem map_sort_comap (f : σ → ρ) (xs : List σ) :
    ((key.comap f).sort xs).map (List.map f) = key.sort (xs.map f) := by
  rw [sort, sort, List.length_map, inOrder_comap, inRanks_comap, map_insertAll_comap,
    apply_ite (Option.map (List.map f)), Option.map_some, Option.map_none, map_insertAll_comap]

/-! ### Numbered records -/

/-- A numbered record comes before another one: the key puts it first, or counts both as equal and
    its number is the smaller one. -/
def Before (key : SortKey ρ) (p q : ρ × Nat) : Prop :=
  key.compare p.1 q.1 = .lt ∨ key.compare p.1 q.1 = .eq ∧ p.2 < q.2

theorem Before.isLE {p q : ρ × Nat} (h : key.Before p q) : (key.compare p.1 q.1).isLE = true := by
  rcases h with h | ⟨h, -⟩ <;> rw [h] <;> rfl

theorem before_of_isLE {p q : ρ × Nat} (h : (key.compare p.1 q.1).isLE = true) (number : p.2 < q.2) :
    key.Before p q := by
  rcases Ordering.isLE_iff_eq_lt_or_eq_eq.1 h with h | h
  · exact .inl h
  · exact .inr ⟨h, number⟩

/-- A record that is numbered last is put at its place among sorted ones, which are listed last
    first. -/
theorem pairwise_insertBack {p : ρ × Nat} {sorted : List (ρ × Nat)}
    (orders : key.Orders ((p :: sorted).map Prod.fst)) (last : ∀ q ∈ sorted, q.2 < p.2)
    (h : sorted.Pairwise fun q r => key.Before r q) :
    ((key.comap Prod.fst).insertBack p sorted).Pairwise fun q r => key.Before r q := by
  induction sorted with
  | nil => exact List.pairwise_singleton _ _
  | cons q rest ih =>
    rw [List.forall_mem_cons] at last
    rw [List.pairwise_cons] at h
    rw [insertBack]
    show List.Pairwise _ (if key.compare p.1 q.1 = .lt then _ else _)
    by_cases first : key.compare p.1 q.1 = .lt
    · have fewer : (p :: rest).map Prod.fst ⊆ (p :: q :: rest).map Prod.fst :=
        List.map_subset _ (List.cons_subset_cons p (List.subset_cons_self q rest))
      rw [if_pos first, List.pairwise_cons]
      refine ⟨fun r hr => ?_, ih (orders.mono fewer) last.2 h.2⟩
      rcases List.mem_cons.1 ((insertBack_perm _ p rest).mem_iff.1 hr) with rfl | hr
      · exact .inl first
      · exact h.1 r hr
    · rw [if_neg first, List.pairwise_cons, List.pairwise_cons]
      have le : (key.compare q.1 p.1).isLE = true :=
        Std.OrientedCmp.isLE_of_isGE (Ordering.isGE_iff_ne_lt.2 first)
      refine ⟨?_, h⟩
      rw [List.forall_mem_cons]
      refine ⟨before_of_isLE le last.1, fun r hr => before_of_isLE ?_ (last.2 r hr)⟩
      -- what comes before the last one that stays before the record comes before it too
      have member : r.1 ∈ (p :: q :: rest).map Prod.fst := List.mem_map_of_mem (by simp [hr])
      exact orders r.1 member q.1 (by simp) p.1 (by simp) (h.1 r hr).isLE le

/-- Numbered records that are put in one after the other come to stand in order. -/
theorem pairwise_foldl_insertBack {ps sorted : List (ρ × Nat)}
    (orders : key.Orders ((ps ++ sorted).map Prod.fst)) (numbers : ps.Pairwise fun p q => p.2 < q.2)
    (last : ∀ p ∈ ps, ∀ q ∈ sorted, q.2 < p.2) (h : sorted.Pairwise fun q r => key.Before r q) :
    (ps.foldl (fun sorted p => (key.comap Prod.fst).insertBack p sorted) sorted).Pairwise
      fun q r => key.Before r q := by
  induction ps generalizing sorted with
  | nil => exact h
  | cons p ps ih =>
    rw [List.forall_mem_cons] at last
    rw [List.pairwise_cons] at numbers
    have perm : ((key.comap Prod.fst).insertBack p sorted).Perm (p :: sorted) :=
      insertBack_perm _ p sorted
    have here : (p :: sorted).map Prod.fst ⊆ (p :: ps ++ sorted).map Prod.fst :=
      List.map_subset _ (List.cons_subset_cons p (List.subset_append_right ps sorted))
    have moved : (ps ++ (key.comap Prod.fst).insertBack p sorted).Perm (p :: ps ++ sorted) :=
      (perm.append_left ps).trans List.perm_middle
    refine ih (orders.mono (moved.map Prod.fst).subset) numbers.2 (fun q hq r hr => ?_)
      (pairwise_insertBack (orders.mono here) last.1 h)
    rcases List.mem_cons.1 (perm.mem_iff.1 hr) with rfl | hr
    · exact numbers.1 q hq
    · exact last.2 q hq r hr

theorem pairwise_zipIdx (records : List ρ) : records.zipIdx.Pairwise fun p q => p.2 < q.2 := by
  rw [← List.pairwise_map, List.zipIdx_map_snd]
  exact List.pairwise_lt_range' 1

/-- Records that are numbered upwards come to stand in one strict order. -/
theorem pairwise_insertAll_comap {ps : List (ρ × Nat)} (orders : key.Orders (ps.map Prod.fst))
    (numbers : ps.Pairwise fun p q => p.2 < q.2) :
    ((key.comap Prod.fst).insertAll ps).Pairwise key.Before := by
  rw [insertAll, List.pairwise_reverse]
  refine pairwise_foldl_insertBack ?_ numbers (fun p _ q hq => absurd hq List.not_mem_nil) .nil
  rwa [List.append_nil]

/-- The records that were put in, with the numbers that they have in the list, are in one strict
    order. -/
theorem exists_numbered {records : List ρ} (orders : key.Orders records) :
    ∃ numbered : List (ρ × Nat), numbered.Perm records.zipIdx ∧
      numbered.map Prod.fst = key.insertAll records ∧ numbered.Pairwise key.Before := by
  have names : records.zipIdx.map Prod.fst = records := List.zipIdx_map_fst 0 records
  refine ⟨(key.comap Prod.fst).insertAll records.zipIdx, insertAll_perm _ _, ?_, ?_⟩
  · rw [map_insertAll_comap, names]
  · exact pairwise_insertAll_comap (names.symm ▸ orders) (pairwise_zipIdx records)

/-! ### Results -/

/-- No record stands behind one that it should precede. -/
theorem pairwise_insertAll {records : List ρ} (orders : key.Orders records) :
    (key.insertAll records).Pairwise fun x y => (key.compare x y).isLE = true := by
  obtain ⟨numbered, -, names, before⟩ := exists_numbered orders
  rw [← names, List.pairwise_map]
  exact before.imp Before.isLE

/-- A sort is sure of its result, however the records stand and whichever of them are left out: there
    are few, or the key is an order on them. -/
def Copes (key : SortKey ρ) (records : List ρ) : Prop :=
  records.length ≤ fewRecords ∨ key.Orders records

theorem Copes.mono {xs ys : List ρ} (h : key.Copes ys) (fewer : xs.length ≤ ys.length)
    (sub : xs ⊆ ys) : key.Copes xs :=
  h.imp fewer.trans fun orders => orders.mono sub

/-- A sort is sure of its result. This is also so where the records stand in order already. -/
def Settles (key : SortKey ρ) (records : List ρ) : Prop :=
  key.Copes records ∨ key.inOrder records = true

/-- What a sort finds out from the records it has put in is whether the key is an order on them. -/
theorem inRanks_insertAll_iff {records : List ρ} :
    key.inRanks (key.insertAll records) = true ↔ key.Orders records := by
  have perm := key.insertAll_perm records
  rw [inRanks_iff]
  exact ⟨fun h => h.1.mono perm.symm.subset,
    fun orders => ⟨orders.mono perm.subset, pairwise_insertAll orders⟩⟩

theorem sort_eq_some_iff {records result : List ρ} :
    key.sort records = some result ↔ key.Settles records ∧ result = key.insertAll records := by
  have sure : (decide (records.length ≤ fewRecords) || key.inOrder records ||
      key.inRanks (key.insertAll records)) = true ↔ key.Settles records := by
    rw [Bool.or_eq_true, Bool.or_eq_true, decide_eq_true_iff, inRanks_insertAll_iff, or_right_comm]
    rfl
  rw [sort, Option.ite_none_right_eq_some, sure, Option.some_inj, eq_comm]

theorem sort_of_orders {records : List ρ} (orders : key.Orders records) :
    key.sort records = some (key.insertAll records) :=
  sort_eq_some_iff.2 ⟨.inl (.inr orders), rfl⟩

end SortKey

end RecordSearch
