import RecordSearch.Proofs.Blocks

/-! The two directions of a sort.

    Turning the direction round does not turn the sorted list round: records that count as equal
    keep the order of the list in either direction. They come the other way round only if the list
    does. So the sort in one direction is the mirror image of the sort in the other, of the mirror
    image of the list.

        list        b₁ a₁ b₂ a₂        ascending     a₁ a₂ b₁ b₂
        mirrored    a₂ b₂ a₁ b₁        ascending     a₂ a₁ b₂ b₁
        list        b₁ a₁ b₂ a₂        descending    b₁ b₂ a₁ a₂

    With the records numbered, mirroring the list turns round the order of the numbers, and the
    other direction turns round the order of the key. Both together turn round the one strict order
    that a sorted list is in. -/

namespace RecordSearch

/-- The other direction. -/
def SortOrder.turned : SortOrder → SortOrder
  | ascending => descending
  | descending => ascending

namespace SortKey

variable {ρ : Type} {key : SortKey ρ} {p q : ρ × Nat} {n : Nat}

/-- The key in the other direction. -/
def turned (key : SortKey ρ) : SortKey ρ := ⟨key.field, key.order.turned⟩

theorem compare_turned (key : SortKey ρ) (x y : ρ) : key.turned.compare x y = key.compare y x := by
  cases direction : key.order with
  | ascending =>
    have other : key.turned.order = .descending := by rw [turned, direction]; rfl
    rw [compare_of_descending other, compare_of_ascending direction]
    rfl
  | descending =>
    have other : key.turned.order = .ascending := by rw [turned, direction]; rfl
    rw [compare_of_ascending other, compare_of_descending direction]
    rfl

/-- A numbered record, with its number counted from the other end of a list. -/
def renumbered (n : Nat) (p : ρ × Nat) : ρ × Nat := (p.1, n - p.2)

/-- With the numbers counted from the other end, the other direction turns round which of two
    numbered records comes before the other. -/
theorem Before.renumbered (h : key.Before p q) (bound : q.2 ≤ n) :
    key.turned.Before (renumbered n q) (renumbered n p) := by
  rw [Before, compare_turned]
  rcases h with less | ⟨same, number⟩
  · exact .inl less
  · have turned : n - q.2 < n - p.2 := by omega
    exact .inr ⟨same, turned⟩

/-- Where a key is an order, the other direction is one too. -/
theorem Orders.turned {records : List ρ} (h : key.Orders records) : key.turned.Orders records := by
  intro x hx y hy z hz first second
  rw [compare_turned] at *
  exact h z hz y hy x hx second first

/-- Putting records in by the other direction gives the mirror image of what the direction makes of
    the mirror image. -/
theorem insertAll_turned {records : List ρ} (orders : key.Orders records) :
    key.turned.insertAll records = (key.insertAll records.reverse).reverse := by
  obtain ⟨numbered, perm, names, before⟩ :=
    exists_numbered (orders.mono (List.reverse_perm records).subset)
  have bound : ∀ q ∈ records.reverse.zipIdx, q.2 ≤ records.length := fun q hq => by
    simpa using (List.snd_lt_of_mem_zipIdx hq).le
  have records_eq (ps : List (ρ × Nat)) :
      (ps.map (renumbered records.length)).reverse.map Prod.fst = (ps.map Prod.fst).reverse := by
    rw [List.map_reverse, List.map_map]
    rfl
  have same : (records.reverse.zipIdx.map (renumbered records.length)).reverse.map Prod.fst =
      records := by
    rw [records_eq, List.zipIdx_map_fst, List.reverse_reverse]
  -- the list and its sorted mirror image, both numbered from the end of the mirror image
  have mirrored : (numbered.map (renumbered records.length)).reverse.map Prod.fst =
      key.turned.insertAll
        ((records.reverse.zipIdx.map (renumbered records.length)).reverse.map Prod.fst) := by
    refine map_fst_eq_insertAll (same.symm ▸ orders.turned) ?numbers ?perm ?before
    case numbers =>
      rw [List.pairwise_reverse, List.pairwise_map]
      refine (pairwise_zipIdx records.reverse).imp_of_mem fun {p q} _ hq less => ?_
      have last := bound q hq
      show records.length - q.2 < records.length - p.2
      omega
    case perm =>
      exact (List.reverse_perm _).trans ((perm.map _).trans (List.reverse_perm _).symm)
    case before =>
      rw [List.pairwise_reverse, List.pairwise_map]
      exact before.imp_of_mem fun _ hq h => h.renumbered (bound _ (perm.mem_iff.1 hq))
  rw [records_eq, same, names] at mirrored
  exact mirrored.symm

/-- For a field that is not of floating point numbers, under which all records hold null or values of
    its type: the records in descending order are the mirror image of the mirrored list in ascending
    order. -/
theorem sort_descending_eq_mirrored (field : Field ρ) (records : List ρ)
    (single : field.type ≠ .float32) (double : field.type ≠ .float64)
    (has : ∀ x ∈ records, (field.read x).Has field.type.kind) :
    ∃ ascending, (⟨field, .ascending⟩ : SortKey ρ).sort records.reverse = some ascending ∧
      (⟨field, .descending⟩ : SortKey ρ).sort records = some ascending.reverse := by
  have orders : (⟨field, .ascending⟩ : SortKey ρ).Orders records :=
    orders_of_has single double has
  have descending : (⟨field, .descending⟩ : SortKey ρ).sort records = some _ :=
    sort_of_orders orders.turned
  refine ⟨_, sort_of_orders (orders.mono (List.reverse_perm records).subset), ?_⟩
  rw [descending, ← insertAll_turned orders]
  rfl

/-- Users by their dates of birth, which half of them have not given: to turn the ascending list
    round would turn those round too. -/
theorem sort_descending_eq_mirrored_sampleUsers :
    let born : Field User :=
      .nullable "dateOfBirth" .timestamp (fun d : Date => .timestamp d.midnight) (·.dateOfBirth)
    born.type ≠ .float32 ∧ born.type ≠ .float64 ∧
      (∀ x ∈ sampleUsers, (born.read x).Has born.type.kind) ∧
      (∃ ascending, (⟨born, .ascending⟩ : SortKey User).sort sampleUsers.reverse = some ascending ∧
        (⟨born, .descending⟩ : SortKey User).sort sampleUsers = some ascending.reverse) ∧
      (⟨born, .descending⟩ : SortKey User).sort sampleUsers ≠
        ((⟨born, .ascending⟩ : SortKey User).sort sampleUsers).map List.reverse := by
  intro born
  have has : ∀ x ∈ sampleUsers, (born.read x).Has born.type.kind :=
    fun x _ => Field.has_nullable _ (fun _ => rfl) x
  exact ⟨by decide, by decide, has,
    sort_descending_eq_mirrored born sampleUsers (by decide) (by decide) has, by decide⟩

end SortKey

end RecordSearch
