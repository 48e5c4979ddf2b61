import RecordSearch.Proofs.Pages
import RecordSearch.Users.Sample

/-! Lists of the same records in another order.

    How many records match does not depend on where they stand. Nor does the page, as long as the
    records are sorted and no two matching ones count as equal: then there is only one order in which
    they can stand. Whether a sort gives up may depend on it, if the key is no order on the records. -/

namespace RecordSearch

variable {ρ δ τ : Type}

/-- Plans that sort records without ties give the same page in whatever order the list has them. -/
theorem Plan.execute_eq_of_perm {plan : Plan ρ} {key : SortKey ρ} (sort : plan.sort = some key)
    {xs ys : List ρ} (perm : xs.Perm ys) (orders : key.Orders xs)
    (distinct : (xs.filter plan.predicate.accepts).Pairwise fun x y => key.compare x y ≠ .eq) :
    plan.execute xs = plan.execute ys := by
  have sorted : key.sort (xs.filter plan.predicate.accepts) =
      key.sort (ys.filter plan.predicate.accepts) :=
    SortKey.sort_eq_of_perm (orders.mono (List.filter_subset_self xs))
      (perm.filter plan.predicate.accepts) distinct
  simp only [execute, sort, sorted]

/-- A sort that copes with the selected records of a list copes with them in another order. -/
theorem Shape.Copes.perm {shape : Shape ρ} {typed : δ → List (Predicate ρ)} {r : Request δ}
    {xs ys : List ρ} (h : shape.Copes typed r xs) (perm : xs.Perm ys) : shape.Copes typed r ys :=
  fun key hk =>
    have selected := perm.filter fun x => decide (shape.Selects typed r x)
    (h key hk).mono selected.symm.length_eq.le selected.symm.subset

/-- The order of a list has no effect on the total of an answer, and none on whether there is an
    answer, if a sort copes with the matching records. It has no effect on any page either, if the
    plan sorts by a field that is not of floating point numbers, under which the records hold null or
    values of the declared kind and no two matching ones count as equal: then both lists answer every
    page alike. -/
theorem search_ofList_perm (pager : Pager) (shape : Shape ρ) (typed : δ → List (Predicate ρ))
    (r : Request δ) (project : ρ → τ) {xs ys : List ρ} (perm : xs.Perm ys) :
    let plan := (planRequest pager shape typed r).value
    let ask (records : List ρ) (r : Request δ) := (search pager shape typed
      (Source.ofList records) r project : Attempt (ResultPage τ)).value
    (∀ found other, ask xs r = some found → ask ys r = some other →
      found.totalCount = other.totalCount) ∧
    (shape.Copes typed r xs →
      ∃ found other, ask xs r = some found ∧ ask ys r = some other) ∧
    ∀ key, plan.sort = some key → key.field.type ≠ .float32 → key.field.type ≠ .float64 →
      (∀ x ∈ xs, (key.field.read x).Has key.field.type.kind) →
      ((xs.filter plan.predicate.accepts).Pairwise fun x y => key.compare x y ≠ .eq) →
        ∀ page, ∃ found, ask xs { r with page := page } = some found ∧
          ask ys { r with page := page } = some found := by
  intro plan ask
  refine ⟨fun found other answered answered' => ?_, fun copes => ?_,
    fun key sort single double has distinct page => ?_⟩
  · rw [totalCount_search_ofList answered, totalCount_search_ofList answered']
    exact (perm.filter _).length_eq
  · obtain ⟨found, answered⟩ := exists_search_ofList_iff.2 copes.settles
    obtain ⟨other, answered'⟩ := exists_search_ofList_iff.2 (copes.perm perm).settles
    exact ⟨found, other, answered, answered'⟩
  · have orders : key.Orders xs := SortKey.orders_of_has single double has
    have sort' : (planRequest pager shape typed { r with page := page }).value.sort = some key := sort
    have items := Plan.execute_eq_of_perm sort' perm orders distinct
    obtain ⟨found, answered⟩ : ∃ found, ask xs { r with page := page } = some found := by
      refine exists_search_ofList_iff.2 fun key' asked => ?_
      rw [← sort_planRequest_eq_sortKey pager, sort'] at asked
      obtain rfl := Option.some.inj asked
      exact .inl (.inr (orders.mono (List.filter_subset_self xs)))
    refine ⟨found, answered, answered ▸ ?_⟩
    simp only [ask, value_search_ofList, ← items, perm.countP_eq]

/-- The confirmed sample users by name, forwards and backwards. -/
theorem search_ofList_perm_sampleUsers :
    let r : Request UserFilters :=
      { sortBy := some "FULLNAME", sortOrder := some "ASC", pageSize := some 2,
        domain := { isEmailVerified := some true } }
    let plan := (planRequest .standard User.shape UserFilters.predicates r).value
    let key : SortKey User := ⟨User.fullNameField, .ascending⟩
    let ask (records : List User) := (search .standard User.shape UserFilters.predicates
      (Source.ofList records) { r with page := some 2 } User.response : Attempt _).value
    sampleUsers.Perm sampleUsers.reverse ∧ plan.sort = some key ∧
      (∀ x ∈ sampleUsers, (key.field.read x).Has key.field.type.kind) ∧
      ((sampleUsers.filter plan.predicate.accepts).Pairwise fun x y => key.compare x y ≠ .eq) ∧
      ∃ found, ask sampleUsers = some found ∧ ask sampleUsers.reverse = some found := by
  intro r plan key ask
  have perm : sampleUsers.Perm sampleUsers.reverse := (List.reverse_perm _).symm
  have sort : plan.sort = some key := rfl
  have has : ∀ x ∈ sampleUsers, (key.field.read x).Has key.field.type.kind := fun _ _ => rfl
  have distinct :
      (sampleUsers.filter plan.predicate.accepts).Pairwise fun x y => key.compare x y ≠ .eq := by
    decide
  exact ⟨perm, sort, has, distinct, (search_ofList_perm _ _ _ r User.response perm).2.2 key sort
    (by decide) (by decide) has distinct _⟩

/-- The scattered weights in ascending order, what is not a number last. -/
def gatheredWeights : List Value :=
  weights [some 1, some 2, some 2, some 2, some 3, some 3, some 4, some 5, some 6, some 8, some 8,
    some 8, some 8, some 8, some 9, some 9, none, none, none, none, none]

/-- Asked for by weight there are twenty-one of these. The same weights in another order have no
    answer. -/
theorem search_gatheredWeights :
    let ask (vs : List Value) := (search .standard weightShape (fun _ => []) (Source.ofList vs)
      ({ sortBy := some "weight", sortOrder := some "asc", domain := () } : Request Unit) id :
        Attempt (ResultPage Value)).value
    gatheredWeights.Perm scatteredWeights ∧
      (ask gatheredWeights).map ResultPage.totalCount = some 21 ∧ ask scatteredWeights = none := by
  intro ask
  have sorted : byWeight.sort gatheredWeights = some gatheredWeights := by decide
  have unsorted : byWeight.sort scatteredWeights = none := by decide
  have counted (vs : List Value) : (ask vs).map ResultPage.totalCount = _ := totalCount_by_weight vs
  refine ⟨by decide, ?_, Option.map_eq_none_iff.1 ((counted scatteredWeights).trans ?_)⟩
  · rw [counted, sorted]
    rfl
  · rw [unsorted]
    rfl

end RecordSearch
