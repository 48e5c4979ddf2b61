import Mathlib.Algebra.Ring.Nat
import RecordSearch.Proofs.Search
import RecordSearch.Proofs.Sorting

/-! Pages cut the ordered match set up.

    All requests that differ only in the page number cut the same list into runs of one size. The
    runs follow each other without gap or overlap: their numbers go up to the largest 64-bit
    integer, which no list in memory can reach, so the cap on the number of records to skip is never
    met before the list has ended. -/

namespace RecordSearch

/-! ### Runs of a list -/

/-- Runs of one size, one after the other, are the start of the list that they reach. -/
theorem flatMap_runs {α : Type} (xs : List α) (size count : Nat) :
    ((List.range count).flatMap fun i => (xs.drop (i * size)).take size) =
      xs.take (count * size) := by
  induction count with
  | zero => rw [List.range_zero, List.flatMap_nil, Nat.zero_mul, List.take_zero]
  | succ count ih =>
    rw [List.range_succ, List.flatMap_append, List.flatMap_singleton, ih]
    rw [Nat.succ_mul, List.take_add]

/-! ### Pages cut out of a list -/

namespace ResultPage

variable {α : Type}

/-- Fewer runs than there are pages do not reach the end. -/
theorem lt_totalPages_iff {r : ResultPage α} (h : 0 < r.pageSize) {i : Nat} :
    i < r.totalPages ↔ i * r.pageSize < r.totalCount := by
  rw [totalPages, if_neg (Nat.ne_of_gt h), Nat.lt_div_iff_mul_lt h, Nat.add_sub_cancel]

/-- More items follow as long as the pages so far do not hold all of them. -/
theorem hasMore_iff {r : ResultPage α} (h : r.totalCount ≤ countLimit) :
    r.hasMore = true ↔ r.page * r.pageSize < r.totalCount := by
  rw [hasMore, decide_eq_true_iff]
  omega

/-- The page with a number, cut out of all items. -/
def cut (all : List α) (size number : Nat) : ResultPage α :=
  ⟨(all.drop ((number - 1) * size)).take size, all.length, number, size⟩

section

variable (all : List α) {size : Nat} (positive : 0 < size) {i n : Nat}

theorem items_cut (i : Nat) : (cut all size (i + 1)).items = (all.drop (i * size)).take size := by
  rw [cut, Nat.add_sub_cancel]

theorem length_items_cut (i : Nat) :
    (cut all size (i + 1)).items.length = min size (all.length - i * size) := by
  rw [items_cut, List.length_take, List.length_drop]

include positive

theorem lt_totalPages_cut_iff : i < (cut all size n).totalPages ↔ i * size < all.length :=
  lt_totalPages_iff positive

/-- A page holds at least one item, so there are no more pages than items. -/
theorem totalPages_cut_le : (cut all size n).totalPages ≤ all.length := by
  rcases Nat.lt_or_ge all.length (cut all size n).totalPages with more | few
  · have reached : all.length * 1 ≤ all.length * size := Nat.mul_le_mul_left _ positive
    have short := (lt_totalPages_cut_iff all positive).1 more
    omega
  · exact few

/-- The pages up to the last one hold all items, in order. -/
theorem flatMap_items_cut :
    ((List.range (cut all size n).totalPages).flatMap fun i => (cut all size (i + 1)).items) =
      all := by
  simp only [items_cut]
  rw [flatMap_runs, List.take_of_length_le]
  refine Nat.le_of_not_lt fun short => ?_
  exact Nat.lt_irrefl _ ((lt_totalPages_cut_iff all positive).2 short)

/-- A page before the last one is full. -/
theorem length_items_cut_of_lt (h : i + 1 < (cut all size n).totalPages) :
    (cut all size (i + 1)).items.length = size := by
  have reached := (lt_totalPages_cut_iff all positive).1 h
  rw [Nat.succ_mul] at reached
  rw [length_items_cut]
  omega

/-- The last page is not empty. -/
theorem one_le_length_items_cut (h : i < (cut all size n).totalPages) :
    1 ≤ (cut all size (i + 1)).items.length := by
  have reached := (lt_totalPages_cut_iff all positive).1 h
  rw [length_items_cut]
  omega

/-- Behind the last page there is nothing. -/
theorem items_cut_eq_nil (h : (cut all size n).totalPages ≤ i) :
    (cut all size (i + 1)).items = [] := by
  have reached : ¬ i * size < all.length := fun short =>
    Nat.not_lt.2 h ((lt_totalPages_cut_iff all positive).2 short)
  rw [← List.length_eq_zero_iff, length_items_cut]
  omega

/-- More items follow exactly when the next page has some. -/
theorem hasMore_cut_iff (counted : all.length ≤ countLimit) :
    (cut all size (i + 1)).hasMore = true ↔ (cut all size (i + 2)).items ≠ [] := by
  rw [hasMore_iff counted, ne_eq, ← List.length_eq_zero_iff, length_items_cut]
  show (i + 1) * size < all.length ↔ _
  omega

end

end ResultPage

/-! ### Answers for every page -/

/-- The answers to one request for every page: together they hold all items, each on one page, and
    every answer tells how many there are and whether more follow. -/
structure Paginates {α : Type} (answer : Option Int64 → ResultPage α) (all : List α) : Prop where
  totalCount : ∀ p, (answer p).totalCount = all.length
  pageSize : ∀ p q, (answer p).pageSize = (answer q).pageSize
  joined : ((List.range (answer none).totalPages).flatMap fun i =>
    (answer (some (.ofNat (i + 1)))).items) = all
  full : ∀ p : Nat, 1 ≤ p → p < (answer none).totalPages →
    (answer (some (.ofNat p))).items.length = (answer none).pageSize
  last : ∀ p : Nat, 1 ≤ p → p = (answer none).totalPages →
    1 ≤ (answer (some (.ofNat p))).items.length ∧
      (answer (some (.ofNat p))).items.length ≤ (answer none).pageSize
  beyond : ∀ p : Nat, (answer none).totalPages < p → p < 2 ^ 63 →
    (answer (some (.ofNat p))).items = []
  hasMore_iff : ∀ p : Nat, 1 ≤ p → p < 2 ^ 63 - 1 →
    ((answer (some (.ofNat p))).hasMore = true ↔ (answer (some (.ofNat (p + 1)))).items ≠ [])

/-- The number of the page that counts for a page asked for. -/
def pageNumber (page : Option Int64) : Nat := (max 1 ((page.map Int64.toInt).getD 1)).toNat

theorem pageNumber_ofNat {p : Nat} (one : 1 ≤ p) (h : p < 2 ^ 63) :
    pageNumber (some (.ofNat p)) = p := by
  rw [pageNumber, Option.map_some, Option.getD_some, Int64.toInt_ofNat_of_lt h]
  omega

/-- Answers that cut one list up by their page numbers paginate it. -/
theorem paginates_of_eq_cut {α : Type} {answer : Option Int64 → ResultPage α} {all : List α}
    {size : Nat} (positive : 0 < size) (counted : all.length < 2 ^ 63)
    (h : ∀ p, answer p = .cut all size (pageNumber p)) : Paginates answer all := by
  have onPage : ∀ i : Nat, i + 1 < 2 ^ 63 →
      answer (some (.ofNat (i + 1))) = .cut all size (i + 1) := fun i hi => by
    rw [h, pageNumber_ofNat (Nat.le_add_left 1 i) hi]
  have few : (answer none).totalPages ≤ all.length := by
    rw [h]
    exact ResultPage.totalPages_cut_le all positive
  refine ⟨?_, ?_, ?_, ?_, ?_, ?_, ?_⟩
  · intro p
    rw [h]
    rfl
  · intro p q
    rw [h, h]
    rfl
  · have numbered : ((List.range (answer none).totalPages).map fun i =>
          (answer (some (.ofNat (i + 1)))).items) =
        (List.range (answer none).totalPages).map fun i =>
          (ResultPage.cut all size (i + 1)).items :=
      List.map_congr_left fun i hi => by
        have hi' := List.mem_range.1 hi
        rw [onPage i (by omega)]
    rw [List.flatMap_def, numbered, ← List.flatMap_def, h]
    exact ResultPage.flatMap_items_cut all positive
  · intro p one more
    obtain ⟨i, rfl⟩ := Nat.exists_eq_add_of_le' one
    rw [onPage i (by omega)]
    rw [h] at more ⊢
    exact ResultPage.length_items_cut_of_lt all positive more
  · intro p one last
    obtain ⟨i, rfl⟩ := Nat.exists_eq_add_of_le' one
    rw [onPage i (by omega)]
    rw [h] at last ⊢
    constructor
    · exact ResultPage.one_le_length_items_cut all positive (Nat.lt_of_succ_le (Nat.le_of_eq last))
    · exact List.length_take_le size _
  · intro p past max
    obtain ⟨i, rfl⟩ := Nat.exists_eq_add_of_le' (Nat.one_le_of_lt past)
    rw [onPage i max]
    rw [h] at past
    exact ResultPage.items_cut_eq_nil all positive (Nat.le_of_lt_succ past)
  · intro p one max
    obtain ⟨i, rfl⟩ := Nat.exists_eq_add_of_le' one
    rw [onPage i (by omega), onPage (i + 1) (by omega)]
    refine ResultPage.hasMore_cut_iff all positive ?_
    rw [countLimit]
    omega

/-! ### Pages of a search -/

section

variable {ρ δ τ : Type} (pager : Pager) (shape : Shape ρ) (typed : δ → List (Predicate ρ))
  (records : List ρ) (r : Request δ) (project : ρ → τ)

/-- The page size that counts for a size asked for. -/
def Pager.sizeFor (pageSize : Option Int64) : Nat :=
  (clamp 1 pager.maxSize ((pageSize.map Int64.toInt).getD pager.defaultSize)).toNat

theorem Pager.sizeFor_pos (pageSize : Option Int64) : 0 < pager.sizeFor pageSize := by
  rw [sizeFor, clamp]
  omega

/-- A search cuts its page out of the records in order. -/
theorem value_search_eq_cut (counted : records.length ≤ countLimit) :
    (search pager shape typed (Source.ofList records) r project : Attempt (ResultPage τ)).value =
      (shape.ordered typed r records).map fun ordered =>
        .cut (ordered.map project) (pager.sizeFor r.pageSize) (pageNumber r.page) := by
  have window : (planRequest pager shape typed r).value.window =
      ⟨pageNumber r.page, pager.sizeFor r.pageSize,
        min ((pageNumber r.page - 1) * pager.sizeFor r.pageSize) countLimit,
        pager.sizeFor r.pageSize⟩ := by
    show (pager.windowOrDefault (r.page.map Int64.toInt) (r.pageSize.map Int64.toInt)).value = _
    rw [Pager.value_windowOrDefault]
    rfl
  rw [value_search_ofList]
  simp only
  rw [Plan.execute_eq _ _ counted, window, arrange_planRequest, Option.map_map]
  refine Option.map_congr fun ordered h => ?_
  have total := Plan.length_arrange ((arrange_planRequest pager shape typed r records).trans h)
  have len : ordered.length ≤ countLimit := total ▸ Nat.le_trans List.countP_le_length counted
  rw [ResultPage.cut, Function.comp_apply, ← total, List.map_take, List.map_drop, List.length_map]
  -- the cap on the records to skip lies behind the end of the list
  congr 2
  rw [List.drop_eq_drop_iff, List.length_map]
  show min (min ((pageNumber r.page - 1) * pager.sizeFor r.pageSize) countLimit) _ = _
  omega

/-- Which records stand in which order has nothing to do with the page. -/
theorem ordered_of_page (page : Option Int64) :
    shape.ordered typed { r with page := page } records = shape.ordered typed r records := by
  rw [← arrange_planRequest .standard, ← arrange_planRequest .standard]
  rfl

/-- Which records are selected has nothing to do with paging or sorting. -/
theorem selected_of_paging (page pageSize : Option Int64) (sortBy sortOrder : Option String) :
    (records.filter fun x => shape.Selects typed
        { r with page := page, pageSize := pageSize, sortBy := sortBy, sortOrder := sortOrder } x) =
      records.filter fun x => shape.Selects typed r x := by
  rw [← filter_accepts_planRequest .standard, ← filter_accepts_planRequest .standard]
  rfl

/-- One request asked for every page. If the order that is asked for is sure of a result, every page
    is answered, and the answers cut the selected records, in that order, into pages. Whatever the
    paging and the order of a request, it is answered if its order is sure of a result, and every
    answer tells the same number of selected records. -/
theorem search_ofList_paginates (counted : records.length < 2 ^ 63) :
    (shape.Settles typed r records → ∃ ordered, shape.ordered typed r records = some ordered ∧
      ordered.Perm (records.filter fun x => shape.Selects typed r x) ∧
      ∃ answer : Option Int64 → ResultPage τ,
        (∀ page, (search pager shape typed (Source.ofList records) { r with page := page } project :
          Attempt (ResultPage τ)).value = some (answer page)) ∧
        Paginates answer (ordered.map project)) ∧
      ∀ page pageSize sortBy sortOrder,
        let s : Request δ :=
          { r with page := page, pageSize := pageSize, sortBy := sortBy, sortOrder := sortOrder }
        (shape.Settles typed s records → ∃ found : ResultPage τ,
          (search pager shape typed (Source.ofList records) s project :
            Attempt (ResultPage τ)).value = some found) ∧
        ∀ found : ResultPage τ,
          (search pager shape typed (Source.ofList records) s project :
            Attempt (ResultPage τ)).value = some found →
          found.totalCount = (records.filter fun x => shape.Selects typed r x).length := by
  have capped : records.length ≤ countLimit := by
    rw [countLimit]
    omega
  refine ⟨fun settles => ?_, fun page pageSize sortBy sortOrder =>
    ⟨exists_search_ofList_iff.2, fun found answered => ?_⟩⟩
  · obtain ⟨ordered, h⟩ := Shape.exists_ordered_iff.2 settles
    have selected := Shape.ordered_perm h
    refine ⟨ordered, h, selected,
      fun page => .cut (ordered.map project) (pager.sizeFor r.pageSize) (pageNumber page),
      fun page => ?_, paginates_of_eq_cut (pager.sizeFor_pos r.pageSize) ?_ fun page => rfl⟩
    · rw [value_search_eq_cut _ _ _ _ _ _ capped, ordered_of_page, h]
      rfl
    · rw [List.length_map, selected.length_eq]
      exact Nat.lt_of_le_of_lt (List.length_filter_le _ _) counted
  · rw [totalCount_search_ofList answered, selected_of_paging]

end

/-- The confirmed sample users by name, three on a page. -/
theorem search_ofList_paginates_sampleUsers :
    let r : Request UserFilters :=
      { pageSize := some 3, sortBy := some "fullName", domain := { isEmailVerified := some true } }
    sampleUsers.length < 2 ^ 63 ∧ User.shape.Settles UserFilters.predicates r sampleUsers ∧
      ∃ ordered, User.shape.ordered UserFilters.predicates r sampleUsers = some ordered ∧
        ∃ answer : Option Int64 → ResultPage UserResponse,
          (∀ page, (search .standard User.shape UserFilters.predicates (Source.ofList sampleUsers)
            { r with page := page } User.response : Attempt _).value = some (answer page)) ∧
          Paginates answer (ordered.map User.response) := by
  intro r
  have counted : sampleUsers.length < 2 ^ 63 := by decide
  have settles : User.shape.Settles UserFilters.predicates r sampleUsers :=
    (Shape.copes_of_few (by decide)).settles
  obtain ⟨ordered, h, -, pages⟩ := (search_ofList_paginates .standard User.shape
    UserFilters.predicates sampleUsers r User.response counted).1 settles
  exact ⟨counted, settles, ordered, h, pages⟩

/-- Asked for by weight, weights are counted if they can be sorted. -/
theorem totalCount_by_weight (vs : List Value) :
    (search .standard weightShape (fun _ => []) (Source.ofList vs)
        ({ sortBy := some "weight", sortOrder := some "asc", domain := () } : Request Unit) id :
        Attempt (ResultPage Value)).value.map ResultPage.totalCount =
      (byWeight.sort vs).map fun _ => vs.length := by
  let plan := (planRequest .standard weightShape (fun _ => [])
    ({ sortBy := some "weight", sortOrder := some "asc", domain := () } : Request Unit)).value
  have sort : plan.sort = some byWeight := rfl
  have accepts : plan.predicate.accepts = fun _ => true := rfl
  have all : vs.filter (fun _ => true) = vs := List.filter_eq_self.2 fun _ _ => rfl
  have count : vs.countP (fun _ => true) = vs.length := by rw [List.countP_true]
  rw [value_search_ofList]
  show Option.map _ (Option.map _ (plan.execute vs)) = _
  simp only [Plan.execute, sort, accepts, all, Option.map_map]
  refine Option.map_congr fun sorted _ => count

/-- Weights with what is not a number in between: asked for as they stand there are twenty-one of
    them, and asked for by weight there is no answer. -/
theorem search_scatteredWeights :
    let ask (r : Request Unit) := (search .standard weightShape (fun _ => [])
      (Source.ofList scatteredWeights) r id : Attempt (ResultPage Value)).value
    let r : Request Unit := { domain := () }
    scatteredWeights.length < 2 ^ 63 ∧ (ask r).map ResultPage.totalCount = some 21 ∧
      ask { r with sortBy := some "weight", sortOrder := some "asc" } = none := by
  intro ask r
  have unsorted : byWeight.sort scatteredWeights = none := by decide
  refine ⟨by decide, ?_, Option.map_eq_none_iff.1 ((totalCount_by_weight scatteredWeights).trans ?_)⟩
  · simp only [ask, value_search_ofList]
    rfl
  · rw [unsorted]
    rfl

end RecordSearch
