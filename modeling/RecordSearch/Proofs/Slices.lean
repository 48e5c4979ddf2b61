import Mathlib.Algebra.Ring.Nat
import RecordSearch.Proofs.Insertion
import RecordSearch.Proofs.Plan
import RecordSearch.Users.Sample

/-! The two ways to run a plan over a list.

    Without a sort key matching records are skipped and taken as they come. With one they are all
    sorted, cut off behind the last position of the window, and freed of what stands before the
    first. Both give the slice between the two positions:

        skipped and taken     records, filtered                  [start, stop)
        cut off and freed     records, filtered, sorted          [start, stop)

    The positions of a window lie within any list, even where the records to skip and to take add up
    to more than can be counted, so there is always enough to cut off and to free. -/

namespace RecordSearch

/-! ### Positions of a window -/

/-- The positions of a window among so many records lie within them, in order, and no further apart
    than the size of the page. -/
structure Window.Within (w : Window) (count : Nat) : Prop where
  ordered : (w.range count).1 ≤ (w.range count).2
  counted : (w.range count).2 ≤ count
  size : (w.range count).2 - (w.range count).1 ≤ w.take

theorem Window.within (w : Window) {count : Nat} (h : count < 2 ^ 64) : w.Within count := by
  refine ⟨?_, ?_, ?_⟩
  · simp only [range, countLimit]
    omega
  · exact Nat.min_le_right _ _
  · simp only [range]
    omega

/-- The list without its first items, of which there have to be so many. -/
def removeFirst? {α : Type} (n : Nat) (xs : List α) : Option (List α) :=
  if n ≤ xs.length then some (xs.drop n) else none

/-- Between positions within a list, cutting off and freeing gives the slice. -/
theorem Window.Within.removeFirst?_take {α : Type} {w : Window} {xs : List α}
    (h : w.Within xs.length) :
    removeFirst? (w.range xs.length).1 (xs.take (w.range xs.length).2) =
      some (xs.extract (w.range xs.length).1 (w.range xs.length).2) := by
  have enough : (w.range xs.length).1 ≤ (xs.take (w.range xs.length).2).length := by
    rw [List.length_take, Nat.min_eq_left h.counted]
    exact h.ordered
  rw [removeFirst?, if_pos enough, List.extract_eq_drop_take']

/-! ### Records in order -/

namespace SortKey

variable {ρ : Type} {key : SortKey ρ}

/-- Putting in records that are in order behind the sorted ones keeps all of them as they stand. -/
theorem foldl_insertBack_of_pairwise {records sorted : List ρ}
    (h : (sorted.reverse ++ records).Pairwise fun x y => key.compare y x ≠ .lt) :
    records.foldl (fun sorted r => key.insertBack r sorted) sorted = records.reverse ++ sorted := by
  induction records generalizing sorted with
  | nil => rfl
  | cons r records ih =>
    have behind : key.insertBack r sorted = r :: sorted := by
      cases sorted with
      | nil => rfl
      | cons s rest =>
        have follows : key.compare r s ≠ .lt :=
          (List.pairwise_append.1 h).2.2 s (by simp) r List.mem_cons_self
        rw [insertBack, if_neg follows]
    rw [List.foldl_cons, behind, ih, List.reverse_cons, List.append_assoc, List.singleton_append]
    rwa [List.reverse_cons, List.append_assoc, List.singleton_append]

theorem inOrder_of_pairwise {records : List ρ}
    (h : records.Pairwise fun x y => key.compare y x ≠ .lt) : key.inOrder records = true := by
  fun_induction inOrder key records with
  | case1 x y rest ih =>
    obtain ⟨first, h⟩ := List.pairwise_cons.1 h
    rw [Bool.and_eq_true, decide_eq_true_iff]
    exact ⟨first y List.mem_cons_self, ih h⟩
  | case2 => rfl

/-- Sorting leaves records that are in order as they stand, those that count as equal included. -/
theorem sort_of_pairwise {records : List ρ}
    (h : records.Pairwise fun x y => key.compare y x ≠ .lt) : key.sort records = some records := by
  refine sort_eq_some_iff.2 ⟨.inr (inOrder_of_pairwise h), ?_⟩
  rw [insertAll, foldl_insertBack_of_pairwise (by simpa using h), List.append_nil,
    List.reverse_reverse]

theorem sort_of_ties {records : List ρ}
    (ties : ∀ x ∈ records, ∀ y ∈ records, key.compare x y = .eq) :
    key.sort records = some records := by
  refine sort_of_pairwise (List.pairwise_iff_forall_sublist.2 fun {x y} sub => ?_)
  have tie := ties y (sub.subset (by simp)) x (sub.subset (by simp))
  rw [tie]
  decide

end SortKey

/-! ### The two ways -/

/-- Over a list, a plan without a sort key gives the slice of its window out of the matching records,
    and a plan with one gives that slice out of the sorted ones, where cutting off and freeing always
    has enough records. Where all matching records count as equal, both give the same. -/
theorem Plan.execute_slices {ρ : Type} (predicate : Predicate ρ) (window : Window)
    (records : List ρ) (counted : records.length < 2 ^ 64) :
    let matching := records.filter predicate.accepts
    let start := (window.range matching.length).1
    let stop := (window.range matching.length).2
    let unsorted : Plan ρ := ⟨predicate, none, window⟩
    (∀ count < 2 ^ 64, window.Within count) ∧
      unsorted.execute records = some (matching.extract start stop) ∧
      ∀ key : SortKey ρ,
        let sorted : Plan ρ := ⟨predicate, some key, window⟩
        sorted.execute records = (key.sort matching).map (·.extract start stop) ∧
          (∀ ordered, key.sort matching = some ordered → stop ≤ ordered.length ∧
            removeFirst? start (ordered.take stop) = some (ordered.extract start stop)) ∧
          ((∀ x ∈ matching, ∀ y ∈ matching, key.compare x y = .eq) →
            sorted.execute records = unsorted.execute records) := by
  intro matching start stop unsorted
  have fewer : matching.length < 2 ^ 64 := Nat.lt_of_le_of_lt (List.length_filter_le _ _) counted
  have taken : unsorted.execute records = some (matching.extract start stop) :=
    congrArg some (window.extract_range matching (Nat.le_of_lt_succ fewer)).symm
  refine ⟨fun count => window.within, taken, ?_⟩
  intro key sorted
  have cut : sorted.execute records = (key.sort matching).map (·.extract start stop) := by
    refine Option.map_congr fun ordered h => ?_
    rw [(SortKey.sort_perm h).length_eq, List.extract_eq_drop_take']
  refine ⟨cut, fun ordered h => ?_, fun ties => ?_⟩
  · have length : ordered.length = matching.length := (SortKey.sort_perm h).length_eq
    have within : window.Within ordered.length := length ▸ window.within fewer
    have freed := within.removeFirst?_take
    have counted := within.counted
    rw [length] at freed counted
    exact ⟨counted.trans_eq length.symm, freed⟩
  · rw [cut, taken, SortKey.sort_of_ties ties]
    rfl

/-- The women among the sample users, all but the first: by gender they count as equal. The window
    takes so many records that no word holds the position behind them. -/
theorem Plan.execute_slices_female :
    let predicate : Predicate User := .test User.genderField (.equals (.tag Gender.female.index))
    let window : Window := ⟨2, 18446744073709551615, 1, 18446744073709551615⟩
    let key : SortKey User := ⟨User.genderField, .descending⟩
    let matching := sampleUsers.filter predicate.accepts
    sampleUsers.length < 2 ^ 64 ∧ (∀ x ∈ matching, ∀ y ∈ matching, key.compare x y = .eq) ∧
      window.range matching.length = (1, 5) ∧
      (Plan.mk predicate (some key) window).execute sampleUsers = some (matching.extract 1 5) := by
  intro predicate window key matching
  have counted : sampleUsers.length < 2 ^ 64 := by decide
  have ties : ∀ x ∈ matching, ∀ y ∈ matching, key.compare x y = .eq := by decide
  have positions : window.range matching.length = (1, 5) := by decide
  obtain ⟨-, taken, sorted⟩ := Plan.execute_slices predicate window sampleUsers counted
  refine ⟨counted, ties, positions, ?_⟩
  rw [((sorted key).2.2) ties, taken]
  show some (matching.extract (window.range matching.length).1 (window.range matching.length).2) = _
  rw [positions]

end RecordSearch
