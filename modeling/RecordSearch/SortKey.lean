import RecordSearch.Log

/-! Ordering records by one field.

    Records are inserted one after the other into the sorted ones, each behind every record that it
    does not precede. So records that count as equal keep their order, and pairs without a
    meaningful order are left as they are.

    Such pairs can keep the records out of any order: one may count as equal to two others that do
    not count as equal. A few records are inserted all the same. Of more of them a result is given
    only if their neighbours are in order already, or if they stand in ranks once they are inserted.
    For the rest none is promised, and a sort may give up. -/

namespace RecordSearch

/-- Ascending or descending. -/
inductive SortOrder where | ascending | descending
  deriving DecidableEq, Repr

namespace SortOrder

/-- The word for a direction. -/
def name : SortOrder → String
  | ascending => "asc"
  | descending => "desc"

/-- The direction with exactly this word. -/
def ofName? (s : String) : Option SortOrder :=
  if s = ascending.name then some ascending
  else if s = descending.name then some descending
  else none

/-- Ascending for the word `asc` in any case; anything else, and no word, means descending. -/
def ofToken : Option String → SortOrder
  | some s => if Text.sameName s "asc" then ascending else descending
  | none => descending

end SortOrder

/-- A field to order by, and the direction. -/
structure SortKey (ρ : Type) where
  field : Field ρ
  order : SortOrder

namespace SortKey

variable {ρ : Type}

/-- The order of two records. -/
def compare (key : SortKey ρ) (a b : ρ) : Ordering :=
  let o := (key.field.read a).sortOrder (key.field.read b)
  match key.order with
  | .ascending => o
  | .descending => o.swap

/-- Puts a record among sorted ones, which are listed last first. -/
def insertBack (key : SortKey ρ) (r : ρ) : List ρ → List ρ
  | [] => [r]
  | s :: rest =>
    if key.compare r s = .lt then s :: insertBack key r rest else r :: s :: rest

/-- The records, inserted one after the other. -/
def insertAll (key : SortKey ρ) (records : List ρ) : List ρ :=
  (records.foldl (fun sorted r => key.insertBack r sorted) []).reverse

/-- No record precedes the one in front of it. -/
def inOrder (key : SortKey ρ) : List ρ → Bool
  | x :: y :: rest => key.compare y x ≠ .lt && inOrder key (y :: rest)
  | _ => true

/-- The records stand in ranks: none precedes the one in front of it, and to the records further on
    each stands as its neighbour says. -/
def inRanks (key : SortKey ρ) : List ρ → Bool
  | x :: y :: rest =>
    (key.compare x y).isLE &&
      rest.all (fun z => key.compare x z = (key.compare x y).then (key.compare y z)) &&
        inRanks key (y :: rest)
  | _ => true

/-- So many records are put in order whatever the key says of them. -/
def fewRecords : Nat := 20

/-- The records in order. No result is promised for more than a few records that are not in order
    and cannot be put in ranks. -/
def sort (key : SortKey ρ) (records : List ρ) : Option (List ρ) :=
  let sorted := key.insertAll records
  if records.length ≤ fewRecords || key.inOrder records || key.inRanks sorted then some sorted
  else none

theorem insertBack_perm (key : SortKey ρ) (r : ρ) (sorted : List ρ) :
    (key.insertBack r sorted).Perm (r :: sorted) := by
  induction sorted with
  | nil => exact .refl _
  | cons s rest ih =>
    simp only [insertBack]
    split
    · exact (ih.cons s).trans (.swap r s rest)
    · exact .refl _

/-- Inserting loses and repeats no record. -/
theorem insertAll_perm (key : SortKey ρ) (records : List ρ) :
    (key.insertAll records).Perm records := by
  have step : ∀ (rs sorted : List ρ),
      (rs.foldl (fun sorted r => key.insertBack r sorted) sorted).Perm (rs.reverse ++ sorted) := by
    intro rs
    induction rs with
    | nil => intro sorted; simp
    | cons r rs ih =>
      intro sorted
      simpa using (ih _).trans ((insertBack_perm key r sorted).append_left rs.reverse)
  have back : (records.foldl (fun sorted r => key.insertBack r sorted) []).Perm records.reverse := by
    simpa using step records []
  exact (List.reverse_perm _).trans (back.trans (List.reverse_perm records))

/-- A sort that gives a result inserts the records. -/
theorem eq_insertAll_of_sort {key : SortKey ρ} {records result : List ρ}
    (h : key.sort records = some result) : result = key.insertAll records := by
  rw [sort] at h
  split at h
  · exact (Option.some.inj h).symm
  · cases h

/-- Sorting loses and repeats no record. -/
theorem sort_perm {key : SortKey ρ} {records result : List ρ}
    (h : key.sort records = some result) : result.Perm records := by
  rw [eq_insertAll_of_sort h]
  exact key.insertAll_perm records

end SortKey

/-- The key for a sort field and a direction. A blank name, or one that the schema lacks, gives none,
    which keeps the records in their order. -/
def compileSort {ρ : Type} (schema : Schema ρ) (sortBy sortOrder : Option String) :
    Logged (Option (SortKey ρ)) :=
  match sortBy with
  | none => pure none
  | some name =>
    if Text.blank name then pure none
    else match schema.resolve name with
      | some field => pure (some ⟨field, .ofToken sortOrder⟩)
      | none => do
        Logged.note (.sortUnknown schema.shape name)
        pure none

end RecordSearch
