import RecordSearch.Coercion

/-! The entries of a comma-separated list.

    A list is cut at its commas. Blanks around an entry are no part of it, and what is empty without
    them is no entry.

        a, b          a    b
        ,a ,, b c,    a    b c
        , ,

    Blanks only matter to texts: a value of any other type is read alike with blanks around it and
    without them. -/

namespace RecordSearch

namespace Text

/-! ### Trimming -/

/-- Blanks around a text do not matter to what is left of it. -/
theorem trimmed_surrounded {before after : List Char} (hbefore : before.all isBlank = true)
    (hafter : after.all isBlank = true) (s : List Char) :
    trimmed (before ++ (s ++ after)) = trimmed s := by
  rw [List.all_eq_true] at hbefore hafter
  have left : trimLeft (before ++ (s ++ after)) = trimLeft (s ++ after) :=
    List.dropWhile_append_of_pos hbefore
  have right (t : List Char) : trimRight (t ++ after) = trimRight t := by
    rw [trimRight, trimRight, List.reverse_append,
      List.dropWhile_append_of_pos fun c hc => hafter c (List.mem_reverse.1 hc)]
  rw [trimmed, trimmed, left, trimLeft, trimLeft, List.dropWhile_append]
  split
  next nothing =>
    -- a text of blanks leaves nothing, and neither do the blanks behind it
    rw [List.isEmpty_iff.1 nothing, ← List.append_nil after,
      List.dropWhile_append_of_pos hafter]
    rfl
  next => exact right _

/-- Trimming removes blanks at the ends and keeps what is between. -/
theorem exists_trimmed (s : List Char) :
    ∃ before after, before.all isBlank = true ∧ after.all isBlank = true ∧
      s = before ++ (trimmed s ++ after) := by
  have all (t : List Char) : (t.takeWhile isBlank).all isBlank = true := List.all_takeWhile
  refine ⟨s.takeWhile isBlank, ((trimLeft s).reverse.takeWhile isBlank).reverse, all s, ?_, ?_⟩
  · rw [List.all_reverse, all]
  · rw [trimmed, trimRight, ← List.reverse_append, List.takeWhile_append_dropWhile,
      List.reverse_reverse, trimLeft, List.takeWhile_append_dropWhile]

theorem trimmed_trimmed (s : List Char) : trimmed (trimmed s) = trimmed s := by
  obtain ⟨before, after, hbefore, hafter, split⟩ := exists_trimmed s
  rw [← trimmed_surrounded hbefore hafter, ← split]

theorem trim_trim (s : String) : trim (trim s) = trim s := by
  rw [trim, toList_trim, trimmed_trimmed, trim]

/-- Nothing is left of a text iff it is all blanks. -/
theorem trimmed_eq_nil_iff {s : List Char} : trimmed s = [] ↔ s.all isBlank = true := by
  constructor
  · intro nothing
    obtain ⟨before, after, hbefore, hafter, split⟩ := exists_trimmed s
    rw [split, nothing]
    simp [hbefore, hafter]
  · intro blanks
    have nothing : trimmed [] = [] := rfl
    simpa [nothing] using trimmed_surrounded blanks (List.all_nil : [].all isBlank = true) []

/-- Trimming adds nothing. -/
theorem mem_of_mem_trimmed {c : Char} {s : List Char} (h : c ∈ trimmed s) : c ∈ s := by
  obtain ⟨before, after, -, -, split⟩ := exists_trimmed s
  rw [split]
  simp [h]

theorem trim_eq_empty_iff {s : String} : trim s = "" ↔ blank s = true := by
  rw [blank, ← trimmed_eq_nil_iff, trim, ← String.ofList_nil, String.ofList_inj]

theorem blank_ofList_trimmed (s : List Char) :
    blank (String.ofList (trimmed s)) = decide (trimmed s = []) := by
  rw [Bool.eq_iff_iff, decide_eq_true_iff, blank, String.toList_ofList, ← trimmed_eq_nil_iff,
    trimmed_trimmed]

/-! ### Pieces -/

/-- The pieces of a text are those of the library's `List.splitOn`. -/
theorem pieces_eq_splitOn (mark : Char) (s : List Char) : pieces mark s = s.splitOn mark := by
  induction s with
  | nil => rfl
  | cons c s ih =>
    rw [pieces, List.splitOn_cons_eq_if_modifyHead, ih]
    by_cases h : c = mark
    · simp [h]
    · rcases hs : s.splitOn mark with _ | ⟨p, ps⟩
      · exact absurd hs (List.splitOn_ne_nil mark s)
      · simp [h]

/-- A text is cut at each of its marks, so also at one in its middle. -/
theorem pieces_append_cons (mark : Char) (a b : List Char) :
    pieces mark (a ++ mark :: b) = pieces mark a ++ pieces mark b := by
  simp only [pieces_eq_splitOn, List.splitOn_append_cons_self]

end Text

/-! ### Entries -/

/-- An entry is not blank. -/
theorem blank_of_mem_splitList {s entry : String} (h : entry ∈ splitList s) :
    Text.blank entry = false := by
  simp only [splitList, List.mem_map, List.mem_filter, decide_eq_true_eq] at h
  obtain ⟨_, ⟨⟨piece, -, rfl⟩, shown⟩, rfl⟩ := h
  rw [Text.blank_ofList_trimmed]
  simpa using shown

/-- A text without a comma is one entry, blanks around it apart, unless it is blank. -/
theorem splitList_of_not_mem {s : String} (h : ',' ∉ s.toList) :
    splitList s = if Text.blank s then [] else [Text.trim s] := by
  rw [splitList, Text.pieces_eq_splitOn, List.splitOn_eq_singleton h]
  by_cases blank : Text.blank s = true
  · have nothing : Text.trimmed s.toList = [] := Text.trimmed_eq_nil_iff.2 blank
    simp [nothing, blank]
  · have something : Text.trimmed s.toList ≠ [] := fun nothing =>
      blank (Text.trimmed_eq_nil_iff.1 nothing)
    simp [something, blank, Text.trim]

theorem comma_not_mem_of_blank {s : String} (h : Text.blank s = true) : ',' ∉ s.toList := by
  intro comma
  have : Text.isBlank ',' = true := List.all_eq_true.1 h ',' comma
  exact absurd this (by decide)

/-- A blank text has no comma in it. -/
theorem splitList_of_blank {s : String} (h : Text.blank s = true) : splitList s = [] := by
  rw [splitList_of_not_mem (comma_not_mem_of_blank h), if_pos h]

/-! ### Values without blanks around them -/

/-- Except for texts, a value is read without the blanks around it. -/
theorem coerce_trim {type : FieldType} (other : type ≠ .text) (s : String) :
    coerce (Text.trim s) type = coerce s type := by
  cases type with
  | text => exact absurd rfl other
  | timestamp =>
    simp only [coerce, Calendar.readTimestamp, Text.toList_trim, Text.trimmed_trimmed]
  | tag tags => simp only [coerce, tagIndex, Text.trim_trim]
  | _ => simp only [coerce, Text.trim_trim]

end RecordSearch
