import RecordSearch.Proofs.Entries

/-! The segments of comma-separated lists.

    A list is texts with commas between them. A text that is more than blanks holds one segment, which
    is what is left of it without the blanks around it; a text of blanks holds none. So segments come
    in the order of the list, none is lost, and none is made of two.

        list            texts               segments
         A, B ,, z ,    | A| B || z ||      A     B    z
        a b,  c         |a b|  c|           a b   c
         , ,            | | ||              none -/

namespace RecordSearch

/-! ### Cutting at commas -/

namespace Text

variable {mark : Char}

/-- The pieces of a text have no marks in them. -/
theorem not_mem_of_mem_pieces {s p : List Char} (h : p ∈ pieces mark s) : mark ∉ p := by
  induction s generalizing p with
  | nil =>
    obtain rfl : p = [] := by simpa [pieces] using h
    simp
  | cons c s ih =>
    obtain ⟨q, qs, split⟩ := List.exists_cons_of_ne_nil (pieces_ne_nil mark s)
    rw [split] at ih
    by_cases cut : c = mark
    · simp only [pieces, cut, split, if_true, List.mem_cons] at h
      rcases h with rfl | h
      · simp
      · exact ih (List.mem_cons.2 h)
    · simp only [pieces, cut, split, if_false, List.mem_cons] at h
      rcases h with rfl | h
      · have rest := ih List.mem_cons_self
        simp [rest, Ne.symm cut]
      · exact ih (List.mem_cons_of_mem q h)

/-- A text is put together again from its pieces. -/
theorem joinWith_pieces (mark : Char) (s : String) :
    joinWith (String.singleton mark) ((pieces mark s.toList).map String.ofList) = s := by
  apply String.toList_injective
  rw [joinWith, String.toList_intercalate, List.map_map, pieces_eq_splitOn]
  simp [Function.comp_def, List.intercalate_splitOn]

end Text

/-! ### Segments -/

/-- What a list can have as a segment: a text that is not empty, has no blanks at its ends, and no
    commas. -/
structure IsSegment (s : String) : Prop where
  nonempty : s ≠ ""
  bare : Text.trim s = s
  whole : ',' ∉ s.toList

instance (s : String) : Decidable (IsSegment s) :=
  decidable_of_iff (s ≠ "" ∧ Text.trim s = s ∧ ',' ∉ s.toList)
    ⟨fun ⟨nonempty, bare, whole⟩ => ⟨nonempty, bare, whole⟩,
      fun h => ⟨h.nonempty, h.bare, h.whole⟩⟩

/-- The texts between the commas, and the segments in them. -/
inductive Holds : List String → List String → Prop
  | nil : Holds [] []
  /-- A segment among blanks. -/
  | segment {before s after : String} {texts segments : List String}
      (blankBefore : Text.blank before = true) (isSegment : IsSegment s)
      (blankAfter : Text.blank after = true) (rest : Holds texts segments) :
      Holds ((before ++ s ++ after) :: texts) (s :: segments)
  /-- An empty entry, or one of blanks. -/
  | gap {blanks : String} {texts segments : List String} (blank : Text.blank blanks = true)
      (rest : Holds texts segments) : Holds (blanks :: texts) segments

/-- A text without a comma that is more than blanks has a segment in it, among blanks. -/
theorem exists_segment {t : String} (noComma : ',' ∉ t.toList) (shown : Text.blank t = false) :
    IsSegment (Text.trim t) ∧ ∃ before after, Text.blank before = true ∧ Text.blank after = true ∧
      t = before ++ Text.trim t ++ after := by
  constructor
  · refine ⟨?_, Text.trim_trim t, ?_⟩
    · rw [ne_eq, Text.trim_eq_empty_iff, shown]
      simp
    · intro comma
      rw [Text.toList_trim] at comma
      exact noComma (Text.mem_of_mem_trimmed comma)
  · obtain ⟨before, after, hbefore, hafter, split⟩ := Text.exists_trimmed t.toList
    refine ⟨String.ofList before, String.ofList after, ?_, ?_, ?_⟩
    · simpa [Text.blank] using hbefore
    · simpa [Text.blank] using hafter
    · apply String.toList_injective
      simpa using split

/-- A segment among blanks is the list of itself. -/
theorem splitList_surrounded {before s after : String} (hbefore : Text.blank before = true)
    (hs : IsSegment s) (hafter : Text.blank after = true) :
    splitList (before ++ s ++ after) = [s] := by
  have left : Text.trim (before ++ s ++ after) = s := by
    rw [Text.trim, String.toList_append, String.toList_append, List.append_assoc,
      Text.trimmed_surrounded hbefore hafter, ← Text.trim, hs.bare]
  have noComma : ',' ∉ (before ++ s ++ after).toList := by
    simp [hs.whole, comma_not_mem_of_blank hbefore, comma_not_mem_of_blank hafter]
  have shown : ¬Text.blank (before ++ s ++ after) = true := by
    rw [← Text.trim_eq_empty_iff, left]
    exact hs.nonempty
  rw [splitList_of_not_mem noComma, if_neg shown, left]

/-! ### Lists -/

/-- A comma ends an entry, wherever it stands. -/
theorem splitList_append_comma (a b : String) :
    splitList (a ++ "," ++ b) = splitList a ++ splitList b := by
  have comma : (a ++ "," ++ b).toList = a.toList ++ ',' :: b.toList := by simp
  simp only [splitList, comma, Text.pieces_append_cons, List.map_append, List.filter_append]

/-- The entries of texts with commas between them are the entries of the texts. -/
theorem splitList_joinWith (texts : List String) :
    splitList (Text.joinWith "," texts) = texts.flatMap splitList := by
  induction texts with
  | nil => rfl
  | cons t texts ih =>
    cases texts with
    | nil => simp [Text.joinWith]
    | cons u texts =>
      rw [List.flatMap_cons, ← ih, Text.joinWith, String.intercalate_cons_cons,
        splitList_append_comma, Text.joinWith]

/-- Texts are split into the segments that they hold. -/
theorem Holds.flatMap_splitList {texts segments : List String} (h : Holds texts segments) :
    texts.flatMap splitList = segments := by
  induction h with
  | nil => rfl
  | segment blankBefore isSegment blankAfter _ ih =>
    rw [List.flatMap_cons, splitList_surrounded blankBefore isSegment blankAfter, ih,
      List.singleton_append]
  | gap blank _ ih => rw [List.flatMap_cons, splitList_of_blank blank, ih, List.nil_append]

/-- Texts without commas hold what they are split into. -/
theorem holds_flatMap_splitList {texts : List String} (noComma : ∀ t ∈ texts, ',' ∉ t.toList) :
    Holds texts (texts.flatMap splitList) := by
  induction texts with
  | nil => exact .nil
  | cons t texts ih =>
    obtain ⟨first, noComma⟩ := List.forall_mem_cons.1 noComma
    rw [List.flatMap_cons, splitList_of_not_mem first]
    cases shown : Text.blank t with
    | true => simpa using .gap shown (ih noComma)
    | false =>
      obtain ⟨isSegment, before, after, hbefore, hafter, split⟩ := exists_segment first shown
      have holds := Holds.segment hbefore isSegment hafter (ih noComma)
      rw [← split] at holds
      simpa using holds

/-- The segments that texts hold are segments. -/
theorem Holds.isSegment {texts segments : List String} (h : Holds texts segments) :
    ∀ s ∈ segments, IsSegment s := by
  induction h with
  | nil => simp
  | segment _ isSegment _ _ ih => exact List.forall_mem_cons.2 ⟨isSegment, ih⟩
  | gap _ _ ih => exact ih

/-- A list is split into the segments that the texts between its commas hold, and no others. -/
theorem splitList_eq_iff {t : String} {segments : List String} :
    splitList t = segments ↔ ∃ texts, t = Text.joinWith "," texts ∧ Holds texts segments := by
  constructor
  · rintro rfl
    let texts := (Text.pieces ',' t.toList).map String.ofList
    have joined : Text.joinWith "," texts = t := Text.joinWith_pieces ',' t
    have noComma : ∀ u ∈ texts, ',' ∉ u.toList := by
      intro u member
      obtain ⟨p, piece, rfl⟩ := List.mem_map.1 member
      rw [String.toList_ofList]
      exact Text.not_mem_of_mem_pieces piece
    have holds := holds_flatMap_splitList noComma
    rw [← splitList_joinWith, joined] at holds
    exact ⟨texts, joined.symm, holds⟩
  · rintro ⟨texts, rfl, holds⟩
    rw [splitList_joinWith, holds.flatMap_splitList]

/-- A list has nothing but segments. Lists that are put together with a comma have the segments of
    the first and then those of the second. And a list has exactly the segments that stand between
    its commas, with whatever blanks around them and whatever gaps among them. -/
theorem splitList_segments :
    (∀ t, ∀ s ∈ splitList t, IsSegment s) ∧
      (∀ a b, splitList (a ++ "," ++ b) = splitList a ++ splitList b) ∧
      ∀ t segments, splitList t = segments ↔
        ∃ texts, t = Text.joinWith "," texts ∧ Holds texts segments := by
  refine ⟨?_, splitList_append_comma, fun t segments => splitList_eq_iff⟩
  intro t
  obtain ⟨texts, -, holds⟩ := splitList_eq_iff.1 (rfl : splitList t = _)
  exact holds.isSegment

/-- Three segments, with blanks around one and gaps behind two of them. -/
theorem splitList_segments_gaps :
    let t := " A, B ,, z ,\t"
    "B" ∈ splitList t ∧ IsSegment "B" ∧ splitList t = ["A", "B", "z"] ∧
      splitList (t ++ "," ++ t) = ["A", "B", "z", "A", "B", "z"] := by
  intro t
  have holds : Holds [" A", " B ", "", " z ", "\t"] ["A", "B", "z"] := by
    refine @Holds.segment " " "A" "" _ _ (by decide) (by decide) (by decide) ?_
    refine @Holds.segment " " "B" " " _ _ (by decide) (by decide) (by decide) ?_
    refine .gap (by decide) ?_
    refine @Holds.segment " " "z" " " _ _ (by decide) (by decide) (by decide) ?_
    exact .gap (by decide) .nil
  obtain ⟨segments, append, between⟩ := splitList_segments
  have split : splitList t = ["A", "B", "z"] := (between t _).2 ⟨_, by decide, holds⟩
  have member : "B" ∈ splitList t := by simp [split]
  refine ⟨member, segments t "B" member, split, ?_⟩
  rw [append, split]
  rfl

end RecordSearch
