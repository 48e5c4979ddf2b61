import Mathlib.Algebra.BigOperators.Group.List.Basic
import RecordSearch.Proofs.Entries
import RecordSearch.Proofs.Storage

/-! The lines of a page in compact form.

    Every record is rendered as its cells with bars between them, and the renderings are put on lines
    of their own, with a line on the page behind them. The texts of a record stand in its cells as
    they are, and a text may have line ends in it:

        name          cells                     lines
        Ann Lee       1 | Ann Lee | ...         1 | Ann Lee | ...
        Ann⏎Lee       1 | Ann⏎Lee | ...         1 | Ann
                                                Lee | ...

    So a record takes one line iff none of its texts has a line end, and in general one line more for
    each line end. Numbers, tags, truth values and times never have any. -/

namespace RecordSearch

namespace Text

/-! ### Lines -/

/-- The lines of a text. -/
def lines (s : String) : List String := (pieces '\n' s.toList).map String.ofList

/-- The number of line ends in a text. -/
def lineEnds (s : String) : Nat := s.toList.count '\n'

theorem lineEnds_eq_zero_iff {s : String} : lineEnds s = 0 ↔ '\n' ∉ s.toList :=
  List.count_eq_zero

/-- There is one line more than there are line ends. -/
theorem length_pieces (mark : Char) (s : List Char) :
    (pieces mark s).length = s.count mark + 1 := by
  induction s with
  | nil => rfl
  | cons c s ih =>
    rw [pieces_eq_splitOn] at ih
    rw [pieces_eq_splitOn, List.splitOn_cons_eq_if_modifyHead, List.count_cons]
    by_cases same : c = mark
    · simp [same, ih]
    · simp [same, ih]

theorem length_lines (s : String) : (lines s).length = lineEnds s + 1 := by
  rw [lines, List.length_map, length_pieces, lineEnds]

theorem lines_eq_singleton {s : String} (h : lineEnds s = 0) : lines s = [s] := by
  rw [lines, pieces_eq_splitOn, List.splitOn_eq_singleton (lineEnds_eq_zero_iff.1 h),
    List.map_singleton, String.ofList_toList]

/-- A line end in a text ends a line. -/
theorem lines_append_lineEnd (s t : String) : lines (s ++ "\n" ++ t) = lines s ++ lines t := by
  have ends : (s ++ "\n" ++ t).toList = s.toList ++ '\n' :: t.toList := by simp
  rw [lines, lines, lines, ends, pieces_append_cons, List.map_append]

/-- Texts that are put on lines of their own keep their lines. -/
theorem lines_joinWith {ts : List String} (some : ts ≠ []) :
    lines (joinWith "\n" ts) = ts.flatMap lines := by
  induction ts with
  | nil => exact absurd rfl some
  | cons t ts ih =>
    cases ts with
    | nil => simp [joinWith]
    | cons t' ts =>
      rw [List.flatMap_cons, ← ih (List.cons_ne_nil _ _), joinWith, String.intercalate_cons_cons,
        lines_append_lineEnd, joinWith]

theorem lineEnds_append (s t : String) : lineEnds (s ++ t) = lineEnds s + lineEnds t := by
  simp [lineEnds]

/-- What is put between texts adds no line ends if it has none. -/
theorem lineEnds_joinWith {mark : String} (none : lineEnds mark = 0) (ts : List String) :
    lineEnds (joinWith mark ts) = (ts.map lineEnds).sum := by
  induction ts with
  | nil => rfl
  | cons t ts ih =>
    cases ts with
    | nil => simp [joinWith]
    | cons t' ts =>
      rw [List.map_cons, List.sum_cons, ← ih, joinWith, String.intercalate_cons_cons,
        lineEnds_append, lineEnds_append, none, Nat.add_zero, joinWith]

/-! ### Texts on one line -/

theorem lineEnds_ofList {s : List Char} (h : ∀ c ∈ s, c ≠ '\n') : lineEnds (String.ofList s) = 0 :=
  lineEnds_eq_zero_iff.2 fun member => h '\n' (by simpa using member) rfl

theorem ne_lineEnd_of_isDigit {c : Char} (h : c.isDigit = true) : c ≠ '\n' := by
  rintro rfl
  cases h

theorem ne_lineEnd_paddedDigits (width n : Nat) : ∀ c ∈ paddedDigits width n, c ≠ '\n' :=
  fun c member => ne_lineEnd_of_isDigit (isDigit_paddedDigits c member)

theorem lineEnds_integerText (n : Int) : lineEnds (integerText n) = 0 := by
  have digits : ∀ c ∈ digitsOf n.natAbs, c ≠ '\n' := fun c member =>
    ne_lineEnd_of_isDigit (isDigit_digitsOf n.natAbs c member)
  refine lineEnds_ofList ?_
  split
  · exact List.forall_mem_cons.2 ⟨by decide, digits⟩
  · exact digits

end Text

namespace Calendar

open Text

theorem ne_lineEnd_civilText (year : Int) (month day : Nat) :
    ∀ c ∈ civilText year month day, c ≠ '\n' := by
  have signed : ∀ c ∈ yearText year, c ≠ '\n' := by
    rw [yearText]
    split
    · exact ne_lineEnd_paddedDigits 4 _
    · refine List.forall_mem_cons.2 ⟨?_, ne_lineEnd_paddedDigits 4 _⟩
      split <;> decide
  simp only [civilText, List.forall_mem_append, List.forall_mem_cons]
  exact ⟨⟨signed, by decide, ne_lineEnd_paddedDigits 2 month⟩, by decide,
    ne_lineEnd_paddedDigits 2 day⟩

theorem lineEnds_minuteText (t : Instant) : lineEnds (minuteText t) = 0 := by
  rw [minuteText]
  obtain ⟨year, month, day⟩ := t.civil
  obtain ⟨hour, minute, second⟩ := t.clock
  refine lineEnds_ofList ?_
  simp only [List.forall_mem_append, List.forall_mem_cons]
  exact ⟨⟨ne_lineEnd_civilText year month day, by decide, ne_lineEnd_paddedDigits 2 hour⟩,
    by decide, ne_lineEnd_paddedDigits 2 minute⟩

end Calendar

/-! ### Pages -/

/-- The texts of a user that are shown on a page. -/
def UserResponse.shownTexts (u : UserResponse) : List String :=
  [u.fullName, u.email, u.phoneNumber.getD ""]

/-- The texts of a contact that are shown on a page. -/
def ContactResponse.shownTexts (c : ContactResponse) : List String :=
  [c.name, c.gmail, c.phoneNumber]

namespace Console

namespace Listing

variable {ρ δ τ : Type}

theorem lineEnds_summaryLine (page : ResultPage τ) : Text.lineEnds (summaryLine page) = 0 := by
  simp only [summaryLine, Text.lineEnds_append, Text.lineEnds_integerText]
  decide

/-- Records and the page are put on lines of their own. -/
theorem lines_compact (l : Listing ρ δ τ) (page : ResultPage τ) :
    Text.lines (l.compact page) =
      page.items.flatMap (fun t => Text.lines (l.recordLine t)) ++ [summaryLine page] := by
  rw [compact, Text.lines_joinWith (by simp), List.flatMap_append, List.flatMap_map,
    List.flatMap_singleton, Text.lines_eq_singleton (lineEnds_summaryLine page)]

theorem lineEnds_recordLine (l : Listing ρ δ τ) (t : τ) :
    Text.lineEnds (l.recordLine t) = ((l.cells t).map Text.lineEnds).sum :=
  Text.lineEnds_joinWith (by decide) _

end Listing

theorem lineEnds_recordLine_user (u : UserResponse) :
    Text.lineEnds (userListing.recordLine u) = (u.shownTexts.map Text.lineEnds).sum := by
  have gender : Text.lineEnds u.gender.tag = 0 := by cases u.gender <;> decide
  have role : Text.lineEnds u.role.tag = 0 := by cases u.role <;> decide
  have verified : Text.lineEnds (truthWord u.isEmailVerified) = 0 := by
    cases u.isEmailVerified <;> decide
  simp [Listing.lineEnds_recordLine, userListing, UserResponse.shownTexts, gender, role, verified,
    Text.lineEnds_integerText, Calendar.lineEnds_minuteText]

theorem lineEnds_recordLine_contact (c : ContactResponse) :
    Text.lineEnds (contactListing.recordLine c) = (c.shownTexts.map Text.lineEnds).sum := by
  simp [Listing.lineEnds_recordLine, contactListing, ContactResponse.shownTexts,
    Text.lineEnds_integerText, Calendar.lineEnds_minuteText]

/-- The lines of a page in compact form, by the texts of its records. -/
structure Listing.LaysOut {ρ δ τ : Type} (l : Listing ρ δ τ) (texts : τ → List String)
    (page : ResultPage τ) : Prop where
  lines : Text.lines (l.compact page) =
    page.items.flatMap (fun t => Text.lines (l.recordLine t)) ++ [summaryLine page]
  /-- Every line end in a text makes one more line. -/
  height : ∀ t ∈ page.items,
    (Text.lines (l.recordLine t)).length = ((texts t).map Text.lineEnds).sum + 1
  /-- Every record is on one line iff no text has a line end. -/
  oneEach : Text.lines (l.compact page) = page.items.map l.recordLine ++ [summaryLine page] ↔
    ∀ t ∈ page.items, ∀ s ∈ texts t, '\n' ∉ s.toList
  /-- Nor are there as many lines as records and one more in any other case. -/
  count : (Text.lines (l.compact page)).length = page.items.length + 1 ↔
    ∀ t ∈ page.items, ∀ s ∈ texts t, '\n' ∉ s.toList

namespace Listing

variable {ρ δ τ : Type} {l : Listing ρ δ τ} {texts : τ → List String}

/-- It is enough that line ends come from the texts only. -/
theorem laysOut_of_lineEnds
    (ends : ∀ t, Text.lineEnds (l.recordLine t) = ((texts t).map Text.lineEnds).sum)
    (page : ResultPage τ) : l.LaysOut texts page := by
  have flat (t : τ) : Text.lineEnds (l.recordLine t) = 0 ↔ ∀ s ∈ texts t, '\n' ∉ s.toList := by
    rw [ends, List.sum_eq_zero_iff_forall_eq_nat, List.forall_mem_map]
    exact forall₂_congr fun s _ => Text.lineEnds_eq_zero_iff
  have total : (Text.lines (l.compact page)).length =
      page.items.length + (page.items.map fun t => Text.lineEnds (l.recordLine t)).sum + 1 := by
    rw [lines_compact, List.length_append, List.length_flatMap, List.length_singleton]
    simp [Text.length_lines, List.sum_map_add, Nat.add_comm]
  have count : (Text.lines (l.compact page)).length = page.items.length + 1 ↔
      ∀ t ∈ page.items, ∀ s ∈ texts t, '\n' ∉ s.toList := by
    have none : (page.items.map fun t => Text.lineEnds (l.recordLine t)).sum = 0 ↔
        ∀ t ∈ page.items, ∀ s ∈ texts t, '\n' ∉ s.toList := by
      rw [List.sum_eq_zero_iff_forall_eq_nat, List.forall_mem_map]
      exact forall₂_congr fun t _ => flat t
    rw [← none, total]
    omega
  refine ⟨lines_compact l page, fun t _ => ?_, ⟨fun same => ?_, fun all => ?_⟩, count⟩
  · rw [Text.length_lines, ends]
  · rw [← count, same, List.length_append, List.length_map, List.length_singleton]
  · have single : page.items.flatMap (fun t => Text.lines (l.recordLine t)) =
        page.items.flatMap fun t => [l.recordLine t] :=
      List.flatMap_congr fun t member => Text.lines_eq_singleton ((flat t).2 (all t member))
    rw [lines_compact, single, ← List.map_eq_flatMap]

end Listing

/-- A page of users or contacts has the lines of its records, one after the other, and one line on
    the page. A record takes a line, and one more for each line end in its texts. -/
theorem compact_lines (users : ResultPage UserResponse) (contacts : ResultPage ContactResponse) :
    userListing.LaysOut UserResponse.shownTexts users ∧
      contactListing.LaysOut ContactResponse.shownTexts contacts :=
  ⟨Listing.laysOut_of_lineEnds lineEnds_recordLine_user users,
    Listing.laysOut_of_lineEnds lineEnds_recordLine_contact contacts⟩

/-- A contact whose name has a line end. -/
def splitContact : Contact := { sampleContact 1 with name := "Ann\nLee" }

/-- The text of a file with this contact. -/
def splitFile : String := (Json.array [Contact.codec.encode splitContact]).compact

theorem readRecords_splitFile : contactListing.readRecords splitFile = some [splitContact] :=
  ((Listing.survives_of_restores Contact.stores_members Contact.restores (fun _ => rfl)
    fun _ => ⟨_, rfl, .refl _⟩ : contactListing.Survives fun c => c).file [splitContact]).1

/-- The contact takes two lines, and the page three, though it has one record. -/
theorem compact_lines_splitContact :
    ∃ records page, contactListing.readRecords splitFile = some records ∧
      contactListing.find .standard records { domain := {} } = some page ∧
      page.items = [splitContact.response] ∧
        Text.lines (contactListing.compact page) =
          ["1 | Ann", "Lee | contact01@gmail.com | 0912000001 | 2024-01-01 00:00",
            "page 1/1 (1 matching)"] ∧
        (Text.lines (contactListing.compact page)).length ≠ page.items.length + 1 :=
  ⟨[splitContact], ⟨[splitContact.response], 1, 1, 10⟩, readRecords_splitFile, rfl, rfl, by decide,
    by decide⟩

end Console

end RecordSearch
