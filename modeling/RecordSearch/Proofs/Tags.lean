import RecordSearch.Declaration.Tags
import RecordSearch.Proofs.Spelling
import RecordSearch.Proofs.Typing

/-! Closed sets that are declared.

    A variant is known by its place, and shown and read by its tag. No two tags of an accepted
    declaration are the same text up to case, so a tag is read as the variant that it belongs to, in
    any case and with any blanks around it. One kind of tag is out of reach: blanks are taken off
    the text that is read, but not off the tag, so a tag with blanks at its ends is never found.

        tag         read as that variant            read as nothing
        MED         MED   med   "  Med "            ME D
        " Padded "                                  " Padded "   Padded -/

namespace RecordSearch

/-! ### Texts without blanks at the ends -/

namespace Text

/-- A text that is as long as what is left of it has no blanks at its ends. -/
theorem trim_eq_self_of_sameName {s : String} (h : sameName s (trim s) = true) : trim s = s := by
  have length := congrArg List.length (sameName_iff.1 h)
  rw [foldAscii, foldAscii, List.length_map, List.length_map, toList_trim] at length
  obtain ⟨before, after, -, -, split⟩ := exists_trimmed s.toList
  have parts := congrArg List.length split
  rw [List.length_append, List.length_append] at parts
  have first : before = [] := List.eq_nil_of_length_eq_zero (by omega)
  have last : after = [] := List.eq_nil_of_length_eq_zero (by omega)
  rw [first, last, List.nil_append, List.append_nil] at split
  rw [trim, ← split, String.ofList_toList]

end Text

namespace TagSet

/-! ### Variants -/

variable {s : TagSet}

/-- A variant, by its place. -/
abbrev Variant (s : TagSet) : Type := Fin s.tags.length

namespace Variant

/-- The number of a variant. -/
def index (v : s.Variant) : Nat := v.val

/-- The text that a variant is shown as. -/
def tag (v : s.Variant) : String := (s.tag? v.index).getD ""

/-- A text for a variant: its tag in any case, with blanks around it. -/
def Spelled (v : s.Variant) (name : String) : Prop :=
  ∃ before spelled after, before.all Text.isBlank = true ∧ after.all Text.isBlank = true ∧
    Text.sameName spelled v.tag = true ∧ name.toList = before ++ (spelled.toList ++ after)

theorem tag_eq (v : s.Variant) : v.tag = s.tags[v] := by
  rw [tag, tag?, index, List.getElem?_eq_getElem v.isLt]
  rfl

end Variant

/-- The variant with a number. -/
def ofIndex? (s : TagSet) (i : Nat) : Option s.Variant :=
  if h : i < s.tags.length then some ⟨i, h⟩ else none

/-- The variant that a text is for, or the complaint about a text that is for none. -/
def parse (s : TagSet) (name : String) : Except RequestError s.Variant := do
  match s.ofIndex? (← s.read name) with
  | some v => .ok v
  | none => .error (.unknownTag s.name name s.tags)

theorem parse_eq_ok_iff {name : String} {v : s.Variant} :
    s.parse name = .ok v ↔ tagIndex s.tags name = some v.index := by
  rw [parse, read]
  cases found : tagIndex s.tags name with
  | none => simp [bind, Except.bind]
  | some i =>
    have lt := tagIndex_lt found
    simp [bind, Except.bind, ofIndex?, lt, Variant.index, Fin.ext_iff]

/-- No two tags are the same text up to case. -/
def Distinct (tags : List String) : Prop := tags.Pairwise fun a b => Text.sameName a b = false

theorem eq_of_sameName (distinct : Distinct s.tags) {v w : s.Variant}
    (same : Text.sameName v.tag w.tag = true) : v = w := by
  rw [Distinct, List.pairwise_iff_getElem] at distinct
  rw [v.tag_eq, w.tag_eq, Fin.getElem_fin, Fin.getElem_fin] at same
  rcases Nat.lt_trichotomy v.val w.val with less | equal | greater
  · rw [distinct v.val w.val v.isLt w.isLt less] at same
    exact absurd same Bool.false_ne_true
  · exact Fin.ext equal
  · rw [Text.sameName_comm, distinct w.val v.val w.isLt v.isLt greater] at same
    exact absurd same Bool.false_ne_true

/-- A text is read as a variant iff what is left of it without the blanks at the ends is the tag, up
    to case. -/
theorem parse_eq_ok_iff_sameName (distinct : Distinct s.tags) {name : String} {v : s.Variant} :
    s.parse name = .ok v ↔ Text.sameName v.tag (Text.trim name) = true := by
  rw [parse_eq_ok_iff, tagIndex, List.findIdx?_eq_some_iff_getElem]
  constructor
  · rintro ⟨_, same, _⟩
    rw [v.tag_eq]
    exact same
  · intro same
    refine ⟨v.isLt, ?_, fun j before found => ?_⟩
    · rw [v.tag_eq] at same
      exact same
    · let w : s.Variant := ⟨j, Nat.lt_trans before v.isLt⟩
      have found : Text.sameName w.tag (Text.trim name) = true := by
        rw [w.tag_eq]
        exact found
      rw [Text.sameName_comm] at same
      have equal := eq_of_sameName distinct (Text.sameName_trans found same)
      exact absurd (congrArg Fin.val equal) (Nat.ne_of_lt before)

theorem trim_of_spelled {name : String} {v : s.Variant} (spelled : v.Spelled name) :
    Text.sameName (Text.trim v.tag) (Text.trim name) = true := by
  obtain ⟨before, text, after, hbefore, hafter, same, split⟩ := spelled
  have trim : Text.trim name = Text.trim text := by
    rw [Text.trim, split, Text.trimmed_surrounded hbefore hafter, Text.trim]
  rw [trim, Text.sameName_comm]
  exact Text.sameName_trim same

/-! ### Accepted declarations -/

/-- Adding a variant gives its tag, which no earlier tag is but for case. -/
theorem takeVariant_eq_ok_iff {tags tags' : List String} {m : Member} :
    takeVariant tags m = .ok tags' ↔
      m.hasFields = false ∧ ∃ tag, m.tag = .ok tag ∧
        (∀ t ∈ tags, Text.sameName t tag = false) ∧ tags' = tags ++ [tag] := by
  simp only [takeVariant, exceptGuard_eq_ok_iff, exceptBind_eq_ok_iff, Bool.not_eq_true,
    List.any_eq_false, pure, Except.pure, Except.ok.injEq]
  simp only [eq_comm]

/-- Adding variants one after the other keeps all tags distinct, and adds the tag of each. -/
theorem foldlM_takeVariant {ms : List Member} {tags tags' : List String} (distinct : Distinct tags)
    (accepted : ms.foldlM takeVariant tags = .ok tags') :
    Distinct tags' ∧ ∃ new, tags' = tags ++ new ∧
      List.Forall₂ (fun m t => m.hasFields = false ∧ Member.tag m = .ok t) ms new := by
  induction ms generalizing tags with
  | nil =>
    obtain rfl : tags = tags' := Except.ok.inj accepted
    exact ⟨distinct, [], (List.append_nil _).symm, .nil⟩
  | cons m ms ih =>
    rw [List.foldlM_cons] at accepted
    cases step : takeVariant tags m with
    | error e =>
      rw [step] at accepted
      cases accepted
    | ok middle =>
      rw [step] at accepted
      obtain ⟨plain, tag, named, free, rfl⟩ := takeVariant_eq_ok_iff.1 step
      have distinct' : Distinct (tags ++ [tag]) :=
        List.pairwise_append.2 ⟨distinct, List.pairwise_singleton .., by simpa using free⟩
      obtain ⟨all, new, rfl, members⟩ := ih distinct' accepted
      exact ⟨all, tag :: new, by rw [List.append_assoc]; rfl, .cons ⟨plain, named⟩ members⟩

/-- An accepted declaration makes a set with the tags of its variants, all distinct. -/
theorem ofItem_eq_ok {item : Item} (accepted : ofItem item = .ok s) :
    Distinct s.tags ∧
      List.Forall₂ (fun m t => m.hasFields = false ∧ Member.tag m = .ok t) item.members s.tags := by
  simp only [ofItem, exceptGuard_eq_ok_iff, exceptBind_eq_ok_iff, pure, Except.pure,
    Except.ok.injEq] at accepted
  obtain ⟨-, -, -, tags, taken, rfl⟩ := accepted
  obtain ⟨distinct, new, rfl, members⟩ := foldlM_takeVariant .nil taken
  exact ⟨distinct, members⟩

/-- How variants, numbers and texts of a set belong together. -/
structure Coherent (s : TagSet) : Prop where
  /-- A variant is found by its number. -/
  ofIndex?_index (v : s.Variant) : s.ofIndex? v.index = some v
  /-- There is no other number. -/
  ofIndex?_eq_none (i : Nat) : s.tags.length ≤ i → s.ofIndex? i = none
  /-- Every text for a variant is read as that variant iff its tag has no blanks at its ends. -/
  parse_spelled_iff (v : s.Variant) :
    (∀ name, v.Spelled name → s.parse name = .ok v) ↔ Text.trim v.tag = v.tag
  /-- A tag with blanks at its ends is never read. -/
  unreachable (v : s.Variant) : Text.trim v.tag ≠ v.tag → ∀ name, s.parse name ≠ .ok v
  /-- What is read as a variant is its tag up to case, without the blanks at the ends. -/
  sameName_of_parse (v : s.Variant) (name : String) :
    s.parse name = .ok v → Text.sameName (Text.trim name) v.tag = true

theorem Variant.spelled_tag (v : s.Variant) : v.Spelled v.tag :=
  ⟨[], v.tag, [], rfl, rfl, Text.sameName_refl _, (List.append_nil _).symm⟩

/-- A tag that some text is read as has no blanks at its ends. -/
theorem trim_tag_of_parse (distinct : Distinct s.tags) {v : s.Variant} {name : String}
    (h : s.parse name = .ok v) : Text.trim v.tag = v.tag := by
  have same := (parse_eq_ok_iff_sameName distinct).1 h
  have again : Text.sameName (Text.trim v.tag) (Text.trim name) = true := by
    have trimmed := Text.sameName_trim same
    rwa [Text.trim_trim] at trimmed
  rw [Text.sameName_comm] at again
  exact Text.trim_eq_self_of_sameName (Text.sameName_trans same again)

/-- In a set of distinct tags everything fits, but for tags with blanks at their ends. -/
theorem coherent_of_distinct (distinct : Distinct s.tags) : s.Coherent where
  ofIndex?_index v := by rw [ofIndex?, Variant.index, dif_pos v.isLt]
  ofIndex?_eq_none i beyond := by rw [ofIndex?, dif_neg (Nat.not_lt.2 beyond)]
  parse_spelled_iff v := by
    constructor
    · intro all
      exact trim_tag_of_parse distinct (all v.tag v.spelled_tag)
    · intro trimmed name spelled
      have same := trim_of_spelled spelled
      rw [trimmed] at same
      exact (parse_eq_ok_iff_sameName distinct).2 same
  unreachable v padded name read := padded (trim_tag_of_parse distinct read)
  sameName_of_parse v name read := by
    rw [Text.sameName_comm]
    exact (parse_eq_ok_iff_sameName distinct).1 read

/-- The set of an accepted declaration has a variant for each member, under its tag, and everything
    fits but for tags with blanks at their ends. -/
theorem coherent_ofItem {item : Item} (accepted : ofItem item = .ok s) :
    List.Forall₂ (fun m t => m.hasFields = false ∧ Member.tag m = .ok t) item.members s.tags ∧
      s.Coherent :=
  let ⟨distinct, members⟩ := ofItem_eq_ok accepted
  ⟨members, coherent_of_distinct distinct⟩

/-- Three levels, one of them with a name of its own. -/
def sampleLevels : Item :=
  ⟨.variants, "Level", false, [],
    [⟨"Low", "", []⟩, ⟨"Medium", "", [⟨"rename", some (.text "MED")⟩]⟩, ⟨"High", "= 7", []⟩]⟩

theorem coherent_ofItem_sampleLevels :
    let s : TagSet := ⟨"Level", ["Low", "MED", "High"]⟩
    ofItem sampleLevels = .ok s ∧ s.Coherent ∧ s.parse "\tmed " = .ok (1 : Fin 3) := by
  intro s
  have accepted : ofItem sampleLevels = .ok s := by rfl
  exact ⟨accepted, (coherent_ofItem accepted).2, by rfl⟩

/-- A declaration that is accepted, and whose first tag is shown with blanks around it, but read
    from no text. -/
theorem coherent_fails_padded :
    let item : Item :=
      ⟨.variants, "Level", false, [],
        [⟨"Low", "", [⟨"rename", some (.text " Padded ")⟩]⟩, ⟨"High", "", []⟩]⟩
    let s : TagSet := ⟨"Level", [" Padded ", "High"]⟩
    let v : s.Variant := (0 : Fin 2)
    ofItem item = .ok s ∧ v.tag = " Padded " ∧ v.Spelled " Padded " ∧
      s.parse " Padded " = .error (.unknownTag "Level" " Padded " s.tags) := by
  intro item s v
  exact ⟨rfl, rfl, v.spelled_tag, rfl⟩

end TagSet

end RecordSearch
