import RecordSearch.Proofs.Criteria
import RecordSearch.Proofs.Entries
import RecordSearch.Users.Sample

/-! Membership as a list of equalities.

    A criterion with a list asks of its field what its entries ask one by one. Entries that are no
    value of the field are left out, and the criterion is ignored when nothing is left. A list of one
    entry is one equality; only of a text field, where blanks matter to an equality, must the entry
    be without blanks at its ends.

        list              as equalities             In            NotIn
        Female, x, male   Female, male              one equals    both differ
        x, ,y                                       ignored       ignored
        Female            Female                    equals        differs -/

namespace RecordSearch

variable {ρ : Type}

/-! ### Tests -/

/-- A value is one of the literals iff it equals one of them. -/
theorem Test.accepts_oneOf_iff {ls : List Literal} {v : Value} :
    (oneOf ls false).accepts v = true ↔ ∃ l ∈ ls, (equals l).accepts v = true := by
  rcases v with _ | a
  · simp [accepts, Value.isNull]
  · simp [accepts, Value.isNull]

/-- A value is none of the literals iff it differs from all of them. There have to be some, since
    null is neither. -/
theorem Test.accepts_noneOf_iff {ls : List Literal} (some : ls ≠ []) {v : Value} :
    (oneOf ls true).accepts v = true ↔ ∀ l ∈ ls, (differs l).accepts v = true := by
  rcases v with _ | a
  · obtain ⟨l, hl⟩ := List.exists_mem_of_ne_nil ls some
    simp only [accepts, Value.isNull, Bool.not_true, Bool.false_and, Bool.false_eq_true, false_iff]
    intro all
    exact all l hl
  · simp [accepts, Value.isNull]

/-! ### Criteria on a field -/

/-- The criterion with an operator and a text. -/
abbrev Criterion.on (name : String) (op : Operator) (text : String) : Criterion :=
  ⟨name, op, some text⟩

namespace Criterion

variable {s : Schema ρ} {c d : Criterion}

theorem ignored_of_unknown (unknown : s.resolve c.field = none) : c.Ignored s :=
  ⟨.unknownField c.field, by rw [compile, unknown]⟩

theorem not_matches_of_ignored (ignored : c.Ignored s) (x : ρ) : ¬c.Matches s x := by
  obtain ⟨e, failed⟩ := ignored
  rintro ⟨p, compiled, -⟩
  rw [failed] at compiled
  cases compiled

/-- Criteria that are both ignored agree. -/
theorem agrees_of_ignored (hc : c.Ignored s) (hd : d.Ignored s) : c.Agrees s d := by
  refine ⟨iff_of_true hc hd, fun x => ?_⟩
  exact iff_of_false (not_matches_of_ignored hc x) (not_matches_of_ignored hd x)

/-- Criteria on a name that no field has agree. -/
theorem agrees_of_unknown (unknown : s.resolve c.field = none) (field : d.field = c.field) :
    c.Agrees s d := by
  have unknown' : s.resolve d.field = none := by rw [field, unknown]
  exact agrees_of_ignored (ignored_of_unknown unknown) (ignored_of_unknown unknown')

/-- Criteria agree if they compile for the same things, and what they make of them accepts the same
    records. -/
theorem agrees_of_map {α : Type} {o : Option α} {f g : α → Predicate ρ}
    (hc : (c.compile s).toOption = o.map f) (hd : (d.compile s).toOption = o.map g)
    (same : ∀ a x, (f a).accepts x = (g a).accepts x) : c.Agrees s d := by
  rw [Agrees, ignored_iff, ignored_iff, hc, hd]
  simp only [matches_iff, hc, hd]
  rcases o with _ | a
  · simp
  · simp [same a]

section

variable {name text : String} {f : Field ρ} (hf : s.resolve name = some f)

include hf

theorem toOption_compile_on (op : Operator) :
    ((on name op text).compile s).toOption =
      ((on name op text).testOn f).toOption.map (.test f) := by
  have resolved : s.resolve (on name op text).field = some f := hf
  rw [toOption_compile, resolved, Option.bind_some]

/-- An equality compiles if the text is a value of the field. -/
theorem toOption_compile_equality {op : Operator} (negate : Bool)
    (kind : op.kind = .equality negate) :
    ((on name op text).compile s).toOption =
      (f.literal? (some text)).map fun l => .test f (if negate then .differs l else .equals l) := by
  rw [toOption_compile_on hf, testOn]
  cases negate with
  | false =>
    simp only [kind, exceptToOption_map, requireLiteral_eq, exceptToOption_elim, Option.map_map,
      Bool.false_eq_true, if_false, Function.comp_def]
  | true =>
    simp only [kind, exceptToOption_map, requireLiteral_eq, exceptToOption_elim, Option.map_map,
      if_true, Function.comp_def]

/-- A membership compiles if some entries are values of the field. -/
theorem toOption_compile_membership {op : Operator} (negate : Bool)
    (kind : op.kind = .membership negate) :
    ((on name op text).compile s).toOption =
      (f.literals? (some text)).map fun ls => .test f (.oneOf ls negate) := by
  rw [toOption_compile_on hf, testOn]
  simp only [kind, exceptToOption_map, requireLiterals_eq, exceptToOption_elim, Option.map_map,
    Function.comp_def]

end

end Criterion

/-! ### Literals of a list -/

namespace Field

variable {f : Field ρ}

theorem literal?_of_not_blank {text : String} (shown : Text.blank text = false) :
    f.literal? (some text) = coerce text f.type := by
  simp [literal?, Option.filter, shown]

/-- The values of the field among the entries of a list. -/
def valuesIn (f : Field ρ) (list : String) : List Literal :=
  (splitList list).filterMap (coerce · f.type)

theorem mem_valuesIn {list : String} {l : Literal} :
    l ∈ f.valuesIn list ↔ ∃ entry ∈ splitList list, coerce entry f.type = some l :=
  List.mem_filterMap

/-- The literals of a list are its values, if there are any. A blank list has no entries. -/
theorem literals?_eq_some_iff {list : String} {ls : List Literal} :
    f.literals? (some list) = some ls ↔ ls = f.valuesIn list ∧ ls ≠ [] := by
  rw [literals?, valuesIn]
  cases blank : Text.blank list with
  | true =>
    simp [Option.filter, blank, splitList_of_blank blank]
  | false =>
    simp only [Option.filter_some, blank, Bool.not_false, if_true, Option.map_some,
      Option.ite_none_right_eq_some, Option.some.injEq, Bool.not_eq_true', List.isEmpty_eq_false_iff]
    constructor
    · rintro ⟨some, rfl⟩
      exact ⟨rfl, some⟩
    · rintro ⟨rfl, some⟩
      exact ⟨some, rfl⟩

/-- A text without a comma is read as a list of one literal as it is read on its own, unless blanks
    matter to it. -/
theorem literals?_of_not_mem {text : String} (noComma : ',' ∉ text.toList)
    (bare : Text.trim text = text ∨ f.type ≠ .text) :
    f.literals? (some text) = (f.literal? (some text)).map fun l => [l] := by
  have read : coerce (Text.trim text) f.type = coerce text f.type := by
    rcases bare with bare | other
    · rw [bare]
    · exact coerce_trim other text
  cases blank : Text.blank text with
  | true => simp [literals?, literal?, Option.filter, blank]
  | false =>
    simp only [literal?_of_not_blank blank, literals?, Option.filter_some, blank, Bool.not_false,
      Bool.false_eq_true, if_true, if_false, Option.map_some, splitList_of_not_mem noComma,
      List.filterMap_cons, List.filterMap_nil, read]
    rcases coerce text f.type with _ | l
    · rfl
    · rfl

end Field

/-! ### Lists and their entries -/

namespace Criterion

variable {s : Schema ρ} {name list entry : String} {f : Field ρ} (hf : s.resolve name = some f)

include hf

/-- An equality with an entry is ignored iff the entry is no value of the field. -/
theorem ignored_equality_iff {op : Operator} (negate : Bool) (kind : op.kind = .equality negate)
    (shown : Text.blank entry = false) :
    (on name op entry).Ignored s ↔ coerce entry f.type = none := by
  rw [ignored_iff, toOption_compile_equality hf negate kind, Field.literal?_of_not_blank shown,
    Option.map_eq_none_iff]

theorem matches_equality_iff {op : Operator} (negate : Bool) (kind : op.kind = .equality negate)
    (shown : Text.blank entry = false) {x : ρ} :
    (on name op entry).Matches s x ↔ ∃ l, coerce entry f.type = some l ∧
      (if negate then Test.differs l else .equals l).accepts (f.read x) = true := by
  rw [matches_iff, toOption_compile_equality hf negate kind, Field.literal?_of_not_blank shown]
  simp

/-- A membership is ignored iff no entry is a value of the field. -/
theorem ignored_membership_iff {op : Operator} (negate : Bool)
    (kind : op.kind = .membership negate) :
    (on name op list).Ignored s ↔ f.valuesIn list = [] := by
  rw [ignored_iff, toOption_compile_membership hf negate kind, Option.map_eq_none_iff,
    Option.eq_none_iff_forall_ne_some]
  simp only [ne_eq, Field.literals?_eq_some_iff, not_and, Decidable.not_not]
  constructor
  · intro none
    exact none _ rfl
  · rintro none _ rfl
    exact none

theorem matches_membership_iff {op : Operator} (negate : Bool)
    (kind : op.kind = .membership negate) {x : ρ} :
    (on name op list).Matches s x ↔
      f.valuesIn list ≠ [] ∧ (Test.oneOf (f.valuesIn list) negate).accepts (f.read x) = true := by
  rw [matches_iff, toOption_compile_membership hf negate kind]
  simp only [Option.map_eq_some_iff, Field.literals?_eq_some_iff]
  constructor
  · rintro ⟨_, ⟨_, ⟨rfl, some⟩, rfl⟩, accepted⟩
    exact ⟨some, by simpa using accepted⟩
  · rintro ⟨some, accepted⟩
    exact ⟨_, ⟨_, ⟨rfl, some⟩, rfl⟩, by simpa using accepted⟩

/-- The equality with an entry compiles iff the entry is one of the values. -/
theorem not_ignored_equality_iff {op : Operator} (negate : Bool)
    (kind : op.kind = .equality negate) (among : entry ∈ splitList list) :
    ¬(on name op entry).Ignored s ↔ ∃ l, coerce entry f.type = some l := by
  rw [ignored_equality_iff hf negate kind (blank_of_mem_splitList among)]
  exact Option.ne_none_iff_exists'

/-- A record matches a membership iff it matches one of the equalities. -/
theorem matches_isIn_iff {x : ρ} :
    (on name .isIn list).Matches s x ↔
      ∃ entry ∈ splitList list, (on name .equals entry).Matches s x := by
  rw [matches_membership_iff hf false rfl, Test.accepts_oneOf_iff]
  constructor
  · rintro ⟨-, l, hl, equal⟩
    obtain ⟨entry, among, read⟩ := Field.mem_valuesIn.1 hl
    refine ⟨entry, among, ?_⟩
    rw [matches_equality_iff hf false rfl (blank_of_mem_splitList among)]
    exact ⟨l, read, equal⟩
  · rintro ⟨entry, among, equal⟩
    rw [matches_equality_iff hf false rfl (blank_of_mem_splitList among)] at equal
    obtain ⟨l, read, equal⟩ := equal
    have hl : l ∈ f.valuesIn list := Field.mem_valuesIn.2 ⟨entry, among, read⟩
    exact ⟨List.ne_nil_of_mem hl, l, hl, equal⟩

/-- If there are values, a record matches the complement iff it matches every inequality that
    compiles. -/
theorem matches_notIn_iff (some : f.valuesIn list ≠ []) {x : ρ} :
    (on name .notIn list).Matches s x ↔
      ∀ entry ∈ splitList list, ¬(on name .notEquals entry).Ignored s →
        (on name .notEquals entry).Matches s x := by
  rw [matches_membership_iff hf true rfl, Test.accepts_noneOf_iff some]
  constructor
  · rintro ⟨-, differ⟩ entry among applied
    obtain ⟨l, read⟩ := (not_ignored_equality_iff hf true rfl among).1 applied
    rw [matches_equality_iff hf true rfl (blank_of_mem_splitList among)]
    exact ⟨l, read, differ l (Field.mem_valuesIn.2 ⟨entry, among, read⟩)⟩
  · intro differ
    refine ⟨some, fun l hl => ?_⟩
    obtain ⟨entry, among, read⟩ := Field.mem_valuesIn.1 hl
    have matched := differ entry among
      ((not_ignored_equality_iff hf true rfl among).2 ⟨l, read⟩)
    rw [matches_equality_iff hf true rfl (blank_of_mem_splitList among)] at matched
    obtain ⟨l', read', differs⟩ := matched
    obtain rfl : l = l' := Option.some.inj (read.symm.trans read')
    exact differs

/-- A list of one entry asks what the entry asks on its own, unless blanks matter to it. -/
theorem agrees_of_single {text : String} (noComma : ',' ∉ text.toList)
    (bare : Text.trim text = text ∨ f.type ≠ .text) {op op' : Operator} (negate : Bool)
    (membership : op.kind = .membership negate) (equality : op'.kind = .equality negate) :
    (on name op text).Agrees s (on name op' text) := by
  have listed : ((on name op text).compile s).toOption = _ :=
    toOption_compile_membership hf negate membership
  rw [Field.literals?_of_not_mem noComma bare, Option.map_map] at listed
  refine agrees_of_map listed (toOption_compile_equality hf negate equality) fun l x => ?_
  -- one literal: equal to it, or different from it
  cases negate <;> simp [Test.accepts]

end Criterion

/-! ### What a list asks -/

/-- The entries of a list for which the equality compiles. -/
def Schema.entries (s : Schema ρ) (name list : String) : List String :=
  (splitList list).filter fun entry => ¬(Criterion.on name .equals entry).Ignored s

/-- How a list asks of a field what its entries ask one by one. -/
structure Schema.AsksEntries (s : Schema ρ) (name list : String) : Prop where
  isIn_ignored : (Criterion.on name .isIn list).Ignored s ↔ s.entries name list = []
  notIn_ignored : (Criterion.on name .notIn list).Ignored s ↔ s.entries name list = []
  isIn_matches : s.entries name list ≠ [] → ∀ x, (Criterion.on name .isIn list).Matches s x ↔
    ∃ entry ∈ s.entries name list, (Criterion.on name .equals entry).Matches s x
  notIn_matches : s.entries name list ≠ [] → ∀ x, (Criterion.on name .notIn list).Matches s x ↔
    ∀ entry ∈ s.entries name list, (Criterion.on name .notEquals entry).Matches s x

section

variable {s : Schema ρ} {name list entry : String} {f : Field ρ}

theorem Schema.mem_entries :
    entry ∈ s.entries name list ↔
      entry ∈ splitList list ∧ ¬(Criterion.on name .equals entry).Ignored s := by
  simp [entries]

/-- The inequalities compile for the same entries as the equalities. -/
theorem Criterion.ignored_notEquals_iff (hf : s.resolve name = some f)
    (among : entry ∈ splitList list) :
    (on name .notEquals entry).Ignored s ↔ (on name .equals entry).Ignored s := by
  have shown := blank_of_mem_splitList among
  rw [ignored_equality_iff hf true rfl shown, ignored_equality_iff hf false rfl shown]

/-- No entry is left iff none is a value of the field. -/
theorem Schema.entries_eq_nil_iff (hf : s.resolve name = some f) :
    s.entries name list = [] ↔ f.valuesIn list = [] := by
  rw [entries, List.filter_eq_nil_iff, Field.valuesIn, List.filterMap_eq_nil_iff]
  refine forall₂_congr fun entry among => ?_
  have equality : (Criterion.on name .equals entry).Ignored s ↔ coerce entry f.type = none :=
    Criterion.ignored_equality_iff hf false rfl (blank_of_mem_splitList among)
  rw [← equality]
  simp

/-- A list asks what its entries ask. Without a field of the name nothing compiles. -/
theorem Schema.asksEntries (s : Schema ρ) (name list : String) : s.AsksEntries name list := by
  rcases hf : s.resolve name with _ | f
  · have ignored (op : Operator) (text : String) : (Criterion.on name op text).Ignored s :=
      Criterion.ignored_of_unknown hf
    have none : s.entries name list = [] := by simp [entries, ignored]
    exact ⟨by simp [none, ignored], by simp [none, ignored], by simp [none], by simp [none]⟩
  · refine ⟨?_, ?_, fun _ x => ?_, fun some x => ?_⟩
    · rw [Criterion.ignored_membership_iff hf false rfl, entries_eq_nil_iff hf]
    · rw [Criterion.ignored_membership_iff hf true rfl, entries_eq_nil_iff hf]
    · rw [Criterion.matches_isIn_iff hf]
      simp only [mem_entries, and_assoc]
      refine exists_congr fun entry => and_congr_right fun _ => ?_
      -- an equality that is matched compiles
      constructor
      · intro equal
        exact ⟨fun ignored => Criterion.not_matches_of_ignored ignored x equal, equal⟩
      · rintro ⟨-, equal⟩
        exact equal
    · rw [Criterion.matches_notIn_iff hf (mt (entries_eq_nil_iff hf).2 some)]
      simp only [mem_entries, and_imp]
      refine forall₂_congr fun entry among => ?_
      rw [Criterion.ignored_notEquals_iff hf among]

/-- Lists of the same entries, in whatever order and however often, ask the same. -/
theorem Criterion.agrees_of_same_entries (s : Schema ρ) (name : String) {a b : String}
    (same : ∀ entry, entry ∈ splitList a ↔ entry ∈ splitList b) :
    (on name .isIn a).Agrees s (on name .isIn b) ∧
      (on name .notIn a).Agrees s (on name .notIn b) := by
  have kept : ∀ entry, entry ∈ s.entries name a ↔ entry ∈ s.entries name b := by
    simp only [Schema.mem_entries, same, implies_true]
  have none : s.entries name a = [] ↔ s.entries name b = [] := by
    simp only [List.eq_nil_iff_forall_not_mem, kept]
  have first := s.asksEntries name a
  have second := s.asksEntries name b
  by_cases empty : s.entries name a = []
  · constructor
    · exact agrees_of_ignored (first.isIn_ignored.2 empty) (second.isIn_ignored.2 (none.1 empty))
    · exact agrees_of_ignored (first.notIn_ignored.2 empty) (second.notIn_ignored.2 (none.1 empty))
  · refine ⟨⟨?_, fun x => ?_⟩, ⟨?_, fun x => ?_⟩⟩
    · rw [first.isIn_ignored, second.isIn_ignored, none]
    · rw [first.isIn_matches empty, second.isIn_matches (mt none.2 empty)]
      simp only [kept]
    · rw [first.notIn_ignored, second.notIn_ignored, none]
    · rw [first.notIn_matches empty, second.notIn_matches (mt none.2 empty)]
      simp only [kept]

end

/-- Membership is a list of equalities. It is ignored iff every equality is; a record matches it iff
    it matches one of the equalities, and its complement iff it matches all inequalities. The order
    of the entries and repeating them have no effect, and a single entry is asked for as by the
    equality with it, unless the field is a text field and the entry has blanks at its ends. -/
theorem membership_is_equalities (s : Schema ρ) (name : String) :
    (∀ list, s.AsksEntries name list) ∧
    (∀ a b, (∀ entry, entry ∈ splitList a ↔ entry ∈ splitList b) →
      (Criterion.on name .isIn a).Agrees s (Criterion.on name .isIn b) ∧
        (Criterion.on name .notIn a).Agrees s (Criterion.on name .notIn b)) ∧
    ∀ v : String, ',' ∉ v.toList →
      (Text.trim v = v ∨ ∀ f, s.resolve name = some f → f.type ≠ .text) →
        (Criterion.on name .isIn v).Agrees s (Criterion.on name .equals v) ∧
          (Criterion.on name .notIn v).Agrees s (Criterion.on name .notEquals v) := by
  refine ⟨s.asksEntries name, ?_, ?_⟩
  · intro a b same
    exact Criterion.agrees_of_same_entries s name same
  · intro v noComma bare
    rcases hf : s.resolve name with _ | f
    · exact ⟨Criterion.agrees_of_unknown hf rfl, Criterion.agrees_of_unknown hf rfl⟩
    · have bare := bare.imp_right fun other => other f hf
      exact ⟨Criterion.agrees_of_single hf noComma bare false rfl rfl,
        Criterion.agrees_of_single hf noComma bare true rfl rfl⟩

/-- Two genders and a word between them that is none; the same entries in another order, one of them
    twice and one empty; and one gender with a blank before it. -/
theorem membership_is_equalities_genders :
    let s := User.shape.schema
    let list := "Female, nobody ,male"
    let other := "male,,Female,nobody,male"
    s.entries "GENDER" list = ["Female", "male"] ∧
      (∀ x, (Criterion.on "GENDER" .isIn list).Matches s x ↔
        ∃ entry ∈ ["Female", "male"], (Criterion.on "GENDER" .equals entry).Matches s x) ∧
      (∀ entry, entry ∈ splitList list ↔ entry ∈ splitList other) ∧
      (Criterion.on "GENDER" .notIn list).Agrees s (Criterion.on "GENDER" .notIn other) ∧
      (Criterion.on "GENDER" .isIn " Female").Agrees s
        (Criterion.on "GENDER" .equals " Female") := by
  intro s list other
  have entries : s.entries "GENDER" list = ["Female", "male"] := by decide
  have same : ∀ entry, entry ∈ splitList list ↔ entry ∈ splitList other := by
    have split : splitList list = ["Female", "nobody", "male"] := by decide
    have split' : splitList other = ["male", "Female", "nobody", "male"] := by decide
    intro entry
    simp only [split, split', List.mem_cons, List.not_mem_nil, or_false]
    grind
  have noText (f : Field User) (hf : s.resolve "GENDER" = some f) : f.type ≠ .text := by
    have found : s.resolve "GENDER" = some User.genderField := rfl
    obtain rfl : User.genderField = f := Option.some.inj (found.symm.trans hf)
    decide
  obtain ⟨asks, reordered, single⟩ := membership_is_equalities s "GENDER"
  have matched := (asks list).isIn_matches (by simp [entries])
  rw [entries] at matched
  exact ⟨entries, matched, same, (reordered list other same).2,
    (single " Female" (by decide) (.inr noText)).1⟩

end RecordSearch
