import Mathlib.Data.List.OfFn
import RecordSearch.Proofs.DeclaredFields
import RecordSearch.Proofs.Notes

/-! What a declaration promises to requests.

    A declaration is checked once, long before there is a request. Names that are looked up later are
    then known to stand for fields, although the two look for them on their own: the check goes
    through the names as they are declared, renamed and converted, the look-up through the fields of
    the schema.

        promise                                     looked up
        the default sort is the name of a field     for a request that names no field to sort by
        only fields that hold text are searched     for a request with a term

    A declaration that does not keep a promise is refused. -/

namespace RecordSearch

/-! ### What a declaration says -/

namespace DeclaredOption

/-- The rule in an option that sets the rule for names. -/
def rule? (o : DeclaredOption) : Option NamingRule :=
  if o.name = "rename_all" then o.text.toOption.bind NamingRule.read? else none

/-- The name in an option that sets the default sort. -/
def sort? (o : DeclaredOption) : Option String :=
  if o.name = "default_sort" then o.text.toOption else none

end DeclaredOption

namespace Item

/-- The rule for names: the last that is given, or names as they are declared. -/
def rule (item : Item) : NamingRule :=
  (item.options.filterMap DeclaredOption.rule?).getLast?.getD .plain

/-- The default sort that is given last. -/
def sort? (item : Item) : Option String := (item.options.filterMap DeclaredOption.sort?).getLast?

/-- The members that are not left out. -/
def kept (item : Item) : List Member := item.members.filter (!·.marked "skip")

/-- The name of a member in requests: the given one, or else made by the rule. -/
def searchName (item : Item) (m : Member) : String :=
  m.renamed?.getD (item.rule.apply (plainName m.name))

/-- The names of the members that are not left out, in their order. -/
def searchNames (item : Item) : List String := item.kept.map item.searchName

/-- The names among them that are searched for terms. -/
def textNames (item : Item) : List String :=
  (item.kept.filter (·.marked "text")).map item.searchName

/-- A promise that a declaration does not keep. -/
inductive Breaks (item : Item) : Prop
  /-- The default sort is no name of a member that is not left out. -/
  | sort {name : String} (given : item.sort? = some name)
      (unnamed : ∀ n ∈ item.searchNames, Text.sameName n name = false)
  /-- A member is to be searched that is left out or does not hold text. -/
  | text {m : Member} (member : m ∈ item.members) (marked : m.marked "text" = true)
      (unfit : m.marked "skip" = true ∨ TypeText.holdsText m.type = false)

end Item

/-! ### Options of a record -/

namespace ShapeOptions

variable {s s' : ShapeOptions} {o : DeclaredOption} {os : List DeclaredOption}

/-- One option sets the rule, or the default sort, or neither. -/
theorem take_eq_ok (h : s.take o = .ok s') :
    s'.rule = o.rule?.getD s.rule ∧ s'.defaultSort = o.sort?.or s.defaultSort := by
  rw [take] at h
  split at h
  next named =>
    obtain ⟨name, -, h⟩ := exceptBind_eq_ok_iff.1 h
    cases h
    simp [named, DeclaredOption.rule?, DeclaredOption.sort?]
  next named =>
    obtain ⟨name, given, h⟩ := exceptBind_eq_ok_iff.1 h
    cases known : NamingRule.read? name with
    | none =>
      rw [known] at h
      cases h
    | some rule =>
      rw [known] at h
      cases h
      simp [named, DeclaredOption.rule?, DeclaredOption.sort?, given, Except.toOption, known]
  next named =>
    obtain ⟨name, given, h⟩ := exceptBind_eq_ok_iff.1 h
    cases h
    simp [named, DeclaredOption.rule?, DeclaredOption.sort?, given, Except.toOption]
  next => cases h

/-- A record has the last rule and the last default sort among its options. -/
theorem foldlM_take (h : os.foldlM take s = .ok s') :
    s'.rule = (os.filterMap DeclaredOption.rule?).getLast?.getD s.rule ∧
      s'.defaultSort = (os.filterMap DeclaredOption.sort?).getLast?.or s.defaultSort := by
  induction os generalizing s with
  | nil =>
    obtain rfl : s = s' := Except.ok.inj h
    simp
  | cons o os ih =>
    rw [List.foldlM_cons] at h
    obtain ⟨middle, first, rest⟩ := exceptBind_eq_ok_iff.1 h
    obtain ⟨rule, sort⟩ := take_eq_ok first
    obtain ⟨rule', sort'⟩ := ih rest
    refine ⟨?_, ?_⟩
    · rw [rule', rule, getLast?_filterMap_cons]
      cases (os.filterMap DeclaredOption.rule?).getLast? with
      | none => simp
      | some later => simp
    · rw [sort', sort, getLast?_filterMap_cons, Option.or_assoc]

end ShapeOptions

/-! ### Accepted declarations -/

namespace DeclaredShape

variable {ρ δ : Type} {item : Item} {d : DeclaredShape}

/-- An accepted declaration has a field for every member that is not left out, and its default sort,
    which is the name of a field. -/
theorem says_of_ofItem (h : ofItem item = .ok d) :
    List.Forall₂ (Member.Declares item.rule) item.kept d.fields ∧ d.defaultSort = item.sort? ∧
      ∀ sort ∈ item.sort?, d.fields.any (Text.sameName ·.name sort) = true := by
  obtain ⟨o, os, options, members, fields, defaultSort, named⟩ := made_of_ofItem h
  obtain ⟨rule, sort⟩ := ShapeOptions.foldlM_take options
  have rule : o.rule = item.rule := rule
  have sort : d.defaultSort = item.sort? := by rw [defaultSort, sort, Option.or_none, Item.sort?]
  refine ⟨?_, sort, sort ▸ named⟩
  rw [← rule, fields]
  exact declares_of_ofMember members

/-- The names of the fields are those of the members, in the same order. -/
theorem names_of_declares {ms : List Member} {fs : List DeclaredField}
    (h : List.Forall₂ (Member.Declares item.rule) ms fs) :
    fs.map DeclaredField.name = ms.map item.searchName := by
  induction h with
  | nil => rfl
  | cons first _ ih => rw [List.map_cons, List.map_cons, ih, first.name, Item.searchName]

/-- So are those of the fields that are searched. -/
theorem textNames_of_declares {ms : List Member} {fs : List DeclaredField}
    (h : List.Forall₂ (Member.Declares item.rule) ms fs) :
    (fs.filter DeclaredField.text).map DeclaredField.name =
      (ms.filter (·.marked "text")).map item.searchName := by
  induction h with
  | nil => rfl
  | @cons m f _ _ first _ ih =>
    cases marked : m.marked "text" with
    | false => simpa [marked, first.text] using ih
    | true => simp [marked, first.text, ih, first.name, Item.searchName]

/-- A name of a field is found. -/
theorem exists_resolve (b : Backing ρ) {name : String}
    (named : d.fields.any (Text.sameName ·.name name) = true) :
    ∃ f, (d.shapeOn b).schema.resolve name = some f := by
  obtain ⟨f, member, same⟩ := List.any_eq_true.1 named
  obtain ⟨i, bound, rfl⟩ := List.getElem_of_mem member
  rw [← Option.isSome_iff_exists, Schema.resolve, List.find?_isSome]
  exact ⟨d.field b ⟨i, bound⟩, List.mem_ofFn.2 ⟨⟨i, bound⟩, rfl⟩, same⟩

/-- Every member of an accepted declaration is read. -/
theorem exists_ofMember {rule : NamingRule} {ms : List Member} {os : List (Option DeclaredField)}
    (h : List.Forall₂ (fun m o => DeclaredField.ofMember rule m = .ok o) ms os) :
    ∀ m ∈ ms, ∃ o, DeclaredField.ofMember rule m = .ok o := by
  induction h with
  | nil => simp
  | cons first _ ih => exact List.forall_mem_cons.2 ⟨⟨_, first⟩, ih⟩

/-- A promise that is not kept is noticed. -/
theorem exists_error_of_breaks (breaks : item.Breaks) : ∃ e, ofItem item = .error e := by
  cases made : ofItem item with
  | error e => exact ⟨e, rfl⟩
  | ok d =>
    exfalso
    cases breaks with
    | @sort name given unnamed =>
      obtain ⟨declares, -, named⟩ := says_of_ofItem made
      obtain ⟨f, member, same⟩ := List.any_eq_true.1 (named name given)
      have listed : f.name ∈ item.searchNames := by
        rw [Item.searchNames, ← names_of_declares declares]
        exact List.mem_map_of_mem member
      rw [unnamed f.name listed] at same
      exact Bool.false_ne_true same
    | @text m member marked unfit =>
      obtain ⟨o, os, -, members, -⟩ := made_of_ofItem made
      obtain ⟨f, read⟩ := exists_ofMember members m member
      obtain ⟨skip, searched, declares⟩ := DeclaredField.ofMember_eq_ok read
      obtain ⟨f, rfl⟩ := Option.isSome_iff_exists.1 (searched marked)
      cases unfit with
      | inl skipped => simp [skipped] at skip
      | inr other =>
        have declares := declares f rfl
        have holds := declares.holdsText (declares.text.trans marked)
        rw [declares.type, other] at holds
        exact Bool.false_ne_true holds

/-! ### Promises that are kept -/

theorem ofToken_eq_ascending_iff {token : Option String} :
    SortOrder.ofToken token = .ascending ↔ ∃ s ∈ token, Text.sameName s "asc" = true := by
  cases token with
  | none => simp [SortOrder.ofToken]
  | some s => simp [SortOrder.ofToken]

/-- The order in which the records come if a request names no field to sort by. -/
def SortsBy (sort : Option String) (order : Option String) (key : Option (SortKey ρ)) : Prop :=
  match sort with
  | none => key = none
  | some name =>
    ∃ k, key = some k ∧ Text.sameName k.field.name name = true ∧
      (k.order = .ascending ↔ ∃ token ∈ order, Text.sameName token "asc" = true)

/-- A shape keeps the promises of the declaration that it is made from. -/
structure Keeps (d : DeclaredShape) (item : Item) (b : Backing ρ) : Prop where
  names : (d.shapeOn b).schema.fields.map Field.name = item.searchNames
  texts : (d.shapeOn b).textFields = item.textNames
  /-- Every name that is searched for terms is the name of a field. -/
  found : ∀ name ∈ (d.shapeOn b).textFields, ∃ f, (d.shapeOn b).schema.resolve name = some f
  /-- So no search for a term notes that there is no such field. -/
  silent : ∀ term shape name,
    Event.freeTextUnknown shape name ∉
      (freeText (d.shapeOn b).schema (d.shapeOn b).textFields term).log
  /-- Unless members have blank names, a request that names no field is sorted by the default one,
      if there is any. -/
  sorts : (∀ name ∈ item.searchNames, Text.blank name = false) →
    ∀ (δ : Type) (pager : Pager) (typed : δ → List (Predicate ρ)) (r : Request δ),
      (∀ name ∈ r.sortBy, Text.blank name = true) →
      SortsBy item.sort? r.sortOrder (planRequest pager (d.shapeOn b) typed r).value.sort

/-- The default sort that an accepted declaration gives is found for every request. -/
theorem sortsBy_of_ofItem (accepted : ofItem item = .ok d) (b : Backing ρ)
    (shown : ∀ name ∈ item.searchNames, Text.blank name = false) (pager : Pager)
    (typed : δ → List (Predicate ρ)) {r : Request δ}
    (none : ∀ name ∈ r.sortBy, Text.blank name = true) :
    SortsBy item.sort? r.sortOrder (planRequest pager (d.shapeOn b) typed r).value.sort := by
  obtain ⟨declares, sort, named⟩ := says_of_ofItem accepted
  have nothing : r.sortBy.filter (!Text.blank ·) = .none :=
    Option.filter_eq_none_iff.2 fun name given => by simp [none name given]
  have sortName : (d.shapeOn b).sortName r = item.sort? := by
    rw [Shape.sortName_eq, nothing, Option.none_or]
    exact sort
  rw [sort_planRequest, value_compileSort, sortName]
  cases given : item.sort? with
  | none => rfl
  | some name =>
    obtain ⟨f, member, same⟩ := List.any_eq_true.1 (named name given)
    have visible : Text.blank name = false := by
      rw [← Text.blank_congr same]
      apply shown
      rw [Item.searchNames, ← names_of_declares declares]
      exact List.mem_map_of_mem member
    obtain ⟨field, resolved⟩ := exists_resolve b (named name given)
    refine ⟨⟨field, .ofToken r.sortOrder⟩, ?_, ?_, ofToken_eq_ascending_iff⟩
    · simp [Option.filter_some, visible, resolved]
    · exact Schema.name_of_resolve resolved

/-- The shape of an accepted declaration keeps its promises. -/
theorem keeps_of_ofItem (accepted : ofItem item = .ok d) (b : Backing ρ) : d.Keeps item b := by
  obtain ⟨declares, -, -⟩ := says_of_ofItem accepted
  have found : ∀ name ∈ (d.shapeOn b).textFields,
      ∃ f, (d.shapeOn b).schema.resolve name = some f := by
    intro name listed
    obtain ⟨f, member, rfl⟩ := List.mem_map.1 listed
    exact exists_resolve b
      (List.any_eq_true.2 ⟨f, List.mem_of_mem_filter member, Text.sameName_refl _⟩)
  refine ⟨?_, textNames_of_declares declares, found, ?_, ?_⟩
  · rw [shapeOn, List.map_ofFn, Item.searchNames, ← names_of_declares declares]
    exact List.ofFn_getElem_eq_map d.fields DeclaredField.name
  · intro term shape name noted
    obtain ⟨_, listed, cause⟩ := (noted_freeText _ _ term).exists_cause _ noted
    cases cause with
    | unknown unknown =>
      have listed : name ∈ (d.shapeOn b).textFields := by
        split at listed
        · exact absurd listed List.not_mem_nil
        · exact listed
      obtain ⟨f, resolved⟩ := found name listed
      rw [Schema.resolve_eq_none_iff.2 unknown] at resolved
      cases resolved
  · intro shown δ pager typed r none
    exact sortsBy_of_ofItem accepted b shown pager typed none

/-- What a declaration promises is kept by the shape that is made from it, whatever the program is
    around it, and a declaration that would break a promise is refused. -/
theorem keeps_ofItem (item : Item) :
    (∀ d, ofItem item = .ok d → ∀ (ρ : Type) (b : Backing ρ), d.Keeps item b) ∧
      (item.Breaks → ∃ e, ofItem item = .error e) :=
  ⟨fun _ accepted _ b => keeps_of_ofItem accepted b, exists_error_of_breaks⟩

/-- The users' declaration with the password as its default sort, which is left out. -/
def secretItem : Item :=
  { usersItem with options := usersItem.options ++ [⟨"default_sort", some (.text "Password")⟩] }

/-- The users' declaration with one more member, a number that is to be searched for terms. -/
def numberItem : Item :=
  { usersItem with members := ⟨"age", "i32", [⟨"text", none⟩]⟩ :: usersItem.members }

theorem breaks_secretItem : secretItem.Breaks := .sort rfl (by decide)

theorem breaks_numberItem : numberItem.Breaks := .text List.mem_cons_self rfl (.inr rfl)

/-- A request with a blank sort field and a direction in capitals sorts users by the default. -/
theorem keeps_ofItem_usersItem :
    (∃ d, ofItem usersItem = .ok d ∧
      SortsBy (some "createdAt") (some "ASC")
        (planRequest .standard (d.shapeOn usersBacking) UserFilters.predicates
          { sortBy := some " ", sortOrder := some "ASC", domain := {} }).value.sort) ∧
      (∃ e, ofItem secretItem = .error e) ∧ ∃ e, ofItem numberItem = .error e := by
  refine ⟨⟨_, rfl, ?_⟩, (keeps_ofItem secretItem).2 breaks_secretItem,
    (keeps_ofItem numberItem).2 breaks_numberItem⟩
  have keeps := (keeps_ofItem usersItem).1 _ rfl User usersBacking
  refine keeps.sorts (by decide) UserFilters .standard UserFilters.predicates
    { sortBy := some " ", sortOrder := some "ASC", domain := {} } ?_
  rintro name ⟨⟩
  rfl

end DeclaredShape

end RecordSearch
