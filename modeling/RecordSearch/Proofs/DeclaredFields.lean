import Mathlib.Data.List.Forall2
import RecordSearch.Declaration.Shape
import RecordSearch.Proofs.Spelling

/-! Shapes that are declared.

    A field of a record is known by its place, and requests know it by its name. A name is looked up
    from the front, so a field is reached iff no field before it has the same name up to case. An
    accepted declaration may give two fields one name, and the later of the two is out of reach.

        title   renamed to "name"   found under name, Name, NAME
        alias   renamed to "Name"   never found -/

namespace RecordSearch

/-! ### Options of a field -/

/-- Of all that options give, the last counts. -/
theorem getLast?_filterMap_cons {α β : Type} (f : α → Option β) (a : α) (as : List α) :
    ((a :: as).filterMap f).getLast? = (as.filterMap f).getLast?.or (f a) := by
  cases given : f a with
  | none => rw [List.filterMap_cons_none given, Option.or_none]
  | some b =>
    rw [List.filterMap_cons_some given, List.getLast?_cons]
    cases (as.filterMap f).getLast? with
    | none => rfl
    | some c => rfl

/-- The name in an option that renames a field. -/
def DeclaredOption.rename? (o : DeclaredOption) : Option String :=
  if o.name = "rename" then o.text.toOption else none

namespace Member

/-- Whether a member has an option of that name. -/
def marked (m : Member) (mark : String) : Bool := m.options.any (·.name = mark)

/-- The name that a member is given by the last option that renames it. -/
def renamed? (m : Member) : Option String := (m.options.filterMap DeclaredOption.rename?).getLast?

end Member

namespace FieldOptions

variable {s s' : FieldOptions} {o : DeclaredOption} {os : List DeclaredOption}

/-- One option marks the field, or gives it a name. -/
theorem take_eq_ok (h : s.take o = .ok s') :
    s'.text = (s.text || decide (o.name = "text")) ∧
      s'.skip = (s.skip || decide (o.name = "skip")) ∧ s'.name = o.rename?.or s.name := by
  rw [take] at h
  split at h
  next named =>
    obtain ⟨-, -, h⟩ := exceptBind_eq_ok_iff.1 h
    cases h
    simp [named, DeclaredOption.rename?]
  next named =>
    obtain ⟨-, -, h⟩ := exceptBind_eq_ok_iff.1 h
    cases h
    simp [named, DeclaredOption.rename?]
  next named =>
    obtain ⟨name, given, h⟩ := exceptBind_eq_ok_iff.1 h
    cases h
    simp [named, DeclaredOption.rename?, given, Except.toOption]
  next => cases h

/-- A field has the marks among its options, and the last name. -/
theorem foldlM_take (h : os.foldlM take s = .ok s') :
    s'.text = (s.text || os.any (·.name = "text")) ∧
      s'.skip = (s.skip || os.any (·.name = "skip")) ∧
      s'.name = (os.filterMap DeclaredOption.rename?).getLast?.or s.name := by
  induction os generalizing s with
  | nil =>
    obtain rfl : s = s' := Except.ok.inj h
    simp
  | cons o os ih =>
    rw [List.foldlM_cons] at h
    obtain ⟨middle, first, rest⟩ := exceptBind_eq_ok_iff.1 h
    obtain ⟨text, skip, name⟩ := take_eq_ok first
    obtain ⟨text', skip', name'⟩ := ih rest
    refine ⟨?_, ?_, ?_⟩
    · rw [text', text, List.any_cons, Bool.or_assoc]
    · rw [skip', skip, List.any_cons, Bool.or_assoc]
    · rw [name', name, getLast?_filterMap_cons, Option.or_assoc]

end FieldOptions

/-! ### Accepted members -/

/-- The field that a member declares. -/
structure Member.Declares (rule : NamingRule) (m : Member) (f : DeclaredField) : Prop where
  declared : f.declared = plainName m.name
  /-- The name is the given one, or else made by the rule. -/
  name : f.name = m.renamed?.getD (rule.apply (plainName m.name))
  type : f.type = m.type
  text : f.text = m.marked "text"
  /-- Only fields that hold text are marked so. -/
  holdsText : f.text = true → TypeText.holdsText f.type = true

/-- A member is left out, which one for free text never is, or declares a field. -/
theorem DeclaredField.ofMember_eq_ok {rule : NamingRule} {m : Member} {o : Option DeclaredField}
    (h : ofMember rule m = .ok o) :
    m.marked "skip" = o.isNone ∧ (m.marked "text" = true → o.isSome = true) ∧
      ∀ f ∈ o, m.Declares rule f := by
  obtain ⟨marks, read, h⟩ := exceptBind_eq_ok_iff.1 h
  obtain ⟨text, skip, name⟩ := FieldOptions.foldlM_take read
  rw [Bool.false_or, ← Member.marked] at text skip
  rw [Option.or_none, ← Member.renamed?] at name
  rw [← skip, ← text]
  split at h
  next skipped =>
    split at h
    next => cases h
    next silent =>
      obtain rfl := Except.ok.inj h
      exact ⟨skipped, fun searched => absurd searched silent, by simp⟩
  next kept =>
    split at h
    next => cases h
    next fits =>
      obtain rfl := Except.ok.inj h
      refine ⟨by simpa using kept, fun _ => rfl, ?_⟩
      rintro f ⟨⟩
      refine ⟨rfl, by rw [name], rfl, text, fun marked => ?_⟩
      by_contra other
      exact fits ⟨marked, other⟩

/-- A pass over a list that is accepted gives one result for each item. -/
theorem exceptMapM_eq_ok {ε α β : Type} {f : α → Except ε β} {xs : List α} {ys : List β}
    (h : xs.mapM f = .ok ys) : List.Forall₂ (fun x y => f x = .ok y) xs ys := by
  induction xs generalizing ys with
  | nil =>
    obtain rfl : [] = ys := Except.ok.inj h
    exact .nil
  | cons x xs ih =>
    rw [List.mapM_cons] at h
    obtain ⟨y, first, h⟩ := exceptBind_eq_ok_iff.1 h
    obtain ⟨rest, others, h⟩ := exceptBind_eq_ok_iff.1 h
    obtain rfl := Except.ok.inj h
    exact .cons first (ih others)

namespace DeclaredShape

/-- The members that are not left out declare the fields, in their order. -/
theorem declares_of_ofMember {rule : NamingRule} {ms : List Member}
    {os : List (Option DeclaredField)}
    (h : List.Forall₂ (fun m o => DeclaredField.ofMember rule m = .ok o) ms os) :
    List.Forall₂ (Member.Declares rule) (ms.filter (!·.marked "skip")) (os.filterMap id) := by
  induction h with
  | nil => exact .nil
  | @cons m o ms os first _ ih =>
    obtain ⟨skip, -, declares⟩ := DeclaredField.ofMember_eq_ok first
    cases o with
    | none => simpa [skip] using ih
    | some f => simpa [skip] using ⟨declares f rfl, ih⟩

/-- An accepted declaration has good options and members, its fields are those of the members, and
    its default sort is the name of a field. -/
theorem made_of_ofItem {item : Item} {d : DeclaredShape} (h : ofItem item = .ok d) :
    ∃ o os, item.options.foldlM ShapeOptions.take {} = .ok o ∧
      List.Forall₂ (fun m f => DeclaredField.ofMember o.rule m = .ok f) item.members os ∧
      d.fields = os.filterMap id ∧ d.defaultSort = o.defaultSort ∧
      ∀ sort ∈ d.defaultSort, d.fields.any (Text.sameName ·.name sort) = true := by
  rw [ofItem] at h
  obtain ⟨-, h⟩ := exceptGuard_eq_ok_iff.1 h
  obtain ⟨o, options, h⟩ := exceptBind_eq_ok_iff.1 h
  split at h
  next =>
    obtain ⟨os, members, h⟩ := exceptBind_eq_ok_iff.1 h
    refine ⟨o, os, options, exceptMapM_eq_ok members, ?_⟩
    dsimp only at h
    split at h
    next sort given =>
      split at h
      next named =>
        cases h
        refine ⟨rfl, rfl, fun s hs => ?_⟩
        obtain rfl : sort = s := Option.some.inj (given.symm.trans hs)
        exact named
      next => cases h
    next none =>
      cases h
      refine ⟨rfl, rfl, fun s hs => ?_⟩
      exact absurd (none.symm.trans hs) (by simp)
  all_goals cases h

/-- An accepted declaration has a field for every member that is not left out. -/
theorem ofItem_eq_ok {item : Item} {d : DeclaredShape} (h : ofItem item = .ok d) :
    ∃ o, item.options.foldlM ShapeOptions.take {} = .ok o ∧
      List.Forall₂ (Member.Declares o.rule) (item.members.filter (!·.marked "skip")) d.fields := by
  obtain ⟨o, os, options, members, fields, -⟩ := made_of_ofItem h
  exact ⟨o, options, fields ▸ declares_of_ofMember members⟩

end DeclaredShape

/-! ### Shapes behind declarations -/

/-- What a declaration takes from the program around it: what written types stand for, and how the
    field at a place is read out of a record. -/
structure Backing (ρ : Type) where
  type : String → FieldType
  nullable : String → Bool
  read : Nat → ρ → Value
  /-- Types that are written as types of texts are such. -/
  type_of_holdsText : ∀ t, TypeText.holdsText t = true → type t = .text

namespace DeclaredShape

variable {ρ : Type} {d : DeclaredShape}

/-- The field at a place of the shape. -/
def field (d : DeclaredShape) (b : Backing ρ) (i : Fin d.fields.length) : Field ρ :=
  ⟨⟨d.fields[i].name, b.type d.fields[i].type, b.nullable d.fields[i].type⟩, b.read i⟩

/-- The shape that a declaration makes. -/
def shapeOn (d : DeclaredShape) (b : Backing ρ) : Shape ρ :=
  ⟨⟨d.shape, List.ofFn (d.field b)⟩, d.textFields, d.defaultSort⟩

/-- Nothing before the field has its name. -/
def Foremost (d : DeclaredShape) (i : Fin d.fields.length) : Prop :=
  ∀ k < i, Text.sameName d.fields[k].name d.fields[i].name = false

instance (d : DeclaredShape) (i : Fin d.fields.length) : Decidable (d.Foremost i) :=
  inferInstanceAs (Decidable (∀ k < i, _))

/-- Requests reach a field by its name. -/
structure Addressable (d : DeclaredShape) (b : Backing ρ) (i : Fin d.fields.length) : Prop where
  /-- The name stands for that very field, in any case. -/
  resolves (name : String) : Text.sameName d.fields[i].name name = true →
    (d.shapeOn b).schema.resolve name = some (d.field b i)
  /-- A criterion with the name is a test on the field. -/
  filters (c : Criterion) : Text.sameName d.fields[i].name c.field = true →
    c.compile (d.shapeOn b).schema = (c.testOn (d.field b i)).map (.test (d.field b i))
  /-- If the field is marked so, free text finds every record in which it mentions the term. -/
  searched : d.fields[i].text = true → ∀ term x, (d.field b i).Mentions term x →
    (freeText (d.shapeOn b).schema (d.shapeOn b).textFields (some term)).value.accepts x = true

/-- A name stands for the first field that has it. -/
theorem resolve_shapeOn_eq_some_iff {b : Backing ρ} {name : String} {f : Field ρ} :
    (d.shapeOn b).schema.resolve name = some f ↔
      ∃ i, d.field b i = f ∧ Text.sameName d.fields[i].name name = true ∧
        ∀ k < i, Text.sameName d.fields[k].name name = false := by
  rw [Schema.resolve, shapeOn, List.find?_eq_some_iff_getElem]
  constructor
  · rintro ⟨named, i, bound, rfl, first⟩
    rw [List.getElem_ofFn] at named
    refine ⟨⟨i, by simpa using bound⟩, by simp, named, fun k before => ?_⟩
    have other := first k.val before
    rw [List.getElem_ofFn, Bool.not_eq_true'] at other
    exact other
  · rintro ⟨i, rfl, named, first⟩
    refine ⟨named, i.val, by simp, by simp, fun k before => ?_⟩
    have other := first ⟨k, Nat.lt_trans before i.isLt⟩ before
    rw [List.getElem_ofFn, Bool.not_eq_true']
    exact other

/-- The first field with its name is reached by it. -/
theorem resolve_of_foremost {i : Fin d.fields.length} (first : d.Foremost i) (b : Backing ρ)
    {name : String} (same : Text.sameName d.fields[i].name name = true) :
    (d.shapeOn b).schema.resolve name = some (d.field b i) := by
  refine resolve_shapeOn_eq_some_iff.2 ⟨i, rfl, same, fun k before => ?_⟩
  rw [← Text.sameName_right same]
  exact first k before

/-- The first field with its name is addressable, if it holds text when it is marked so. -/
theorem addressable_of_foremost {i : Fin d.fields.length} (first : d.Foremost i)
    (holdsText : d.fields[i].text = true → TypeText.holdsText d.fields[i].type = true)
    (b : Backing ρ) : d.Addressable b i where
  resolves name same := resolve_of_foremost first b same
  filters c same := by rw [Criterion.compile, resolve_of_foremost first b same]
  searched marked term x mentions := by
    rw [Shape.accepts_freeText_iff]
    rintro _ ⟨⟩
    refine .inr (.inr ⟨d.field b i, ?_, mentions⟩)
    have listed : d.fields[i].name ∈ d.textFields :=
      List.mem_map_of_mem (List.mem_filter.2 ⟨List.getElem_mem i.isLt, marked⟩)
    have isText : (d.field b i).type.isText = true := by
      rw [Field.type, field, b.type_of_holdsText _ (holdsText marked)]
      rfl
    refine List.mem_filterMap.2 ⟨d.fields[i].name, listed, ?_⟩
    rw [resolve_of_foremost first b (Text.sameName_refl _), Option.filter_some, if_pos isText]

/-- Records that are places: a field holds nothing in the record of its own place only. -/
def places : Backing Nat where
  type _ := .text
  nullable _ := true
  read i r := if i = r then .null else .present (.bool true)
  type_of_holdsText _ _ := rfl

/-- A field that is reached by its name is the first with that name. -/
theorem foremost_of_addressable {i : Fin d.fields.length} (h : d.Addressable places i) :
    d.Foremost i := by
  obtain ⟨j, equal, -, first⟩ :=
    resolve_shapeOn_eq_some_iff.1 (h.resolves d.fields[i].name (Text.sameName_refl _))
  have place : j = i := by
    have read := congrArg (fun f => f.read i.val) equal
    by_contra other
    simp [field, places, Fin.val_inj, other] at read
  exact place ▸ first

/-- An accepted declaration has a field for every member that is not left out, under the name that
    the member is given, and the fields that requests reach are those before which nothing has their
    name. -/
theorem addressable_ofItem {item : Item} {d : DeclaredShape} (accepted : ofItem item = .ok d) :
    (∃ o, item.options.foldlM ShapeOptions.take {} = .ok o ∧
      List.Forall₂ (Member.Declares o.rule) (item.members.filter (!·.marked "skip")) d.fields) ∧
    ∀ i : Fin d.fields.length,
      (∀ (ρ : Type) (b : Backing ρ), d.Addressable b i) ↔ d.Foremost i := by
  obtain ⟨o, options, members⟩ := ofItem_eq_ok accepted
  refine ⟨⟨o, options, members⟩, fun i => ⟨fun all => ?_, fun first ρ b => ?_⟩⟩
  · exact foremost_of_addressable (all Nat places)
  · obtain ⟨sameLength, declares⟩ := List.forall₂_iff_get.1 members
    have declares := declares i.val (by rw [sameLength]; exact i.isLt) i.isLt
    exact addressable_of_foremost first declares.holdsText b

/-- The declaration of the users' shape. -/
def usersItem : Item where
  kind := .record
  name := "User"
  generic := false
  options :=
    [⟨"shape", some (.text "users")⟩, ⟨"rename_all", some (.text "camelCase")⟩,
     ⟨"default_sort", some (.text "createdAt")⟩]
  members :=
    [⟨"id", "i32", []⟩, ⟨"full_name", "String", [⟨"text", none⟩]⟩,
     ⟨"email", "String", [⟨"text", none⟩]⟩, ⟨"password", "String", [⟨"skip", none⟩]⟩,
     ⟨"gender", "Gender", []⟩, ⟨"role", "Role", []⟩,
     ⟨"phone_number", "Option<String>", [⟨"text", none⟩]⟩,
     ⟨"address", "Option<String>", [⟨"text", none⟩]⟩, ⟨"date_of_birth", "Option<NaiveDate>", []⟩,
     ⟨"about_me", "Option<String>", []⟩, ⟨"profile_picture", "Option<String>", []⟩,
     ⟨"is_email_verified", "bool", []⟩, ⟨"created_at", "DateTime<Utc>", []⟩,
     ⟨"updated_at", "Option<DateTime<Utc>>", []⟩]

/-- What the users' shape is declared over. -/
def usersBacking : Backing User where
  type t :=
    if TypeText.holdsText t then .text
    else match t with
      | "i32" => .int32
      | "bool" => .bool
      | "Gender" => .tag Gender.set.tags
      | "Role" => .tag Role.set.tags
      | _ => .timestamp
  nullable t := "Option".toList.isPrefixOf t.toList
  read i u := (User.shape.schema.fields[i]?.map fun f => f.read u).getD .null
  type_of_holdsText _ h := if_pos h

theorem addressable_ofItem_usersItem :
    ∃ d, ofItem usersItem = .ok d ∧ d.shapeOn usersBacking = User.shape ∧
      ∀ i, d.Addressable usersBacking i := by
  obtain ⟨d, accepted, made, foremost⟩ :
      ∃ d, ofItem usersItem = .ok d ∧ d.shapeOn usersBacking = User.shape ∧ ∀ i, d.Foremost i :=
    ⟨_, rfl, rfl, by decide⟩
  exact ⟨d, accepted, made, fun i =>
    ((addressable_ofItem accepted).2 i).2 (foremost i) User usersBacking⟩

/-- A declaration that is accepted although two of its fields get one name, up to case. -/
def renamedItem : Item where
  kind := .record
  name := "Person"
  generic := false
  options := []
  members :=
    [⟨"title", "String", [⟨"text", none⟩, ⟨"rename", some (.text "name")⟩]⟩,
     ⟨"alias", "String", [⟨"text", none⟩, ⟨"rename", some (.text "Name")⟩]⟩]

/-- Pairs of texts: the first field holds one, the second the other. -/
def pairs : Backing (String × String) where
  type _ := .text
  nullable _ := false
  read i r := .present (.text (if i = 0 then r.1 else r.2))
  type_of_holdsText _ _ := rfl

/-- The second of two fields with one name is not reached: its name stands for the first, and free
    text does not find what only the second mentions, although it is marked so. -/
theorem addressable_fails_renamed :
    ∃ d, ofItem renamedItem = .ok d ∧ ∃ i : Fin d.fields.length,
      d.fields[i].name = "Name" ∧ d.fields[i].text = true ∧
      (d.shapeOn pairs).schema.resolve "Name" ≠ some (d.field pairs i) ∧
      (d.field pairs i).Mentions "b" ("a", "b") ∧
      (freeText (d.shapeOn pairs).schema (d.shapeOn pairs).textFields (some "b")).value.accepts
        ("a", "b") = false := by
  refine ⟨⟨"persons", [⟨"title", "name", "String", true⟩, ⟨"alias", "Name", "String", true⟩], none⟩,
    ?_, (1 : Fin 2), rfl, rfl, fun same => ?_, by decide, rfl⟩
  · rfl
  · have read := congrArg (Option.map fun f => f.read ("a", "b")) same
    exact absurd read (by decide)

end DeclaredShape

end RecordSearch
