import Mathlib.Data.List.Forall2
import RecordSearch.Proofs.Entries
import RecordSearch.Proofs.Search

/-! Spellings that mean the same.

    Names of fields, directions, truth values and tags count in any case of A to Z. So do the words for
    operators, which may besides have marks put in and blanks around them, and of which an operator
    may have several.

        GreaterThan    greater_than    "  Greater Than "    G-T    gt      one operator
        greater.than    >                                                  none

    Two requests that differ in nothing but such spellings have the same plan. -/

namespace RecordSearch

/-! ### Characters -/

namespace Text

/-- One of A to Z becomes the letter 32 places further on. -/
theorem toNat_toLower {c : Char} (low : 65 ≤ c.toNat) (high : c.toNat ≤ 90) :
    c.toLower.toNat = c.toNat + 32 := by
  have lowered : c.toLower = _ := dif_pos ⟨low, high⟩
  rw [lowered]
  show (c.toNat + 32) % 2 ^ 32 = c.toNat + 32
  exact Nat.mod_eq_of_lt (by omega)

/-- Only the letters A to Z are changed, and each becomes one of a to z. -/
theorem toLower_eq_or (c : Char) :
    c.toLower = c ∨ 65 ≤ c.toNat ∧ c.toNat ≤ 90 ∧ 97 ≤ c.toLower.toNat ∧ c.toLower.toNat ≤ 122 := by
  by_cases h : 65 ≤ c.toNat ∧ c.toNat ≤ 90
  · right
    have value := toNat_toLower h.1 h.2
    omega
  · exact .inl (dif_neg h)

/-- No letter is blank. -/
theorem isBlank_toLower (c : Char) : isBlank c.toLower = isBlank c := by
  rcases toLower_eq_or c with h | ⟨low, high, low', high'⟩
  · rw [h]
  · have letter {d : Char} (h : 65 ≤ d.toNat ∧ d.toNat ≤ 122) : isBlank d = false := by
      simp only [isBlank, Bool.or_eq_false_iff, Bool.and_eq_false_iff, decide_eq_false_iff_not,
        beq_eq_false_iff_ne]
      omega
    rw [letter (by omega), letter (by omega)]

/-- A character that is no letter is found in any case. -/
theorem toLower_eq_iff {m c : Char} (other : m.toNat < 65 ∨ 90 < m.toNat ∧ m.toNat < 97) :
    c.toLower = m ↔ c = m := by
  rcases toLower_eq_or c with h | ⟨low, high, low', high'⟩
  · rw [h]
  · constructor
    · rintro rfl
      omega
    · rintro rfl
      omega

/-! ### Texts in any case -/

section

variable {a b : String}

theorem sameName_right (h : sameName a b = true) (t : String) : sameName t a = sameName t b := by
  rw [sameName, sameName, sameName_iff.1 h]

theorem sameName_left (h : sameName a b = true) (t : String) : sameName a t = sameName b t := by
  rw [sameName, sameName, sameName_iff.1 h]

theorem blank_eq (s : String) : blank s = (foldAscii s).all isBlank := by
  rw [blank, foldAscii, List.all_map]
  simp only [Function.comp_def, isBlank_toLower]

theorem blank_congr (h : sameName a b = true) : blank a = blank b := by
  rw [blank_eq, blank_eq, sameName_iff.1 h]

theorem trimmed_map_toLower (s : List Char) :
    trimmed (s.map Char.toLower) = (trimmed s).map Char.toLower := by
  have drop (t : List Char) :
      (t.map Char.toLower).dropWhile isBlank = (t.dropWhile isBlank).map Char.toLower := by
    rw [List.dropWhile_map]
    simp only [Function.comp_def, isBlank_toLower]
  rw [trimmed, trimmed, trimLeft, trimLeft, drop, trimRight, trimRight, ← List.map_reverse, drop,
    List.map_reverse]

theorem sameName_trim (h : sameName a b = true) : sameName (trim a) (trim b) = true := by
  rw [sameName_iff] at *
  rw [foldAscii, foldAscii, toList_trim, toList_trim, ← trimmed_map_toLower,
    ← trimmed_map_toLower]
  exact congrArg trimmed h

theorem pieces_map_toLower {mark : Char} (other : mark.toNat < 65) (s : List Char) :
    pieces mark (s.map Char.toLower) = (pieces mark s).map (List.map Char.toLower) := by
  induction s with
  | nil => rfl
  | cons c s ih =>
    simp only [List.map_cons, pieces, toLower_eq_iff (.inl other), ih]
    by_cases h : c = mark
    · rw [if_pos h, if_pos h]
      rfl
    · rw [if_neg h, if_neg h]
      rcases pieces mark s with _ | ⟨p, ps⟩
      · rfl
      · rfl

end

end Text

/-- The entries of a list depend on its case only in their own. -/
theorem map_foldAscii_splitList (s : String) :
    (splitList s).map Text.foldAscii =
      ((Text.pieces ',' (Text.foldAscii s)).map Text.trimmed).filter (· ≠ []) := by
  rw [Text.foldAscii, Text.pieces_map_toLower (by decide), splitList, List.map_map, List.map_map]
  generalize Text.pieces ',' s.toList = ps
  induction ps with
  | nil => rfl
  | cons p ps ih =>
    simp only [List.map_cons, Function.comp_apply, Text.trimmed_map_toLower, List.filter_cons,
      ne_eq, List.map_eq_nil_iff, decide_not]
    cases h : decide (Text.trimmed p = []) with
    | true => simpa using ih
    | false => simpa [Text.foldAscii] using ih

/-! ### What is read in any case -/

section

variable {ρ : Type} {a b : String}

theorem Schema.resolve_congr (h : Text.sameName a b = true) (s : Schema ρ) :
    s.resolve a = s.resolve b := by
  simp only [resolve, Text.sameName_right h]

theorem SortOrder.ofToken_congr {x y : Option String}
    (h : Option.Rel (Text.sameName · · = true) x y) : ofToken x = ofToken y := by
  cases h with
  | none => rfl
  | some h => rw [ofToken, ofToken, Text.sameName_left h]

/-- The types whose values count in any case: truth values and tags. -/
def FieldType.Caseless (type : FieldType) : Prop := type = .bool ∨ ∃ tags, type = .tag tags

theorem coerce_congr {type : FieldType} (caseless : type.Caseless)
    (h : Text.sameName a b = true) : coerce a type = coerce b type := by
  have trim := Text.sameName_trim h
  rcases caseless with rfl | ⟨tags, rfl⟩
  · simp only [coerce, Coercion.readBool, Text.sameName_left trim]
  · simp only [coerce, tagIndex, Text.sameName_right trim]

/-- The entries of a list that are of such a type are the same in any case. -/
theorem filterMap_coerce_congr {type : FieldType} (caseless : type.Caseless)
    (h : Text.sameName a b = true) :
    (splitList a).filterMap (coerce · type) = (splitList b).filterMap (coerce · type) := by
  have entries : (splitList a).map Text.foldAscii = (splitList b).map Text.foldAscii := by
    rw [map_foldAscii_splitList, map_foldAscii_splitList, Text.sameName_iff.1 h]
  generalize splitList a = xs at entries ⊢
  generalize splitList b = ys at entries ⊢
  induction xs generalizing ys with
  | nil =>
    obtain rfl : ys = [] := List.map_eq_nil_iff.1 entries.symm
    rfl
  | cons x xs ih =>
    obtain ⟨y, ys, rfl, first, rest⟩ := List.map_eq_cons_iff.1 entries.symm
    rw [List.filterMap_cons, List.filterMap_cons, ih ys rest.symm,
      coerce_congr caseless (Text.sameName_iff.2 first.symm)]

end

/-! ### Spellings of operators -/

namespace Operator

/-- The words for an operator: its full name, and its short forms. -/
def words : Operator → List String
  | equals => ["Equals", "eq"]
  | notEquals => ["NotEquals", "ne", "neq"]
  | contains => ["Contains"]
  | notContains => ["NotContains"]
  | startsWith => ["StartsWith"]
  | endsWith => ["EndsWith"]
  | greaterThan => ["GreaterThan", "gt"]
  | greaterThanOrEqual => ["GreaterThanOrEqual", "gte", "ge"]
  | lessThan => ["LessThan", "lt"]
  | lessThanOrEqual => ["LessThanOrEqual", "lte", "le"]
  | isIn => ["In"]
  | notIn => ["NotIn", "nin"]
  | isNull => ["IsNull", "null"]
  | isNotNull => ["IsNotNull", "notnull"]

/-- The marks that may stand between letters. -/
def marks : List Char := ['_', '-', ' ']

/-- The text is the word in any case of A to Z, with marks put in. -/
inductive Marked : List Char → List Char → Prop
  | nil : Marked [] []
  | letter {c d : Char} {s w : List Char} (same : c.toLower = d.toLower) (rest : Marked s w) :
      Marked (c :: s) (d :: w)
  | mark {c : Char} {s w : List Char} (mark : c ∈ marks) (rest : Marked s w) : Marked (c :: s) w

/-- The text is the word, marked in this way, with blanks around it. -/
def Spells (raw : String) (word : List Char) : Prop :=
  ∃ before core after, raw.toList = before ++ core ++ after ∧ before.all Text.isBlank = true ∧
    after.all Text.isBlank = true ∧ Marked core word

/-- The word has no blank at either end. -/
def Bare (word : List Char) : Prop :=
  word.head?.all (!Text.isBlank ·) = true ∧ word.getLast?.all (!Text.isBlank ·) = true

/-- Two spellings of one word, or of two words for one operator. -/
def Respelled (a b : String) : Prop :=
  (∃ word, Bare word ∧ Spells a word ∧ Spells b word) ∨
    ∃ op : Operator, ∃ w ∈ op.words, ∃ w' ∈ op.words, Spells a w.toList ∧ Spells b w'.toList

/-- What counts of a text: letters in lower case, and no marks. -/
def letters (s : List Char) : List Char :=
  (s.filter fun c => c != '_' && c != '-' && c != ' ').map Char.toLower

theorem key_eq (raw : String) : key raw = letters (Text.trimmed raw.toList) := rfl

theorem letters_cons_of_mem {c : Char} (mark : c ∈ marks) (s : List Char) :
    letters (c :: s) = letters s := by
  simp only [marks, List.mem_cons, List.not_mem_nil, or_false] at mark
  rcases mark with rfl | rfl | rfl <;> rfl

theorem letters_cons_congr {c d : Char} (same : c.toLower = d.toLower) {s w : List Char}
    (rest : letters s = letters w) : letters (c :: s) = letters (d :: w) := by
  have mark (m : Char) (other : m.toNat < 65 ∨ 90 < m.toNat ∧ m.toNat < 97) :
      (c != m) = (d != m) := by
    rw [Bool.eq_iff_iff, bne_iff_ne, bne_iff_ne, ne_eq, ne_eq, ← Text.toLower_eq_iff other, same,
      Text.toLower_eq_iff other]
  rw [letters, letters, List.filter_cons, List.filter_cons, mark '_' (by decide),
    mark '-' (by decide), mark ' ' (by decide)]
  split
  · rw [List.map_cons, List.map_cons, same]
    exact congrArg _ rest
  · exact rest

namespace Marked

variable {s t w x : List Char}

/-- Marks and case do not count. -/
theorem letters_eq (h : Marked s w) : letters s = letters w := by
  induction h with
  | nil => rfl
  | letter same _ ih => exact letters_cons_congr same ih
  | mark mark _ ih => rw [letters_cons_of_mem mark, ih]

theorem append (h : Marked s w) (k : Marked t x) : Marked (s ++ t) (w ++ x) := by
  induction h with
  | nil => exact k
  | letter same _ ih => exact .letter same ih
  | mark mark _ ih => exact .mark mark ih

theorem reverse (h : Marked s w) : Marked s.reverse w.reverse := by
  induction h with
  | nil => exact .nil
  | letter same _ ih =>
    rw [List.reverse_cons, List.reverse_cons]
    exact ih.append (.letter same .nil)
  | @mark c s w mark _ ih =>
    rw [List.reverse_cons, ← List.append_nil w.reverse]
    exact ih.append (.mark mark .nil)

/-- In front of a word that does not start with a blank, the only blanks are marks. -/
theorem dropWhile (h : Marked s w) (shown : w.head?.all (!Text.isBlank ·) = true) :
    Marked (s.dropWhile Text.isBlank) w := by
  induction h with
  | nil => exact .nil
  | @letter c d s w same rest _ =>
    have visible : Text.isBlank c = false := by
      rw [← Text.isBlank_toLower, same, Text.isBlank_toLower]
      exact (Bool.not_eq_true' _).mp shown
    rw [List.dropWhile_cons_of_neg (Bool.eq_false_iff.1 visible)]
    exact .letter same rest
  | @mark c s w mark rest ih =>
    rw [List.dropWhile_cons]
    split
    · exact ih shown
    · exact .mark mark rest

theorem trimmed (h : Marked s w) (bare : Bare w) : Marked (Text.trimmed s) w := by
  have left := h.dropWhile bare.1
  have right := left.reverse.dropWhile (by rw [List.head?_reverse]; exact bare.2)
  have both := right.reverse
  rwa [List.reverse_reverse] at both

end Marked

variable {raw a b : String} {word : List Char}

/-- Blanks around a word do not count either. -/
theorem Spells.key_eq (h : Spells raw word) (bare : Bare word) : key raw = letters word := by
  obtain ⟨before, core, after, hraw, hbefore, hafter, marked⟩ := h
  have surrounded : Text.trimmed raw.toList = Text.trimmed core := by
    rw [hraw, List.append_assoc]
    exact Text.trimmed_surrounded hbefore hafter core
  rw [Operator.key_eq, surrounded]
  exact (marked.trimmed bare).letters_eq

/-- A word for an operator is bare, and is read as the operator. -/
theorem lookup_of_mem_words {op : Operator} {w : String} (h : w ∈ op.words) :
    Bare w.toList ∧ spellings.lookup (String.ofList (letters w.toList)) = some op := by
  cases op <;> simp only [words, List.mem_cons, List.not_mem_nil, or_false] at h <;>
    (rcases h with rfl | rfl | rfl) <;> exact ⟨⟨rfl, rfl⟩, rfl⟩

/-- Spellings that mean the same are read as the same operator, or not at all. -/
theorem Respelled.read?_eq (h : Respelled a b) : read? a = read? b := by
  rw [read?, read?]
  rcases h with ⟨word, bare, ha, hb⟩ | ⟨op, w, hw, w', hw', ha, hb⟩
  · rw [ha.key_eq bare, hb.key_eq bare]
  · obtain ⟨bare, known⟩ := lookup_of_mem_words hw
    obtain ⟨bare', known'⟩ := lookup_of_mem_words hw'
    rw [ha.key_eq bare, hb.key_eq bare', known, known']

end Operator

/-! ### Criteria and plans -/

section

variable {ρ : Type} {schema : Schema ρ} {f : Field ρ}

/-- The values of criteria on a field differ at most in case, and only if the field is of truth values
    or tags. -/
inductive Schema.SameValue (schema : Schema ρ) (name : String) : Option String → Option String → Prop
  | same (v : Option String) : SameValue schema name v v
  | caseless {f : Field ρ} {a b : String} (resolves : schema.resolve name = some f)
      (caseless : f.type.Caseless) (h : Text.sameName a b = true) :
      SameValue schema name (some a) (some b)

/-- The criteria differ at most in the case of the field, and in the case of such values. -/
structure Criterion.Alike (schema : Schema ρ) (c d : Criterion) : Prop where
  field : Text.sameName c.field d.field = true
  operator : c.operator = d.operator
  value : schema.SameValue c.field c.value d.value

theorem FieldType.Caseless.isText {type : FieldType} (h : type.Caseless) : type.isText = false := by
  rcases h with rfl | ⟨tags, rfl⟩ <;> rfl

theorem FieldType.Caseless.isOrdered {type : FieldType} (h : type.Caseless) :
    type.isOrdered = false := by
  rcases h with rfl | ⟨tags, rfl⟩ <;> rfl

theorem Field.literal?_congr {a b : String} (caseless : f.type.Caseless)
    (h : Text.sameName a b = true) : f.literal? (some a) = f.literal? (some b) := by
  simp only [literal?, Option.filter, Text.blank_congr h]
  split
  · exact coerce_congr caseless h
  · rfl

theorem Field.literals?_congr {a b : String} (caseless : f.type.Caseless)
    (h : Text.sameName a b = true) : f.literals? (some a) = f.literals? (some b) := by
  simp only [literals?, Option.filter_some, Text.blank_congr h]
  split
  · simp only [Option.map_some, filterMap_coerce_congr caseless h]
  · rfl

/-- Criteria that are alike make the same test, or none. -/
theorem Criterion.Alike.testOn_eq {c d : Criterion} (h : c.Alike schema d)
    (resolves : schema.resolve c.field = some f) :
    (c.testOn f).toOption = (d.testOn f).toOption := by
  obtain ⟨field, operator, value⟩ := h
  obtain ⟨name, op, v⟩ := c
  obtain ⟨name', op', v'⟩ := d
  obtain rfl : op = op' := operator
  cases value with
  | same => rfl
  | @caseless g a b resolves' caseless same =>
    obtain rfl : f = g := Option.some.inj (resolves.symm.trans resolves')
    have literal := f.literal?_congr caseless same
    have literals := f.literals?_congr caseless same
    simp only [testOn, caseless.isText, caseless.isOrdered, requireLiteral_eq, requireLiterals_eq]
    rcases op.kind with (_ | _) | _ | _ | _ | _
    · simp only [exceptToOption_map, exceptToOption_elim, literal]
    · simp only [exceptToOption_map, exceptToOption_elim, literal]
    · rfl
    · rfl
    · simp only [exceptToOption_map, exceptToOption_elim, literals]
    · rfl

/-- Criteria that are alike compile to the same predicate, or fail. -/
theorem Criterion.Alike.compile_eq {c d : Criterion} (h : c.Alike schema d) :
    (c.compile schema).toOption = (d.compile schema).toOption := by
  rw [compile, compile, ← schema.resolve_congr h.field]
  rcases hf : schema.resolve c.field with _ | f
  · rfl
  · show ((c.testOn f).map _).toOption = ((d.testOn f).map _).toOption
    rw [exceptToOption_map, exceptToOption_map, h.testOn_eq hf]

theorem filterMap_compile_congr {cs ds : List Criterion}
    (h : List.Forall₂ (Criterion.Alike schema) cs ds) :
    (cs.filterMap fun c => (c.compile schema).toOption) =
      ds.filterMap fun c => (c.compile schema).toOption := by
  induction h with
  | nil => rfl
  | cons first _ ih => rw [List.filterMap_cons, List.filterMap_cons, first.compile_eq, ih]

end

section

variable {ρ δ : Type}

/-- The requests differ at most in the case of the sort field, of the direction, of the fields of
    criteria, and of the values of criteria on truth values and tags. -/
structure Request.Alike (schema : Schema ρ) (r s : Request δ) : Prop where
  search : r.search = s.search
  page : r.page = s.page
  pageSize : r.pageSize = s.pageSize
  sortBy : Option.Rel (Text.sameName · · = true) r.sortBy s.sortBy
  sortOrder : Option.Rel (Text.sameName · · = true) r.sortOrder s.sortOrder
  filters : List.Forall₂ (Criterion.Alike schema) r.filters s.filters
  domain : r.domain = s.domain

/-- Names that are the same up to case give the same sort key. -/
theorem Request.Alike.sortKey_eq {shape : Shape ρ} {r s : Request δ}
    (h : r.Alike shape.schema s) : shape.sortKey r = shape.sortKey s := by
  have sortBy := h.sortBy
  rw [Shape.sortKey, Shape.sortKey, SortOrder.ofToken_congr h.sortOrder]
  generalize r.sortBy = x at sortBy ⊢
  generalize s.sortBy = y at sortBy ⊢
  cases sortBy with
  | none => rfl
  | @some a b same =>
    cases hb : Text.blank b with
    | true => simp [Option.filter, Text.blank_congr same, hb]
    | false => simp [Option.filter, Text.blank_congr same, hb, shape.schema.resolve_congr same]

/-- Requests that are alike have the same plan. -/
theorem Request.Alike.value_planRequest {shape : Shape ρ} {r s : Request δ}
    (h : r.Alike shape.schema s) (pager : Pager) (typed : δ → List (Predicate ρ)) :
    (planRequest pager shape typed r).value = (planRequest pager shape typed s).value := by
  have criteria : (compileAll shape.schema r.filters).value =
      (compileAll shape.schema s.filters).value := by
    rw [value_compileAll, value_compileAll, filterMap_compile_congr h.filters]
  have sort : (planRequest pager shape typed r).value.sort =
      (planRequest pager shape typed s).value.sort := by
    rw [sort_planRequest_eq_sortKey, sort_planRequest_eq_sortKey, h.sortKey_eq]
  rw [sort_planRequest, sort_planRequest] at sort
  rw [planRequest_eq, planRequest_eq, h.search, h.page, h.pageSize, h.domain, criteria, sort]

/-- Two requests get the same answer from every list, and from every other source, whatever it makes of
    a plan. -/
structure AnsweredAlike {τ : Type} (pager : Pager) (shape : Shape ρ)
    (typed : δ → List (Predicate ρ)) (project : ρ → τ) (r s : Request δ) : Prop where
  list : ∀ records : List ρ,
    (search pager shape typed (Source.ofList records) r project : Attempt (ResultPage τ)).value =
      (search pager shape typed (Source.ofList records) s project : Attempt (ResultPage τ)).value
  source : ∀ {m : Type → Type} [Monad m] [LawfulMonad m] [MonadNotes m],
    (∀ e, (MonadNotes.note e : m Unit) = pure ()) → ∀ source : Source m ρ,
      search pager shape typed source r project = search pager shape typed source s project

theorem Request.Alike.answeredAlike {τ : Type} {shape : Shape ρ} {r s : Request δ}
    (h : r.Alike shape.schema s) (pager : Pager) (typed : δ → List (Predicate ρ))
    (project : ρ → τ) : AnsweredAlike pager shape typed project r s where
  list records := by rw [value_search_ofList, value_search_ofList, h.value_planRequest]
  source silent source := by
    rw [search_of_silent silent, search_of_silent silent, h.value_planRequest]

end

end RecordSearch
