import Mathlib.Data.List.Forall2
import RecordSearch.Proofs.Lexemes

/-! Documents read off the front of JSON texts.

    A document that is read is a text of its own: the same text, put in front of anything else, is
    read as the same document. So the text of an object is made of texts of its members, which can
    be taken apart and put together again.

        { "page" : 2 , "search" : "an" }
         |----------| |---------------|     each a name, a colon, and a document -/

namespace RecordSearch.Json

variable {s t rest after : List Char}

/-! ### Texts of documents -/

theorem skipSpace_eq_nil_iff : skipSpace s = [] ↔ s.all isSpace = true := by
  constructor
  · intro nothing
    obtain ⟨space, blank, split⟩ := exists_space s
    rw [split, nothing, List.append_nil]
    exact blank
  · intro blank
    rw [← List.append_nil s, skipSpace_append blank]
    rfl

theorem Stops.space_append {space : List Char} (blank : space.all isSpace = true) (h : Stops t) :
    Stops (space ++ t) := by
  rcases space with _ | ⟨c, space⟩
  · exact h
  · rintro _ ⟨⟩
    rw [List.all_cons, Bool.and_eq_true] at blank
    have one : c = ' ' ∨ c = '\t' ∨ c = '\n' ∨ c = '\r' := by
      simpa [isSpace, or_assoc] using blank.1
    rcases one with rfl | rfl | rfl | rfl
    all_goals decide

/-- A text of a document: it is taken off the front, up to the space behind it, if a number may end
    there. -/
def Takes (v : Json) (p : List Char) : Prop :=
  ∀ t k, Stops t → 2 * p.length ≤ k →
    ∃ u, readValue k (p ++ t) = (v, some u) ∧ skipSpace u = skipSpace t

/-- The text of the items of an array. -/
inductive ItemsText : List Json → List Char → Prop where
  | one {v : Json} {p : List Char} (item : Takes v p) : ItemsText [v] p
  | cons {v : Json} {vs : List Json} {p q : List Char} (item : Takes v p) (items : ItemsText vs q) :
    ItemsText (v :: vs) (p ++ ',' :: q)

/-- The text of a key: it begins with a quotation mark, behind space, and is taken off the front. -/
def KeyText (key : Json) (p : List Char) : Prop :=
  (∃ q, skipSpace p = '"' :: q) ∧ Takes key p

/-- The text of a member: its key, a colon, and its document. -/
def MemberText (m : String × Json) (p : List Char) : Prop :=
  ∃ key name v value, p = name ++ ':' :: value ∧ KeyText key name ∧ Takes v value ∧ m = member key v

/-- The text of the members of an object. -/
inductive MembersText : List (String × Json) → List Char → Prop where
  | one {m : String × Json} {p : List Char} (member : MemberText m p) : MembersText [m] p
  | cons {m : String × Json} {ms : List (String × Json)} {p q : List Char}
    (member : MemberText m p) (members : MembersText ms q) : MembersText (m :: ms) (p ++ ',' :: q)

section

variable {k : Nat} {v : Json} {p space : List Char}

theorem readValue_skipSpace (k : Nat) (s : List Char) :
    readValue k (skipSpace s) = readValue k s := by
  cases k with
  | zero => rfl
  | succ k => rw [readValue, skipSpace_skipSpace, readValue]

/-- Space before a document belongs to it. -/
theorem Takes.space_append (h : Takes v p) (blank : space.all isSpace = true) :
    Takes v (space ++ p) := by
  intro t k stops enough
  rw [List.length_append] at enough
  rw [List.append_assoc, ← readValue_skipSpace, skipSpace_append blank, readValue_skipSpace]
  exact h t k stops (by omega)

/-- So does space behind it. -/
theorem Takes.append_space (h : Takes v p) (blank : space.all isSpace = true) :
    Takes v (p ++ space) := by
  intro t k stops enough
  rw [List.length_append] at enough
  obtain ⟨u, read, rest⟩ := h (space ++ t) k (stops.space_append blank) (by omega)
  exact ⟨u, by rw [List.append_assoc, read], by rw [rest, skipSpace_append blank]⟩

/-- Behind the character that opens, there is fuel for the rest. -/
theorem exists_fuel {c : Char} (enough : 2 * (c :: p).length ≤ k) :
    ∃ k', k = k' + 1 ∧ 2 * p.length < k' := by
  rw [List.length_cons] at enough
  exact ⟨k - 1, by omega, by omega⟩

theorem takes_text (h : ∀ t k, p.length ≤ k → readText k true [] (p ++ t) = some (v, t)) :
    Takes v ('"' :: p) := by
  intro t k _ enough
  obtain ⟨k, rfl, less⟩ := exists_fuel enough
  refine ⟨t, ?_, rfl⟩
  rw [List.cons_append, readValue, skipSpace_cons (by decide)]
  simp only [h t k (by omega)]

theorem takes_word {word : String} {c : Char} {s : List Char} (spelled : word.toList = c :: s)
    (known : ∀ k s, readValue (k + 1) (c :: s) = readWord word v (c :: s)) :
    Takes v word.toList := by
  intro t k _ enough
  rw [spelled] at enough
  obtain ⟨k, rfl, -⟩ := exists_fuel enough
  refine ⟨t, ?_, rfl⟩
  rw [← readWord_append word v t, spelled]
  exact known k (s ++ t)

/-- A digit or a minus begins a number and nothing else. -/
theorem readValue_number {c : Char} (first : c = '-' ∨ c.isDigit = true) (k : Nat) (s : List Char) :
    readValue (k + 1) (c :: s) =
      match readNumber (c :: s) with
      | some (n, after) => (n.toJson, some after)
      | none => (gap .broken, none) := by
  have other {d : Char} (h : d ≠ '-' ∧ d.isDigit = false) : c ≠ d := by
    rintro rfl
    rcases first with minus | digit
    · exact h.1 minus
    · rw [h.2] at digit
      cases digit
  have notSpace : isSpace c = false := by
    simp only [isSpace, Bool.or_eq_false_iff, decide_eq_false_iff_not]
    exact ⟨⟨⟨other (by decide), other (by decide)⟩, other (by decide)⟩, other (by decide)⟩
  rw [readValue, skipSpace_cons notSpace]
  split
  next h => exact absurd (List.cons.inj h).1 (other (by decide))
  next h => exact absurd (List.cons.inj h).1 (other (by decide))
  next h => exact absurd (List.cons.inj h).1 (other (by decide))
  next h => exact absurd (List.cons.inj h).1 (other (by decide))
  next h => exact absurd (List.cons.inj h).1 (other (by decide))
  next h => exact absurd (List.cons.inj h).1 (other (by decide))
  next => rfl

theorem takes_number {n : NumberText} {c : Char} (first : c = '-' ∨ c.isDigit = true)
    (h : ∀ t, Stops t → readNumber (c :: (p ++ t)) = some (n, t)) : Takes n.toJson (c :: p) := by
  intro t k stops enough
  obtain ⟨k, rfl, -⟩ := exists_fuel enough
  refine ⟨t, ?_, rfl⟩
  rw [List.cons_append, readValue_number first, h t stops]

theorem takes_object_nil (blank : space.all isSpace = true) :
    Takes (object []) ('{' :: (space ++ ['}'])) := by
  intro t k _ enough
  obtain ⟨k, rfl, -⟩ := exists_fuel enough
  refine ⟨t, ?_, rfl⟩
  rw [List.cons_append, List.append_assoc, readValue, skipSpace_cons (by decide)]
  simp only [skipSpace_append blank, List.singleton_append, skipSpace_cons (c := '}') (by decide)]

theorem takes_array_nil (blank : space.all isSpace = true) :
    Takes (array []) ('[' :: (space ++ [']'])) := by
  intro t k _ enough
  obtain ⟨k, rfl, -⟩ := exists_fuel enough
  refine ⟨t, ?_, rfl⟩
  rw [List.cons_append, List.append_assoc, readValue, skipSpace_cons (by decide)]
  simp only [skipSpace_append blank, List.singleton_append, skipSpace_cons (c := ']') (by decide)]

/-- Where a document is read, no bracket closes. -/
theorem Takes.skipSpace_ne (h : Takes v p) (stops : Stops t) (s : List Char) :
    skipSpace (p ++ t) ≠ ']' :: s := by
  intro closes
  obtain ⟨u, read, -⟩ := h t (2 * p.length + 1) stops (by omega)
  rw [← readValue_skipSpace, closes] at read
  cases read

/-- Items are read up to the bracket. -/
theorem ItemsText.readItems {vs : List Json} (h : ItemsText vs p) :
    ∀ t k, 2 * p.length < k → Json.readItems k (p ++ ']' :: t) = (vs, some t) := by
  induction h with
  | @one v p item =>
    intro t k enough
    obtain ⟨k, rfl⟩ : ∃ k', k = k' + 1 := ⟨k - 1, by omega⟩
    obtain ⟨u, read, rest⟩ := item (']' :: t) k (by rintro _ ⟨⟩; decide) (by omega)
    rw [skipSpace_cons (by decide)] at rest
    simp only [Json.readItems, read, rest]
  | @cons v vs p q item items ih =>
    intro t k enough
    rw [List.length_append, List.length_cons] at enough
    obtain ⟨k, rfl⟩ : ∃ k', k = k' + 1 := ⟨k - 1, by omega⟩
    obtain ⟨u, read, rest⟩ := item (',' :: (q ++ ']' :: t)) k (by rintro _ ⟨⟩; decide) (by omega)
    rw [skipSpace_cons (by decide)] at rest
    rw [List.append_assoc, List.cons_append]
    simp only [Json.readItems, read, rest, ih t k (by omega)]

theorem readItems_skipSpace (k : Nat) (s : List Char) :
    Json.readItems k (skipSpace s) = Json.readItems k s := by
  cases k with
  | zero => rfl
  | succ k => rw [Json.readItems, readValue_skipSpace, Json.readItems]

theorem takes_array {vs : List Json} (h : ItemsText vs p) :
    Takes (array vs) ('[' :: (p ++ [']'])) := by
  intro t k _ enough
  obtain ⟨k, rfl, less⟩ := exists_fuel enough
  rw [List.length_append] at less
  refine ⟨t, ?_, rfl⟩
  have items := h.readItems t k (by omega)
  have opens : ∀ s, skipSpace (p ++ ']' :: t) ≠ ']' :: s := by
    cases h with
    | one item => exact item.skipSpace_ne (by rintro _ ⟨⟩; decide)
    | cons item _ =>
      rw [List.append_assoc, List.cons_append]
      exact item.skipSpace_ne (by rintro _ ⟨⟩; decide)
  rw [List.cons_append, List.append_assoc, List.singleton_append, readValue,
    skipSpace_cons (by decide)]
  simp only [readItems_skipSpace, items]

/-- A number says an integer, a floating point number, or nothing. -/
theorem NumberText.toJson_eq (n : NumberText) :
    (∃ i, n.toJson = integer i) ∨ (∃ x, n.toJson = real x) ∨ n.toJson = gap .unreadable := by
  unfold NumberText.toJson
  dsimp only
  cases n.toDouble? <;> repeat' split
  all_goals simp

/-- Only what begins with a brace is read as an object. -/
theorem exists_brace_of_readValue {ms : List (String × Json)}
    (h : readValue (k + 1) s = (object ms, some after)) :
    ∃ rest, skipSpace s = '{' :: rest ∧
      (ms = [] ∧ skipSpace rest = '}' :: after ∨
        Json.readMembers k (skipSpace rest) = (ms, some after)) := by
  rw [readValue] at h
  split at h
  next rest opens =>
    refine ⟨rest, opens, ?_⟩
    split at h
    next closes =>
      cases h
      exact .inl ⟨rfl, closes⟩
    next =>
      cases read : Json.readMembers k (skipSpace rest) with
      | mk ms after =>
        rw [read] at h
        cases h
        exact .inr rfl
  next => split at h <;> cases h
  next =>
    split at h
    next read =>
      cases h
      rcases eq_text_of_readText read with ⟨n, eq⟩ | eq
      all_goals cases eq
    next => cases h
  next => cases (readWord_eq_some h).1
  next => cases (readWord_eq_some h).1
  next => cases (readWord_eq_some h).1
  next =>
    split at h
    next number _ _ =>
      have same : number.toJson = object ms := congrArg Prod.fst h
      rcases number.toJson_eq with ⟨i, eq⟩ | ⟨x, eq⟩ | eq
      all_goals cases eq.symm.trans same
    next => cases h

/-- A key is read between its quotation marks. -/
theorem KeyText.exists_quote {key : Json} (h : KeyText key p) :
    ∃ space q, p = space ++ '"' :: q ∧ space.all isSpace = true ∧
      ∀ t k, q.length ≤ k →
        ∃ u, readText k true [] (q ++ t) = some (key, u) ∧ skipSpace u = skipSpace t := by
  obtain ⟨⟨q, quote⟩, takes⟩ := h
  obtain ⟨u, read, rest⟩ := takes [] (2 * p.length + 1) (by rintro _ ⟨⟩) (by omega)
  rw [List.append_nil, ← readValue_skipSpace, quote, readValue, skipSpace_cons (by decide)] at read
  simp only at read
  split at read
  next readKey =>
    cases read
    obtain ⟨q, rfl, -, again⟩ := readText_eq_some readKey
    obtain ⟨space, blank, split⟩ := exists_space p
    refine ⟨space, q ++ u, by rw [← quote, ← split], blank, fun t k enough => ⟨u ++ t, ?_, ?_⟩⟩
    · rw [List.length_append] at enough
      rw [List.append_assoc]
      exact again (u ++ t) k (by omega)
    · exact skipSpace_append (skipSpace_eq_nil_iff.1 rest) t
  next => cases read

theorem readMembers_skipSpace (k : Nat) (s : List Char) :
    Json.readMembers k (skipSpace s) = Json.readMembers k s := by
  cases k with
  | zero => rfl
  | succ k => rw [Json.readMembers, skipSpace_skipSpace, Json.readMembers]

/-- A member is read up to the comma or the brace behind it. -/
theorem MemberText.readMembers {m : String × Json} (h : MemberText m p) (stops : Stops t)
    (enough : 2 * p.length ≤ k) :
    (skipSpace t = ',' :: rest → Json.readMembers (k + 1) (p ++ t) =
      (m :: (Json.readMembers k rest).1, (Json.readMembers k rest).2)) ∧
    (skipSpace t = '}' :: rest → Json.readMembers (k + 1) (p ++ t) = ([m], some rest)) := by
  obtain ⟨key, name, v, value, rfl, named, document, rfl⟩ := h
  rw [List.length_append, List.length_cons] at enough
  obtain ⟨space, q, rfl, blank, quoted⟩ := named.exists_quote
  rw [List.length_append, List.length_cons] at enough
  obtain ⟨u, readName, colon⟩ := quoted (':' :: (value ++ t)) k (by omega)
  obtain ⟨u', readValue, behind⟩ := document t k stops (by omega)
  rw [skipSpace_cons (by decide)] at colon
  rw [List.append_assoc, List.append_assoc, ← readMembers_skipSpace, skipSpace_append blank,
    readMembers_skipSpace, List.cons_append, List.cons_append, Json.readMembers,
    skipSpace_cons (by decide)]
  simp only [readName, colon, readValue, behind]
  refine ⟨fun more => ?_, fun closes => ?_⟩
  · simp only [more]
  · simp only [closes]

/-- Members are read up to the brace. -/
theorem MembersText.readMembers {ms : List (String × Json)} (h : MembersText ms p) :
    ∀ t k, 2 * p.length < k → Json.readMembers k (p ++ '}' :: t) = (ms, some t) := by
  induction h with
  | @one m p member =>
    intro t k enough
    obtain ⟨k, rfl⟩ : ∃ k', k = k' + 1 := ⟨k - 1, by omega⟩
    exact (member.readMembers (by rintro _ ⟨⟩; decide) (by omega)).2 (skipSpace_cons (by decide) t)
  | @cons m ms p q member members ih =>
    intro t k enough
    rw [List.length_append, List.length_cons] at enough
    obtain ⟨k, rfl⟩ : ∃ k', k = k' + 1 := ⟨k - 1, by omega⟩
    have next := skipSpace_cons (c := ',') (by decide) (q ++ '}' :: t)
    have read := (member.readMembers (k := k) (by rintro _ ⟨⟩; decide) (by omega)).1 next
    rw [List.append_assoc, List.cons_append, read, ih t k (by omega)]

theorem takes_object {ms : List (String × Json)} (h : MembersText ms p) :
    Takes (object ms) ('{' :: (p ++ ['}'])) := by
  intro t k _ enough
  obtain ⟨k, rfl, less⟩ := exists_fuel enough
  rw [List.length_append] at less
  refine ⟨t, ?_, rfl⟩
  have members := h.readMembers t k (by omega)
  have opens : ∀ s, skipSpace (p ++ '}' :: t) ≠ '}' :: s := by
    intro s closes
    rw [← readMembers_skipSpace, closes] at members
    cases k with
    | zero => cases members
    | succ k => cases members
  rw [List.cons_append, List.append_assoc, List.singleton_append, readValue,
    skipSpace_cons (by decide)]
  simp only [readMembers_skipSpace, members]

/-! ### What is read -/

/-- With this fuel, a document that is read is a text of its own at the front. -/
def SplitsValues (fuel : Nat) : Prop :=
  ∀ {s v after}, readValue fuel s = (v, some after) → ∃ p, s = p ++ after ∧ Takes v p

/-- With this fuel, items that are read are a text of their own. -/
def SplitsItems (fuel : Nat) : Prop :=
  ∀ {s vs after}, Json.readItems fuel s = (vs, some after) →
    ∃ p, s = p ++ ']' :: after ∧ ItemsText vs p

/-- With this fuel, members that are read are a text of their own. -/
def SplitsMembers (fuel : Nat) : Prop :=
  ∀ {s ms after}, Json.readMembers fuel s = (ms, some after) →
    ∃ p, s = p ++ '}' :: after ∧ MembersText ms p

variable {fuel : Nat}

theorem splitsValues_succ (items : SplitsItems fuel) (members : SplitsMembers fuel) :
    SplitsValues (fuel + 1) := by
  intro s v after h
  obtain ⟨space, blank, split⟩ := exists_space s
  -- the space in front belongs to the document
  suffices ∃ p, skipSpace s = p ++ after ∧ Takes v p by
    obtain ⟨p, rest, takes⟩ := this
    exact ⟨space ++ p, by rw [List.append_assoc, ← rest, ← split], takes.space_append blank⟩
  rw [readValue] at h
  split at h
  next rest opens =>
    split at h
    next after closes =>
      cases h
      obtain ⟨inner, blank, inside⟩ := exists_space rest
      refine ⟨'{' :: (inner ++ ['}']), ?_, takes_object_nil blank⟩
      rw [opens, inside, closes]
      simp
    next =>
      rw [readMembers_skipSpace] at h
      cases read : Json.readMembers fuel rest with
      | mk ms after =>
        rw [read] at h
        cases h
        obtain ⟨p, rfl, text⟩ := members read
        exact ⟨'{' :: (p ++ ['}']), by rw [opens]; simp, takes_object text⟩
  next rest opens =>
    split at h
    next after closes =>
      cases h
      obtain ⟨inner, blank, inside⟩ := exists_space rest
      refine ⟨'[' :: (inner ++ [']']), ?_, takes_array_nil blank⟩
      rw [opens, inside, closes]
      simp
    next =>
      rw [readItems_skipSpace] at h
      cases read : Json.readItems fuel rest with
      | mk vs after =>
        rw [read] at h
        cases h
        obtain ⟨p, rfl, text⟩ := items read
        exact ⟨'[' :: (p ++ [']']), by rw [opens]; simp, takes_array text⟩
  next rest opens =>
    split at h
    next read =>
      cases h
      obtain ⟨p, rfl, -, again⟩ := readText_eq_some read
      exact ⟨'"' :: p, opens, takes_text again⟩
    next => cases h
  next rest opens =>
    obtain ⟨rfl, stands⟩ := readWord_eq_some h
    exact ⟨"null".toList, opens.trans stands, takes_word rfl fun _ _ => rfl⟩
  next rest opens =>
    obtain ⟨rfl, stands⟩ := readWord_eq_some h
    exact ⟨"true".toList, opens.trans stands, takes_word rfl fun _ _ => rfl⟩
  next rest opens =>
    obtain ⟨rfl, stands⟩ := readWord_eq_some h
    exact ⟨"false".toList, opens.trans stands, takes_word rfl fun _ _ => rfl⟩
  next =>
    split at h
    next n after read =>
      cases h
      obtain ⟨c, p, split, first, again⟩ := readNumber_eq_some read
      exact ⟨c :: p, split, takes_number first again⟩
    next => cases h

theorem splitsItems_succ (values : SplitsValues fuel) (items : SplitsItems fuel) :
    SplitsItems (fuel + 1) := by
  intro s vs after h
  rw [Json.readItems] at h
  split at h
  next => cases h
  next v u read =>
    obtain ⟨p, rfl, takes⟩ := values read
    obtain ⟨space, blank, split⟩ := exists_space u
    split at h
    next rest more =>
      cases read : Json.readItems fuel rest with
      | mk vs after =>
        rw [read] at h
        cases h
        obtain ⟨q, rfl, text⟩ := items read
        refine ⟨(p ++ space) ++ ',' :: q, ?_, .cons (takes.append_space blank) text⟩
        rw [split, more]
        simp
    next rest closes =>
      cases h
      refine ⟨p ++ space, ?_, .one (takes.append_space blank)⟩
      rw [split, closes]
      simp
    next => cases h

theorem splitsMembers_succ (values : SplitsValues fuel) (members : SplitsMembers fuel) :
    SplitsMembers (fuel + 1) := by
  intro s ms after h
  obtain ⟨space, blank, front⟩ := exists_space s
  rw [Json.readMembers] at h
  split at h
  next rest opens =>
    split at h
    next key u readKey =>
      obtain ⟨q, rfl, -, again⟩ := readText_eq_some readKey
      obtain ⟨between, blank', split⟩ := exists_space u
      have named : KeyText key (space ++ '"' :: (q ++ between)) := by
        refine ⟨⟨q ++ between, ?_⟩, ?_⟩
        · rw [skipSpace_append blank, skipSpace_cons (by decide)]
        · have name := ((takes_text again).append_space blank').space_append blank
          rwa [List.cons_append] at name
      split at h
      next rest colon =>
        split at h
        next => cases h
        next v u' read =>
          obtain ⟨p, rfl, takes⟩ := values read
          obtain ⟨behind, blank'', split'⟩ := exists_space u'
          have member : MemberText (member key v)
              (space ++ '"' :: (q ++ between) ++ ':' :: (p ++ behind)) :=
            ⟨_, _, _, _, rfl, named, takes.append_space blank'', rfl⟩
          split at h
          next rest more =>
            cases read : Json.readMembers fuel rest with
            | mk ms after =>
              rw [read] at h
              cases h
              obtain ⟨q', rfl, text⟩ := members read
              refine ⟨_, ?_, .cons member text⟩
              rw [front, opens, split, colon, split', more]
              simp
          next rest closes =>
            cases h
            refine ⟨_, ?_, .one member⟩
            rw [front, opens, split, colon, split', closes]
            simp
          next => cases h
      next => cases h
    next => cases h
  next => cases h

/-- Whatever is read is a text of its own. -/
theorem splits (fuel : Nat) : SplitsValues fuel ∧ SplitsItems fuel ∧ SplitsMembers fuel := by
  induction fuel with
  | zero => exact ⟨nofun, nofun, nofun⟩
  | succ fuel ih =>
    obtain ⟨values, items, members⟩ := ih
    exact ⟨splitsValues_succ items members, splitsItems_succ values items,
      splitsMembers_succ values members⟩

/-! ### Whole texts -/

/-- A text says a document iff it is one of its texts from the front to the end. -/
theorem parse_eq_iff {s : String} : parse s = (v, true) ↔ Takes v s.toList := by
  rw [parse]
  constructor
  · intro h
    split at h
    next v rest read =>
      rw [Prod.mk.injEq, decide_eq_true_iff] at h
      obtain ⟨rfl, blank⟩ := h
      obtain ⟨p, split, takes⟩ := (splits _).1 read
      rw [split]
      exact takes.append_space (skipSpace_eq_nil_iff.1 blank)
    next => cases h
  · intro takes
    obtain ⟨u, read, rest⟩ := takes [] (2 * s.toList.length + 2) (by rintro _ ⟨⟩) (by omega)
    rw [List.append_nil] at read
    rw [read]
    exact Prod.ext rfl (decide_eq_true rest)

/-- There is a comma between any two items. -/
theorem ItemsText.length_le {vs : List Json} {p : List Char} (h : ItemsText vs p) :
    vs.length ≤ p.length + 1 := by
  induction h with
  | one => simp
  | cons _ _ ih =>
    rw [List.length_cons, List.length_append, List.length_cons]
    omega

/-- An array that is read has no more items than its text has characters. -/
theorem length_le_of_readValue {k : Nat} {vs : List Json}
    (h : readValue (k + 1) s = (array vs, some after)) : vs.length ≤ s.length := by
  have skipped : (skipSpace s).length ≤ s.length := (List.dropWhile_suffix _).length_le
  rw [readValue] at h
  split at h
  next => split at h <;> cases h
  next rest opens =>
    rw [opens, List.length_cons] at skipped
    split at h
    next =>
      cases h
      exact Nat.zero_le _
    next =>
      rw [readItems_skipSpace] at h
      cases read : Json.readItems k rest with
      | mk vs after =>
        rw [read] at h
        cases h
        obtain ⟨p, rfl, items⟩ := (splits k).2.1 read
        have few := items.length_le
        rw [List.length_append, List.length_cons] at skipped
        omega
  next =>
    split at h
    next read =>
      cases h
      rcases eq_text_of_readText read with ⟨n, eq⟩ | eq
      all_goals cases eq
    next => cases h
  next => cases (readWord_eq_some h).1
  next => cases (readWord_eq_some h).1
  next => cases (readWord_eq_some h).1
  next =>
    split at h
    next number _ _ =>
      have same : number.toJson = array vs := congrArg Prod.fst h
      rcases number.toJson_eq with ⟨i, eq⟩ | ⟨x, eq⟩ | eq
      all_goals cases eq.symm.trans same
    next => cases h

theorem length_le_of_parse {vs : List Json} {s : String} (h : parse s = (array vs, true)) :
    vs.length ≤ s.length := by
  rw [parse] at h
  split at h
  next v rest read =>
    obtain rfl : v = array vs := congrArg Prod.fst h
    rw [← String.length_toList]
    exact length_le_of_readValue read
  next => cases h

/-- A text of a member: a text of its key, in quotation marks, a colon, and a text of its document. -/
def MemberLaidOut (m : String × Json) (p : List Char) : Prop :=
  ∃ key name v value, p = name ++ ':' :: value ∧
    ((∃ q, skipSpace name = '"' :: q) ∧ parse (String.ofList name) = (key, true)) ∧
    parse (String.ofList value) = (v, true) ∧ m = member key v

/-- A text of an object: texts of its members with commas between them, in braces. -/
def LaidOut (ms : List (String × Json)) (s : String) : Prop :=
  ∃ before inside ps after, before.all isSpace = true ∧ inside.all isSpace = true ∧
    after.all isSpace = true ∧ List.Forall₂ MemberLaidOut ms ps ∧
    s.toList = before ++ '{' :: (inside ++ [','].intercalate ps ++ '}' :: after)

theorem memberLaidOut_iff {m : String × Json} : MemberLaidOut m p ↔ MemberText m p := by
  simp only [MemberLaidOut, MemberText, KeyText, parse_eq_iff, String.toList_ofList]

/-- Members are laid out with commas between their texts. -/
theorem MembersText.exists_texts {ms : List (String × Json)} (h : MembersText ms p) :
    ms ≠ [] ∧ ∃ ps, List.Forall₂ MemberLaidOut ms ps ∧ p = [','].intercalate ps := by
  induction h with
  | @one m p member => exact ⟨by simp, [p], .cons (memberLaidOut_iff.2 member) .nil, by simp⟩
  | @cons m ms p q member members ih =>
    obtain ⟨nonempty, ps, laid, rfl⟩ := ih
    have there : ps ≠ [] := by
      rintro rfl
      exact nonempty (List.forall₂_nil_right_iff.1 laid)
    refine ⟨by simp, p :: ps, .cons (memberLaidOut_iff.2 member) laid, ?_⟩
    rw [List.intercalate_cons_of_ne_nil there]
    simp

/-- Texts of members with commas between them are a text of the members. -/
theorem membersText_of_texts {ms : List (String × Json)} {ps : List (List Char)}
    (laid : List.Forall₂ MemberLaidOut ms ps) (nonempty : ms ≠ []) :
    MembersText ms ([','].intercalate ps) := by
  induction laid with
  | nil => exact absurd rfl nonempty
  | @cons m p ms ps member laid ih =>
    have member := memberLaidOut_iff.1 member
    cases laid with
    | nil => simpa using MembersText.one member
    | cons next laid =>
      have members := ih (by simp)
      rw [List.intercalate_cons_cons]
      simpa using MembersText.cons member members

/-- Space before the members belongs to the first of them. -/
theorem MembersText.space_append {ms : List (String × Json)} (h : MembersText ms p)
    (blank : space.all isSpace = true) : MembersText ms (space ++ p) := by
  have first {m : String × Json} {p : List Char} (member : MemberText m p) :
      MemberText m (space ++ p) := by
    obtain ⟨key, name, v, value, rfl, ⟨quote, named⟩, document, rfl⟩ := member
    exact ⟨key, space ++ name, v, value, by simp,
      ⟨by rwa [skipSpace_append blank], named.space_append blank⟩, document, rfl⟩
  cases h with
  | one member => exact .one (first member)
  | cons member members =>
    rw [← List.append_assoc]
    exact .cons (first member) members

/-- A text says an object iff it is laid out of texts of its members. -/
theorem parse_eq_object_iff {ms : List (String × Json)} {s : String} :
    parse s = (object ms, true) ↔ LaidOut ms s := by
  rw [parse_eq_iff]
  constructor
  · intro takes
    obtain ⟨u, read, rest⟩ := takes [] (2 * s.toList.length + 1) (by rintro _ ⟨⟩) (by omega)
    rw [List.append_nil] at read
    have after : u.all isSpace = true := skipSpace_eq_nil_iff.1 rest
    obtain ⟨before, blank, front⟩ := exists_space s.toList
    obtain ⟨inner, opens, ⟨rfl, closes⟩ | members⟩ := exists_brace_of_readValue read
    · obtain ⟨inside, blank', split⟩ := exists_space inner
      refine ⟨before, inside, [], u, blank, blank', after, .nil, ?_⟩
      rw [front, opens, split, closes]
      simp
    · rw [readMembers_skipSpace] at members
      obtain ⟨p, rfl, text⟩ := (splits _).2.2 members
      obtain ⟨-, ps, laid, rfl⟩ := text.exists_texts
      refine ⟨before, [], ps, u, blank, rfl, after, laid, ?_⟩
      rw [front, opens]
      simp
  · rintro ⟨before, inside, ps, after, blank, blank', blank'', laid, split⟩
    have object : Takes (object ms) ('{' :: (inside ++ [','].intercalate ps ++ ['}'])) := by
      by_cases empty : ms = []
      · subst empty
        rw [List.forall₂_nil_left_iff.1 laid]
        simpa using takes_object_nil blank'
      · exact takes_object ((membersText_of_texts laid empty).space_append blank')
    have whole := (object.append_space blank'').space_append blank
    rw [split]
    simpa using whole

end

end RecordSearch.Json
