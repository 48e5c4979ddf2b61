import RecordSearch.Json.Reader
import RecordSearch.Proofs.Timestamps

/-! The smallest pieces of JSON texts.

    Texts, numbers and words are read off the front. What is read does not depend on what follows,
    except that a number goes on as far as it can, and that half a surrogate pair looks for the
    other half.

        read      depends on
        null      nothing
        "an"      nothing
        12        whether a digit, a point or an exponent follows
        \ud83d    whether the number of a second half follows -/

namespace RecordSearch.Json

open Text

variable {s t rest after : List Char}

/-! ### Spaces -/

theorem exists_space (s : List Char) :
    ∃ space, space.all isSpace = true ∧ s = space ++ skipSpace s :=
  ⟨s.takeWhile isSpace, List.all_takeWhile, List.takeWhile_append_dropWhile.symm⟩

theorem skipSpace_append {space : List Char} (h : space.all isSpace = true) (s : List Char) :
    skipSpace (space ++ s) = skipSpace s :=
  List.dropWhile_append_of_pos (List.all_eq_true.1 h)

theorem skipSpace_skipSpace (s : List Char) : skipSpace (skipSpace s) = skipSpace s :=
  let ⟨space, blank, split⟩ := exists_space s
  calc skipSpace (skipSpace s)
    _ = skipSpace (space ++ skipSpace s) := (skipSpace_append blank _).symm
    _ = skipSpace s := by rw [← split]

theorem skipSpace_cons {c : Char} (h : isSpace c = false) (s : List Char) :
    skipSpace (c :: s) = c :: s :=
  List.dropWhile_cons_of_neg (Bool.eq_false_iff.1 h)

/-! ### Texts -/

/-- Four digits are taken off the front, whatever follows. -/
theorem hexFour_eq_some {n : Nat} (h : hexFour s = some (n, rest)) :
    ∃ a b c d, s = a :: b :: c :: d :: rest ∧
      ∀ t, hexFour (a :: b :: c :: d :: t) = some (n, t) := by
  unfold hexFour at h
  split at h
  next a b c d s =>
    dsimp only at h
    split at h
    next ha hb hc hd =>
      cases h
      exact ⟨a, b, c, d, rfl, fun t => by simp only [hexFour, ha, hb, hc, hd]⟩
    next => cases h
  next => cases h

/-- What stands behind the first half of a surrogate pair: nothing like a second half, or the number
    of one if its digits are right. -/
def secondHalf : List Char → Option (Option Nat)
  | '\\' :: 'u' :: s => some ((hexFour s).map Prod.fst)
  | _ => none

theorem secondHalf_cons_of_ne {c : Char} (h : c ≠ '\\') (s : List Char) :
    secondHalf (c :: s) = none := by
  rw [secondHalf]
  rintro s ⟨rfl, -⟩
  exact h rfl

theorem secondHalf_cons_cons_of_ne {c : Char} (h : c ≠ 'u') (s : List Char) :
    secondHalf ('\\' :: c :: s) = none := by
  rw [secondHalf]
  rintro s ⟨-, rfl, -⟩
  exact h rfl

/-- A second half is seen in the six characters at the front. -/
theorem secondHalf_eq_some {m : Nat} (h : secondHalf s = some (some m)) :
    ∃ p, s = p ++ s.drop 6 ∧ p.length = 6 ∧ ∀ t, secondHalf (p ++ t) = some (some m) := by
  unfold secondHalf at h
  split at h
  next s =>
    obtain ⟨⟨n, rest⟩, read, rfl⟩ := Option.map_eq_some_iff.1 (Option.some.inj h)
    obtain ⟨a, b, c, d, rfl, digits⟩ := hexFour_eq_some read
    exact ⟨['\\', 'u', a, b, c, d], rfl, rfl, fun t => by simp [secondHalf, digits]⟩
  next => cases h

/-- Any other number than a first half is read on its own. -/
theorem readEscape_whole {a b c d : Char} {n : Nat}
    (digits : ∀ t, hexFour (a :: b :: c :: d :: t) = some (n, t))
    (other : ¬(0xD800 ≤ n ∧ n < 0xDC00)) (t : List Char) :
    readEscape ('u' :: a :: b :: c :: d :: t) =
      some (if n < 0xD800 ∨ 0xE000 ≤ n then some (Char.ofNat n) else none, t) := by
  simp only [readEscape, digits]
  by_cases whole : n < 0xD800 ∨ 0xE000 ≤ n
  · rw [if_pos whole, if_pos whole]
  · have second : 0xDC00 ≤ n := by omega
    rw [if_neg whole, if_neg whole, if_pos second]

/-- The number of a first half is read together with a second half, if there is one. -/
theorem readEscape_firstHalf {a b c d : Char} {n : Nat}
    (digits : ∀ t, hexFour (a :: b :: c :: d :: t) = some (n, t)) (first : 0xD800 ≤ n ∧ n < 0xDC00)
    (t : List Char) :
    readEscape ('u' :: a :: b :: c :: d :: t) =
      match secondHalf t with
      | none => some (none, t)
      | some none => none
      | some (some m) =>
        if 0xDC00 ≤ m ∧ m < 0xE000 then
          some (some (Char.ofNat (0x10000 + (n - 0xD800) * 0x400 + (m - 0xDC00))), t.drop 6)
        else some (none, t) := by
  have pair : ¬(n < 0xD800 ∨ 0xE000 ≤ n) := by omega
  have half : ¬0xDC00 ≤ n := by omega
  simp only [readEscape, digits, pair, half, if_false]
  split
  next more =>
    rw [secondHalf]
    cases hm : hexFour more with
    | none => rfl
    | some r =>
      obtain ⟨m, after⟩ := r
      obtain ⟨a, b, c, d, rfl, -⟩ := hexFour_eq_some hm
      rfl
  next other =>
    rw [secondHalf]
    exact other

/-- The number of a first half is taken off the front, with the second half if there is one. All
    that matters of what follows is whether it is a second half. -/
theorem readEscape_firstHalf_eq_some {a b c d : Char} {n : Nat} {more : List Char} {x : Option Char}
    (digits : ∀ t, hexFour (a :: b :: c :: d :: t) = some (n, t)) (first : 0xD800 ≤ n ∧ n < 0xDC00)
    (h : readEscape ('u' :: a :: b :: c :: d :: more) = some (x, rest)) :
    ∃ p, more = p ++ rest ∧ ∀ t, secondHalf t = secondHalf rest →
      readEscape ('u' :: a :: b :: c :: d :: (p ++ t)) = some (x, t) := by
  rw [readEscape_firstHalf digits first] at h
  split at h
  next nothing =>
    cases h
    refine ⟨[], rfl, fun t same => ?_⟩
    rw [nothing] at same
    simp only [List.nil_append, readEscape_firstHalf digits first, same]
  next => cases h
  next m second =>
    split at h
    next low =>
      cases h
      obtain ⟨p, split, length, again⟩ := secondHalf_eq_some second
      refine ⟨p, split, fun t _ => ?_⟩
      have dropped : (p ++ t).drop 6 = t := List.drop_left' length
      simp only [readEscape_firstHalf digits first, again, dropped]
      rw [if_pos low]
    next high =>
      cases h
      refine ⟨[], rfl, fun t same => ?_⟩
      rw [second] at same
      simp only [List.nil_append, readEscape_firstHalf digits first, same, high, if_false]

/-- An escape is taken off the front, whatever follows: all that matters of that is the second half
    of a surrogate pair. -/
theorem readEscape_eq_some {x : Option Char} (h : readEscape s = some (x, rest)) :
    ∃ p, s = p ++ rest ∧ (∀ t, secondHalf ('\\' :: (p ++ t)) = secondHalf ('\\' :: s)) ∧
      ∀ t, secondHalf t = secondHalf rest → readEscape (p ++ t) = some (x, t) := by
  rcases s with _ | ⟨c, s⟩
  · cases h
  by_cases unicode : c = 'u'
  · subst unicode
    cases hn : hexFour s with
    | none => simp [readEscape, hn] at h
    | some r =>
      obtain ⟨n, more⟩ := r
      obtain ⟨a, b, c, d, rfl, digits⟩ := hexFour_eq_some hn
      have ahead (t : List Char) : secondHalf ('\\' :: 'u' :: a :: b :: c :: d :: t) =
          secondHalf ('\\' :: 'u' :: a :: b :: c :: d :: more) := by
        simp only [secondHalf, digits, Option.map_some]
      by_cases first : 0xD800 ≤ n ∧ n < 0xDC00
      · obtain ⟨p, rfl, again⟩ := readEscape_firstHalf_eq_some digits first h
        exact ⟨'u' :: a :: b :: c :: d :: p, rfl, fun t => ahead (p ++ t), again⟩
      · rw [readEscape_whole digits first] at h
        cases h
        exact ⟨['u', a, b, c, d], rfl, ahead, fun t _ => readEscape_whole digits first t⟩
  · have plain (t : List Char) :
        readEscape (c :: t) = (plainEscape c).map fun d => (some d, t) := by
      rw [readEscape]
      exact unicode
    rw [plain, Option.map_eq_some_iff] at h
    obtain ⟨d, stands, h⟩ := h
    cases h
    refine ⟨[c], rfl, fun t => ?_, fun t _ => ?_⟩
    · rw [List.singleton_append, secondHalf_cons_cons_of_ne unicode,
        secondHalf_cons_cons_of_ne unicode]
    · rw [List.singleton_append, plain, stands]
      rfl

theorem readText_escape (fuel : Nat) (whole : Bool) (done s : List Char) :
    readText (fuel + 1) whole done ('\\' :: s) =
      (readEscape s).bind fun r =>
        readText fuel (whole && r.1.isSome) (r.1.toList ++ done) r.2 := by
  rw [readText, if_neg (by decide), if_pos rfl]
  rcases readEscape s with _ | ⟨_ | d, rest⟩
  · rfl
  · simp
  · simp

/-- The rest of a text up to its closing mark is taken off the front, whatever follows. -/
theorem readText_eq_some {fuel : Nat} {whole : Bool} {done : List Char} {v : Json}
    (h : readText fuel whole done s = some (v, after)) :
    ∃ p, s = p ++ after ∧ (∀ t, secondHalf (p ++ t) = secondHalf s) ∧
      ∀ t k, p.length ≤ k → readText k whole done (p ++ t) = some (v, t) := by
  induction fuel generalizing whole done s with
  | zero => cases h
  | succ fuel ih =>
    rcases s with _ | ⟨c, s⟩
    · cases h
    by_cases escape : c = '\\'
    · subst escape
      rw [readText_escape, Option.bind_eq_some_iff] at h
      obtain ⟨⟨x, s'⟩, read, h⟩ := h
      obtain ⟨e, rfl, ahead, again⟩ := readEscape_eq_some read
      obtain ⟨p, rfl, second, rest⟩ := ih h
      refine ⟨'\\' :: (e ++ p), by simp, fun t => ?_, fun t k enough => ?_⟩
      · rw [List.cons_append, List.append_assoc]
        exact ahead (p ++ t)
      · rw [List.length_cons, List.length_append] at enough
        obtain ⟨k, rfl⟩ : ∃ k', k = k' + 1 := ⟨k - 1, by omega⟩
        rw [List.cons_append, List.append_assoc, readText_escape, again (p ++ t) (second t)]
        exact rest t k (by omega)
    · have ahead (s t : List Char) : secondHalf (c :: s) = secondHalf (c :: t) := by
        rw [secondHalf_cons_of_ne escape, secondHalf_cons_of_ne escape]
      rw [readText] at h
      split at h
      next closing =>
        cases h
        refine ⟨[c], rfl, fun t => ahead .., fun t k enough => ?_⟩
        obtain ⟨k, rfl⟩ : ∃ k', k = k' + 1 := ⟨k - 1, by simp at enough; omega⟩
        rw [List.singleton_append, readText, if_pos closing]
      next inside =>
        split at h
        next => cases h
        next plain =>
          obtain ⟨p, rfl, -, rest⟩ := ih h
          refine ⟨c :: p, rfl, fun t => ahead .., fun t k enough => ?_⟩
          rw [List.length_cons] at enough
          obtain ⟨k, rfl⟩ : ∃ k', k = k' + 1 := ⟨k - 1, by omega⟩
          rw [List.cons_append, readText, if_neg inside, if_neg escape, if_neg plain]
          exact rest t k (by omega)

/-- Between quotation marks stands a text, or one with half a surrogate pair. -/
theorem eq_text_of_readText {fuel : Nat} {whole : Bool} {done : List Char} {v : Json}
    (h : readText fuel whole done s = some (v, after)) :
    (∃ n, v = text n) ∨ v = gap .unreadable := by
  induction fuel generalizing whole done s with
  | zero => cases h
  | succ fuel ih =>
    rcases s with _ | ⟨c, s⟩
    · cases h
    rw [readText] at h
    split at h
    next =>
      cases h
      cases whole with
      | true => exact .inl ⟨_, rfl⟩
      | false => exact .inr rfl
    next =>
      split at h
      next =>
        split at h
        next => cases h
        next => exact ih h
        next => exact ih h
      next =>
        split at h
        next => cases h
        next => exact ih h

/-! ### Numbers and words -/

/-- The text does not go on with a character that could belong to a number. -/
def Stops (t : List Char) : Prop := ∀ c ∈ t.head?, c.isDigit = false ∧ c ≠ '.' ∧ c ≠ 'e' ∧ c ≠ 'E'

/-- The digits at the front are taken off, unless more of them follow. -/
theorem exists_digits (s : List Char) :
    ∃ ds rest, leadingDigits s = (ds, rest) ∧ s = ds ++ rest ∧ (∀ c ∈ ds, c.isDigit = true) ∧
      ∀ t, (∀ c ∈ t.head?, c.isDigit = false) → leadingDigits (ds ++ t) = (ds, t) := by
  have digits := leadingDigits_isDigit s
  have cut := leadingDigits_append s
  generalize leadingDigits s = r at digits cut ⊢
  obtain ⟨ds, rest⟩ := r
  exact ⟨ds, rest, rfl, cut.symm, digits, fun t ends => leadingDigits_append_of_ends digits ends⟩

/-- A sign is taken off the front, if anything but a sign follows. -/
theorem exists_sign (s : List Char) :
    ∃ sign, s = sign ++ (splitSign s).2 ∧
      ∀ d t, d.isDigit = true → splitSign (sign ++ d :: t) = ((splitSign s).1, d :: t) := by
  unfold splitSign
  split
  next s => exact ⟨['-'], rfl, fun d t _ => rfl⟩
  next s => exact ⟨['+'], rfl, fun d t _ => rfl⟩
  next s =>
    refine ⟨[], rfl, fun d t digit => ?_⟩
    rw [List.nil_append]
    split
    next h => cases h; cases digit
    next h => cases h; cases digit
    next => rfl

/-- Where no exponent stands, none is read. -/
theorem readExponent_of_stops (stops : Stops t) : readExponent t = some (none, t) := by
  rcases t with _ | ⟨c, t⟩
  · rfl
  · obtain ⟨-, -, small, large⟩ := stops c rfl
    rw [readExponent, if_neg (by simp [small, large])]

/-- An exponent is taken off the front, if a number may end behind it. -/
theorem readExponent_eq_some {e : Option (Bool × List Char)}
    (h : readExponent s = some (e, rest)) :
    ∃ p, s = p ++ rest ∧ ∀ t, Stops t → readExponent (p ++ t) = some (e, t) ∧
      ∀ c ∈ (p ++ t).head?, c.isDigit = false ∧ c ≠ '.' := by
  have nothing : ∀ t, Stops t → readExponent ([] ++ t) = some (none, t) ∧
      ∀ c ∈ ([] ++ t).head?, c.isDigit = false ∧ c ≠ '.' := fun t stops =>
    ⟨readExponent_of_stops stops, fun c hc => ⟨(stops c hc).1, (stops c hc).2.1⟩⟩
  rcases s with _ | ⟨c, s⟩
  · cases h
    exact ⟨[], rfl, nothing⟩
  · rw [readExponent] at h
    split at h
    next letter =>
      obtain ⟨sign, split, signed⟩ := exists_sign s
      obtain ⟨ds, more, read, cut, digits, run⟩ := exists_digits (splitSign s).2
      simp only [read] at h
      split at h
      next => cases h
      next given =>
        cases h
        obtain ⟨d, ds, rfl⟩ := List.exists_cons_of_ne_nil given
        refine ⟨c :: (sign ++ d :: ds), by rw [split, cut]; simp, fun t stops => ⟨?_, ?_⟩⟩
        · have sign := signed d (ds ++ t) (digits d List.mem_cons_self)
          have run := run t fun c hc => (stops c hc).1
          rw [List.cons_append] at run
          simp only [List.cons_append, List.append_assoc, readExponent, if_pos letter, sign, run,
            reduceCtorEq, if_false]
        · rintro _ ⟨⟩
          rcases letter with rfl | rfl
          · decide
          · decide
    next other =>
      cases h
      exact ⟨[], rfl, nothing⟩

/-- Digits behind a point are taken off the front, if neither a point nor a digit follows. -/
theorem readPlaces_eq_some {places : Option (List Char)} (h : readPlaces s = some (places, rest)) :
    ∃ p, s = p ++ rest ∧ ∀ t, (∀ c ∈ t.head?, c.isDigit = false ∧ c ≠ '.') →
      readPlaces (p ++ t) = some (places, t) ∧ ∀ c ∈ (p ++ t).head?, c.isDigit = false := by
  unfold readPlaces at h
  split at h
  next s =>
    obtain ⟨ds, more, read, cut, digits, run⟩ := exists_digits s
    simp only [read] at h
    split at h
    next => cases h
    next given =>
      cases h
      refine ⟨'.' :: ds, by rw [cut]; rfl, fun t ends => ⟨?_, ?_⟩⟩
      · have run := run t fun c hc => (ends c hc).1
        simp only [List.cons_append, readPlaces, run, given, if_false]
      · rintro _ ⟨⟩
        rfl
  next other =>
    cases h
    refine ⟨[], rfl, fun t ends => ⟨?_, fun c hc => (ends c hc).1⟩⟩
    rw [List.nil_append, readPlaces]
    rintro s rfl
    exact (ends '.' rfl).2 rfl

/-- What is read behind the digits before the point. -/
def readFrom (negative : Bool) (whole s : List Char) : Option (NumberText × List Char) := do
  let (places, s) ← readPlaces s
  let (exponent, s) ← readExponent s
  some (⟨negative, whole, places, exponent⟩, s)

/-- A number behind its sign. -/
def readUnsigned (negative : Bool) (s : List Char) : Option (NumberText × List Char) :=
  let (whole, s) := leadingDigits s
  match whole with
  | [] => none
  | '0' :: _ :: _ => none
  | _ => readFrom negative whole s

theorem readNumber_minus (s : List Char) : readNumber ('-' :: s) = readUnsigned true s := rfl

theorem readNumber_of_ne {c : Char} (h : c ≠ '-') (s : List Char) :
    readNumber (c :: s) = readUnsigned false (c :: s) := by
  unfold readNumber
  split
  next negative s' same =>
    split at same
    next minus =>
      cases minus
      exact absurd rfl h
    next =>
      cases same
      rfl

/-- A number behind its sign is taken off the front, if it may end there. It begins with a digit. -/
theorem readUnsigned_eq_some {negative : Bool} {n : NumberText}
    (h : readUnsigned negative s = some (n, rest)) :
    ∃ d p, s = d :: (p ++ rest) ∧ d.isDigit = true ∧
      ∀ t, Stops t → readUnsigned negative (d :: (p ++ t)) = some (n, t) := by
  obtain ⟨ds, more, read, rfl, digits, run⟩ := exists_digits s
  -- the digits decide whether there is a number, and the rest is read as it was
  obtain ⟨given, found, same⟩ : ds ≠ [] ∧ readFrom negative ds more = some (n, rest) ∧
      ∀ t, (∀ c ∈ t.head?, c.isDigit = false) →
        readUnsigned negative (ds ++ t) = readFrom negative ds t := by
    simp only [readUnsigned, read] at h
    split at h
    next => cases h
    next => cases h
    next given alone =>
      refine ⟨given, h, fun t ends => ?_⟩
      simp only [readUnsigned, run t ends]
  simp only [readFrom, Option.bind_eq_bind, Option.bind_eq_some_iff] at found
  obtain ⟨⟨places, s⟩, hplaces, ⟨e, s'⟩, hexponent, found⟩ := found
  cases found
  obtain ⟨p, rfl, placesAgain⟩ := readPlaces_eq_some hplaces
  obtain ⟨q, rfl, exponentAgain⟩ := readExponent_eq_some hexponent
  obtain ⟨d, ds, rfl⟩ := List.exists_cons_of_ne_nil given
  refine ⟨d, ds ++ p ++ q, by simp, digits d List.mem_cons_self, fun t stops => ?_⟩
  obtain ⟨exponent, notPoint⟩ := exponentAgain t stops
  obtain ⟨places, notDigit⟩ := placesAgain _ notPoint
  have again := same _ notDigit
  rw [List.cons_append] at again
  simp only [List.append_assoc, again, readFrom, places, exponent, Option.bind_eq_bind,
    Option.bind_some]

/-- A number is taken off the front, if it may end there. It begins with a digit or a minus. -/
theorem readNumber_eq_some {n : NumberText} (h : readNumber s = some (n, rest)) :
    ∃ c p, s = c :: (p ++ rest) ∧ (c = '-' ∨ c.isDigit = true) ∧
      ∀ t, Stops t → readNumber (c :: (p ++ t)) = some (n, t) := by
  rcases s with _ | ⟨c, s⟩
  · cases h
  by_cases minus : c = '-'
  · subst minus
    rw [readNumber_minus] at h
    obtain ⟨d, p, rfl, -, again⟩ := readUnsigned_eq_some h
    refine ⟨'-', d :: p, rfl, .inl rfl, fun t stops => ?_⟩
    rw [readNumber_minus]
    exact again t stops
  · rw [readNumber_of_ne minus] at h
    obtain ⟨d, p, split, digit, again⟩ := readUnsigned_eq_some h
    cases split
    refine ⟨c, p, rfl, .inr digit, fun t stops => ?_⟩
    rw [readNumber_of_ne minus]
    exact again t stops

theorem readWord_append (word : String) (v : Json) (t : List Char) :
    readWord word v (word.toList ++ t) = (v, some t) := by
  rw [readWord, if_pos (List.isPrefixOf_iff_prefix.2 (List.prefix_append ..)),
    ← String.length_toList, List.drop_left]

/-- A word that is read stands at the front. -/
theorem readWord_eq_some {word : String} {v w : Json} (h : readWord word v s = (w, some rest)) :
    w = v ∧ s = word.toList ++ rest := by
  have read := h
  rw [readWord] at h
  split at h
  next stands =>
    obtain ⟨more, rfl⟩ := List.isPrefixOf_iff_prefix.1 stands
    rw [readWord_append] at read
    cases read
    exact ⟨rfl, rfl⟩
  next => cases h

end RecordSearch.Json
