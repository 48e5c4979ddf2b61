import Mathlib.Data.List.Infix
import RecordSearch.Text.Casing

/-! Lower case of a text and of its parts.

    Every character has its lower case on its own, but for the capital sigma: it becomes the final
    sigma at the end of a word, and so looks past the ends of a part. A part is steady in its place
    if each of its sigmas finds there what it finds in the part alone.

        ΟΔΟΣ       οδος
        ΟΔΟΣΑ      οδοσα      the word goes on behind ΟΔΟΣ
        Σ          σ
        ΑΣ         ας         the word began before Σ -/

namespace RecordSearch.Text

open Casing

/-! ### Looking around -/

theorem meetsLetter_append (s t : List Char) :
    meetsLetter (s ++ t) = if s.all caseIgnorable.contains then meetsLetter t else meetsLetter s := by
  induction s with
  | nil => rfl
  | cons c s ih =>
    by_cases hc : caseIgnorable.contains c = true
    · simpa [meetsLetter, hc] using ih
    · simp [meetsLetter, hc]

theorem meetsLetter_of_all {s : List Char} (h : s.all caseIgnorable.contains = true) :
    meetsLetter s = false := by
  have skipped := meetsLetter_append s []
  rwa [List.append_nil, if_pos h] at skipped

/-- Whether a capital sigma between two texts becomes the final one; what is before it stands
    nearest character first. -/
def endsWord (before after : List Char) : Bool := meetsLetter before && !meetsLetter after

/-- Lower case of a part of a text, given what comes `before` it, nearest character first, and what
    comes `after`. -/
def lowerBetween (before after : List Char) : List Char → List Char
  | [] => []
  | c :: cs =>
    (if c = 'Σ' then [if endsWord before (cs ++ after) then 'ς' else 'σ'] else lowerChar c)
      ++ lowerBetween (c :: before) after cs

theorem lowerFrom_append (before s after : List Char) :
    lowerFrom before (s ++ after) =
      lowerBetween before after s ++ lowerFrom (s.reverse ++ before) after := by
  induction s generalizing before with
  | nil => rfl
  | cons c s ih => simp [lowerFrom, lowerBetween, endsWord, ih]

theorem lowerFrom_eq (before s : List Char) : lowerFrom before s = lowerBetween before [] s := by
  have whole := lowerFrom_append before s []
  rwa [List.append_nil, lowerFrom, List.append_nil] at whole

/-- The lower case of a text is made of the lower case of its parts in their places. -/
theorem lower_append_append (p v s : List Char) :
    lower (p ++ v ++ s) =
      lowerBetween [] (v ++ s) p ++ lowerBetween p.reverse s v ++
        lowerBetween (v.reverse ++ p.reverse) [] s := by
  rw [lower, List.append_assoc, lowerFrom_append, lowerFrom_append, lowerFrom_eq, List.append_nil,
    List.append_assoc]

/-! ### A part in two places -/

/-- The first text is the second, or has fewer final sigmas and more others. -/
def FewerFinal (s t : List Char) : Prop :=
  s = t ∨ (s.count 'ς' < t.count 'ς' ∧ t.count 'σ' < s.count 'σ')

theorem FewerFinal.append {s s' t t' : List Char} (h : FewerFinal s t) (h' : FewerFinal s' t') :
    FewerFinal (s ++ s') (t ++ t') := by
  rcases h with rfl | ⟨final, other⟩
  · rcases h' with rfl | ⟨final, other⟩
    · exact .inl rfl
    · exact .inr (by simp only [List.count_append]; omega)
  · right
    simp only [List.count_append]
    rcases h' with rfl | ⟨final', other'⟩
    · omega
    · omega

section

variable {before before' after after' : List Char}

theorem length_lowerBetween (s : List Char) :
    (lowerBetween before after s).length = (lowerBetween before' after' s).length := by
  induction s generalizing before before' with
  | nil => rfl
  | cons c s ih =>
    by_cases sigma : c = 'Σ'
    · simpa [lowerBetween, sigma] using ih
    · simpa [lowerBetween, sigma] using ih

/-- A part has the same lower case in two places iff each of its sigmas has. -/
theorem lowerBetween_eq_iff {s : List Char} :
    lowerBetween before after s = lowerBetween before' after' s ↔
      ∀ x y, s = x ++ 'Σ' :: y →
        endsWord (x.reverse ++ before) (y ++ after) =
          endsWord (x.reverse ++ before') (y ++ after') := by
  induction s generalizing before before' with
  | nil => simp [lowerBetween]
  | cons c s ih =>
    have first : lowerBetween before after (c :: s) = lowerBetween before' after' (c :: s) ↔
        (c = 'Σ' → endsWord before (s ++ after) = endsWord before' (s ++ after')) ∧
          lowerBetween (c :: before) after s = lowerBetween (c :: before') after' s := by
      rw [lowerBetween, lowerBetween]
      by_cases sigma : c = 'Σ'
      · rw [if_pos sigma, if_pos sigma]
        cases endsWord before (s ++ after) <;> cases endsWord before' (s ++ after') <;>
          simp [sigma]
      · simp [sigma]
    rw [first, ih]
    constructor
    · rintro ⟨here, later⟩ x y split
      rcases List.cons_eq_append_iff.1 split with ⟨rfl, same⟩ | ⟨x, rfl, rfl⟩
      · cases same
        exact here rfl
      · simpa using later x y rfl
    · intro all
      refine ⟨?_, fun x y split => ?_⟩
      · rintro rfl
        exact all [] s rfl
      · simpa using all (c :: x) y (by rw [split]; rfl)

/-- Where more sigmas are final, the lower case is the same or shows it. -/
theorem fewerFinal_lowerBetween {s : List Char}
    (more : ∀ x y, s = x ++ 'Σ' :: y → endsWord (x.reverse ++ before) (y ++ after) = true →
      endsWord (x.reverse ++ before') (y ++ after') = true) :
    FewerFinal (lowerBetween before after s) (lowerBetween before' after' s) := by
  induction s generalizing before before' with
  | nil => exact .inl rfl
  | cons c s ih =>
    rw [lowerBetween, lowerBetween]
    refine FewerFinal.append ?_ (ih fun x y split => ?_)
    · by_cases sigma : c = 'Σ'
      · subst sigma
        have here : endsWord before (s ++ after) = true → endsWord before' (s ++ after') = true :=
          more [] s rfl
        rw [if_pos rfl, if_pos rfl]
        cases now : endsWord before (s ++ after) with
        | true =>
          rw [here now]
          exact .inl rfl
        | false =>
          cases endsWord before' (s ++ after') with
          | false => exact .inl rfl
          | true => exact .inr (by decide)
      · rw [if_neg sigma, if_neg sigma]
        exact .inl rfl
    · simpa using more (c :: x) y (by rw [split]; rfl)

end

/-! ### Steady parts -/

/-- The text ends with a capital sigma that ends a word, marks apart: a letter behind the text would
    change it. -/
def closesWithSigma (v : List Char) : Bool :=
  match v.reverse.dropWhile caseIgnorable.contains with
  | 'Σ' :: before => meetsLetter before
  | _ => false

/-- The text begins with a capital sigma that no letter follows, marks apart: a letter before the
    text would change it. -/
def opensWithSigma (v after : List Char) : Bool :=
  match v.dropWhile caseIgnorable.contains with
  | 'Σ' :: rest => !meetsLetter (rest ++ after)
  | _ => false

/-- Between these texts, each capital sigma of `v` becomes what it becomes in `v` alone: no word
    goes on behind a sigma that ends it, and none begins before a sigma that nothing else begins. -/
def Steady (before v after : List Char) : Prop :=
  ¬(closesWithSigma v = true ∧ meetsLetter after = true) ∧
    ¬(opensWithSigma v after = true ∧ meetsLetter before.reverse = true)

instance (before v after : List Char) : Decidable (Steady before v after) :=
  inferInstanceAs (Decidable (_ ∧ _))

theorem dropWhile_eq_cons_iff {p : Char → Bool} {c : Char} (hc : p c = false) {s t : List Char} :
    s.dropWhile p = c :: t ↔ ∃ x, s = x ++ c :: t ∧ x.all p = true := by
  constructor
  · intro h
    exact ⟨s.takeWhile p, by rw [← h, List.takeWhile_append_dropWhile], List.all_takeWhile⟩
  · rintro ⟨x, rfl, all⟩
    rw [List.dropWhile_append_of_pos (List.all_eq_true.1 all),
      List.dropWhile_cons_of_neg (Bool.eq_false_iff.1 hc)]

theorem caseIgnorable_sigma : caseIgnorable.contains 'Σ' = false := rfl

theorem closesWithSigma_iff {v : List Char} :
    closesWithSigma v = true ↔ ∃ x y, v = x ++ 'Σ' :: y ∧ y.all caseIgnorable.contains = true ∧
      meetsLetter x.reverse = true := by
  rw [closesWithSigma]
  constructor
  · intro h
    split at h
    next before found =>
      obtain ⟨y, split, all⟩ := (dropWhile_eq_cons_iff caseIgnorable_sigma).1 found
      refine ⟨before.reverse, y.reverse, ?_, by rwa [List.all_reverse],
        by rwa [List.reverse_reverse]⟩
      rw [← List.reverse_reverse v, split]
      simp
    next => cases h
  · rintro ⟨x, y, rfl, all, before⟩
    have found : (x ++ 'Σ' :: y).reverse.dropWhile caseIgnorable.contains = 'Σ' :: x.reverse :=
      (dropWhile_eq_cons_iff caseIgnorable_sigma).2
        ⟨y.reverse, by simp, by rwa [List.all_reverse]⟩
    rw [found]
    exact before

theorem opensWithSigma_iff {v after : List Char} :
    opensWithSigma v after = true ↔ ∃ x y, v = x ++ 'Σ' :: y ∧ x.all caseIgnorable.contains = true ∧
      meetsLetter (y ++ after) = false := by
  rw [opensWithSigma]
  constructor
  · intro h
    split at h
    next rest found =>
      obtain ⟨x, split, all⟩ := (dropWhile_eq_cons_iff caseIgnorable_sigma).1 found
      exact ⟨x, rest, split, all, by simpa using h⟩
    next => cases h
  · rintro ⟨x, y, split, all, rest⟩
    rw [(dropWhile_eq_cons_iff caseIgnorable_sigma).2 ⟨x, split, all⟩]
    simp [rest]

/-- A part is steady iff each of its sigmas ends a word in its place as it does in the part alone. -/
theorem steady_iff {p v s : List Char} :
    Steady p v s ↔ ∀ x y, v = x ++ 'Σ' :: y →
      endsWord (x.reverse ++ p.reverse) (y ++ s) = endsWord (x.reverse ++ []) (y ++ []) := by
  simp only [List.append_nil, endsWord]
  constructor
  · rintro ⟨closed, opened⟩ x y split
    by_cases hx : x.all caseIgnorable.contains = true
    · have alone : meetsLetter x.reverse = false := meetsLetter_of_all (by rwa [List.all_reverse])
      have here : meetsLetter (x.reverse ++ p.reverse) = meetsLetter p.reverse := by
        rw [meetsLetter_append, if_pos (by rwa [List.all_reverse])]
      rw [alone, here, Bool.false_and, Bool.and_eq_false_iff, Bool.not_eq_false']
      by_contra both
      rw [not_or, Bool.not_eq_false, Bool.not_eq_true] at both
      exact opened ⟨opensWithSigma_iff.2 ⟨x, y, split, hx, both.2⟩, both.1⟩
    · have here : meetsLetter (x.reverse ++ p.reverse) = meetsLetter x.reverse := by
        rw [meetsLetter_append, if_neg (by rwa [List.all_reverse])]
      rw [here]
      by_cases hy : y.all caseIgnorable.contains = true
      · have alone : meetsLetter y = false := meetsLetter_of_all hy
        have there : meetsLetter (y ++ s) = meetsLetter s := by rw [meetsLetter_append, if_pos hy]
        rw [alone, there]
        cases before : meetsLetter x.reverse with
        | false => rfl
        | true =>
          have still : meetsLetter s = false := Bool.eq_false_iff.2 fun goesOn =>
            closed ⟨closesWithSigma_iff.2 ⟨x, y, split, hy, before⟩, goesOn⟩
          rw [still]
      · rw [meetsLetter_append y, if_neg hy]
  · intro same
    constructor
    · rintro ⟨closes, goesOn⟩
      obtain ⟨x, y, split, hy, before⟩ := closesWithSigma_iff.1 closes
      have h := same x y split
      rw [meetsLetter_append y, if_pos hy, goesOn, before, meetsLetter_of_all hy] at h
      simp at h
    · rintro ⟨opens, began⟩
      obtain ⟨x, y, split, hx, after⟩ := opensWithSigma_iff.1 opens
      have hx : x.reverse.all caseIgnorable.contains = true := by rwa [List.all_reverse]
      have h := same x y split
      rw [meetsLetter_append x.reverse, if_pos hx, began, after, meetsLetter_of_all hx] at h
      simp at h

/-- A text without a capital sigma is steady everywhere. -/
theorem steady_of_not_mem {v : List Char} (h : 'Σ' ∉ v) (p s : List Char) : Steady p v s := by
  refine steady_iff.2 fun x y split => ?_
  rw [split] at h
  simp at h

/-- A part has its own lower case in its place iff it is steady there. -/
theorem lowerBetween_eq_lower_iff {p v s : List Char} :
    lowerBetween p.reverse s v = lower v ↔ Steady p v s := by
  rw [lower, lowerFrom_eq, lowerBetween_eq_iff, steady_iff]

/-! ### Finding a part -/

variable {p v s : List Char}

theorem lower_infix (h : Steady p v s) : lower v <:+: lower (p ++ v ++ s) := by
  rw [lower_append_append, lowerBetween_eq_lower_iff.2 h]
  exact List.infix_append ..

/-- The front of a text is found iff it is steady there. -/
theorem lower_prefix_iff : lower v <+: lower (v ++ s) ↔ Steady [] v s := by
  have parts : lower (v ++ s) = lowerBetween [] s v ++ lowerFrom (v.reverse ++ []) s :=
    lowerFrom_append [] v s
  have length : (lower v).length = (lowerBetween [] s v).length := by
    rw [lower, lowerFrom_eq]
    exact length_lowerBetween v
  rw [← lowerBetween_eq_lower_iff, parts]
  constructor
  · rintro ⟨rest, same⟩
    exact (List.append_inj same length).1.symm
  · intro same
    rw [← same]
    exact List.prefix_append ..

/-- The end of a text is found iff it is steady there. -/
theorem lower_suffix_iff : lower v <:+ lower (p ++ v) ↔ Steady p v [] := by
  have parts : lower (p ++ v) = lowerBetween [] v p ++ lowerBetween p.reverse [] v := by
    rw [lower, lowerFrom_append, lowerFrom_eq, List.append_nil]
  have length : (lower v).length = (lowerBetween p.reverse [] v).length := by
    rw [lower, lowerFrom_eq]
    exact length_lowerBetween v
  rw [← lowerBetween_eq_lower_iff, parts]
  constructor
  · rintro ⟨rest, same⟩
    exact (List.append_inj' same length).2.symm
  · intro same
    rw [← same]
    exact List.suffix_append ..

theorem meetsLetter_of_append {s t : List Char} (h : meetsLetter s = true) :
    meetsLetter (s ++ t) = true := by
  rw [meetsLetter_append, if_neg, h]
  intro all
  rw [meetsLetter_of_all all] at h
  cases h

/-- A text that a letter behind it changes is missed in front of that letter. -/
theorem closesWithSigma_of_infix (found : lower v <:+: lower (v ++ ['a'])) :
    closesWithSigma v = false := by
  refine Bool.eq_false_iff.2 fun closes => ?_
  have differs : lowerBetween [] ['a'] v ≠ lower v := fun same =>
    (lowerBetween_eq_lower_iff (p := []).1 same).1 ⟨closes, rfl⟩
  have fewer : FewerFinal (lowerBetween [] ['a'] v) (lower v) := by
    rw [lower, lowerFrom_eq]
    refine fewerFinal_lowerBetween fun x y _ here => ?_
    rw [endsWord, Bool.and_eq_true, Bool.not_eq_true'] at here ⊢
    refine ⟨here.1, ?_⟩
    rw [List.append_nil]
    exact Bool.eq_false_iff.2 fun letter => by simp [meetsLetter_of_append letter] at here
  have parts : lower (v ++ ['a']) = lowerBetween [] ['a'] v ++ ['a'] := lowerFrom_append [] v ['a']
  have count := found.sublist.count_le 'ς'
  rw [parts, List.count_append, show ['a'].count 'ς' = 0 from rfl] at count
  rcases fewer with same | ⟨final, -⟩
  · exact differs same
  · omega

/-- A text that a letter before it changes is missed behind that letter. -/
theorem opensWithSigma_of_infix (found : lower v <:+: lower ('a' :: v)) (s : List Char) :
    opensWithSigma v s = false := by
  refine Bool.eq_false_iff.2 fun opens => ?_
  have alone : opensWithSigma v [] = true := by
    obtain ⟨x, y, split, all, after⟩ := opensWithSigma_iff.1 opens
    refine opensWithSigma_iff.2 ⟨x, y, split, all, ?_⟩
    rw [List.append_nil]
    exact Bool.eq_false_iff.2 fun letter => by simp [meetsLetter_of_append letter] at after
  have differs : lowerBetween ['a'] [] v ≠ lower v := fun same =>
    (lowerBetween_eq_lower_iff (p := ['a']).1 same).2 ⟨alone, rfl⟩
  have fewer : FewerFinal (lower v) (lowerBetween ['a'] [] v) := by
    rw [lower, lowerFrom_eq]
    refine fewerFinal_lowerBetween fun x y _ here => ?_
    rw [endsWord, Bool.and_eq_true, List.append_nil] at here
    rw [endsWord, Bool.and_eq_true]
    exact ⟨meetsLetter_of_append here.1, here.2⟩
  have parts : lower ('a' :: v) = 'a' :: lowerBetween ['a'] [] v := by
    rw [← lowerFrom_eq]
    rfl
  have count := found.sublist.count_le 'σ'
  rw [parts, List.count_cons_of_ne (by decide)] at count
  rcases fewer with same | ⟨-, other⟩
  · exact differs same.symm
  · omega

/-- A text is found in every text that it is part of iff it is steady everywhere. -/
theorem lower_infix_iff :
    (∀ p s, lower v <:+: lower (p ++ v ++ s)) ↔ ∀ p s, Steady p v s := by
  refine ⟨fun found p s => ⟨fun h => ?_, fun h => ?_⟩, fun steady p s => lower_infix (steady p s)⟩
  · have closed := closesWithSigma_of_infix (by simpa using found [] ['a'])
    rw [closed] at h
    exact Bool.false_ne_true h.1
  · have opened := opensWithSigma_of_infix (by simpa using found ['a'] []) s
    rw [opened] at h
    exact Bool.false_ne_true h.1

end RecordSearch.Text
