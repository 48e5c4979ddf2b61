import RecordSearch.Proofs.DeclaredSort

/-! Names made from declared names.

    A rule makes the name of a field in one scan from left to right that remembers only whether a word
    starts. Underscores are left out and start a word, other characters are kept, and the first of a
    word becomes a capital if it is one of a to z. This is also how the keys of documents are made
    under a rule of the same name, so a record is searched under the names it is written with.

        declared        PascalCase      camelCase
        full_name       FullName        fullName
        __2fa__on_      2faOn           2faOn
        _é_é            éé              éé

    The names of shapes go the other way. Where a capital stands for the start of a word, undoing the
    underscores gives the name back, so no two such names are taken for one.

        HTTPServer -> h_t_t_p_server -> HTTPServer -/

namespace RecordSearch

open Text

/-! ### One scan -/

/-- Leaves underscores out and puts the first character of each word, `starts` told, in upper case. -/
def scanWords (starts : Bool) : List Char → List Char
  | [] => []
  | c :: cs =>
    if c = '_' then scanWords true cs
    else (if starts then c.toUpper else c) :: scanWords false cs

/-- The key that a rule makes of a declared name. -/
def NamingRule.key : NamingRule → String → String
  | plain, name => name
  | camel, name => String.ofList (lowerFirst (scanWords true name.toList))
  | pascal, name => String.ofList (scanWords true name.toList)

/-- Inside of a word the scan keeps the first piece as it is, at the start of one it puts it in upper
    case; the pieces behind it are words of their own. -/
theorem scanWords_eq {s p : List Char} {ps : List (List Char)} (h : pieces '_' s = p :: ps) :
    scanWords false s = p ++ (ps.map upperFirst).flatten ∧
      scanWords true s = upperFirst p ++ (ps.map upperFirst).flatten := by
  -- both states at once: an underscore leads from the first to the second, a character back
  induction s generalizing p ps with
  | nil =>
    obtain ⟨rfl, rfl⟩ : p = [] ∧ ps = [] := by simpa [pieces, eq_comm] using h
    simp [scanWords, upperFirst]
  | cons c s ih =>
    obtain ⟨q, qs, split⟩ := List.exists_cons_of_ne_nil (pieces_ne_nil '_' s)
    obtain ⟨inside, start⟩ := ih split
    by_cases word : c = '_'
    · obtain ⟨rfl, rfl⟩ : p = [] ∧ ps = q :: qs := by
        simpa [pieces, word, split, eq_comm] using h
      simp [scanWords, word, start, upperFirst]
    · obtain ⟨rfl, rfl⟩ : p = c :: q ∧ ps = qs := by
        simpa [pieces, word, split, eq_comm] using h
      simp [scanWords, word, inside, upperFirst]

/-- Joining words is one scan. -/
theorem pascalCase_eq_scanWords (s : List Char) : pascalCase s = scanWords true s := by
  obtain ⟨p, ps, split⟩ := List.exists_cons_of_ne_nil (pieces_ne_nil '_' s)
  rw [(scanWords_eq split).2, pascalCase, split, List.map_cons, List.flatten_cons]

theorem camelCase_eq_scanWords (s : List Char) : camelCase s = lowerFirst (scanWords true s) := by
  rw [camelCase, pascalCase_eq_scanWords]

theorem NamingRule.apply_eq_key (rule : NamingRule) (name : String) :
    rule.apply name = rule.key name := by
  cases rule with
  | plain => rfl
  | camel => rw [apply, key, camelCase_eq_scanWords]
  | pascal => rw [apply, key, pascalCase_eq_scanWords]

/-! ### There and back -/

theorem isUpper_iff {c : Char} : c.isUpper = true ↔ 65 ≤ c.toNat ∧ c.toNat ≤ 90 := by
  show decide (c.val ≥ 'A'.val ∧ c.val ≤ 'Z'.val) = true ↔ _
  rw [decide_eq_true_iff]
  rfl

theorem isLower_iff {c : Char} : c.isLower = true ↔ 97 ≤ c.toNat ∧ c.toNat ≤ 122 := by
  show (decide (c.val ≥ 'a'.val) && decide (c.val ≤ 'z'.val)) = true ↔ _
  rw [Bool.and_eq_true, decide_eq_true_iff, decide_eq_true_iff]
  rfl

/-- One of a to z becomes the letter 32 places before it. -/
theorem toNat_toUpper {c : Char} (low : 97 ≤ c.toNat) (high : c.toNat ≤ 122) :
    c.toUpper.toNat + 32 = c.toNat := by
  have raised : c.toUpper = _ := dif_pos ⟨low, high⟩
  have back : ('A'.val - 'a'.val).toNat = 2 ^ 32 - 32 := by decide
  rw [raised]
  show (c.val + ('A'.val - 'a'.val)).toNat + 32 = c.toNat
  rw [UInt32.toNat_add, back, Char.toNat_val]
  omega

/-- A character that is none of a to z is its own upper case. -/
theorem toUpper_eq_self {c : Char} (h : c.isLower = false) : c.toUpper = c :=
  dif_neg fun letter => Bool.false_ne_true (h.symm.trans (isLower_iff.2 letter))

/-- A capital is none of a to z. -/
theorem isLower_of_isCapital {c : Char} (capital : isCapital c = true) : c.isLower = false := by
  rw [Bool.eq_false_iff]
  intro lower
  have small := isLower_iff.1 lower
  have ascii : c.toNat < 128 := by omega
  rw [isCapital, if_pos ascii, isUpper_iff] at capital
  omega

/-- Putting a capital in lower case and back leads to the capital. Beyond A to Z neither step does
    anything. -/
theorem toUpper_toLower_of_isCapital {c : Char} (capital : isCapital c = true) :
    c.toLower.toUpper = c ∧ c.toLower ≠ '_' := by
  constructor
  · cases upper : c.isUpper with
    | true =>
      obtain ⟨low, high⟩ := isUpper_iff.1 upper
      have lowered := toNat_toLower low high
      have raised : c.toLower.toUpper.toNat + 32 = c.toLower.toNat :=
        toNat_toUpper (by omega) (by omega)
      exact Char.toNat_inj.1 (by omega)
    | false =>
      have same : c.toLower = c :=
        dif_neg fun letter => Bool.false_ne_true (upper.symm.trans (isUpper_iff.2 letter))
      rw [same, toUpper_eq_self (isLower_of_isCapital capital)]
  · rw [ne_eq, toLower_eq_iff (.inr (by decide))]
    rintro rfl
    exact absurd capital (by decide)

/-- What a name becomes behind its first character. -/
def separated (c : Char) : List Char := if isCapital c then ['_', c.toLower] else [c]

/-- Inside of a word the scan undoes the separation of words. -/
theorem scanWords_flatMap_separated {s : List Char} (joined : '_' ∉ s) :
    scanWords false (s.flatMap separated) = s := by
  induction s with
  | nil => rfl
  | cons c s ih =>
    obtain ⟨other, joined⟩ := not_or.1 (mt List.mem_cons.2 joined)
    cases capital : isCapital c with
    | true =>
      obtain ⟨back, letter⟩ := toUpper_toLower_of_isCapital capital
      simp [separated, capital, scanWords, letter, back, ih joined]
    | false => simp [separated, capital, scanWords, Ne.symm other, ih joined]

/-- A name that has no underscores and does not start with one of a to z. -/
structure WordsMarked (s : List Char) : Prop where
  joined : '_' ∉ s
  start : ∀ c ∈ s.head?, c.isLower = false

/-- Such a name comes back from its words. -/
theorem pascalCase_snakeCase {s : List Char} (h : WordsMarked s) : pascalCase (snakeCase s) = s := by
  obtain ⟨joined, start⟩ := h
  rw [pascalCase_eq_scanWords]
  cases s with
  | nil => rfl
  | cons c s =>
    obtain ⟨other, joined⟩ := not_or.1 (mt List.mem_cons.2 joined)
    have rest : scanWords false (s.flatMap separated) = s := scanWords_flatMap_separated joined
    have snake : snakeCase (c :: s) =
        (if isCapital c then c.toLower else c) :: s.flatMap separated := rfl
    rw [snake]
    -- the first character has no underscore in front, so it comes back for what it is
    cases capital : isCapital c with
    | true =>
      obtain ⟨back, letter⟩ := toUpper_toLower_of_isCapital capital
      simp [scanWords, letter, back, rest]
    | false =>
      have same : c.toUpper = c := toUpper_eq_self (start c rfl)
      simp [scanWords, Ne.symm other, same, rest]

/-- Different names have different words. -/
theorem snakeCase_ne {s t : List Char} (hs : WordsMarked s) (ht : WordsMarked t) (other : s ≠ t) :
    snakeCase s ≠ snakeCase t := by
  intro same
  apply other
  rw [← pascalCase_snakeCase hs, same, pascalCase_snakeCase ht]

/-! ### Names of fields and keys of documents -/

/-- The fields of an accepted declaration are known by the keys that its rule gives to the members, if
    no member has a name of its own. -/
theorem DeclaredShape.names_eq_keys {item : Item} {d : DeclaredShape} (accepted : ofItem item = .ok d)
    (none : ∀ m ∈ item.kept, m.renamed? = .none) {ρ : Type} (b : Backing ρ) :
    (d.shapeOn b).schema.fields.map Field.name =
      item.kept.map fun m => item.rule.key (plainName m.name) := by
  rw [(keeps_of_ofItem accepted b).names, Item.searchNames]
  refine List.map_congr_left fun m kept => ?_
  rw [Item.searchName, none m kept, Option.getD_none, NamingRule.apply_eq_key]

/-- A rule makes names in one scan, so the fields of a declaration are searched under the keys that
    their documents have. The name of a record whose capitals mark its words comes back from the name
    of its shape before that is put into the plural, so different records have different ones. -/
theorem names_made_by_scan :
    (∀ (rule : NamingRule) (name : String), rule.apply name = rule.key name) ∧
    (∀ item d, DeclaredShape.ofItem item = .ok d → (∀ m ∈ item.kept, m.renamed? = none) →
      ∀ (ρ : Type) (b : Backing ρ), (d.shapeOn b).schema.fields.map Field.name =
        item.kept.map fun m => item.rule.key (plainName m.name)) ∧
    (∀ name : String, WordsMarked name.toList →
      String.ofList (pascalCase (snakeCase name.toList)) = name) ∧
    ∀ a b : String, WordsMarked a.toList → WordsMarked b.toList → a ≠ b →
      snakeCase a.toList ≠ snakeCase b.toList := by
  refine ⟨NamingRule.apply_eq_key, fun item d accepted none ρ b => ?_, fun name marked => ?_,
    fun a b ha hb other => ?_⟩
  · exact DeclaredShape.names_eq_keys accepted none b
  · rw [pascalCase_snakeCase marked, String.ofList_toList]
  · exact snakeCase_ne ha hb fun same => other (String.toList_injective same)

/-- Users are searched under the keys of their documents, which the scan makes of the declared names.
    A name comes back whose capitals stand close and beyond A to Z, and two names that differ in the
    case of some letters only are told apart. -/
theorem names_made_by_scan_users :
    (∀ u : User, (User.codec.members u).map Prod.fst =
      DeclaredShape.usersItem.kept.map fun m => NamingRule.camel.key (plainName m.name)) ∧
      (WordsMarked "ÉHTTPa2".toList ∧ String.ofList (pascalCase (snakeCase "ÉHTTPa2".toList)) =
        "ÉHTTPa2") ∧
      WordsMarked "HTTP".toList ∧ WordsMarked "Http".toList ∧
      snakeCase "HTTP".toList ≠ snakeCase "Http".toList := by
  have accented : WordsMarked "ÉHTTPa2".toList := ⟨by decide, by rintro c ⟨⟩; rfl⟩
  have capitals : WordsMarked "HTTP".toList := ⟨by decide, by rintro c ⟨⟩; rfl⟩
  have capital : WordsMarked "Http".toList := ⟨by decide, by rintro c ⟨⟩; rfl⟩
  obtain ⟨-, keys, back, apart⟩ := names_made_by_scan
  refine ⟨fun u => ?_, ⟨accented, back _ accented⟩, capitals, capital,
    apart _ _ capitals capital (by decide)⟩
  exact keys DeclaredShape.usersItem _ rfl (by decide) User DeclaredShape.usersBacking

end RecordSearch
