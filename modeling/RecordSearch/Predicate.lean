import RecordSearch.Field
import RecordSearch.Operator
import RecordSearch.Text.Casing

/-! Conditions on records.

    A test looks at the value of one field; a predicate puts tests together. Every test but the one
    for null is false of a field that holds nothing. Text tests ignore case: the needle is kept in
    lower case and the value is put in lower case when it is tested. -/

namespace RecordSearch

/-- A condition on the value of one field. -/
inductive Test where
  | equals (l : Literal)
  | differs (l : Literal)
  | text (position : Position) (needle : String) (negate : Bool)
  | compares (c : Comparison) (l : Literal)
  | oneOf (ls : List Literal) (negate : Bool)
  | isNull (negate : Bool)
  deriving DecidableEq, Repr

/-- Whether a needle stands at a position of a text. -/
def Position.finds (p : Position) (needle text : List Char) : Bool :=
  match p with
  | anywhere => Text.holds needle text
  | start => needle.isPrefixOf text
  | finish => needle.isSuffixOf text

namespace Test

/-- A text test for a needle of any case. -/
def ofNeedle (position : Position) (needle : String) (negate : Bool) : Test :=
  .text position (Text.lowercase needle) negate

/-- Whether a value passes. -/
def accepts : Test → Value → Bool
  | equals l, v => !v.isNull && v.equals l
  | differs l, v => !v.isNull && !v.equals l
  | text position needle negate, v =>
    match v.text? with
    | some s => position.finds needle.toList (Text.lower s.toList) != negate
    | none => false
  | compares c l, v =>
    match v.compare? l with
    | some o => c.accepts o
    | none => false
  | oneOf ls negate, v => !v.isNull && (ls.any (v.equals ·)) != negate
  | isNull negate, v => v.isNull != negate

end Test

/-- A condition on records of type `ρ`. -/
inductive Predicate (ρ : Type) where
  | always
  | test (field : Field ρ) (t : Test)
  | all (ps : List (Predicate ρ))
  | any (ps : List (Predicate ρ))

namespace Predicate

variable {ρ : Type}

mutual

/-- Whether a record passes. -/
def accepts : Predicate ρ → ρ → Bool
  | always, _ => true
  | test field t, r => t.accepts (field.read r)
  | all ps, r => acceptsAll ps r
  | any ps, r => acceptsAny ps r

/-- Whether a record passes every predicate of a list. -/
def acceptsAll : List (Predicate ρ) → ρ → Bool
  | [], _ => true
  | p :: ps, r => accepts p r && acceptsAll ps r

/-- Whether a record passes some predicate of a list. -/
def acceptsAny : List (Predicate ρ) → ρ → Bool
  | [], _ => false
  | p :: ps, r => accepts p r || acceptsAny ps r

end

/-- Whether this is the predicate without any condition. -/
def isAlways : Predicate ρ → Bool
  | always => true
  | _ => false

/-- All of the predicates that have a condition; a lone one stands for itself. -/
def conjunction (ps : List (Predicate ρ)) : Predicate ρ :=
  match ps.filter (!·.isAlways) with
  | [] => always
  | [p] => p
  | ps => all ps

/-- Some of the predicates; none means no condition, and a lone one stands for itself. -/
def disjunction (ps : List (Predicate ρ)) : Predicate ρ :=
  match ps with
  | [] => always
  | [p] => p
  | ps => any ps

theorem acceptsAll_eq (ps : List (Predicate ρ)) (r : ρ) : acceptsAll ps r = ps.all (·.accepts r) := by
  induction ps with
  | nil => simp [acceptsAll]
  | cons p ps ih => simp [acceptsAll, ih]

theorem acceptsAny_eq (ps : List (Predicate ρ)) (r : ρ) : acceptsAny ps r = ps.any (·.accepts r) := by
  induction ps with
  | nil => simp [acceptsAny]
  | cons p ps ih => simp [acceptsAny, ih]

@[simp] theorem accepts_always (r : ρ) : (always : Predicate ρ).accepts r = true := by
  simp [accepts]

@[simp] theorem accepts_test (f : Field ρ) (t : Test) (r : ρ) :
    (test f t).accepts r = t.accepts (f.read r) := by
  simp [accepts]

@[simp] theorem accepts_all (ps : List (Predicate ρ)) (r : ρ) :
    (all ps).accepts r = ps.all (·.accepts r) := by
  simp [accepts, acceptsAll_eq]

@[simp] theorem accepts_any (ps : List (Predicate ρ)) (r : ρ) :
    (any ps).accepts r = ps.any (·.accepts r) := by
  simp [accepts, acceptsAny_eq]

end Predicate

end RecordSearch
