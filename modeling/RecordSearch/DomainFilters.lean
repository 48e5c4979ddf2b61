import RecordSearch.Json.Request
import RecordSearch.Predicate

/-! Typed filters of a shape: the directives that only make sense for its records. -/

namespace RecordSearch

/-- Typed filters `δ` over records `ρ`. -/
structure DomainFilters (ρ δ : Type) where
  /-- The filters of a request that gives none. -/
  none : δ
  /-- The conditions that the filters impose. -/
  predicates : δ → List (Predicate ρ)
  /-- How the filters stand in a document. The argument says what may stand for nothing in the object
      form of a name. -/
  codec : (Json → Bool) → Json.Codec δ

namespace DomainFilters

variable {ρ δ : Type}

/-- Reads a request. In a kept member an empty object stands for nothing too. -/
def decodeRequest (d : DomainFilters ρ δ) : Json → Decoded (Request δ) :=
  Request.decode (d.codec Json.isNothingOrEmpty)

/-- Reads the text of a request. -/
def readRequest (d : DomainFilters ρ δ) : String → Decoded (Request δ) :=
  Request.read (d.codec Json.isNothingOrEmpty)

/-- The document of a request. -/
def encodeRequest (d : DomainFilters ρ δ) : Request δ → Json :=
  Request.encode (d.codec Json.isNothingOrEmpty)

/-- Reads the typed filters on their own. -/
def decode (d : DomainFilters ρ δ) : Json → Decoded δ := (d.codec Json.isNothing).decode

/-- No typed filters at all. -/
def nothing : DomainFilters ρ Unit where
  none := ()
  predicates _ := []
  codec _ :=
    { fields := [], required := 0, build := fun _ => .ok (), members := fun _ => [] }

/-- Inclusive bounds on the points in time of a field. -/
def between (field : Field ρ) (lower upper : Option Instant) : List (Predicate ρ) :=
  let bound (c : Comparison) (t : Instant) := Predicate.test field (.compares c (.timestamp t))
  (lower.map (bound .atLeast)).toList ++ (upper.map (bound .atMost)).toList

end DomainFilters

end RecordSearch
