import RecordSearch.Field
import RecordSearch.Text.Pieces

/-! The registry of shapes, looked up by name up to the case of A to Z.

    Descriptions are kept in the order of their names, and there is one for each name: a later
    registration replaces an earlier one. -/

namespace RecordSearch

/-- The registered descriptions, in the order of their names. -/
structure Registry where
  shapes : List ShapeInfo := []
  deriving DecidableEq, Repr

namespace Registry

/-- Puts a description among others, behind those with names that come before its own. -/
def place (s : ShapeInfo) : List ShapeInfo → List ShapeInfo
  | [] => [s]
  | t :: ts =>
    if Text.compare t.shape.toList s.shape.toList = .lt then t :: place s ts else s :: t :: ts

/-- Registers a description, in place of one with the same name. -/
def register (r : Registry) (s : ShapeInfo) : Registry :=
  ⟨place s (r.shapes.filter fun t => !Text.sameName t.shape s.shape)⟩

/-- The description with a name. -/
def get? (r : Registry) (name : String) : Option ShapeInfo :=
  r.shapes.find? fun t => Text.sameName t.shape name

/-- The names of all descriptions, in order. -/
def names (r : Registry) : List String := r.shapes.map ShapeInfo.shape

theorem mem_place {s t : ShapeInfo} {ts : List ShapeInfo} : t ∈ place s ts ↔ t = s ∨ t ∈ ts := by
  induction ts with
  | nil => simp [place]
  | cons a ts ih =>
    simp only [place]
    split
    · simp only [List.mem_cons, ih]; exact or_left_comm
    · simp

end Registry

/-- A registry together with the shapes whose schemas have been asked for. The first time that a
    schema is asked for, its shape is registered; later times change nothing. -/
structure Catalog where
  registry : Registry := {}
  built : List String := []
  deriving DecidableEq, Repr

namespace Catalog

/-- Asks for the schema of a shape. -/
def build (c : Catalog) (s : ShapeInfo) : Catalog :=
  if s.shape ∈ c.built then c else ⟨c.registry.register s, s.shape :: c.built⟩

end Catalog

end RecordSearch
