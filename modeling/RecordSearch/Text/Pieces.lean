/-! Texts as sequences of characters: containment, splitting at a mark, and order.

    The order is by code point, character by character, with a proper start of a text before the
    text; on well-formed text this is also the order of the UTF-8 bytes. -/

namespace RecordSearch.Text

/-- Whether `needle` stands somewhere in the text, at any position. -/
def holds (needle : List Char) : List Char → Bool
  | [] => needle.isEmpty
  | c :: cs => needle.isPrefixOf (c :: cs) || holds needle cs

/-- Order by code points. -/
def compare : List Char → List Char → Ordering
  | [], [] => .eq
  | [], _ :: _ => .lt
  | _ :: _, [] => .gt
  | a :: as, b :: bs => (Ord.compare a.toNat b.toNat).then (compare as bs)

/-- The text before the first `mark` and the text after it, if the mark occurs. -/
def cut (mark : Char) : List Char → Option (List Char × List Char)
  | [] => none
  | c :: cs =>
    if c = mark then some ([], cs) else (cut mark cs).map fun p => (c :: p.1, p.2)

/-- The pieces between the occurrences of `mark`; always at least one. -/
def pieces (mark : Char) : List Char → List (List Char)
  | [] => [[]]
  | c :: cs =>
    if c = mark then [] :: pieces mark cs
    else match pieces mark cs with
      | [] => [[c]]
      | p :: ps => (c :: p) :: ps

/-- The text with `mark`s behind, up to `width` characters. -/
def padRight (width : Nat) (mark : Char) (s : List Char) : List Char :=
  s ++ List.replicate (width - s.length) mark

/-- The texts with `mark` between them. -/
def joinWith (mark : String) (ts : List String) : String := mark.intercalate ts

theorem pieces_ne_nil (mark : Char) (s : List Char) : pieces mark s ≠ [] := by
  cases s with
  | nil => simp [pieces]
  | cons c cs => simp only [pieces]; split <;> (try split) <;> simp

end RecordSearch.Text
