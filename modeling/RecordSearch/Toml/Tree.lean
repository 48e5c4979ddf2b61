import RecordSearch.Toml

/-! Tables of a TOML document while it is read.

    A table remembers how it came about, because that decides whether it may be named again: by a
    header of its own, by the header of a table inside it, or by a name with points. -/

namespace RecordSearch.Toml

/-- How a table came about. -/
inductive Origin where | header | implied | dotted
  deriving DecidableEq, Repr

/-- What a name stands for. -/
inductive Node where
  | leaf (v : Toml)
  | table (origin : Origin) (members : List (String × Node))
  /-- A list of tables, the last one first. -/
  | series (tables : List (List (String × Node)))

/-- The members of a table. -/
abbrev Nodes := List (String × Node)

/-- Changes what a name stands for, or adds the name. -/
def alter (name : String) (change : Option Node → Option Node) : Nodes → Option Nodes
  | [] => (change none).map fun n => [(name, n)]
  | (m, n) :: ns =>
    if m = name then (change (some n)).map fun n => (m, n) :: ns
    else (alter name change ns).map ((m, n) :: ·)

/-- Acts on the table at a path, of which missing tables come about as `new`. In a list of tables the
    last one counts. A name with points does not lead into a table with a header. -/
def within (new : Origin) (act : Origin → Nodes → Option Nodes) :
    List String → Origin → Nodes → Option Nodes
  | [], origin, ns => act origin ns
  | name :: path, _, ns =>
    alter name (fun
      | none => (within new act path new []).map (.table new)
      | some (.leaf _) => none
      | some (.table o inner) =>
        if new = .dotted ∧ o = .header then none
        else (within new act path o inner).map (.table o)
      | some (.series []) => none
      | some (.series (t :: ts)) =>
        (within new act path .header t).map fun t => .series (t :: ts)) ns

/-- Adds a value under a name with points. The name must be new, and the points must not lead into a
    table that came about in another way. -/
def addValue (name : List String) (v : Toml) (ns : Nodes) : Option Nodes :=
  let path := name.dropLast
  within .dotted (fun origin inner =>
    if origin = .dotted ↔ path ≠ [] then
      alter (name.getLastD "") (fun
        | none => some (.leaf v)
        | some _ => none) inner
    else none) path .header ns

/-- Acts on the table that a header names last. -/
def atHeader (name : List String) (change : Option Node → Option Node) (ns : Nodes) :
    Option Nodes :=
  within .implied (fun _ inner => alter (name.getLastD "") change inner) name.dropLast .header ns

/-- Opens a table. It may exist only because a table inside it was opened. -/
def openTable (name : List String) (ns : Nodes) : Option Nodes :=
  atHeader name (fun
    | none => some (.table .header [])
    | some (.table .implied inner) => some (.table .header inner)
    | some _ => none) ns

/-- Opens one more table of a list. -/
def openSeries (name : List String) (ns : Nodes) : Option Nodes :=
  atHeader name (fun
    | none => some (.series [[]])
    | some (.series ts) => some (.series ([] :: ts))
    | some _ => none) ns

mutual

/-- The value that a name stands for. -/
def Node.value : Node → Toml
  | .leaf v => v
  | .table _ ns => .table (memberValues ns)
  | .series ts => .array (seriesValues ts).reverse

/-- The values of the members of a table. -/
def memberValues : Nodes → List (String × Toml)
  | [] => []
  | (name, n) :: ns => (name, n.value) :: memberValues ns

/-- The values of a list of tables. -/
def seriesValues : List Nodes → List Toml
  | [] => []
  | ns :: rest => .table (memberValues ns) :: seriesValues rest

end

end RecordSearch.Toml
