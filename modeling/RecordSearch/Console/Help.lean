import RecordSearch.Console.Ink
import RecordSearch.Field
import RecordSearch.Text.Digits

/-! Texts at the end of the help: examples of a command, the registered shapes, and the variables of the
    environment. -/

namespace RecordSearch.Console

/-- Examples under a title. -/
structure ExampleGroup where
  title : String
  commands : List String
  deriving DecidableEq, Repr

/-- The examples of a command. -/
def examplesOf : String → List ExampleGroup
  | "search" =>
    [⟨"Free Text and Paging",
       ["sift search users --search \"ho chi minh\"                # Built-in sample users",
        "sift search contacts --data contacts.json --page 2 --page-size 10"]⟩,
     ⟨"Filters and Sorting",
       ["sift search users -f \"role:in:Admin,CSKH\" -f isEmailVerified:eq:true",
        "sift search users -f phoneNumber:isnull --sort-by fullName --sort-order asc",
        "sift search users --gender female --created-from 2024-01-05"]⟩]
  | "schema" =>
    [⟨"Shape Introspection",
       ["sift schema                       # List every registered shape",
        "sift schema users                 # Show the fields of the users shape",
        "sift --output json schema contacts"]⟩]
  | "demo" =>
    [⟨"Walkthroughs",
       ["sift demo                         # Run every walkthrough against the sample data"]⟩]
  | _ => []

/-- The variables of the environment that matter. -/
def environmentVariables : List (String × String) :=
  [("SIFT_CONFIG", "Path to the sift.toml configuration file"),
   ("SIFT_DATA_DIR", "Data directory when the config uses data.dir = \"$\x7bSIFT_DATA_DIR\x7d\""),
   ("RUST_LOG", "Log filter, overrides [logging] filter in sift.toml")]

/-- The lines of a group of examples. -/
def ExampleGroup.lines (color : Bool) (g : ExampleGroup) : List String :=
  ("  " ++ Ink.sky.paint color g.title) ::
    g.commands.map fun c => "    " ++ Ink.grey.paint color "→" ++ " " ++ Ink.magenta.paint color c

/-- The examples of a command, with an empty line between groups. -/
def exampleLines (color : Bool) (groups : List ExampleGroup) : List String :=
  Ink.cyan.paint color "Examples:" :: List.intercalate [""] (groups.map (ExampleGroup.lines color))

/-- One line on a shape: its fields, where free text looks, and the default sort. -/
def shapeSummary (s : ShapeInfo) : String :=
  Text.integerText s.fields.length ++ " fields" ++
    (if s.textFields = [] then "" else ", free text over " ++ Text.joinWith ", " s.textFields) ++
    match s.defaultSort with
    | some sort => ", sorted by " ++ sort ++ " descending by default"
    | none => ""

/-- A name and what it means. -/
def entryLine (color : Bool) (name meaning : String) : String :=
  "  " ++ Ink.aqua.paint color name ++ "  " ++ Ink.white.paint color meaning

/-- The shapes, their names filled up to the size in bytes of the longest one. -/
def shapeLines (color : Bool) (shapes : List ShapeInfo) : List String :=
  let width := (shapes.map fun s => s.shape.utf8ByteSize).foldl max 0
  shapes.map fun s =>
    entryLine color (String.ofList (Text.padRight width ' ' s.shape.toList)) (shapeSummary s)

/-- The shapes, the variables of the environment, and a tip. -/
def appendixLines (color : Bool) (shapes : List ShapeInfo) : List String :=
  Ink.cyan.paint color "Shapes:" ::
    (if shapes = [] then ["  (none registered)"] else shapeLines color shapes) ++
    ["", Ink.cyan.paint color "Environment Variables:"] ++
    environmentVariables.map (fun (name, meaning) => entryLine color name meaning) ++
    ["", Ink.cyan.paint color "Tip:",
      "  " ++ Ink.magenta.paint color
        "Run 'sift schema <shape>' to list the fields a filter can name."]

end RecordSearch.Console
