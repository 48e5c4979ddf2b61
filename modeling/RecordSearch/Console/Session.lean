import RecordSearch.Console.Help
import RecordSearch.Console.ShapeSheet
import RecordSearch.Console.Walkthrough
import RecordSearch.Registry

/-! A run of the tool: from its arguments and the world around it to its outcome.

    Settings come from the file that the command line or the environment names, which then has to be
    there; else from a file of a fixed name if there is one. A command line that makes no sense ends
    the run before anything is read. -/

namespace RecordSearch.Console

/-- The variable that names the file of settings. -/
def configVariable : String := "SIFT_CONFIG"

/-- The file of settings when none is named. -/
def configFile : String := "sift.toml"

/-- The shapes that the tool knows. -/
def registry : Registry := ([User.shape.info, Contact.shape.info].foldl Catalog.build {}).registry

/-- The registered shape with a name. -/
def knownShape {m : Type → Type} [Monad m] (name : String) : Task m ShapeInfo :=
  match registry.get? name with
  | some s => pure s
  | none => throw (.shapeUnknown name registry.names)

/-- Whether colours are shown: always if they are forced, never if they are forbidden, else on a
    terminal. A variable with the value 0 forces and wants nothing. -/
def wantsColor (forced forbidden wanted : Option String) (terminal : Bool) : Bool :=
  if forced.any (· ≠ "0") then true
  else if forbidden.isSome then false
  else wanted.all (· ≠ "0") && terminal

variable {m : Type → Type} [Monad m]

/-- Whether the world wants colours. -/
def World.color (w : World m) : m Bool := do
  let forced ← w.lookup "CLICOLOR_FORCE"
  let forbidden ← w.lookup "NO_COLOR"
  let wanted ← w.lookup "CLICOLOR"
  pure (wantsColor forced forbidden wanted w.terminal)

/-- The settings of a text. -/
def readSettings (s : String) : Except Failure Settings :=
  (Settings.read s).mapError .settingsRefused

/-- The settings of a run. -/
def World.settings (w : World m) : Option String → m (Except Failure Settings)
  | some path => do
    match ← w.contentOf path with
    | .ok s => pure (readSettings s)
    | .error e => pure (.error (.settingsUnreadable e))
  | none => do
    match ← w.contentOf configFile with
    | .ok s => pure (readSettings s)
    | .error e => pure (if e.isAbsence then .ok {} else .error (.settingsUnreadable e))

/-- Searches the records of a shape. Filters that only users have are ignored for others. -/
def runSearch (w : World m) (settings : Settings) (o : SearchOptions) : Task m Unit := do
  let s ← knownShape o.shape
  if s.shape = User.shape.name then
    userListing.run w settings o o.userFilters
  else if s.shape = Contact.shape.name then do
    if o.gender.isSome || o.emailVerified.isSome then
      Task.say (.warning "--gender and --email-verified apply to users only; ignoring them")
    contactListing.run w settings o o.contactFilters
  else throw (.shapeUnlisted s.shape)

/-- Describes a shape, or all of them. -/
def runSchema : Option String → Task m Unit
  | none => (shapesMessages registry.shapes).forM Task.say
  | some name => do
    let s ← knownShape name
    (shapeMessages s).forM Task.say

/-- Carries out a command. -/
def Command.run (w : World m) (settings : Settings) : Command → Task m Unit
  | .search options => runSearch w settings options
  | .schema shape => runSchema shape
  | .demo => Walkthrough.runEvery

/-- Carries out a command line. Before the settings are known, complaints are coloured as the world
    wants it. -/
def CommandLine.run (w : World m) (line : CommandLine) : m Outcome := do
  let color ← w.color
  match ← w.settings line.config with
  | .error e => pure { exit := 1, errors := [complaintLine color e.message] }
  | .ok settings => do
    let report ← Task.report (line.command.run w settings)
    pure (report.outcome (line.presentation color))

/-- The help text. -/
def helpLines (color : Bool) : List String :=
  ["Usage: sift [OPTIONS] <COMMAND>", "", "Commands:",
    "  search  Search records of a registered shape",
    "  schema  Describe registered shapes and their fields",
    "  demo    Run the built-in walkthroughs against sample data", ""] ++
    appendixLines color registry.shapes

/-- Runs the tool. -/
def run (w : World m) (args : List String) : m Outcome := do
  match CommandLine.read (← w.lookup configVariable) args with
  | .error .usage => pure { exit := 2, errors := ["Usage: sift [OPTIONS] <COMMAND>"] }
  | .error .help => do pure { exit := 0, output := helpLines (← w.color) }
  | .ok line => line.run w

end RecordSearch.Console
