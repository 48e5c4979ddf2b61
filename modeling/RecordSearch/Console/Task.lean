import RecordSearch.Console.Report
import RecordSearch.FileError
import RecordSearch.Settings

/-! Commands as tasks: they look at the world around them, say things, and may fail.

    The world is a set of questions in a monad `m`, so that a task can be run against files and
    variables that are given as data just as well as against real ones. -/

namespace RecordSearch.Console

/-- What a run can ask of the world around it. -/
structure World (m : Type → Type) where
  /-- The value of a variable of the environment. -/
  lookup : String → m (Option String)
  /-- The content of a file. -/
  contentOf : String → m (Except FileError String)
  /-- Whether the output goes to a terminal. -/
  terminal : Bool

/-- Why a task fails. -/
inductive Failure where
  | settingsUnreadable (reason : FileError)
  | settingsRefused (reason : SettingsError)
  | shapeUnknown (name : String) (known : List String)
  /-- A shape that is registered, but whose records cannot be listed. -/
  | shapeUnlisted (name : String)
  | recordsUnreadable (path : String) (reason : FileError)
  | recordsMalformed (path : String)
  /-- Records that could not be put in the order that was asked for. -/
  | recordsUnordered
  | walkthroughFailed (name complaint : String)
  deriving DecidableEq, Repr

namespace Failure

/-- The wording of a complaint about a file: what failed, and then the reason once more as its
    cause. -/
def fileComplaint (reason : FileError) : String :=
  "io error: " ++ reason.message ++ ": " ++ reason.message

/-- The wording of a complaint about records, with its cause. -/
def recordsComplaint (path cause : String) : String :=
  "Failed to load records from " ++ path ++ ": " ++ cause

/-- The wording of a complaint. -/
def message : Failure → String
  | settingsUnreadable reason => fileComplaint reason
  | settingsRefused reason => reason.message?.getD "config error"
  | shapeUnknown name known =>
    "Unknown shape '" ++ name ++ "'. Known shapes: " ++ Text.joinWith ", " known
  | shapeUnlisted name => "Shape '" ++ name ++ "' has no command-line binding"
  | recordsUnreadable path reason => recordsComplaint path (fileComplaint reason)
  | recordsMalformed path => recordsComplaint path "json error"
  | recordsUnordered => "the comparison of records is no total order"
  | walkthroughFailed name complaint => name ++ " walkthrough failed: " ++ complaint

end Failure

/-- A task that gives an `α` unless it fails. What it has said stays said when it fails. -/
abbrev Task (m : Type → Type) (α : Type) := ExceptT Failure (StateT (List Message) m) α

namespace Task

variable {m : Type → Type} [Monad m] {α : Type}

/-- Says something. -/
def say (s : Message) : Task m Unit := ExceptT.lift (modify (· ++ [s]))

/-- Asks the world. -/
def ask (question : m α) : Task m α := ExceptT.lift (StateT.lift question)

/-- A result, or the failure that its error means. -/
def orFail {ε : Type} (failure : ε → Failure) : Except ε α → Task m α
  | .ok a => pure a
  | .error e => throw (failure e)

/-- Carries a task out. -/
def report (task : Task m Unit) : m Report := do
  let (result, messages) ← StateT.run (ExceptT.run task) []
  pure ⟨messages, match result with
    | .ok () => none
    | .error e => some e.message⟩

end Task

end RecordSearch.Console
