import RecordSearch.Console.CommandLine
import RecordSearch.Console.Ink
import RecordSearch.Console.Table
import RecordSearch.Json.Writer

/-! What a command has to say, and how it is shown.

    A command produces messages. Which of them are shown, where, and in what form depends on the
    presentation alone: results go to the output, warnings and progress to the error stream. For a
    reader that is a program, only the result itself and reports of success are shown. -/

namespace RecordSearch.Console

/-- A result in each of its printed forms. -/
structure Sheet where
  document : Json
  table : Table
  compact : String

/-- One thing that a command says. -/
inductive Message where
  | heading (title : String)
  /-- A name and what it stands for. -/
  | entry (name meaning : String)
  /-- A remark on the result. -/
  | remark (s : String)
  | success (s : String)
  | warning (s : String)
  /-- What is about to happen. -/
  | progress (s : String)
  | result (sheet : Sheet)

/-- How messages are shown. -/
structure Presentation where
  format : OutputFormat := .table
  quiet : Bool := false
  verbose : Bool := false
  /-- Without colours, and with frames of ASCII characters. -/
  plain : Bool := false
  color : Bool := false
  deriving DecidableEq, Repr

/-- The presentation that a command line asks for. -/
def CommandLine.presentation (line : CommandLine) (color : Bool) : Presentation :=
  ⟨line.output, line.quiet, line.verbose, line.noColor, color && !line.noColor⟩

namespace Presentation

/-- Whether the reader is a person. -/
def human (p : Presentation) : Bool := !p.quiet && p.format ≠ .json

/-- The frame of tables. -/
def frame (p : Presentation) : Frame := if p.plain then .ascii else .boxed

/-- A text behind an icon. -/
def marked (p : Presentation) (ink : Ink) (icon s : String) : String :=
  ink.paint p.color icon ++ " " ++ ink.paint p.color s

/-- A title, underlined when nothing else sets it apart. -/
def title (p : Presentation) (s : String) : String :=
  if p.plain then s ++ "\n" ++ String.ofList (List.replicate s.utf8ByteSize '=')
  else Ink.sky.strong.paint p.color s

/-- A result in the form that is asked for. -/
def sheet (p : Presentation) (s : Sheet) : String :=
  match p.format with
  | .json => s.document.pretty
  | .table => s.table.render p.frame
  | .compact => s.compact

end Presentation

namespace Message

/-- Whether a message goes to the error stream. -/
def isAside : Message → Bool
  | warning _ | progress _ => true
  | _ => false

/-- Whether a message is shown. -/
def shown (p : Presentation) : Message → Bool
  | heading _ | entry .. | remark _ => p.human
  | success _ | warning _ | result _ => !p.quiet
  | progress _ => p.verbose && !p.quiet

/-- The text of a message. -/
def text (p : Presentation) : Message → String
  | heading s => p.title s
  | entry name meaning =>
    Ink.aqua.strong.paint p.color name ++ ": " ++ Ink.white.paint p.color meaning
  | remark s => p.marked .blue "ℹ" s
  | success s => p.marked .green "✓" s
  | warning s => p.marked .yellow "⚠" s
  | progress s => p.marked .grey "→" s
  | result s => p.sheet s

/-- The texts of the messages that go to the output. -/
def output (p : Presentation) (ms : List Message) : List String :=
  (ms.filter fun m => m.shown p && !m.isAside).map (text p)

/-- The texts of the messages that go to the error stream. -/
def asides (p : Presentation) (ms : List Message) : List String :=
  (ms.filter fun m => m.shown p && m.isAside).map (text p)

theorem shown_of_quiet {p : Presentation} (h : p.quiet = true) (m : Message) :
    m.shown p = false := by
  cases m <;> simp [shown, Presentation.human, h]

theorem output_of_quiet {p : Presentation} (h : p.quiet = true) (ms : List Message) :
    output p ms = [] := by
  simp [output, shown_of_quiet h]

theorem output_append (p : Presentation) (ms ns : List Message) :
    output p (ms ++ ns) = output p ms ++ output p ns := by
  simp [output]

end Message

/-- How a run of the tool ends: its exit code, and the texts on both streams, each to be followed by
    a line end. -/
structure Outcome where
  exit : Nat
  output : List String := []
  errors : List String := []
  deriving DecidableEq, Repr

/-- The last words of a run that fails. -/
def complaintLine (color : Bool) (complaint : String) : String :=
  Ink.red.paint color "Error:" ++ " " ++ complaint

/-- What a command said, and why it failed if it did. -/
structure Report where
  messages : List Message
  complaint : Option String := none

/-- How a run ends in which a command reported. -/
def Report.outcome (r : Report) (p : Presentation) : Outcome where
  exit := if r.complaint.isSome then 1 else 0
  output := Message.output p r.messages
  errors := Message.asides p r.messages ++ (r.complaint.map (complaintLine p.color)).toList

end RecordSearch.Console
