import RecordSearch.Console.Session

/-! The command line tool: the world is the real one, and the outcome is printed. -/

namespace RecordSearch

open Console

/-- Why the system refused to read a file. -/
def FileError.ofSystem : IO.Error → FileError
  | .noFileOrDirectory .. => .missing
  | .inappropriateType _ code _ => if code = 21 then .directory else .notDirectory
  | .userError _ => .notText
  | e => .other (toString e)

/-- The variables and files of the system. -/
def systemWorld (terminal : Bool) : World IO where
  lookup name := IO.getEnv name
  contentOf path := do
    try pure (.ok (← IO.FS.readFile path))
    catch e => pure (.error (.ofSystem e))
  terminal := terminal

end RecordSearch

/-- Runs the tool with the given arguments. -/
def main (args : List String) : IO UInt32 := do
  let output ← IO.getStdout
  let outcome ← RecordSearch.Console.run (RecordSearch.systemWorld (← output.isTty)) args
  for line in outcome.errors do IO.eprintln line
  for line in outcome.output do output.putStrLn line
  pure (.ofNat outcome.exit)
