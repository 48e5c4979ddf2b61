/-! Why a file cannot be read. -/

namespace RecordSearch

/-- Why a file cannot be read. -/
inductive FileError where
  | missing
  /-- The path names a directory. -/
  | directory
  /-- The path goes through something that is no directory. -/
  | notDirectory
  /-- The content is no UTF-8. -/
  | notText
  /-- Any other reason, in the words of the system. -/
  | other (reason : String)
  deriving DecidableEq, Repr

/-- The wording of the reason. -/
def FileError.message : FileError → String
  | missing => "No such file or directory (os error 2)"
  | directory => "Is a directory (os error 21)"
  | notDirectory => "Not a directory (os error 20)"
  | notText => "stream did not contain valid UTF-8"
  | other reason => reason

/-- Whether there is nothing at the path. -/
def FileError.isAbsence : FileError → Bool
  | missing | notDirectory => true
  | _ => false

end RecordSearch
