/-! Paths of files: pieces with slashes between them, absolute if they begin with one. -/

namespace RecordSearch.FilePath

/-- Whether a path begins at the root. -/
def isAbsolute (path : String) : Bool := path.toList.head? == some '/'

/-- A path below a directory. One slash is put in between unless there is no directory or it ends in
    one; an absolute path stays as it is. -/
def below (directory path : String) : String :=
  if isAbsolute path ∨ directory = "" then path
  else if directory.toList.getLast? = some '/' then directory ++ path
  else directory ++ "/" ++ path

end RecordSearch.FilePath
