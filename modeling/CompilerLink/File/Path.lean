import CompilerLink.Text.Split

/-! # Paths

Paths are text. `Path.join` puts one behind another, `Path.names` takes one apart into the names
between its slashes, and `Path.splitList` takes apart a list of paths between colons, in which an
empty part stands for the working directory. -/

namespace CompilerLink.Path

/-- The directories of a search list, empty parts included. -/
def splitList (list : String) : List String := (Text.splitOn ':' list.toList).map String.ofList

/-- Whether a path starts at the root of the file system. -/
def isAbsolute (path : String) : Bool := path.toList.head? = some '/'

/-- Whether a path insists on naming a directory. -/
def hasTrailingSlash (path : String) : Bool := path.toList.getLast? = some '/'

/-- `name` as seen from the directory `dir`; an absolute name stays as it is. -/
def join (dir name : String) : String :=
  if isAbsolute name || dir = "" then name
  else if hasTrailingSlash dir then dir ++ name
  else dir ++ "/" ++ name

/-- The names between the slashes of a path. -/
def names (path : String) : List String :=
  ((Text.splitOn '/' path.toList).filter (! ·.isEmpty)).map String.ofList

end CompilerLink.Path
