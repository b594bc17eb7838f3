/-!
# Paths

A path is a text in which slashes part names.  It starts at the root if it starts with a slash, and
otherwise where the program works.
-/

namespace ObjectModel.Cli

/-- The texts between the slashes of a path. -/
def pathParts (path : String) : List String := (path.toList.splitOn '/').map String.ofList

/-- Appends a name to a path. -/
def joinPath (path name : String) : String :=
  if path = "" then name
  else if path.toList.getLast? = some '/' then path ++ name
  else path ++ "/" ++ name

def isAbsolute (path : String) : Bool := path.startsWith "/"

/-- The names of a path that lead somewhere.  An empty name stays where it is, and so does a dot,
which counts only at the start. -/
def pathNames (path : String) : List String :=
  match pathParts path with
  | "." :: rest => "." :: proper rest
  | names => proper names
where
  proper (names : List String) : List String := names.filter fun name => name ≠ "" ∧ name ≠ "."

/-- The directories that a path goes through, the nearest first. -/
def parentPaths (path : String) : List String :=
  let start := if isAbsolute path then "/" else ""
  let names := pathNames path
  let parents := (List.range names.length).map fun n => start ++ "/".intercalate (names.take n)
  (parents.filter (· ≠ "")).reverse

end ObjectModel.Cli
