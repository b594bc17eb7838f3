import ObjectModel.Cli.FileStore

/-!
# File trees

A store of files that is plain data: a tree of directories, in one of which the program works.
-/

namespace ObjectModel.Cli

/-- The place of a file or directory: the names on the way to it from the root. -/
abbrev FilePlace := List String

/-- Files by place, and the places of the directories below the root. -/
structure FileTree where
  /-- Where paths start that do not start at the root. -/
  workingDirectory : FilePlace
  files : List (FilePlace × ByteArray)
  directories : List FilePlace
deriving Inhabited

namespace FileTree

/-- The greatest number of bytes in a name. -/
def nameLimit : Nat := 255

/-- The greatest number of bytes in a path. -/
def pathLimit : Nat := 4095

def isFile (t : FileTree) (place : FilePlace) : Bool := (t.files.lookup place).isSome

def isDirectory (t : FileTree) (place : FilePlace) : Bool :=
  place.isEmpty || t.directories.contains place

/-- Follows names from a place.  Each name is looked up in a directory; above the root is the root,
and at the end there may be nothing. -/
def follow (t : FileTree) (place : FilePlace) : List String → Except FileError FilePlace
  | [] => .ok place
  | name :: rest =>
    if t.isFile place then .error .notADirectory
    else if !t.isDirectory place then .error .notFound
    else if name = "" ∨ name = "." then t.follow place rest
    else if name = ".." then t.follow place.dropLast rest
    else if nameLimit < name.utf8ByteSize then .error .nameTooLong
    else t.follow (place ++ [name]) rest

/-- The place that a path leads to by some of its names. -/
def locate (t : FileTree) (path : String) (names : List String) : Except FileError FilePlace :=
  if path = "" then .error .notFound
  else if pathLimit < path.utf8ByteSize then .error .nameTooLong
  else t.follow (if isAbsolute path then [] else t.workingDirectory) names

/-- The place of a path. -/
def resolve (t : FileTree) (path : String) : Except FileError FilePlace :=
  t.locate path (pathParts path)

def pathExists (t : FileTree) (path : String) : Bool :=
  match t.resolve path with
  | .ok place => t.isFile place || t.isDirectory place
  | .error _ => false

def read (t : FileTree) (path : String) : Except FileError ByteArray := do
  let place ← t.resolve path
  match t.files.lookup place with
  | some content => .ok content
  | none => .error (if t.isDirectory place then .isADirectory else .notFound)

/-- Adds a directory; slashes may follow its name. -/
def makeDirectory (t : FileTree) (path : String) : Except FileError FileTree := do
  let place ← t.locate path ((pathParts path).filter (· ≠ ""))
  if t.isFile place || t.isDirectory place then .error .alreadyExists
  else .ok { t with directories := place :: t.directories }

def write (t : FileTree) (path : String) (content : ByteArray) : Except FileError FileTree := do
  let place ← t.resolve path
  if t.isDirectory place then .error .isADirectory
  else .ok { t with files := (place, content) :: t.files.filter (·.1 != place) }

def rename (t : FileTree) (source target : String) : Except FileError FileTree := do
  let content ← t.read source
  let place ← t.resolve source
  let t ← t.write target content
  return { t with files := t.files.filter (·.1 != place) }

/-- A tree with nothing in it but a directory to work in. -/
def empty : FileTree := ⟨["work"], [], [["work"]]⟩

/-- Adds a file and the directories it is in, unless there is something in its way. -/
def addFile (t : FileTree) (path : String) (content : ByteArray) : FileTree :=
  let t := (parentPaths path).foldr (fun parent t => (t.makeDirectory parent).toOption.getD t) t
  (t.write path content).toOption.getD t

/-- The tree with some files in the working directory. -/
def ofFiles (files : List (String × ByteArray)) : FileTree :=
  files.foldl (fun t (path, content) => t.addFile path content) empty

/-- The files in the working directory by their paths. -/
def toFiles (t : FileTree) : List (String × ByteArray) :=
  t.files.filterMap fun (place, content) =>
    if t.workingDirectory.isPrefixOf place then
      some ("/".intercalate (place.drop t.workingDirectory.length), content)
    else none

/-- The store of a tree, at a fixed time. -/
def store (now : String) : FileStore (StateM FileTree) where
  pathExists path := do return (← get).pathExists path
  isDirectory path := do
    let t ← get
    return (t.resolve path).toOption.any t.isDirectory
  read path := do return (← get).read path
  makeDirectory path := change (·.makeDirectory path)
  write path content := change (·.write path content)
  rename source target := change (·.rename source target)
  now := pure now
where
  change (f : FileTree → Except FileError FileTree) : StateM FileTree (Except FileError Unit) := do
    match f (← get) with
    | .ok t => set t; return .ok ()
    | .error e => return .error e

end FileTree

end ObjectModel.Cli
