import ObjectModel.Cli.Path

/-!
# File stores

The few file operations that the command line needs, on any store of files.
-/

namespace ObjectModel.Cli

/-- Why a file operation failed. -/
inductive FileError where
  | notFound
  | alreadyExists
  | notADirectory
  | isADirectory
  | nameTooLong
  | other (text : String)
deriving DecidableEq, Inhabited

def FileError.message : FileError → String
  | notFound => "No such file or directory (os error 2)"
  | alreadyExists => "File exists (os error 17)"
  | notADirectory => "Not a directory (os error 20)"
  | isADirectory => "Is a directory (os error 21)"
  | nameTooLong => "File name too long (os error 36)"
  | other text => text

/-- File operations in a monad. -/
structure FileStore (m : Type → Type) where
  /-- Is there a file or directory? -/
  pathExists : String → m Bool
  isDirectory : String → m Bool
  read : String → m (Except FileError ByteArray)
  /-- Creates a directory in one that is there. -/
  makeDirectory : String → m (Except FileError Unit)
  write : String → ByteArray → m (Except FileError Unit)
  rename : String → String → m (Except FileError Unit)
  /-- The current time, in the format of RFC 3339. -/
  now : m String

namespace FileStore

variable {m : Type → Type} [Monad m] (store : FileStore m)

/-- Creates a directory unless it is there. -/
def ensureDirectory (path : String) : m (Except FileError Unit) := do
  match ← store.makeDirectory path with
  | .ok _ => return .ok ()
  | .error e => return if ← store.isDirectory path then .ok () else .error e

/-- Creates the first of some directories unless it is there.  Where it cannot be found, the others,
of which each is in the next, are created before it. -/
def ensureNested : List String → m (Except FileError Unit)
  | [] => return .ok ()
  | path :: parents => do
    match ← store.ensureDirectory path with
    | .error .notFound =>
      match ← ensureNested parents with
      | .ok _ => store.ensureDirectory path
      | .error e => return .error e
    | result => return result

/-- Creates a directory and those it is in, as far as they are not there. -/
def createDirectories (path : String) : m (Except FileError Unit) :=
  store.ensureNested (path :: parentPaths path)

end FileStore

end ObjectModel.Cli
