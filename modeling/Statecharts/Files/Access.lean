import Statecharts.Files.FileTree
import Statecharts.Files.Path

/-!
# Access to files

Commands reach files only through these six operations, so that a run can be carried out on the
files of a machine or on a file tree alike.
-/

namespace Statecharts

class FileAccess (m : Type → Type) where
  readText : (path : String) → m (Except FileError String)
  pathExists : (path : String) → m Bool
  isDirectory : (path : String) → m Bool
  /-- The names of the entries of a directory. -/
  list : (path : String) → m (Except FileError (List String))
  createDirectory : (path : String) → m (Except FileError Unit)
  writeText : (path content : String) → m (Except FileError Unit)

namespace FileTree

/-- A change that fails leaves the tree as it is. -/
def change (f : FileTree → Except FileError FileTree) : StateM FileTree (Except FileError Unit) :=
  fun tree =>
    match f tree with
    | .ok changed => (.ok (), changed)
    | .error error => (.error error, tree)

instance : FileAccess (StateM FileTree) where
  readText path := return (← get).readText path
  pathExists path := return (← get).pathExists path
  isDirectory path := return (← get).isDirectory path
  list path := return (← get).list path
  createDirectory path := change (·.createDirectory path)
  writeText path content := change (·.writeText path content)

end FileTree

namespace FileAccess

variable {m : Type → Type} [Monad m] [FileAccess m]

/-- The entries of a directory in ascending order; what cannot be listed has none. -/
def sortedNames (path : String) : m (List String) := do
  match ← list path with
  | .ok names => return names.mergeSort (· ≤ ·)
  | .error _ => return []

/-- Makes one directory, which may be there already. -/
def ensureDirectory (path : String) : m (Except FileError Unit) := do
  match ← createDirectory path with
  | .ok () => return .ok ()
  | .error error => return if ← isDirectory path then .ok () else .error error

/-- Makes the first of a chain of directories, in which each one leads to the one before it. -/
def createChain : List String → m (Except FileError Unit)
  | [] => return .error (.other "failed to create whole tree")
  | path :: parents => do
    if path.isEmpty then return .ok ()
    match ← ensureDirectory path with
    | .error .notFound =>
      match ← createChain parents with
      | .ok () => ensureDirectory path
      | failure => return failure
    | result => return result

/-- Makes a directory and all directories that lead to it. -/
def createDirectories (path : String) : m (Except FileError Unit) :=
  createChain (Path.ancestors path)

end FileAccess

end Statecharts
