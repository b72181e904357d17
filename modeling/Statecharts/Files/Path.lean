/-!
# Paths

A path is kept as it was written.  Its components are its names, `..`, and `.` only where it leads;
repeated slashes, a slash at the end and any other `.` are void.  Two paths are joined by their
texts, without looking at what they name.
-/

namespace Statecharts.Path

inductive Component
  | root
  | here
  | up
  | name (text : String)
  deriving DecidableEq, Repr

def isAbsolute (path : String) : Bool :=
  path.toList.head? = some '/'

/-- The leading part that is not split: the root, or a `.` at the start of a relative path. -/
def lead (path : List Char) : List Char :=
  match path with
  | '/' :: _ => ['/']
  | ['.'] | '.' :: '/' :: _ => ['.']
  | _ => []

def parts (path : List Char) : List (List Char) :=
  (path.drop (lead path).length).splitOn '/'

def isVoid (part : List Char) : Bool :=
  part.isEmpty || part = ['.']

def components (path : String) : List Component :=
  (match lead path.toList with
    | ['/'] => [.root]
    | ['.'] => [.here]
    | _ => []) ++
  ((parts path.toList).filter (!isVoid ·)).map fun part =>
    if part = ['.', '.'] then .up else .name (String.ofList part)

/-- Leaves out the void parts at the end. -/
def trimEnd (parts : List (List Char)) : List (List Char) :=
  (parts.reverse.dropWhile isVoid).reverse

/-- The path without its last component; the root and the empty path have none. -/
def parent? (path : String) : Option String :=
  let lead := lead path.toList
  let parts := trimEnd (parts path.toList)
  if parts.isEmpty then
    if lead = ['.'] then some "" else none
  else
    some (String.ofList (lead ++ (['/'].intercalate (trimEnd parts.dropLast))))

/-- The path, its parent, the parent of that, and so on; each is shorter than the one before. -/
def ancestors (path : String) : List String :=
  go (path.length + 1) path
where
  go : (bound : Nat) → String → List String
    | 0, _ => []
    | bound + 1, path => path :: (parent? path).elim [] (go bound)

/-- An absolute path stands for itself. -/
def join (directory path : String) : String :=
  if isAbsolute path then path
  else
    match directory.toList.getLast? with
    | none | some '/' => directory ++ path
    | some _ => directory ++ "/" ++ path

/-- The path as seen from the directory of another one. -/
def resolveRelative (base path : String) : String :=
  if isAbsolute path then path
  else (parent? base).elim path (join · path)

/-- The text is the name of one file: it does not lead elsewhere. -/
def isFileName (text : String) : Bool :=
  components text = [.name text]

/-- A file name without its extension, and the extension, which is what stands behind the last dot.
A name that only begins with a dot has none. -/
def splitExtension (name : String) : String × Option String :=
  let reversed := name.toList.reverse
  let extension := (reversed.takeWhile (· ≠ '.')).reverse
  match reversed.dropWhile (· ≠ '.') with
  | [] | [_] => (name, none)
  | _ :: stem => (String.ofList stem.reverse, some (String.ofList extension))

end Statecharts.Path
