/-!
# File trees

A file tree lists its entries by the names that lead to them from the root, and runs have a working
directory in it.  A path text is followed name by name: every name but the last one must be that of
a directory, and a slash at the end asks for a directory too.
-/

namespace Statecharts

/-- Why a file or a directory could not be used. -/
inductive FileError
  | notFound
  | alreadyExists
  | notDirectory
  | isDirectory
  | invalidUtf8
  | other (message : String)
  deriving DecidableEq, Repr

def FileError.message : FileError → String
  | .notFound => "No such file or directory (os error 2)"
  | .alreadyExists => "File exists (os error 17)"
  | .notDirectory => "Not a directory (os error 20)"
  | .isDirectory => "Is a directory (os error 21)"
  | .invalidUtf8 => "stream did not contain valid UTF-8"
  | .other message => message

inductive FileEntry
  | directory
  | text (content : String)
  /-- The content is not text. -/
  | binary (bytes : List UInt8)
  deriving DecidableEq

def FileEntry.ofBytes (bytes : List UInt8) : FileEntry :=
  (String.fromUTF8? ⟨bytes.toArray⟩).elim (.binary bytes) .text

def FileEntry.isDirectory : FileEntry → Bool
  | .directory => true
  | _ => false

/-- Where an entry is: the names that lead to it from the root. -/
abbrev Place := List String

structure FileTree where
  workingDirectory : Place
  entries : List (Place × FileEntry)

namespace FileTree

/-- The root is always there. -/
def entry? (tree : FileTree) (place : Place) : Option FileEntry :=
  if place.isEmpty then some .directory else tree.entries.lookup place

def insert (tree : FileTree) (place : Place) (entry : FileEntry) : FileTree :=
  { tree with entries := (place, entry) :: tree.entries.filter (·.1 ≠ place) }

/-- A directory and all directories that lead to it. -/
def insertDirectories (tree : FileTree) (place : Place) : FileTree :=
  (List.range place.length).foldl (fun tree n => tree.insert (place.take (n + 1)) .directory) tree

def fileNameLimit : Nat := 255

def pathLimit : Nat := 4095

def nameTooLong : FileError := .other "File name too long (os error 36)"

def nullInPath : FileError := .other "file name contained an unexpected NUL byte"

/-- The parts of a path text between its slashes. -/
def names (path : String) : List String :=
  ((path.toList.splitOn '/').filter (!·.isEmpty)).map String.ofList

def asksForDirectory (path : String) : Bool :=
  path.toList.getLast? = some '/'

def start (tree : FileTree) (path : String) : Place :=
  if path.toList.head? = some '/' then [] else tree.workingDirectory

def checkPath (path : String) : Except FileError Unit :=
  if path.toList.contains '\x00' then .error nullInPath
  else if path.isEmpty then .error .notFound
  else if pathLimit < path.utf8ByteSize then .error nameTooLong
  else .ok ()

def checkDirectory (tree : FileTree) (place : Place) : Except FileError Unit :=
  match tree.entry? place with
  | some .directory => .ok ()
  | some _ => .error .notDirectory
  | none => .error .notFound

def checkName (name : String) : Except FileError Unit :=
  if fileNameLimit < name.utf8ByteSize then .error nameTooLong else .ok ()

/-- Follows names from a place.  Nothing needs to be at the place that is reached. -/
def follow (tree : FileTree) : Place → List String → Except FileError Place
  | place, [] => .ok place
  | place, name :: rest => do
    tree.checkDirectory place
    if name = "." then tree.follow place rest
    else if name = ".." then tree.follow place.dropLast rest
    else
      checkName name
      tree.follow (place ++ [name]) rest

/-- What a path names. -/
def find (tree : FileTree) (path : String) : Except FileError (Place × FileEntry) := do
  checkPath path
  let place ← tree.follow (tree.start path) (names path)
  match tree.entry? place with
  | none => throw .notFound
  | some entry =>
    if asksForDirectory path && !entry.isDirectory then throw .notDirectory
    return (place, entry)

/-- The directory in which the last name of a path is to be made, and that name. -/
def findParent (tree : FileTree) (path : String) : Except FileError (Place × Option String) := do
  checkPath path
  let names := names path
  let place ← tree.follow (tree.start path) names.dropLast
  tree.checkDirectory place
  match names.getLast? with
  | none | some "." | some ".." => return (place, none)
  | some name =>
    checkName name
    return (place ++ [name], some name)

def readText (tree : FileTree) (path : String) : Except FileError String := do
  match ← tree.find path with
  | (_, .directory) => throw .isDirectory
  | (_, .binary _) => throw .invalidUtf8
  | (_, .text content) => return content

def pathExists (tree : FileTree) (path : String) : Bool :=
  (tree.find path).toOption.isSome

def isDirectory (tree : FileTree) (path : String) : Bool :=
  (tree.find path).toOption.any (·.2.isDirectory)

/-- The names of the entries of a directory, in no particular order. -/
def list (tree : FileTree) (path : String) : Except FileError (List String) := do
  let (place, entry) ← tree.find path
  if entry.isDirectory then
    return tree.entries.filterMap fun (other, _) =>
      if other.dropLast = place then other.getLast? else none
  else throw .notDirectory

def createDirectory (tree : FileTree) (path : String) : Except FileError FileTree := do
  let (place, name?) ← tree.findParent path
  if name?.isNone || (tree.entry? place).isSome then throw .alreadyExists
  return tree.insert place .directory

def writeText (tree : FileTree) (path content : String) : Except FileError FileTree := do
  let (place, name?) ← tree.findParent path
  if name?.isNone || asksForDirectory path || tree.entry? place = some .directory then
    throw .isDirectory
  return tree.insert place (.text content)

/-- The entries that an earlier tree did not have, or had with another content. -/
def changesSince (tree before : FileTree) : List (Place × FileEntry) :=
  tree.entries.filter fun (place, entry) => before.entries.lookup place ≠ some entry

end FileTree

end Statecharts
