import Statecharts.Files.FileTree
import Statecharts.Project.Basic
import Statecharts.Toml.Decode
import Statecharts.Toml.Document

/-!
# Reading project files

The keys of a table are decoded in the order in which they are written, so the first wrong one is
reported.  Unknown keys are ignored.  A section may also be written as an array of its fields.
-/

namespace Statecharts

inductive ProjectError
  | unreadable (path : String) (error : FileError)
  | malformed (path text : String) (error : Toml.Error)
  | noCharts (path : String)
  deriving DecidableEq, Repr

def ProjectError.message : ProjectError → String
  | .unreadable path error => s!"could not read '{path}': {error.message}"
  | .malformed path text error => s!"could not parse '{path}': {error.report text}"
  | .noCharts path => s!"'{path}': no statecharts listed"

open Toml (Item)
open Toml.Decode (string sequence invalidType missingField invalidLength)

namespace ChartEntry

def pathOf : Item → Except Toml.Error String :=
  string "path string"

def nameOf : Item → Except Toml.Error String :=
  string "a string"

def expected : String := "struct ChartEntry"

/-- The path and the name as far as they were found. -/
def decodeField (found : Option String × Option String) :
    String × Item → Except Toml.Error (Option String × Option String)
  | ("path", item) => return (some (← pathOf item), found.2)
  | ("name", item) => return (found.1, some (← nameOf item))
  | _ => return found

def ofItem (item : Item) : Except Toml.Error ChartEntry := do
  match item with
  | .table _ _ entries =>
    match ← entries.foldlM decodeField (none, none) with
    | (some path, name) => return ⟨path, name⟩
    | (none, _) => missingField item "path"
  | .array _ (path :: more) | .tables _ (path :: more) =>
    let path ← pathOf path
    match more with
    | [] => invalidLength item 1 (expected ++ " with 2 elements")
    | name :: _ => return ⟨path, some (← nameOf name)⟩
  | .array _ [] | .tables _ [] => invalidLength item 0 (expected ++ " with 2 elements")
  | _ => invalidType item expected

end ChartEntry

namespace Project

def outputPathOf : Item → Except Toml.Error String :=
  string "path string"

/-- The output directory of a project section, if it gives one. -/
def directoryOf : Item → Except Toml.Error (Option String)
  | .table _ _ entries =>
    (entries.lookup "out_dir").mapM outputPathOf
  | .array _ items | .tables _ items => items.head?.mapM outputPathOf
  | other => invalidType other "struct ProjectSection"

def decodeField (project : Project) : String × Item → Except Toml.Error Project
  | ("project", item) => do
    let directory? ← directoryOf item
    return { project with outputDirectory := directory?.getD project.outputDirectory }
  | ("statechart", item) => do
    let items ← sequence item
    return { project with charts := ← items.mapM ChartEntry.ofItem }
  | _ => return project

def ofTable (table : Toml.Table) : Except Toml.Error Project :=
  table.entries.foldlM decodeField {}

/-- Reads the text of a project file; every path is then seen from where the file is seen. -/
def read (file text : String) : Except ProjectError Project := do
  let table ← (Toml.Document.read text).mapError fun fault =>
    .malformed file text (.ofFault text fault)
  let project ← (ofTable table).mapError (.malformed file text)
  if project.charts.isEmpty then
    throw (.noCharts file)
  return project.resolve file

end Project

end Statecharts
