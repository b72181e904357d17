import Statecharts.Files.Path

/-!
# Projects

A project lists charts to be compiled, and the directory for what is made of them.  Its paths are
written as seen from the project file.
-/

namespace Statecharts

structure ChartEntry where
  path : String
  /-- Stands for the name that the chart gives itself. -/
  name : Option String
  deriving DecidableEq, Repr

namespace ChartEntry

/-- What an entry is called before its chart is read. -/
def label (entry : ChartEntry) : String :=
  entry.name.getD entry.path

end ChartEntry

structure Project where
  outputDirectory : String := "generated"
  charts : List ChartEntry := []
  deriving DecidableEq, Repr

/-- The project with its paths as seen from where the project file is seen. -/
def Project.resolve (project : Project) (file : String) : Project where
  outputDirectory := Path.resolveRelative file project.outputDirectory
  charts := project.charts.map fun entry =>
    { entry with path := Path.resolveRelative file entry.path }

end Statecharts
