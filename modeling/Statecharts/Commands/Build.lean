import Statecharts.Bundle.Write
import Statecharts.Commands.Outcome
import Statecharts.Compilation.Elaborate
import Statecharts.Project.Bundles
import Statecharts.Project.Read

/-!
# Building a project

All charts of a project are compiled before anything is written, so a faulty chart leaves the output
directory as it is.  The first fault ends the build.
-/

namespace Statecharts.Commands

inductive BuildError
  | project (error : ProjectError)
  | source (label : String) (error : SourceError)
  | chart (error : ChartError)
  | name (error : BundleNameError)
  | noOutputDirectory (path : String) (error : FileError)
  | unwritable (path : String) (error : FileError)
  deriving DecidableEq, Repr

def BuildError.message : BuildError → String
  | .project error => error.message
  | .source label error => s!"statechart {Text.quote label}: {error.message}"
  | .chart error => error.message
  | .name error => error.message
  | .noOutputDirectory path error =>
    s!"could not create output directory '{path}': {error.message}"
  | .unwritable path error => s!"could not write '{path}': {error.message}"

/-- A chart that is ready to be written. -/
structure Product where
  path : String
  chart : Chart

def Product.content (product : Product) : String :=
  prettyLine product.chart.toJson

variable {m : Type → Type} [Monad m] [FileAccess m]

def readProject (file : String) : m (Except BuildError Project) := do
  return match ← FileAccess.readText file with
  | .error error => .error (.project (.unreadable file error))
  | .ok text => (Project.read file text).mapError .project

/-- Reads the file of an entry, without looking at what is in it. -/
def openEntry (entry : ChartEntry) : m (Except BuildError (String × Source)) := do
  return match ← Source.ofFile entry.path with
  | .error error => .error (.source entry.label error)
  | .ok source => .ok (entry.label, entry.name.elim source (Source.renamed · source))

def openEntries : List ChartEntry → m (Except BuildError (List (String × Source)))
  | [] => return .ok []
  | entry :: rest => do
    match ← openEntry entry with
    | .error error => return .error error
    | .ok source => return (← openEntries rest).map (source :: ·)

/-- Compiles sources that were read, and settles where their bundles go. -/
def compile (directory : String) (sources : List (String × Source)) :
    Except BuildError (List Product) := do
  let charts ← (elaborateAll sources).mapError .chart
  let names := (sources.map Prod.fst).zip (charts.map Chart.name)
  let paths ← (Project.bundlePaths directory names).mapError .name
  return List.zipWith Product.mk paths charts

def writeProducts : List Product → m (Except BuildError Unit)
  | [] => return .ok ()
  | product :: rest => do
    match ← FileAccess.writeText product.path product.content with
    | .error error => return .error (.unwritable product.path error)
    | .ok () => writeProducts rest

def writeInto (directory : String) (products : List Product) : m (Except BuildError Unit) := do
  match ← FileAccess.createDirectories directory with
  | .error error => return .error (.noOutputDirectory directory error)
  | .ok () => writeProducts products

/-- Builds the project of a file, and returns the paths of the bundles. -/
def buildProject (file : String) : m (Except BuildError (List String)) := do
  match ← readProject file with
  | .error error => return .error error
  | .ok project =>
    match ← openEntries project.charts with
    | .error error => return .error error
    | .ok sources =>
      match compile project.outputDirectory sources with
      | .error error => return .error error
      | .ok products =>
        return (← writeInto project.outputDirectory products).map fun () =>
          products.map Product.path

def presentBuild (presentation : Presentation) : Except BuildError (List String) → Outcome
  | .error error => presentation.reportError error.message
  | .ok paths =>
    .success (presentation.choose (String.join (paths.map fun path => s!"wrote {path}\n"))
      (prettyLine (.object [("written", .strings paths)])))

def build (presentation : Presentation) (file : String) : m Outcome :=
  presentBuild presentation <$> buildProject file

end Statecharts.Commands
