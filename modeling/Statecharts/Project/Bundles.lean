import Statecharts.Files.Path
import Statecharts.Text.Messages

/-!
# Where bundles go

The bundle of a chart is named for the chart and stands right in the output directory.  Hence a name
must be that of a single file, and no two charts may share one.
-/

namespace Statecharts

inductive BundleNameError
  | notFileName (label name : String)
  | shared (first second name : String)
  deriving DecidableEq, Repr

def BundleNameError.message : BundleNameError → String
  | .notFileName label name =>
    s!"statechart {Text.quote label}: name {Text.quote name} " ++
      "cannot be used as an output file name"
  | .shared first second name =>
    s!"statecharts {Text.quote first} and {Text.quote second} are both named {Text.quote name}"

namespace Project

def bundlePath (directory name : String) : String :=
  Path.join directory (name ++ ".json")

/-- The paths for charts that are given by label and name.  The names that were seen before have the
labels of their charts beside them. -/
def bundlePathsAfter (directory : String) (seen : List (String × String)) :
    List (String × String) → Except BundleNameError (List String)
  | [] => .ok []
  | (label, name) :: rest => do
    if !Path.isFileName name then
      throw (.notFileName label name)
    match seen.lookup name with
    | some first => throw (.shared first label name)
    | none =>
      let paths ← bundlePathsAfter directory ((name, label) :: seen) rest
      return bundlePath directory name :: paths

def bundlePaths (directory : String) (charts : List (String × String)) :
    Except BundleNameError (List String) :=
  bundlePathsAfter directory [] charts

end Project

end Statecharts
