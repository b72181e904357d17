import Statecharts.Chart.Validation
import Statecharts.Compilation.Source
import Statecharts.Files.Access
import Statecharts.Json.Basic
import Statecharts.Resolution.Build
import Statecharts.Resolution.Error

/-!
# Elaboration

A source is read into records, the records are resolved into a chart, and the chart is validated; a
compilation fails in one of these three stages.  Several sources are elaborated in order.  The first
one that fails fails them all, and its error is reported with the label of its chart.
-/

namespace Statecharts

/-! ## Errors -/

inductive CompileError
  | source (error : SourceError)
  | resolution (error : ResolutionError)
  | validation (error : ValidationError)
  deriving DecidableEq, Repr

namespace CompileError

def stage : CompileError → String
  | .source _ => "source"
  | .resolution _ => "resolve"
  | .validation _ => "validate"

def message : CompileError → String
  | .source error => error.message
  | .resolution error => error.message
  | .validation error => error.message

def toJson (error : CompileError) : Json :=
  .object [("message", .string error.message), ("stage", .string error.stage)]

end CompileError

structure ChartError where
  chart : String
  cause : CompileError
  deriving DecidableEq, Repr

def ChartError.message (error : ChartError) : String :=
  "validating statechart " ++ Text.quote error.chart ++ ": " ++ error.cause.message

/-! ## Stages -/

def elaborate (source : Source) : Except CompileError Chart := do
  let records ← source.read.mapError .source
  let chart ← (Chart.build records).mapError .resolution
  chart.validate.mapError .validation
  return chart

def elaborateAll (sources : List (String × Source)) : Except ChartError (List Chart) :=
  sources.mapM fun (label, source) => (elaborate source).mapError (⟨label, ·⟩)

def validateCharts (charts : List Chart) : Except ChartError Unit :=
  charts.forM fun chart => chart.validate.mapError (⟨chart.name, .validation ·⟩)

/-! ## Files -/

variable {m : Type → Type} [Monad m] [FileAccess m]

def Source.ofFile (path : String) : m (Except SourceError Source) := do
  return match ← FileAccess.readText path with
  | .ok text => .ok (.yaml path text)
  | .error error => .error (.unreadable path error)

def elaborateFile (path : String) : m (Except CompileError Chart) := do
  return match ← Source.ofFile path with
  | .ok source => elaborate source
  | .error error => .error (.source error)

end Statecharts
