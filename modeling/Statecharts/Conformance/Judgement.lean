import Statecharts.Bundle.Write
import Statecharts.Compilation.Elaborate
import Statecharts.Description.Scan
import Statecharts.Json.Agreement
import Statecharts.Json.Print
import Statecharts.Tap.Report

/-!
# Judging fixtures

A fixture is a text with the value that is expected of it: a chart with its bundle, a faulty chart
with its error, or a description with its tokens.  A result passes when it agrees with that value.
-/

namespace Statecharts.Conformance

inductive FixtureKind
  /-- A chart that elaborates. -/
  | positive
  /-- A chart that does not; the stage is the one in which it is meant to fail. -/
  | negative (stage : String)
  /-- A description that is scanned, with or without errors. -/
  | lex
  deriving DecidableEq, Repr

namespace FixtureKind

def folder : FixtureKind → String
  | .positive => "positive"
  | .negative stage => "negative/" ++ stage
  | .lex => "lex"

def extension : FixtureKind → String
  | .positive | .negative _ => "yaml"
  | .lex => "chart"

def expectedName : FixtureKind → String
  | .positive => "expected"
  | .negative _ => "expected-error"
  | .lex => "expected-tokens"

end FixtureKind

/-- What stands in the way when two values do not agree. -/
def difference (expected got : Json) : String :=
  "--- expected\n" ++ expected.pretty ++ "\n+++ got\n" ++ got.pretty

def compare (label : String) (expected got : Json) : Tap.Verdict :=
  if got.agrees expected then .passed
  else .failed (label ++ " mismatch:\n" ++ difference expected got)

def judgePositive (expected : Json) : Except CompileError Chart → Tap.Verdict
  | .ok chart => compare "output" expected chart.toJson
  | .error error => .failed ("unexpected " ++ error.stage ++ " error: " ++ error.message)

def judgeNegative (stage : String) (expected : Json) : Except CompileError Chart → Tap.Verdict
  | .ok _ => .failed ("expected " ++ stage ++ " error but elaboration succeeded")
  | .error error => compare "error" expected error.toJson

def judgeLex (expected : Json) (text : String) : Tap.Verdict :=
  compare "token" expected (Description.scan text).toJson

end Statecharts.Conformance
