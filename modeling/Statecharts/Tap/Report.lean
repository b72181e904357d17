import Statecharts.Text.Messages

/-!
# Test reports

A report lists test points in the order in which they were made and numbers them from one.  Every
line of the diagnostics of a point that failed is written as a comment, so that it cannot be taken
for a point.  The short form of a report has the points that failed, with their numbers.
-/

namespace Statecharts.Tap

inductive Verdict
  | passed
  | failed (diagnostics : String)
  deriving DecidableEq, Repr

structure Point where
  description : String
  verdict : Verdict
  deriving DecidableEq, Repr

namespace Point

def ok (description : String) : Point :=
  ⟨description, .passed⟩

def notOk (description diagnostics : String) : Point :=
  ⟨description, .failed diagnostics⟩

def isFailure (point : Point) : Bool :=
  point.verdict ≠ .passed

def statusText (point : Point) : String :=
  if point.isFailure then "not ok" else "ok"

def diagnosticLines (point : Point) : List String :=
  match point.verdict with
  | .passed => []
  | .failed diagnostics => Text.lines diagnostics

def render (number : Nat) (point : Point) : String :=
  s!"{point.statusText} {number} - {point.description}\n" ++
    String.join (point.diagnosticLines.map fun line => s!"  # {line}\n")

end Point

structure Report where
  points : List Point
  deriving DecidableEq, Repr

namespace Report

def empty : Report := ⟨[]⟩

def add (report : Report) (point : Point) : Report :=
  ⟨report.points ++ [point]⟩

def failureCount (report : Report) : Nat :=
  report.points.countP Point.isFailure

/-- The points with their numbers. -/
def numbered (report : Report) : List (Point × Nat) :=
  report.points.zipIdx 1

def renderPoints (points : List (Point × Nat)) : String :=
  String.join (points.map fun (point, number) => point.render number)

def render (report : Report) : String :=
  let count := report.points.length
  let failures := report.failureCount
  s!"TAP version 14\n1..{count}\n" ++ renderPoints report.numbered ++
    s!"# tests {count}\n# pass  {count - failures}\n# fail  {failures}\n"

def renderFailures (report : Report) : String :=
  renderPoints (report.numbered.filter (·.1.isFailure))

end Report

end Statecharts.Tap
