import Statecharts.Bundle.Schema
import Statecharts.Bundle.Write
import Statecharts.Commands.Outcome
import Statecharts.Compilation.Elaborate
import Statecharts.Conformance.Suite
import Statecharts.Description.Scan
import Statecharts.Files.Access
import Statecharts.Json.Read

/-!
# Commands that only read files

The tokens of a description are printed each on a line of its own: position, kind and lexeme, in
columns.  A chart is compiled and printed as a bundle, or only summed up.  A bundle that was written
to a file is read back and checked.  A conformance suite is run and reported in one format only;
when quiet the report is cut down to the points that failed.
-/

namespace Statecharts.Commands

variable {m : Type → Type} [Monad m] [FileAccess m]

/-! ## Descriptions -/

def padEnd (width : Nat) (text : String) : String :=
  text ++ String.ofList (List.replicate (width - text.length) ' ')

def tokenLine (token : Description.Token) : String :=
  let position := padEnd 8 s!"{token.position.line}:{token.position.column}"
  if token.lexeme.isEmpty then s!"{position} {token.kind.name}\n"
  else s!"{position} {padEnd 13 token.kind.name} {Text.quote token.lexeme}\n"

def errorLine (file : String) (error : Description.LexicalError) : String :=
  s!"{file}: {error.message}\n"

/-- Errors are printed even when quiet; as JSON they are part of the output. -/
def presentScan (presentation : Presentation) (file : String) (scanned : Description.Scanned) :
    Outcome where
  exitCode := if scanned.isClean then 0 else 1
  stdout := presentation.chooseLoudJson (String.join (scanned.tokens.map tokenLine))
    (prettyLine scanned.toJson)
  stderr :=
    match presentation.format with
    | .text => String.join (scanned.errors.map (errorLine file))
    | .json => ""

/-- A file that cannot be read. -/
def readingError (file : String) (error : FileError) : String :=
  s!"error reading file '{file}': {error.message}"

def lex (presentation : Presentation) (file : String) : m Outcome := do
  return match ← FileAccess.readText file with
  | .error error => presentation.reportError (readingError file error)
  | .ok text => presentScan presentation file (Description.scan text)

/-! ## Charts -/

/-- The bundle is the result, so it is printed even when quiet, and always as JSON. -/
def presentChart (presentation : Presentation) : Except CompileError Chart → Outcome
  | .ok chart => .success (prettyLine chart.toJson)
  | .error error => presentation.reportCompileError error

def elaborate (presentation : Presentation) (file : String) : m Outcome :=
  presentChart presentation <$> elaborateFile file

def summaryLine (chart : Chart) : String :=
  s!"{chart.name}: ok ({chart.states.length} states, {chart.triggers.length} triggers, " ++
    s!"{chart.transitions.length} transitions)\n"

def summaryJson (chart : Chart) : Json :=
  .object [
    ("name", .string chart.name),
    ("states", .nat chart.states.length),
    ("transitions", .nat chart.transitions.length),
    ("triggers", .nat chart.triggers.length),
    ("valid", .bool true)]

def presentSummary (presentation : Presentation) : Except CompileError Chart → Outcome
  | .ok chart =>
    .success (presentation.choose (summaryLine chart) (prettyLine (summaryJson chart)))
  | .error error => presentation.reportCompileError error

def check (presentation : Presentation) (file : String) : m Outcome :=
  presentSummary presentation <$> elaborateFile file

/-! ## Bundles -/

def presentFaults (presentation : Presentation) : List String → Outcome
  | [] => .success (presentation.choose "valid\n" "\x7b\"valid\": true\x7d\n")
  | faults =>
    .failure <| presentation.chooseLoudJson
      ("invalid bundle\n" ++ String.join (faults.map fun fault => s!"  - {fault}\n"))
      (prettyLine (.object [("errors", .strings faults), ("valid", .bool false)]))

def presentBundle (presentation : Presentation) (file text : String) : Outcome :=
  match Json.read text with
  | .error error =>
    presentation.reportError s!"error parsing JSON in '{file}': {error.message}"
  | .ok json => presentFaults presentation (Bundle.faults json)

def validate (presentation : Presentation) (file : String) : m Outcome := do
  return match ← FileAccess.readText file with
  | .error error => presentation.reportError (readingError file error)
  | .ok text => presentBundle presentation file text

/-! ## Suites -/

def presentReport (presentation : Presentation) (report : Tap.Report) : Outcome where
  exitCode := if report.failureCount = 0 then 0 else 1
  stdout := if presentation.quiet then report.renderFailures else report.render

def test (presentation : Presentation) (suite : String) : m Outcome := do
  if ← FileAccess.pathExists suite then
    return presentReport presentation (← Conformance.run suite)
  else
    return .failure s!"error: conformance suite directory not found: {suite}\n"

end Statecharts.Commands
