import Statecharts.Compilation.Elaborate
import Statecharts.Conformance.Judgement
import Statecharts.Json.Read

/-!
# Conformance suites

A suite is a directory with a folder for each kind of fixture; a folder that is missing has no
fixtures.  Every fixture gives one test point, in the order of the kinds and of the file names.
-/

namespace Statecharts.Conformance

def kinds : List FixtureKind :=
  [.positive, .negative "resolve", .negative "validate", .lex]

variable {m : Type → Type} [Monad m] [FileAccess m]

def readJson (path : String) : m (Except String Json) := do
  return match ← FileAccess.readText path with
  | .error error => .error s!"cannot read {path}: {error.message}"
  | .ok text => (Json.read text).mapError fun error => s!"invalid JSON in {path}: {error.message}"

/-- Judges the result of compiling a file. -/
def judgeChart (path : String) (judge : Except CompileError Chart → Tap.Verdict) :
    m Tap.Verdict :=
  judge <$> elaborateFile path

def judgeDescription (path : String) (expected : Json) : m Tap.Verdict := do
  return match ← FileAccess.readText path with
  | .error error => .failed s!"cannot read {path}: {error.message}"
  | .ok text => judgeLex expected text

def judgeFixture (kind : FixtureKind) (path : String) (expected : Json) : m Tap.Verdict :=
  match kind with
  | .positive => judgeChart path (judgePositive expected)
  | .negative stage => judgeChart path (judgeNegative stage expected)
  | .lex => judgeDescription path expected

/-- What is said when the expected value cannot be read. -/
def FixtureKind.expectedFile : FixtureKind → String
  | .negative _ => "expected-error file"
  | .positive | .lex => "expected file"

/-- Charts are told apart from other files by their expected value, so that it is looked for before
anything is read. -/
def FixtureKind.checksPresence : FixtureKind → Bool
  | .positive | .negative _ => true
  | .lex => false

/-- Runs the fixture with the given file name. -/
def runFixture (directory : String) (kind : FixtureKind) (fileName : String) : m Tap.Point := do
  let (stem, _) := Path.splitExtension fileName
  let expectedPath := Path.join directory s!"{stem}.{kind.expectedName}.json"
  let point : Tap.Verdict → Tap.Point := .mk s!"{kind.folder}/{stem}"
  if kind.checksPresence && !(← FileAccess.pathExists expectedPath) then
    return point (.failed s!"missing {kind.expectedFile}: {expectedPath}")
  match ← readJson expectedPath with
  | .error message => return point (.failed s!"failed to read {kind.expectedFile}: {message}")
  | .ok expected => return point (← judgeFixture kind (Path.join directory fileName) expected)

def isFixture (kind : FixtureKind) (fileName : String) : Bool :=
  (Path.splitExtension fileName).2 = some kind.extension

def runFolder (suite : String) (kind : FixtureKind) : m (List Tap.Point) := do
  let directory := Path.join suite kind.folder
  let names ← FileAccess.sortedNames directory
  (names.filter (isFixture kind)).mapM (runFixture directory kind)

def run (suite : String) : m Tap.Report := do
  let points ← kinds.mapM (runFolder suite)
  return ⟨points.flatten⟩

end Statecharts.Conformance
