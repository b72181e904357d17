import Statecharts.Compilation.Elaborate
import Statecharts.Json.Print

/-!
# Outcomes of commands

A command ends with an exit code and with what it printed.  How results are presented is chosen by
two flags: the format, and whether to be quiet.  Neither of them bears on the exit code.
-/

namespace Statecharts

inductive OutputFormat
  | text
  | json
  deriving DecidableEq, Repr

structure Presentation where
  format : OutputFormat := .text
  quiet : Bool := false
  deriving DecidableEq, Repr

structure Outcome where
  exitCode : Nat := 0
  stdout : String := ""
  stderr : String := ""
  deriving DecidableEq, Repr

namespace Outcome

def success (stdout : String) : Outcome where
  stdout := stdout

def failure (stderr : String) : Outcome where
  exitCode := 1
  stderr := stderr

end Outcome

def prettyLine (json : Json) : String :=
  json.pretty ++ "\n"

namespace Presentation

/-- The text in the format that is asked for, and nothing when quiet. -/
def choose (presentation : Presentation) (text json : String) : String :=
  if presentation.quiet then ""
  else
    match presentation.format with
    | .text => text
    | .json => json

/-- JSON is printed even when quiet. -/
def chooseLoudJson (presentation : Presentation) (text json : String) : String :=
  match presentation.format with
  | .json => json
  | .text => if presentation.quiet then "" else text

def reportError (presentation : Presentation) (message : String) : Outcome :=
  .failure <|
    presentation.choose (message ++ "\n")
      ((Json.object [("error", .string message)]).compact ++ "\n")

def reportCompileError (presentation : Presentation) (error : CompileError) : Outcome :=
  .failure <|
    presentation.chooseLoudJson ("error: " ++ error.message ++ "\n") (prettyLine error.toJson)

end Presentation

end Statecharts
