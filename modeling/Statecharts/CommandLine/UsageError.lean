import Statecharts.CommandLine.Usage
import Statecharts.Text.Similarity

/-!
# Usage errors

What can be wrong with a command line.  An error may come with a tip, and most errors repeat the
usage of the command in question.
-/

namespace Statecharts.CommandLine

inductive ArgumentTip
  | similarOption (name : String)
  /-- The option belongs behind a command that is there. -/
  | behindCommand (command option : String)
  | afterDashes (text : String)
  | withoutDashes (command : String)
  deriving DecidableEq, Repr

def ArgumentTip.text : ArgumentTip → String
  | .similarOption name => s!"a similar argument exists: '--{name}'"
  | .behindCommand command option => s!"'{command} --{option}' exists"
  | .afterDashes text => s!"to pass '{text}' as a value, use '-- {text}'"
  | .withoutDashes command =>
    s!"subcommand '{command}' exists; to use it, remove the '--' before it"

inductive UsageFault
  /-- There is nothing on the command line. -/
  | nothingGiven
  | missingCommand
  | unknownCommand (name : String) (similar : List String)
  | unknownArgument (text : String) (tip : Option ArgumentTip)
  /-- An empty value counts as none. -/
  | invalidValue (argument value : String) (possible : List String)
  | superfluousValue (argument value : String)
  | repeated (argument : String)
  | missingOperand (operand : String)
  deriving DecidableEq, Repr

structure UsageError where
  grammar : Grammar
  fault : UsageFault
  usage : Option String
  deriving DecidableEq, Repr

namespace UsageFault

def valueList (label : String) (values : List String) : String :=
  if values.isEmpty then "" else s!"\n  [{label}: " ++ ", ".intercalate values ++ "]"

def message : UsageFault → String
  | .nothingGiven => ""
  | .missingCommand =>
    s!"'{programName}' requires a subcommand but one was not provided" ++
      valueList "subcommands" Grammar.root.commandNames
  | .unknownCommand name _ => s!"unrecognized subcommand '{name}'"
  | .unknownArgument text _ => s!"unexpected argument '{text}' found"
  | .invalidValue argument value possible =>
    (if value.isEmpty then s!"a value is required for '{argument}' but none was supplied"
      else s!"invalid value '{value}' for '{argument}'") ++ valueList "possible values" possible
  | .superfluousValue argument value =>
    s!"unexpected value '{value}' for '{argument}' found; no more were expected"
  | .repeated argument => s!"the argument '{argument}' cannot be used multiple times"
  | .missingOperand operand =>
    s!"the following required arguments were not provided:\n  {operand}"

def similarText (thing : String) : List String → Option String
  | [] => none
  | [name] => some s!"a similar {thing} exists: '{name}'"
  | names =>
    some (s!"some similar {thing}s exist: " ++
      ", ".intercalate (names.map fun name => s!"'{name}'"))

def tip? : UsageFault → Option String
  | .unknownCommand _ similar => similarText "subcommand" similar
  | .unknownArgument _ tip => tip.map ArgumentTip.text
  | .invalidValue _ value possible =>
    similarText "value" (Text.mostSimilar? value possible).toList
  | _ => none

end UsageFault

namespace UsageError

def helpHint (grammar : Grammar) : String :=
  if grammar.offersHelp then "\n\nFor more information, try '--help'.\n" else "\n"

/-- The text that is shown.  Without any argument it is the help page. -/
def report (error : UsageError) : String :=
  match error.fault with
  | .nothingGiven => error.grammar.page
  | fault =>
    "error: " ++ fault.message ++ (fault.tip?.elim "" ("\n\n  tip: " ++ ·)) ++
      (error.usage.elim "" ("\n\n" ++ ·)) ++ helpHint error.grammar

end UsageError

end Statecharts.CommandLine
