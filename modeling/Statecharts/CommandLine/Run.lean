import Statecharts.CommandLine.Invocation
import Statecharts.Commands.Build
import Statecharts.Commands.Inspect

/-!
# Running the command line

A command line that is understood is carried out.  Otherwise it asked for help or for the version,
or it is misused, which has an exit code of its own.
-/

namespace Statecharts

namespace CommandLine

def misuseExitCode : Nat := 2

def Halt.outcome : Halt → Outcome
  | .help grammar => .success grammar.page
  | .version => .success (programName ++ " " ++ programVersion ++ "\n")
  | .misuse error => { exitCode := misuseExitCode, stderr := error.report }

end CommandLine

variable {m : Type → Type} [Monad m] [FileAccess m]

def Command.run (command : Command) (presentation : Presentation) : m Outcome :=
  match command with
  | .lex file => Commands.lex presentation file
  | .elaborate file => Commands.elaborate presentation file
  | .check file => Commands.check presentation file
  | .build project => Commands.build presentation project
  | .validate bundle => Commands.validate presentation bundle
  | .test suite => Commands.test presentation suite

def Invocation.run (invocation : Invocation) : m Outcome :=
  invocation.command.run invocation.presentation

def CommandLine.run (arguments : List String) : m Outcome :=
  match CommandLine.parse arguments with
  | .ok invocation => invocation.run
  | .error halt => return halt.outcome

end Statecharts
