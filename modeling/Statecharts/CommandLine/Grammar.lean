/-!
# The command line

The program has six commands and one that gives help.  Three options are understood before the
command as well as behind it; a command has at most one operand.
-/

namespace Statecharts.CommandLine

def programName : String := "chartc"

def programVersion : String := "0.1.0"

inductive OptionName
  | output
  | quiet
  | verbose
  | config
  | help
  | version
  deriving DecidableEq, Repr

namespace OptionName

def long : OptionName → String
  | .output => "output"
  | .quiet => "quiet"
  | .verbose => "verbose"
  | .config => "config"
  | .help => "help"
  | .version => "version"

def short? : OptionName → Option Char
  | .verbose => some 'v'
  | .help => some 'h'
  | .version => some 'V'
  | .output | .quiet | .config => none

/-- What the value of an option is called. -/
def valueName? : OptionName → Option String
  | .output => some "OUTPUT"
  | .config => some "CONFIG"
  | .quiet | .verbose | .help | .version => none

def takesValue (name : OptionName) : Bool :=
  name.valueName?.isSome

/-- The values that an option admits, unless it admits every text. -/
def possibleValues : OptionName → List String
  | .output => ["text", "json"]
  | _ => []

def isRepeatable : OptionName → Bool
  | .verbose => true
  | _ => false

def description : OptionName → String
  | .output => "Output format (text or json) [default: text] [possible values: text, json]"
  | .quiet => "Suppress non-essential output"
  | .verbose => "Log pipeline progress to stderr (-v debug, -vv trace); RUST_LOG overrides"
  | .config => "Path to the project file [default: chartc.toml]"
  | .help => "Print help"
  | .version => "Print version"

/-- An option as messages write it. -/
def written (name : OptionName) : String :=
  "--" ++ name.long ++ (name.valueName?.elim "" fun value => " <" ++ value ++ ">") ++
    if name.isRepeatable then "..." else ""

end OptionName

structure Operand where
  name : String
  description : String
  isRequired : Bool
  isRepeated : Bool := false
  deriving DecidableEq, Repr

def Operand.written (operand : Operand) : String :=
  (if operand.isRequired then "<" ++ operand.name ++ ">" else "[" ++ operand.name ++ "]") ++
    if operand.isRepeated then "..." else ""

inductive Verb
  | lex
  | elaborate
  | check
  | build
  | validate
  | test
  deriving DecidableEq, Repr

namespace Verb

def all : List Verb := [.lex, .elaborate, .check, .build, .validate, .test]

def name : Verb → String
  | .lex => "lex"
  | .elaborate => "elaborate"
  | .check => "check"
  | .build => "build"
  | .validate => "validate"
  | .test => "test"

def ofName? (name : String) : Option Verb :=
  all.find? (·.name = name)

def description : Verb → String
  | .lex => "Scan a chart description file and print its tokens"
  | .elaborate => "Elaborate a YAML statechart to interchange JSON"
  | .check => "Resolve and validate a YAML statechart without printing it"
  | .build => "Compile every statechart listed in a project file"
  | .validate => "Validate interchange JSON against the statechart JSON Schema"
  | .test => "Run the conformance test suite"

def operand? : Verb → Option Operand
  | .lex => some ⟨"FILE", "Path to the description file", true, false⟩
  | .elaborate | .check => some ⟨"FILE", "Path to the YAML statechart", true, false⟩
  | .build => none
  | .validate => some ⟨"BUNDLE", "Path to the interchange JSON bundle file", true, false⟩
  | .test =>
    some ⟨"SUITE_DIR", "Path to the conformance suite directory [default: conformance]", false,
      false⟩

def options : Verb → List OptionName
  | .build => [.config]
  | _ => []

end Verb

/-- What may be written at one place of the command line. -/
structure Grammar where
  /-- The words that lead here. -/
  words : List String
  description : String
  /-- Options that are declared here. -/
  ownOptions : List OptionName
  /-- All options that are understood here. -/
  options : List OptionName
  operand? : Option Operand := none
  /-- The commands, with their descriptions, one of which must follow. -/
  commands : List (String × String) := []
  deriving DecidableEq, Repr

namespace Grammar

/-- Options that are understood everywhere. -/
def globalOptions : List OptionName := [.output, .quiet, .verbose]

def helpName : String := "help"

def helpDescription : String := "Print this message or the help of the given subcommand(s)"

def root : Grammar where
  words := [programName]
  description := "Statechart description compiler"
  ownOptions := globalOptions
  options := globalOptions ++ [.help, .version]
  commands :=
    Verb.all.map (fun verb => (verb.name, verb.description)) ++ [(helpName, helpDescription)]

def ofVerb (verb : Verb) : Grammar where
  words := [programName, verb.name]
  description := verb.description
  ownOptions := verb.options
  options := verb.options ++ globalOptions ++ [.help]
  operand? := verb.operand?

def help : Grammar where
  words := [programName, helpName]
  description := helpDescription
  ownOptions := []
  options := []
  operand? := some ⟨"COMMAND", "Print help for the subcommand(s)", false, true⟩

def commandNames (grammar : Grammar) : List String :=
  grammar.commands.map Prod.fst

def offersHelp (grammar : Grammar) : Bool :=
  grammar.options.contains .help

def option? (grammar : Grammar) (long : String) : Option OptionName :=
  grammar.options.find? (·.long = long)

def shortOption? (grammar : Grammar) (short : Char) : Option OptionName :=
  grammar.options.find? (·.short? = some short)

end Grammar

end Statecharts.CommandLine
