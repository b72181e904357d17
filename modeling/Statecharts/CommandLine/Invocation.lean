import Statecharts.Commands.Outcome
import Statecharts.CommandLine.UsageError

/-!
# Reading the command line

Arguments are read from left to right.  The value of an option is accepted only when the next
argument is understood, so a mistake in that argument is reported first; in the same way mistakes
behind a command are reported before a wrong value in front of it.  An option that is given on both
sides of the command counts as it is given behind it.
-/

namespace Statecharts

inductive Command
  | lex (file : String)
  | elaborate (file : String)
  | check (file : String)
  | build (project : String)
  | validate (bundle : String)
  | test (suite : String)
  deriving DecidableEq, Repr

structure Invocation where
  command : Command
  presentation : Presentation
  deriving DecidableEq, Repr

namespace CommandLine

/-- Why a command line is no invocation of a command. -/
inductive Halt
  | help (grammar : Grammar)
  | version
  | misuse (error : UsageError)
  deriving DecidableEq, Repr

/-- The arguments in one place of the command line, as far as they were read. -/
structure Reading where
  grammar : Grammar
  /-- The arguments that were accepted, in order. -/
  given : List Argument := []
  /-- An argument that is not accepted yet; an option may still wait for its value. -/
  pending : Option (Argument × Option String) := none
  output? : Option OutputFormat := none
  quiet : Bool := false
  config? : Option String := none
  operand? : Option String := none
  deriving DecidableEq, Repr

namespace Reading

def misuse {α : Type} (reading : Reading) (fault : UsageFault) (usage : Option String) :
    Except Halt α :=
  .error (.misuse ⟨reading.grammar, fault, usage⟩)

def misuseWithUsage {α : Type} (reading : Reading) (fault : UsageFault) : Except Halt α :=
  reading.misuse fault (some reading.grammar.fullUsage)

def awaitsValue (reading : Reading) : Bool :=
  match reading.pending with
  | some (_, none) => true
  | _ => false

/-- An operand was read, be it accepted or not. -/
def hasOperand (reading : Reading) : Bool :=
  reading.given.contains .operand || reading.pending.any (·.1 = .operand)

def argumentText (reading : Reading) : Argument → String
  | .option name => name.written
  | .operand => (reading.grammar.operand?.map Operand.written).getD ""

def possibleValues : Argument → List String
  | .option name => name.possibleValues
  | .operand => []

def invalidValue {α : Type} (reading : Reading) (argument : Argument) (value : String) :
    Except Halt α :=
  reading.misuse (.invalidValue (reading.argumentText argument) value (possibleValues argument))
    none

/-- Counts a pending argument as given, whether its value is right or not. -/
def countPending (reading : Reading) : Reading :=
  match reading.pending with
  | some (argument, some _) =>
    let given :=
      if reading.given.contains argument then reading.given.erase argument
      else reading.given ++ [argument]
    { reading with pending := none, given }
  | _ => { reading with pending := none }

def setValue (reading : Reading) (argument : Argument) (value : String) : Except Halt Reading :=
  match argument with
  | .option .output =>
    match value with
    | "text" => .ok { reading with output? := some .text }
    | "json" => .ok { reading with output? := some .json }
    | _ => reading.invalidValue argument value
  | _ =>
    if value.isEmpty then reading.invalidValue argument value
    else if argument = .operand then .ok { reading with operand? := some value }
    else .ok { reading with config? := some value }

/-- Accepts a pending argument. -/
def settle (reading : Reading) : Except Halt Reading :=
  match reading.pending with
  | none => .ok reading
  | some (argument, none) => reading.invalidValue argument ""
  | some (argument, some value) =>
    if reading.given.contains argument then
      reading.misuseWithUsage (.repeated (reading.argumentText argument))
    else reading.countPending.setValue argument value

def takeFlag (reading : Reading) (name : OptionName) : Except Halt Reading := do
  let reading ← reading.settle
  match name with
  | .help => throw (.help reading.grammar)
  | .version => throw .version
  | _ =>
    if !reading.given.contains (.option name) then
      return { reading with
        given := reading.given ++ [.option name]
        quiet := reading.quiet || name = .quiet }
    else if name.isRepeatable then return reading
    else reading.misuseWithUsage (.repeated name.written)

/-- The command further on that has a similar option; of several the one that comes first. -/
def commandWithOption? (long : String) (later : List String) : Option ArgumentTip :=
  later.findSome? fun word => do
    let verb ← Verb.ofName? word
    let option ← Text.mostSimilar? long ((Grammar.ofVerb verb).options.map OptionName.long)
    return .behindCommand verb.name option

/-- Text that looks like an option may have been meant as the operand. -/
def asOperand? (reading : Reading) (text : String) : Option ArgumentTip :=
  if reading.grammar.operand?.isSome then some (.afterDashes text) else none

def unknownLong {α : Type} (reading : Reading) (long : String) (later : List String) :
    Except Halt α :=
  let reading := reading.countPending
  let grammar := reading.grammar
  let text := "--" ++ long
  match Text.mostSimilar? long (grammar.options.map OptionName.long) with
  | some similar =>
    let suggested := (grammar.option? similar).toList.map Argument.option
    let given := reading.given ++ suggested.filter (!reading.given.contains ·)
    reading.misuse (.unknownArgument text (some (.similarOption similar)))
      (some (grammar.usage given))
  | none =>
    let tip? :=
      if grammar.commands.isEmpty then reading.asOperand? text
      else commandWithOption? long later
    reading.misuse (.unknownArgument text tip?) (some (grammar.usage reading.given))

/-- Reads what stands behind two dashes: the name of an option, and perhaps its value. -/
def readLong (reading : Reading) (later : List String) (body : List Char) :
    Except Halt Reading := do
  let long := String.ofList (body.takeWhile (· ≠ '='))
  let value? := (body.dropWhile (· ≠ '=')).tail?.map String.ofList
  match reading.grammar.option? long with
  | none => reading.unknownLong long later
  | some name =>
    if name.takesValue then
      let reading ← reading.settle
      let pending : Reading := { reading with pending := some (.option name, value?) }
      if value?.isSome then pending.settle else return pending
    else
      match value? with
      | none => reading.takeFlag name
      | some value =>
        reading.misuse (.superfluousValue name.written value)
          (some (reading.grammar.usageAfter reading.given [.option name]))

/-- Reads what stands behind one dash: the letters of flags. -/
def readShort (reading : Reading) : List Char → Except Halt Reading
  | [] => .ok reading
  | c :: rest =>
    match reading.grammar.shortOption? c with
    | some name => do readShort (← reading.takeFlag name) rest
    | none =>
      let text := String.ofList ['-', c]
      reading.misuseWithUsage (.unknownArgument text (reading.asOperand? text))

/-- An argument for which there is no place. -/
def misplaced {α : Type} (reading : Reading) (isTrailing : Bool) (text : String) :
    Except Halt α :=
  let commands := reading.grammar.commandNames
  if isTrailing && commands.contains text then
    reading.misuseWithUsage (.unknownArgument text (some (.withoutDashes text)))
  else if commands.isEmpty then reading.misuseWithUsage (.unknownArgument text none)
  else reading.misuseWithUsage (.unknownCommand text (Text.similarNames text commands))

/-- Reads an argument that is no option; `isTrailing` tells that two dashes stand before it. -/
def readOperand (isTrailing : Bool) (reading : Reading) (text : String) :
    Except Halt Reading := do
  if reading.grammar.operand?.isSome && !reading.hasOperand then
    let reading ← reading.settle
    return { reading with pending := some (.operand, some text) }
  else reading.misplaced isTrailing text

/-- Reads one argument, with the arguments that are to come. -/
def readArgument (reading : Reading) (text : String) (later : List String) :
    Except Halt Reading :=
  match text.toList with
  | '-' :: '-' :: body => reading.readLong later body
  | '-' :: c :: rest => reading.readShort (c :: rest)
  | _ =>
    match reading.pending with
    | some (argument, none) => .ok { reading with pending := some (argument, some text) }
    | _ => reading.readOperand false text

/-- Reads the arguments up to a command, if there is one. -/
def readAll (reading : Reading) :
    List String → Except Halt (Reading × Option (String × List String))
  | [] => .ok (reading, none)
  | text :: later => do
    if !reading.awaitsValue && reading.grammar.commandNames.contains text then
      return (reading, some (text, later))
    else if text = "--" then
      return (← later.foldlM (readOperand true) reading, none)
    else readAll (← reading.readArgument text later) later

def requireOperand (reading : Reading) : Except Halt String :=
  match reading.operand? with
  | some operand => .ok operand
  | none =>
    reading.misuse (.missingOperand (reading.argumentText .operand))
      (some (reading.grammar.usageAfter [] (reading.given ++ [.operand])))

end Reading

def defaultProject : String := "chartc.toml"

def defaultSuite : String := "conformance"

/-- The command of a verb with its arguments. -/
def commandOf (verb : Verb) (reading : Reading) : Except Halt Command :=
  match verb with
  | .lex => .lex <$> reading.requireOperand
  | .elaborate => .elaborate <$> reading.requireOperand
  | .check => .check <$> reading.requireOperand
  | .build => .ok (.build (reading.config?.getD defaultProject))
  | .validate => .validate <$> reading.requireOperand
  | .test => .ok (.test (reading.operand?.getD defaultSuite))

/-- Help on what the given words lead to. -/
def helpOn (grammar : Grammar) : List String → Halt
  | [] => .help grammar
  | name :: rest =>
    if grammar.commandNames.contains name then
      helpOn ((Verb.ofName? name).elim Grammar.help Grammar.ofVerb) rest
    else .misuse ⟨grammar, .unknownCommand name [], some grammar.fullUsage⟩

def parse (arguments : List String) : Except Halt Invocation := do
  let (outer, next?) ← Reading.readAll { grammar := .root } arguments
  match next? with
  | none =>
    let outer ← outer.settle
    outer.misuseWithUsage (if outer.given.isEmpty then .nothingGiven else .missingCommand)
  | some (name, rest) =>
    match Verb.ofName? name with
    | none => throw (helpOn .root rest)
    | some verb =>
      let (inner, _) ← Reading.readAll { grammar := .ofVerb verb } rest
      let inner ← inner.settle
      let command ← commandOf verb inner
      let outer ← outer.settle
      return {
        command
        presentation := {
          format := (inner.output? <|> outer.output?).getD .text
          quiet := inner.quiet || outer.quiet } }

end CommandLine

end Statecharts
