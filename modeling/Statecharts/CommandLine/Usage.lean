import Statecharts.CommandLine.Grammar

/-!
# Usage and help

A usage line says what may be written.  After a mistake it repeats the arguments that were given.
The arguments that a command declares itself count as one group: once one of them was given, all of
them are shown as alternatives.
-/

namespace Statecharts.CommandLine

inductive Argument
  | option (name : OptionName)
  | operand
  deriving DecidableEq, Repr

namespace Grammar

def commandPlaceholder (grammar : Grammar) : List String :=
  if grammar.commands.isEmpty then [] else ["<COMMAND>"]

def line (words : List String) : String :=
  "Usage: " ++ " ".intercalate words

def fullUsage (grammar : Grammar) : String :=
  line <|
    grammar.words ++ (if grammar.options.isEmpty then [] else ["[OPTIONS]"]) ++
      (grammar.operand?.map Operand.written).toList ++ grammar.commandPlaceholder

def isOwn (grammar : Grammar) : Argument → Bool
  | .option name => grammar.ownOptions.contains name
  | .operand => grammar.operand?.isSome

/-- The arguments that are declared here, as alternatives. -/
def groupText (grammar : Grammar) : String :=
  "<" ++ "|".intercalate
    (grammar.ownOptions.map OptionName.written ++ (grammar.operand?.map Operand.name).toList) ++ ">"

def optionsOf (arguments : List Argument) : List OptionName :=
  arguments.filterMap fun
    | .option name => some name
    | .operand => none

/-- An operand that was given, or that has to be. -/
def operandText (operand : Operand) (isGiven : Bool) : String :=
  Operand.written { operand with isRequired := operand.isRequired || isGiven }

/-- Usage after some arguments were given, with further arguments that are to be mentioned. -/
def usageAfter (grammar : Grammar) (given mentioned : List Argument) : String :=
  let showsGroup := given.any grammar.isOwn
  let shown := given ++ mentioned
  let options := (optionsOf shown).filter fun name =>
    !(showsGroup && grammar.ownOptions.contains name)
  let operand :=
    if showsGroup then []
    else (grammar.operand?.map (operandText · (shown.contains .operand))).toList
  line <|
    grammar.words ++ options.map OptionName.written ++
      (if showsGroup then [grammar.groupText] else []) ++ operand ++ grammar.commandPlaceholder

/-- Usage after a mistake. -/
def usage (grammar : Grammar) (given : List Argument) : String :=
  if given.isEmpty then grammar.fullUsage else grammar.usageAfter given []

/-- A table with aligned descriptions, under a heading. -/
def table (heading : String) (rows : List (String × String)) : List String :=
  let width := (rows.map (·.1.length)).foldl max 0
  if rows.isEmpty then []
  else
    [heading ++ ":\n" ++ String.join (rows.map fun (label, description) =>
      let gap := String.ofList (List.replicate (width - label.length) ' ')
      s!"  {label}{gap}  {description}\n")]

def optionRow (name : OptionName) : String × String :=
  let short := name.short?.elim "    " fun c => String.ofList ['-', c, ',', ' ']
  (short ++ name.written, name.description)

/-- The help page. -/
def page (grammar : Grammar) : String :=
  "\n".intercalate <|
    [grammar.description ++ "\n", grammar.fullUsage ++ "\n"] ++
      table "Commands" grammar.commands ++
      table "Arguments"
        (grammar.operand?.map fun operand => (operand.written, operand.description)).toList ++
      table "Options" (grammar.options.map optionRow)

end Grammar

end Statecharts.CommandLine
