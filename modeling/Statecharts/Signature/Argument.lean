import Statecharts.Text.CharClass
import Statecharts.Text.Messages

/-!
# Trigger arguments

An argument has a type and a name.  In a signature it is written as the words of its type followed
by its name, with one space between words, so the last word is always the name.
-/

namespace Statecharts

structure Argument where
  type : String
  name : String
  deriving DecidableEq, Repr

def Argument.text (argument : Argument) : String :=
  argument.type ++ " " ++ argument.name

inductive SignatureError
  | invalidChar (index : Nat) (char : Char)
  | unopenedTemplate (index : Nat)
  | unterminatedTemplate
  | missingName (argument : String)
  | invalidName (argument : String) (char : Char)
  | duplicateArgument (name : String)
  deriving DecidableEq, Repr

def SignatureError.message : SignatureError → String
  | .invalidChar index char => s!"char {index}: invalid char " ++ Text.quoteChar char
  | .unopenedTemplate index => s!"char {index}: closing unopening template"
  | .unterminatedTemplate => "unterminated template"
  | .missingName argument =>
    "argument " ++ Text.quote argument ++ ": argument requires at least 2 words: type name"
  | .invalidName argument char =>
    "argument " ++ Text.quote argument ++ ": unexpected character in argument name " ++
      Text.quoteChar char
  | .duplicateArgument name => "argument " ++ Text.quote name ++ ": argument is defined twice"

end Statecharts
