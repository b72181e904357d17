import Statecharts.Json.Basic
import Statecharts.Text.Messages

/-!
# Bundle errors

What can be wrong with a bundle: its own fields, a trigger, or a state.  A fault of a trigger or of
a state is reported with the name of the construct.
-/

namespace Statecharts

/-- What was found where a value of another type was expected. -/
def Json.typeText : Json → String
  | .null => "null"
  | .bool value => s!"boolean `{value}`"
  | .number (.double bits) => "floating point `" ++ Decimal.compactText bits ++ "`"
  | .number value => "integer `" ++ value.text ++ "`"
  | .string value => "string " ++ Text.quote value
  | .array _ => "sequence"
  | .object _ => "map"

inductive ArgumentFault
  | invalidType (found : Json) (expected : String)
  | missingField (field : String)
  | tooShort (length : Nat)
  | tooLong (length : Nat)
  deriving Repr

def ArgumentFault.message : ArgumentFault → String
  | .invalidType found expected => "invalid type: " ++ found.typeText ++ ", expected " ++ expected
  | .missingField field => "missing field `" ++ field ++ "`"
  | .tooShort length =>
    s!"invalid length {length}, expected struct ArgumentSpec with 2 elements"
  | .tooLong length => s!"invalid length {length}, expected fewer elements in array"

inductive TriggerFault
  | missingArguments
  | invalidArguments (fault : ArgumentFault)
  | noArguments
  deriving Repr

def TriggerFault.message : TriggerFault → String
  | .missingArguments => "missing 'arguments'"
  | .invalidArguments fault => "invalid 'arguments': " ++ fault.message
  | .noArguments => "'arguments' must list at least one argument"

inductive StateReference
  | parent
  | child
  | reactionTrigger
  | transitionTarget
  | transitionTrigger
  deriving DecidableEq, Repr

def StateReference.text : StateReference → String
  | .parent => "parent"
  | .child => "child"
  | .reactionTrigger => "reaction trigger"
  | .transitionTarget => "transition target"
  | .transitionTrigger => "transition trigger"

inductive StateFault
  | missingTransitions
  | transitionMissing (field : String)
  | foreignTransition (source : String)
  | notNames (field : String)
  | unknown (reference : StateReference) (name : String)
  deriving DecidableEq, Repr

def StateFault.message : StateFault → String
  | .missingTransitions => "missing 'transitions' list"
  | .transitionMissing field => "transition missing '" ++ field ++ "'"
  | .foreignTransition source => "owns a transition from '" ++ source ++ "'"
  | .notNames field => "'" ++ field ++ "' must be a list of names"
  | .unknown reference name => "unknown " ++ reference.text ++ " '" ++ name ++ "'"

inductive BundleError
  | missingField (field : String)
  | wrongKind (kind : String)
  | namelessConstruct
  | undeclaredRoot (name : String)
  | trigger (name : String) (fault : TriggerFault)
  | state (name : String) (fault : StateFault)
  deriving Repr

namespace BundleError

/-- The reason why a bundle as a whole is invalid. -/
def detail : BundleError → String
  | .missingField field => "missing '" ++ field ++ "'"
  | .wrongKind kind => "expected kind 'Statechart', got '" ++ kind ++ "'"
  | .namelessConstruct => "missing 'name' field"
  | .undeclaredRoot name => "root '" ++ name ++ "' is not a declared state"
  | .trigger _ fault => fault.message
  | .state _ fault => fault.message

def message : BundleError → String
  | .missingField field => "bundle missing required field: '" ++ field ++ "'"
  | .trigger name fault => "Trigger '" ++ name ++ "': " ++ fault.message
  | .state name fault => "State '" ++ name ++ "': " ++ fault.message
  | error => "invalid bundle: " ++ error.detail

end BundleError

end Statecharts
