import Statecharts.Signature.Argument

/-!
# Resolution errors

Resolving stops at the first fault.  Each cause names the record that shows it; its message begins
with the part of the work in which it was found.
-/

namespace Statecharts

inductive ReactionKind
  | enter
  | exit
  deriving DecidableEq, Repr

def ReactionKind.text : ReactionKind → String
  | .enter => "enter"
  | .exit => "exit"

inductive ResolutionError
  | duplicateTrigger (name : String)
  | triggerSignature (trigger : String) (cause : SignatureError)
  | duplicateState (name : String)
  | unexistentParent (state parent : String)
  | alreadyChild (parent child : String)
  | parentCycle (state : String) (path : List String)
  | unknownReactionTrigger (state : String) (kind : ReactionKind) (trigger : String)
  | unknownSourceState (transition state : String)
  | unknownTargetState (transition state : String)
  | unknownTrigger (transition trigger : String)
  deriving DecidableEq, Repr

namespace ResolutionError

def collectingTransition (transition : String) : String :=
  "collecting transitions: creating transition " ++ Text.quote transition ++ ": "

def message : ResolutionError → String
  | .duplicateTrigger name =>
    "collecting triggers: trigger " ++ Text.quote name ++ " defined twice"
  | .triggerSignature trigger cause =>
    "collecting triggers: parsing arguments for trigger " ++ Text.quote trigger ++ ": " ++
      cause.message
  | .duplicateState name => "collecting states: state " ++ Text.quote name ++ " already exists"
  | .unexistentParent state parent =>
    "collecting states: state " ++ Text.quote state ++ " has unexistent parent state " ++
      Text.quote parent
  | .alreadyChild parent child =>
    "collecting states: state " ++ Text.quote parent ++ " already has state " ++
      Text.quote child ++ " as child"
  | .parentCycle _ path =>
    "collecting states: state hierarchy cycle detected: " ++ " → ".intercalate path
  | .unknownReactionTrigger state kind trigger =>
    "collecting states: state " ++ Text.quote state ++ ": collecting " ++ kind.text ++
      " reactions: cannot find trigger " ++ Text.quote trigger
  | .unknownSourceState transition state =>
    collectingTransition transition ++ "cannot find from state " ++ Text.quote state
  | .unknownTargetState transition state =>
    collectingTransition transition ++ "cannot find to state " ++ Text.quote state
  | .unknownTrigger transition trigger =>
    collectingTransition transition ++ "cannot find trigger " ++ Text.quote trigger

end ResolutionError

end Statecharts
