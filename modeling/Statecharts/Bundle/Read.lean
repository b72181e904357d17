import Statecharts.Bundle.Basic
import Statecharts.Bundle.Error

/-!
# Reading bundles

A bundle is read field by field, triggers before states and both in order; flags and the version
may be absent.  Then every name that a construct refers to must be declared.  The first fault ends
the reading.
-/

namespace Statecharts

namespace Json

def stringField? (key : String) (json : Json) : Option String :=
  (json.get? key).bind asString?

def arrayField? (key : String) (json : Json) : Option (List Json) :=
  (json.get? key).bind asArray?

/-- An absent flag, and a flag that is no Boolean, is off. -/
def flag (key : String) (json : Json) : Bool :=
  ((json.get? key).bind asBool?).getD false

/-- A list of strings; one item of another type spoils the whole list. -/
def namesField? (key : String) (json : Json) : Option (List String) :=
  (json.arrayField? key).bind fun items => items.mapM asString?

def requireString (json : Json) : Except ArgumentFault String :=
  json.asString?.elim (.error (.invalidType json "a string")) .ok

end Json

namespace Argument

/-- An argument listed as its type and its name. -/
def ofItems : List Json → Except ArgumentFault Argument
  | [] => .error (.tooShort 0)
  | [type] => do
    discard type.requireString
    throw (.tooShort 1)
  | type :: name :: more => do
    let type ← type.requireString
    let name ← name.requireString
    if more.isEmpty then return ⟨type, name⟩ else throw (.tooLong (more.length + 2))

/-- The fields are met in ascending order, so a wrong name is found before a wrong type; of two
missing fields the type is reported. -/
def ofObject (json : Json) : Except ArgumentFault Argument := do
  let name? ← (json.get? "name").mapM Json.requireString
  let type? ← (json.get? "type").mapM Json.requireString
  match type?, name? with
  | some type, some name => return ⟨type, name⟩
  | none, _ => throw (.missingField "type")
  | _, none => throw (.missingField "name")

def ofJson : Json → Except ArgumentFault Argument
  | .array items => ofItems items
  | .object fields => ofObject (.object fields)
  | other => .error (.invalidType other "struct ArgumentSpec")

def listOfJson : Json → Except ArgumentFault (List Argument)
  | .array items => items.mapM ofJson
  | other => .error (.invalidType other "a sequence")

end Argument

namespace Trigger

def ofJson (json : Json) : Except BundleError Trigger :=
  match json.stringField? "name" with
  | none => .error .namelessConstruct
  | some name =>
    match json.get? "arguments" with
    | none => .error (.trigger name .missingArguments)
    | some list =>
      match Argument.listOfJson list with
      | .error fault => .error (.trigger name (.invalidArguments fault))
      | .ok [] => .error (.trigger name .noArguments)
      | .ok arguments => .ok ⟨name, arguments⟩

end Trigger

namespace BundleTransition

def requireName (owner field : String) (json : Json) : Except BundleError String :=
  (json.stringField? field).elim (.error (.state owner (.transitionMissing field))) .ok

/-- A state lists only transitions that leave it. -/
def ofJson (owner : String) (json : Json) : Except BundleError BundleTransition := do
  let source ← requireName owner "from" json
  let target ← requireName owner "to" json
  if source ≠ owner then
    throw (.state owner (.foreignTransition source))
  return ⟨source, target, json.stringField? "trigger"⟩

end BundleTransition

namespace BundleState

def requireNames (owner field : String) (json : Json) : Except BundleError (List String) :=
  (json.namesField? field).elim (.error (.state owner (.notNames field))) .ok

def ofJson (json : Json) : Except BundleError BundleState := do
  match json.stringField? "name" with
  | none => throw .namelessConstruct
  | some name =>
    match json.arrayField? "transitions" with
    | none => throw (.state name .missingTransitions)
    | some items =>
      let transitions ← items.mapM (BundleTransition.ofJson name)
      let children ← requireNames name "children" json
      let enterReactions ← requireNames name "enter_reactions" json
      let exitReactions ← requireNames name "exit_reactions" json
      return {
        name
        parent := json.stringField? "parent"
        initial := json.flag "initial"
        children
        defaultEnter := json.flag "default_enter"
        enterReactions
        defaultExit := json.flag "default_exit"
        exitReactions
        transitions }

end BundleState

namespace Bundle

/-- The first name of a list that is not declared is an error of the state. -/
def checkNames (declared : List String) (owner : String) (reference : StateReference)
    (names : List String) : Except BundleError Unit :=
  match names.find? (!declared.contains ·) with
  | some name => .error (.state owner (.unknown reference name))
  | none => .ok ()

def checkTransition (states triggers : List String) (owner : String)
    (transition : BundleTransition) : Except BundleError Unit := do
  checkNames states owner .transitionTarget [transition.target]
  checkNames triggers owner .transitionTrigger transition.trigger.toList

def checkState (states triggers : List String) (state : BundleState) :
    Except BundleError Unit := do
  checkNames states state.name .parent state.parent.toList
  checkNames states state.name .child state.children
  checkNames triggers state.name .reactionTrigger (state.enterReactions ++ state.exitReactions)
  state.transitions.forM (checkTransition states triggers state.name)

def checkReferences (bundle : Bundle) : Except BundleError Unit := do
  let states := bundle.states.map BundleState.name
  let triggers := bundle.triggers.map Trigger.name
  match bundle.roots.find? (!states.contains ·) with
  | some root => throw (.undeclaredRoot root)
  | none => bundle.states.forM (checkState states triggers)

def requireField {α : Type} (field : String) (value? : Option α) : Except BundleError α :=
  value?.elim (.error (.missingField field)) .ok

def ofJson (json : Json) : Except BundleError Bundle := do
  let kind ← requireField "kind" (json.stringField? "kind")
  if kind ≠ "Statechart" then
    throw (.wrongKind kind)
  let name ← requireField "name" (json.stringField? "name")
  let roots ← requireField "roots" (json.namesField? "roots")
  let triggerItems ← requireField "triggers" (json.arrayField? "triggers")
  let triggers ← triggerItems.mapM Trigger.ofJson
  let stateItems ← requireField "states" (json.arrayField? "states")
  let states ← stateItems.mapM BundleState.ofJson
  let bundle : Bundle :=
    { name, version := (json.stringField? "chartc_version").getD "", roots, triggers, states }
  bundle.checkReferences
  return bundle

end Bundle

end Statecharts
