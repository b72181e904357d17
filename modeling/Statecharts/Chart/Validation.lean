import Statecharts.Chart.Basic

/-!
# Validation

Entering a chart, or a composite state, enters one of its members by default.  So the roots, and the
children of every composite state, must have exactly one initial member.  The groups are checked
from the roots downwards, a state's whole subtree before its next sibling, and the first group that
fails decides the error.
-/

namespace Statecharts

inductive Scope
  | roots
  | childrenOf (parent : String)
  deriving DecidableEq, Repr

def Scope.text : Scope → String
  | .roots => "root states"
  | .childrenOf parent => "children of state " ++ Text.quote parent

inductive ValidationError
  | noRoots
  | noInitial (scope : Scope)
  | duplicateInitial (scope : Scope) (first second : String)
  deriving DecidableEq, Repr

def ValidationError.message : ValidationError → String
  | .noRoots => "no root states found"
  | .noInitial scope => scope.text ++ ": no initial state found"
  | .duplicateInitial scope first second =>
    scope.text ++ ": state marked as initial when an initial state already exists (" ++
      Text.quote second ++ " after " ++ Text.quote first ++ ")"

namespace Chart

def checkSingleInitial (states : List State) (scope : Scope) (group : List StateId) :
    Except ValidationError Unit :=
  match (group.filterMap (states[·]?)).filter State.initial with
  | [] => .error (.noInitial scope)
  | [_] => .ok ()
  | first :: second :: _ => .error (.duplicateInitial scope first.name second.name)

/-- Checks a group and the groups below it, `levels` levels deep. -/
def validateGroup (states : List State) :
    (levels : Nat) → Scope → List StateId → Except ValidationError Unit
  | 0, _, _ => .ok ()
  | levels + 1, scope, group => do
    checkSingleInitial states scope group
    group.forM fun id =>
      match states[id]? with
      | some state =>
        if state.isComposite then
          validateGroup states levels (.childrenOf state.name) state.children
        else .ok ()
      | none => .ok ()

/-- A hierarchy without cycles has no more levels than states. -/
def validate (chart : Chart) : Except ValidationError Unit :=
  if chart.roots.isEmpty then .error .noRoots
  else validateGroup chart.states chart.states.length .roots chart.roots

end Chart

end Statecharts
