import Statecharts.Signature.Argument

/-!
# Charts

A chart owns its states and triggers in declaration order, and every link between them is an index
into those two lists.  The names under which states and triggers were declared are kept beside them:
renaming a state changes what it is called in output, not the name under which it is found.
-/

namespace Statecharts

/-- The place of a state in the list of states. -/
abbrev StateId := Nat

/-- The place of a trigger in the list of triggers. -/
abbrev TriggerId := Nat

structure Trigger where
  name : String
  arguments : List Argument
  deriving DecidableEq, Repr

namespace Trigger

def argumentTexts (trigger : Trigger) : List String :=
  trigger.arguments.map Argument.text

def argumentNames (trigger : Trigger) : List String :=
  trigger.arguments.map Argument.name

end Trigger

structure Transition where
  source : StateId
  target : StateId
  trigger : Option TriggerId
  deriving DecidableEq, Repr

def Transition.isNull (transition : Transition) : Bool :=
  transition.trigger.isNone

structure State where
  name : String
  parent : Option StateId := none
  children : List StateId := []
  initial : Bool
  defaultEnter : Bool := false
  enterReactions : List TriggerId := []
  defaultExit : Bool := false
  exitReactions : List TriggerId := []
  transitions : List Transition := []
  deriving DecidableEq, Repr

namespace State

def isRoot (state : State) : Bool :=
  state.parent.isNone

def isComposite (state : State) : Bool :=
  !state.children.isEmpty

def isParentOf (state : State) (child : StateId) : Bool :=
  state.children.contains child

end State

/-- The parent of a state, as linked in a list of states. -/
def parentOf? (states : List State) (id : StateId) : Option StateId :=
  states[id]?.bind State.parent

/-- A state and its linked ancestors, nearest first, at most `bound` of them. -/
def lineageWithin (states : List State) : (bound : Nat) → StateId → List StateId
  | 0, _ => []
  | bound + 1, id => id :: (parentOf? states id).elim [] (lineageWithin states bound)

/-- In a hierarchy without cycles a lineage is no longer than the list of states. -/
def lineage (states : List State) (id : StateId) : List StateId :=
  lineageWithin states states.length id

/-- The name that messages and output use for a state. -/
def stateName (states : List State) (id : StateId) : String :=
  states[id]?.elim "" State.name

def triggerName (triggers : List Trigger) (id : TriggerId) : String :=
  triggers[id]?.elim "" Trigger.name

structure Chart where
  name : String
  triggers : List Trigger
  states : List State
  roots : List StateId
  triggerNames : List String
  stateNames : List String
  deriving DecidableEq, Repr

namespace Chart

def stateId? (chart : Chart) (name : String) : Option StateId :=
  chart.stateNames.idxOf? name

def triggerId? (chart : Chart) (name : String) : Option TriggerId :=
  chart.triggerNames.idxOf? name

def state? (chart : Chart) (name : String) : Option State :=
  (chart.stateId? name).bind fun id => chart.states[id]?

def trigger? (chart : Chart) (name : String) : Option Trigger :=
  (chart.triggerId? name).bind fun id => chart.triggers[id]?

/-- A root has no parent to name and answers `None`. -/
def parentName (chart : Chart) (id : StateId) : String :=
  (parentOf? chart.states id).elim "None" (stateName chart.states)

def isInitial (chart : Chart) (id : StateId) : Bool :=
  chart.states[id]?.elim false State.initial

def children (chart : Chart) (id : StateId) : List StateId :=
  chart.states[id]?.elim [] State.children

def initialChild? (chart : Chart) (id : StateId) : Option StateId :=
  (chart.children id).find? chart.isInitial

def initialRoot? (chart : Chart) : Option StateId :=
  chart.roots.find? chart.isInitial

def ancestors (chart : Chart) (id : StateId) : List StateId :=
  (parentOf? chart.states id).elim [] (lineage chart.states)

def depth (chart : Chart) (id : StateId) : Nat :=
  (chart.ancestors id).length

def isParentOf (chart : Chart) (parent child : StateId) : Bool :=
  chart.states[parent]?.elim false (·.isParentOf child)

def transitions (chart : Chart) : List Transition :=
  chart.states.flatMap State.transitions

end Chart

end Statecharts
