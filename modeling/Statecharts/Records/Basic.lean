/-!
# Records

What a chart is made from: flat lists of records that refer to one another by name only.  The place
of a record in its list is its declaration index.  An empty parent makes a state a root, and an
empty trigger makes a transition a null transition.
-/

namespace Statecharts

structure TriggerRecord where
  name : String
  arguments : String := ""
  deriving DecidableEq, Repr

structure ReactionRecord where
  default : Bool := false
  triggers : List String := []
  deriving DecidableEq, Repr

structure StateRecord where
  name : String
  parent : String := ""
  initial : Bool := false
  enter : ReactionRecord := {}
  exit : ReactionRecord := {}
  deriving DecidableEq, Repr

structure TransitionRecord where
  source : String
  target : String
  trigger : String := ""
  deriving DecidableEq, Repr

structure ChartRecords where
  name : String
  triggers : List TriggerRecord := []
  states : List StateRecord := []
  transitions : List TransitionRecord := []
  deriving DecidableEq, Repr

def TransitionRecord.text (record : TransitionRecord) : String :=
  "transition " ++ record.trigger ++ ": " ++ record.source ++ " > " ++ record.target

namespace StateRecord

def root (name : String) : StateRecord :=
  { name }

def child (name parent : String) : StateRecord :=
  { name, parent }

def markInitial (record : StateRecord) : StateRecord :=
  { record with initial := true }

def onEnter (record : StateRecord) (default : Bool) (triggers : List String) : StateRecord :=
  { record with enter := { default, triggers } }

def onExit (record : StateRecord) (default : Bool) (triggers : List String) : StateRecord :=
  { record with exit := { default, triggers } }

end StateRecord

end Statecharts
