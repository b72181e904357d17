import Statecharts.Chart.Basic

/-!
# Bundles

A bundle is a chart for exchange: states and triggers stand in declaration order, and every link is
written as the name of what it links to.  Lookups find the first declaration of a name.
-/

namespace Statecharts

/-- The version of the bundle layout. -/
def bundleVersion : String := "1.0"

structure BundleTransition where
  source : String
  target : String
  trigger : Option String
  deriving DecidableEq, Repr

structure BundleState where
  name : String
  parent : Option String
  initial : Bool
  children : List String
  defaultEnter : Bool
  enterReactions : List String
  defaultExit : Bool
  exitReactions : List String
  transitions : List BundleTransition
  deriving DecidableEq, Repr

def BundleState.isComposite (state : BundleState) : Bool :=
  !state.children.isEmpty

structure Bundle where
  name : String
  version : String
  roots : List String
  triggers : List Trigger
  states : List BundleState
  deriving DecidableEq, Repr

namespace Bundle

def state? (bundle : Bundle) (name : String) : Option BundleState :=
  bundle.states.find? (·.name = name)

def trigger? (bundle : Bundle) (name : String) : Option Trigger :=
  bundle.triggers.find? (·.name = name)

def rootStates (bundle : Bundle) : List BundleState :=
  bundle.roots.filterMap bundle.state?

def initialRoot? (bundle : Bundle) : Option BundleState :=
  bundle.rootStates.find? BundleState.initial

def initialChild? (bundle : Bundle) (name : String) : Option BundleState :=
  (bundle.state? name).bind fun state =>
    (state.children.filterMap bundle.state?).find? BundleState.initial

def transitions (bundle : Bundle) : List BundleTransition :=
  bundle.states.flatMap BundleState.transitions

end Bundle

namespace Chart

def bundleTransition (chart : Chart) (transition : Transition) : BundleTransition where
  source := stateName chart.states transition.source
  target := stateName chart.states transition.target
  trigger := transition.trigger.map (triggerName chart.triggers)

def bundleState (chart : Chart) (state : State) : BundleState where
  name := state.name
  parent := state.parent.map (stateName chart.states)
  initial := state.initial
  children := state.children.map (stateName chart.states)
  defaultEnter := state.defaultEnter
  enterReactions := state.enterReactions.map (triggerName chart.triggers)
  defaultExit := state.defaultExit
  exitReactions := state.exitReactions.map (triggerName chart.triggers)
  transitions := state.transitions.map chart.bundleTransition

/-- The chart with every link replaced by the present name of what it links to. -/
def bundle (chart : Chart) : Bundle where
  name := chart.name
  version := bundleVersion
  roots := chart.roots.map (stateName chart.states)
  triggers := chart.triggers
  states := chart.states.map chart.bundleState

end Chart

end Statecharts
