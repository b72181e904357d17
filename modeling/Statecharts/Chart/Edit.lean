import Statecharts.Chart.Basic

/-!
# Edits

A chart can be edited after it was built.  An edit changes flags, shown names or the list of roots;
it never changes the hierarchy, nor the names under which states are found.
-/

namespace Statecharts

inductive Edit
  | setInitial (id : StateId) (value : Bool)
  | rename (id : StateId) (name : String)
  | dropRoot (id : StateId)
  deriving DecidableEq, Repr

namespace Chart

def edit (chart : Chart) : Edit → Chart
  | .setInitial id value =>
    { chart with states := chart.states.modify id fun state => { state with initial := value } }
  | .rename id name =>
    { chart with states := chart.states.modify id fun state => { state with name } }
  | .dropRoot id => { chart with roots := chart.roots.filter (· ≠ id) }

def editAll (chart : Chart) (edits : List Edit) : Chart :=
  edits.foldl edit chart

end Chart

end Statecharts
