import Statecharts.Chart.Basic
import Statecharts.Records.Basic
import Statecharts.Resolution.Error
import Statecharts.Signature.Parse

/-!
# Building a chart

Triggers are resolved first, then states, then transitions.  The result is a whole chart or the
first error; nothing of a chart that failed is left.

States are resolved in three sweeps over their records: every state is declared, then each one is
linked to its parent, then its reactions are looked up.  A child may therefore be declared before or
after its parent.  The links made so far always form a forest, so walking up from a parent ends at a
root unless it meets the child that is being linked; that is how a cycle is found, at the record
that would close it.
-/

namespace Statecharts

/-- The triggers of a chart in declaration order, with the names under which they are found. -/
structure TriggerTable where
  triggers : List Trigger := []
  names : List String := []
  deriving DecidableEq, Repr

namespace TriggerTable

def triggerId? (table : TriggerTable) (name : String) : Option TriggerId :=
  table.names.idxOf? name

def declare (table : TriggerTable) (record : TriggerRecord) :
    Except ResolutionError TriggerTable :=
  if record.name ∈ table.names then .error (.duplicateTrigger record.name)
  else
    match Signature.parse record.arguments with
    | .error cause => .error (.triggerSignature record.name cause)
    | .ok arguments =>
      .ok ⟨table.triggers ++ [⟨record.name, arguments⟩], table.names ++ [record.name]⟩

def ofRecords (records : List TriggerRecord) : Except ResolutionError TriggerTable :=
  records.foldlM declare {}

end TriggerTable

structure StateTable where
  states : List State := []
  roots : List StateId := []
  names : List String := []
  deriving DecidableEq, Repr

namespace StateTable

def stateId? (table : StateTable) (name : String) : Option StateId :=
  table.names.idxOf? name

def declare (table : StateTable) (record : StateRecord) : Except ResolutionError StateTable :=
  if record.name ∈ table.names then .error (.duplicateState record.name)
  else
    .ok { table with
      states := table.states ++ [{ name := record.name, initial := record.initial }]
      names := table.names ++ [record.name] }

/-- The names met on the way from a child through its parent up to the child again. -/
def cyclePath (table : StateTable) (child parent : StateId) : List String :=
  (child :: (lineage table.states parent).takeWhile (· ≠ child) ++ [child]).map
    (stateName table.states)

def attach (table : StateTable) (child parent : StateId) : StateTable :=
  { table with
    states :=
      (table.states.modify parent fun state =>
        { state with children := state.children ++ [child] }).modify child fun state =>
          { state with parent := some parent } }

def link (table : StateTable) (id : StateId) (record : StateRecord) :
    Except ResolutionError StateTable :=
  if record.parent = "" then .ok { table with roots := table.roots ++ [id] }
  else
    match table.stateId? record.parent with
    | none => .error (.unexistentParent record.name record.parent)
    | some parent =>
      if table.states[parent]?.elim false (·.isParentOf id) then
        .error (.alreadyChild record.parent record.name)
      else if id ∈ lineage table.states parent then
        .error (.parentCycle (stateName table.states id) (table.cyclePath id parent))
      else .ok (table.attach id parent)

/-- Links the states of the given records, the first of which has the given id. -/
def linkFrom (table : StateTable) (id : StateId) :
    List StateRecord → Except ResolutionError StateTable
  | [] => .ok table
  | record :: rest => do
    let linked ← table.link id record
    linked.linkFrom (id + 1) rest

def reactionIds (triggers : TriggerTable) (state : String) (kind : ReactionKind)
    (reaction : ReactionRecord) : Except ResolutionError (List TriggerId) :=
  reaction.triggers.mapM fun trigger =>
    match triggers.triggerId? trigger with
    | some id => .ok id
    | none => .error (.unknownReactionTrigger state kind trigger)

def react (triggers : TriggerTable) (table : StateTable) (id : StateId) (record : StateRecord) :
    Except ResolutionError StateTable := do
  let enter ← reactionIds triggers record.name .enter record.enter
  let exit ← reactionIds triggers record.name .exit record.exit
  return { table with
    states := table.states.modify id fun state =>
      { state with
        defaultEnter := record.enter.default
        enterReactions := enter
        defaultExit := record.exit.default
        exitReactions := exit } }

/-- Sets the reactions of the given records, the first of which has the given id. -/
def reactFrom (triggers : TriggerTable) (table : StateTable) (id : StateId) :
    List StateRecord → Except ResolutionError StateTable
  | [] => .ok table
  | record :: rest => do
    let reacting ← table.react triggers id record
    reacting.reactFrom triggers (id + 1) rest

def ofRecords (triggers : TriggerTable) (records : List StateRecord) :
    Except ResolutionError StateTable := do
  let declared ← records.foldlM declare {}
  let linked ← declared.linkFrom 0 records
  linked.reactFrom triggers 0 records

/-- The transition of a record; its source is looked up before its target and its trigger. -/
def transition (triggers : TriggerTable) (table : StateTable) (record : TransitionRecord) :
    Except ResolutionError Transition :=
  match table.stateId? record.source with
  | none => .error (.unknownSourceState record.text record.source)
  | some source =>
    match table.stateId? record.target with
    | none => .error (.unknownTargetState record.text record.target)
    | some target =>
      if record.trigger = "" then .ok ⟨source, target, none⟩
      else
        match triggers.triggerId? record.trigger with
        | none => .error (.unknownTrigger record.text record.trigger)
        | some trigger => .ok ⟨source, target, some trigger⟩

def addTransition (table : StateTable) (transition : Transition) : StateTable :=
  { table with
    states := table.states.modify transition.source fun state =>
      { state with transitions := state.transitions ++ [transition] } }

/-- Adds the transitions of the records in order, up to the first record that does not resolve;
what was added before it stays. -/
def addTransitions (triggers : TriggerTable) (table : StateTable) :
    List TransitionRecord → StateTable × Except ResolutionError Unit
  | [] => (table, .ok ())
  | record :: rest =>
    match table.transition triggers record with
    | .error error => (table, .error error)
    | .ok transition => (table.addTransition transition).addTransitions triggers rest

end StateTable

namespace Chart

def build (records : ChartRecords) : Except ResolutionError Chart := do
  let triggers ← TriggerTable.ofRecords records.triggers
  let states ← StateTable.ofRecords triggers records.states
  let (table, result) := states.addTransitions triggers records.transitions
  result
  return {
    name := records.name
    triggers := triggers.triggers
    states := table.states
    roots := table.roots
    triggerNames := triggers.names
    stateNames := table.names }

end Chart

end Statecharts
