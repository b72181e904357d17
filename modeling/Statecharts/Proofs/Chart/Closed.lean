import Statecharts.Chart.Edit
import Statecharts.Proofs.Resolution.Resolved
import Statecharts.Proofs.Signature.Grammar

/-!
# Closed charts

A chart is closed when every link in it leads to one of its own states or
triggers, and every transition stands at its source.  A chart that was built
is closed.  An edit keeps all links, and the number of states, so whatever is
made from it by edits is closed as well.
-/

namespace Statecharts

structure Transition.Closed (states triggers : Nat) (source : StateId)
    (transition : Transition) : Prop where
  source : transition.source = source
  target : transition.target < states
  trigger : ∀ id, transition.trigger = some id → id < triggers

structure State.Closed (states triggers : Nat) (id : StateId) (state : State) :
    Prop where
  parent : ∀ parent, state.parent = some parent → parent < states
  children : ∀ child ∈ state.children, child < states
  enterReactions : ∀ trigger ∈ state.enterReactions, trigger < triggers
  exitReactions : ∀ trigger ∈ state.exitReactions, trigger < triggers
  transitions : ∀ transition ∈ state.transitions,
    transition.Closed states triggers id

theorem State.Closed.relabel {states triggers : Nat} {id : StateId}
    {state : State} (hstate : state.Closed states triggers id) (name : String)
    (initial : Bool) :
    State.Closed states triggers id { state with name, initial } where
  parent := hstate.parent
  children := hstate.children
  enterReactions := hstate.enterReactions
  exitReactions := hstate.exitReactions
  transitions := hstate.transitions

structure Chart.Closed (chart : Chart) : Prop where
  roots : ∀ root ∈ chart.roots, root < chart.states.length
  states : ∀ (id : StateId) (state : State), chart.states[id]? = some state →
    state.Closed chart.states.length chart.triggers.length id

/-! ## Built charts -/

theorem TransitionRecord.Resolves.closed {states triggers : List String}
    {record : TransitionRecord} {transition : Transition}
    (hrecord : record.Resolves states triggers transition) :
    transition.Closed states.length triggers.length transition.source where
  source := rfl
  target := (List.getElem?_eq_some_iff.mp hrecord.target).1
  trigger := fun id hid =>
    (List.getElem?_eq_some_iff.mp (hrecord.trigger id hid)).1

theorem StateRecord.Resolves.closed {records : ChartRecords} {id : StateId}
    {record : StateRecord} {state : State}
    (hstates : (StateRecord.names records.states).Nodup)
    (hrecord : records.states[id]? = some record)
    (hstate : record.Resolves records id state) :
    state.Closed records.states.length records.triggers.length id := by
  constructor
  case parent =>
    intro parent hparent
    exact (DeclaredParent.lt ((hstate.parent_iff parent).mp hparent)).2
  case children =>
    intro child hchild
    exact (DeclaredParent.lt ((hstate.children.mem_iff child).mp hchild)).1
  case enterReactions =>
    simpa using hstate.enterReactions.lt
  case exitReactions =>
    simpa using hstate.exitReactions.lt
  case transitions =>
    intro transition htransition
    obtain ⟨other, hother, hresolves⟩ :=
      exists_mem_left_of_forall₂ hstate.transitions htransition
    have hname : other.source = record.name := by
      simpa using List.of_mem_filter hother
    have hid : (StateRecord.names records.states)[id]? = some record.name := by
      simp [hrecord]
    have hsource : transition.source = id :=
      getElem?_eq_some_inj hstates (hname ▸ hresolves.source) hid
    have hclosed := hresolves.closed
    rwa [hsource, List.length_map, List.length_map] at hclosed

theorem ChartRecords.ResolvesTo.closed {records : ChartRecords} {chart : Chart}
    (hstates : (StateRecord.names records.states).Nodup)
    (hchart : records.ResolvesTo chart) : chart.Closed := by
  constructor
  case roots =>
    intro root hroot
    obtain ⟨record, hrecord, -⟩ := (hchart.roots.mem_iff root).mp hroot
    rw [hchart.length]
    exact (List.getElem?_eq_some_iff.mp hrecord).1
  case states =>
    intro id state hstate
    obtain ⟨record, hrecord, hresolves⟩ := hchart.getElem?_record hstate
    rw [hchart.length, ← hchart.triggers.length_eq]
    exact hresolves.closed hstates hrecord

namespace Chart

variable {records : ChartRecords} {chart : Chart}

theorem closed_of_build (hbuild : build records = .ok chart) :
    chart.Closed := by
  obtain ⟨triggers, states, hbuilt⟩ := exists_builtFrom hbuild
  exact hbuilt.resolvesTo.closed hbuilt.stateNames_nodup

theorem arguments_ne_nil_of_build (hbuild : build records = .ok chart) :
    ∀ trigger ∈ chart.triggers, trigger.arguments ≠ [] := by
  intro trigger htrigger
  obtain ⟨record, -, hdeclares⟩ :=
    exists_mem_left_of_forall₂ (resolvesTo_of_build hbuild).triggers htrigger
  exact Signature.parse_ne_nil hdeclares.arguments

/-! ## Edited charts -/

theorem Closed.modify (hclosed : chart.Closed) (place : StateId)
    {f : State → State}
    (hf : ∀ id state, state.Closed chart.states.length chart.triggers.length id →
      (f state).Closed chart.states.length chart.triggers.length id) :
    Closed { chart with states := chart.states.modify place f } := by
  constructor
  case roots => simpa using hclosed.roots
  case states =>
    intro id state hstate
    rw [List.length_modify]
    rw [List.getElem?_modify] at hstate
    obtain ⟨other, hother, hmodified⟩ := Option.map_eq_some_iff.mp hstate
    have hkept := hclosed.states id other hother
    by_cases hplace : place = id
    · rw [if_pos hplace] at hmodified
      rw [← hmodified]
      exact hf id other hkept
    · rw [if_neg hplace] at hmodified
      rwa [← hmodified]

theorem Closed.edit (hclosed : chart.Closed) (change : Edit) :
    (chart.edit change).Closed := by
  cases change with
  | setInitial place value =>
      apply hclosed.modify place
      intro id state hstate
      exact hstate.relabel state.name value
  | rename place name =>
      apply hclosed.modify place
      intro id state hstate
      exact hstate.relabel name state.initial
  | dropRoot place =>
      refine ⟨fun root hroot => ?_, hclosed.states⟩
      exact hclosed.roots root (List.mem_of_mem_filter hroot)

theorem Closed.editAll (hclosed : chart.Closed) (edits : List Edit) :
    (chart.editAll edits).Closed := by
  unfold Chart.editAll
  induction edits generalizing chart with
  | nil => exact hclosed
  | cons change edits ih => exact ih (hclosed.edit change)

theorem triggers_edit (chart : Chart) (change : Edit) :
    (chart.edit change).triggers = chart.triggers := by
  cases change <;> rfl

theorem triggers_editAll (chart : Chart) (edits : List Edit) :
    (chart.editAll edits).triggers = chart.triggers := by
  unfold Chart.editAll
  induction edits generalizing chart with
  | nil => rfl
  | cons change edits ih =>
      rw [List.foldl_cons, ih, triggers_edit]

end Chart

end Statecharts
