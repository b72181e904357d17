import Statecharts.Proofs.Bundle.ReadBack
import Statecharts.Proofs.Chart.Closed

/-!
# Charts by name

The bundle of a chart is the chart with every link replaced by the present
name of what it leads to.  This is said here as a relation between the two,
which leaves no choice for the bundle.  A closed chart has such a bundle, it
is the one that is written, and it is read back unchanged; edits change the
names but not that.
-/

namespace Statecharts

structure Transition.Projects (states triggers : List String)
    (transition : Transition) (projected : BundleTransition) : Prop where
  source : states[transition.source]? = some projected.source
  target : states[transition.target]? = some projected.target
  trigger : Option.Rel (fun id name => triggers[id]? = some name)
    transition.trigger projected.trigger

structure State.Projects (states triggers : List String) (state : State)
    (projected : BundleState) : Prop where
  name : projected.name = state.name
  parent : Option.Rel (fun id name => states[id]? = some name) state.parent
    projected.parent
  initial : projected.initial = state.initial
  children : NamesAt states state.children projected.children
  defaultEnter : projected.defaultEnter = state.defaultEnter
  enterReactions : NamesAt triggers state.enterReactions
    projected.enterReactions
  defaultExit : projected.defaultExit = state.defaultExit
  exitReactions : NamesAt triggers state.exitReactions projected.exitReactions
  transitions : List.Forall₂ (Transition.Projects states triggers)
    state.transitions projected.transitions

/-- A bundle that has the present name of every link of a chart. -/
structure Chart.Projects (chart : Chart) (bundle : Bundle) : Prop where
  name : bundle.name = chart.name
  version : bundle.version = bundleVersion
  roots : NamesAt (chart.states.map State.name) chart.roots bundle.roots
  triggers : bundle.triggers = chart.triggers
  states : List.Forall₂
    (State.Projects (chart.states.map State.name)
      (chart.triggers.map Trigger.name))
    chart.states bundle.states

/-! ## The projection is unique -/

theorem optionRel_unique {names : List String} {id : Option Nat}
    {name name' : Option String}
    (hname : Option.Rel (fun id name => names[id]? = some name) id name)
    (hname' : Option.Rel (fun id name => names[id]? = some name) id name') :
    name = name' := by
  cases hname with
  | none =>
      cases hname'
      rfl
  | some hname =>
      cases hname' with
      | some hname' => exact hname.symm.trans hname'

theorem Transition.Projects.unique {states triggers : List String}
    {transition : Transition} {projected projected' : BundleTransition}
    (hleft : transition.Projects states triggers projected)
    (hright : transition.Projects states triggers projected') :
    projected = projected' := by
  have hsource := Option.some.inj (hleft.source.symm.trans hright.source)
  have htarget := Option.some.inj (hleft.target.symm.trans hright.target)
  have htrigger := optionRel_unique hleft.trigger hright.trigger
  cases projected
  cases projected'
  simp only [BundleTransition.mk.injEq]
  exact ⟨hsource, htarget, htrigger⟩

theorem State.Projects.unique {states triggers : List String} {state : State}
    {projected projected' : BundleState}
    (hleft : state.Projects states triggers projected)
    (hright : state.Projects states triggers projected') :
    projected = projected' := by
  have hname := hleft.name.trans hright.name.symm
  have hparent := optionRel_unique hleft.parent hright.parent
  have hinitial := hleft.initial.trans hright.initial.symm
  have hchildren := hleft.children.unique hright.children
  have hdefaultEnter := hleft.defaultEnter.trans hright.defaultEnter.symm
  have henter := hleft.enterReactions.unique hright.enterReactions
  have hdefaultExit := hleft.defaultExit.trans hright.defaultExit.symm
  have hexit := hleft.exitReactions.unique hright.exitReactions
  have htransitions : projected.transitions = projected'.transitions :=
    List.right_unique_forall₂' (fun _ _ _ hfirst hsecond => hfirst.unique hsecond)
      hleft.transitions hright.transitions
  cases projected
  cases projected'
  simp only [BundleState.mk.injEq]
  exact ⟨hname, hparent, hinitial, hchildren, hdefaultEnter, henter,
    hdefaultExit, hexit, htransitions⟩

theorem Chart.Projects.unique {chart : Chart} {bundle bundle' : Bundle}
    (hleft : chart.Projects bundle) (hright : chart.Projects bundle') :
    bundle = bundle' := by
  have hname := hleft.name.trans hright.name.symm
  have hversion := hleft.version.trans hright.version.symm
  have hroots := hleft.roots.unique hright.roots
  have htriggers := hleft.triggers.trans hright.triggers.symm
  have hstates : bundle.states = bundle'.states :=
    List.right_unique_forall₂' (fun _ _ _ hfirst hsecond => hfirst.unique hsecond)
      hleft.states hright.states
  cases bundle
  cases bundle'
  simp only [Bundle.mk.injEq]
  exact ⟨hname, hversion, hroots, htriggers, hstates⟩

/-! ## What is projected is declared -/

theorem optionRel_mem {names : List String} {id : Option Nat}
    {name : Option String}
    (hname : Option.Rel (fun id name => names[id]? = some name) id name) :
    ∀ found ∈ name.toList, found ∈ names := by
  intro found hfound
  cases hname with
  | none => simp at hfound
  | some hplace =>
      rw [Option.toList_some, List.mem_singleton] at hfound
      rw [hfound]
      exact List.mem_of_getElem? hplace

theorem State.Projects.references {states triggers : List String}
    {state : State} {projected : BundleState}
    (hstate : state.Projects states triggers projected) :
    projected.ReferencesDeclared states triggers := by
  constructor
  case parent => exact optionRel_mem hstate.parent
  case children => exact hstate.children.mem
  case reactions =>
    intro name hname
    rcases List.mem_append.mp hname with henter | hexit
    · exact hstate.enterReactions.mem name henter
    · exact hstate.exitReactions.mem name hexit
  case targets =>
    intro transition htransition
    obtain ⟨other, -, hprojects⟩ :=
      exists_mem_left_of_forall₂ hstate.transitions htransition
    exact List.mem_of_getElem? hprojects.target
  case triggers =>
    intro transition htransition
    obtain ⟨other, -, hprojects⟩ :=
      exists_mem_left_of_forall₂ hstate.transitions htransition
    exact optionRel_mem hprojects.trigger

/-! ## The bundle of a closed chart -/

theorem getElem?_map_elim {α : Type} {items : List α} {name : α → String}
    {place : Nat} (hplace : place < items.length) :
    (items.map name)[place]? = some (items[place]?.elim "" name) := by
  simp [hplace]

theorem optionRel_map {names : List String} {name : Nat → String}
    {place : Option Nat}
    (hplace : ∀ id, place = some id → names[id]? = some (name id)) :
    Option.Rel (fun id name => names[id]? = some name) place (place.map name) := by
  cases place with
  | none => exact .none
  | some id => exact .some (hplace id rfl)

namespace Chart

variable {chart : Chart}

theorem projects_bundleTransition {id : StateId} {transition : Transition}
    (hid : id < chart.states.length)
    (htransition : transition.Closed chart.states.length
      chart.triggers.length id) :
    transition.Projects (chart.states.map State.name)
      (chart.triggers.map Trigger.name) (chart.bundleTransition transition) where
  source := getElem?_map_elim (htransition.source ▸ hid)
  target := getElem?_map_elim htransition.target
  trigger := optionRel_map fun trigger htrigger =>
    getElem?_map_elim (htransition.trigger trigger htrigger)

theorem projects_bundleState {id : StateId} {state : State}
    (hid : id < chart.states.length)
    (hstate : state.Closed chart.states.length chart.triggers.length id) :
    state.Projects (chart.states.map State.name)
      (chart.triggers.map Trigger.name) (chart.bundleState state) where
  name := rfl
  parent := optionRel_map fun parent hparent =>
    getElem?_map_elim (hstate.parent parent hparent)
  initial := rfl
  children := namesAt_map fun child hchild =>
    getElem?_map_elim (hstate.children child hchild)
  defaultEnter := rfl
  enterReactions := namesAt_map fun trigger htrigger =>
    getElem?_map_elim (hstate.enterReactions trigger htrigger)
  defaultExit := rfl
  exitReactions := namesAt_map fun trigger htrigger =>
    getElem?_map_elim (hstate.exitReactions trigger htrigger)
  transitions := by
    rw [bundleState, List.forall₂_map_right_iff, List.forall₂_same]
    intro transition htransition
    exact projects_bundleTransition hid
      (hstate.transitions transition htransition)

theorem Closed.projects_bundle (hclosed : chart.Closed) :
    chart.Projects chart.bundle where
  name := rfl
  version := rfl
  roots := namesAt_map fun root hroot =>
    getElem?_map_elim (hclosed.roots root hroot)
  triggers := rfl
  states := by
    rw [bundle, List.forall₂_map_right_iff, List.forall₂_same]
    intro state hmem
    obtain ⟨id, hstate⟩ := List.getElem?_of_mem hmem
    exact projects_bundleState (List.getElem?_eq_some_iff.mp hstate).1
      (hclosed.states id state hstate)

theorem Closed.wellFormed_bundle (hclosed : chart.Closed)
    (harguments : ∀ trigger ∈ chart.triggers, trigger.arguments ≠ []) :
    chart.bundle.WellFormed := by
  have hnames : chart.bundle.states.map BundleState.name =
      chart.states.map State.name := by
    rw [bundle, List.map_map]
    rfl
  constructor
  case arguments => exact harguments
  case sources =>
    intro projected hprojected transition htransition
    obtain ⟨state, hmem, rfl⟩ := List.mem_map.mp hprojected
    obtain ⟨other, hother, rfl⟩ := List.mem_map.mp htransition
    obtain ⟨id, hstate⟩ := List.getElem?_of_mem hmem
    have hsource := ((hclosed.states id state hstate).transitions other hother).source
    simp [bundleTransition, bundleState, stateName, hsource, hstate]
  case references =>
    constructor
    case roots =>
      rw [hnames]
      exact hclosed.projects_bundle.roots.mem
    case states =>
      intro projected hprojected
      obtain ⟨state, hmem, rfl⟩ := List.mem_map.mp hprojected
      obtain ⟨id, hstate⟩ := List.getElem?_of_mem hmem
      rw [hnames]
      have hid := (List.getElem?_eq_some_iff.mp hstate).1
      exact (projects_bundleState hid (hclosed.states id state hstate)).references

theorem Closed.ofJson_toJson (hclosed : chart.Closed)
    (harguments : ∀ trigger ∈ chart.triggers, trigger.arguments ≠ []) :
    Bundle.ofJson chart.toJson = .ok chart.bundle :=
  Bundle.ofJson_toJson (hclosed.wellFormed_bundle harguments)

/-- A chart that was built is written so that reading gives the chart by its
present names and nothing else, whatever edits were made to it. -/
theorem edited_reads_back (records : ChartRecords) (chart : Chart)
    (hbuild : build records = .ok chart) (edits : List Edit) :
    ∃ bundle, Bundle.ofJson (chart.editAll edits).toJson = .ok bundle ∧
      ∀ other, (chart.editAll edits).Projects other ↔ other = bundle := by
  have hclosed := (closed_of_build hbuild).editAll edits
  have harguments : ∀ trigger ∈ (chart.editAll edits).triggers,
      trigger.arguments ≠ [] := by
    rw [triggers_editAll]
    exact arguments_ne_nil_of_build hbuild
  refine ⟨_, hclosed.ofJson_toJson harguments, fun other => ?_⟩
  constructor
  · intro hother
    exact hother.unique hclosed.projects_bundle
  · intro hother
    rw [hother]
    exact hclosed.projects_bundle

/-- Two states of one name, and a state that is no root any more though it has
no parent, are read back. -/
theorem renamed_state_reads_back :
    let records : ChartRecords :=
      { name := "Door"
        triggers := [⟨"go", "int n"⟩]
        states := [.child "B" "A", (StateRecord.root "A").onEnter true ["go"]]
        transitions := [⟨"B", "A", "go"⟩, ⟨"A", "B", ""⟩] }
    let edits := [Edit.rename 0 "A", .setInitial 0 true, .dropRoot 1]
    ∃ chart bundle, build records = .ok chart ∧
      Bundle.ofJson (chart.editAll edits).toJson = .ok bundle ∧
      bundle.roots = [] ∧
      bundle.states.map BundleState.name = ["A", "A"] ∧
      bundle.transitions = [⟨"A", "A", some "go"⟩, ⟨"A", "A", none⟩] ∧
      ∀ other, (chart.editAll edits).Projects other ↔ other = bundle := by
  intro records edits
  cases hbuild : build records with
  | error error => cases hbuild
  | ok chart =>
      obtain ⟨bundle, hread, hprojects⟩ :=
        edited_reads_back records chart hbuild edits
      refine ⟨chart, bundle, rfl, hread, ?_, ?_, ?_, hprojects⟩ <;>
        cases hbuild <;> cases hread <;> rfl

end Chart

end Statecharts
