import Statecharts.Proofs.Bundle.Projection

/-!
# The bundle of records

A bundle names states and triggers as the records do, so the bundle of a chart
that was built can be read off its records without any resolution: parents and
reactions stand in them, children are the states that name a parent, in the
order of the records, and transitions are listed at their sources.
-/

namespace Statecharts

/-! ## Bundles without places -/

/-- Where nothing is linked, the empty text stands. -/
def linkedName (text : String) : Option String :=
  if text = "" then none else some text

@[simp] theorem getD_linkedName (text : String) :
    (linkedName text).getD "" = text := by
  unfold linkedName
  split <;> simp_all

def TransitionRecord.bundled (record : TransitionRecord) : BundleTransition where
  source := record.source
  target := record.target
  trigger := linkedName record.trigger

def StateRecord.bundled (records : ChartRecords) (record : StateRecord) :
    BundleState where
  name := record.name
  parent := linkedName record.parent
  initial := record.initial
  children := StateRecord.names (records.states.filter fun child =>
    child.parent ≠ "" ∧ child.parent = record.name)
  defaultEnter := record.enter.default
  enterReactions := record.enter.triggers
  defaultExit := record.exit.default
  exitReactions := record.exit.triggers
  transitions := (records.transitions.filter (·.source = record.name)).map
    TransitionRecord.bundled

/-- The bundle that holds what the records say, by name. -/
structure ChartRecords.BundledAs (records : ChartRecords) (bundle : Bundle) :
    Prop where
  name : bundle.name = records.name
  version : bundle.version = bundleVersion
  roots : bundle.roots =
    StateRecord.names (records.states.filter (·.parent = ""))
  triggers : List.Forall₂ TriggerRecord.Declares records.triggers
    bundle.triggers
  states : bundle.states = records.states.map (StateRecord.bundled records)

/-! ## What is resolved is what is named -/

theorem optionRel_linkedName {names : List String} {text : String}
    {place : Option Nat} (hnone : place = none ↔ text = "")
    (hsome : ∀ id, place = some id → names[id]? = some text) :
    Option.Rel (fun id name => names[id]? = some name) place
      (linkedName text) := by
  unfold linkedName
  cases place with
  | none =>
      rw [if_pos (hnone.mp rfl)]
      exact .none
  | some id =>
      have hlinked : text ≠ "" := fun hempty => by
        simpa using hnone.mpr hempty
      rw [if_neg hlinked]
      exact .some (hsome id rfl)

theorem Enumerates.namesAt_filter {records : List StateRecord}
    {test : StateRecord → Bool} {ids : List StateId}
    (hids : Enumerates
      (fun id => ∃ record, records[id]? = some record ∧ test record = true)
      ids) :
    NamesAt (StateRecord.names records) ids
      (StateRecord.names (records.filter test)) := by
  -- The records that pass the test, each with its place.
  let placed := records.zipIdx.filter (test ∘ Prod.fst)
  have hplaces : Enumerates
      (fun id => ∃ record, records[id]? = some record ∧ test record = true)
      (placed.map Prod.snd) := by
    constructor
    · have hascending : (records.zipIdx.map Prod.snd).Pairwise (· < ·) := by
        rw [List.zipIdx_map_snd]
        exact List.pairwise_lt_range'
      exact hascending.sublist (List.filter_sublist.map _)
    · simp [placed, List.mem_zipIdx_iff_getElem?]
  have hrecords : records.filter test = placed.map Prod.fst := by
    rw [← List.filter_map, List.zipIdx_map_fst]
  rw [hids.unique hplaces, hrecords]
  unfold NamesAt StateRecord.names
  rw [List.map_map, List.forall₂_map_left_iff, List.forall₂_map_right_iff,
    List.forall₂_same]
  intro pair hmem
  have hrecord := (List.mem_filter.mp hmem).1
  rw [List.mem_zipIdx_iff_getElem?] at hrecord
  simp [hrecord]

theorem TransitionRecord.Resolves.projects_bundled
    {states triggers : List String} {record : TransitionRecord}
    {transition : Transition}
    (hrecord : record.Resolves states triggers transition) :
    transition.Projects states triggers record.bundled where
  source := hrecord.source
  target := hrecord.target
  trigger := optionRel_linkedName hrecord.null_iff hrecord.trigger

theorem StateRecord.Resolves.projects_bundled {records : ChartRecords}
    {id : StateId} {record : StateRecord} {state : State}
    (hrecord : records.states[id]? = some record)
    (hstate : record.Resolves records id state) :
    state.Projects (StateRecord.names records.states)
      (TriggerRecord.names records.triggers) (record.bundled records) where
  name := hstate.name.symm
  parent := by
    apply optionRel_linkedName hstate.root_iff
    intro parent hparent
    obtain ⟨other, hother, -, hname⟩ := (hstate.parent_iff parent).mp hparent
    rw [hrecord] at hother
    cases hother
    exact hname
  initial := hstate.initial.symm
  children := by
    apply Enumerates.namesAt_filter
    refine ⟨hstate.children.ascending, fun child => ?_⟩
    rw [hstate.children.mem_iff]
    have hname : (StateRecord.names records.states)[id]? = some record.name := by
      simp [hrecord]
    simp only [DeclaredParent, hname, decide_eq_true_eq, Option.some.injEq,
      @eq_comm _ record.name]
  defaultEnter := hstate.defaultEnter.symm
  enterReactions := hstate.enterReactions
  defaultExit := hstate.defaultExit.symm
  exitReactions := hstate.exitReactions
  transitions := by
    rw [bundled, List.forall₂_map_right_iff]
    exact hstate.transitions.flip.imp fun _ _ hresolves =>
      hresolves.projects_bundled

namespace ChartRecords

variable {records : ChartRecords} {chart : Chart}

theorem ResolvesTo.projects (hchart : records.ResolvesTo chart)
    {bundle : Bundle} (hbundle : records.BundledAs bundle)
    (hdeclared : bundle.triggers = chart.triggers) : chart.Projects bundle := by
  constructor
  case name => rw [hbundle.name, hchart.name]
  case version => exact hbundle.version
  case roots =>
    rw [hbundle.roots, hchart.map_name_states]
    apply Enumerates.namesAt_filter
    simpa using hchart.roots
  case triggers => exact hdeclared
  case states =>
    rw [hbundle.states, hchart.map_name_states, hchart.map_name_triggers,
      List.forall₂_map_right_iff, List.forall₂_iff_get]
    refine ⟨hchart.length, fun id hstate hrecord => ?_⟩
    have hrecord := List.getElem?_eq_getElem hrecord
    exact (hchart.states id _ _ hrecord
      (List.getElem?_eq_getElem hstate)).projects_bundled hrecord

/-- The bundle of a chart that was built holds what its records say. -/
theorem bundledAs_of_build (hbuild : Chart.build records = .ok chart) :
    records.BundledAs chart.bundle := by
  obtain ⟨triggers, states, hbuilt⟩ := Chart.exists_builtFrom hbuild
  have hchart := hbuilt.resolvesTo
  let named : Bundle :=
    { name := records.name
      version := bundleVersion
      roots := StateRecord.names (records.states.filter (·.parent = ""))
      triggers := chart.triggers
      states := records.states.map (StateRecord.bundled records) }
  have hnamed : records.BundledAs named := ⟨rfl, rfl, rfl, hchart.triggers, rfl⟩
  have hprojects := hchart.projects hnamed rfl
  rwa [hprojects.unique (Chart.closed_of_build hbuild).projects_bundle]
    at hnamed

end ChartRecords

end Statecharts
