import Statecharts.Proofs.Bundle.ByName
import Statecharts.Proofs.Signature.RoundTrip

/-!
# Charts rebuilt from their bundles

The records of a bundle are what the bundle says, with signatures written out
of the arguments.  Those of the bundle of a chart that was built are its own
records, but for the spelling of the signatures and the order of transitions
that leave different states.  Neither shows in a chart, so the same chart is
built from them, and a chart is known by its bundle.
-/

namespace Statecharts

/-! ## The records of a bundle -/

def BundleTransition.record (transition : BundleTransition) :
    TransitionRecord where
  source := transition.source
  target := transition.target
  trigger := transition.trigger.getD ""

def BundleState.record (state : BundleState) : StateRecord where
  name := state.name
  parent := state.parent.getD ""
  initial := state.initial
  enter := ⟨state.defaultEnter, state.enterReactions⟩
  exit := ⟨state.defaultExit, state.exitReactions⟩

def Trigger.record (trigger : Trigger) : TriggerRecord where
  name := trigger.name
  arguments := Signature.render trigger.arguments

/-- Transitions are listed state by state, and links that are not there are
written as empty names. -/
def Bundle.records (bundle : Bundle) : ChartRecords where
  name := bundle.name
  triggers := bundle.triggers.map Trigger.record
  states := bundle.states.map BundleState.record
  transitions := bundle.transitions.map BundleTransition.record

@[simp] theorem TransitionRecord.record_bundled (record : TransitionRecord) :
    record.bundled.record = record := by
  simp [bundled, BundleTransition.record]

@[simp] theorem StateRecord.record_bundled (records : ChartRecords)
    (record : StateRecord) : (record.bundled records).record = record := by
  simp [bundled, BundleState.record]

/-! ## Transitions by source -/

/-- The transition records in the order of their sources. -/
def ChartRecords.transitionsBySource (records : ChartRecords) :
    List TransitionRecord :=
  records.states.flatMap fun state =>
    records.transitions.filter (·.source = state.name)

variable {records : ChartRecords} {chart : Chart} {bundle : Bundle}

theorem ChartRecords.mem_of_mem_transitionsBySource {record : TransitionRecord}
    (hrecord : record ∈ records.transitionsBySource) :
    record ∈ records.transitions := by
  obtain ⟨state, -, hmem⟩ := List.mem_flatMap.mp hrecord
  exact List.mem_of_mem_filter hmem

theorem filter_source_of_ne {name other : String} (hother : other ≠ name)
    (transitions : List TransitionRecord) :
    (transitions.filter (·.source = other)).filter (·.source = name) = [] := by
  rw [List.filter_eq_nil_iff]
  intro record hrecord
  have hsource : record.source = other := by
    simpa using List.of_mem_filter hrecord
  simpa [hsource] using hother

theorem flatMap_filter_source {states : List StateRecord}
    (hnames : (StateRecord.names states).Nodup) {state : StateRecord}
    (hstate : state ∈ states) (transitions : List TransitionRecord) :
    (states.flatMap fun other =>
      transitions.filter (·.source = other.name)).filter
        (·.source = state.name) =
      transitions.filter (·.source = state.name) := by
  induction states with
  | nil => cases hstate
  | cons head states ih =>
      obtain ⟨hnew, hnames⟩ := List.nodup_cons.mp hnames
      rw [List.flatMap_cons, List.filter_append]
      rcases List.mem_cons.mp hstate with rfl | hlater
      · have hothers : (states.flatMap fun other =>
            transitions.filter (·.source = other.name)).filter
              (·.source = state.name) = [] := by
          rw [List.filter_flatMap, List.flatMap_eq_nil_iff]
          intro other hother
          apply filter_source_of_ne
          rintro hsame
          exact hnew (hsame ▸ List.mem_map_of_mem hother)
        rw [hothers, List.append_nil, List.filter_filter]
        simp
      · have hhead : head.name ≠ state.name := by
          rintro hsame
          exact hnew (hsame ▸ List.mem_map_of_mem hlater)
        rw [filter_source_of_ne hhead, List.nil_append, ih hnames hlater]

/-- Sorting the transitions by source keeps the order at every source. -/
theorem ChartRecords.filter_transitionsBySource
    (hnames : (StateRecord.names records.states).Nodup) {state : StateRecord}
    (hstate : state ∈ records.states) :
    records.transitionsBySource.filter (·.source = state.name) =
      records.transitions.filter (·.source = state.name) :=
  flatMap_filter_source hnames hstate records.transitions

/-! ## The records of the bundle of records -/

namespace ChartRecords.BundledAs

theorem states_records (hbundle : records.BundledAs bundle) :
    bundle.records.states = records.states := by
  simp [Bundle.records, hbundle.states, Function.comp_def]

theorem transitions_records (hbundle : records.BundledAs bundle) :
    bundle.records.transitions = records.transitionsBySource := by
  simp only [Bundle.records, Bundle.transitions, hbundle.states, transitionsBySource,
    List.map_flatMap, List.flatMap_map, StateRecord.bundled, List.map_map]
  simp [Function.comp_def]

theorem triggers_records (hbundle : records.BundledAs bundle) :
    List.Forall₂ TriggerRecord.Declares bundle.records.triggers
      bundle.triggers := by
  rw [Bundle.records, List.forall₂_map_left_iff, List.forall₂_same]
  intro trigger htrigger
  obtain ⟨record, -, hdeclares⟩ :=
    exists_mem_left_of_forall₂ hbundle.triggers htrigger
  exact ⟨rfl, Signature.parse_render hdeclares.arguments⟩

theorem triggerNames_records (hbundle : records.BundledAs bundle) :
    TriggerRecord.names bundle.records.triggers =
      TriggerRecord.names records.triggers := by
  rw [← TriggerRecord.map_name_of_declares hbundle.triggers,
    TriggerRecord.map_name_of_declares hbundle.triggers_records]

theorem consistent_records (hbundle : records.BundledAs bundle)
    (hconsistent : records.Consistent) : bundle.records.Consistent := by
  constructor
  case triggerNames =>
    rw [hbundle.triggerNames_records]
    exact hconsistent.triggerNames
  case signatures =>
    intro record hrecord
    obtain ⟨trigger, -, hdeclares⟩ :=
      exists_mem_left_of_forall₂ hbundle.triggers_records.flip hrecord
    exact ⟨_, hdeclares.arguments⟩
  case stateNames =>
    rw [hbundle.states_records]
    exact hconsistent.stateNames
  case parents =>
    rw [hbundle.states_records]
    exact hconsistent.parents
  case acyclic =>
    rw [hbundle.states_records]
    exact hconsistent.acyclic
  case reactions =>
    rw [hbundle.states_records, hbundle.triggerNames_records]
    exact hconsistent.reactions
  case transitions =>
    intro record hrecord
    rw [hbundle.transitions_records] at hrecord
    rw [hbundle.states_records, hbundle.triggerNames_records]
    exact hconsistent.transitions record (mem_of_mem_transitionsBySource hrecord)

/-- What resolves records resolves those of their bundle. -/
theorem resolvesTo_records (hbundle : records.BundledAs bundle)
    (hnames : (StateRecord.names records.states).Nodup)
    (hchart : records.ResolvesTo chart)
    (hdeclared : bundle.triggers = chart.triggers) :
    bundle.records.ResolvesTo chart := by
  constructor
  case name =>
    rw [hchart.name, ← hbundle.name]
    rfl
  case triggers => exact hdeclared ▸ hbundle.triggers_records
  case length => rw [hbundle.states_records, hchart.length]
  case states =>
    intro id record state hrecord hstate
    rw [hbundle.states_records] at hrecord
    apply (hchart.states id record state hrecord hstate).transfer
    · exact hbundle.states_records
    · exact hbundle.triggerNames_records
    · rw [hbundle.transitions_records]
      exact filter_transitionsBySource hnames (List.mem_of_getElem? hrecord)
  case roots =>
    rw [hbundle.states_records]
    exact hchart.roots
  case triggerNames => rw [hbundle.triggerNames_records, hchart.triggerNames]
  case stateNames => rw [hbundle.states_records, hchart.stateNames]

end ChartRecords.BundledAs

/-! ## Building again -/

namespace Chart

theorem build_records_bundle (hbuild : build records = .ok chart) :
    build chart.bundle.records = .ok chart := by
  have hbundle := ChartRecords.bundledAs_of_build hbuild
  have hconsistent := (exists_build_ok_iff_consistent records).mp ⟨chart, hbuild⟩
  obtain ⟨rebuilt, hrebuilt⟩ := (exists_build_ok_iff_consistent _).mpr
    (hbundle.consistent_records hconsistent)
  have hresolves := hbundle.resolvesTo_records hconsistent.stateNames
    (resolvesTo_of_build hbuild) rfl
  rw [hrebuilt, (resolvesTo_iff_of_build hrebuilt chart).mp hresolves]

/-- The records read off the written bundle of a chart that was built build the
same chart, so no two charts are written alike. -/
theorem rebuilds_from_bundle (records : ChartRecords) (chart : Chart)
    (hbuild : build records = .ok chart) :
    (∃ bundle, Bundle.ofJson chart.toJson = .ok bundle ∧
      build bundle.records = .ok chart) ∧
    ∀ (others : ChartRecords) (other : Chart), build others = .ok other →
      other.toJson = chart.toJson → other = chart := by
  have hread : ∀ {records : ChartRecords} {chart : Chart},
      build records = .ok chart → Bundle.ofJson chart.toJson = .ok chart.bundle :=
    fun hbuild => (closed_of_build hbuild).ofJson_toJson
      (arguments_ne_nil_of_build hbuild)
  refine ⟨⟨_, hread hbuild, build_records_bundle hbuild⟩, ?_⟩
  intro others other hother hjson
  have hbundle : other.bundle = chart.bundle := by
    have hsame := hread hother
    rw [hjson, hread hbuild] at hsame
    exact (Except.ok.inj hsame).symm
  have hsame := build_records_bundle hother
  rw [hbundle, build_records_bundle hbuild] at hsame
  exact (Except.ok.inj hsame).symm

/-- Spaces in a signature and transitions that come in turns are not kept, and
the chart is the same without them. -/
theorem interleaved_chart_rebuilds :
    let records : ChartRecords :=
      { name := "Door"
        triggers := [⟨"go", "std::map<K, V>&  m,int n"⟩]
        states := [.child "B" "A", (StateRecord.root "A").onEnter true ["go"]]
        transitions := [⟨"A", "B", ""⟩, ⟨"B", "A", "go"⟩, ⟨"A", "A", "go"⟩] }
    ∃ chart bundle, build records = .ok chart ∧
      Bundle.ofJson chart.toJson = .ok bundle ∧
      bundle.records ≠ records ∧
      bundle.records.triggers = [⟨"go", "std::map<K, V>& m, int n"⟩] ∧
      build bundle.records = .ok chart := by
  intro records
  cases hbuild : build records with
  | error error => cases hbuild
  | ok chart =>
      obtain ⟨⟨bundle, hread, hrebuild⟩, -⟩ :=
        rebuilds_from_bundle records chart hbuild
      have htriggers : bundle.records.triggers =
          [⟨"go", "std::map<K, V>& m, int n"⟩] := by
        cases hbuild
        cases hread
        decide
      refine ⟨chart, bundle, rfl, hread, fun hsame => ?_, htriggers, hrebuild⟩
      rw [hsame] at htriggers
      revert htriggers
      decide

end Chart

end Statecharts
