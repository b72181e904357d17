import Statecharts.Commands.Build
import Statecharts.Commands.Inspect
import Statecharts.Proofs.Bundle.Layout
import Statecharts.Proofs.Bundle.Projection
import Statecharts.Proofs.Compilation.Naming
import Statecharts.Proofs.Files.Changes

/-!
# Validating what was compiled

A chart that elaborates is written as a bundle, and the bundle is read and
checked again.  The references in it are always found.  The schema refuses it
for one reason only, a state or a trigger whose name is empty: elaboration lets
such a name through.
-/

namespace Statecharts

/-- No state and no trigger is declared by the empty name. -/
structure ChartRecords.Named (records : ChartRecords) : Prop where
  states : ∀ record ∈ records.states, record.name ≠ ""
  triggers : ∀ record ∈ records.triggers, record.name ≠ ""

theorem ChartRecords.named_iff (records : ChartRecords) :
    records.Named ↔
      (∀ name ∈ StateRecord.names records.states, name ≠ "") ∧
      ∀ name ∈ TriggerRecord.names records.triggers, name ≠ "" := by
  rw [List.forall_mem_map, List.forall_mem_map]
  exact ⟨fun hnamed => ⟨hnamed.states, hnamed.triggers⟩,
    fun hnames => ⟨hnames.1, hnames.2⟩⟩

/-! ## The schema -/

theorem Bundle.Schema.StateNamed.of_references {states triggers : List String}
    {state : BundleState} (hreferences : state.ReferencesDeclared states triggers)
    (hsources : ∀ transition ∈ state.transitions,
      transition.source = state.name)
    (hname : state.name ≠ "") (hstates : ∀ name ∈ states, name ≠ "")
    (htriggers : ∀ name ∈ triggers, name ≠ "") :
    Bundle.Schema.StateNamed state := by
  constructor
  case name => exact hname
  case parent => exact fun name hmem => hstates name (hreferences.parent name hmem)
  case children =>
    exact fun name hmem => hstates name (hreferences.children name hmem)
  case enterReactions =>
    intro name hmem
    exact htriggers name
      (hreferences.reactions name (List.mem_append_left _ hmem))
  case exitReactions =>
    intro name hmem
    exact htriggers name
      (hreferences.reactions name (List.mem_append_right _ hmem))
  case transitions =>
    intro transition hmem
    refine ⟨?_, hstates _ (hreferences.targets transition hmem), ?_⟩
    · rwa [hsources transition hmem]
    · exact fun name htrigger =>
        htriggers name (hreferences.triggers transition hmem name htrigger)

namespace Chart

variable {records : ChartRecords} {chart : Chart}

theorem arguments_named_of_build (hbuild : build records = .ok chart) :
    ∀ trigger ∈ chart.triggers, trigger.arguments ≠ [] ∧
      ∀ argument ∈ trigger.arguments,
        argument.name ≠ "" ∧ argument.type ≠ "" := by
  intro trigger htrigger
  obtain ⟨record, -, hdeclares⟩ :=
    exists_mem_left_of_forall₂ (resolvesTo_of_build hbuild).triggers htrigger
  refine ⟨Signature.parse_ne_nil hdeclares.arguments, fun argument hargument => ?_⟩
  obtain ⟨piece, -, hreads⟩ :=
    Signature.exists_piece_of_parse hdeclares.arguments argument hargument
  exact ⟨hreads.name_ne_empty, hreads.type_ne_empty⟩

theorem schema_errors_iff_of_build (hbuild : build records = .ok chart) :
    Bundle.Schema.bundle.errors chart.toJson = [] ↔ records.Named := by
  have hchart := resolvesTo_of_build hbuild
  have hformed := (closed_of_build hbuild).wellFormed_bundle
    (arguments_ne_nil_of_build hbuild)
  have hversion : JsonSchema.isVersion bundleVersion = true := by decide
  have hstateNames : chart.bundle.states.map BundleState.name =
      StateRecord.names records.states := by
    rw [← hchart.map_name_states, bundle, List.map_map]
    rfl
  have htriggerNames : chart.bundle.triggers.map Trigger.name =
      TriggerRecord.names records.triggers := hchart.map_name_triggers
  rw [records.named_iff, ← hstateNames, ← htriggerNames, toJson,
    Bundle.Schema.bundle_errors_iff]
  constructor
  · rintro ⟨-, -, hstates, htriggers⟩
    rw [List.forall_mem_map, List.forall_mem_map]
    exact ⟨fun state hstate => (hstates state hstate).name,
      fun trigger htrigger => (htriggers trigger htrigger).1⟩
  · rintro ⟨hstates, htriggers⟩
    refine ⟨hversion, ?_, ?_, ?_⟩
    · exact fun root hroot => hstates root (hformed.references.roots root hroot)
    · intro state hstate
      exact .of_references (hformed.references.states state hstate)
        (hformed.sources state hstate)
        (hstates _ (List.mem_map_of_mem hstate)) hstates htriggers
    · intro trigger htrigger
      exact ⟨htriggers _ (List.mem_map_of_mem htrigger),
        arguments_named_of_build hbuild trigger htrigger⟩

end Chart

/-! ## The command -/

theorem Bundle.faults_eq_nil_iff (json : Json) :
    Bundle.faults json = [] ↔
      Bundle.Schema.bundle.errors json = [] ∧
        ∃ bundle, Bundle.ofJson json = .ok bundle := by
  unfold Bundle.faults
  split
  next herrors =>
    cases hread : Bundle.ofJson json <;> simp [herrors]
  next herrors =>
    rw [List.map_eq_nil_iff]
    constructor
    · intro hnil
      exact absurd hnil herrors
    · rintro ⟨hnil, -⟩
      exact absurd hnil herrors

namespace Commands

theorem exitCode_presentFaults (presentation : Presentation)
    (faults : List String) :
    (presentFaults presentation faults).exitCode = 0 ↔ faults = [] := by
  cases faults <;> simp [presentFaults, Outcome.success, Outcome.failure]

theorem validate_of_readText {tree : FileTree} {file text : String}
    (htext : tree.readText file = .ok text) (presentation : Presentation) :
    ((validate presentation file : StateM FileTree Outcome) tree).1 =
      presentBundle presentation file text := by
  simp only [validate, bind, StateT.bind, FileTree.readText_run, htext]
  rfl

theorem exitCode_validate_of_build {records : ChartRecords} {chart : Chart}
    (hbuild : Chart.build records = .ok chart) {tree : FileTree} {file : String}
    (hfile : tree.readText file = .ok (prettyLine chart.toJson))
    (presentation : Presentation) :
    ((validate presentation file : StateM FileTree Outcome) tree).1.exitCode =
        0 ↔ records.Named := by
  have hread : Json.read (prettyLine chart.toJson) = .ok chart.toJson :=
    chart.read_pretty_toJson
  have hbundle := (Chart.closed_of_build hbuild).ofJson_toJson
    (Chart.arguments_ne_nil_of_build hbuild)
  rw [validate_of_readText hfile, presentBundle, hread]
  simp only [exitCode_presentFaults, Bundle.faults_eq_nil_iff, hbundle,
    Chart.schema_errors_iff_of_build hbuild]
  simp

theorem build_of_elaborate {source : Source} {records : ChartRecords}
    {chart : Chart} (hsource : source.read = .ok records)
    (helaborate : Statecharts.elaborate source = .ok chart) :
    Chart.build records = .ok chart ∧ chart.validate = .ok () := by
  obtain ⟨read, hread, hbuilt⟩ := elaborate_ok_iff.mp helaborate
  rw [hsource] at hread
  cases hread
  exact hbuilt

/-- What is written of a chart by printing it or by building a project. -/
def Written (chart : Chart) (text : String) : Prop :=
  (∃ presentation, text = (presentChart presentation (.ok chart)).stdout) ∨
    ∃ path, text = Product.content ⟨path, chart⟩

/-- Of the charts that elaborate, those without an empty name are written so
that they validate. -/
theorem written_validates_iff_named (source : Source) (records : ChartRecords)
    (chart : Chart) (hsource : source.read = .ok records)
    (helaborate : Statecharts.elaborate source = .ok chart) :
    Bundle.ofJson chart.toJson = .ok chart.bundle ∧
    (Bundle.Schema.bundle.accepts chart.toJson = true ↔ records.Named) ∧
    ∀ text, Written chart text →
      ∀ (tree : FileTree) (file : String), tree.readText file = .ok text →
        ∀ presentation : Presentation,
          ((validate presentation file : StateM FileTree Outcome)
            tree).1.exitCode = 0 ↔ records.Named := by
  obtain ⟨hbuild, -⟩ := build_of_elaborate hsource helaborate
  have hbundle := (Chart.closed_of_build hbuild).ofJson_toJson
    (Chart.arguments_ne_nil_of_build hbuild)
  refine ⟨hbundle, ?_, ?_⟩
  · rw [JsonSchema.accepts, List.isEmpty_iff,
      Chart.schema_errors_iff_of_build hbuild]
  · rintro text (⟨presentation, rfl⟩ | ⟨path, rfl⟩) tree file hfile <;>
      exact exitCode_validate_of_build hbuild hfile

theorem named_chart_validates :
    let records : ChartRecords :=
      { name := "Door", states := [{ name := "Closed", initial := true }] }
    ∃ chart, Statecharts.elaborate (.memory records) = .ok chart ∧
      records.Named ∧
      ∀ (tree : FileTree) (file : String) (presentation : Presentation),
        tree.readText file = .ok (Product.content ⟨"Door.json", chart⟩) →
        ((validate presentation file : StateM FileTree Outcome)
          tree).1.exitCode = 0 := by
  intro records
  have hnamed : records.Named := by
    constructor <;> decide
  obtain ⟨chart, helaborate⟩ :
      ∃ chart, Statecharts.elaborate (.memory records) = .ok chart := ⟨_, rfl⟩
  obtain ⟨-, -, hvalidates⟩ :=
    written_validates_iff_named (.memory records) records chart rfl helaborate
  refine ⟨chart, helaborate, hnamed, fun tree file presentation hfile => ?_⟩
  exact (hvalidates _ (.inr ⟨_, rfl⟩) tree file hfile presentation).mpr hnamed

/-- A state with the empty name elaborates, and what is written of it does not
validate. -/
theorem nameless_chart_rejected :
    let records : ChartRecords :=
      { name := "Door", states := [{ name := "", initial := true }] }
    ∃ chart, Statecharts.elaborate (.memory records) = .ok chart ∧
      Bundle.Schema.bundle.accepts chart.toJson = false ∧
      ∀ (tree : FileTree) (file : String) (presentation : Presentation),
        tree.readText file = .ok (prettyLine chart.toJson) →
        ((validate presentation file : StateM FileTree Outcome)
          tree).1.exitCode ≠ 0 := by
  intro records
  have hnameless : ¬ records.Named := fun hnamed =>
    hnamed.states _ List.mem_cons_self rfl
  obtain ⟨chart, helaborate⟩ :
      ∃ chart, Statecharts.elaborate (.memory records) = .ok chart := ⟨_, rfl⟩
  obtain ⟨hbuild, -⟩ := build_of_elaborate rfl helaborate
  refine ⟨chart, helaborate, ?_, fun tree file presentation hfile => ?_⟩
  · rw [JsonSchema.accepts, ← Bool.not_eq_true, List.isEmpty_iff,
      Chart.schema_errors_iff_of_build hbuild]
    exact hnameless
  · rw [ne_eq, exitCode_validate_of_build hbuild hfile]
    exact hnameless

end Commands

end Statecharts
