import Statecharts.Proofs.Chart.Closed

/-!
# Built charts are forests

The hierarchy of a chart is stored twice: every state has its parent, and
every state and the chart itself list those below them.  In a chart that was
built both are the declared parents, and these have no cycles.  Walking up
from any state therefore ends at a root, after fewer steps than there are
states, and walking down from the roots meets every state.
-/

namespace Statecharts

variable {records : ChartRecords} {chart : Chart}

/-! ## Reading one state -/

theorem parentOf?_of_getElem? {states : List State} {id : StateId}
    {state : State} (hstate : states[id]? = some state) :
    parentOf? states id = state.parent := by
  rw [parentOf?, hstate, Option.bind_some]

theorem stateName_of_getElem? {states : List State} {id : StateId}
    {state : State} (hstate : states[id]? = some state) :
    stateName states id = state.name := by
  rw [stateName, hstate, Option.elim_some]

theorem Chart.isInitial_of_getElem? {id : StateId} {state : State}
    (hstate : chart.states[id]? = some state) :
    chart.isInitial id = state.initial := by
  rw [isInitial, hstate, Option.elim_some]

theorem Chart.children_of_getElem? {id : StateId} {state : State}
    (hstate : chart.states[id]? = some state) :
    chart.children id = state.children := by
  rw [children, hstate, Option.elim_some]

theorem Chart.exists_state_of_composite {id : StateId}
    (hcomposite : chart.children id ≠ []) :
    ∃ state, chart.states[id]? = some state := by
  cases hstate : chart.states[id]? with
  | none =>
      rw [children, hstate] at hcomposite
      exact absurd rfl hcomposite
  | some state => exact ⟨state, rfl⟩

/-! ## Hierarchies that agree with themselves -/

/-- The two ways in which a hierarchy is stored agree, and nothing is above
itself. -/
structure Chart.Forest (chart : Chart) : Prop where
  parent_lt : ∀ child parent, parentOf? chart.states child = some parent →
    parent < chart.states.length
  acyclic : ¬ ∃ cycle, IsCycle (Climbs (parentOf? chart.states)) cycle
  children : ∀ id, Enumerates
    (fun child => parentOf? chart.states child = some id) (chart.children id)
  roots : Enumerates
    (fun id => id < chart.states.length ∧ parentOf? chart.states id = none)
    chart.roots

/-! ## The links of a built chart -/

theorem ChartRecords.ResolvesTo.parentOf?_eq_some_iff
    (hchart : records.ResolvesTo chart) {child parent : StateId} :
    parentOf? chart.states child = some parent ↔
      DeclaredParent records.states child parent := by
  constructor
  · intro hparent
    obtain ⟨state, hstate, hparent⟩ := getElem?_of_parentOf? hparent
    obtain ⟨record, -, hresolves⟩ := hchart.getElem?_record hstate
    exact (hresolves.parent_iff parent).mp hparent
  · intro hparent
    have ⟨record, hrecord, _⟩ := hparent
    obtain ⟨state, hstate, hresolves⟩ := hchart.getElem?_state hrecord
    rw [parentOf?_of_getElem? hstate]
    exact (hresolves.parent_iff parent).mpr hparent

theorem ChartRecords.ResolvesTo.climbs_parentOf?
    (hchart : records.ResolvesTo chart) :
    Climbs (parentOf? chart.states) = DeclaredParent records.states := by
  funext child parent
  exact propext hchart.parentOf?_eq_some_iff

theorem ChartRecords.ResolvesTo.mem_roots_iff
    (hchart : records.ResolvesTo chart) {id : StateId} :
    id ∈ chart.roots ↔
      id < chart.states.length ∧ parentOf? chart.states id = none := by
  rw [hchart.roots.mem_iff]
  constructor
  · intro hroot
    rcases hroot with ⟨record, hrecord, hroot⟩
    obtain ⟨state, hstate, hresolves⟩ := hchart.getElem?_state hrecord
    rw [parentOf?_of_getElem? hstate]
    exact ⟨(List.getElem?_eq_some_iff.mp hstate).1, hresolves.root_iff.mpr hroot⟩
  · intro hroot
    rcases hroot with ⟨hid, hparent⟩
    have hstate := List.getElem?_eq_getElem hid
    obtain ⟨record, hrecord, hresolves⟩ := hchart.getElem?_record hstate
    rw [parentOf?_of_getElem? hstate] at hparent
    exact ⟨record, hrecord, hresolves.root_iff.mp hparent⟩

theorem ChartRecords.ResolvesTo.enumerates_children
    (hchart : records.ResolvesTo chart) (id : StateId) :
    Enumerates (fun child => parentOf? chart.states child = some id)
      (chart.children id) := by
  simp only [hchart.parentOf?_eq_some_iff, Chart.children]
  cases hstate : chart.states[id]? with
  | some state =>
      obtain ⟨record, -, hresolves⟩ := hchart.getElem?_record hstate
      exact hresolves.children
  | none =>
      refine ⟨.nil, fun child => ?_⟩
      simp only [Option.elim_none, List.not_mem_nil, false_iff]
      intro hparent
      have hid := hparent.lt.2
      rw [← hchart.length] at hid
      rw [List.getElem?_eq_getElem hid] at hstate
      cases hstate

namespace Chart

theorem forest_of_build (hbuild : build records = .ok chart) :
    chart.Forest := by
  obtain ⟨triggers, states, hbuilt⟩ := exists_builtFrom hbuild
  have hchart := hbuilt.resolvesTo
  constructor
  case parent_lt =>
    intro child parent hparent
    rw [hchart.length]
    exact (hchart.parentOf?_eq_some_iff.mp hparent).lt.2
  case acyclic =>
    rw [hchart.climbs_parentOf?]
    exact ((faultless_parentFault_iff hbuilt.stateNames_nodup).mp
      (hbuilt.faultless _ (by simp [ChartRecords.faults]))).2
  case children => exact hchart.enumerates_children
  case roots => exact ⟨hchart.roots.ascending, fun id => hchart.mem_roots_iff⟩

/-! ## From any state up to a root -/

namespace Forest

theorem mem_children_iff (hforest : chart.Forest) {child parent : StateId} :
    child ∈ chart.children parent ↔
      parentOf? chart.states child = some parent :=
  (hforest.children parent).mem_iff child

theorem exists_walk_to_root (hforest : chart.Forest) {id : StateId}
    (hid : id < chart.states.length) :
    ∃ root ∈ chart.roots, ∃ passed,
      Walk (parentOf? chart.states) root id passed := by
  obtain ⟨root, hreach, hroot⟩ :=
    exists_root_above hforest.parent_lt hforest.acyclic id
  have hlt : root < chart.states.length := by
    rcases Relation.ReflTransGen.cases_tail hreach with rfl | ⟨below, -, hlast⟩
    · exact hid
    · exact hforest.parent_lt below root hlast
  exact ⟨root, (hforest.roots.mem_iff root).mpr ⟨hlt, hroot⟩,
    Walk.exists_of_reflTransGen hreach⟩

theorem roots_eq_nil_iff (hforest : chart.Forest) :
    chart.roots = [] ↔ chart.states = [] := by
  constructor
  · intro hroots
    by_contra hstates
    have hlength := List.length_pos_of_ne_nil hstates
    obtain ⟨root, hroot, -⟩ := hforest.exists_walk_to_root hlength
    rw [hroots] at hroot
    cases hroot
  · intro hstates
    apply List.eq_nil_iff_forall_not_mem.mpr
    intro root hroot
    have hlt := ((hforest.roots.mem_iff root).mp hroot).1
    rw [hstates] at hlt
    cases hlt

end Forest

end Chart

end Statecharts
