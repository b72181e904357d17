import Statecharts.Chart.Validation
import Statecharts.Proofs.Bundle.Projection
import Statecharts.Proofs.Chart.Ancestors

/-!
# Asking a chart and asking its bundle

A chart finds a state by the place of its name and follows links from place to
place.  A bundle has names only: it looks through its list for each of them and
leaves out what it does not find.  For a chart that was built both give the
same answers.  No name is declared twice and every link leads to a declared
name, so the first entry of a name is the one that was meant, and nothing is
ever left out.
-/

namespace Statecharts

/-- Following the parents that a bundle names, from one name up to a root. -/
inductive Bundle.Ascends (bundle : Bundle) : String → List String → Prop
  | root {name : String} {state : BundleState}
      (hstate : bundle.state? name = some state)
      (hparent : state.parent = none) : Ascends bundle name []
  | up {name parent : String} {state : BundleState} {names : List String}
      (hstate : bundle.state? name = some state)
      (hparent : state.parent = some parent)
      (hnames : Ascends bundle parent names) :
      Ascends bundle name (parent :: names)

/-- An entry that says of a state what the chart has at its place. -/
def Chart.Shows (chart : Chart) (id : StateId) (entry : BundleState) : Prop :=
  ∃ state, chart.states[id]? = some state ∧
    state.Projects (chart.states.map State.name)
      (chart.triggers.map Trigger.name) entry

/-- The answers of a chart and of a bundle to every question about them. -/
structure Chart.AnswersLike (chart : Chart) (bundle : Bundle) : Prop where
  state : ∀ name,
    Option.Rel chart.Shows (chart.stateId? name) (bundle.state? name)
  trigger : ∀ name,
    Option.Rel (fun id trigger => chart.triggers[id]? = some trigger)
      (chart.triggerId? name) (bundle.trigger? name)
  roots : List.Forall₂ chart.Shows chart.roots bundle.rootStates
  initialRoot : Option.Rel chart.Shows chart.initialRoot? bundle.initialRoot?
  initialChild : ∀ name, Option.Rel chart.Shows
    ((chart.stateId? name).bind chart.initialChild?) (bundle.initialChild? name)
  composite : ∀ name, (bundle.state? name).map BundleState.isComposite =
    (chart.state? name).map State.isComposite
  argumentNames : ∀ name,
    (bundle.trigger? name).map Trigger.argumentNames =
      (chart.trigger? name).map Trigger.argumentNames ∧
    ∀ trigger, chart.trigger? name = some trigger →
      trigger.argumentNames = trigger.arguments.map Argument.name
  transitions : List.Forall₂
    (Transition.Projects (chart.states.map State.name)
      (chart.triggers.map Trigger.name))
    chart.transitions bundle.transitions
  ancestors : ∀ name id, chart.stateId? name = some id →
    ∃ names, NamesAt (chart.states.map State.name) (chart.ancestors id) names ∧
      ∀ other, bundle.Ascends name other ↔ other = names

/-! ## Searching for a key -/

theorem find?_key_eq {α : Type} (key : α → String) (items : List α)
    (name : String) :
    items.find? (key · = name) =
      ((items.map key).idxOf? name).bind (items[·]?) := by
  induction items with
  | nil => rfl
  | cons item items ih =>
      rw [List.find?_cons, ih, List.map_cons, List.idxOf?_cons]
      by_cases hname : key item = name
      · simp [hname]
      · cases (items.map key).idxOf? name <;> simp [hname]

theorem rel_find? {α β : Type} {R : α → β → Prop} {p : α → Bool} {q : β → Bool}
    (htest : ∀ item image, R item image → p item = q image)
    {items : List α} {images : List β} (hitems : List.Forall₂ R items images) :
    Option.Rel R (items.find? p) (images.find? q) := by
  induction hitems with
  | nil => exact .none
  | @cons item image items images hfirst _ ih =>
      rw [List.find?_cons, List.find?_cons, htest item image hfirst]
      cases q image with
      | true => exact .some hfirst
      | false => exact ih

/-! ## A bundle whose chart finds states by their names -/

namespace Chart

variable {chart : Chart} {name : String} {id parent : StateId}

/-- The names under which states and triggers are found are theirs, and no two
states share one. -/
structure Indexed (chart : Chart) : Prop where
  stateNames : chart.stateNames = chart.states.map State.name
  triggerNames : chart.triggerNames = chart.triggers.map Trigger.name
  nodup : (chart.states.map State.name).Nodup

theorem indexed_of_build {records : ChartRecords}
    (hbuild : build records = .ok chart) : chart.Indexed := by
  obtain ⟨triggers, states, hbuilt⟩ := exists_builtFrom hbuild
  have hchart := hbuilt.resolvesTo
  constructor
  case stateNames => rw [hchart.stateNames, hchart.map_name_states]
  case triggerNames => rw [hchart.triggerNames, hchart.map_name_triggers]
  case nodup =>
    rw [hchart.map_name_states]
    exact hbuilt.stateNames_nodup

theorem Closed.shows_bundleState (hclosed : chart.Closed) {state : State}
    (hstate : chart.states[id]? = some state) :
    chart.Shows id (chart.bundleState state) :=
  ⟨state, hstate, projects_bundleState (List.getElem?_eq_some_iff.mp hstate).1
    (hclosed.states id state hstate)⟩

theorem Shows.initial_eq {entry : BundleState} (hshows : chart.Shows id entry) :
    chart.isInitial id = entry.initial := by
  obtain ⟨state, hstate, hprojects⟩ := hshows
  rw [isInitial_of_getElem? hstate, hprojects.initial]

namespace Indexed

theorem state?_bundle (hindexed : chart.Indexed) (name : String) :
    chart.bundle.state? name = (chart.state? name).map chart.bundleState := by
  have hfind : chart.states.find? (·.name = name) = chart.state? name := by
    rw [find?_key_eq State.name, state?, stateId?, hindexed.stateNames]
  rw [← hfind, Bundle.state?, bundle, List.find?_map]
  rfl

theorem trigger?_bundle (hindexed : chart.Indexed) (name : String) :
    chart.bundle.trigger? name = chart.trigger? name := by
  rw [Bundle.trigger?, bundle, find?_key_eq Trigger.name, trigger?, triggerId?,
    hindexed.triggerNames]

theorem stateId?_eq_some_iff (hindexed : chart.Indexed) :
    chart.stateId? name = some id ↔
      ∃ state, chart.states[id]? = some state ∧ state.name = name := by
  rw [stateId?, hindexed.stateNames, idxOf?_eq_some_iff_getElem? hindexed.nodup,
    List.getElem?_map, Option.map_eq_some_iff]

theorem stateId?_stateName (hindexed : chart.Indexed)
    (hid : id < chart.states.length) :
    chart.stateId? (stateName chart.states id) = some id := by
  have hstate := List.getElem?_eq_getElem hid
  exact hindexed.stateId?_eq_some_iff.mpr
    ⟨_, hstate, (stateName_of_getElem? hstate).symm⟩

theorem state?_of_stateId? (hindexed : chart.Indexed)
    (hplace : chart.stateId? name = some id) :
    ∃ state, chart.states[id]? = some state ∧ chart.state? name = some state ∧
      chart.bundle.state? name = some (chart.bundleState state) := by
  obtain ⟨state, hstate, -⟩ := hindexed.stateId?_eq_some_iff.mp hplace
  have hfound : chart.state? name = some state := by
    rw [Chart.state?, hplace, Option.bind_some, hstate]
  exact ⟨state, hstate, hfound, by rw [hindexed.state?_bundle, hfound]; rfl⟩

theorem state?_of_stateId?_eq_none (hindexed : chart.Indexed)
    (hplace : chart.stateId? name = none) :
    chart.state? name = none ∧ chart.bundle.state? name = none := by
  have hfound : chart.state? name = none := by
    rw [Chart.state?, hplace, Option.bind_none]
  exact ⟨hfound, by rw [hindexed.state?_bundle, hfound]; rfl⟩

/-- What places show is found by their names, and nothing is left out. -/
theorem shows_filterMap (hindexed : chart.Indexed) (hclosed : chart.Closed)
    {ids : List StateId} (hids : ∀ id ∈ ids, id < chart.states.length) :
    List.Forall₂ chart.Shows ids
      ((ids.map (stateName chart.states)).filterMap chart.bundle.state?) := by
  induction ids with
  | nil => exact .nil
  | cons id ids ih =>
      rw [List.forall_mem_cons] at hids
      have hplace := hindexed.stateId?_stateName hids.1
      obtain ⟨state, hstate, -, hentry⟩ := hindexed.state?_of_stateId? hplace
      rw [List.map_cons, List.filterMap_cons_some hentry]
      exact .cons (hclosed.shows_bundleState hstate) (ih hids.2)

theorem rel_state? (hindexed : chart.Indexed) (hclosed : chart.Closed)
    (name : String) :
    Option.Rel chart.Shows (chart.stateId? name) (chart.bundle.state? name) := by
  cases hplace : chart.stateId? name with
  | none =>
      rw [(hindexed.state?_of_stateId?_eq_none hplace).2]
      exact .none
  | some id =>
      obtain ⟨state, hstate, -, hentry⟩ := hindexed.state?_of_stateId? hplace
      rw [hentry]
      exact .some (hclosed.shows_bundleState hstate)

theorem rel_trigger? (hindexed : chart.Indexed) (name : String) :
    Option.Rel (fun id trigger => chart.triggers[id]? = some trigger)
      (chart.triggerId? name) (chart.bundle.trigger? name) := by
  rw [hindexed.trigger?_bundle, trigger?]
  cases hplace : chart.triggerId? name with
  | none => exact .none
  | some id =>
      rw [triggerId?, hindexed.triggerNames, List.idxOf?_eq_some_iff] at hplace
      have hid : id < chart.triggers.length := by simpa using hplace.1
      rw [Option.bind_some, List.getElem?_eq_getElem hid]
      exact .some (List.getElem?_eq_getElem hid)

theorem rel_initialChild? (hindexed : chart.Indexed) (hclosed : chart.Closed)
    (name : String) :
    Option.Rel chart.Shows ((chart.stateId? name).bind chart.initialChild?)
      (chart.bundle.initialChild? name) := by
  rw [Bundle.initialChild?]
  cases hplace : chart.stateId? name with
  | none =>
      rw [(hindexed.state?_of_stateId?_eq_none hplace).2]
      exact .none
  | some id =>
      obtain ⟨state, hstate, -, hentry⟩ := hindexed.state?_of_stateId? hplace
      rw [hentry, Option.bind_some, Option.bind_some, initialChild?,
        children_of_getElem? hstate]
      apply rel_find? fun _ _ hshows => hshows.initial_eq
      exact hindexed.shows_filterMap hclosed (hclosed.states id state hstate).children

theorem isComposite_state? (hindexed : chart.Indexed) (name : String) :
    (chart.bundle.state? name).map BundleState.isComposite =
      (chart.state? name).map State.isComposite := by
  rw [hindexed.state?_bundle, Option.map_map]
  congr 1
  funext state
  simp [bundleState, BundleState.isComposite, State.isComposite]

/-! ## Going up -/

theorem ascends_orphan_iff (hindexed : chart.Indexed)
    (hplace : chart.stateId? name = some id)
    (horphan : parentOf? chart.states id = none) {other : List String} :
    chart.bundle.Ascends name other ↔ other = [] := by
  obtain ⟨state, hstate, -, hentry⟩ := hindexed.state?_of_stateId? hplace
  rw [parentOf?_of_getElem? hstate] at horphan
  have hroot : (chart.bundleState state).parent = none := by
    rw [bundleState, horphan, Option.map_none]
  constructor
  · intro hascends
    cases hascends with
    | root => rfl
    | up hfound hparent =>
        rw [hentry] at hfound
        cases hfound
        rw [hroot] at hparent
        cases hparent
  · rintro rfl
    exact .root hentry hroot

theorem ascends_child_iff (hindexed : chart.Indexed)
    (hplace : chart.stateId? name = some id)
    (hparent : parentOf? chart.states id = some parent) {other : List String} :
    chart.bundle.Ascends name other ↔
      ∃ names, chart.bundle.Ascends (stateName chart.states parent) names ∧
        other = stateName chart.states parent :: names := by
  obtain ⟨state, hstate, -, hentry⟩ := hindexed.state?_of_stateId? hplace
  rw [parentOf?_of_getElem? hstate] at hparent
  have hnamed : (chart.bundleState state).parent =
      some (stateName chart.states parent) := by
    rw [bundleState, hparent, Option.map_some]
  constructor
  · intro hascends
    cases hascends with
    | root hfound horphan =>
        rw [hentry] at hfound
        cases hfound
        rw [hnamed] at horphan
        cases horphan
    | up hfound hfoundParent hnames =>
        rw [hentry] at hfound
        cases hfound
        rw [hnamed] at hfoundParent
        cases hfoundParent
        exact ⟨_, hnames, rfl⟩
  · rintro ⟨names, hnames, rfl⟩
    exact .up hentry hnamed hnames

theorem exists_ascends (hindexed : chart.Indexed) (hforest : chart.Forest)
    (hplace : chart.stateId? name = some id) :
    ∃ names, NamesAt (chart.states.map State.name) (chart.ancestors id) names ∧
      ∀ other, chart.bundle.Ascends name other ↔ other = names := by
  induction id using climb_induction hforest.parent_lt hforest.acyclic
    generalizing name with
  | root id horphan =>
      rw [ancestors_of_orphan horphan]
      exact ⟨[], .nil, fun _ => hindexed.ascends_orphan_iff hplace horphan⟩
  | child id parent hparent ih =>
      have hlt := hforest.parent_lt id parent hparent
      obtain ⟨names, hnamed, honly⟩ := ih (hindexed.stateId?_stateName hlt)
      rw [hforest.ancestors_of_child hparent]
      refine ⟨stateName chart.states parent :: names,
        .cons (getElem?_map_elim hlt) hnamed, fun other => ?_⟩
      rw [hindexed.ascends_child_iff hplace hparent]
      simp only [honly, exists_eq_left]

end Indexed

/-- Every question about a chart that was built is answered alike by the chart
and by the bundle that is read back from what is written of it, whether the
chart is valid or not. -/
theorem built_answers_like_bundle (records : ChartRecords) (chart : Chart)
    (hbuild : build records = .ok chart) :
    ∃ bundle, Bundle.ofJson chart.toJson = .ok bundle ∧
      chart.AnswersLike bundle := by
  have hclosed := closed_of_build hbuild
  have hforest := forest_of_build hbuild
  have hindexed := indexed_of_build hbuild
  have hroots : List.Forall₂ chart.Shows chart.roots chart.bundle.rootStates :=
    hindexed.shows_filterMap hclosed hclosed.roots
  refine ⟨chart.bundle, hclosed.ofJson_toJson (arguments_ne_nil_of_build hbuild), ?_⟩
  constructor
  case state => exact hindexed.rel_state? hclosed
  case trigger => exact hindexed.rel_trigger?
  case roots => exact hroots
  case initialRoot => exact rel_find? (fun _ _ hshows => hshows.initial_eq) hroots
  case initialChild => exact hindexed.rel_initialChild? hclosed
  case composite => exact hindexed.isComposite_state?
  case argumentNames =>
    intro name
    rw [hindexed.trigger?_bundle]
    exact ⟨rfl, fun _ _ => rfl⟩
  case transitions =>
    exact List.rel_flatMap hclosed.projects_bundle.states
      fun _ _ hprojects => hprojects.transitions
  case ancestors => exact fun _ _ hplace => hindexed.exists_ascends hforest hplace

/-- Two roots are initial and one group has no initial member, so the chart is
not valid.  The state whose ancestors are asked for is declared first. -/
theorem invalid_chart_answers_alike :
    let records : ChartRecords :=
      { name := "Door"
        triggers := [⟨"go", "int n"⟩]
        states := [(StateRecord.child "Bolt" "Lock").markInitial,
          .root "Frame", (StateRecord.root "Leaf").markInitial,
          (StateRecord.root "Sill").markInitial, .child "Lock" "Leaf"]
        transitions := [⟨"Leaf", "Bolt", "go"⟩, ⟨"Bolt", "Sill", ""⟩] }
    ∃ chart bundle, build records = .ok chart ∧
      Bundle.ofJson chart.toJson = .ok bundle ∧ chart.validate ≠ .ok () ∧
      bundle.initialRoot?.map BundleState.name = some "Leaf" ∧
      bundle.initialChild? "Leaf" = none ∧
      (bundle.initialChild? "Lock").map BundleState.name = some "Bolt" ∧
      (∀ other, bundle.Ascends "Bolt" other ↔ other = ["Lock", "Leaf"]) ∧
      chart.AnswersLike bundle := by
  intro records
  cases hbuild : build records with
  | error error => cases hbuild
  | ok chart =>
      obtain ⟨bundle, hread, hanswers⟩ :=
        built_answers_like_bundle records chart hbuild
      refine ⟨chart, bundle, rfl, hread, ?_, ?_, ?_, ?_, ?_, hanswers⟩
      · cases hbuild
        decide
      · cases hbuild
        cases hread
        rfl
      · cases hbuild
        cases hread
        rfl
      · cases hbuild
        cases hread
        rfl
      · have hplace : chart.stateId? "Bolt" = some 0 := by
          cases hbuild
          rfl
        have hnames : NamesAt (chart.states.map State.name) (chart.ancestors 0)
            ["Lock", "Leaf"] := by
          cases hbuild
          exact .cons rfl (.cons rfl .nil)
        obtain ⟨names, hnamed, honly⟩ := hanswers.ancestors "Bolt" 0 hplace
        rwa [hnamed.unique hnames] at honly

end Chart

end Statecharts
