import Statecharts.Proofs.Resolution.Acceptance
import Mathlib.Data.List.Sort

/-!
# Resolved charts

What a chart that was built has to do with its records, told without the
order in which building went through them.  A chart resolves its records when
every name stands for the one place that declares it: parents, children and
roots are those that the records name, wherever they stand, and reactions and
transitions keep their order.  Records are resolved by one chart at most, so
this determines all that is built.
-/

namespace Statecharts

/-- The numbers with a property, in ascending order. -/
structure Enumerates (P : Nat → Prop) (ids : List Nat) : Prop where
  ascending : ids.Pairwise (· < ·)
  mem_iff : ∀ id, id ∈ ids ↔ P id

theorem Enumerates.unique {P : Nat → Prop} {ids ids' : List Nat}
    (hids : Enumerates P ids) (hids' : Enumerates P ids') : ids = ids' := by
  apply hids.ascending.eq_of_mem_iff hids'.ascending
  intro id
  rw [hids.mem_iff, hids'.mem_iff]

theorem enumerates_filter_range {P : Nat → Prop} {test : Nat → Bool}
    {count : Nat} (htest : ∀ id, test id = true ↔ P id)
    (hcount : ∀ id, P id → id < count) :
    Enumerates P ((List.range count).filter test) := by
  refine ⟨List.pairwise_lt_range.filter _, fun id => ?_⟩
  rw [List.mem_filter, List.mem_range, htest]
  exact and_iff_right_of_imp (hcount id)

theorem namesAt_map_idxOf {names found : List String}
    (hfound : ∀ name ∈ found, name ∈ names) :
    NamesAt names (found.map names.idxOf) found := by
  rw [NamesAt, List.forall₂_map_left_iff, List.forall₂_same]
  intro name hname
  exact List.getElem?_idxOf (hfound name hname)

theorem NamesAt.places_unique {names found : List String}
    (hnames : names.Nodup) {places places' : List Nat}
    (hplaces : NamesAt names places found)
    (hplaces' : NamesAt names places' found) : places = places' := by
  refine List.left_unique_forall₂' (fun place name place' hname hname' => ?_)
    hplaces hplaces'
  exact getElem?_eq_some_inj hnames hname hname'

/-! ## Transitions -/

/-- A transition between the states of the given names. -/
structure TransitionRecord.Resolves (states triggers : List String)
    (record : TransitionRecord) (transition : Transition) : Prop where
  source : states[transition.source]? = some record.source
  target : states[transition.target]? = some record.target
  null_iff : transition.trigger = none ↔ record.trigger = ""
  trigger : ∀ id, transition.trigger = some id →
    triggers[id]? = some record.trigger

theorem TransitionRecord.Resolvable.resolves {states triggers : List String}
    {record : TransitionRecord} (hrecord : record.Resolvable states triggers) :
    record.Resolves states triggers (record.resolved states triggers) where
  source := List.getElem?_idxOf hrecord.source
  target := List.getElem?_idxOf hrecord.target
  null_iff := by simp [TransitionRecord.resolved]
  trigger := by
    intro id hid
    simp only [TransitionRecord.resolved, Option.ite_none_left_eq_some,
      Option.some.injEq] at hid
    rcases hid with ⟨hevent, rfl⟩
    exact List.getElem?_idxOf (hrecord.trigger hevent)

theorem TransitionRecord.Resolves.unique {states triggers : List String}
    (hstates : states.Nodup) (htriggers : triggers.Nodup)
    {record : TransitionRecord} {transition transition' : Transition}
    (hrecord : record.Resolves states triggers transition)
    (hrecord' : record.Resolves states triggers transition') :
    transition = transition' := by
  have hsource := getElem?_eq_some_inj hstates hrecord.source hrecord'.source
  have htarget := getElem?_eq_some_inj hstates hrecord.target hrecord'.target
  have htrigger : transition.trigger = transition'.trigger := by
    cases hid : transition.trigger with
    | none => exact (hrecord'.null_iff.mpr (hrecord.null_iff.mp hid)).symm
    | some id =>
        cases hid' : transition'.trigger with
        | none =>
            rw [hrecord.null_iff.mpr (hrecord'.null_iff.mp hid')] at hid
            cases hid
        | some id' =>
            have hname := hrecord.trigger id hid
            have hname' := hrecord'.trigger id' hid'
            rw [getElem?_eq_some_inj htriggers hname hname']
  cases transition
  cases transition'
  simp only [Transition.mk.injEq]
  exact ⟨hsource, htarget, htrigger⟩

/-- The transitions that leave a state are those of the records that name it. -/
theorem TransitionRecord.filter_resolved {states triggers : List String}
    {records : List TransitionRecord} {id : StateId} {name : String}
    (hstates : states.Nodup)
    (hrecords : ∀ record ∈ records, record.Resolvable states triggers)
    (hname : states[id]? = some name) :
    (records.map (·.resolved states triggers)).filter (·.source = id) =
      (records.filter (·.source = name)).map (·.resolved states triggers) := by
  rw [List.filter_map]
  congr 1
  apply List.filter_congr
  intro record hrecord
  have hsource := (hrecords record hrecord).resolves.source
  simp only [Function.comp_apply, decide_eq_decide]
  constructor
  · intro hid
    rw [hid, hname] at hsource
    exact (Option.some.inj hsource).symm
  · intro hsame
    rw [hsame] at hsource
    exact getElem?_eq_some_inj hstates hsource hname

/-! ## States -/

/-- A state with the links that its record and the others name. -/
structure StateRecord.Resolves (records : ChartRecords) (id : StateId)
    (record : StateRecord) (state : State) : Prop where
  name : state.name = record.name
  initial : state.initial = record.initial
  root_iff : state.parent = none ↔ record.parent = ""
  parent_iff : ∀ parent, state.parent = some parent ↔
    DeclaredParent records.states id parent
  children : Enumerates (fun child => DeclaredParent records.states child id)
    state.children
  defaultEnter : state.defaultEnter = record.enter.default
  enterReactions : NamesAt (TriggerRecord.names records.triggers)
    state.enterReactions record.enter.triggers
  defaultExit : state.defaultExit = record.exit.default
  exitReactions : NamesAt (TriggerRecord.names records.triggers)
    state.exitReactions record.exit.triggers
  transitions : List.Forall₂
    (TransitionRecord.Resolves (StateRecord.names records.states)
      (TriggerRecord.names records.triggers))
    (records.transitions.filter (·.source = record.name)) state.transitions

/-- A chart in which every name of the records stands for what it declares. -/
structure ChartRecords.ResolvesTo (records : ChartRecords) (chart : Chart) :
    Prop where
  name : chart.name = records.name
  triggers : List.Forall₂ TriggerRecord.Declares records.triggers chart.triggers
  length : chart.states.length = records.states.length
  states : ∀ (id : StateId) (record : StateRecord) (state : State),
    records.states[id]? = some record → chart.states[id]? = some state →
      record.Resolves records id state
  roots : Enumerates
    (fun id => ∃ record, records.states[id]? = some record ∧ record.parent = "")
    chart.roots
  triggerNames : chart.triggerNames = TriggerRecord.names records.triggers
  stateNames : chart.stateNames = StateRecord.names records.states

theorem StateRecord.Resolves.unique {records : ChartRecords} {id : StateId}
    {record : StateRecord} {state state' : State}
    (hstates : (StateRecord.names records.states).Nodup)
    (htriggers : (TriggerRecord.names records.triggers).Nodup)
    (hrecord : record.Resolves records id state)
    (hrecord' : record.Resolves records id state') : state = state' := by
  have hparent : state.parent = state'.parent := by
    apply Option.ext
    intro parent
    rw [hrecord.parent_iff, hrecord'.parent_iff]
  have hchildren := hrecord.children.unique hrecord'.children
  have henter :=
    hrecord.enterReactions.places_unique htriggers hrecord'.enterReactions
  have hexit :=
    hrecord.exitReactions.places_unique htriggers hrecord'.exitReactions
  have htransitions : state.transitions = state'.transitions :=
    List.right_unique_forall₂'
      (fun _ _ _ hleft hright => hleft.unique hstates htriggers hright)
      hrecord.transitions hrecord'.transitions
  have hname := hrecord.name.trans hrecord'.name.symm
  have hinitial := hrecord.initial.trans hrecord'.initial.symm
  have hdefaultEnter := hrecord.defaultEnter.trans hrecord'.defaultEnter.symm
  have hdefaultExit := hrecord.defaultExit.trans hrecord'.defaultExit.symm
  cases state
  cases state'
  simp only [State.mk.injEq]
  exact ⟨hname, hparent, hchildren, hinitial, hdefaultEnter, henter,
    hdefaultExit, hexit, htransitions⟩

/-- What a state resolves to depends on the states, on the names of the
triggers, and on the transitions that leave it. -/
theorem StateRecord.Resolves.transfer {records other : ChartRecords}
    {id : StateId} {record : StateRecord} {state : State}
    (hstate : record.Resolves records id state)
    (hstates : other.states = records.states)
    (htriggers : TriggerRecord.names other.triggers =
      TriggerRecord.names records.triggers)
    (htransitions : other.transitions.filter (·.source = record.name) =
      records.transitions.filter (·.source = record.name)) :
    record.Resolves other id state := by
  constructor
  case name => exact hstate.name
  case initial => exact hstate.initial
  case root_iff => exact hstate.root_iff
  case parent_iff => exact hstates ▸ hstate.parent_iff
  case children => exact hstates ▸ hstate.children
  case defaultEnter => exact hstate.defaultEnter
  case enterReactions => exact htriggers ▸ hstate.enterReactions
  case defaultExit => exact hstate.defaultExit
  case exitReactions => exact htriggers ▸ hstate.exitReactions
  case transitions =>
    rw [hstates, htriggers, htransitions]
    exact hstate.transitions

theorem TriggerRecord.Declares.unique {record : TriggerRecord}
    {trigger trigger' : Trigger} (hrecord : record.Declares trigger)
    (hrecord' : record.Declares trigger') : trigger = trigger' := by
  have hname := hrecord.name.trans hrecord'.name.symm
  have harguments := hrecord.arguments.symm.trans hrecord'.arguments
  rw [Except.ok.injEq] at harguments
  cases trigger
  cases trigger'
  simp only [Trigger.mk.injEq]
  exact ⟨hname, harguments⟩

theorem ChartRecords.ResolvesTo.unique {records : ChartRecords}
    {chart chart' : Chart}
    (hstates : (StateRecord.names records.states).Nodup)
    (htriggers : (TriggerRecord.names records.triggers).Nodup)
    (hchart : records.ResolvesTo chart) (hchart' : records.ResolvesTo chart') :
    chart = chart' := by
  have hdeclared : chart.triggers = chart'.triggers :=
    List.right_unique_forall₂' (fun _ _ _ hleft hright => hleft.unique hright)
      hchart.triggers hchart'.triggers
  have hresolved : chart.states = chart'.states := by
    apply List.ext_getElem (hchart.length.trans hchart'.length.symm)
    intro id hid hid'
    have hrecord : id < records.states.length := hchart.length ▸ hid
    have hstate := hchart.states id _ _ (List.getElem?_eq_getElem hrecord)
      (List.getElem?_eq_getElem hid)
    have hstate' := hchart'.states id _ _ (List.getElem?_eq_getElem hrecord)
      (List.getElem?_eq_getElem hid')
    exact hstate.unique hstates htriggers hstate'
  have hroots := hchart.roots.unique hchart'.roots
  have hname := hchart.name.trans hchart'.name.symm
  have htriggerNames := hchart.triggerNames.trans hchart'.triggerNames.symm
  have hstateNames := hchart.stateNames.trans hchart'.stateNames.symm
  cases chart
  cases chart'
  simp only [Chart.mk.injEq]
  exact ⟨hname, hdeclared, hresolved, hroots, htriggerNames, hstateNames⟩

/-! ## A resolved chart and its records -/

theorem ChartRecords.ResolvesTo.getElem?_record {records : ChartRecords}
    {chart : Chart} (hchart : records.ResolvesTo chart) {id : StateId}
    {state : State} (hstate : chart.states[id]? = some state) :
    ∃ record, records.states[id]? = some record ∧
      record.Resolves records id state := by
  have hid := (List.getElem?_eq_some_iff.mp hstate).1
  rw [hchart.length] at hid
  have hrecord := List.getElem?_eq_getElem hid
  exact ⟨_, hrecord, hchart.states id _ state hrecord hstate⟩

theorem ChartRecords.ResolvesTo.getElem?_state {records : ChartRecords}
    {chart : Chart} (hchart : records.ResolvesTo chart) {id : StateId}
    {record : StateRecord} (hrecord : records.states[id]? = some record) :
    ∃ state, chart.states[id]? = some state ∧
      record.Resolves records id state := by
  have hid := (List.getElem?_eq_some_iff.mp hrecord).1
  rw [← hchart.length] at hid
  have hstate := List.getElem?_eq_getElem hid
  exact ⟨_, hstate, hchart.states id record _ hrecord hstate⟩

theorem ChartRecords.ResolvesTo.map_name_states {records : ChartRecords}
    {chart : Chart} (hchart : records.ResolvesTo chart) :
    chart.states.map State.name = StateRecord.names records.states := by
  apply List.ext_getElem (by simp [hchart.length])
  intro id hid hid'
  rw [List.length_map] at hid hid'
  rw [List.getElem_map, List.getElem_map]
  exact (hchart.states id _ _ (List.getElem?_eq_getElem hid')
    (List.getElem?_eq_getElem hid)).name

theorem TriggerRecord.map_name_of_declares {records : List TriggerRecord}
    {triggers : List Trigger}
    (hdeclares : List.Forall₂ TriggerRecord.Declares records triggers) :
    triggers.map Trigger.name = TriggerRecord.names records := by
  rw [← List.forall₂_eq_eq_eq, List.forall₂_map_left_iff,
    List.forall₂_map_right_iff]
  exact hdeclares.flip.imp fun _ _ hdeclares => hdeclares.name

theorem ChartRecords.ResolvesTo.map_name_triggers {records : ChartRecords}
    {chart : Chart} (hchart : records.ResolvesTo chart) :
    chart.triggers.map Trigger.name = TriggerRecord.names records.triggers :=
  TriggerRecord.map_name_of_declares hchart.triggers

theorem flatMap_filter_range_perm (transitions : List Transition)
    (count : Nat) :
    ((List.range count).flatMap fun id =>
      transitions.filter (·.source = id)).Perm
        (transitions.filter (·.source < count)) := by
  induction count with
  | zero => simp
  | succ count ih =>
      rw [List.range_succ, List.flatMap_append, List.flatMap_singleton]
      refine (ih.append_right _).trans ?_
      have hsplit := List.filter_append_perm
        (fun transition : Transition => decide (transition.source < count))
        (transitions.filter (·.source < count + 1))
      have hlow : (transitions.filter (·.source < count + 1)).filter
          (fun transition => decide (transition.source < count)) =
            transitions.filter (·.source < count) := by
        rw [List.filter_filter]
        apply List.filter_congr
        intro transition _
        rw [← Bool.decide_and, decide_eq_decide]
        omega
      have hhigh : (transitions.filter (·.source < count + 1)).filter
          (fun transition => !decide (transition.source < count)) =
            transitions.filter (·.source = count) := by
        rw [List.filter_filter]
        apply List.filter_congr
        intro transition _
        rw [← decide_not, ← Bool.decide_and, decide_eq_decide]
        omega
      rwa [hlow, hhigh] at hsplit

/-! ## What building makes -/

/-- The tables behind a chart that was built, each told by the records. -/
structure Chart.BuiltFrom (records : ChartRecords) (triggers : TriggerTable)
    (states : StateTable) (chart : Chart) : Prop where
  declared : triggers.Declared records.triggers
  reacting : states.ReactingUpTo triggers.names records.states
    records.states.length
  faultless : ∀ Fault ∈ records.faults, Faultless Fault
  resolvable : ∀ record ∈ records.transitions,
    record.Resolvable states.names triggers.names
  chart_eq : chart = ofTables records.name triggers
    (states.withTransitions
      (records.transitions.map (·.resolved states.names triggers.names)))

theorem Chart.exists_builtFrom {records : ChartRecords} {chart : Chart}
    (hbuild : build records = .ok chart) :
    ∃ triggers states, chart.BuiltFrom records triggers states := by
  have hfaultless := (exists_build_ok_iff records).mp ⟨chart, hbuild⟩
  rw [build_eq_bind] at hbuild
  obtain ⟨triggers, htriggers, hrest⟩ := Except.bind_eq_ok_iff.mp hbuild
  obtain ⟨states, hstates, hrest⟩ := Except.bind_eq_ok_iff.mp hrest
  obtain ⟨_, _, hchart⟩ := Except.bind_eq_ok_iff.mp hrest
  have htriggers := TriggerTable.declared_of_ofRecords htriggers
  have hstates := StateTable.reactingUpTo_of_ofRecords hstates
  have htransitions : Faultless (TransitionRecord.Fault states.names
      triggers.names records.transitions) := by
    rw [hstates.names, htriggers.names]
    exact hfaultless _ (by simp [ChartRecords.faults])
  have hresolvable := StateTable.resolvable_of_faultless htransitions
  rw [StateTable.addTransitions_ok hresolvable] at hchart
  exact ⟨triggers, states, htriggers, hstates, hfaultless, hresolvable,
    (Except.ok.inj hchart).symm⟩

namespace Chart.BuiltFrom

variable {records : ChartRecords} {triggers : TriggerTable}
  {states : StateTable} {chart : Chart}

theorem stateNames_nodup (hbuilt : chart.BuiltFrom records triggers states) :
    (StateRecord.names records.states).Nodup :=
  (faultless_nameFault_iff records.states).mp
    (hbuilt.faultless _ (by simp [ChartRecords.faults]))

theorem parentsDeclared (hbuilt : chart.BuiltFrom records triggers states) :
    ParentsDeclared records.states :=
  ((faultless_parentFault_iff hbuilt.stateNames_nodup).mp
    (hbuilt.faultless _ (by simp [ChartRecords.faults]))).1

theorem reactionsDeclared (hbuilt : chart.BuiltFrom records triggers states)
    {id : StateId} {record : StateRecord}
    (hrecord : records.states[id]? = some record) :
    (∀ name ∈ record.enter.triggers,
      name ∈ TriggerRecord.names records.triggers) ∧
    ∀ name ∈ record.exit.triggers,
      name ∈ TriggerRecord.names records.triggers := by
  rw [← List.forall_mem_append]
  exact (faultless_reactionFault_iff _ _).mp
    (hbuilt.faultless _ (by simp [ChartRecords.faults])) record
    (List.mem_of_getElem? hrecord)

theorem getElem?_states (hbuilt : chart.BuiltFrom records triggers states)
    (id : StateId) :
    chart.states[id]? = records.states[id]?.map fun record =>
      { record.reacting triggers.names
          (linkedState records.states records.states.length id record) with
        transitions :=
          (records.transitions.map
            (·.resolved states.names triggers.names)).filter (·.source = id) } := by
  rw [hbuilt.chart_eq, ofTables, StateTable.getElem?_states_withTransitions,
    hbuilt.reacting.states]
  by_cases hid : id < records.states.length
  · simp [hid, reactingState, StateRecord.reacting, linkedState, StateRecord.bare]
  · simp [hid]

theorem filter_resolved (hbuilt : chart.BuiltFrom records triggers states)
    {id : StateId} {record : StateRecord}
    (hrecord : records.states[id]? = some record) :
    (records.transitions.map
      (·.resolved states.names triggers.names)).filter (·.source = id) =
        (records.transitions.filter (·.source = record.name)).map
          (·.resolved states.names triggers.names) := by
  have hnodup : states.names.Nodup :=
    hbuilt.reacting.names ▸ hbuilt.stateNames_nodup
  have hname : states.names[id]? = some record.name := by
    simp [hbuilt.reacting.names, hrecord]
  exact TransitionRecord.filter_resolved hnodup hbuilt.resolvable hname

theorem state_resolves (hbuilt : chart.BuiltFrom records triggers states)
    {id : StateId} {record : StateRecord} {state : State}
    (hrecord : records.states[id]? = some record)
    (hstate : chart.states[id]? = some state) :
    record.Resolves records id state := by
  have hid := (List.getElem?_eq_some_iff.mp hrecord).1
  have hclimbs := climbs_declaredParent? hbuilt.stateNames_nodup
  have hparents : ∀ child parent,
      declaredParent? records.states child = some parent ↔
        DeclaredParent records.states child parent := by
    intro child parent
    rw [← hclimbs]
    rfl
  have hparent : linksBelow records.states.length
      (declaredParent? records.states) id = declaredParent? records.states id := by
    simp [linksBelow, hid]
  obtain ⟨henter, hexit⟩ := hbuilt.reactionsDeclared hrecord
  rw [hbuilt.getElem?_states, hrecord, Option.map_some,
    hbuilt.filter_resolved hrecord, Option.some.injEq] at hstate
  subst hstate
  constructor
  case name => rfl
  case initial => rfl
  case root_iff =>
    simp only [StateRecord.reacting, linkedState, hparent]
    by_cases hroot : record.parent = ""
    · simp [hroot, declaredParent?_of_root hrecord hroot]
    · have hmem := List.mem_of_getElem? hrecord
      have hdeclared := hbuilt.parentsDeclared record hmem hroot
      simp [hroot, declaredParent?_of_child hrecord hroot, hdeclared]
  case parent_iff =>
    intro parent
    rw [← hparents id parent, ← hparent]
    rfl
  case children =>
    apply enumerates_filter_range
    · intro child
      rw [decide_eq_true_eq, hparents]
    · intro child hchild
      exact (DeclaredParent.lt hchild).1
  case defaultEnter => rfl
  case enterReactions =>
    rw [← hbuilt.declared.names] at henter ⊢
    exact namesAt_map_idxOf henter
  case defaultExit => rfl
  case exitReactions =>
    rw [← hbuilt.declared.names] at hexit ⊢
    exact namesAt_map_idxOf hexit
  case transitions =>
    rw [List.forall₂_map_right_iff, List.forall₂_same, ← hbuilt.declared.names,
      ← hbuilt.reacting.names]
    intro transition htransition
    have hmem := List.mem_of_mem_filter htransition
    exact (hbuilt.resolvable transition hmem).resolves

theorem resolvesTo (hbuilt : chart.BuiltFrom records triggers states) :
    records.ResolvesTo chart where
  name := by rw [hbuilt.chart_eq, ofTables]
  triggers := by
    rw [hbuilt.chart_eq]
    exact hbuilt.declared.triggers
  length := length_eq_of_getElem?_map hbuilt.getElem?_states
  states := fun _ _ _ => hbuilt.state_resolves
  roots := by
    have hroots : chart.roots = (List.range records.states.length).filter
        fun id => records.states[id]?.any (·.parent = "") := by
      rw [hbuilt.chart_eq]
      exact hbuilt.reacting.roots
    rw [hroots]
    apply enumerates_filter_range
    · intro id
      simp [Option.any_eq_true]
    · intro id hroot
      rcases hroot with ⟨record, hrecord, -⟩
      exact (List.getElem?_eq_some_iff.mp hrecord).1
  triggerNames := by
    rw [hbuilt.chart_eq]
    exact hbuilt.declared.names
  stateNames := by
    rw [hbuilt.chart_eq]
    exact hbuilt.reacting.names

/-- The transitions of all states are those of the records, sorted by source. -/
theorem transitions_perm (hbuilt : chart.BuiltFrom records triggers states) :
    chart.transitions.Perm
      (records.transitions.map (·.resolved states.names triggers.names)) := by
  have hsources : chart.states.map State.transitions =
      (List.range records.states.length).map fun id =>
        (records.transitions.map
          (·.resolved states.names triggers.names)).filter (·.source = id) := by
    apply List.ext_getElem?
    intro id
    rw [List.getElem?_map, List.getElem?_map, hbuilt.getElem?_states]
    by_cases hid : id < records.states.length
    · simp [hid]
    · simp [hid]
  have hperm := flatMap_filter_range_perm
    (records.transitions.map (·.resolved states.names triggers.names))
    records.states.length
  rw [List.flatMap_def, ← hsources, ← List.flatMap_def] at hperm
  rw [Chart.transitions]
  refine hperm.trans (List.Perm.of_eq (List.filter_eq_self.mpr ?_))
  intro transition htransition
  apply decide_eq_true
  obtain ⟨record, hrecord, rfl⟩ := List.mem_map.mp htransition
  have hsource := (hbuilt.resolvable record hrecord).resolves.source
  have hlt := (List.getElem?_eq_some_iff.mp hsource).1
  rwa [hbuilt.reacting.names, List.length_map, ← hbuilt.reacting.names] at hlt

end Chart.BuiltFrom

namespace Chart

variable {records : ChartRecords} {chart : Chart}

theorem resolvesTo_of_build (hbuild : build records = .ok chart) :
    records.ResolvesTo chart := by
  obtain ⟨triggers, states, hbuilt⟩ := exists_builtFrom hbuild
  exact hbuilt.resolvesTo

theorem resolvesTo_iff_of_build (hbuild : build records = .ok chart)
    (other : Chart) : records.ResolvesTo other ↔ other = chart := by
  obtain ⟨triggers, states, hbuilt⟩ := exists_builtFrom hbuild
  constructor
  · intro hother
    have htriggers := hbuilt.declared.nodup
    exact hother.unique hbuilt.stateNames_nodup htriggers hbuilt.resolvesTo
  · intro heq
    rw [heq]
    exact hbuilt.resolvesTo

theorem exists_resolved_transitions (hbuild : build records = .ok chart) :
    ∃ transitions,
      List.Forall₂
        (TransitionRecord.Resolves (StateRecord.names records.states)
          (TriggerRecord.names records.triggers))
        records.transitions transitions ∧
      chart.transitions.Perm transitions := by
  obtain ⟨triggers, states, hbuilt⟩ := exists_builtFrom hbuild
  refine ⟨_, ?_, hbuilt.transitions_perm⟩
  rw [List.forall₂_map_right_iff, List.forall₂_same, ← hbuilt.declared.names,
    ← hbuilt.reacting.names]
  intro record hrecord
  exact (hbuilt.resolvable record hrecord).resolves

/-- A chart that was built is the one chart that resolves its records.  Names
are found at the records that declare them and nowhere else, and each record
of a transition yields one transition. -/
theorem build_resolves (records : ChartRecords) (chart : Chart)
    (hbuild : build records = .ok chart) :
    (∀ other, records.ResolvesTo other ↔ other = chart) ∧
    (∀ name id, chart.stateId? name = some id ↔
      (StateRecord.names records.states)[id]? = some name) ∧
    (∀ name id, chart.triggerId? name = some id ↔
      (TriggerRecord.names records.triggers)[id]? = some name) ∧
    ∃ transitions,
      List.Forall₂
        (TransitionRecord.Resolves (StateRecord.names records.states)
          (TriggerRecord.names records.triggers))
        records.transitions transitions ∧
      chart.transitions.Perm transitions := by
  obtain ⟨triggers, states, hbuilt⟩ := exists_builtFrom hbuild
  have hchart := hbuilt.resolvesTo
  refine ⟨resolvesTo_iff_of_build hbuild, fun name id => ?_, fun name id => ?_,
    exists_resolved_transitions hbuild⟩
  · rw [stateId?, hchart.stateNames,
      idxOf?_eq_some_iff_getElem? hbuilt.stateNames_nodup]
  · rw [triggerId?, hchart.triggerNames,
      idxOf?_eq_some_iff_getElem? hbuilt.declared.nodup]

/-- A child that is declared before its parent, and transitions that come in
turns, are resolved. -/
theorem child_before_parent_resolves :
    let records : ChartRecords :=
      { name := "Door"
        triggers := [⟨"go", "int n"⟩]
        states := [.child "B" "A", (StateRecord.root "A").onEnter true ["go"]]
        transitions := [⟨"B", "A", "go"⟩, ⟨"A", "B", ""⟩, ⟨"B", "B", ""⟩] }
    ∃ chart, build records = .ok chart ∧
      chart.roots = [1] ∧
      chart.states.map State.children = [[], [0]] ∧
      chart.transitions = [⟨0, 1, some 0⟩, ⟨0, 0, none⟩, ⟨1, 0, none⟩] ∧
      ∀ other, records.ResolvesTo other ↔ other = chart := by
  intro records
  cases hbuild : build records with
  | error error => cases hbuild
  | ok chart =>
      refine ⟨chart, rfl, ?_, ?_, ?_, (build_resolves records chart hbuild).1⟩ <;>
        cases hbuild <;> rfl

end Chart

end Statecharts
