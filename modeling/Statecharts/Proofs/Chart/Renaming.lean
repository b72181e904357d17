import Statecharts.Proofs.Chart.Validation
import Statecharts.Proofs.Resolution.Renaming

/-!
# Renamed charts

A chart resolves the renamed records when the chart with the old names resolves
the records, for places do not depend on names.  As records are resolved by one
chart at most, building commutes with a renaming; validating does so too, since
it only shows the names of what it finds.
-/

namespace Statecharts

theorem forM_mapError {α ε δ : Type} {change : ε → δ} (check : α → Except ε Unit)
    (items : List α) :
    (items.forM fun item => (check item).mapError change) =
      (items.forM check).mapError change := by
  induction items with
  | nil => rfl
  | cons item items ih =>
      rw [forM_cons, forM_cons, ih]
      cases check item <;> rfl

section

variable (f g : Renaming)

/-! ## Resolved records -/

theorem TriggerRecord.Declares.rename {record : TriggerRecord} {trigger : Trigger}
    (hdeclares : record.Declares trigger) :
    (record.rename g).Declares (trigger.rename g) :=
  ⟨congrArg g hdeclares.name, hdeclares.arguments⟩

theorem TransitionRecord.Resolves.rename {states triggers : List String}
    {record : TransitionRecord} {transition : Transition}
    (hrecord : record.Resolves states triggers transition) :
    (record.rename f g).Resolves (states.map f) (triggers.map g) transition where
  source := getElem?_map_of_eq_some f hrecord.source
  target := getElem?_map_of_eq_some f hrecord.target
  null_iff := hrecord.null_iff.trans g.apply_eq_empty_iff.symm
  trigger id hid := getElem?_map_of_eq_some g (hrecord.trigger id hid)

theorem StateRecord.Resolves.rename {records : ChartRecords} {id : StateId}
    {record : StateRecord} {state : State}
    (hstate : record.Resolves records id state) :
    (record.rename f g).Resolves (records.rename f g) id (state.rename f) := by
  have htriggers : TriggerRecord.names (records.rename f g).triggers =
      (TriggerRecord.names records.triggers).map g :=
    TriggerRecord.names_rename g records.triggers
  have hparents : DeclaredParent (records.rename f g).states =
      DeclaredParent records.states := declaredParent_rename f g records.states
  constructor
  case name => exact congrArg f hstate.name
  case initial => exact hstate.initial
  case root_iff => exact hstate.root_iff.trans f.apply_eq_empty_iff.symm
  case parent_iff =>
    rw [hparents]
    exact hstate.parent_iff
  case children =>
    rw [hparents]
    exact hstate.children
  case defaultEnter => exact hstate.defaultEnter
  case enterReactions =>
    rw [htriggers, namesAt_map_iff]
    exact ⟨_, hstate.enterReactions, rfl⟩
  case defaultExit => exact hstate.defaultExit
  case exitReactions =>
    rw [htriggers, namesAt_map_iff]
    exact ⟨_, hstate.exitReactions, rfl⟩
  case transitions =>
    have hleaving : (records.rename f g).transitions.filter
        (·.source = (record.rename f g).name) =
          (records.transitions.filter (·.source = record.name)).map
            (TransitionRecord.rename f g) := by
      rw [ChartRecords.rename, List.filter_map]
      simp [Function.comp_def, TransitionRecord.rename, StateRecord.rename]
    rw [hleaving, htriggers, List.forall₂_map_left_iff, ChartRecords.rename,
      StateRecord.names_rename]
    exact hstate.transitions.imp fun _ _ hrecord => hrecord.rename f g

theorem ChartRecords.ResolvesTo.rename {records : ChartRecords} {chart : Chart}
    (hchart : records.ResolvesTo chart) :
    (records.rename f g).ResolvesTo (chart.rename f g) := by
  constructor
  case name => exact hchart.name
  case triggers =>
    rw [ChartRecords.rename, Chart.rename, List.forall₂_map_left_iff,
      List.forall₂_map_right_iff]
    exact hchart.triggers.imp fun _ _ hdeclares => hdeclares.rename g
  case length => simpa [ChartRecords.rename, Chart.rename] using hchart.length
  case states =>
    intro id record' state' hrecord' hstate'
    obtain ⟨record, hrecord, rfl⟩ := exists_of_getElem?_map hrecord'
    obtain ⟨state, hstate, rfl⟩ := exists_of_getElem?_map hstate'
    exact (hchart.states id record state hrecord hstate).rename f g
  case roots =>
    refine ⟨hchart.roots.ascending, fun id => ?_⟩
    rw [Chart.rename, hchart.roots.mem_iff]
    simp [ChartRecords.rename, StateRecord.rename]
  case triggerNames =>
    rw [Chart.rename, ChartRecords.rename, TriggerRecord.names_rename,
      hchart.triggerNames]
  case stateNames =>
    rw [Chart.rename, ChartRecords.rename, StateRecord.names_rename,
      hchart.stateNames]

namespace Chart

theorem build_rename_ok {records : ChartRecords} {chart : Chart}
    (hbuild : build records = .ok chart) :
    build (records.rename f g) = .ok (chart.rename f g) := by
  have hfaultless := (exists_build_ok_iff records).mp ⟨chart, hbuild⟩
  have hrenamed : ∃ chart', build (records.rename f g) = .ok chart' := by
    rw [exists_build_ok_iff]
    intro Fault' hmem index
    obtain ⟨Fault, hFault, halike⟩ :=
      exists_mem_left_of_forall₂ (records.faults_alike f g) hmem
    exact halike.clean (hfaultless Fault hFault index)
  obtain ⟨chart', hbuild'⟩ := hrenamed
  have hresolves := (resolvesTo_of_build hbuild).rename f g
  rw [(resolvesTo_iff_of_build hbuild' _).mp hresolves, hbuild']

/-! ## Validating a renamed chart -/

theorem checkSingleInitial_rename (states : List State) (scope : Scope)
    (group : List StateId) :
    checkSingleInitial (states.map (State.rename f)) (scope.rename f) group =
      (checkSingleInitial states scope group).mapError (ValidationError.rename f) := by
  have hmembers : (group.filterMap ((states.map (State.rename f))[·]?)).filter
      State.initial =
        ((group.filterMap (states[·]?)).filter State.initial).map
          (State.rename f) := by
    simp only [List.getElem?_map, ← List.map_filterMap, List.filter_map]
    rfl
  unfold checkSingleInitial
  rw [hmembers]
  rcases (group.filterMap (states[·]?)).filter State.initial with
    _ | ⟨first, _ | ⟨second, later⟩⟩ <;> rfl

theorem validateGroup_rename (states : List State) (levels : Nat) (scope : Scope)
    (group : List StateId) :
    validateGroup (states.map (State.rename f)) levels (scope.rename f) group =
      (validateGroup states levels scope group).mapError
        (ValidationError.rename f) := by
  induction levels generalizing scope group with
  | zero => rfl
  | succ levels ih =>
      have hbelow : validateBelow (states.map (State.rename f)) levels = fun id =>
          (validateBelow states levels id).mapError (ValidationError.rename f) := by
        funext id
        rw [validateBelow, validateBelow, List.getElem?_map]
        cases states[id]? with
        | none => rfl
        | some state =>
            have hcomposite : (state.rename f).isComposite = state.isComposite := rfl
            simp only [Option.map_some, hcomposite]
            split
            next => exact ih (.childrenOf state.name) state.children
            next => rfl
      rw [validateGroup_succ, validateGroup_succ, checkSingleInitial_rename, hbelow]
      cases checkSingleInitial states scope group with
      | error error => rfl
      | ok checked => exact forM_mapError (validateBelow states levels) group

theorem validate_rename (chart : Chart) :
    (chart.rename f g).validate = chart.validate.mapError (ValidationError.rename f) := by
  have hlength : (chart.rename f g).states.length = chart.states.length :=
    List.length_map _
  unfold validate
  rw [hlength]
  have hroots : (chart.rename f g).roots = chart.roots := rfl
  rw [hroots]
  split
  next => rfl
  next => exact validateGroup_rename f chart.states _ .roots chart.roots

/-- Renaming the records renames what building makes of them, and what
validating says of it.  A chart keeps its places, orders and flags.  An error
shows at the same check and the same record, with the names renamed and the
transition told by its renamed record. -/
theorem build_and_validate_rename (records : ChartRecords) :
    (∀ chart, build records = .ok chart →
      build (records.rename f g) = .ok (chart.rename f g)) ∧
    (∀ error, build records = .error error →
      ∃ check index,
        FirstFaultAt records.faults check index error ∧
        FirstFaultAt (records.rename f g).faults check index
          (error.rename f g
            (transitionText (records.rename f g).transitions index)) ∧
        build (records.rename f g) =
          .error (error.rename f g
            (transitionText (records.rename f g).transitions index))) ∧
    ∀ chart : Chart, (chart.rename f g).validate =
      chart.validate.mapError (ValidationError.rename f) := by
  refine ⟨fun chart => build_rename_ok f g, fun error herror => ?_,
    validate_rename f g⟩
  rw [build_error_iff, firstFaultOf_iff_exists_at] at herror
  obtain ⟨check, index, hfirst⟩ := herror
  have hrenamed := hfirst.told (records.faults_alike f g)
  refine ⟨check, index, hfirst, hrenamed, ?_⟩
  rw [build_error_iff, firstFaultOf_iff_exists_at]
  exact ⟨check, index, hrenamed⟩

/-- Two states take each other's name, and the trigger gets a new one: the
chart that is built is refused by validation for the renamed roots, and a
transition to an unknown state is told by its renamed record. -/
theorem swapped_names_fail_alike :
    let f := Renaming.swap "Open" "Shut" (by decide) (by decide)
    let g := Renaming.swap "go" "move" (by decide) (by decide)
    let records : ChartRecords :=
      { name := "Door"
        triggers := [⟨"go", "int n"⟩]
        states := [(StateRecord.root "Open").markInitial,
          (StateRecord.root "Shut").markInitial]
        transitions := [⟨"Open", "Shut", "go"⟩] }
    let faulty : ChartRecords :=
      { records with
        transitions := [⟨"Open", "Shut", "go"⟩, ⟨"Shut", "Ajar", "go"⟩] }
    (∃ chart, build records = .ok chart ∧
      build (records.rename f g) = .ok (chart.rename f g) ∧
      chart.validate = .error (.duplicateInitial .roots "Open" "Shut") ∧
      (chart.rename f g).validate =
        .error (.duplicateInitial .roots "Shut" "Open")) ∧
    ∃ check index,
      FirstFaultAt faulty.faults check index
        (.unknownTargetState "transition go: Shut > Ajar" "Ajar") ∧
      FirstFaultAt (faulty.rename f g).faults check index
        (.unknownTargetState "transition move: Open > Ajar" "Ajar") ∧
      build (faulty.rename f g) =
        .error (.unknownTargetState "transition move: Open > Ajar" "Ajar") := by
  intro f g records faulty
  constructor
  · obtain ⟨hok, -, hvalidate⟩ := build_and_validate_rename f g records
    obtain ⟨chart, hbuild⟩ : ∃ chart, build records = .ok chart := ⟨_, rfl⟩
    have hvalid :
        chart.validate = .error (.duplicateInitial .roots "Open" "Shut") := by
      cases hbuild
      rfl
    refine ⟨chart, hbuild, hok chart hbuild, hvalid, ?_⟩
    rw [hvalidate, hvalid]
    rfl
  · obtain ⟨-, herror, -⟩ := build_and_validate_rename f g faulty
    have hbuild : build faulty =
        .error (.unknownTargetState "transition go: Shut > Ajar" "Ajar") := rfl
    obtain ⟨check, index, hfirst, hfirst', hrenamed⟩ := herror _ hbuild
    have hbuild' : build (faulty.rename f g) =
        .error (.unknownTargetState "transition move: Open > Ajar" "Ajar") := by
      subst f g faulty records
      decide +kernel
    rw [hbuild', Except.error.injEq] at hrenamed
    rw [← hrenamed] at hfirst'
    exact ⟨check, index, hfirst, hfirst', hbuild'⟩

end Chart

end

end Statecharts
