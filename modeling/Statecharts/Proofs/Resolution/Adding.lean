import Statecharts.Proofs.Resolution.Resolved

/-!
# Adding transitions

Transitions are added to a table of resolved states one record after another,
each to the state that its record names as the source.  Adding looks names up
and changes nothing that a later look-up could see, so a list of records may
be added in one go or in parts.  It is not undone by a record that does not
resolve: what was added before that record stays, and nothing behind it is
looked at.
-/

namespace Statecharts

def State.withoutTransitions (state : State) : State :=
  { state with transitions := [] }

def StateTable.withoutTransitions (table : StateTable) : StateTable :=
  { table with states := table.states.map State.withoutTransitions }

/-- A table in which the transitions of some records stand behind those that
its states had, and which is otherwise the same. -/
structure StateTable.Gains (triggers : TriggerTable) (table : StateTable)
    (records : List TransitionRecord) (after : StateTable) : Prop where
  frame : after.withoutTransitions = table.withoutTransitions
  transitions : ∀ (id : StateId) (old new : State),
    table.states[id]? = some old → after.states[id]? = some new →
      ∃ added,
        List.Forall₂
          (TransitionRecord.Resolves table.names triggers.names)
          (records.filter (·.source = old.name)) added ∧
        new.transitions = old.transitions ++ added

/-- The outcome of adding records: of all of them, or of those in front of the
first that does not resolve. -/
inductive StateTable.Adds (triggers : TriggerTable) (table : StateTable)
    (records : List TransitionRecord) :
    StateTable → Except ResolutionError Unit → Prop
  | all {after : StateTable}
      (hrecords : ∀ record ∈ records,
        record.Resolvable table.names triggers.names)
      (hafter : table.Gains triggers records after) :
      Adds triggers table records after (.ok ())
  | upTo {index : Nat} {error : ResolutionError} {after : StateTable}
      (hbefore : ∀ record ∈ records.take index,
        record.Resolvable table.names triggers.names)
      (hfault : TransitionRecord.Fault table.names triggers.names records index
        error)
      (hafter : table.Gains triggers (records.take index) after) :
      Adds triggers table records after (.error error)

/-- The names in two tables are those of their states and triggers, and no two
of them are the same. -/
structure StateTable.Indexed (triggers : TriggerTable) (table : StateTable) :
    Prop where
  names : table.names = table.states.map State.name
  stateNames : table.names.Nodup
  triggerNames : triggers.names.Nodup

theorem State.ext_of_withoutTransitions {state other : State}
    (hrest : state.withoutTransitions = other.withoutTransitions)
    (htransitions : state.transitions = other.transitions) : state = other :=
  calc state
      = { state.withoutTransitions with transitions := state.transitions } := rfl
    _ = { other.withoutTransitions with transitions := other.transitions } := by
        rw [hrest, htransitions]

namespace StateTable

variable {triggers : TriggerTable} {table after other : StateTable}
  {records : List TransitionRecord}

/-! ## Apart from transitions -/

@[simp] theorem names_withoutTransitions (table : StateTable) :
    table.withoutTransitions.names = table.names := rfl

@[simp] theorem roots_withoutTransitions (table : StateTable) :
    table.withoutTransitions.roots = table.roots := rfl

theorem getElem?_withoutTransitions (table : StateTable) (id : StateId) :
    table.withoutTransitions.states[id]? =
      table.states[id]?.map State.withoutTransitions := by
  rw [withoutTransitions, List.getElem?_map]

theorem exists_getElem?_of_frame
    (hframe : after.withoutTransitions = other.withoutTransitions)
    {id : StateId} {state : State} (hstate : other.states[id]? = some state) :
    ∃ new, after.states[id]? = some new ∧
      new.withoutTransitions = state.withoutTransitions := by
  have hid :=
    congrArg (fun table : StateTable => table.states[id]?) hframe
  simpa only [getElem?_withoutTransitions, hstate, Option.map_some,
    Option.map_eq_some_iff] using hid

theorem ext_of_withoutTransitions
    (hframe : after.withoutTransitions = other.withoutTransitions)
    (htransitions : ∀ (id : StateId) (new new' : State),
      after.states[id]? = some new → other.states[id]? = some new' →
        new.transitions = new'.transitions) : after = other := by
  have hstates : after.states = other.states := by
    apply List.ext_getElem?
    intro id
    cases hnew : after.states[id]? with
    | none =>
        cases hnew' : other.states[id]? with
        | none => rfl
        | some new' =>
            obtain ⟨new, hsome, -⟩ := exists_getElem?_of_frame hframe hnew'
            rw [hnew] at hsome
            cases hsome
    | some new =>
        obtain ⟨new', hnew', hrest⟩ :=
          exists_getElem?_of_frame hframe.symm hnew
        rw [hnew', Option.some.injEq]
        exact State.ext_of_withoutTransitions hrest.symm
          (htransitions id new new' hnew hnew')
  have hroots : after.roots = other.roots := by
    simpa using congrArg StateTable.roots hframe
  have hnames : after.names = other.names := by
    simpa using congrArg StateTable.names hframe
  rw [StateTable.mk.injEq]
  exact ⟨hstates, hroots, hnames⟩

theorem withoutTransitions_withTransitions (transitions : List Transition) :
    (table.withTransitions transitions).withoutTransitions =
      table.withoutTransitions := by
  simp only [withoutTransitions, withTransitions, StateTable.mk.injEq, and_true]
  apply List.ext_getElem?
  intro id
  rw [List.getElem?_map, List.getElem?_mapIdx, List.getElem?_map, Option.map_map]
  rfl

theorem nodup_names_of_ofRecords {stateRecords : List StateRecord}
    (htable : ofRecords triggers stateRecords = .ok table) :
    table.names.Nodup := by
  have hfaultless :=
    (exists_ok_iff_faultless ofRecords_error_iff).mp ⟨table, htable⟩
  rw [(reactingUpTo_of_ofRecords htable).names]
  exact stateNames_nodup (hfaultless _ List.mem_cons_self)

theorem names_eq_of_ofRecords {stateRecords : List StateRecord}
    (htable : ofRecords triggers stateRecords = .ok table) :
    table.names = table.states.map State.name := by
  have hreacting := reactingUpTo_of_ofRecords htable
  rw [hreacting.names]
  apply List.ext_getElem?
  intro id
  rw [List.getElem?_map, List.getElem?_map, hreacting.states, Option.map_map]
  congr 1
  funext record
  simp only [Function.comp_apply, reactingState]
  split <;> rfl

theorem indexed_of_ofRecords {triggerRecords : List TriggerRecord}
    {stateRecords : List StateRecord}
    (htriggers : TriggerTable.ofRecords triggerRecords = .ok triggers)
    (hstates : ofRecords triggers stateRecords = .ok table.withoutTransitions) :
    table.Indexed triggers where
  names := by
    have hnames := names_eq_of_ofRecords hstates
    rw [withoutTransitions, List.map_map] at hnames
    exact hnames
  stateNames := by
    rw [← names_withoutTransitions]
    exact nodup_names_of_ofRecords hstates
  triggerNames := by
    have hdeclared := TriggerTable.declared_of_ofRecords htriggers
    rw [hdeclared.names]
    exact hdeclared.nodup

/-! ## What is gained -/

theorem Gains.unique (hindexed : table.Indexed triggers)
    (hafter : table.Gains triggers records after)
    (hother : table.Gains triggers records other) : after = other := by
  apply ext_of_withoutTransitions (hafter.frame.trans hother.frame.symm)
  intro id new new' hnew hnew'
  obtain ⟨old, hold, -⟩ := exists_getElem?_of_frame hafter.frame.symm hnew
  obtain ⟨added, hadded, htransitions⟩ := hafter.transitions id old new hold hnew
  obtain ⟨added', hadded', htransitions'⟩ :=
    hother.transitions id old new' hold hnew'
  have hsame : added = added' := by
    refine List.right_unique_forall₂' (fun _ _ _ hleft hright => ?_) hadded hadded'
    exact hleft.unique hindexed.stateNames hindexed.triggerNames hright
  rw [htransitions, htransitions', hsame]

theorem Indexed.gains (hindexed : table.Indexed triggers)
    (hrecords : ∀ record ∈ records,
      record.Resolvable table.names triggers.names) :
    table.Gains triggers records
      (table.withTransitions
        (records.map (·.resolved table.names triggers.names))) where
  frame := withoutTransitions_withTransitions _
  transitions := by
    intro id old new hold hnew
    have hname : table.names[id]? = some old.name := by
      rw [hindexed.names, List.getElem?_map, hold, Option.map_some]
    rw [getElem?_states_withTransitions, hold, Option.map_some,
      Option.some.injEq] at hnew
    rw [TransitionRecord.filter_resolved hindexed.stateNames hrecords hname]
      at hnew
    refine ⟨_, ?_, congrArg State.transitions hnew.symm⟩
    rw [List.forall₂_map_right_iff, List.forall₂_same]
    intro record hrecord
    exact (hrecords record (List.mem_of_mem_filter hrecord)).resolves

theorem Indexed.adds_iff (hindexed : table.Indexed triggers)
    (result : Except ResolutionError Unit) :
    table.Adds triggers records after result ↔
      table.addTransitions triggers records = (after, result) := by
  constructor
  · intro hadds
    cases hadds with
    | all hrecords hafter =>
        rw [addTransitions_ok hrecords,
          (hindexed.gains hrecords).unique hindexed hafter]
    | upTo hbefore hfault hafter =>
        rw [addTransitions_upTo hbefore hfault,
          (hindexed.gains hbefore).unique hindexed hafter]
  · intro hadd
    rcases firstFault_or_faultless
      (TransitionRecord.Fault table.names triggers.names records) with
      ⟨error, index, hfault, hclean⟩ | hfaultless
    · have hbefore := resolvable_of_clean index hclean
      rw [addTransitions_upTo hbefore hfault] at hadd
      cases hadd
      exact .upTo hbefore hfault (hindexed.gains hbefore)
    · have hrecords := resolvable_of_faultless hfaultless
      rw [addTransitions_ok hrecords] at hadd
      cases hadd
      exact .all hrecords (hindexed.gains hrecords)

/-! ## What stays -/

theorem Gains.getElem?_of_no_source (hafter : table.Gains triggers records after)
    {id : StateId} {state : State} (hstate : table.states[id]? = some state)
    (hnone : ∀ record ∈ records, record.source ≠ state.name) :
    after.states[id]? = some state := by
  obtain ⟨new, hnew, hrest⟩ := exists_getElem?_of_frame hafter.frame hstate
  obtain ⟨added, hadded, htransitions⟩ :=
    hafter.transitions id state new hstate hnew
  have hfilter : records.filter (·.source = state.name) = [] := by
    simpa using hnone
  rw [hfilter, List.forall₂_nil_left_iff] at hadded
  rw [hadded, List.append_nil] at htransitions
  rw [hnew, State.ext_of_withoutTransitions hrest htransitions]

theorem Adds.frame {result : Except ResolutionError Unit}
    (hadds : table.Adds triggers records after result) :
    after.withoutTransitions = table.withoutTransitions := by
  cases hadds with
  | all _ hafter => exact hafter.frame
  | upTo _ _ hafter => exact hafter.frame

theorem Adds.getElem?_of_no_source {result : Except ResolutionError Unit}
    (hadds : table.Adds triggers records after result) {id : StateId}
    {state : State} (hstate : table.states[id]? = some state)
    (hnone : ∀ record ∈ records, record.source ≠ state.name) :
    after.states[id]? = some state := by
  cases hadds with
  | all _ hafter => exact hafter.getElem?_of_no_source hstate hnone
  | upTo _ _ hafter =>
      apply hafter.getElem?_of_no_source hstate
      intro record hrecord
      exact hnone record (List.mem_of_mem_take hrecord)

/-! ## One list after another -/

theorem addTransitions_in_parts (first second : List TransitionRecord) :
    table.addTransitions triggers (first ++ second) =
      match table.addTransitions triggers first with
      | (after, .ok ()) => after.addTransitions triggers second
      | (after, .error error) => (after, .error error) := by
  induction first generalizing table with
  | nil => rfl
  | cons record first ih =>
      rw [List.cons_append, addTransitions, addTransitions]
      cases table.transition triggers record with
      | error error => rfl
      | ok transition => exact ih

/-- To a table of resolved states, with any transitions in it already, a list
of records is added in one go as in parts.  Adding stops at the first record
that does not resolve; what stood in front of it stays, and nothing but the
transitions of the states that are named as sources changes. -/
theorem transitions_added_in_sequence (triggerRecords : List TriggerRecord)
    (stateRecords : List StateRecord) (triggers : TriggerTable)
    (table : StateTable)
    (htriggers : TriggerTable.ofRecords triggerRecords = .ok triggers)
    (hstates : ofRecords triggers stateRecords = .ok table.withoutTransitions) :
    (∀ first second, table.addTransitions triggers (first ++ second) =
      match table.addTransitions triggers first with
      | (after, .ok ()) => after.addTransitions triggers second
      | (after, .error error) => (after, .error error)) ∧
    (∀ records after result,
      table.addTransitions triggers records = (after, result) ↔
        table.Adds triggers records after result) ∧
    ∀ records,
      let after := (table.addTransitions triggers records).1
      after.withoutTransitions = table.withoutTransitions ∧
      ∀ (id : StateId) (state : State), table.states[id]? = some state →
        (∀ record ∈ records, record.source ≠ state.name) →
          after.states[id]? = some state := by
  have hindexed := indexed_of_ofRecords htriggers hstates
  refine ⟨addTransitions_in_parts,
    fun _ _ result => (hindexed.adds_iff result).symm, fun records => ?_⟩
  have hadds : table.Adds triggers records
      (table.addTransitions triggers records).1
      (table.addTransitions triggers records).2 :=
    (hindexed.adds_iff _).mpr rfl
  exact ⟨hadds.frame, fun _ _ => hadds.getElem?_of_no_source⟩

/-- The third record names a target that is not declared, and a trigger that is
not declared either; the fourth is not reached. -/
theorem failed_list_keeps_its_beginning :
    let triggers : TriggerTable := ⟨[⟨"go", [⟨"int", "n"⟩]⟩], ["go"]⟩
    let door : State := { name := "Door", initial := true, children := [1, 2] }
    let shut : State := { name := "Shut", initial := true, parent := some 0 }
    let ajar : State := { name := "Ajar", initial := false, parent := some 0 }
    let table : StateTable :=
      ⟨[door, { shut with transitions := [⟨1, 1, none⟩] }, ajar], [0],
        ["Door", "Shut", "Ajar"]⟩
    let records : List TransitionRecord :=
      [⟨"Shut", "Ajar", "go"⟩, ⟨"Ajar", "Shut", ""⟩, ⟨"Shut", "Gone", "lost"⟩,
        ⟨"Shut", "Door", ""⟩]
    let after : StateTable :=
      ⟨[door, { shut with transitions := [⟨1, 1, none⟩, ⟨1, 2, some 0⟩] },
        { ajar with transitions := [⟨2, 1, none⟩] }], [0],
        ["Door", "Shut", "Ajar"]⟩
    TriggerTable.ofRecords [⟨"go", "int n"⟩] = .ok triggers ∧
      ofRecords triggers
        [(StateRecord.root "Door").markInitial,
          (StateRecord.child "Shut" "Door").markInitial, .child "Ajar" "Door"] =
          .ok table.withoutTransitions ∧
      table.Adds triggers records after
        (.error (.unknownTargetState "transition lost: Shut > Gone" "Gone")) := by
  intro triggers door shut ajar table records after
  have htriggers : TriggerTable.ofRecords [⟨"go", "int n"⟩] = .ok triggers := by
    decide
  have hstates : ofRecords triggers
      [(StateRecord.root "Door").markInitial,
        (StateRecord.child "Shut" "Door").markInitial, .child "Ajar" "Door"] =
        .ok table.withoutTransitions := by
    decide
  obtain ⟨-, hadds, -⟩ :=
    transitions_added_in_sequence _ _ triggers table htriggers hstates
  exact ⟨htriggers, hstates, (hadds records after _).mp rfl⟩

end StateTable

end Statecharts
