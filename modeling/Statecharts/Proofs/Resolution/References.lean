import Statecharts.Proofs.Resolution.Linking
import Statecharts.Resolution.Build

/-!
# Resolved references

The sweeps over reactions and over transitions only look names up: what a
name stands for does not change any more.  Each step therefore either finds
all its names declared and puts their places where they belong, or reports
the first one that is not.
-/

namespace Statecharts

/-! ## Reactions -/

/-- The first of several names that is not declared. -/
def FirstUndeclared (declared names : List String) (name : String) : Prop :=
  ∃ before after, names = before ++ name :: after ∧
    (∀ other ∈ before, other ∈ declared) ∧ name ∉ declared

theorem firstUndeclared_cons_iff {declared names : List String}
    {first name : String} :
    FirstUndeclared declared (first :: names) name ↔
      first ∉ declared ∧ name = first ∨
        first ∈ declared ∧ FirstUndeclared declared names name := by
  constructor
  · intro hfirst
    rcases hfirst with ⟨before, after, hsplit, hbefore, hundeclared⟩
    cases before with
    | nil =>
        cases hsplit
        exact Or.inl ⟨hundeclared, rfl⟩
    | cons other before =>
        cases hsplit
        rw [List.forall_mem_cons] at hbefore
        exact Or.inr ⟨hbefore.1, before, after, rfl, hbefore.2, hundeclared⟩
  · intro hcases
    rcases hcases with ⟨hfirst, rfl⟩ |
      ⟨hfirst, before, after, rfl, hbefore, hundeclared⟩
    · exact ⟨[], names, rfl, by simp, hfirst⟩
    · exact ⟨first :: before, after, rfl,
        List.forall_mem_cons.mpr ⟨hfirst, hbefore⟩, hundeclared⟩

theorem exists_firstUndeclared_iff {declared names : List String} :
    (∃ name, FirstUndeclared declared names name) ↔
      ¬ ∀ name ∈ names, name ∈ declared := by
  induction names with
  | nil => simp [FirstUndeclared]
  | cons first names ih =>
      simp only [firstUndeclared_cons_iff, exists_or, exists_and_left, ih,
        List.forall_mem_cons]
      by_cases hfirst : first ∈ declared <;> simp [hfirst]

namespace StateTable

variable {triggers : TriggerTable}

theorem reactionIds_ok {state : String} {kind : ReactionKind}
    {reaction : ReactionRecord}
    (hdeclared : ∀ name ∈ reaction.triggers, name ∈ triggers.names) :
    reactionIds triggers state kind reaction =
      .ok (reaction.triggers.map triggers.names.idxOf) := by
  rcases reaction with ⟨default, names⟩
  simp only [reactionIds] at hdeclared ⊢
  induction names with
  | nil => rfl
  | cons name names ih =>
      rw [List.forall_mem_cons] at hdeclared
      rw [List.mapM_cons, TriggerTable.triggerId?,
        idxOf?_eq_some_idxOf hdeclared.1, ih hdeclared.2]
      rfl

theorem reactionIds_error_iff {state : String} {kind : ReactionKind}
    {reaction : ReactionRecord} {error : ResolutionError} :
    reactionIds triggers state kind reaction = .error error ↔
      ∃ trigger, FirstUndeclared triggers.names reaction.triggers trigger ∧
        error = .unknownReactionTrigger state kind trigger := by
  rcases reaction with ⟨default, names⟩
  simp only [reactionIds]
  induction names with
  | nil => simp [FirstUndeclared, pure, Except.pure]
  | cons name names ih =>
      rw [List.mapM_cons, Except.bind_eq_error_iff, TriggerTable.triggerId?]
      simp only [firstUndeclared_cons_iff]
      by_cases hname : name ∈ triggers.names
      · rw [idxOf?_eq_some_idxOf hname]
        simp [hname, Except.bind_eq_error_iff, ih, pure, Except.pure]
      · rw [List.idxOf?_eq_none_iff.mpr hname]
        simp [hname, eq_comm]

theorem declared_of_reactionIds {state : String} {kind : ReactionKind}
    {reaction : ReactionRecord} {ids : List TriggerId}
    (hids : reactionIds triggers state kind reaction = .ok ids) :
    ∀ name ∈ reaction.triggers, name ∈ triggers.names := by
  by_contra hundeclared
  obtain ⟨trigger, hfirst⟩ := exists_firstUndeclared_iff.mpr hundeclared
  have herror : reactionIds triggers state kind reaction =
      .error (.unknownReactionTrigger state kind trigger) :=
    reactionIds_error_iff.mpr ⟨trigger, hfirst, rfl⟩
  rw [hids] at herror
  cases herror

end StateTable

inductive StateRecord.ReactionFault (triggers : List String)
    (records : List StateRecord) (index : Nat) : ResolutionError → Prop
  | enter {record : StateRecord} {trigger : String}
      (hrecord : records[index]? = some record)
      (hfirst : FirstUndeclared triggers record.enter.triggers trigger) :
      ReactionFault triggers records index
        (.unknownReactionTrigger record.name .enter trigger)
  | exit {record : StateRecord} {trigger : String}
      (hrecord : records[index]? = some record)
      (henter : ∀ name ∈ record.enter.triggers, name ∈ triggers)
      (hfirst : FirstUndeclared triggers record.exit.triggers trigger) :
      ReactionFault triggers records index
        (.unknownReactionTrigger record.name .exit trigger)

def StateRecord.reacting (triggers : List String) (record : StateRecord)
    (state : State) : State :=
  { state with
    defaultEnter := record.enter.default
    enterReactions := record.enter.triggers.map triggers.idxOf
    defaultExit := record.exit.default
    exitReactions := record.exit.triggers.map triggers.idxOf }

variable {records : List StateRecord} {record : StateRecord}
  {count index : Nat}

/-- The linked state of a record, with its reactions when they are among the
first `count`. -/
def reactingState (triggers : List String) (records : List StateRecord)
    (count : Nat) (id : StateId) (record : StateRecord) : State :=
  if id < count then
    record.reacting triggers (linkedState records records.length id record)
  else linkedState records records.length id record

structure StateTable.ReactingUpTo (triggers : List String)
    (records : List StateRecord) (count : Nat) (table : StateTable) : Prop where
  names : table.names = StateRecord.names records
  states : ∀ id, table.states[id]? =
    records[id]?.map (reactingState triggers records count id)
  roots : table.roots = (List.range records.length).filter fun id =>
    records[id]?.any (·.parent = "")

theorem StateTable.LinkedUpTo.reactingUpTo {table : StateTable}
    (hlinked : table.LinkedUpTo records records.length)
    (triggers : List String) : table.ReactingUpTo triggers records 0 :=
  ⟨hlinked.names, hlinked.states, hlinked.roots⟩

theorem reactingState_succ (triggers : List String) (id : StateId) :
    reactingState triggers records (count + 1) id record =
      if count = id then
        record.reacting triggers (reactingState triggers records count id record)
      else reactingState triggers records count id record := by
  rcases Nat.lt_trichotomy id count with hlt | rfl | hgt
  · simp [reactingState, hlt, Nat.lt_succ_of_lt hlt, Nat.ne_of_gt hlt]
  · simp [reactingState]
  · simp [reactingState, Nat.not_lt_of_gt hgt, Nat.not_lt.mpr hgt,
      Nat.ne_of_lt hgt]

namespace StateTable

variable {triggers : TriggerTable}

theorem react_ok {table : StateTable}
    (henter : ∀ name ∈ record.enter.triggers, name ∈ triggers.names)
    (hexit : ∀ name ∈ record.exit.triggers, name ∈ triggers.names) :
    table.react triggers index record =
      .ok { table with
        states := table.states.modify index (record.reacting triggers.names) } := by
  rw [react, reactionIds_ok henter, reactionIds_ok hexit]
  rfl

theorem react_error_iff {table : StateTable} {error : ResolutionError}
    (hrecord : records[index]? = some record) :
    table.react triggers index record = .error error ↔
      StateRecord.ReactionFault triggers.names records index error := by
  simp only [react, Except.bind_eq_error_iff, reactionIds_error_iff]
  constructor
  · intro herror
    rcases herror with ⟨trigger, hfirst, rfl⟩ |
      ⟨ids, henter, ⟨trigger, hfirst, rfl⟩ | ⟨_, _, hpure⟩⟩
    · exact .enter hrecord hfirst
    · exact .exit hrecord (declared_of_reactionIds henter) hfirst
    · cases hpure
  · intro hfault
    rcases hfault with ⟨hrecord', hfirst⟩ | ⟨hrecord', henter, hfirst⟩
    · rw [hrecord] at hrecord'
      cases hrecord'
      exact Or.inl ⟨_, hfirst, rfl⟩
    · rw [hrecord] at hrecord'
      cases hrecord'
      exact Or.inr ⟨_, reactionIds_ok henter, Or.inl ⟨_, hfirst, rfl⟩⟩

theorem react_rule (triggers : TriggerTable) (records : List StateRecord) :
    StepRule (StateTable.react triggers) records
      (StateRecord.ReactionFault triggers.names records)
      (StateTable.ReactingUpTo triggers.names records) where
  bound := by
    intro index error hfault
    rcases hfault with ⟨hrecord, -⟩ | ⟨hrecord, -, -⟩ <;>
      exact (List.getElem?_eq_some_iff.mp hrecord).1
  fails_iff := by
    intro index record table hrecord _ error
    exact react_error_iff hrecord
  keeps := by
    intro index record table next hrecord hreacting hnext
    obtain ⟨enter, henter, hrest⟩ := Except.bind_eq_ok_iff.mp hnext
    obtain ⟨exit, hexit, -⟩ := Except.bind_eq_ok_iff.mp hrest
    rw [react_ok (declared_of_reactionIds henter)
      (declared_of_reactionIds hexit)] at hnext
    cases hnext
    refine ⟨hreacting.names, fun id => ?_, hreacting.roots⟩
    rw [List.getElem?_modify, hreacting.states id]
    by_cases hid : index = id
    · subst hid
      simp [hrecord, reactingState_succ]
    · cases records[id]? with
      | none => simp
      | some other => simp [hid, reactingState_succ]

theorem reactFrom_eq_sweep (triggers : TriggerTable) (table : StateTable)
    (index : Nat) (records : List StateRecord) :
    table.reactFrom triggers index records =
      sweep (StateTable.react triggers) table index records := by
  induction records generalizing table index with
  | nil => rfl
  | cons record rest ih => simp only [reactFrom, sweep, ih]

end StateTable

/-! ## Transitions -/

inductive TransitionRecord.Fault (states triggers : List String)
    (records : List TransitionRecord) (index : Nat) : ResolutionError → Prop
  | source {record : TransitionRecord} (hrecord : records[index]? = some record)
      (hsource : record.source ∉ states) :
      Fault states triggers records index
        (.unknownSourceState record.text record.source)
  | target {record : TransitionRecord} (hrecord : records[index]? = some record)
      (hsource : record.source ∈ states) (htarget : record.target ∉ states) :
      Fault states triggers records index
        (.unknownTargetState record.text record.target)
  | trigger {record : TransitionRecord} (hrecord : records[index]? = some record)
      (hsource : record.source ∈ states) (htarget : record.target ∈ states)
      (hevent : record.trigger ≠ "") (htrigger : record.trigger ∉ triggers) :
      Fault states triggers records index
        (.unknownTrigger record.text record.trigger)

theorem TransitionRecord.Fault.index_lt {states triggers : List String}
    {records : List TransitionRecord} {error : ResolutionError}
    (hfault : TransitionRecord.Fault states triggers records index error) :
    index < records.length := by
  rcases hfault with ⟨hrecord, -⟩ | ⟨hrecord, -, -⟩ | ⟨hrecord, -, -, -, -⟩ <;>
    exact (List.getElem?_eq_some_iff.mp hrecord).1

/-- The transition of a record whose names are declared. -/
def TransitionRecord.resolved (states triggers : List String)
    (record : TransitionRecord) : Transition where
  source := states.idxOf record.source
  target := states.idxOf record.target
  trigger :=
    if record.trigger = "" then none else some (triggers.idxOf record.trigger)

structure TransitionRecord.Resolvable (states triggers : List String)
    (record : TransitionRecord) : Prop where
  source : record.source ∈ states
  target : record.target ∈ states
  trigger : record.trigger ≠ "" → record.trigger ∈ triggers

/-- A table with more transitions, each at its source. -/
def StateTable.withTransitions (table : StateTable)
    (transitions : List Transition) : StateTable :=
  { table with
    states := table.states.mapIdx fun id state =>
      { state with
        transitions := state.transitions ++
          transitions.filter (·.source = id) } }

namespace StateTable

variable {triggers : TriggerTable} {table : StateTable}

@[simp] theorem names_withTransitions (transitions : List Transition) :
    (table.withTransitions transitions).names = table.names := rfl

theorem getElem?_states_withTransitions (transitions : List Transition)
    (id : StateId) :
    (table.withTransitions transitions).states[id]? =
      table.states[id]?.map fun state =>
        { state with
          transitions := state.transitions ++
            transitions.filter (·.source = id) } := by
  simp [withTransitions]

theorem withTransitions_nil : table.withTransitions [] = table := by
  have hstates : (table.withTransitions []).states = table.states := by
    apply List.ext_getElem?
    intro id
    simp [getElem?_states_withTransitions]
  rw [StateTable.mk.injEq]
  exact ⟨hstates, rfl, rfl⟩

theorem addTransition_eq (transition : Transition) :
    table.addTransition transition = table.withTransitions [transition] := by
  simp only [addTransition, withTransitions, StateTable.mk.injEq, and_true]
  apply List.ext_getElem?
  intro id
  rw [List.getElem?_modify, List.getElem?_mapIdx]
  by_cases hid : transition.source = id <;> simp [hid]

theorem withTransitions_append (first second : List Transition) :
    (table.withTransitions first).withTransitions second =
      table.withTransitions (first ++ second) := by
  simp only [withTransitions, StateTable.mk.injEq, and_true]
  apply List.ext_getElem?
  intro id
  simp [Function.comp_def]

theorem transition_ok {record : TransitionRecord}
    (hrecord : record.Resolvable table.names triggers.names) :
    table.transition triggers record =
      .ok (record.resolved table.names triggers.names) := by
  simp only [transition, stateId?, idxOf?_eq_some_idxOf hrecord.source,
    idxOf?_eq_some_idxOf hrecord.target, TransitionRecord.resolved]
  split
  next => rfl
  next hevent =>
    rw [TriggerTable.triggerId?, idxOf?_eq_some_idxOf (hrecord.trigger hevent)]

theorem transition_error_iff {records : List TransitionRecord} {index : Nat}
    {record : TransitionRecord} (hrecord : records[index]? = some record)
    {error : ResolutionError} :
    table.transition triggers record = .error error ↔
      TransitionRecord.Fault table.names triggers.names records index error := by
  constructor
  · intro herror
    unfold transition at herror
    split at herror
    next hsource =>
      cases herror
      exact .source hrecord (List.idxOf?_eq_none_iff.mp hsource)
    next source hsource =>
      have hsource' := List.isSome_idxOf?.mp (Option.isSome_of_eq_some hsource)
      split at herror
      next htarget =>
        cases herror
        exact .target hrecord hsource' (List.idxOf?_eq_none_iff.mp htarget)
      next target htarget =>
        have htarget' := List.isSome_idxOf?.mp (Option.isSome_of_eq_some htarget)
        split at herror
        next => cases herror
        next hevent =>
          split at herror
          next htrigger =>
            cases herror
            exact .trigger hrecord hsource' htarget' hevent
              (List.idxOf?_eq_none_iff.mp htrigger)
          next => cases herror
  · intro hfault
    unfold transition stateId?
    rcases hfault with ⟨hrecord', hsource⟩ | ⟨hrecord', hsource, htarget⟩ |
      ⟨hrecord', hsource, htarget, hevent, htrigger⟩ <;>
      rw [hrecord] at hrecord' <;> cases hrecord'
    · rw [List.idxOf?_eq_none_iff.mpr hsource]
    · rw [idxOf?_eq_some_idxOf hsource, List.idxOf?_eq_none_iff.mpr htarget]
    · rw [idxOf?_eq_some_idxOf hsource, idxOf?_eq_some_idxOf htarget]
      simp only [if_neg hevent, TriggerTable.triggerId?]
      rw [List.idxOf?_eq_none_iff.mpr htrigger]

theorem resolvable_of_transition {record : TransitionRecord}
    {transition : Transition}
    (htransition : table.transition triggers record = .ok transition) :
    record.Resolvable table.names triggers.names := by
  have hfaultless : ∀ error,
      ¬ TransitionRecord.Fault table.names triggers.names [record] 0 error := by
    intro error hfault
    rw [← transition_error_iff rfl, htransition] at hfault
    cases hfault
  have hsource : record.source ∈ table.names := by
    by_contra hsource
    exact hfaultless _ (.source rfl hsource)
  have htarget : record.target ∈ table.names := by
    by_contra htarget
    exact hfaultless _ (.target rfl hsource htarget)
  refine ⟨hsource, htarget, fun hevent => ?_⟩
  by_contra htrigger
  exact hfaultless _ (.trigger rfl hsource htarget hevent htrigger)

theorem addTransitions_append {before : List TransitionRecord}
    (hbefore : ∀ record ∈ before,
      record.Resolvable table.names triggers.names)
    (rest : List TransitionRecord) :
    table.addTransitions triggers (before ++ rest) =
      (table.withTransitions
        (before.map (·.resolved table.names triggers.names))).addTransitions
          triggers rest := by
  induction before generalizing table with
  | nil => simp [withTransitions_nil]
  | cons record before ih =>
      rw [List.forall_mem_cons] at hbefore
      have hrest := @ih (table.withTransitions
        [record.resolved table.names triggers.names]) hbefore.2
      rw [names_withTransitions, withTransitions_append] at hrest
      rw [List.cons_append, addTransitions, transition_ok hbefore.1]
      simpa only [addTransition_eq, List.map_cons, List.singleton_append]
        using hrest

theorem addTransitions_ok {records : List TransitionRecord}
    (hrecords : ∀ record ∈ records,
      record.Resolvable table.names triggers.names) :
    table.addTransitions triggers records =
      (table.withTransitions
        (records.map (·.resolved table.names triggers.names)), .ok ()) := by
  have happend := addTransitions_append hrecords []
  rwa [List.append_nil] at happend

theorem resolvable_of_clean {records : List TransitionRecord} (bound : Nat)
    (hclean : ∀ index < bound, ∀ error,
      ¬ TransitionRecord.Fault table.names triggers.names records index error) :
    ∀ record ∈ records.take bound,
      record.Resolvable table.names triggers.names := by
  intro record hmem
  obtain ⟨index, hindex, hget⟩ := List.mem_take_iff_getElem.mp hmem
  have hrecord : records[index]? = some record := by
    rw [← hget]
    exact List.getElem?_eq_getElem (by omega)
  cases htransition : table.transition triggers record with
  | ok transition => exact resolvable_of_transition htransition
  | error fault =>
      have hfault := (transition_error_iff hrecord).mp htransition
      exact absurd hfault (hclean index (by omega) fault)

theorem resolvable_of_faultless {records : List TransitionRecord}
    (hfaultless : Faultless
      (TransitionRecord.Fault table.names triggers.names records)) :
    ∀ record ∈ records, record.Resolvable table.names triggers.names := by
  have hrecords : ∀ record ∈ records.take records.length,
      record.Resolvable table.names triggers.names :=
    resolvable_of_clean records.length fun index _ => hfaultless index
  rwa [List.take_length] at hrecords

/-- What was added before the first record that does not resolve stays. -/
theorem addTransitions_upTo {records : List TransitionRecord} {index : Nat}
    {error : ResolutionError}
    (hbefore : ∀ record ∈ records.take index,
      record.Resolvable table.names triggers.names)
    (hfault : TransitionRecord.Fault table.names triggers.names records index
      error) :
    table.addTransitions triggers records =
      (table.withTransitions
        ((records.take index).map (·.resolved table.names triggers.names)),
        .error error) := by
  have hindex := hfault.index_lt
  have herror : table.transition triggers records[index] = .error error :=
    (transition_error_iff (List.getElem?_eq_getElem hindex)).mpr hfault
  have hlookup : ∀ transitions,
      (table.withTransitions transitions).transition triggers records[index] =
        table.transition triggers records[index] := fun _ => rfl
  have hsplit : records =
      records.take index ++ records[index] :: records.drop (index + 1) := by
    rw [List.getElem_cons_drop, List.take_append_drop]
  have happend :=
    addTransitions_append hbefore (records[index] :: records.drop (index + 1))
  rwa [← hsplit, addTransitions, hlookup, herror] at happend

theorem addTransitions_error_iff {records : List TransitionRecord}
    {error : ResolutionError} :
    (table.addTransitions triggers records).2 = .error error ↔
      FirstFault (TransitionRecord.Fault table.names triggers.names records)
        error := by
  constructor
  · intro herror
    rcases firstFault_or_faultless
      (TransitionRecord.Fault table.names triggers.names records) with
      ⟨other, index, hfault, hclean⟩ | hfaultless
    · rw [addTransitions_upTo (resolvable_of_clean index hclean) hfault] at herror
      cases herror
      exact ⟨index, hfault, hclean⟩
    · rw [addTransitions_ok (resolvable_of_faultless hfaultless)] at herror
      cases herror
  · intro hfirst
    obtain ⟨index, hfault, hclean⟩ := hfirst
    rw [addTransitions_upTo (resolvable_of_clean index hclean) hfault]

end StateTable

end Statecharts
