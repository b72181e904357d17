import Statecharts.Proofs.Resolution.References

/-!
# The first fault of a chart

Building checks one thing after another: the declarations of the triggers,
the names of the states, their parents, their reactions, and the transitions.
What each check refuses is told by the records alone, whatever the tables
hold that the checks before it have made.  A chart is built when nothing is
refused, and otherwise the first refusal is reported.  No state is ever found
to be a child already, for it is linked once.
-/

namespace Statecharts

/-- What the checks of building refuse, in their order. -/
def ChartRecords.faults (records : ChartRecords) :
    List (Nat → ResolutionError → Prop) :=
  [TriggerRecord.Fault records.triggers,
    StateRecord.NameFault records.states,
    StateRecord.ParentFault records.states,
    StateRecord.ReactionFault (TriggerRecord.names records.triggers)
      records.states,
    TransitionRecord.Fault (StateRecord.names records.states)
      (TriggerRecord.names records.triggers) records.transitions]

namespace StateTable

variable {triggers : TriggerTable} {records : List StateRecord}

theorem ofRecords_eq_bind (triggers : TriggerTable)
    (records : List StateRecord) :
    ofRecords triggers records =
      (records.foldlM declare {} >>= fun declared =>
        declared.linkFrom 0 records >>= fun linked =>
          linked.reactFrom triggers 0 records) := rfl

theorem ofRecords_error_iff (error : ResolutionError) :
    ofRecords triggers records = .error error ↔
      FirstFaultOf
        [StateRecord.NameFault records, StateRecord.ParentFault records,
          StateRecord.ReactionFault triggers.names records] error := by
  rw [ofRecords_eq_bind]
  apply bind_error_iff_firstFaultOf [StateRecord.NameFault records]
  · intro error
    rw [firstFaultOf_singleton_iff, declare_error_iff]
  · intro declared hdeclared
    have hdeclared := declared_of_foldlM hdeclared
    apply bind_error_iff_firstFaultOf [StateRecord.ParentFault records]
    · intro error
      rw [firstFaultOf_singleton_iff, hdeclared.linkFrom_error_iff]
    · intro linked hlinked error
      have hreacting :=
        (hdeclared.linkFrom_ok hlinked).1.reactingUpTo triggers.names
      rw [firstFaultOf_singleton_iff, reactFrom_eq_sweep]
      exact (react_rule triggers records).sweep_error_iff hreacting error

theorem reactingUpTo_of_ofRecords {table : StateTable}
    (htable : ofRecords triggers records = .ok table) :
    table.ReactingUpTo triggers.names records records.length := by
  rw [ofRecords_eq_bind] at htable
  obtain ⟨declared, hdeclared, hrest⟩ := Except.bind_eq_ok_iff.mp htable
  obtain ⟨linked, hlinked, hreact⟩ := Except.bind_eq_ok_iff.mp hrest
  have hlinked := ((declared_of_foldlM hdeclared).linkFrom_ok hlinked).1
  rw [reactFrom_eq_sweep] at hreact
  exact ((react_rule triggers records).sweep_ok
    (hlinked.reactingUpTo triggers.names) hreact).1

end StateTable

namespace Chart

def ofTables (name : String) (triggers : TriggerTable) (states : StateTable) :
    Chart where
  name := name
  triggers := triggers.triggers
  states := states.states
  roots := states.roots
  triggerNames := triggers.names
  stateNames := states.names

theorem build_eq_bind (records : ChartRecords) :
    build records =
      (TriggerTable.ofRecords records.triggers >>= fun triggers =>
        StateTable.ofRecords triggers records.states >>= fun states =>
          (states.addTransitions triggers records.transitions).2 >>= fun _ =>
            .ok (ofTables records.name triggers
              (states.addTransitions triggers records.transitions).1)) := rfl

theorem build_error_iff (records : ChartRecords) (error : ResolutionError) :
    build records = .error error ↔ FirstFaultOf records.faults error := by
  rw [build_eq_bind]
  apply bind_error_iff_firstFaultOf [TriggerRecord.Fault records.triggers]
  · intro error
    rw [firstFaultOf_singleton_iff, TriggerTable.ofRecords_error_iff]
  · intro triggers htriggers
    have htriggers := (TriggerTable.declared_of_ofRecords htriggers).names
    apply bind_error_iff_firstFaultOf
      [StateRecord.NameFault records.states,
        StateRecord.ParentFault records.states,
        StateRecord.ReactionFault (TriggerRecord.names records.triggers)
          records.states]
    · intro error
      rw [StateTable.ofRecords_error_iff, htriggers]
    · intro states hstates error
      have hstates := (StateTable.reactingUpTo_of_ofRecords hstates).names
      rw [firstFaultOf_singleton_iff, Except.bind_eq_error_iff,
        StateTable.addTransitions_error_iff, htriggers, hstates]
      simp

theorem exists_build_ok_iff (records : ChartRecords) :
    (∃ chart, build records = .ok chart) ↔
      ∀ Fault ∈ records.faults, Faultless Fault :=
  exists_ok_iff_faultless (build_error_iff records)

/-- Building succeeds exactly on records without a fault, and otherwise tells
the first fault in the order of the checks. -/
theorem build_reports_first_fault (records : ChartRecords) :
    ((∃ chart, build records = .ok chart) ↔
      ∀ Fault ∈ records.faults, Faultless Fault) ∧
    (∀ error, build records = .error error ↔
      FirstFaultOf records.faults error) ∧
    ∀ parent child, build records ≠ .error (.alreadyChild parent child) := by
  refine ⟨exists_build_ok_iff records, build_error_iff records, ?_⟩
  intro parent child herror
  rw [build_error_iff] at herror
  obtain ⟨Fault, hmem, index, hfault⟩ := exists_fault_of_firstFaultOf herror
  simp only [ChartRecords.faults, List.mem_cons, List.not_mem_nil,
    or_false] at hmem
  rcases hmem with rfl | rfl | rfl | rfl | rfl <;> cases hfault

end Chart

end Statecharts
