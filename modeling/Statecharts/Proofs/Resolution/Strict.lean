import Statecharts.Proofs.Chart.Strict

/-!
# Strict building

While a chart is built its states are looked up and changed by their indices,
in tables that are only partly linked.  A strict build demands that each of
these states is there, and that the climb that looks for a cycle ends by
itself.  Whether its records are accepted or not, it has an outcome, and it is
that of building.

That the climb ends is shown by the faults.  A cycle among the states linked
so far has a greatest state, which would have been refused when it was linked.
So where no earlier record is faulty, the climb from a parent ends at a root,
unless it meets the child first.
-/

namespace Statecharts

/-! ## Sweeps of attempts -/

section Sweep

variable {ε ρ σ : Type}

/-- Goes over records by attempts, the first of which has the given index. -/
def Attempt.sweep (attempt : σ → Nat → ρ → Attempt ε σ) (table : σ)
    (index : Nat) : List ρ → Attempt ε σ
  | [] => pure table
  | record :: rest => do
    let next ← attempt table index record
    Attempt.sweep attempt next (index + 1) rest

variable {attempt : σ → Nat → ρ → Attempt ε σ}
  {step : σ → Nat → ρ → Except ε σ} {records : List ρ}
  {Fault : Nat → ε → Prop} {Inv : Nat → σ → Prop}

private theorem StepRule.run_sweep_from
    (rule : StepRule step records Fault Inv)
    (hattempt : ∀ {index record table}, records[index]? = some record →
      Inv index table → (∀ earlier < index, ∀ other, ¬ Fault earlier other) →
        (attempt table index record).run = some (step table index record))
    (before rest : List ρ) {table : σ}
    (hrecords : records = before ++ rest) (hinv : Inv before.length table)
    (hbefore : ∀ earlier < before.length, ∀ other, ¬ Fault earlier other) :
    (Attempt.sweep attempt table before.length rest).run =
      some (sweep step table before.length rest) := by
  induction rest generalizing before table with
  | nil => rfl
  | cons record rest ih =>
      have hrecord : records[before.length]? = some record := by
        simp [hrecords]
      rw [Attempt.sweep, sweep]
      apply Attempt.run_bind (hattempt hrecord hinv hbefore)
      intro next hnext
      have hlength : (before ++ [record]).length = before.length + 1 :=
        List.length_append
      have hnextInv := rule.keeps hrecord hinv hnext
      have hclean := rule.faultless_below_succ hrecord hinv hnext hbefore
      rw [← hlength] at hnextInv hclean ⊢
      exact ih (before ++ [record]) (by simp [hrecords]) hnextInv hclean

/-- Attempts need an outcome only where no earlier record is faulty. -/
theorem StepRule.run_sweep (rule : StepRule step records Fault Inv)
    (hattempt : ∀ {index record table}, records[index]? = some record →
      Inv index table → (∀ earlier < index, ∀ other, ¬ Fault earlier other) →
        (attempt table index record).run = some (step table index record))
    {table : σ} (hinv : Inv 0 table) :
    (Attempt.sweep attempt table 0 records).run =
      some (sweep step table 0 records) :=
  rule.run_sweep_from hattempt [] records rfl hinv (by simp)

end Sweep

/-! ## Strict steps -/

/-- Climbs from a state in search of the child that is to be linked, over no
more states than the limit.  The path has the names of the child and of the
states that were met. -/
def strictSeek (states : List State) (child : StateId) :
    (limit : Nat) → (path : List String) → (id : StateId) →
      Attempt ResolutionError Unit
  | 0, _, _ => .noOutcome
  | limit + 1, path, id => do
    if id = child then
      let name ← .ofOption (strictName states child)
      throw (.parentCycle name path)
    else
      let state ← .ofOption states[id]?
      match state.parent with
      | none => pure ()
      | some parent =>
        let name ← .ofOption (strictName states parent)
        strictSeek states child limit (path ++ [name]) parent

namespace StateTable

def strictModify (table : StateTable) (id : StateId) (f : State → State) :
    Option StateTable := do
  let state ← table.states[id]?
  return { table with states := table.states.set id (f state) }

def strictCheckCycle (table : StateTable) (child parent : StateId) :
    Attempt ResolutionError Unit := do
  let childName ← .ofOption (strictName table.states child)
  let parentName ← .ofOption (strictName table.states parent)
  strictSeek table.states child table.states.length [childName, parentName]
    parent

def strictAttach (table : StateTable) (child parent : StateId) :
    Option StateTable := do
  let table ← table.strictModify parent fun state =>
    { state with children := state.children ++ [child] }
  table.strictModify child fun state => { state with parent := some parent }

def strictLink (table : StateTable) (id : StateId) (record : StateRecord) :
    Attempt ResolutionError StateTable :=
  if record.parent = "" then pure { table with roots := table.roots ++ [id] }
  else
    match table.stateId? record.parent with
    | none => throw (.unexistentParent record.name record.parent)
    | some parent => do
      let above ← .ofOption table.states[parent]?
      if above.isParentOf id then
        throw (.alreadyChild record.parent record.name)
      else
        table.strictCheckCycle id parent
        .ofOption (table.strictAttach id parent)

def strictReact (triggers : TriggerTable) (table : StateTable) (id : StateId)
    (record : StateRecord) : Attempt ResolutionError StateTable := do
  let enter ← .ofExcept (reactionIds triggers record.name .enter record.enter)
  let exit ← .ofExcept (reactionIds triggers record.name .exit record.exit)
  .ofOption <| table.strictModify id fun state =>
    { state with
      defaultEnter := record.enter.default
      enterReactions := enter
      defaultExit := record.exit.default
      exitReactions := exit }

def strictOfRecords (triggers : TriggerTable) (records : List StateRecord) :
    Attempt ResolutionError StateTable := do
  let declared ← .ofExcept (records.foldlM declare {})
  let linked ← Attempt.sweep strictLink declared 0 records
  Attempt.sweep (strictReact triggers) linked 0 records

def strictAddTransitions (triggers : TriggerTable) (table : StateTable) :
    List TransitionRecord → Attempt ResolutionError StateTable
  | [] => pure table
  | record :: rest => do
    let transition ← .ofExcept (table.transition triggers record)
    let next ← .ofOption <| table.strictModify transition.source fun state =>
      { state with transitions := state.transitions ++ [transition] }
    strictAddTransitions triggers next rest

end StateTable

def Chart.strictBuild (records : ChartRecords) :
    Attempt ResolutionError Chart := do
  let triggers ← .ofExcept (TriggerTable.ofRecords records.triggers)
  let states ← StateTable.strictOfRecords triggers records.states
  let table ← states.strictAddTransitions triggers records.transitions
  return ofTables records.name triggers table

/-! ## The search for a cycle -/

variable {states : List State} {child id root : StateId}
  {passed : List StateId}

theorem strictSeek_child (hchild : child < states.length) (limit : Nat)
    (path : List String) :
    (strictSeek states child (limit + 1) path child).run =
      some (.error (.parentCycle (stateName states child) path)) := by
  rw [strictSeek, if_pos rfl,
    Attempt.run_ofOption_bind (strictName_eq hchild)]
  rfl

theorem strictSeek_orphan (hid : id < states.length) (hother : id ≠ child)
    (horphan : parentOf? states id = none) (limit : Nat) (path : List String) :
    (strictSeek states child (limit + 1) path id).run = some (.ok ()) := by
  have hstate := List.getElem?_eq_getElem hid
  rw [parentOf?_of_getElem? hstate] at horphan
  rw [strictSeek, if_neg hother, Attempt.run_ofOption_bind hstate, horphan]
  rfl

theorem strictSeek_climb {parent : StateId} (hother : id ≠ child)
    (hparent : parentOf? states id = some parent)
    (hlt : parent < states.length) (limit : Nat) (path : List String) :
    (strictSeek states child (limit + 1) path id).run =
      (strictSeek states child limit (path ++ [stateName states parent])
        parent).run := by
  obtain ⟨state, hstate, hparent⟩ := getElem?_of_parentOf? hparent
  rw [strictSeek, if_neg hother, Attempt.run_ofOption_bind hstate, hparent]
  exact Attempt.run_ofOption_bind (strictName_eq hlt) _

theorem Walk.strictSeek_found {limit : Nat}
    (hwalk : Walk (parentOf? states) child id passed)
    (hchild : child < states.length) (hlimit : passed.length < limit)
    (path : List String) :
    (strictSeek states child limit (path ++ [stateName states id]) id).run =
      some (.error (.parentCycle (stateName states child)
        (path ++ (passed ++ [child]).map (stateName states)))) := by
  obtain ⟨limit, rfl⟩ := Nat.exists_eq_add_one.mpr (Nat.zero_lt_of_lt hlimit)
  induction hwalk generalizing path limit with
  | here => exact strictSeek_child hchild limit _
  | climb hother hstep hrest ih =>
      rw [List.length_cons] at hlimit
      obtain ⟨limit, rfl⟩ := Nat.exists_eq_add_one.mpr (show 0 < limit by omega)
      rw [strictSeek_climb hother hstep (hrest.first_lt hchild),
        ih (path ++ [_]) limit (by omega), List.append_assoc]
      rfl

theorem Walk.strictSeek_missed {limit : Nat}
    (hwalk : Walk (parentOf? states) root id passed)
    (hroot : root < states.length) (horphan : parentOf? states root = none)
    (hchild : child ∉ passed ++ [root]) (hlimit : passed.length < limit)
    (path : List String) :
    (strictSeek states child limit path id).run = some (.ok ()) := by
  obtain ⟨limit, rfl⟩ := Nat.exists_eq_add_one.mpr (Nat.zero_lt_of_lt hlimit)
  induction hwalk generalizing path limit with
  | here =>
      have hother : root ≠ child := fun heq => hchild (by simp [heq])
      exact strictSeek_orphan hroot hother horphan limit path
  | climb _ hstep hrest ih =>
      rw [List.cons_append, List.mem_cons, not_or] at hchild
      rw [List.length_cons] at hlimit
      obtain ⟨limit, rfl⟩ := Nat.exists_eq_add_one.mpr (show 0 < limit by omega)
      rw [strictSeek_climb (Ne.symm hchild.1) hstep (hrest.first_lt hroot)]
      exact ih hchild.2 _ limit (by omega)

/-! ## Links -/

variable {records : List StateRecord} {index : Nat}

theorem IsCycle.imp {R S : StateId → StateId → Prop} {cycle : Cycle StateId}
    (hcycle : IsCycle R cycle) (himp : ∀ lower upper, R lower upper → S lower upper) :
    IsCycle S cycle where
  nonempty := hcycle.nonempty
  nodup := hcycle.nodup
  chain := hcycle.chain.imp himp

/-- A cycle of links below an index has a fault below the index. -/
theorem not_exists_isCycle_linksBelow
    (hnames : (StateRecord.names records).Nodup)
    (hclean : ∀ earlier < index, ∀ other,
      ¬ StateRecord.ParentFault records earlier other) :
    ¬ ∃ cycle, IsCycle
      (Climbs (linksBelow index (declaredParent? records))) cycle := by
  intro hexists
  obtain ⟨cycle, hcycle⟩ := hexists
  obtain ⟨greatest, others, rfl, hothers⟩ := hcycle.exists_greatest
  obtain ⟨first, hstep, -⟩ := isCycle_iff_walk.mp hcycle
  rw [linksBelow, Option.ite_none_right_eq_some] at hstep
  have hdeclared : IsCycle (DeclaredParent records) ↑(greatest :: others) := by
    rw [← climbs_declaredParent? hnames]
    apply hcycle.imp
    intro lower upper hlink
    rw [Climbs, linksBelow, Option.ite_none_right_eq_some] at hlink
    exact hlink.2
  obtain ⟨error, hfault⟩ :=
    exists_parentFault_of_isCycle hnames hdeclared hothers
  exact hclean greatest hstep.1 error hfault

namespace StateTable

variable {table : StateTable} {record : StateRecord} {parent : StateId}

theorem strictModify_eq (hid : id < table.states.length) (f : State → State) :
    table.strictModify id f =
      some { table with states := table.states.modify id f } := by
  have hstate := List.getElem?_eq_getElem hid
  rw [strictModify, hstate, List.modify_eq_set_getElem?, hstate]
  rfl

theorem strictAttach_eq (hchild : child < table.states.length)
    (hparent : parent < table.states.length) :
    table.strictAttach child parent = some (table.attach child parent) := by
  rw [strictAttach, strictModify_eq hparent, Option.bind_eq_bind,
    Option.bind_some, strictModify_eq (by simpa using hchild)]
  rfl

namespace LinkedUpTo

/-- Walking up from the parent ends at the child or at a root. -/
theorem exists_walk (hnames : (StateRecord.names records).Nodup)
    (hlinked : table.LinkedUpTo records index)
    (hclean : ∀ earlier < index, ∀ other,
      ¬ StateRecord.ParentFault records earlier other)
    (hparent : parent < table.states.length) :
    ∃ root passed, root < table.states.length ∧
      parentOf? table.states root = none ∧
      Walk (parentOf? table.states) root parent passed := by
  have hbound : ∀ lower upper,
      linksBelow index (declaredParent? records) lower = some upper →
        upper < table.states.length := by
    intro lower upper hlink
    rw [linksBelow, Option.ite_none_right_eq_some] at hlink
    rw [hlinked.length_states]
    exact (declaredParent?_lt hlink.2).2
  obtain ⟨root, hreach, hroot⟩ := exists_root_above hbound
    (not_exists_isCycle_linksBelow hnames hclean) parent
  obtain ⟨passed, hwalk⟩ := Walk.exists_of_reflTransGen hreach
  have hlt : root < table.states.length := by
    rcases Relation.ReflTransGen.cases_tail hreach with rfl | ⟨below, -, hlast⟩
    · exact hparent
    · exact hbound below root hlast
  rw [hlinked.parentOf?_eq]
  exact ⟨root, passed, hlt, hroot, hwalk⟩

theorem run_strictCheckCycle (hnames : (StateRecord.names records).Nodup)
    (hlinked : table.LinkedUpTo records index)
    (hclean : ∀ earlier < index, ∀ other,
      ¬ StateRecord.ParentFault records earlier other)
    (hindex : index < table.states.length)
    (hparent : parent < table.states.length) :
    (table.strictCheckCycle index parent).run =
      some (if index ∈ lineage table.states parent then
        .error (.parentCycle (stateName table.states index)
          (table.cyclePath index parent))
      else .ok ()) := by
  obtain ⟨root, passed, hroot, horphan, hwalk⟩ :=
    hlinked.exists_walk hnames hclean hparent
  rw [strictCheckCycle, Attempt.run_ofOption_bind (strictName_eq hindex),
    Attempt.run_ofOption_bind (strictName_eq hparent)]
  have hbound := hwalk.length_lt hroot
  -- The child has no parent yet, so that it can only be met at the end.
  by_cases hmet : root = index
  · subst root
    obtain ⟨hmem, htake⟩ := hwalk.lineageWithin hbound
    rw [lineage, if_pos hmem, cyclePath, lineage, htake]
    exact hwalk.strictSeek_found hindex hbound [stateName table.states index]
  · have hpassed : index ∉ passed := by
      intro hmem
      obtain ⟨next, hnext⟩ := hwalk.climbs_of_mem hmem
      simp [hlinked.parentOf?_eq, linksBelow] at hnext
    have hmissed : index ∉ passed ++ [root] := by
      simp [hpassed, Ne.symm hmet]
    rw [lineage, hwalk.lineageWithin_root horphan hbound, if_neg hmissed]
    exact hwalk.strictSeek_missed hroot horphan hmissed hbound _

theorem run_strictLink (hnames : (StateRecord.names records).Nodup)
    (hlinked : table.LinkedUpTo records index)
    (hrecord : records[index]? = some record)
    (hclean : ∀ earlier < index, ∀ other,
      ¬ StateRecord.ParentFault records earlier other) :
    (table.strictLink index record).run = some (table.link index record) := by
  have hindex : index < table.states.length := by
    rw [hlinked.length_states]
    exact (List.getElem?_eq_some_iff.mp hrecord).1
  unfold strictLink link
  split
  next => rfl
  next =>
    cases hfound : table.stateId? record.parent with
    | none => rfl
    | some parent =>
        have hparent : parent < table.states.length := by
          rw [stateId?, hlinked.names, List.idxOf?_eq_some_iff] at hfound
          rw [hlinked.length_states]
          simpa using hfound.1
        have habove := List.getElem?_eq_getElem hparent
        have hcheck := hlinked.run_strictCheckCycle hnames hclean hindex hparent
        dsimp only
        rw [Attempt.run_ofOption_bind habove, habove, Option.elim_some]
        split
        next => rfl
        next =>
          have hattach := Attempt.run_ofOption (ε := ResolutionError)
            (strictAttach_eq hindex hparent)
          refine (Attempt.run_bind hcheck fun _ _ => hattach).trans ?_
          split <;> rfl

end LinkedUpTo

/-! ## Whole builds -/

variable {triggers : TriggerTable}

theorem run_strictReact (hindex : index < table.states.length) :
    (table.strictReact triggers index record).run =
      some (table.react triggers index record) := by
  unfold strictReact react
  apply Attempt.run_bind rfl
  intro enter _
  apply Attempt.run_bind rfl
  intro exit _
  exact Attempt.run_ofOption (strictModify_eq hindex _)

theorem run_strictOfRecords (triggers : TriggerTable)
    (records : List StateRecord) :
    (strictOfRecords triggers records).run =
      some (ofRecords triggers records) := by
  rw [strictOfRecords, ofRecords_eq_bind]
  apply Attempt.run_bind rfl
  intro declared hdeclared
  have hdeclared := declared_of_foldlM hdeclared
  have hlink : (Attempt.sweep strictLink declared 0 records).run =
      some (declared.linkFrom 0 records) := by
    rw [linkFrom_eq_sweep]
    apply (link_rule hdeclared.nodup).run_sweep _ hdeclared.linkedUpTo
    intro index record table hrecord hlinked hclean
    exact hlinked.run_strictLink hdeclared.nodup hrecord hclean
  apply Attempt.run_bind hlink
  intro linked hlinked
  have hlinked := (hdeclared.linkFrom_ok hlinked).1
  rw [reactFrom_eq_sweep]
  apply (react_rule triggers records).run_sweep _
    (hlinked.reactingUpTo triggers.names)
  intro index record table hrecord hreacting _
  apply run_strictReact
  rw [length_eq_of_getElem?_map hreacting.states]
  exact (List.getElem?_eq_some_iff.mp hrecord).1

theorem source_lt_of_transition {record : TransitionRecord}
    {transition : Transition}
    (htransition : table.transition triggers record = .ok transition) :
    transition.source < table.names.length := by
  have hresolvable := resolvable_of_transition htransition
  rw [transition_ok hresolvable] at htransition
  cases htransition
  exact List.idxOf_lt_length_of_mem hresolvable.source

theorem run_strictAddTransitions
    (hnames : table.names.length = table.states.length)
    (records : List TransitionRecord) :
    (table.strictAddTransitions triggers records).run =
      some ((table.addTransitions triggers records).2 >>= fun _ =>
        .ok (table.addTransitions triggers records).1) := by
  induction records generalizing table with
  | nil => rfl
  | cons record rest ih =>
      rw [strictAddTransitions, addTransitions]
      cases htransition : table.transition triggers record with
      | error error => rfl
      | ok transition =>
          have hsource := hnames ▸ source_lt_of_transition htransition
          have hkept : (table.addTransition transition).names.length =
              (table.addTransition transition).states.length := by
            simpa [addTransition] using hnames
          rw [← ih hkept]
          exact Attempt.run_ofOption_bind (strictModify_eq hsource _) _

end StateTable

namespace Chart

theorem run_strictBuild (records : ChartRecords) :
    (strictBuild records).run = some (build records) := by
  rw [strictBuild, build_eq_bind]
  apply Attempt.run_bind rfl
  intro triggers _
  apply Attempt.run_bind (StateTable.run_strictOfRecords triggers records.states)
  intro states hstates
  have hreacting := StateTable.reactingUpTo_of_ofRecords hstates
  have hnames : states.names.length = states.states.length := by
    rw [hreacting.names, length_eq_of_getElem?_map hreacting.states,
      List.length_map]
  have htransitions :
      (states.strictAddTransitions triggers records.transitions).run = _ :=
    StateTable.run_strictAddTransitions hnames records.transitions
  refine (Attempt.run_bind htransitions fun _ _ => rfl).trans ?_
  rw [bind_assoc]
  rfl

theorem Closed.transitions {chart : Chart} (hclosed : chart.Closed) :
    ∀ transition ∈ chart.transitions,
      transition.source < chart.states.length ∧
      transition.target < chart.states.length ∧
      ∀ id, transition.trigger = some id → id < chart.triggers.length := by
  intro transition htransition
  obtain ⟨state, hmem, htransition⟩ := List.mem_flatMap.mp htransition
  obtain ⟨id, hstate⟩ := List.getElem?_of_mem hmem
  have hkept := (hclosed.states id state hstate).transitions transition htransition
  have hid := (List.getElem?_eq_some_iff.mp hstate).1
  exact ⟨hkept.source ▸ hid, hkept.target, hkept.trigger⟩

/-- Building never looks up a state that is not there, whether it accepts its
records or not.  Nor does any reading of a chart that was built and edited,
and all its walks end. -/
theorem builds_and_reads_in_range (records : ChartRecords) :
    (strictBuild records).run = some (build records) ∧
    ∀ chart, build records = .ok chart → ∀ edits,
      (chart.editAll edits).Closed ∧
      (chart.editAll edits).ReadsStrictly ∧
      ∀ transition ∈ (chart.editAll edits).transitions,
        transition.source < (chart.editAll edits).states.length ∧
        transition.target < (chart.editAll edits).states.length ∧
        ∀ id, transition.trigger = some id →
          id < (chart.editAll edits).triggers.length := by
  refine ⟨run_strictBuild records, fun chart hbuild edits => ?_⟩
  have hclosed := (closed_of_build hbuild).editAll edits
  have hpruned := (forest_of_build hbuild).pruned.editAll edits
  exact ⟨hclosed, hclosed.readsStrictly hpruned, hclosed.transitions⟩

/-- The states below a root that was dropped are still read. -/
theorem dropped_root_reads_in_range :
    let records : ChartRecords :=
      { name := "Door"
        triggers := [⟨"go", "int n"⟩]
        states := [.child "B" "A", (StateRecord.root "A").onEnter true ["go"]]
        transitions := [⟨"B", "A", "go"⟩] }
    ∃ chart, build records = .ok chart ∧
      let edited := chart.editAll [.dropRoot 1, .rename 0 "C", .setInitial 0 true]
      edited.Closed ∧ edited.ReadsStrictly ∧ edited.roots = [] ∧
      edited.strictAncestors 0 = some [1] ∧
      edited.strictInitialChild 1 = some (some 0) := by
  intro records
  cases hbuild : build records with
  | error error => cases hbuild
  | ok chart =>
      have hreads := (builds_and_reads_in_range records).2 chart hbuild
        [.dropRoot 1, .rename 0 "C", .setInitial 0 true]
      have hancestors := hreads.2.1.ancestors 0 (by cases hbuild; decide)
      have hinitial := hreads.2.1.initialChild 1 (by cases hbuild; decide)
      refine ⟨chart, rfl, hreads.1, hreads.2.1, ?_, hancestors.trans ?_, hinitial.trans ?_⟩ <;>
        cases hbuild <;> rfl

end Chart

end Statecharts
