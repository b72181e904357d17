import Statecharts.Chart.Validation
import Statecharts.Proofs.Chart.Forest

/-!
# Validated charts

Validation looks at the roots, and from each group of siblings it goes on to
the children of its members.  In a forest this misses no group: a walk from
any state up to a root, taken downwards, is a way on which validation comes to
the state, and it has fewer steps than validation may take.  So a chart that
was built is valid exactly when every group of siblings in it, wherever it
stands, has one initial member.
-/

namespace Statecharts

namespace Chart

variable {records : ChartRecords} {chart : Chart} {scope : Scope}
  {group : List StateId}

/-- One member of the group, and no other, is marked initial. -/
def SingleInitial (chart : Chart) (group : List StateId) : Prop :=
  ∃! id, id ∈ group ∧ chart.isInitial id = true

/-! ## One group -/

theorem length_filter_initial (chart : Chart) (group : List StateId) :
    ((group.filterMap (chart.states[·]?)).filter State.initial).length =
      (group.filter chart.isInitial).length := by
  induction group with
  | nil => rfl
  | cons id group ih =>
      cases hstate : chart.states[id]? with
      | none => simpa [isInitial, hstate] using ih
      | some state =>
          by_cases hinitial : state.initial <;>
            simpa [isInitial, hstate, hinitial] using ih

theorem length_filter_eq_one_iff {p : StateId → Bool} (hgroup : group.Nodup) :
    (group.filter p).length = 1 ↔ ∃! id, id ∈ group ∧ p id = true := by
  simp only [← List.mem_filter]
  constructor
  · intro hlength
    obtain ⟨id, hid⟩ := List.length_eq_one_iff.mp hlength
    refine ⟨id, by simp [hid], fun other hother => ?_⟩
    simpa [hid] using hother
  · intro hunique
    rcases hunique with ⟨id, hid, honly⟩
    have hperm : (group.filter p).Perm [id] := by
      refine (List.perm_ext_iff_of_nodup (hgroup.filter p) (by simp)).mpr ?_
      intro other
      rw [List.mem_singleton]
      exact ⟨honly other, fun heq => heq ▸ hid⟩
    exact hperm.length_eq

theorem checkSingleInitial_ok_iff (hgroup : group.Nodup) :
    checkSingleInitial chart.states scope group = .ok () ↔
      chart.SingleInitial group := by
  rw [SingleInitial, ← length_filter_eq_one_iff hgroup,
    ← length_filter_initial]
  unfold checkSingleInitial
  split
  next hnone => simp [hnone]
  next state hone => simp [hone]
  next first second later hmany => simp [hmany]

theorem checkSingleInitial_ne_noRoots (states : List State) :
    checkSingleInitial states scope group ≠ .error .noRoots := by
  unfold checkSingleInitial
  split <;> simp

/-! ## Groups below groups -/

/-- What validation asks of the children of one member of a group. -/
def validateBelow (states : List State) (levels : Nat) (id : StateId) :
    Except ValidationError Unit :=
  match states[id]? with
  | some state =>
    if state.isComposite then
      validateGroup states levels (.childrenOf state.name) state.children
    else .ok ()
  | none => .ok ()

theorem validateGroup_succ (states : List State) (levels : Nat) (scope : Scope)
    (group : List StateId) :
    validateGroup states (levels + 1) scope group =
      (checkSingleInitial states scope group >>= fun _ =>
        group.forM (validateBelow states levels)) := rfl

theorem validateGroup_succ_ok_iff {states : List State} {levels : Nat} :
    validateGroup states (levels + 1) scope group = .ok () ↔
      checkSingleInitial states scope group = .ok () ∧
        ∀ id ∈ group, ∀ state, states[id]? = some state →
          state.children ≠ [] →
            validateGroup states levels (.childrenOf state.name)
              state.children = .ok () := by
  rw [validateGroup, Except.check_bind_eq_ok_iff, forM_eq_ok_iff]
  refine and_congr_right fun _ => forall₂_congr fun id _ => ?_
  cases states[id]? with
  | none => simp
  | some state => simp [State.isComposite]

theorem validateGroup_ne_noRoots (states : List State) (levels : Nat) :
    validateGroup states levels scope group ≠ .error .noRoots := by
  induction levels generalizing scope group with
  | zero => simp [validateGroup]
  | succ levels ih =>
      intro herror
      rw [validateGroup, Except.bind_eq_error_iff] at herror
      rcases herror with hcheck | ⟨_, -, hbelow⟩
      · exact checkSingleInitial_ne_noRoots states hcheck
      · obtain ⟨id, -, hid⟩ := exists_mem_of_forM_eq_error hbelow
        split at hid
        next state _ =>
          split at hid
          next => exact ih hid
          next => cases hid
        next => cases hid

theorem validate_eq_noRoots_iff (chart : Chart) :
    chart.validate = .error .noRoots ↔ chart.roots = [] := by
  unfold validate
  split
  next hroots => simpa using hroots
  next hroots =>
    simp only [List.isEmpty_iff] at hroots
    simp [hroots, validateGroup_ne_noRoots]

/-- Where every group has one initial member, validation finds no fault. -/
theorem validateGroup_ok {levels : Nat}
    (hgroup : checkSingleInitial chart.states scope group = .ok ())
    (hbelow : ∀ (id : StateId) (state : State),
      chart.states[id]? = some state → state.children ≠ [] →
        ∀ scope, checkSingleInitial chart.states scope state.children = .ok ()) :
    validateGroup chart.states levels scope group = .ok () := by
  induction levels generalizing scope group with
  | zero => rfl
  | succ levels ih =>
      refine validateGroup_succ_ok_iff.mpr ⟨hgroup, ?_⟩
      intro id _ state hstate hchildren
      exact ih (hbelow id state hstate hchildren _)

/-! ## No group is missed -/

namespace Forest

variable {id root : StateId} {state : State} {passed : List StateId}

theorem nodup_children (hforest : chart.Forest)
    (hstate : chart.states[id]? = some state) : state.children.Nodup := by
  have hchildren := (hforest.children id).ascending
  rw [children_of_getElem? hstate] at hchildren
  exact hchildren.imp Nat.ne_of_lt

theorem mem_children_of_parentOf? (hforest : chart.Forest) {child : StateId}
    (hstate : chart.states[id]? = some state) :
    child ∈ state.children ↔ parentOf? chart.states child = some id := by
  rw [← hforest.mem_children_iff, children_of_getElem? hstate]

/-- Validation comes to the children of a state on the way down the walk from
the state up to its root, and may still take a step for every state that is
not on the way. -/
theorem exists_validateGroup_children (hforest : chart.Forest)
    (hvalid : validateGroup chart.states chart.states.length .roots
      chart.roots = .ok ())
    (hroot : root ∈ chart.roots)
    (hwalk : Walk (parentOf? chart.states) root id passed)
    (hstate : chart.states[id]? = some state) (hchildren : state.children ≠ []) :
    ∃ levels, levels + passed.length + 1 = chart.states.length ∧
      validateGroup chart.states levels (.childrenOf state.name)
        state.children = .ok () := by
  have hlt : root < chart.states.length :=
    ((hforest.roots.mem_iff root).mp hroot).1
  induction hwalk generalizing state with
  | here =>
      obtain ⟨levels, hlevels⟩ :=
        Nat.exists_eq_add_one.mpr (Nat.zero_lt_of_lt hlt)
      rw [hlevels] at hvalid ⊢
      refine ⟨levels, rfl, ?_⟩
      exact (validateGroup_succ_ok_iff.mp hvalid).2 root hroot state hstate
        hchildren
  | @climb first parent passed hfirst hstep hrest ih =>
      have hparent := hforest.parent_lt first parent hstep
      have habove := List.getElem?_eq_getElem hparent
      have hmem : first ∈ chart.states[parent].children :=
        (hforest.mem_children_of_parentOf? habove).mpr hstep
      obtain ⟨levels, hlevels, hgroup⟩ := ih habove (List.ne_nil_of_mem hmem)
      have hlength := (Walk.climb hfirst hstep hrest).length_lt hlt
      rw [List.length_cons] at hlength
      obtain ⟨left, rfl⟩ :=
        Nat.exists_eq_add_one.mpr (show 0 < levels by omega)
      refine ⟨left, by rw [List.length_cons]; omega, ?_⟩
      exact (validateGroup_succ_ok_iff.mp hgroup).2 first hmem state hstate
        hchildren

theorem checkSingleInitial_children (hforest : chart.Forest)
    (hvalid : validateGroup chart.states chart.states.length .roots
      chart.roots = .ok ())
    (hstate : chart.states[id]? = some state) (hchildren : state.children ≠ []) :
    checkSingleInitial chart.states (.childrenOf state.name) state.children =
      .ok () := by
  have hid := (List.getElem?_eq_some_iff.mp hstate).1
  obtain ⟨root, hroot, passed, hwalk⟩ := hforest.exists_walk_to_root hid
  obtain ⟨levels, hlevels, hgroup⟩ :=
    hforest.exists_validateGroup_children hvalid hroot hwalk hstate hchildren
  -- The walk from a child is longer by one step, and there is room for it too.
  obtain ⟨child, hchild⟩ := List.exists_mem_of_ne_nil _ hchildren
  have hstep := (hforest.mem_children_of_parentOf? hstate).mp hchild
  obtain ⟨hlt, horphan⟩ := (hforest.roots.mem_iff root).mp hroot
  have hbelow : child ≠ root := by
    rintro rfl
    rw [horphan] at hstep
    cases hstep
  have hlength := (Walk.climb hbelow hstep hwalk).length_lt hlt
  rw [List.length_cons] at hlength
  obtain ⟨left, rfl⟩ := Nat.exists_eq_add_one.mpr (show 0 < levels by omega)
  exact (validateGroup_succ_ok_iff.mp hgroup).1

theorem validate_ok_iff (hforest : chart.Forest) :
    chart.validate = .ok () ↔
      chart.SingleInitial chart.roots ∧
        ∀ (id : StateId) (state : State), chart.states[id]? = some state →
          state.children ≠ [] → chart.SingleInitial state.children := by
  have hroots : chart.roots.Nodup := hforest.roots.ascending.imp Nat.ne_of_lt
  constructor
  · intro hvalid
    unfold validate at hvalid
    split at hvalid
    next => cases hvalid
    next hnonempty =>
      have hlength : 0 < chart.states.length := by
        rw [List.isEmpty_iff, hforest.roots_eq_nil_iff] at hnonempty
        exact List.length_pos_of_ne_nil hnonempty
      refine ⟨?_, fun id state hstate hchildren => ?_⟩
      · obtain ⟨levels, hlevels⟩ := Nat.exists_eq_add_one.mpr hlength
        rw [hlevels] at hvalid
        exact (checkSingleInitial_ok_iff hroots).mp
          (validateGroup_succ_ok_iff.mp hvalid).1
      · exact (checkSingleInitial_ok_iff (hforest.nodup_children hstate)).mp
          (hforest.checkSingleInitial_children hvalid hstate hchildren)
  · intro hsingle
    rcases hsingle with ⟨hinitial, hbelow⟩
    have hnonempty : chart.roots ≠ [] := by
      obtain ⟨id, hid, -⟩ := hinitial
      exact List.ne_nil_of_mem hid.1
    rw [validate, if_neg (by simpa using hnonempty)]
    apply validateGroup_ok ((checkSingleInitial_ok_iff hroots).mpr hinitial)
    intro id state hstate hchildren scope
    exact (checkSingleInitial_ok_iff (hforest.nodup_children hstate)).mpr
      (hbelow id state hstate hchildren)

theorem exists_root_reaching (hforest : chart.Forest)
    (hid : id < chart.states.length) :
    ∃ root ∈ chart.roots, Relation.ReflTransGen
      (fun parent child => chart.isParentOf parent child = true) root id := by
  obtain ⟨root, hroot, passed, hwalk⟩ := hforest.exists_walk_to_root hid
  refine ⟨root, hroot, ?_⟩
  clear hid hroot
  induction hwalk with
  | here => exact .refl
  | @climb first parent passed _ hstep _ ih =>
      refine ih.tail ?_
      have habove :=
        List.getElem?_eq_getElem (hforest.parent_lt first parent hstep)
      have hmem := (hforest.mem_children_of_parentOf? habove).mpr hstep
      simpa [isParentOf, State.isParentOf, habove] using hmem

end Forest

/-! ## Built charts -/

theorem isInitial_eq (hchart : records.ResolvesTo chart) {id : StateId}
    {record : StateRecord} (hrecord : records.states[id]? = some record) :
    chart.isInitial id = record.initial := by
  obtain ⟨state, hstate, hresolves⟩ := hchart.getElem?_state hrecord
  rw [isInitial_of_getElem? hstate]
  exact hresolves.initial

theorem singleInitial_roots_iff (hchart : records.ResolvesTo chart) :
    chart.SingleInitial chart.roots ↔
      ∃! id : StateId, ∃ record : StateRecord, records.states[id]? = some record ∧
        record.parent = "" ∧ record.initial = true := by
  refine existsUnique_congr fun id => ?_
  rw [hchart.roots.mem_iff]
  constructor
  · intro hid
    rcases hid with ⟨⟨record, hrecord, hroot⟩, hinitial⟩
    exact ⟨record, hrecord, hroot, isInitial_eq hchart hrecord ▸ hinitial⟩
  · intro hid
    rcases hid with ⟨record, hrecord, hroot, hinitial⟩
    exact ⟨⟨record, hrecord, hroot⟩, isInitial_eq hchart hrecord ▸ hinitial⟩

/-- A chart that was built is valid exactly when one state without a parent is
initial and so is one child of every state that has children.  Every state is
below a root, so validation comes to all of them, and roots are missing only
where there are no states. -/
theorem validate_ok_iff_single_initials (records : ChartRecords)
    (chart : Chart) (hbuild : build records = .ok chart) :
    (chart.validate = .ok () ↔
      (∃! id : StateId, ∃ record : StateRecord, records.states[id]? = some record ∧
        record.parent = "" ∧ record.initial = true) ∧
      ∀ (id : StateId) (state : State), chart.states[id]? = some state →
        state.children ≠ [] →
          ∃! child, child ∈ state.children ∧ chart.isInitial child = true) ∧
    (∀ id < chart.states.length, ∃ root ∈ chart.roots,
      Relation.ReflTransGen
        (fun parent child => chart.isParentOf parent child = true) root id) ∧
    (chart.validate = .error .noRoots ↔ chart.states = []) := by
  have hforest := forest_of_build hbuild
  refine ⟨?_, fun id hid => hforest.exists_root_reaching hid, ?_⟩
  · rw [hforest.validate_ok_iff,
      singleInitial_roots_iff (resolvesTo_of_build hbuild)]
    rfl
  · rw [validate_eq_noRoots_iff, hforest.roots_eq_nil_iff]

/-- Validation comes to a group two levels below the root, though its states
are declared before those above them. -/
theorem deep_group_is_validated :
    let records : ChartRecords :=
      { name := "Door"
        states := [.child "C" "B", (StateRecord.child "B" "A").markInitial,
          (StateRecord.root "A").markInitial] }
    ∃ chart, build records = .ok chart ∧
      chart.validate = .error (.noInitial (.childrenOf "B")) ∧
      (∃ root ∈ chart.roots, Relation.ReflTransGen
        (fun parent child => chart.isParentOf parent child = true) root 0) ∧
      ¬ ((∃! id : StateId, ∃ record : StateRecord,
          records.states[id]? = some record ∧ record.parent = "" ∧
            record.initial = true) ∧
        ∀ (id : StateId) (state : State), chart.states[id]? = some state →
          state.children ≠ [] →
            ∃! child, child ∈ state.children ∧ chart.isInitial child = true) := by
  intro records
  cases hbuild : build records with
  | error error => cases hbuild
  | ok chart =>
      obtain ⟨hvalid, hreach, -⟩ :=
        validate_ok_iff_single_initials records chart hbuild
      have herror : chart.validate = .error (.noInitial (.childrenOf "B")) := by
        cases hbuild
        rfl
      have hlength : 0 < chart.states.length := by
        cases hbuild
        decide
      refine ⟨chart, rfl, herror, hreach 0 hlength, ?_⟩
      rw [← hvalid, herror]
      simp

end Chart

end Statecharts
