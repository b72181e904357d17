import Statecharts.Proofs.Chart.Edited
import Statecharts.Proofs.Chart.Validation

/-!
# Groups of siblings in preorder

Validation goes down from the roots, and what it comes to can be listed
beforehand: the roots, then for each of them its children and the groups below
these, before the next root.  In a chart that was built and then edited there
is one such list, for nothing is above itself, and every level of it is within
the bound of validation.  So validation checks the listed groups one after
another, and its error is that of the first group that has no initial member,
or more than one.
-/

namespace Statecharts

structure SiblingGroup where
  scope : Scope
  members : List StateId
  deriving DecidableEq, Repr

namespace Chart

variable {chart : Chart} {roots group : List StateId} {id : StateId}
  {groups : List SiblingGroup}

def rootGroup (chart : Chart) : SiblingGroup :=
  ⟨.roots, chart.roots⟩

def childrenGroup (chart : Chart) (id : StateId) : SiblingGroup :=
  ⟨.childrenOf (stateName chart.states id), chart.children id⟩

/-- The groups below the members of a group, in depth-first preorder. -/
inductive GroupsBelow (chart : Chart) :
    List StateId → List SiblingGroup → Prop
  | nil : GroupsBelow chart [] []
  | leaf {id : StateId} {rest : List StateId} {groups : List SiblingGroup}
      (hleaf : chart.children id = [])
      (hrest : GroupsBelow chart rest groups) :
      GroupsBelow chart (id :: rest) groups
  | composite {id : StateId} {rest : List StateId}
      {below groups : List SiblingGroup}
      (hcomposite : chart.children id ≠ [])
      (hbelow : GroupsBelow chart (chart.children id) below)
      (hrest : GroupsBelow chart rest groups) :
      GroupsBelow chart (id :: rest)
        (chart.childrenGroup id :: (below ++ groups))

/-- The roots and the groups below them, in depth-first preorder. -/
def ListsGroups (chart : Chart) (groups : List SiblingGroup) : Prop :=
  ∃ below, chart.GroupsBelow chart.roots below ∧
    groups = chart.rootGroup :: below

/-- What is wrong with a group: no member is marked initial, or a second one
is behind the first. -/
inductive GroupFault (chart : Chart) (group : SiblingGroup) :
    ValidationError → Prop
  | none (hnone : group.members.filter chart.isInitial = []) :
      GroupFault chart group (.noInitial group.scope)
  | several {first second : StateId} {later : List StateId}
      (hseveral : group.members.filter chart.isInitial =
        first :: second :: later) :
      GroupFault chart group
        (.duplicateInitial group.scope (stateName chart.states first)
          (stateName chart.states second))

/-! ## One group -/

def checkGroup (chart : Chart) (group : SiblingGroup) :
    Except ValidationError Unit :=
  checkSingleInitial chart.states group.scope group.members

theorem filter_initial_names (chart : Chart) (group : List StateId) :
    ((group.filterMap (chart.states[·]?)).filter State.initial).map State.name =
      (group.filter chart.isInitial).map (stateName chart.states) := by
  induction group with
  | nil => rfl
  | cons id group ih =>
      cases hstate : chart.states[id]? with
      | none => simpa [isInitial, hstate] using ih
      | some state =>
          by_cases hinitial : state.initial <;>
            simpa [isInitial, stateName, hstate, hinitial] using ih

/-- What is said of a group whose initial members have the given names. -/
def judge (scope : Scope) : List String → Except ValidationError Unit
  | [] => .error (.noInitial scope)
  | [_] => .ok ()
  | first :: second :: _ => .error (.duplicateInitial scope first second)

theorem checkSingleInitial_eq (chart : Chart) (scope : Scope)
    (group : List StateId) :
    checkSingleInitial chart.states scope group =
      judge scope
        ((group.filter chart.isInitial).map (stateName chart.states)) := by
  rw [← filter_initial_names]
  unfold checkSingleInitial
  rcases (group.filterMap (chart.states[·]?)).filter State.initial with
    _ | ⟨first, _ | ⟨second, later⟩⟩ <;> rfl

theorem checkGroup_error_iff (group : SiblingGroup) (error : ValidationError) :
    chart.checkGroup group = .error error ↔ chart.GroupFault group error := by
  rw [checkGroup, checkSingleInitial_eq]
  constructor
  · intro herror
    rcases hinitial : group.members.filter chart.isInitial with
      _ | ⟨first, _ | ⟨second, later⟩⟩ <;>
      rw [hinitial] at herror <;> cases herror
    · exact .none hinitial
    · exact .several hinitial
  · intro hfault
    rcases hfault with hinitial | hinitial <;> rw [hinitial] <;> rfl

/-! ## The groups below a group -/

theorem GroupsBelow.unique {groups' : List SiblingGroup}
    (hgroups : chart.GroupsBelow group groups)
    (hgroups' : chart.GroupsBelow group groups') : groups = groups' := by
  induction hgroups generalizing groups' with
  | nil =>
      cases hgroups'
      rfl
  | leaf hleaf _ ih =>
      cases hgroups' with
      | leaf _ hrest' => exact ih hrest'
      | composite hcomposite' _ _ => exact absurd hleaf hcomposite'
  | composite hcomposite _ _ ihbelow ihrest =>
      cases hgroups' with
      | leaf hleaf' _ => exact absurd hleaf' hcomposite
      | composite _ hbelow' hrest' =>
          rw [ihbelow hbelow', ihrest hrest']

theorem GroupsBelow.exists_parent (hgroups : chart.GroupsBelow group groups) :
    ∀ listed ∈ groups, ∃ id, listed = chart.childrenGroup id := by
  induction hgroups with
  | nil => simp
  | leaf _ _ ih => exact ih
  | @composite id _ _ _ _ _ _ ihbelow ihrest =>
      intro listed hlisted
      rcases List.mem_cons.mp hlisted with rfl | hlater
      · exact ⟨id, rfl⟩
      · rcases List.mem_append.mp hlater with hbelow | hrest
        · exact ihbelow listed hbelow
        · exact ihrest listed hrest

theorem exists_groupsBelow_of_members
    (hmembers : ∀ id ∈ group, chart.children id ≠ [] →
      ∃ below, chart.GroupsBelow (chart.children id) below) :
    ∃ groups, chart.GroupsBelow group groups := by
  induction group with
  | nil => exact ⟨[], .nil⟩
  | cons id group ih =>
      rw [List.forall_mem_cons] at hmembers
      obtain ⟨groups, hrest⟩ := ih hmembers.2
      by_cases hleaf : chart.children id = []
      · exact ⟨groups, .leaf hleaf hrest⟩
      · obtain ⟨below, hbelow⟩ := hmembers.1 hleaf
        exact ⟨_, .composite hleaf hbelow hrest⟩

theorem validateBelow_leaf (levels : Nat) (hleaf : chart.children id = []) :
    validateBelow chart.states levels id = .ok () := by
  unfold validateBelow
  cases hstate : chart.states[id]? with
  | none => rfl
  | some state =>
      rw [children_of_getElem? hstate] at hleaf
      simp [State.isComposite, hleaf]

theorem validateBelow_composite (levels : Nat)
    (hcomposite : chart.children id ≠ []) :
    validateBelow chart.states levels id =
      validateGroup chart.states levels (chart.childrenGroup id).scope
        (chart.childrenGroup id).members := by
  obtain ⟨state, hstate⟩ := exists_state_of_composite hcomposite
  rw [validateBelow, hstate, childrenGroup, children_of_getElem? hstate,
    stateName_of_getElem? hstate]
  rw [children_of_getElem? hstate] at hcomposite
  simp [State.isComposite, hcomposite]

namespace Pruned

/-- What is left of the levels is enough for all that is below a group. -/
theorem exists_levels (hpruned : chart.Pruned roots) {levels : Nat}
    (hcomposite : chart.children id ≠ [])
    (hlevels : chart.states.length ≤ chart.depth id + 1 + levels) :
    ∃ left, levels = left + 1 ∧ ∀ child ∈ chart.children id,
      chart.states.length ≤ chart.depth child + 1 + left := by
  obtain ⟨child, hchild⟩ := List.exists_mem_of_ne_nil _ hcomposite
  have hdepth := hpruned.depth_child hchild
  have hlt := hpruned.depth_lt (hpruned.child_lt hchild)
  obtain ⟨left, rfl⟩ := Nat.exists_eq_add_one.mpr (show 0 < levels by omega)
  refine ⟨left, rfl, fun other hother => ?_⟩
  have hother := hpruned.depth_child hother
  omega

theorem exists_levels_roots (hpruned : chart.Pruned roots)
    (hroots : chart.roots ≠ []) :
    ∃ left, chart.states.length = left + 1 ∧ ∀ root ∈ chart.roots,
      chart.states.length ≤ chart.depth root + 1 + left := by
  obtain ⟨root, hroot⟩ := List.exists_mem_of_ne_nil _ hroots
  have hlength : 0 < chart.states.length :=
    Nat.zero_lt_of_lt (hpruned.root_lt hroot)
  obtain ⟨left, hleft⟩ := Nat.exists_eq_add_one.mpr hlength
  exact ⟨left, hleft, fun other _ => by omega⟩

/-- With levels enough, all groups below a group are checked in their order. -/
theorem forM_validateBelow_eq (hpruned : chart.Pruned roots)
    (hgroups : chart.GroupsBelow group groups) {levels : Nat}
    (hlevels : ∀ id ∈ group,
      chart.states.length ≤ chart.depth id + 1 + levels) :
    group.forM (validateBelow chart.states levels) =
      groups.forM chart.checkGroup := by
  induction hgroups generalizing levels with
  | nil => rfl
  | leaf hleaf _ ih =>
      rw [List.forall_mem_cons] at hlevels
      rw [forM_cons, validateBelow_leaf levels hleaf, Except.ok_bind, ih hlevels.2]
  | @composite id rest below groups hcomposite _ _ ihbelow ihrest =>
      rw [List.forall_mem_cons] at hlevels
      obtain ⟨left, rfl, hchildren⟩ :=
        hpruned.exists_levels hcomposite hlevels.1
      calc
        (id :: rest).forM (validateBelow chart.states (left + 1)) =
            (chart.checkGroup (chart.childrenGroup id) >>= fun _ =>
              below.forM chart.checkGroup) >>= fun _ =>
                groups.forM chart.checkGroup := by
          rw [forM_cons, validateBelow_composite _ hcomposite,
            validateGroup_succ, ← ihbelow hchildren, ihrest hlevels.2]
          rfl
        _ = (chart.childrenGroup id :: (below ++ groups)).forM chart.checkGroup := by
          rw [forM_cons, List.forM_eq_forM, List.forM_append, bind_assoc]

/-! ## The listed groups -/

theorem exists_listsGroups (hpruned : chart.Pruned roots) :
    ∃ groups, chart.ListsGroups groups := by
  have hbelow : ∀ id < chart.states.length,
      ∃ below, chart.GroupsBelow (chart.children id) below := by
    intro id hid
    apply hpruned.forest.descend_induction _ hid
    intro id _ hchildren
    exact exists_groupsBelow_of_members fun child hchild _ => hchildren child hchild
  obtain ⟨below, hgroups⟩ := exists_groupsBelow_of_members
    fun root hroot _ => hbelow root (hpruned.root_lt hroot)
  exact ⟨_, below, hgroups, rfl⟩

theorem nodup_members (hpruned : chart.Pruned roots)
    (hgroups : chart.ListsGroups groups) :
    ∀ group ∈ groups, group.members.Nodup := by
  rcases hgroups with ⟨below, hbelow, rfl⟩
  rw [List.forall_mem_cons]
  refine ⟨hpruned.nodup_roots, fun group hgroup => ?_⟩
  obtain ⟨id, rfl⟩ := hbelow.exists_parent group hgroup
  exact hpruned.nodup_children id

theorem validate_eq (hpruned : chart.Pruned roots)
    (hgroups : chart.ListsGroups groups) (hroots : chart.roots ≠ []) :
    chart.validate = groups.forM chart.checkGroup := by
  rcases hgroups with ⟨below, hbelow, rfl⟩
  obtain ⟨levels, hlevels, henough⟩ := hpruned.exists_levels_roots hroots
  rw [forM_cons, ← hpruned.forM_validateBelow_eq hbelow henough]
  unfold validate
  rw [if_neg (by simpa using hroots), hlevels, validateGroup_succ]
  rfl

end Pruned

theorem ListsGroups.unique {groups' : List SiblingGroup}
    (hgroups : chart.ListsGroups groups)
    (hgroups' : chart.ListsGroups groups') : groups = groups' := by
  rcases hgroups with ⟨below, hbelow, rfl⟩
  rcases hgroups' with ⟨below', hbelow', rfl⟩
  rw [hbelow.unique hbelow']

/-- However a chart was edited after it was built, validation misses roots
exactly when none are listed, finds no fault exactly when every listed group
has one initial member, and otherwise tells what is wrong with the first group
that has not. -/
theorem validate_reports_first_group (records : ChartRecords) (chart : Chart)
    (hbuild : build records = .ok chart) (edits : List Edit) :
    ∃ groups,
      (∀ other, (chart.editAll edits).ListsGroups other ↔ other = groups) ∧
      ((chart.editAll edits).validate = .error .noRoots ↔
        (chart.editAll edits).roots = []) ∧
      ((chart.editAll edits).roots ≠ [] →
        ((chart.editAll edits).validate = .ok () ↔
          ∀ group ∈ groups,
            (chart.editAll edits).SingleInitial group.members) ∧
        ∀ error, (chart.editAll edits).validate = .error error ↔
          FirstFault (FaultAt groups (chart.editAll edits).GroupFault) error) := by
  have hpruned := (forest_of_build hbuild).pruned.editAll edits
  generalize chart.editAll edits = edited at hpruned ⊢
  obtain ⟨groups, hgroups⟩ := hpruned.exists_listsGroups
  refine ⟨groups, fun other => ?_, validate_eq_noRoots_iff edited, ?_⟩
  · constructor
    · intro hother
      exact hother.unique hgroups
    · intro hother
      rw [hother]
      exact hgroups
  · intro hroots
    rw [hpruned.validate_eq hgroups hroots]
    constructor
    · rw [forM_eq_ok_iff]
      refine forall₂_congr fun group hgroup => ?_
      exact checkSingleInitial_ok_iff (hpruned.nodup_members hgroups group hgroup)
    · intro error
      exact forM_error_iff fun group _ => checkGroup_error_iff group

/-- Of three groups that have not one initial member each, the first belongs to
a tree that is no longer listed, and the second is reported, though it is
deeper than the third. -/
theorem second_faulty_group_reported :
    let records : ChartRecords :=
      { name := "Door"
        states := [.root "W", .child "V" "W", (StateRecord.root "A").markInitial,
          .root "Z", (StateRecord.child "B" "A").markInitial,
          (StateRecord.child "C" "B").markInitial,
          (StateRecord.child "D" "B").markInitial, .child "Y" "Z"] }
    let edits := [Edit.dropRoot 0, .rename 4 "Inner", .rename 6 "C"]
    let error := ValidationError.duplicateInitial (.childrenOf "Inner") "C" "C"
    ∃ chart groups, build records = .ok chart ∧
      (chart.editAll edits).ListsGroups groups ∧
      groups = [⟨.roots, [2, 3]⟩, ⟨.childrenOf "A", [4]⟩,
        ⟨.childrenOf "Inner", [5, 6]⟩, ⟨.childrenOf "Z", [7]⟩] ∧
      (chart.editAll edits).validate = .error error ∧
      FirstFault (FaultAt groups (chart.editAll edits).GroupFault) error := by
  intro records edits error
  cases hbuild : build records with
  | error error => cases hbuild
  | ok chart =>
      obtain ⟨groups, hgroups, -, hfirst⟩ :=
        validate_reports_first_group records chart hbuild edits
      have hvalidate : (chart.editAll edits).validate = .error error := by
        cases hbuild
        rfl
      have hroots : (chart.editAll edits).roots ≠ [] := by
        cases hbuild
        decide
      have hlisted : (chart.editAll edits).ListsGroups
          [⟨.roots, [2, 3]⟩, ⟨.childrenOf "A", [4]⟩,
            ⟨.childrenOf "Inner", [5, 6]⟩, ⟨.childrenOf "Z", [7]⟩] := by
        cases hbuild
        refine ⟨_, @GroupsBelow.composite _ 2 [3] [⟨.childrenOf "Inner", [5, 6]⟩]
          [⟨.childrenOf "Z", [7]⟩] (by decide) ?_ ?_, rfl⟩
        · exact @GroupsBelow.composite _ 4 [] [] [] (by decide)
            (.leaf rfl (.leaf rfl .nil)) .nil
        · exact @GroupsBelow.composite _ 3 [] [] [] (by decide)
            (.leaf rfl .nil) .nil
      refine ⟨chart, groups, rfl, (hgroups groups).mpr rfl,
        ((hgroups _).mp hlisted).symm, hvalidate, ?_⟩
      exact ((hfirst hroots).2 error).mp hvalidate

end Chart

end Statecharts
