import Statecharts.Bundle.Basic
import Statecharts.Proofs.Chart.Groups

/-!
# Strict readings

The links of a chart are indices.  The readings of a chart skip an index that
is not there or put a default in its place, and they cut a walk or a recursion
off at its bound.  A strict reading does neither: an index that is not there
gives nothing, and neither does a walk that has not ended by itself when its
bound is met.

Of a closed chart whose states are linked as those of a forest, every strict
reading gives something, and it is what the reading gives.  So the defaults are
never used there, and every walk ends.
-/

namespace Statecharts

/-- An attempt ends with a value or an error, or it has no outcome. -/
abbrev Attempt (ε : Type) : Type → Type :=
  ExceptT ε Option

namespace Attempt

variable {ε α β : Type}

def noOutcome : Attempt ε α :=
  ExceptT.mk none

def ofExcept (result : Except ε α) : Attempt ε α :=
  ExceptT.mk (some result)

/-- Looking something up that may not be there. -/
def ofOption (found : Option α) : Attempt ε α :=
  ExceptT.mk (found.map .ok)

theorem run_bind {first : Attempt ε α} {result : Except ε α}
    {next : α → Attempt ε β} {next' : α → Except ε β}
    (hfirst : first.run = some result)
    (hnext : ∀ value, result = .ok value →
      (next value).run = some (next' value)) :
    (first >>= next).run = some (result >>= next') := by
  rw [ExceptT.run_bind, hfirst]
  cases result with
  | error error => rfl
  | ok value => exact hnext value rfl

theorem run_ofOption {found : Option α} {value : α}
    (hfound : found = some value) :
    (ofOption found : Attempt ε α).run = some (.ok value) := by
  rw [hfound]
  rfl

theorem run_ofOption_bind {found : Option α} {value : α}
    (hfound : found = some value) (next : α → Attempt ε β) :
    (ofOption found >>= next).run = (next value).run := by
  rw [hfound]
  rfl

end Attempt

/-! ## Names -/

def strictName (states : List State) (id : StateId) : Option String :=
  states[id]?.map State.name

def strictTriggerName (triggers : List Trigger) (id : TriggerId) :
    Option String :=
  triggers[id]?.map Trigger.name

theorem strictName_eq {states : List State} {id : StateId}
    (hid : id < states.length) :
    strictName states id = some (stateName states id) := by
  simp [strictName, stateName, hid]

theorem strictTriggerName_eq {triggers : List Trigger} {id : TriggerId}
    (hid : id < triggers.length) :
    strictTriggerName triggers id = some (triggerName triggers id) := by
  simp [strictTriggerName, triggerName, hid]

/-! ## Walks -/

/-- The states from one state up to a root, if there are no more of them than
the limit. -/
def strictClimb (states : List State) :
    (limit : Nat) → Option StateId → Option (List StateId)
  | _, none => some []
  | 0, some _ => none
  | limit + 1, some id => do
    let state ← states[id]?
    let above ← strictClimb states limit state.parent
    return id :: above

theorem strictClimb_some {states : List State} {id : StateId} {state : State}
    (hstate : states[id]? = some state) (limit : Nat) :
    strictClimb states (limit + 1) (some id) =
      (strictClimb states limit state.parent).map (id :: ·) := by
  rw [strictClimb, hstate, Option.bind_eq_bind, Option.bind_some]
  cases strictClimb states limit state.parent <;> rfl

theorem Walk.strictClimb {states : List State} {id root : StateId}
    {passed : List StateId} {limit : Nat}
    (hwalk : Walk (parentOf? states) root id passed)
    (hroot : root < states.length) (horphan : parentOf? states root = none)
    (hlimit : passed.length < limit) :
    Statecharts.strictClimb states limit (some id) = some (passed ++ [root]) := by
  obtain ⟨limit, rfl⟩ := Nat.exists_eq_add_one.mpr (Nat.zero_lt_of_lt hlimit)
  induction hwalk generalizing limit with
  | here =>
      have hstate := List.getElem?_eq_getElem hroot
      rw [parentOf?_of_getElem? hstate] at horphan
      rw [strictClimb_some hstate, horphan, Statecharts.strictClimb]
      rfl
  | climb _ hstep _ ih =>
      rw [List.length_cons] at hlimit
      obtain ⟨state, hstate, hparent⟩ := getElem?_of_parentOf? hstep
      obtain ⟨limit, rfl⟩ := Nat.exists_eq_add_one.mpr (show 0 < limit by omega)
      rw [strictClimb_some hstate, hparent, ih limit (by omega)]
      rfl

namespace Chart

variable {chart : Chart} {roots group : List StateId} {id : StateId}
  {groups : List SiblingGroup}

def strictParentName (chart : Chart) (id : StateId) : Option String := do
  let state ← chart.states[id]?
  match state.parent with
  | none => return "None"
  | some parent => strictName chart.states parent

def strictAncestors (chart : Chart) (id : StateId) : Option (List StateId) := do
  let state ← chart.states[id]?
  strictClimb chart.states chart.states.length state.parent

def strictDepth (chart : Chart) (id : StateId) : Option Nat :=
  (chart.strictAncestors id).map List.length

/-- The first initial member of a group; no member behind it is looked up. -/
def strictInitial (chart : Chart) : List StateId → Option (Option StateId)
  | [] => some none
  | id :: rest => do
    let state ← chart.states[id]?
    if state.initial then return some id else chart.strictInitial rest

def strictInitialChild (chart : Chart) (id : StateId) :
    Option (Option StateId) := do
  let state ← chart.states[id]?
  chart.strictInitial state.children

def strictInitialRoot (chart : Chart) : Option (Option StateId) :=
  chart.strictInitial chart.roots

theorem Forest.strictAncestors_eq (hforest : chart.Forest)
    (hid : id < chart.states.length) :
    chart.strictAncestors id = some (chart.ancestors id) := by
  have hstate := List.getElem?_eq_getElem hid
  unfold strictAncestors
  rw [hstate, Option.bind_eq_bind, Option.bind_some,
    ← parentOf?_of_getElem? hstate]
  cases hparent : parentOf? chart.states id with
  | none => rw [strictClimb, ancestors_of_orphan hparent]
  | some parent =>
      obtain ⟨root, hroot, passed, hwalk⟩ :=
        hforest.exists_walk_to_root (hforest.parent_lt id parent hparent)
      obtain ⟨hlt, horphan⟩ := (hforest.roots.mem_iff root).mp hroot
      rw [hwalk.strictClimb hlt horphan (hwalk.length_lt hlt),
        ← hforest.cons_ancestors_eq hroot hwalk,
        hforest.ancestors_of_child hparent]

theorem Pruned.strictAncestors_eq (hpruned : chart.Pruned roots)
    (hid : id < chart.states.length) :
    chart.strictAncestors id = some (chart.ancestors id) :=
  hpruned.forest.strictAncestors_eq hid

theorem strictInitial_eq (hgroup : ∀ id ∈ group, id < chart.states.length) :
    chart.strictInitial group = some (group.find? chart.isInitial) := by
  induction group with
  | nil => rfl
  | cons id group ih =>
      rw [List.forall_mem_cons] at hgroup
      rcases hgroup with ⟨hid, hrest⟩
      have hstate := List.getElem?_eq_getElem hid
      rw [strictInitial, hstate, Option.bind_eq_bind, Option.bind_some,
        ih hrest, List.find?_cons, isInitial_of_getElem? hstate]
      cases chart.states[id].initial <;> rfl

theorem Closed.children_lt (hclosed : chart.Closed)
    (hid : id < chart.states.length) :
    ∀ child ∈ chart.states[id].children, child < chart.states.length :=
  (hclosed.states id _ (List.getElem?_eq_getElem hid)).children

theorem Closed.strictInitialChild_eq (hclosed : chart.Closed)
    (hid : id < chart.states.length) :
    chart.strictInitialChild id = some (chart.initialChild? id) := by
  have hstate := List.getElem?_eq_getElem hid
  unfold strictInitialChild initialChild?
  rw [hstate, Option.bind_eq_bind, Option.bind_some, children_of_getElem? hstate]
  exact strictInitial_eq (hclosed.children_lt hid)

theorem Closed.strictParentName_eq (hclosed : chart.Closed)
    (hid : id < chart.states.length) :
    chart.strictParentName id = some (chart.parentName id) := by
  have hstate := List.getElem?_eq_getElem hid
  have hlt := (hclosed.states id _ hstate).parent
  unfold strictParentName parentName
  rw [hstate, Option.bind_eq_bind, Option.bind_some,
    parentOf?_of_getElem? hstate]
  cases hparent : chart.states[id].parent with
  | none => rfl
  | some parent => exact strictName_eq (hlt parent hparent)

/-! ## Bundles -/

def strictBundleTransition (chart : Chart) (transition : Transition) :
    Option BundleTransition := do
  let source ← strictName chart.states transition.source
  let target ← strictName chart.states transition.target
  let trigger ← transition.trigger.mapM (strictTriggerName chart.triggers)
  return { source, target, trigger }

def strictBundleState (chart : Chart) (state : State) : Option BundleState := do
  let parent ← state.parent.mapM (strictName chart.states)
  let children ← state.children.mapM (strictName chart.states)
  let enterReactions ←
    state.enterReactions.mapM (strictTriggerName chart.triggers)
  let exitReactions ←
    state.exitReactions.mapM (strictTriggerName chart.triggers)
  let transitions ← state.transitions.mapM chart.strictBundleTransition
  return {
    name := state.name
    parent
    initial := state.initial
    children
    defaultEnter := state.defaultEnter
    enterReactions
    defaultExit := state.defaultExit
    exitReactions
    transitions }

def strictBundle (chart : Chart) : Option Bundle := do
  let roots ← chart.roots.mapM (strictName chart.states)
  let states ← chart.states.mapM chart.strictBundleState
  return {
    name := chart.name
    version := bundleVersion
    roots
    triggers := chart.triggers
    states }

theorem strictBundleTransition_eq {transition : Transition}
    (hid : id < chart.states.length)
    (htransition : transition.Closed chart.states.length chart.triggers.length id) :
    chart.strictBundleTransition transition =
      some (chart.bundleTransition transition) := by
  have hsource : transition.source < chart.states.length :=
    htransition.source ▸ hid
  have htrigger : transition.trigger.mapM (strictTriggerName chart.triggers) =
      some (transition.trigger.map (triggerName chart.triggers)) := by
    cases htrigger : transition.trigger with
    | none => rfl
    | some trigger =>
        have hlt := htransition.trigger trigger htrigger
        simp [strictTriggerName_eq hlt]
  unfold strictBundleTransition
  rw [strictName_eq hsource, strictName_eq htransition.target, htrigger]
  rfl

theorem strictBundleState_eq {state : State} (hid : id < chart.states.length)
    (hstate : state.Closed chart.states.length chart.triggers.length id) :
    chart.strictBundleState state = some (chart.bundleState state) := by
  have hparent : state.parent.mapM (strictName chart.states) =
      some (state.parent.map (stateName chart.states)) := by
    cases hparent : state.parent with
    | none => rfl
    | some parent => simp [strictName_eq (hstate.parent parent hparent)]
  have hchildren : state.children.mapM (strictName chart.states) =
      some (state.children.map (stateName chart.states)) :=
    mapM_eq_some_map fun child hchild => strictName_eq (hstate.children child hchild)
  have henter : state.enterReactions.mapM (strictTriggerName chart.triggers) =
      some (state.enterReactions.map (triggerName chart.triggers)) :=
    mapM_eq_some_map fun trigger htrigger =>
      strictTriggerName_eq (hstate.enterReactions trigger htrigger)
  have hexit : state.exitReactions.mapM (strictTriggerName chart.triggers) =
      some (state.exitReactions.map (triggerName chart.triggers)) :=
    mapM_eq_some_map fun trigger htrigger =>
      strictTriggerName_eq (hstate.exitReactions trigger htrigger)
  have htransitions : state.transitions.mapM chart.strictBundleTransition =
      some (state.transitions.map chart.bundleTransition) :=
    mapM_eq_some_map fun transition htransition =>
      strictBundleTransition_eq hid (hstate.transitions transition htransition)
  unfold strictBundleState
  rw [hparent, hchildren, henter, hexit, htransitions]
  rfl

theorem Closed.strictBundle_eq (hclosed : chart.Closed) :
    chart.strictBundle = some chart.bundle := by
  have hroots : chart.roots.mapM (strictName chart.states) =
      some (chart.roots.map (stateName chart.states)) :=
    mapM_eq_some_map fun root hroot => strictName_eq (hclosed.roots root hroot)
  have hstates : chart.states.mapM chart.strictBundleState =
      some (chart.states.map chart.bundleState) := by
    apply mapM_eq_some_map
    intro state hmem
    obtain ⟨id, hstate⟩ := List.getElem?_of_mem hmem
    exact strictBundleState_eq (List.getElem?_eq_some_iff.mp hstate).1
      (hclosed.states id state hstate)
  unfold strictBundle
  rw [hroots, hstates]
  rfl

/-! ## Validation -/

/-- Goes over a group and stops at the second initial member; the first one
that was met is known by its name. -/
def strictSingleInitial (states : List State) (scope : Scope) :
    Option String → List StateId → Attempt ValidationError Unit
  | none, [] => throw (.noInitial scope)
  | some _, [] => pure ()
  | met, id :: rest => do
    let state ← .ofOption states[id]?
    if state.initial then
      match met with
      | some first => throw (.duplicateInitial scope first state.name)
      | none => strictSingleInitial states scope (some state.name) rest
    else strictSingleInitial states scope met rest

/-- Checks a group and the groups below it, if these are no more levels deep
than the given ones. -/
def strictGroup (states : List State) :
    (levels : Nat) → Scope → List StateId → Attempt ValidationError Unit
  | 0, _, _ => .noOutcome
  | levels + 1, scope, group => do
    strictSingleInitial states scope none group
    group.forM fun id => do
      let state ← .ofOption states[id]?
      if state.isComposite then
        strictGroup states levels (.childrenOf state.name) state.children

def strictValidate (chart : Chart) : Attempt ValidationError Unit :=
  if chart.roots.isEmpty then throw .noRoots
  else strictGroup chart.states chart.states.length .roots chart.roots

/-- What a strict validation does below one member of a group. -/
def strictBelow (states : List State) (levels : Nat) (id : StateId) :
    Attempt ValidationError Unit := do
  let state ← .ofOption states[id]?
  if state.isComposite then
    strictGroup states levels (.childrenOf state.name) state.children

theorem strictGroup_succ (states : List State) (levels : Nat) (scope : Scope)
    (group : List StateId) :
    strictGroup states (levels + 1) scope group =
      (strictSingleInitial states scope none group >>= fun _ =>
        group.forM (strictBelow states levels)) := rfl

theorem run_strictSingleInitial (scope : Scope) (met : Option String)
    (hgroup : ∀ id ∈ group, id < chart.states.length) :
    (strictSingleInitial chart.states scope met group).run =
      some (judge scope (met.toList ++
        (group.filter chart.isInitial).map (stateName chart.states))) := by
  induction group generalizing met with
  | nil => cases met <;> rfl
  | cons id group ih =>
      rw [List.forall_mem_cons] at hgroup
      rcases hgroup with ⟨hid, hrest⟩
      have hstate := List.getElem?_eq_getElem hid
      have hname := stateName_of_getElem? hstate
      rw [strictSingleInitial, Attempt.run_ofOption_bind hstate,
        List.filter_cons, isInitial_of_getElem? hstate]
      split
      next hinitial =>
        cases met with
        | none => simp [ih (some chart.states[id].name) hrest, hname]
        | some first => simp [judge, hname]
      next hinitial => exact ih met hrest

theorem strictBelow_leaf (levels : Nat) (hid : id < chart.states.length)
    (hleaf : chart.children id = []) :
    (strictBelow chart.states levels id).run = some (.ok ()) := by
  have hstate := List.getElem?_eq_getElem hid
  rw [children_of_getElem? hstate] at hleaf
  rw [strictBelow, Attempt.run_ofOption_bind hstate]
  simp [State.isComposite, hleaf]

theorem strictBelow_composite (levels : Nat) (hid : id < chart.states.length)
    (hcomposite : chart.children id ≠ []) :
    (strictBelow chart.states levels id).run =
      (strictGroup chart.states levels (chart.childrenGroup id).scope
        (chart.childrenGroup id).members).run := by
  have hstate := List.getElem?_eq_getElem hid
  rw [strictBelow, Attempt.run_ofOption_bind hstate, childrenGroup,
    children_of_getElem? hstate, stateName_of_getElem? hstate]
  rw [children_of_getElem? hstate] at hcomposite
  simp [State.isComposite, hcomposite]

theorem run_strictGroup {levels : Nat} {scope : Scope}
    {checked : Except ValidationError Unit}
    (hgroup : ∀ id ∈ group, id < chart.states.length)
    (hbelow : (group.forM (strictBelow chart.states levels)).run = some checked) :
    (strictGroup chart.states (levels + 1) scope group).run =
      some (chart.checkGroup ⟨scope, group⟩ >>= fun _ => checked) := by
  rw [strictGroup_succ, checkGroup, checkSingleInitial_eq]
  apply Attempt.run_bind (run_strictSingleInitial scope none hgroup)
  intro _ _
  exact hbelow

namespace Pruned

theorem run_forM_strictBelow (hpruned : chart.Pruned roots)
    (hgroups : chart.GroupsBelow group groups) {levels : Nat}
    (hgroup : ∀ id ∈ group, id < chart.states.length)
    (hlevels : ∀ id ∈ group,
      chart.states.length ≤ chart.depth id + 1 + levels) :
    (group.forM (strictBelow chart.states levels)).run =
      some (groups.forM chart.checkGroup) := by
  induction hgroups generalizing levels with
  | nil => rfl
  | leaf hleaf _ ih =>
      rw [List.forall_mem_cons] at hgroup hlevels
      rw [forM_cons]
      exact Attempt.run_bind (strictBelow_leaf levels hgroup.1 hleaf)
        fun _ _ => ih hgroup.2 hlevels.2
  | @composite id rest below groups hcomposite _ _ ihbelow ihrest =>
      rw [List.forall_mem_cons] at hgroup hlevels
      obtain ⟨left, rfl, hleft⟩ := hpruned.exists_levels hcomposite hlevels.1
      have hchildren : ∀ child ∈ chart.children id, child < chart.states.length :=
        fun child hchild => hpruned.child_lt hchild
      have hmember := (strictBelow_composite (left + 1) hgroup.1 hcomposite).trans
        (run_strictGroup hchildren (ihbelow hchildren hleft))
      rw [forM_cons, forM_cons, List.forM_eq_forM (m := Except ValidationError),
        List.forM_append, ← bind_assoc]
      exact Attempt.run_bind hmember fun _ _ => ihrest hgroup.2 hlevels.2

theorem run_strictValidate (hpruned : chart.Pruned roots) :
    chart.strictValidate.run = some chart.validate := by
  by_cases hroots : chart.roots = []
  · unfold strictValidate validate
    rw [hroots]
    rfl
  · obtain ⟨groups, hgroups⟩ := hpruned.exists_listsGroups
    rw [hpruned.validate_eq hgroups hroots]
    rcases hgroups with ⟨below, hbelow, rfl⟩
    obtain ⟨levels, hlevels, henough⟩ := hpruned.exists_levels_roots hroots
    have hlt : ∀ root ∈ chart.roots, root < chart.states.length :=
      fun root hroot => hpruned.root_lt hroot
    unfold strictValidate
    rw [if_neg (by simpa using hroots), hlevels, forM_cons]
    exact run_strictGroup hlt (hpruned.run_forM_strictBelow hbelow hlt henough)

end Pruned

/-! ## All readings -/

/-- Every strict reading of the chart gives what the reading gives. -/
structure ReadsStrictly (chart : Chart) : Prop where
  validate : chart.strictValidate.run = some chart.validate
  bundle : chart.strictBundle = some chart.bundle
  initialRoot : chart.strictInitialRoot = some chart.initialRoot?
  initialChild : ∀ id < chart.states.length,
    chart.strictInitialChild id = some (chart.initialChild? id)
  parentName : ∀ id < chart.states.length,
    chart.strictParentName id = some (chart.parentName id)
  ancestors : ∀ id < chart.states.length,
    chart.strictAncestors id = some (chart.ancestors id)
  depth : ∀ id < chart.states.length,
    chart.strictDepth id = some (chart.depth id)

theorem Closed.readsStrictly (hclosed : chart.Closed)
    (hpruned : chart.Pruned roots) : chart.ReadsStrictly where
  validate := hpruned.run_strictValidate
  bundle := hclosed.strictBundle_eq
  initialRoot := strictInitial_eq hclosed.roots
  initialChild := fun _ hid => hclosed.strictInitialChild_eq hid
  parentName := fun _ hid => hclosed.strictParentName_eq hid
  ancestors := fun _ hid => hpruned.strictAncestors_eq hid
  depth := by
    intro id hid
    rw [strictDepth, hpruned.strictAncestors_eq hid, Option.map_some, depth]

end Chart

end Statecharts
