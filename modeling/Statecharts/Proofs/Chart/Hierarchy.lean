import Statecharts.Proofs.Chart.Strict

/-!
# The hierarchy of a built chart

Parents and lists of children are stored beside each other, and neither says
that they agree or that the parents of a state come to an end.  In a chart
that was built they do.  The roots and the children of all states are the
states, each once, and a state is listed below its parent.  The ancestors of a
state are read off its parents alone, so that they end at a root.
-/

namespace Statecharts

namespace Chart

variable {records : ChartRecords} {chart : Chart} {id : StateId}

/-! ## Every state is listed once -/

namespace Forest

theorem mem_flatMap_children_iff (hforest : chart.Forest) :
    id ∈ chart.states.flatMap State.children ↔
      ∃ parent, parentOf? chart.states id = some parent := by
  rw [List.mem_flatMap]
  constructor
  · intro hlisted
    rcases hlisted with ⟨state, hmem, hchild⟩
    obtain ⟨parent, hstate⟩ := List.getElem?_of_mem hmem
    exact ⟨parent, (hforest.mem_children_of_parentOf? hstate).mp hchild⟩
  · intro hlinked
    rcases hlinked with ⟨parent, hparent⟩
    have hlt := hforest.parent_lt id parent hparent
    have hstate := List.getElem?_eq_getElem hlt
    exact ⟨chart.states[parent], List.getElem_mem hlt,
      (hforest.mem_children_of_parentOf? hstate).mpr hparent⟩

/-- A state that was listed twice would have two parents. -/
theorem nodup_flatMap_children (hforest : chart.Forest) :
    (chart.states.flatMap State.children).Nodup := by
  rw [List.nodup_flatMap]
  constructor
  · intro state hmem
    obtain ⟨id, hstate⟩ := List.getElem?_of_mem hmem
    exact hforest.nodup_children hstate
  · rw [List.pairwise_iff_getElem]
    intro first second hfirst hsecond hlt child hchild hchild'
    rw [hforest.mem_children_of_parentOf? (List.getElem?_eq_getElem hfirst)]
      at hchild
    rw [hforest.mem_children_of_parentOf? (List.getElem?_eq_getElem hsecond),
      hchild, Option.some.injEq] at hchild'
    exact Nat.ne_of_lt hlt hchild'

theorem nodup_roots_append_children (hforest : chart.Forest) :
    (chart.roots ++ chart.states.flatMap State.children).Nodup := by
  have hroots : chart.roots.Nodup := hforest.roots.ascending.imp Nat.ne_of_lt
  apply hroots.append hforest.nodup_flatMap_children
  intro id hroot hlisted
  have horphan := ((hforest.roots.mem_iff id).mp hroot).2
  obtain ⟨parent, hparent⟩ := hforest.mem_flatMap_children_iff.mp hlisted
  rw [horphan] at hparent
  cases hparent

theorem roots_append_children_perm (hforest : chart.Forest) :
    (chart.roots ++ chart.states.flatMap State.children).Perm
      (List.range chart.states.length) := by
  rw [List.perm_ext_iff_of_nodup hforest.nodup_roots_append_children
    List.nodup_range]
  intro id
  rw [List.mem_append, List.mem_range, hforest.roots.mem_iff,
    hforest.mem_flatMap_children_iff]
  cases hparent : parentOf? chart.states id with
  | none => simp
  | some parent => simpa using lt_of_parentOf? hparent

end Forest

/-! ## The way up -/

/-- What the ancestors of a state are: the way from its parent up to a root,
which ends and meets no state twice. -/
structure ClimbsToRoot (chart : Chart) (id : StateId) : Prop where
  ends : chart.strictAncestors id = some (chart.ancestors id)
  notMem : id ∉ chart.ancestors id
  nodup : (chart.ancestors id).Nodup
  length_lt : (chart.ancestors id).length < chart.states.length
  eq_nil_iff : chart.ancestors id = [] ↔ id ∈ chart.roots
  eq_cons : id ∉ chart.roots → ∃ parent,
    parentOf? chart.states id = some parent ∧
      chart.ancestors id = parent :: chart.ancestors parent
  last_root : ∀ last, (chart.ancestors id).getLast? = some last →
    last ∈ chart.roots

namespace Forest

theorem exists_parent_iff (hforest : chart.Forest)
    (hid : id < chart.states.length) :
    (∃ parent, parentOf? chart.states id = some parent) ↔
      id ∉ chart.roots := by
  rw [hforest.roots.mem_iff]
  cases hparent : parentOf? chart.states id with
  | none => simp [hid]
  | some parent => simp

theorem getLast?_ancestors (hforest : chart.Forest)
    (hid : id < chart.states.length) {last : StateId}
    (hlast : (chart.ancestors id).getLast? = some last) :
    last ∈ chart.roots := by
  obtain ⟨root, hroot, passed, hwalk⟩ := hforest.exists_walk_to_root hid
  have hchain := congrArg List.getLast? (hforest.cons_ancestors_eq hroot hwalk)
  rw [List.getLast?_cons, hlast, List.getLast?_concat, Option.getD_some,
    Option.some.injEq] at hchain
  rwa [hchain]

theorem climbsToRoot (hforest : chart.Forest)
    (hid : id < chart.states.length) : chart.ClimbsToRoot id := by
  have hnodup := List.nodup_cons.mp (hforest.nodup_cons_ancestors hid)
  constructor
  case ends => exact hforest.strictAncestors_eq hid
  case notMem => exact hnodup.1
  case nodup => exact hnodup.2
  case length_lt => exact hforest.depth_lt hid
  case eq_nil_iff =>
    rw [← not_iff_not, ← hforest.exists_parent_iff hid]
    cases hparent : parentOf? chart.states id with
    | none => simp [ancestors_of_orphan hparent]
    | some parent => simp [hforest.ancestors_of_child hparent]
  case eq_cons =>
    intro hchild
    obtain ⟨parent, hparent⟩ := (hforest.exists_parent_iff hid).mpr hchild
    exact ⟨parent, hparent, hforest.ancestors_of_child hparent⟩
  case last_root =>
    intro last hlast
    exact hforest.getLast?_ancestors hid hlast

end Forest

/-- The hierarchy of a built chart is a forest, and its two stored forms say
the same. -/
theorem built_hierarchy_is_forest (records : ChartRecords) (chart : Chart)
    (hbuild : build records = .ok chart) :
    (chart.roots ++ chart.states.flatMap State.children).Perm
      (List.range chart.states.length) ∧
    (∀ (parent child : StateId) (state : State),
      chart.states[parent]? = some state →
        (child ∈ state.children ↔
          ∃ below, chart.states[child]? = some below ∧
            below.parent = some parent)) ∧
    (∀ id < chart.states.length, chart.ClimbsToRoot id) ∧
    ∀ child parent, parentOf? chart.states child = some parent →
      chart.depth child = chart.depth parent + 1 := by
  have hforest := forest_of_build hbuild
  refine ⟨hforest.roots_append_children_perm, ?_,
    fun id hid => hforest.climbsToRoot hid,
    fun child parent hparent => hforest.depth_of_child hparent⟩
  intro parent child state hstate
  rw [hforest.mem_children_of_parentOf? hstate]
  exact Option.bind_eq_some_iff

/-- A chart with two trees, whose states are declared before their parents. -/
theorem two_trees_are_forest :
    let records : ChartRecords :=
      { name := "Door"
        states := [.child "C" "B", .child "B" "A", .root "A", .child "E" "D",
          .root "D"] }
    ∃ chart, build records = .ok chart ∧
      chart.roots = [2, 4] ∧
      chart.states.map State.children = [[], [0], [1], [], [3]] ∧
      [2, 4, 0, 1, 3].Perm (List.range chart.states.length) ∧
      chart.ClimbsToRoot 0 ∧ chart.ancestors 0 = [1, 2] ∧
      chart.depth 0 = chart.depth 1 + 1 := by
  intro records
  cases hbuild : build records with
  | error error => cases hbuild
  | ok chart =>
      obtain ⟨hperm, -, hclimbs, hdepth⟩ :=
        built_hierarchy_is_forest records chart hbuild
      have hlength : 0 < chart.states.length := by
        cases hbuild
        decide
      have hparent : parentOf? chart.states 0 = some 1 := by
        cases hbuild
        rfl
      refine ⟨chart, rfl, ?_, ?_, ?_, hclimbs 0 hlength, ?_,
        hdepth 0 1 hparent⟩
      · cases hbuild
        rfl
      · cases hbuild
        rfl
      · cases hbuild
        exact hperm
      · cases hbuild
        rfl

end Chart

end Statecharts
