import Statecharts.Proofs.Chart.Forest

/-!
# Ancestors

The ancestors of a state are read off a lineage, which is cut after as many
steps as there are states.  In a forest it ends before that, at a root: it is
the walk to the root and the root itself.  So ancestors are met one parent at
a time, and nothing of the bound is left to see.
-/

namespace Statecharts

variable {chart : Chart} {id parent root : StateId} {passed : List StateId}

/-- A lineage that is longer than the walk to a root ends there. -/
theorem Walk.lineageWithin_root {states : List State} {bound : Nat}
    (hwalk : Walk (parentOf? states) root id passed)
    (hroot : parentOf? states root = none) (hbound : passed.length < bound) :
    Statecharts.lineageWithin states bound id = passed ++ [root] := by
  induction hwalk generalizing bound with
  | here =>
      obtain ⟨bound, rfl⟩ := Nat.exists_eq_add_one.mpr hbound
      simp [Statecharts.lineageWithin, hroot]
  | climb _ hstep _ ih =>
      rw [List.length_cons] at hbound
      obtain ⟨bound, rfl⟩ :=
        Nat.exists_eq_add_one.mpr (Nat.zero_lt_of_lt hbound)
      simp only [Statecharts.lineageWithin, hstep, Option.elim_some,
        List.cons_append]
      rw [ih (Nat.lt_of_succ_lt_succ hbound)]

namespace Chart

theorem ancestors_of_orphan (horphan : parentOf? chart.states id = none) :
    chart.ancestors id = [] := by
  rw [ancestors, horphan, Option.elim_none]

namespace Forest

theorem lineage_eq (hforest : chart.Forest) (hroot : root ∈ chart.roots)
    (hwalk : Walk (parentOf? chart.states) root id passed) :
    lineage chart.states id = passed ++ [root] := by
  obtain ⟨hlt, horphan⟩ := (hforest.roots.mem_iff root).mp hroot
  exact hwalk.lineageWithin_root horphan (hwalk.length_lt hlt)

/-- A state and its ancestors are the walk to its root and the root. -/
theorem cons_ancestors_eq (hforest : chart.Forest) (hroot : root ∈ chart.roots)
    (hwalk : Walk (parentOf? chart.states) root id passed) :
    id :: chart.ancestors id = passed ++ [root] := by
  cases hwalk with
  | here =>
      have horphan := ((hforest.roots.mem_iff id).mp hroot).2
      rw [ancestors_of_orphan horphan, List.nil_append]
  | climb _ hstep hrest =>
      rw [ancestors, hstep, Option.elim_some, hforest.lineage_eq hroot hrest,
        List.cons_append]

theorem ancestors_of_child (hforest : chart.Forest)
    (hparent : parentOf? chart.states id = some parent) :
    chart.ancestors id = parent :: chart.ancestors parent := by
  obtain ⟨root, hroot, passed, hwalk⟩ :=
    hforest.exists_walk_to_root (hforest.parent_lt id parent hparent)
  rw [ancestors, hparent, Option.elim_some, hforest.lineage_eq hroot hwalk,
    hforest.cons_ancestors_eq hroot hwalk]

theorem nodup_cons_ancestors (hforest : chart.Forest)
    (hid : id < chart.states.length) : (id :: chart.ancestors id).Nodup := by
  obtain ⟨root, hroot, passed, hwalk⟩ := hforest.exists_walk_to_root hid
  rw [hforest.cons_ancestors_eq hroot hwalk, List.nodup_append_comm,
    List.singleton_append, List.nodup_cons]
  exact ⟨(Walk.iff_isChain.mp hwalk).1, hwalk.nodup⟩

/-! ## Depth -/

theorem depth_lt (hforest : chart.Forest) (hid : id < chart.states.length) :
    chart.depth id < chart.states.length := by
  obtain ⟨root, hroot, passed, hwalk⟩ := hforest.exists_walk_to_root hid
  have hlength := congrArg List.length (hforest.cons_ancestors_eq hroot hwalk)
  have hpassed := hwalk.length_lt ((hforest.roots.mem_iff root).mp hroot).1
  simp only [List.length_cons, List.length_append, List.length_nil] at hlength
  rw [depth]
  omega

theorem depth_of_child (hforest : chart.Forest)
    (hparent : parentOf? chart.states id = some parent) :
    chart.depth id = chart.depth parent + 1 := by
  rw [depth, hforest.ancestors_of_child hparent, List.length_cons, depth]

/-- What passes from the children of a state to the state holds of every state,
for nothing is deeper than there are states. -/
theorem descend_induction (hforest : chart.Forest) {motive : StateId → Prop}
    (step : ∀ id < chart.states.length,
      (∀ child ∈ chart.children id, motive child) → motive id)
    (hid : id < chart.states.length) : motive id := by
  induction hlevels : chart.states.length - chart.depth id
    using Nat.strong_induction_on generalizing id with
  | _ levels ih =>
      apply step id hid
      intro child hchild
      have hparent := hforest.mem_children_iff.mp hchild
      have hlt := lt_of_parentOf? hparent
      have hdepth := hforest.depth_of_child hparent
      have hdeep := hforest.depth_lt hlt
      exact ih (chart.states.length - chart.depth child) (by omega) hlt rfl

end Forest

end Chart

end Statecharts
