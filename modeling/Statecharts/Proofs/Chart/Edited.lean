import Statecharts.Proofs.Chart.Ancestors

/-!
# Edited charts

An edit changes flags, shown names or the list of roots, and leaves the links
between the states as they are.  The states of an edited chart are therefore
still linked as those of a forest, but some trees of the forest may no longer
be listed among the roots.
-/

namespace Statecharts

namespace Chart

variable {chart : Chart} {roots : List StateId} {id child : StateId}

/-- A forest with the given roots, some of which may not be listed. -/
structure Pruned (chart : Chart) (roots : List StateId) : Prop where
  forest : ({ chart with roots } : Chart).Forest
  sublist : chart.roots.Sublist roots

/-! ## Edits keep the links -/

theorem parentOf?_modify (states : List State) (place : StateId)
    {f : State → State} (hparent : ∀ state, (f state).parent = state.parent) :
    parentOf? (states.modify place f) = parentOf? states := by
  funext id
  rw [parentOf?, parentOf?, List.getElem?_modify]
  cases states[id]? with
  | none => rfl
  | some state => by_cases hplace : place = id <;> simp [hplace, hparent]

theorem children_modify {place : StateId} {f : State → State}
    (hchildren : ∀ state, (f state).children = state.children) (id : StateId) :
    Chart.children { chart with states := chart.states.modify place f } id =
      chart.children id := by
  simp only [Chart.children, List.getElem?_modify]
  cases chart.states[id]? with
  | none => rfl
  | some state => by_cases hplace : place = id <;> simp [hplace, hchildren]

theorem Forest.modify (hforest : chart.Forest) (place : StateId)
    {f : State → State} (hparent : ∀ state, (f state).parent = state.parent)
    (hchildren : ∀ state, (f state).children = state.children) :
    Forest { chart with states := chart.states.modify place f } := by
  have hlinks := parentOf?_modify chart.states place hparent
  have hlength : (chart.states.modify place f).length = chart.states.length :=
    List.length_modify ..
  constructor
  case parent_lt =>
    rw [hlinks, hlength]
    exact hforest.parent_lt
  case acyclic =>
    rw [hlinks]
    exact hforest.acyclic
  case children =>
    intro id
    rw [hlinks, children_modify hchildren]
    exact hforest.children id
  case roots =>
    rw [hlinks, hlength]
    exact hforest.roots

theorem Forest.pruned (hforest : chart.Forest) : chart.Pruned chart.roots :=
  ⟨hforest, .refl _⟩

theorem Pruned.edit (hpruned : chart.Pruned roots) (change : Edit) :
    (chart.edit change).Pruned roots := by
  cases change with
  | setInitial place value =>
      exact ⟨hpruned.forest.modify place (fun _ => rfl) (fun _ => rfl),
        hpruned.sublist⟩
  | rename place name =>
      exact ⟨hpruned.forest.modify place (fun _ => rfl) (fun _ => rfl),
        hpruned.sublist⟩
  | dropRoot place =>
      exact ⟨hpruned.forest, List.filter_sublist.trans hpruned.sublist⟩

theorem Pruned.editAll (hpruned : chart.Pruned roots) (edits : List Edit) :
    (chart.editAll edits).Pruned roots := by
  unfold Chart.editAll
  induction edits generalizing chart with
  | nil => exact hpruned
  | cons change edits ih => exact ih (hpruned.edit change)

/-! ## From the roots down -/

namespace Pruned

theorem nodup_roots (hpruned : chart.Pruned roots) : chart.roots.Nodup :=
  hpruned.sublist.nodup (hpruned.forest.roots.ascending.imp Nat.ne_of_lt)

theorem nodup_children (hpruned : chart.Pruned roots) (id : StateId) :
    (chart.children id).Nodup :=
  (hpruned.forest.children id).ascending.imp Nat.ne_of_lt

theorem parentOf?_child (hpruned : chart.Pruned roots)
    (hchild : child ∈ chart.children id) :
    parentOf? chart.states child = some id :=
  hpruned.forest.mem_children_iff.mp hchild

theorem root_lt (hpruned : chart.Pruned roots) (hroot : id ∈ chart.roots) :
    id < chart.states.length :=
  ((hpruned.forest.roots.mem_iff id).mp (hpruned.sublist.subset hroot)).1

theorem depth_lt (hpruned : chart.Pruned roots)
    (hid : id < chart.states.length) : chart.depth id < chart.states.length :=
  hpruned.forest.depth_lt hid

theorem depth_child (hpruned : chart.Pruned roots)
    (hchild : child ∈ chart.children id) :
    chart.depth child = chart.depth id + 1 :=
  hpruned.forest.depth_of_child (hpruned.parentOf?_child hchild)

theorem child_lt (hpruned : chart.Pruned roots)
    (hchild : child ∈ chart.children id) : child < chart.states.length :=
  lt_of_parentOf? (hpruned.parentOf?_child hchild)

end Pruned

end Chart

end Statecharts
