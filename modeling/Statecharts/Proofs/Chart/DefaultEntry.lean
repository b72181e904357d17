import Statecharts.Proofs.Chart.Edited
import Statecharts.Proofs.Chart.Validation
import Statecharts.Proofs.Compilation.Naming

/-!
# Entering a chart by default

A chart is entered at its initial root, and whoever enters a composite state
goes on to its initial child.  Looking for an initial member takes the first
one, and says nothing of others.  In a chart that was elaborated there are no
others, for every group was validated, wherever it stands.  Each step goes one
level down, so that entering a state meets no state twice, and it has come to
a leaf before as many steps are made as there are states.
-/

namespace Statecharts

namespace Chart

variable {chart : Chart} {group entered : List StateId}
  {id child : StateId}

/-- Entering the state by default goes on to the given states, the last of
which is a leaf. -/
inductive Enters (chart : Chart) : StateId → List StateId → Prop
  | leaf {id : StateId} (hleaf : chart.children id = []) : Enters chart id []
  | step {id child : StateId} {entered : List StateId}
      (hstep : chart.initialChild? id = some child)
      (hrest : Enters chart child entered) :
      Enters chart id (child :: entered)

/-- The state is an initial member of the group, and there is no other. -/
def OnlyInitial (chart : Chart) (group : List StateId) (id : StateId) : Prop :=
  ∀ other, (other ∈ group ∧ chart.isInitial other = true) ↔ other = id

/-! ## One step -/

theorem SingleInitial.exists_find? (hsingle : chart.SingleInitial group) :
    ∃ id, group.find? chart.isInitial = some id ∧ chart.OnlyInitial group id := by
  obtain ⟨id, hid, honly⟩ := hsingle
  have hfound : (group.find? chart.isInitial).isSome := by
    rw [List.find?_isSome]
    exact ⟨id, hid⟩
  obtain ⟨found, hfound⟩ := Option.isSome_iff_exists.mp hfound
  have hinitial : chart.isInitial found = true := List.find?_some hfound
  have hsame := honly found ⟨List.mem_of_find?_eq_some hfound, hinitial⟩
  subst hsame
  refine ⟨found, hfound, fun other => ⟨honly other, fun heq => ?_⟩⟩
  rw [heq]
  exact hid

theorem mem_children_of_initialChild?
    (hstep : chart.initialChild? id = some child) :
    child ∈ chart.children id :=
  List.mem_of_find?_eq_some hstep

theorem Forest.depth_initialChild (hforest : chart.Forest)
    (hstep : chart.initialChild? id = some child) :
    child < chart.states.length ∧ chart.depth child = chart.depth id + 1 := by
  have hparent :=
    hforest.mem_children_iff.mp (mem_children_of_initialChild? hstep)
  exact ⟨lt_of_parentOf? hparent, hforest.depth_of_child hparent⟩

/-! ## All steps -/

namespace Enters

theorem unique {entered' : List StateId} (henters : chart.Enters id entered)
    (henters' : chart.Enters id entered') : entered = entered' := by
  induction henters generalizing entered' with
  | leaf hleaf =>
      cases henters' with
      | leaf _ => rfl
      | step hstep _ =>
          have hmem := mem_children_of_initialChild? hstep
          rw [hleaf] at hmem
          cases hmem
  | step hstep _ ih =>
      cases henters' with
      | leaf hleaf =>
          have hmem := mem_children_of_initialChild? hstep
          rw [hleaf] at hmem
          cases hmem
      | step hstep' hrest' =>
          rw [hstep, Option.some.injEq] at hstep'
          subst hstep'
          rw [ih hrest']

theorem depth_lt (hforest : chart.Forest) (henters : chart.Enters id entered) :
    ∀ state ∈ entered, chart.depth id < chart.depth state := by
  induction henters with
  | leaf _ => simp
  | step hstep _ ih =>
      have hdepth := (hforest.depth_initialChild hstep).2
      intro state hstate
      rcases List.mem_cons.mp hstate with rfl | hlater
      · omega
      · have hlt := ih state hlater
        omega

theorem nodup (hforest : chart.Forest) (henters : chart.Enters id entered) :
    (id :: entered).Nodup := by
  induction henters with
  | leaf _ => simp
  | @step id child entered hstep hrest ih =>
      have hnew : id ∉ child :: entered := by
        intro hmem
        have hlt := (Enters.step hstep hrest).depth_lt hforest id hmem
        exact Nat.lt_irrefl _ hlt
      exact List.nodup_cons.mpr ⟨hnew, ih⟩

/-- Every step goes down, and no state is deeper than there are states. -/
theorem depth_add_length_lt (hforest : chart.Forest)
    (hid : id < chart.states.length) (henters : chart.Enters id entered) :
    chart.depth id + entered.length < chart.states.length := by
  induction henters with
  | leaf _ =>
      have hlt := hforest.depth_lt hid
      simpa using hlt
  | step hstep _ ih =>
      obtain ⟨hchild, hdepth⟩ := hforest.depth_initialChild hstep
      have hlt := ih hchild
      rw [List.length_cons]
      omega

end Enters

theorem Forest.exists_enters (hforest : chart.Forest)
    (hinitial : ∀ id, chart.children id ≠ [] →
      ∃ child, chart.initialChild? id = some child)
    (hid : id < chart.states.length) : ∃ entered, chart.Enters id entered := by
  apply hforest.descend_induction _ hid
  intro id _ hchildren
  by_cases hleaf : chart.children id = []
  · exact ⟨[], .leaf hleaf⟩
  · obtain ⟨child, hstep⟩ := hinitial id hleaf
    obtain ⟨entered, henters⟩ :=
      hchildren child (mem_children_of_initialChild? hstep)
    exact ⟨child :: entered, .step hstep henters⟩

/-! ## Valid charts -/

theorem Forest.singleInitial_children (hforest : chart.Forest)
    (hvalid : chart.validate = .ok ()) (hcomposite : chart.children id ≠ []) :
    chart.SingleInitial (chart.children id) := by
  obtain ⟨state, hstate⟩ := exists_state_of_composite hcomposite
  rw [children_of_getElem? hstate] at hcomposite ⊢
  exact (hforest.validate_ok_iff.mp hvalid).2 id state hstate hcomposite

/-- Entering a chart that was elaborated by default is well defined: there is
one initial root, every composite state has one initial child, and from any
state on, going on to the initial child ends in a leaf. -/
theorem default_entry_ends_in_leaf (source : Source) (chart : Chart)
    (helaborate : elaborate source = .ok chart) :
    (∃ root, chart.initialRoot? = some root ∧ root < chart.states.length ∧
      chart.OnlyInitial chart.roots root) ∧
    (∀ id, chart.children id ≠ [] → ∃ child,
      chart.initialChild? id = some child ∧ child < chart.states.length ∧
        chart.OnlyInitial (chart.children id) child) ∧
    ∀ id < chart.states.length, ∃ entered, chart.Enters id entered ∧
      (∀ other, chart.Enters id other → other = entered) ∧
      (id :: entered).Nodup ∧ entered.length < chart.states.length := by
  obtain ⟨records, -, hbuild, hvalid⟩ := elaborate_ok_iff.mp helaborate
  have hforest := forest_of_build hbuild
  have hchildren : ∀ id, chart.children id ≠ [] → ∃ child,
      chart.initialChild? id = some child ∧
        chart.OnlyInitial (chart.children id) child := fun id hcomposite =>
    (hforest.singleInitial_children hvalid hcomposite).exists_find?
  refine ⟨?_, fun id hcomposite => ?_, fun id hid => ?_⟩
  · obtain ⟨root, hfound, honly⟩ :=
      (hforest.validate_ok_iff.mp hvalid).1.exists_find?
    have hroot := List.mem_of_find?_eq_some hfound
    exact ⟨root, hfound, ((hforest.roots.mem_iff root).mp hroot).1, honly⟩
  · obtain ⟨child, hstep, honly⟩ := hchildren id hcomposite
    exact ⟨child, hstep, (hforest.depth_initialChild hstep).1, honly⟩
  · have hinitial : ∀ id, chart.children id ≠ [] →
        ∃ child, chart.initialChild? id = some child := by
      intro id hcomposite
      obtain ⟨child, hstep, -⟩ := hchildren id hcomposite
      exact ⟨child, hstep⟩
    obtain ⟨entered, henters⟩ := hforest.exists_enters hinitial hid
    have hlength := henters.depth_add_length_lt hforest hid
    exact ⟨entered, henters, fun other hother => hother.unique henters,
      henters.nodup hforest, by omega⟩

/-- The way in leads past the first child, which is not initial. -/
theorem nested_door_enters_its_leaf :
    let source := Source.memory
      { name := "Door"
        states := [.child "C" "B", (StateRecord.child "D" "B").markInitial,
          (StateRecord.child "B" "A").markInitial,
          (StateRecord.root "A").markInitial] }
    ∃ chart, elaborate source = .ok chart ∧
      chart.initialRoot? = some 3 ∧ chart.OnlyInitial chart.roots 3 ∧
      chart.Enters 3 [2, 1] ∧
      ∀ other, chart.Enters 3 other → other = [2, 1] := by
  intro source
  cases helaborate : elaborate source with
  | error error => cases helaborate
  | ok chart =>
      obtain ⟨⟨root, hroot, -, honly⟩, -, hentry⟩ :=
        default_entry_ends_in_leaf source chart helaborate
      have hfound : chart.initialRoot? = some 3 := by
        cases helaborate
        rfl
      have hlength : 3 < chart.states.length := by
        cases helaborate
        decide
      have henters : chart.Enters 3 [2, 1] := by
        cases helaborate
        exact .step rfl (.step rfl (.leaf rfl))
      obtain ⟨entered, -, hunique, -⟩ := hentry 3 hlength
      rw [hfound, Option.some.injEq] at hroot
      rw [← hroot] at honly
      rw [← hunique [2, 1] henters] at hunique
      exact ⟨chart, rfl, hfound, honly, henters, hunique⟩

end Chart

end Statecharts
