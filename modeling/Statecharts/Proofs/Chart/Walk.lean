import Statecharts.Chart.Basic
import Mathlib.Data.List.Cycle
import Mathlib.Tactic

/-!
# Walks upwards

Parents are told by a partial function on states, be it the links made in a
list of states or the parents that records declare.  A walk follows it from
one state until it first meets another.  Such a walk is unique and passes no
state twice, hence a bounded lineage that is as long as there are states
finds every state above its first one.

Walks that return to where they began are the cycles of the parent function.
Where there are none, walking up from any state ends at a root.
-/

namespace Statecharts

variable {up : StateId → Option StateId} {states : List State}
  {first last : StateId} {passed : List StateId}

theorem exists_head?_concat (states : List StateId) (last : StateId) :
    ∃ first, (states ++ [last]).head? = some first := by
  cases states with
  | nil => exact ⟨last, rfl⟩
  | cons first states => exact ⟨first, rfl⟩

def Climbs (up : StateId → Option StateId) (lower upper : StateId) : Prop :=
  up lower = some upper

/-- Walking up from `first` passes exactly the states `passed`, in order,
before it meets `last`. -/
inductive Walk (up : StateId → Option StateId) (last : StateId) :
    (first : StateId) → (passed : List StateId) → Prop
  | here : Walk up last last []
  | climb {first next : StateId} {passed : List StateId}
      (hfirst : first ≠ last) (hstep : up first = some next)
      (hrest : Walk up last next passed) :
      Walk up last first (first :: passed)

namespace Walk

theorem unique {passed' : List StateId} (hwalk : Walk up last first passed)
    (hwalk' : Walk up last first passed') : passed = passed' := by
  induction hwalk generalizing passed' with
  | here =>
      cases hwalk' with
      | here => rfl
      | climb hfirst _ _ => exact absurd rfl hfirst
  | climb hfirst hstep _ ih =>
      cases hwalk' with
      | here => exact absurd rfl hfirst
      | climb _ hstep' hrest' =>
          rw [hstep] at hstep'
          cases hstep'
          rw [ih hrest']

theorem of_mem {state : StateId} (hwalk : Walk up last first passed)
    (hmem : state ∈ passed) :
    ∃ later, Walk up last state later ∧ later.length ≤ passed.length := by
  induction hwalk with
  | here => simp at hmem
  | climb hfirst hstep hrest ih =>
      rcases List.mem_cons.mp hmem with rfl | hlater
      · exact ⟨_, .climb hfirst hstep hrest, le_refl _⟩
      · obtain ⟨later, hlaterWalk, hlength⟩ := ih hlater
        exact ⟨later, hlaterWalk, by simp; omega⟩

/-- A state that is passed twice would be the first of two walks. -/
theorem nodup (hwalk : Walk up last first passed) : passed.Nodup := by
  induction hwalk with
  | here => simp
  | climb hfirst hstep hrest ih =>
      refine List.nodup_cons.mpr ⟨fun hmem => ?_, ih⟩
      obtain ⟨later, hlater, hlength⟩ := hrest.of_mem hmem
      rw [← (Walk.climb hfirst hstep hrest).unique hlater] at hlength
      simp at hlength

theorem climbs_of_mem {state : StateId} (hwalk : Walk up last first passed)
    (hmem : state ∈ passed) : ∃ next, up state = some next := by
  induction hwalk with
  | here => simp at hmem
  | climb _ hstep _ ih =>
      rcases List.mem_cons.mp hmem with rfl | hlater
      · exact ⟨_, hstep⟩
      · exact ih hlater

theorem iff_isChain :
    Walk up last first passed ↔
      last ∉ passed ∧ (passed ++ [last]).head? = some first ∧
        (passed ++ [last]).IsChain (Climbs up) := by
  induction passed generalizing first with
  | nil =>
      constructor
      · intro hwalk
        cases hwalk
        simp
      · intro hpath
        cases Option.some.inj hpath.2.1
        exact .here
  | cons state passed ih =>
      constructor
      · intro hwalk
        rcases hwalk with _ | ⟨hfirst, hstep, hrest⟩
        obtain ⟨hlast, hhead, hchain⟩ := ih.mp hrest
        refine ⟨by simp [hlast, hfirst.symm], rfl, ?_⟩
        rw [List.cons_append, List.isChain_cons]
        refine ⟨fun next hnext => ?_, hchain⟩
        rw [hhead] at hnext
        cases hnext
        exact hstep
      · intro hpath
        rcases hpath with ⟨hlast, hhead, hchain⟩
        cases Option.some.inj hhead
        rw [List.cons_append, List.isChain_cons] at hchain
        obtain ⟨next, hnext⟩ := exists_head?_concat passed last
        simp only [List.mem_cons, not_or] at hlast
        exact .climb (Ne.symm hlast.1) (hchain.1 next hnext)
          (ih.mpr ⟨hlast.2, hnext, hchain.2⟩)

theorem closed_iff_isChain :
    (∃ first, up last = some first ∧ Walk up last first passed) ↔
      last ∉ passed ∧ (last :: (passed ++ [last])).IsChain (Climbs up) := by
  constructor
  · intro hreturn
    rcases hreturn with ⟨first, hstep, hwalk⟩
    obtain ⟨hlast, hhead, hchain⟩ := iff_isChain.mp hwalk
    refine ⟨hlast, List.isChain_cons.mpr ⟨fun next hnext => ?_, hchain⟩⟩
    rw [hhead] at hnext
    cases hnext
    exact hstep
  · intro hpath
    rcases hpath with ⟨hlast, hchain⟩
    rw [List.isChain_cons] at hchain
    obtain ⟨first, hfirst⟩ := exists_head?_concat passed last
    exact ⟨first, hchain.1 first hfirst,
      iff_isChain.mpr ⟨hlast, hfirst, hchain.2⟩⟩

theorem exists_of_reflTransGen
    (hreach : Relation.ReflTransGen (Climbs up) first last) :
    ∃ passed, Walk up last first passed := by
  induction hreach using Relation.ReflTransGen.head_induction_on with
  | refl => exact ⟨[], .here⟩
  | @head lower upper hstep _ ih =>
      rcases ih with ⟨passed, hwalk⟩
      by_cases hlast : lower = last
      · rw [hlast]
        exact ⟨[], .here⟩
      · exact ⟨lower :: passed, .climb hlast hstep hwalk⟩

end Walk

/-! ## Walks through the links of states -/

theorem getElem?_of_parentOf? {child parent : StateId}
    (hparent : parentOf? states child = some parent) :
    ∃ state, states[child]? = some state ∧ state.parent = some parent :=
  Option.bind_eq_some_iff.mp hparent

theorem lt_of_parentOf? {child parent : StateId}
    (hparent : parentOf? states child = some parent) :
    child < states.length := by
  obtain ⟨state, hstate, -⟩ := getElem?_of_parentOf? hparent
  exact (List.getElem?_eq_some_iff.mp hstate).1

namespace Walk

theorem first_lt (hwalk : Walk (parentOf? states) last first passed)
    (hlast : last < states.length) : first < states.length := by
  cases hwalk with
  | here => exact hlast
  | climb _ hstep _ => exact lt_of_parentOf? hstep

theorem length_lt (hwalk : Walk (parentOf? states) last first passed)
    (hlast : last < states.length) : passed.length < states.length := by
  have hnodup : (last :: passed).Nodup :=
    List.nodup_cons.mpr ⟨(iff_isChain.mp hwalk).1, hwalk.nodup⟩
  have hsubset : last :: passed ⊆ List.range states.length := by
    intro state hstate
    rw [List.mem_range]
    rcases List.mem_cons.mp hstate with rfl | hmem
    · exact hlast
    · obtain ⟨next, hnext⟩ := hwalk.climbs_of_mem hmem
      exact lt_of_parentOf? hnext
  simpa using (List.subperm_of_subset hnodup hsubset).length_le

end Walk

/-! ## Walks with some of the links -/

def linksBelow (bound : Nat) (up : StateId → Option StateId) :
    StateId → Option StateId :=
  fun state => if state < bound then up state else none

theorem walk_linksBelow_iff {bound : Nat} :
    Walk (linksBelow bound up) last first passed ↔
      Walk up last first passed ∧ ∀ state ∈ passed, state < bound := by
  constructor
  · intro hwalk
    induction hwalk with
    | here => exact ⟨.here, by simp⟩
    | climb hfirst hstep _ ih =>
        simp only [linksBelow, Option.ite_none_right_eq_some] at hstep
        refine ⟨.climb hfirst hstep.2 ih.1, ?_⟩
        simpa using ⟨hstep.1, ih.2⟩
  · intro hboth
    rcases hboth with ⟨hwalk, hbound⟩
    induction hwalk with
    | here => exact .here
    | climb hfirst hstep _ ih =>
        simp only [List.mem_cons, forall_eq_or_imp] at hbound
        refine .climb hfirst ?_ (ih hbound.2)
        simp [linksBelow, hbound.1, hstep]

/-! ## Lineages -/

theorem exists_walk_of_mem_lineageWithin {bound : Nat}
    (hmem : last ∈ lineageWithin states bound first) :
    ∃ passed, Walk (parentOf? states) last first passed := by
  induction bound generalizing first with
  | zero => simp [lineageWithin] at hmem
  | succ bound ih =>
      by_cases hlast : first = last
      · subst first
        exact ⟨[], .here⟩
      · cases hparent : parentOf? states first with
        | none =>
            simp [lineageWithin, hparent] at hmem
            exact absurd hmem.symm hlast
        | some parent =>
            have hlater : last ∈ lineageWithin states bound parent := by
              simpa [lineageWithin, hparent, Ne.symm hlast] using hmem
            obtain ⟨passed, hwalk⟩ := ih hlater
            exact ⟨first :: passed, .climb hlast hparent hwalk⟩

/-- A lineage that is longer than a walk begins with it. -/
theorem Walk.lineageWithin {bound : Nat}
    (hwalk : Walk (parentOf? states) last first passed)
    (hbound : passed.length < bound) :
    last ∈ lineageWithin states bound first ∧
      (lineageWithin states bound first).takeWhile (· ≠ last) = passed := by
  induction hwalk generalizing bound with
  | here =>
      obtain ⟨bound, rfl⟩ := Nat.exists_eq_add_one.mpr hbound
      simp [Statecharts.lineageWithin]
  | climb hfirst hstep _ ih =>
      simp only [List.length_cons] at hbound
      obtain ⟨bound, rfl⟩ :=
        Nat.exists_eq_add_one.mpr (Nat.zero_lt_of_lt hbound)
      obtain ⟨hmem, htake⟩ := ih (Nat.lt_of_succ_lt_succ hbound)
      simp only [Statecharts.lineageWithin, hstep, Option.elim_some]
      refine ⟨List.mem_cons_of_mem _ hmem, ?_⟩
      rw [List.takeWhile_cons_of_pos (by simpa using hfirst), htake]

/-! ## Cycles -/

/-- A cycle of a relation: it goes from each of its states to the next one,
and from the last to the first, and no state is on it twice. -/
structure IsCycle (R : StateId → StateId → Prop) (cycle : Cycle StateId) :
    Prop where
  nonempty : cycle ≠ Cycle.nil
  nodup : cycle.Nodup
  chain : cycle.Chain R

theorem isCycle_coe_cons_iff {R : StateId → StateId → Prop}
    {state : StateId} {others : List StateId} :
    IsCycle R ↑(state :: others) ↔
      (state :: others).Nodup ∧ (state :: (others ++ [state])).IsChain R := by
  constructor
  · intro hcycle
    exact ⟨Cycle.nodup_coe_iff.mp hcycle.nodup,
      (Cycle.chain_coe_cons R state others).mp hcycle.chain⟩
  · intro hboth
    rcases hboth with ⟨hnodup, hchain⟩
    exact ⟨by simp, Cycle.nodup_coe_iff.mpr hnodup,
      (Cycle.chain_coe_cons R state others).mpr hchain⟩

theorem isCycle_iff_walk {state : StateId} {others : List StateId} :
    IsCycle (Climbs up) ↑(state :: others) ↔
      ∃ first, up state = some first ∧ Walk up state first others := by
  rw [isCycle_coe_cons_iff, Walk.closed_iff_isChain]
  constructor
  · intro hboth
    exact ⟨(List.nodup_cons.mp hboth.1).1, hboth.2⟩
  · intro hboth
    rcases hboth with ⟨hstate, hchain⟩
    obtain ⟨first, -, hwalk⟩ :=
      Walk.closed_iff_isChain.mpr ⟨hstate, hchain⟩
    exact ⟨List.nodup_cons.mpr ⟨hstate, hwalk.nodup⟩, hchain⟩

theorem exists_eq_coe_cons {cycle : Cycle StateId} {state : StateId}
    (hmem : state ∈ cycle) : ∃ others, cycle = ↑(state :: others) := by
  induction cycle using Cycle.induction_on with
  | nil => simp at hmem
  | cons head tail _ =>
      obtain ⟨before, after, hsplit⟩ :=
        List.append_of_mem (Cycle.mem_coe_iff.mp hmem)
      refine ⟨after ++ before, ?_⟩
      rw [hsplit, Cycle.coe_eq_coe, ← List.cons_append]
      exact List.isRotated_append

theorem IsCycle.eq_of_mem {cycle other : Cycle StateId} {state : StateId}
    (hcycle : IsCycle (Climbs up) cycle) (hother : IsCycle (Climbs up) other)
    (hmem : state ∈ cycle) (hmem' : state ∈ other) : cycle = other := by
  obtain ⟨passed, rfl⟩ := exists_eq_coe_cons hmem
  obtain ⟨passed', rfl⟩ := exists_eq_coe_cons hmem'
  obtain ⟨first, hstep, hwalk⟩ := isCycle_iff_walk.mp hcycle
  obtain ⟨first', hstep', hwalk'⟩ := isCycle_iff_walk.mp hother
  rw [hstep] at hstep'
  cases hstep'
  rw [hwalk.unique hwalk']

theorem exists_isCycle_of_transGen {state : StateId}
    (hreach : Relation.TransGen (Climbs up) state state) :
    ∃ cycle, IsCycle (Climbs up) cycle := by
  obtain ⟨first, hstep, hreturn⟩ := Relation.TransGen.head'_iff.mp hreach
  obtain ⟨passed, hwalk⟩ := Walk.exists_of_reflTransGen hreturn
  exact ⟨_, isCycle_iff_walk.mpr ⟨first, hstep, hwalk⟩⟩

/-- Among finitely many states and without cycles, what holds of roots and
passes from parents to children holds of every state. -/
theorem climb_induction {bound : Nat} {motive : StateId → Prop}
    (hbound : ∀ state parent, up state = some parent → parent < bound)
    (hacyclic : ¬ ∃ cycle, IsCycle (Climbs up) cycle)
    (root : ∀ state, up state = none → motive state)
    (child : ∀ state parent, up state = some parent → motive parent →
      motive state) (state : StateId) : motive state := by
  let Over (upper lower : Fin bound) : Prop :=
    Relation.TransGen (Climbs up) lower upper
  have : IsTrans (Fin bound) Over := ⟨fun _ _ _ h h' => h'.trans h⟩
  have : Std.Irrefl Over :=
    ⟨fun state h => hacyclic (exists_isCycle_of_transGen h)⟩
  have hwell : WellFounded Over := Finite.wellFounded_of_trans_of_irrefl Over
  have hinside : ∀ state : Fin bound, motive state := by
    intro state
    induction state using hwell.induction with
    | _ state ih =>
        cases hparent : up state with
        | none => exact root state hparent
        | some parent =>
            have hlt := hbound state parent hparent
            exact child state parent hparent
              (ih ⟨parent, hlt⟩ (Relation.TransGen.single hparent))
  cases hparent : up state with
  | none => exact root state hparent
  | some parent =>
      exact child state parent hparent
        (hinside ⟨parent, hbound state parent hparent⟩)

theorem exists_root_above {bound : Nat}
    (hbound : ∀ state parent, up state = some parent → parent < bound)
    (hacyclic : ¬ ∃ cycle, IsCycle (Climbs up) cycle) (state : StateId) :
    ∃ root, Relation.ReflTransGen (Climbs up) state root ∧ up root = none := by
  induction state using climb_induction hbound hacyclic with
  | root state hroot => exact ⟨state, .refl, hroot⟩
  | child state parent hparent ih =>
      rcases ih with ⟨root, hreach, hroot⟩
      exact ⟨root, hreach.head hparent, hroot⟩

end Statecharts
