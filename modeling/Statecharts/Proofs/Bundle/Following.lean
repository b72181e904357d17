import Statecharts.Proofs.Bundle.ReadBack

/-!
# Following the names in a bundle

A lookup that finds nothing leaves its name out, so a name that is not
declared would disappear without a word.  In a bundle that was read every name
is declared, those of the states that a first one of the same name hides
included, and the source of a transition because it is the state that lists
it.  No lookup of a name in the bundle fails, and a list of names is looked up
to a list of as many states.
-/

namespace Statecharts

namespace Bundle

/-- Every name that a bundle refers to is found. -/
structure Followable (bundle : Bundle) : Prop where
  roots : ∀ root ∈ bundle.roots, (bundle.state? root).isSome
  parents : ∀ state ∈ bundle.states, ∀ parent, state.parent = some parent →
    (bundle.state? parent).isSome
  children : ∀ state ∈ bundle.states, ∀ child ∈ state.children,
    (bundle.state? child).isSome
  reactions : ∀ state ∈ bundle.states,
    ∀ trigger ∈ state.enterReactions ++ state.exitReactions,
      (bundle.trigger? trigger).isSome
  sources : ∀ state ∈ bundle.states, ∀ transition ∈ state.transitions,
    (bundle.state? transition.source).isSome
  targets : ∀ state ∈ bundle.states, ∀ transition ∈ state.transitions,
    (bundle.state? transition.target).isSome
  triggers : ∀ state ∈ bundle.states, ∀ transition ∈ state.transitions,
    ∀ trigger, transition.trigger = some trigger →
      (bundle.trigger? trigger).isSome

/-- Every name of a list leads to a state, and none of them is initial. -/
def NoneInitial (bundle : Bundle) (names : List String) : Prop :=
  ∀ name ∈ names, ∃ state, bundle.state? name = some state ∧
    state.initial = false

/-- The state of the first name in a list that leads to an initial one. -/
def FirstInitial (bundle : Bundle) (names : List String)
    (state : BundleState) : Prop :=
  ∃ before name after, names = before ++ name :: after ∧
    bundle.state? name = some state ∧ state.initial = true ∧
    bundle.NoneInitial before

/-- An answer to the question for the initial one of several states. -/
structure AnswersInitial (bundle : Bundle) (names : List String)
    (answer : Option BundleState) : Prop where
  some_iff : ∀ state, answer = some state ↔ bundle.FirstInitial names state
  none_iff : answer = none ↔ bundle.NoneInitial names

variable {bundle : Bundle} {names : List String}

/-! ## Lookups -/

theorem isSome_state?_iff (name : String) :
    (bundle.state? name).isSome ↔ name ∈ bundle.states.map BundleState.name := by
  simp [state?, List.find?_isSome]

theorem isSome_trigger?_iff (name : String) :
    (bundle.trigger? name).isSome ↔ name ∈ bundle.triggers.map Trigger.name := by
  simp [trigger?, List.find?_isSome]

theorem name_of_state? {name : String} {state : BundleState}
    (hstate : bundle.state? name = some state) : state.name = name := by
  simpa using List.find?_some hstate

/-- Where no lookup fails, looking names up leaves none of them out. -/
theorem forall₂_filterMap_state?
    (hnames : ∀ name ∈ names, (bundle.state? name).isSome) :
    List.Forall₂ (fun name state => bundle.state? name = some state) names
      (names.filterMap bundle.state?) := by
  induction names with
  | nil => exact .nil
  | cons name names ih =>
      rw [List.forall_mem_cons] at hnames
      obtain ⟨state, hstate⟩ := Option.isSome_iff_exists.mp hnames.1
      rw [List.filterMap_cons_some hstate]
      exact .cons hstate (ih hnames.2)

/-! ## Initial states -/

section Initial

variable {name : String} {found state : BundleState}

theorem noneInitial_cons_iff (hfound : bundle.state? name = some found) :
    bundle.NoneInitial (name :: names) ↔
      found.initial = false ∧ bundle.NoneInitial names := by
  simp [NoneInitial, hfound]

theorem firstInitial_cons_iff (hfound : bundle.state? name = some found) :
    bundle.FirstInitial (name :: names) state ↔
      found.initial = true ∧ found = state ∨
        found.initial = false ∧ bundle.FirstInitial names state := by
  constructor
  · intro hfirst
    obtain ⟨before, other, after, hsplit, hstate, hinitial, hbefore⟩ := hfirst
    cases before with
    | nil =>
        cases hsplit
        rw [hfound] at hstate
        cases hstate
        exact .inl ⟨hinitial, rfl⟩
    | cons first before =>
        cases hsplit
        rw [noneInitial_cons_iff hfound] at hbefore
        exact .inr ⟨hbefore.1, before, other, after, rfl, hstate, hinitial,
          hbefore.2⟩
  · intro hcases
    rcases hcases with ⟨hinitial, rfl⟩ |
      ⟨hplain, before, other, after, rfl, hstate, hinitial, hbefore⟩
    · exact ⟨[], name, names, rfl, hfound, hinitial, by simp [NoneInitial]⟩
    · exact ⟨name :: before, other, after, rfl, hstate, hinitial,
        (noneInitial_cons_iff hfound).mpr ⟨hplain, hbefore⟩⟩

end Initial

theorem answersInitial_of_forall₂ {states : List BundleState}
    (hstates : List.Forall₂
      (fun name state => bundle.state? name = some state) names states) :
    bundle.AnswersInitial names (states.find? BundleState.initial) := by
  induction hstates with
  | nil => constructor <;> simp [FirstInitial, NoneInitial]
  | @cons name found names states hfound _ ih =>
      rw [List.find?_cons]
      constructor
      · intro state
        rw [firstInitial_cons_iff hfound, ← ih.some_iff]
        by_cases hinitial : found.initial <;> simp [hinitial]
      · rw [noneInitial_cons_iff hfound, ← ih.none_iff]
        by_cases hinitial : found.initial <;> simp [hinitial]

theorem answersInitial_filterMap
    (hnames : ∀ name ∈ names, (bundle.state? name).isSome) :
    bundle.AnswersInitial names
      ((names.filterMap bundle.state?).find? BundleState.initial) :=
  answersInitial_of_forall₂ (forall₂_filterMap_state? hnames)

/-! ## Bundles that were read -/

theorem WellFormed.followable (hformed : bundle.WellFormed) :
    bundle.Followable := by
  have hreferences := hformed.references
  constructor
  case roots =>
    intro root hroot
    rw [isSome_state?_iff]
    exact hreferences.roots root hroot
  case parents =>
    intro state hstate parent hparent
    rw [isSome_state?_iff]
    exact (hreferences.states state hstate).parent parent (by simp [hparent])
  case children =>
    intro state hstate child hchild
    rw [isSome_state?_iff]
    exact (hreferences.states state hstate).children child hchild
  case reactions =>
    intro state hstate trigger htrigger
    rw [isSome_trigger?_iff]
    exact (hreferences.states state hstate).reactions trigger htrigger
  case sources =>
    intro state hstate transition htransition
    rw [isSome_state?_iff, hformed.sources state hstate transition htransition]
    exact List.mem_map_of_mem hstate
  case targets =>
    intro state hstate transition htransition
    rw [isSome_state?_iff]
    exact (hreferences.states state hstate).targets transition htransition
  case triggers =>
    intro state hstate transition htransition trigger htrigger
    rw [isSome_trigger?_iff]
    exact (hreferences.states state hstate).triggers transition htransition trigger
      (by simp [htrigger])

namespace Followable

variable {name : String} {parent : BundleState}

theorem rootStates (hfollowable : bundle.Followable) :
    List.Forall₂ (fun root state => bundle.state? root = some state ∧
      state.name = root) bundle.roots bundle.rootStates := by
  refine (forall₂_filterMap_state? hfollowable.roots).imp fun root state hstate => ?_
  exact ⟨hstate, name_of_state? hstate⟩

theorem initialChild (hfollowable : bundle.Followable)
    (hparent : bundle.state? name = some parent) :
    bundle.AnswersInitial parent.children (bundle.initialChild? name) := by
  rw [initialChild?, hparent, Option.bind_some]
  have hmem : parent ∈ bundle.states := List.mem_of_find?_eq_some hparent
  exact answersInitial_filterMap (hfollowable.children parent hmem)

end Followable

/-- Every name in a bundle that was read can be followed, so that the roots
and the initial states are those that are listed: nothing is left out. -/
theorem read_names_are_found (json : Json) (bundle : Bundle)
    (hread : ofJson json = .ok bundle) :
    bundle.Followable ∧
    List.Forall₂ (fun root state => bundle.state? root = some state ∧
      state.name = root) bundle.roots bundle.rootStates ∧
    bundle.AnswersInitial bundle.roots bundle.initialRoot? ∧
    (∀ name parent, bundle.state? name = some parent →
      bundle.AnswersInitial parent.children (bundle.initialChild? name)) ∧
    ∀ name, bundle.state? name = none → bundle.initialChild? name = none := by
  have hfollowable := (ofJson_ok_iff.mp hread).2.followable
  refine ⟨hfollowable, hfollowable.rootStates,
    answersInitial_filterMap hfollowable.roots,
    fun name parent => hfollowable.initialChild, fun name hundeclared => ?_⟩
  rw [initialChild?, hundeclared, Option.bind_none]

/-- The second state of the same name is initial and has a child, and neither
counts. -/
theorem hidden_state_is_not_followed :
    let leaf : BundleState :=
      ⟨"Leaf", none, false, ["Bolt", "Leaf", "Sill"], false, [], false, [],
        [⟨"Leaf", "Bolt", some "go"⟩]⟩
    let frame : BundleState := ⟨"Frame", none, true, [], false, [], false, [], []⟩
    let hidden : BundleState :=
      ⟨"Leaf", some "Frame", true, ["Bolt"], true, ["go"], false, [],
        [⟨"Leaf", "Sill", none⟩]⟩
    let bolt : BundleState :=
      ⟨"Bolt", some "Leaf", false, [], false, [], false, [], []⟩
    let sill : BundleState :=
      ⟨"Sill", some "Leaf", true, [], false, [], false, ["go"], []⟩
    let bundle : Bundle :=
      { name := "Door"
        version := "1.0"
        roots := ["Leaf", "Frame", "Leaf"]
        triggers := [⟨"go", [⟨"int", "n"⟩]⟩]
        states := [leaf, frame, hidden, bolt, sill] }
    ofJson bundle.toJson = .ok bundle ∧ bundle.Followable ∧
      bundle.rootStates = [leaf, frame, leaf] ∧
      bundle.FirstInitial bundle.roots frame ∧
      bundle.FirstInitial ["Bolt", "Leaf", "Sill"] sill := by
  intro leaf frame hidden bolt sill bundle
  have hread : ofJson bundle.toJson = .ok bundle := rfl
  obtain ⟨hfollowable, -, hroot, hchild, -⟩ :=
    read_names_are_found bundle.toJson bundle hread
  have hleaf : bundle.state? "Leaf" = some leaf := rfl
  exact ⟨hread, hfollowable, rfl, (hroot.some_iff frame).mp rfl,
    ((hchild "Leaf" leaf hleaf).some_iff sill).mp rfl⟩

end Bundle

end Statecharts
