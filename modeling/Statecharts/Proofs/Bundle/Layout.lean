import Statecharts.Bundle.Schema
import Statecharts.Bundle.Write
import Statecharts.Proofs.Json.ReadBack
import Statecharts.Proofs.Json.Schema

/-!
# The layout of a written bundle

What the bundle schema asks of a bundle that is written: that no name in it is
empty and every trigger has an argument.  All else the schema asks for is met
by the layout alone.  The layout is also one that is read back from its text.
-/

namespace Statecharts

open JsonSchema

theorem one_le_length_iff (text : String) :
    1 ≤ text.length ↔ text ≠ "" := by
  rw [Nat.one_le_iff_ne_zero, ne_eq, String.length_eq_zero_iff]

namespace Bundle.Schema

theorem name_errors_iff (text : String) :
    name.errors (.string text) = [] ↔ text ≠ "" := by
  simp [name, errors_string_eq_nil_iff, ← one_le_length_iff]

theorem names_errors_iff (texts : List String) :
    names.errors (.strings texts) = [] ↔ ∀ text ∈ texts, text ≠ "" := by
  simp [names, Json.strings, errors_array_eq_nil_iff, name_errors_iff]

theorem nullable_errors_iff (text : Option String) :
    (JsonSchema.nullable 1).errors (.ofName? text) = [] ↔
      ∀ found ∈ text.toList, found ≠ "" := by
  cases text <;>
    simp [Json.ofName?, errors_nullable_eq_nil_iff, ← one_le_length_iff]

theorem argument_errors_iff (argument : Argument) :
    Schema.argument.errors argument.toJson = [] ↔
      argument.name ≠ "" ∧ argument.type ≠ "" := by
  rw [Schema.argument, Argument.toJson,
    errors_layout_eq_nil_iff rfl (by decide) (by decide)]
  simp [name_errors_iff, errors_string_eq_nil_iff, one_le_length_iff]

theorem trigger_errors_iff (trigger : Trigger) :
    Schema.trigger.errors trigger.toJson = [] ↔
      trigger.name ≠ "" ∧ trigger.arguments ≠ [] ∧
      ∀ argument ∈ trigger.arguments,
        argument.name ≠ "" ∧ argument.type ≠ "" := by
  rw [Schema.trigger, Trigger.toJson,
    errors_layout_eq_nil_iff rfl (by decide) (by decide)]
  simp [name_errors_iff, errors_array_eq_nil_iff, argument_errors_iff,
    Nat.one_le_iff_ne_zero, and_comm]

theorem transition_errors_iff (transition : BundleTransition) :
    Schema.transition.errors transition.toJson = [] ↔
      transition.source ≠ "" ∧ transition.target ≠ "" ∧
      ∀ trigger ∈ transition.trigger.toList, trigger ≠ "" := by
  rw [Schema.transition, BundleTransition.toJson,
    errors_layout_eq_nil_iff rfl (by decide) (by decide)]
  simp only [List.forall₂_cons, name_errors_iff, nullable_errors_iff,
    List.Forall₂.nil, and_true]

/-- No name in a state is empty. -/
structure StateNamed (state : BundleState) : Prop where
  name : state.name ≠ ""
  parent : ∀ parent ∈ state.parent.toList, parent ≠ ""
  children : ∀ child ∈ state.children, child ≠ ""
  enterReactions : ∀ trigger ∈ state.enterReactions, trigger ≠ ""
  exitReactions : ∀ trigger ∈ state.exitReactions, trigger ≠ ""
  transitions : ∀ transition ∈ state.transitions,
    transition.source ≠ "" ∧ transition.target ≠ "" ∧
    ∀ trigger ∈ transition.trigger.toList, trigger ≠ ""

theorem state_errors_iff (state : BundleState) :
    Schema.state.errors state.toJson = [] ↔ StateNamed state := by
  rw [Schema.state, BundleState.toJson,
    errors_layout_eq_nil_iff rfl (by decide) (by decide)]
  simp only [List.forall₂_cons, name_errors_iff, names_errors_iff,
    nullable_errors_iff, errors_boolean_eq_nil_iff, errors_array_eq_nil_iff,
    List.Forall₂.nil, and_true, Json.bool.injEq, exists_eq', true_and,
    Json.array.injEq, exists_eq_left', zero_le, List.forall_mem_map,
    transition_errors_iff]
  constructor
  · rintro ⟨hchildren, henter, hexit, hname, hparent, htransitions⟩
    exact ⟨hname, hparent, hchildren, henter, hexit, htransitions⟩
  · intro hnamed
    exact ⟨hnamed.children, hnamed.enterReactions, hnamed.exitReactions,
      hnamed.name, hnamed.parent, hnamed.transitions⟩

theorem bundle_errors_iff (bundle : Bundle) :
    Schema.bundle.errors bundle.toJson = [] ↔
      isVersion bundle.version = true ∧ (∀ root ∈ bundle.roots, root ≠ "") ∧
      (∀ state ∈ bundle.states, StateNamed state) ∧
      ∀ trigger ∈ bundle.triggers,
        trigger.name ≠ "" ∧ trigger.arguments ≠ [] ∧
        ∀ argument ∈ trigger.arguments,
          argument.name ≠ "" ∧ argument.type ≠ "" := by
  rw [Schema.bundle, Bundle.toJson,
    errors_layout_eq_nil_iff rfl (by decide) (by decide)]
  simp only [List.forall₂_cons, names_errors_iff, errors_version_eq_nil_iff,
    errors_constant_eq_nil_iff, errors_string_eq_nil_iff,
    errors_array_eq_nil_iff, List.Forall₂.nil, and_true, true_and,
    Json.string.injEq, Json.array.injEq, exists_eq_left', zero_le,
    List.forall_mem_map, state_errors_iff, trigger_errors_iff, exists_eq']

end Bundle.Schema

/-! ## What is read back from a file -/

theorem Json.readable_strings (levels : Nat) (texts : List String) :
    Readable (levels + 1) (.strings texts) := by
  refine .array fun item hitem => ?_
  obtain ⟨text, -, rfl⟩ := List.mem_map.mp hitem
  exact .string

theorem Json.readable_ofName? (levels : Nat) (name : Option String) :
    Readable levels (.ofName? name) := by
  cases name with
  | none => exact .null
  | some text => exact .string

theorem Json.readable_map {α : Type} {levels : Nat} {items : List α}
    {encode : α → Json} (hitems : ∀ item, Readable levels (encode item)) :
    Readable (levels + 1) (.array (items.map encode)) := by
  refine .array fun json hjson => ?_
  obtain ⟨item, -, rfl⟩ := List.mem_map.mp hjson
  exact hitems item

theorem Argument.readable_toJson (levels : Nat) (argument : Argument) :
    Json.Readable (levels + 1) argument.toJson := by
  have hkeys : ["name", "type"].Pairwise (· < ·) := by decide
  refine .object hkeys ?_
  simp [Json.Readable.string]

theorem Trigger.readable_toJson (levels : Nat) (trigger : Trigger) :
    Json.Readable (levels + 3) trigger.toJson := by
  have hkeys : ["arguments", "name"].Pairwise (· < ·) := by decide
  refine .object hkeys ?_
  simp [Json.Readable.string,
    Json.readable_map (Argument.readable_toJson levels)]

theorem BundleTransition.readable_toJson (levels : Nat)
    (transition : BundleTransition) :
    Json.Readable (levels + 1) transition.toJson := by
  have hkeys : ["from", "to", "trigger"].Pairwise (· < ·) := by decide
  refine .object hkeys ?_
  simp [Json.Readable.string, Json.readable_ofName?]

theorem BundleState.readable_toJson (levels : Nat) (state : BundleState) :
    Json.Readable (levels + 3) state.toJson := by
  have hkeys : ["children", "default_enter", "default_exit",
      "enter_reactions", "exit_reactions", "initial", "name", "parent",
      "transitions"].Pairwise (· < ·) := by
    decide
  refine .object hkeys ?_
  simp [Json.Readable.string, Json.Readable.bool, Json.readable_ofName?,
    Json.readable_strings,
    Json.readable_map (BundleTransition.readable_toJson levels)]

theorem Bundle.readable_toJson (levels : Nat) (bundle : Bundle) :
    Json.Readable (levels + 5) bundle.toJson := by
  have hkeys : ["chartc_version", "kind", "name", "roots", "states",
      "triggers"].Pairwise (· < ·) := by
    decide
  refine .object hkeys ?_
  simp [Json.Readable.string, Json.readable_strings,
    Json.readable_map (BundleState.readable_toJson levels),
    Json.readable_map (Trigger.readable_toJson levels)]

theorem Chart.read_pretty_toJson (chart : Chart) :
    Json.read (chart.toJson.pretty ++ "\n") = .ok chart.toJson :=
  Json.read_pretty (chart.bundle.readable_toJson 122)

end Statecharts
