import Statecharts.Bundle.Write
import Statecharts.Proofs.Bundle.Content

/-!
# Bundles read back

What is accepted are the contents that keep to what reading asks for: every
trigger has an argument, every transition leaves the state that lists it, and
every name that is referred to is declared.  A bundle that does so is read back
unchanged when it is written, for what is written has the bundle for its
content.
-/

namespace Statecharts

/-! ## References -/

/-- Every name that a state refers to is declared. -/
structure BundleState.ReferencesDeclared (states triggers : List String)
    (state : BundleState) : Prop where
  parent : ∀ name ∈ state.parent.toList, name ∈ states
  children : ∀ name ∈ state.children, name ∈ states
  reactions : ∀ name ∈ state.enterReactions ++ state.exitReactions,
    name ∈ triggers
  targets : ∀ transition ∈ state.transitions, transition.target ∈ states
  triggers : ∀ transition ∈ state.transitions,
    ∀ name ∈ transition.trigger.toList, name ∈ triggers

structure Bundle.ReferencesDeclared (bundle : Bundle) : Prop where
  roots : ∀ name ∈ bundle.roots, name ∈ bundle.states.map BundleState.name
  states : ∀ state ∈ bundle.states,
    state.ReferencesDeclared (bundle.states.map BundleState.name)
      (bundle.triggers.map Trigger.name)

namespace Bundle

variable {states triggers : List String}

theorem undeclared_ok_iff {declared names : List String}
    {report : String → BundleError} :
    (match names.find? (!declared.contains ·) with
      | some name => Except.error (report name)
      | none => Except.ok ()) = .ok () ↔ ∀ name ∈ names, name ∈ declared := by
  induction names with
  | nil => simp
  | cons name names ih =>
      rw [List.find?_cons, List.forall_mem_cons, ← ih]
      by_cases hname : name ∈ declared <;> simp [hname]

theorem checkNames_ok_iff {owner : String} {reference : StateReference}
    {names : List String} :
    checkNames states owner reference names = .ok () ↔
      ∀ name ∈ names, name ∈ states :=
  undeclared_ok_iff

theorem checkState_ok_iff {state : BundleState} :
    checkState states triggers state = .ok () ↔
      state.ReferencesDeclared states triggers := by
  have htransition : ∀ transition : BundleTransition,
      checkTransition states triggers state.name transition = .ok () ↔
        transition.target ∈ states ∧
          ∀ name ∈ transition.trigger.toList, name ∈ triggers := by
    intro transition
    unfold checkTransition
    rw [Except.check_bind_eq_ok_iff, checkNames_ok_iff, checkNames_ok_iff,
      List.forall_mem_singleton]
  unfold checkState
  simp only [Except.check_bind_eq_ok_iff, checkNames_ok_iff, forM_eq_ok_iff,
    htransition]
  constructor
  · intro hchecked
    rcases hchecked with ⟨hparent, hchildren, hreactions, htransitions⟩
    exact ⟨hparent, hchildren, hreactions,
      fun transition hmem => (htransitions transition hmem).1,
      fun transition hmem => (htransitions transition hmem).2⟩
  · intro hstate
    exact ⟨hstate.parent, hstate.children, hstate.reactions,
      fun transition hmem =>
        ⟨hstate.targets transition hmem, hstate.triggers transition hmem⟩⟩

theorem checkReferences_eq_bind (bundle : Bundle) :
    bundle.checkReferences =
      ((match bundle.roots.find?
            (!(bundle.states.map BundleState.name).contains ·) with
          | some root => Except.error (.undeclaredRoot root)
          | none => Except.ok ()) >>= fun _ =>
        bundle.states.forM (checkState (bundle.states.map BundleState.name)
          (bundle.triggers.map Trigger.name))) := by
  unfold checkReferences
  simp only
  cases bundle.roots.find? (!(bundle.states.map BundleState.name).contains ·) <;>
    rfl

theorem checkReferences_ok_iff {bundle : Bundle} :
    bundle.checkReferences = .ok () ↔ bundle.ReferencesDeclared := by
  rw [checkReferences_eq_bind, Except.check_bind_eq_ok_iff, undeclared_ok_iff,
    forM_eq_ok_iff]
  simp only [checkState_ok_iff]
  constructor
  · rintro ⟨hroots, hstates⟩
    exact ⟨hroots, hstates⟩
  · intro hdeclared
    exact ⟨hdeclared.roots, hdeclared.states⟩

/-! ## Whole bundles -/

/-- What reading asks for, beyond the layout of a bundle. -/
structure WellFormed (bundle : Bundle) : Prop where
  arguments : ∀ trigger ∈ bundle.triggers, trigger.arguments ≠ []
  sources : ∀ state ∈ bundle.states, ∀ transition ∈ state.transitions,
    transition.source = state.name
  references : bundle.ReferencesDeclared

/-- A bundle before its references are checked. -/
def parse (json : Json) : Except BundleError Bundle :=
  required (.missingField "kind") (json.stringField? "kind") >>= fun kind =>
    (if kind ≠ "Statechart" then .error (.wrongKind kind) else .ok ()) >>= fun _ =>
      required (.missingField "name") (json.stringField? "name") >>= fun name =>
        required (.missingField "roots") (json.namesField? "roots") >>= fun roots =>
          required (.missingField "triggers") (json.arrayField? "triggers") >>=
            fun items => items.mapM Trigger.ofJson >>= fun triggers =>
              required (.missingField "states") (json.arrayField? "states") >>=
                fun items => items.mapM BundleState.ofJson >>= fun states =>
                  .ok { name
                        version := (json.stringField? "chartc_version").getD ""
                        roots, triggers, states }

theorem ofJson_eq_bind (json : Json) :
    ofJson json =
      (parse json >>= fun bundle => bundle.checkReferences >>= fun _ =>
        .ok bundle) := by
  unfold ofJson parse
  simp only [bind_assoc, Except.ok_bind]
  refine congrArg (_ >>= ·) (funext fun kind => ?_)
  by_cases hkind : kind = "Statechart"
  · simp only [hkind, ne_eq, not_true_eq_false, if_false]
    rfl
  · simp only [hkind, ne_eq, not_false_eq_true, if_true]
    rfl

theorem parse_ok_iff {json : Json} {bundle : Bundle} :
    parse json = .ok bundle ↔
      bundle.Reads json ∧
        (∀ trigger ∈ bundle.triggers, trigger.arguments ≠ []) ∧
        ∀ state ∈ bundle.states, ∀ transition ∈ state.transitions,
          transition.source = state.name := by
  simp only [parse, Except.bind_eq_ok_iff, required_ok_iff,
    Json.stringField?_eq_some_iff, Json.namesField?_eq_some_iff,
    Json.arrayField?_eq_some_iff, mapM_ok_iff, Trigger.ofJson_ok_iff,
    BundleState.ofJson_ok_iff, forall₂_and_right]
  constructor
  · rintro ⟨kind, hkind, _, hstatechart, name, hname, roots, hroots, items, hitems,
      triggers, ⟨htriggers, harguments⟩, items', hitems', states,
      ⟨hstates, hsources⟩, hbundle⟩
    split at hstatechart
    · cases hstatechart
    next hsame =>
      rw [not_not.mp hsame] at hkind
      cases hbundle
      obtain ⟨hversion, hnoVersion⟩ := Json.getD_stringField?_iff.mp rfl
      exact ⟨⟨hkind, hname, hversion, hnoVersion, hroots,
        ⟨items, hitems, htriggers⟩, ⟨items', hitems', hstates⟩⟩, harguments,
        hsources⟩
  · rintro ⟨hreads, harguments, hsources⟩
    obtain ⟨items, hitems, htriggers⟩ := hreads.triggers
    obtain ⟨items', hitems', hstates⟩ := hreads.states
    refine ⟨_, hreads.kind, (), if_neg (not_not.mpr rfl), _, hreads.name, _,
      hreads.roots, items, hitems, _, ⟨htriggers, harguments⟩, items', hitems', _,
      ⟨hstates, hsources⟩, ?_⟩
    rw [Json.getD_stringField?_iff.mpr ⟨hreads.version, hreads.noVersion⟩]

/-- Reading accepts what has the content of a bundle that is well-formed. -/
theorem ofJson_ok_iff {json : Json} {bundle : Bundle} :
    ofJson json = .ok bundle ↔ bundle.Reads json ∧ bundle.WellFormed := by
  simp only [ofJson_eq_bind, Except.bind_eq_ok_iff, parse_ok_iff,
    Except.ok.injEq]
  constructor
  · rintro ⟨_, ⟨hreads, harguments, hsources⟩, _, hchecked, rfl⟩
    exact ⟨hreads, harguments, hsources, checkReferences_ok_iff.mp hchecked⟩
  · rintro ⟨hreads, hformed⟩
    exact ⟨bundle, ⟨hreads, hformed.arguments, hformed.sources⟩, (),
      checkReferences_ok_iff.mpr hformed.references, rfl⟩

end Bundle

/-! ## What is written -/

theorem Json.listReads_map {α : Type} {json : Json} {key : String}
    {Reads : Json → α → Prop} {encode : α → Json} {values : List α}
    (hfield : json.get? key = some (.array (values.map encode)))
    (hreads : ∀ value, Reads (encode value) value) :
    json.ListReads key Reads values := by
  refine ⟨_, hfield, ?_⟩
  rw [List.forall₂_map_left_iff, List.forall₂_same]
  exact fun value _ => hreads value

theorem Json.eq_some_iff_ofName? {name? : Option String} (name : String) :
    name? = some name ↔ some (Json.ofName? name?) = some (.string name) := by
  cases name? <;> simp [Json.ofName?]

theorem Json.eq_true_iff_bool (value : Bool) :
    value = true ↔ some (Json.bool value) = some (.bool true) := by
  simp

theorem Trigger.reads_toJson (trigger : Trigger) :
    trigger.Reads trigger.toJson where
  name := rfl
  arguments := Json.listReads_map rfl fun _ => .fields rfl rfl

theorem BundleTransition.reads_toJson (transition : BundleTransition) :
    transition.Reads transition.toJson where
  source := rfl
  target := rfl
  trigger := Json.eq_some_iff_ofName?

theorem BundleState.reads_toJson (state : BundleState) :
    state.Reads state.toJson where
  name := rfl
  parent := Json.eq_some_iff_ofName?
  initial := Json.eq_true_iff_bool state.initial
  children := rfl
  defaultEnter := Json.eq_true_iff_bool state.defaultEnter
  enterReactions := rfl
  defaultExit := Json.eq_true_iff_bool state.defaultExit
  exitReactions := rfl
  transitions := Json.listReads_map rfl BundleTransition.reads_toJson

theorem Bundle.reads_toJson (bundle : Bundle) : bundle.Reads bundle.toJson where
  kind := rfl
  name := rfl
  version := fun _ hversion => Json.string.inj (Option.some.inj hversion)
  noVersion := fun hlacks => absurd rfl (hlacks bundle.version)
  roots := rfl
  triggers := Json.listReads_map rfl Trigger.reads_toJson
  states := Json.listReads_map rfl BundleState.reads_toJson

theorem Bundle.ofJson_toJson {bundle : Bundle} (hbundle : bundle.WellFormed) :
    ofJson bundle.toJson = .ok bundle :=
  ofJson_ok_iff.mpr ⟨bundle.reads_toJson, hbundle⟩

end Statecharts
