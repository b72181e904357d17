import Statecharts.Proofs.Bundle.FirstFault
import Statecharts.Proofs.Bundle.Layout
import Statecharts.Proofs.Json.Ordered

/-!
# What the bundle schema leaves to reading

A value that the bundle schema accepts is laid out like a bundle that is
written, field by field, so reading it drops nothing and fills nothing in.
What is left to reading are the names: that a transition is listed with its
source, and that every name that is referred to is declared.
-/

namespace Statecharts

open JsonSchema

/-! ## From the schema to the layout -/

/-- An accepted object whose schema requires all its properties has exactly
these fields, in order. -/
theorem exists_layout_of_accepted {required : List String}
    {properties : List (String × JsonSchema)} {json : Json}
    (hproperties : (properties.map Prod.fst).Pairwise (· < ·))
    (hrequired : ∀ key ∈ properties.map Prod.fst, key ∈ required)
    (hordered : json.Ordered)
    (haccepted : (object required properties).errors json = []) :
    ∃ values, json = .object ((properties.map Prod.fst).zip values) ∧
      List.Forall₂ (fun property value => value.Ordered ∧
        property.2.errors value = []) properties values := by
  obtain ⟨fields, rfl, hpresent, hvalues, hknown⟩ :=
    (errors_object_eq_nil_iff required properties json).mp haccepted
  cases hordered with
  | object hkeys hfields =>
      -- Both lists of keys ascend, so it is enough that they have the same members.
      have hsame : fields.map Prod.fst = properties.map Prod.fst := by
        refine hkeys.eq_of_mem_iff hproperties fun key => ⟨fun hkey => ?_, fun hkey => ?_⟩
        · exact isSome_lookup_iff.mp (hknown key hkey)
        · exact isSome_lookup_iff.mp (hpresent key (hrequired key hkey))
      have hnodup : (properties.map Prod.fst).Nodup := hproperties.imp String.ne_of_lt
      have hvalues := (lookup_errors_iff_forall₂ hsame hnodup).mp hvalues
      refine ⟨fields.map Prod.snd, ?_, ?_⟩
      · rw [← hsame, List.zip_map', List.map_id']
      · rw [List.forall₂_map_right_iff, List.forall₂_iff_zip]
        rw [List.forall₂_iff_zip] at hvalues
        exact ⟨hvalues.1, fun hmem =>
          ⟨hfields _ (List.of_mem_zip hmem).2, hvalues.2 hmem⟩⟩

theorem exists_map_of_accepted {α : Type} {minItems : Nat} {schema : JsonSchema}
    {encode : α → Json} {json : Json}
    (hitems : ∀ item : Json, item.Ordered → schema.errors item = [] →
      ∃ value, encode value = item)
    (hordered : json.Ordered) (haccepted : (array minItems schema).errors json = []) :
    ∃ values : List α, json = .array (values.map encode) := by
  obtain ⟨items, rfl, -, haccepted⟩ :=
    (errors_array_eq_nil_iff minItems schema json).mp haccepted
  cases hordered with
  | array hordered =>
      have hrange : items ∈ Set.range (List.map encode) := by
        rw [Set.range_list_map]
        exact fun item hitem => hitems item (hordered item hitem) (haccepted item hitem)
      obtain ⟨values, rfl⟩ := hrange
      exact ⟨values, rfl⟩

namespace Bundle.Schema

theorem exists_name {json : Json} (haccepted : name.errors json = []) :
    ∃ text, json = .string text := by
  obtain ⟨text, htext, -⟩ := (errors_string_eq_nil_iff 1 json).mp haccepted
  exact ⟨text, htext⟩

theorem exists_names {json : Json} (hordered : json.Ordered)
    (haccepted : names.errors json = []) : ∃ texts, json = .strings texts :=
  exists_map_of_accepted (fun _ _ hitem =>
    (exists_name hitem).imp fun _ htext => htext.symm) hordered haccepted

theorem exists_nullable {json : Json}
    (haccepted : (JsonSchema.nullable 1).errors json = []) :
    ∃ text?, json = .ofName? text? := by
  rcases (errors_nullable_eq_nil_iff 1 json).mp haccepted with
    rfl | ⟨text, rfl, -⟩
  · exact ⟨none, rfl⟩
  · exact ⟨some text, rfl⟩

theorem exists_argument {json : Json} (hordered : json.Ordered)
    (haccepted : Schema.argument.errors json = []) :
    ∃ argument, Argument.toJson argument = json := by
  obtain ⟨values, rfl, hvalues⟩ :=
    exists_layout_of_accepted (by decide) (by decide) hordered haccepted
  match values, hvalues with
  | [name, type], .cons hname (.cons htype .nil) =>
      obtain ⟨name, rfl⟩ := exists_name hname.2
      obtain ⟨type, rfl⟩ := exists_name htype.2
      exact ⟨⟨type, name⟩, rfl⟩

theorem exists_trigger {json : Json} (hordered : json.Ordered)
    (haccepted : Schema.trigger.errors json = []) :
    ∃ trigger, Trigger.toJson trigger = json := by
  obtain ⟨values, rfl, hvalues⟩ :=
    exists_layout_of_accepted (by decide) (by decide) hordered haccepted
  match values, hvalues with
  | [arguments, name], .cons harguments (.cons hname .nil) =>
      obtain ⟨arguments, rfl⟩ := exists_map_of_accepted (fun _ => exists_argument)
        harguments.1 harguments.2
      obtain ⟨name, rfl⟩ := exists_name hname.2
      exact ⟨⟨name, arguments⟩, rfl⟩

theorem exists_transition {json : Json} (hordered : json.Ordered)
    (haccepted : Schema.transition.errors json = []) :
    ∃ transition, BundleTransition.toJson transition = json := by
  obtain ⟨values, rfl, hvalues⟩ :=
    exists_layout_of_accepted (by decide) (by decide) hordered haccepted
  match values, hvalues with
  | [source, target, trigger], .cons hsource (.cons htarget (.cons htrigger .nil)) =>
      obtain ⟨source, rfl⟩ := exists_name hsource.2
      obtain ⟨target, rfl⟩ := exists_name htarget.2
      obtain ⟨trigger, rfl⟩ := exists_nullable htrigger.2
      exact ⟨⟨source, target, trigger⟩, rfl⟩

theorem exists_state {json : Json} (hordered : json.Ordered)
    (haccepted : Schema.state.errors json = []) :
    ∃ state, BundleState.toJson state = json := by
  obtain ⟨values, rfl, hvalues⟩ :=
    exists_layout_of_accepted (by decide) (by decide) hordered haccepted
  match values, hvalues with
  | [children, defaultEnter, defaultExit, enterReactions, exitReactions, initial, name,
        parent, transitions],
      .cons hchildren (.cons hdefaultEnter (.cons hdefaultExit (.cons henter
        (.cons hexit (.cons hinitial (.cons hname (.cons hparent
          (.cons htransitions .nil)))))))) =>
      obtain ⟨children, rfl⟩ := exists_names hchildren.1 hchildren.2
      obtain ⟨defaultEnter, rfl⟩ := (errors_boolean_eq_nil_iff _).mp hdefaultEnter.2
      obtain ⟨defaultExit, rfl⟩ := (errors_boolean_eq_nil_iff _).mp hdefaultExit.2
      obtain ⟨enterReactions, rfl⟩ := exists_names henter.1 henter.2
      obtain ⟨exitReactions, rfl⟩ := exists_names hexit.1 hexit.2
      obtain ⟨initial, rfl⟩ := (errors_boolean_eq_nil_iff _).mp hinitial.2
      obtain ⟨name, rfl⟩ := exists_name hname.2
      obtain ⟨parent, rfl⟩ := exists_nullable hparent.2
      obtain ⟨transitions, rfl⟩ := exists_map_of_accepted (fun _ => exists_transition)
        htransitions.1 htransitions.2
      exact ⟨⟨name, parent, initial, children, defaultEnter, enterReactions,
        defaultExit, exitReactions, transitions⟩, rfl⟩

/-- What the schema accepts is laid out like a bundle that is written. -/
theorem exists_bundle {json : Json} (hordered : json.Ordered)
    (haccepted : Schema.bundle.errors json = []) :
    ∃ bundle, Bundle.toJson bundle = json := by
  obtain ⟨values, rfl, hvalues⟩ :=
    exists_layout_of_accepted (by decide) (by decide) hordered haccepted
  match values, hvalues with
  | [version, kind, name, roots, states, triggers],
      .cons hversion (.cons hkind (.cons hname (.cons hroots (.cons hstates
        (.cons htriggers .nil))))) =>
      obtain ⟨version, rfl, -⟩ := (errors_version_eq_nil_iff _).mp hversion.2
      obtain rfl := (errors_constant_eq_nil_iff _ _).mp hkind.2
      obtain ⟨name, rfl, -⟩ := (errors_string_eq_nil_iff _ _).mp hname.2
      obtain ⟨roots, rfl⟩ := exists_names hroots.1 hroots.2
      obtain ⟨states, rfl⟩ := exists_map_of_accepted (fun _ => exists_state)
        hstates.1 hstates.2
      obtain ⟨triggers, rfl⟩ := exists_map_of_accepted (fun _ => exists_trigger)
        htriggers.1 htriggers.2
      exact ⟨⟨name, version, roots, triggers, states⟩, rfl⟩

end Bundle.Schema

/-! ## Names in a value -/

/-- The items of a field with a list, and none without it. -/
def Json.listed (json : Json) (key : String) : List Json :=
  (json.arrayField? key).getD []

/-- One of the constructs of a list has a name. -/
def Json.Declares (json : Json) (key : String) (name : Json) : Prop :=
  ∃ item ∈ json.listed key, item.get? "name" = some name

/-- Every transition is listed by its source, and every name that is referred to
is declared. -/
@[mk_iff]
structure Json.Linked (json : Json) : Prop where
  sources : ∀ state ∈ json.listed "states",
    ∀ transition ∈ state.listed "transitions",
      transition.get? "from" = state.get? "name"
  roots : ∀ root ∈ json.listed "roots", json.Declares "states" root
  parents : ∀ state ∈ json.listed "states", ∀ parent ≠ Json.null,
    state.get? "parent" = some parent → json.Declares "states" parent
  children : ∀ state ∈ json.listed "states", ∀ child ∈ state.listed "children",
    json.Declares "states" child
  reactions : ∀ state ∈ json.listed "states",
    ∀ trigger ∈ state.listed "enter_reactions" ++ state.listed "exit_reactions",
      json.Declares "triggers" trigger
  targets : ∀ state ∈ json.listed "states",
    ∀ transition ∈ state.listed "transitions", ∀ target,
      transition.get? "to" = some target → json.Declares "states" target
  triggers : ∀ state ∈ json.listed "states",
    ∀ transition ∈ state.listed "transitions", ∀ trigger ≠ Json.null,
      transition.get? "trigger" = some trigger → json.Declares "triggers" trigger

namespace Bundle

variable {bundle : Bundle}

theorem declares_state_iff (name : String) :
    bundle.toJson.Declares "states" (.string name) ↔
      name ∈ bundle.states.map BundleState.name := by
  have hlisted : bundle.toJson.listed "states" =
      bundle.states.map BundleState.toJson := rfl
  have hname : ∀ state : BundleState, state.toJson.get? "name" =
      some (.string state.name) := fun _ => rfl
  simp [Json.Declares, hlisted, hname]

theorem declares_trigger_iff (name : String) :
    bundle.toJson.Declares "triggers" (.string name) ↔
      name ∈ bundle.triggers.map Trigger.name := by
  have hlisted : bundle.toJson.listed "triggers" =
      bundle.triggers.map Trigger.toJson := rfl
  have hname : ∀ trigger : Trigger, trigger.toJson.get? "name" =
      some (.string trigger.name) := fun _ => rfl
  simp [Json.Declares, hlisted, hname]

theorem forall_ofName?_iff {name? : Option String} {P : Json → Prop} :
    (∀ name ≠ Json.null, Json.ofName? name? = name → P name) ↔
      ∀ name ∈ name?.toList, P (.string name) := by
  cases name? with
  | none =>
      refine iff_of_true (fun name hname hnull => absurd hnull.symm hname) ?_
      simp
  | some text =>
      rw [Option.toList_some, List.forall_mem_singleton]
      constructor
      · intro hall
        exact hall (.string text) (by simp) rfl
      · rintro htext name - rfl
        exact htext

/-- The names in a bundle that is written are those in the bundle. -/
theorem linked_toJson_iff :
    bundle.toJson.Linked ↔
      (∀ state ∈ bundle.states, ∀ transition ∈ state.transitions,
        transition.source = state.name) ∧ bundle.ReferencesDeclared := by
  have hstates : bundle.toJson.listed "states" =
      bundle.states.map BundleState.toJson := rfl
  have hroots : bundle.toJson.listed "roots" =
      bundle.roots.map Json.string := rfl
  have hname : ∀ state : BundleState, state.toJson.get? "name" =
      some (.string state.name) := fun _ => rfl
  have hparent : ∀ state : BundleState, state.toJson.get? "parent" =
      some (.ofName? state.parent) := fun _ => rfl
  have hchildren : ∀ state : BundleState, state.toJson.listed "children" =
      state.children.map Json.string := fun _ => rfl
  have henter : ∀ state : BundleState, state.toJson.listed "enter_reactions" =
      state.enterReactions.map Json.string := fun _ => rfl
  have hexit : ∀ state : BundleState, state.toJson.listed "exit_reactions" =
      state.exitReactions.map Json.string := fun _ => rfl
  have htransitions : ∀ state : BundleState, state.toJson.listed "transitions" =
      state.transitions.map BundleTransition.toJson := fun _ => rfl
  have hfrom : ∀ transition : BundleTransition, transition.toJson.get? "from" =
      some (.string transition.source) := fun _ => rfl
  have hto : ∀ transition : BundleTransition, transition.toJson.get? "to" =
      some (.string transition.target) := fun _ => rfl
  have htrigger : ∀ transition : BundleTransition,
      transition.toJson.get? "trigger" = some (.ofName? transition.trigger) :=
    fun _ => rfl
  simp only [Json.linked_iff, hstates, hroots, hname, hparent, hchildren, henter,
    hexit, htransitions, hfrom, hto, htrigger, ← List.map_append,
    List.forall_mem_map, Option.some.injEq, Json.string.injEq, forall_eq',
    declares_state_iff, declares_trigger_iff, forall_ofName?_iff]
  constructor
  · rintro ⟨hsources, hroots, hparents, hchildren, hreactions, htargets, htriggers⟩
    exact ⟨hsources, hroots, fun state hstate =>
      ⟨hparents state hstate, hchildren state hstate, hreactions state hstate,
        htargets state hstate, htriggers state hstate⟩⟩
  · rintro ⟨hsources, hreferences⟩
    have hstates := hreferences.states
    exact ⟨hsources, hreferences.roots, fun state hstate => (hstates state hstate).parent,
      fun state hstate => (hstates state hstate).children,
      fun state hstate => (hstates state hstate).reactions,
      fun state hstate => (hstates state hstate).targets,
      fun state hstate => (hstates state hstate).triggers⟩

end Bundle

/-! ## Faults of what is laid out -/

/-- Faults in the names of a bundle, not in its layout. -/
inductive BundleError.OfNames : BundleError → Prop
  | root (name : String) : OfNames (.undeclaredRoot name)
  | source (owner source : String) :
      OfNames (.state owner (.foreignTransition source))
  | reference (owner : String) (reference : StateReference) (name : String) :
      OfNames (.state owner (.unknown reference name))

theorem Json.not_missing {ε α : Type} {json : Json} {key : String}
    {form : α → Json} {value : α} (hvalue : json.get? key = some (form value))
    {error other : ε} {index : Nat} :
    ¬ json.Missing key form error index other := by
  rintro ⟨-, hlacks, -⟩
  exact hlacks value hvalue

theorem BundleTransition.ofNames_of_fault {owner : String}
    {transition : BundleTransition} {error : BundleError}
    (hfirst : FirstFaultOf (faults owner transition.toJson) error) :
    error.OfNames := by
  obtain ⟨Fault, hmem, index, hfault⟩ := exists_fault_of_firstFaultOf hfirst
  simp only [faults, List.mem_cons, List.not_mem_nil, or_false] at hmem
  rcases hmem with rfl | rfl | rfl
  · exact absurd hfault (Json.not_missing rfl)
  · exact absurd hfault (Json.not_missing rfl)
  · obtain ⟨-, source, -, -, rfl⟩ := hfault
    exact .source owner source

theorem BundleState.ofNames_of_fault {state : BundleState} {error : BundleError}
    (hfault : ConstructFault faults state.toJson error) : error.OfNames := by
  cases hfault with
  | nameless hlacks => exact absurd rfl (hlacks state.name)
  | @named name _ hname hfirst =>
      obtain ⟨Fault, hmem, index, hfault⟩ := exists_fault_of_firstFaultOf hfirst
      simp only [faults, List.mem_cons, List.not_mem_nil, or_false] at hmem
      rcases hmem with rfl | rfl | rfl | rfl | rfl
      · exact absurd hfault (Json.not_missing rfl)
      · obtain ⟨items, hitems, item, hitem, hfirst⟩ := hfault
        cases hitems
        obtain ⟨transition, -, rfl⟩ := List.mem_map.mp (List.mem_of_getElem? hitem)
        exact BundleTransition.ofNames_of_fault hfirst
      · exact absurd hfault (Json.not_missing rfl)
      · exact absurd hfault (Json.not_missing rfl)
      · exact absurd hfault (Json.not_missing rfl)

theorem BundleState.ofNames_of_referenceFault {states triggers : List String}
    {state : BundleState} {error : BundleError}
    (hfirst : FirstFaultOf (state.referenceFaults states triggers) error) :
    error.OfNames := by
  obtain ⟨Fault, hmem, index, hfault⟩ := exists_fault_of_firstFaultOf hfirst
  simp only [referenceFaults, List.mem_cons, List.not_mem_nil, or_false] at hmem
  rcases hmem with rfl | rfl | rfl | rfl
  · obtain ⟨name, -, -, rfl⟩ := hfault
    exact .reference _ _ name
  · obtain ⟨name, -, -, rfl⟩ := hfault
    exact .reference _ _ name
  · obtain ⟨name, -, -, rfl⟩ := hfault
    exact .reference _ _ name
  · obtain ⟨transition, -, hfirst⟩ := hfault
    obtain ⟨Fault, hmem, index, hfault⟩ := exists_fault_of_firstFaultOf hfirst
    simp only [BundleTransition.referenceFaults, List.mem_cons, List.not_mem_nil,
      or_false] at hmem
    rcases hmem with rfl | rfl <;> obtain ⟨name, -, -, rfl⟩ := hfault <;>
      exact .reference _ _ name

namespace Bundle

theorem ofNames_of_referenceFault {bundle : Bundle} {error : BundleError}
    (hfirst : FirstFaultOf bundle.referenceFaults error) : error.OfNames := by
  obtain ⟨Fault, hmem, index, hfault⟩ := exists_fault_of_firstFaultOf hfirst
  simp only [referenceFaults, List.mem_cons, List.not_mem_nil, or_false] at hmem
  rcases hmem with rfl | rfl
  · obtain ⟨name, -, -, rfl⟩ := hfault
    exact .root name
  · obtain ⟨state, -, hfirst⟩ := hfault
    exact BundleState.ofNames_of_referenceFault hfirst

theorem ofNames_of_ofJson_error (bundle : Bundle)
    (harguments : ∀ trigger ∈ bundle.triggers, trigger.arguments ≠ [])
    {error : BundleError} (herror : ofJson bundle.toJson = .error error) :
    error.OfNames := by
  obtain ⟨Fault, hmem, index, hfault⟩ :=
    exists_fault_of_firstFaultOf ((ofJson_error_iff _ error).mp herror)
  simp only [readingFaults, layoutFaults, List.cons_append, List.nil_append,
    List.mem_cons, List.not_mem_nil, or_false] at hmem
  rcases hmem with rfl | rfl | rfl | rfl | rfl | rfl | rfl | rfl | rfl
  · exact absurd hfault (Json.not_missing rfl)
  · obtain ⟨-, kind, hkind, hother, -⟩ := hfault
    cases hkind
    exact absurd rfl hother
  · exact absurd hfault (Json.not_missing rfl)
  · exact absurd hfault (Json.not_missing rfl)
  · exact absurd hfault (Json.not_missing rfl)
  · obtain ⟨items, hitems, item, hitem, hfault⟩ := hfault
    cases hitems
    obtain ⟨trigger, htrigger, rfl⟩ := List.mem_map.mp (List.mem_of_getElem? hitem)
    have hread := Trigger.ofJson_ok_iff.mpr
      ⟨trigger.reads_toJson, harguments trigger htrigger⟩
    rw [Trigger.ofJson_error_iff.mpr hfault] at hread
    cases hread
  · exact absurd hfault (Json.not_missing rfl)
  · obtain ⟨items, hitems, item, hitem, hfault⟩ := hfault
    cases hitems
    obtain ⟨state, -, rfl⟩ := List.mem_map.mp (List.mem_of_getElem? hitem)
    exact BundleState.ofNames_of_fault hfault
  · obtain ⟨-, other, -, hfirst⟩ := hfault
    exact ofNames_of_referenceFault hfirst

/-- A value that the schema accepts, with its fields in order as reading a text
gives them, is read exactly when its names are right, is refused for its names
only, and is read without a loss. -/
theorem ofJson_of_accepted (json : Json) (hordered : json.Ordered)
    (haccepted : Schema.bundle.errors json = []) :
    ((∃ bundle, ofJson json = .ok bundle) ↔ json.Linked) ∧
    (∀ error, ofJson json = .error error → error.OfNames) ∧
    ∀ bundle, ofJson json = .ok bundle → bundle.toJson = json := by
  obtain ⟨bundle, rfl⟩ := Schema.exists_bundle hordered haccepted
  obtain ⟨-, -, -, htriggers⟩ := (Schema.bundle_errors_iff bundle).mp haccepted
  have harguments : ∀ trigger ∈ bundle.triggers, trigger.arguments ≠ [] :=
    fun trigger htrigger => (htriggers trigger htrigger).2.1
  have honly : ∀ other, ofJson bundle.toJson = .ok other → other = bundle :=
    fun other hread => rightUnique_reads (ofJson_ok_iff.mp hread).1
      (reads_toJson bundle)
  refine ⟨?_, fun _ => ofNames_of_ofJson_error bundle harguments, ?_⟩
  · rw [linked_toJson_iff]
    constructor
    · rintro ⟨other, hread⟩
      have hformed := (ofJson_ok_iff.mp hread).2
      rw [honly other hread] at hformed
      exact ⟨hformed.sources, hformed.references⟩
    · rintro ⟨hsources, hreferences⟩
      exact ⟨bundle, ofJson_toJson ⟨harguments, hsources, hreferences⟩⟩
  · intro other hread
    rw [honly other hread]

/-- A null parent, a null trigger and a flag that is off are written back as they
were. -/
theorem shut_door_read_without_loss :
    let json : Json := .object [
      ("chartc_version", .string "1.0"),
      ("kind", .string "Statechart"),
      ("name", .string "Door"),
      ("roots", .strings ["Shut"]),
      ("states", .array [.object [
        ("children", .strings []),
        ("default_enter", .bool true),
        ("default_exit", .bool false),
        ("enter_reactions", .strings ["lock"]),
        ("exit_reactions", .strings []),
        ("initial", .bool true),
        ("name", .string "Shut"),
        ("parent", .null),
        ("transitions", .array [.object [
          ("from", .string "Shut"), ("to", .string "Shut"), ("trigger", .null)]])]]),
      ("triggers", .array [.object [
        ("arguments", .array [.object [
          ("name", .string "key"), ("type", .string "Key")]]),
        ("name", .string "lock")]])]
    json.Ordered ∧ Schema.bundle.errors json = [] ∧ json.Linked ∧
      ∃ bundle, ofJson json = .ok bundle ∧ bundle.toJson = json := by
  intro json
  let bundle : Bundle :=
    { name := "Door"
      version := "1.0"
      roots := ["Shut"]
      triggers := [⟨"lock", [⟨"Key", "key"⟩]⟩]
      states := [⟨"Shut", none, true, [], true, ["lock"], false, [],
        [⟨"Shut", "Shut", none⟩]⟩] }
  have hordered : json.Ordered := (bundle.readable_toJson 0).ordered
  have haccepted : Schema.bundle.errors json = [] := rfl
  obtain ⟨hread_iff, -, hexact⟩ := ofJson_of_accepted json hordered haccepted
  have hread : ofJson json = .ok bundle := rfl
  exact ⟨hordered, haccepted, hread_iff.mp ⟨bundle, hread⟩, bundle, hread,
    hexact bundle hread⟩

end Bundle

end Statecharts
