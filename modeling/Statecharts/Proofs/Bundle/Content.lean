import Statecharts.Bundle.Read
import Statecharts.Proofs.Resolution.Sweep

/-!
# What a bundle reads as

The content of a bundle, told by the fields that its parts hold and not by the
order in which they are read.  A name is a field with a string and a list of
names one with nothing but strings.  A parent, a trigger of a transition and
the version may be missing, and then so is what is read; a flag is on only
where it is written out.  Whatever has a content has one only, and each part of
a bundle is read as its content.
-/

namespace Statecharts

/-! ## Fields -/

/-- A field that holds no value of the wanted form. -/
def Json.Lacks {α : Type} (json : Json) (key : String) (form : α → Json) :
    Prop :=
  ∀ value, json.get? key ≠ some (form value)

theorem mapM_ok_iff {ε α β : Type} {decode : α → Except ε β} {items : List α}
    {results : List β} :
    items.mapM decode = .ok results ↔
      List.Forall₂ (fun item result => decode item = .ok result) items results := by
  induction items generalizing results with
  | nil => simp [pure, Except.pure, eq_comm]
  | cons item items ih =>
      simp only [List.mapM_cons, Except.bind_eq_ok_iff, pure, Except.pure,
        Except.ok.injEq, List.forall₂_cons_left_iff, ih]
      constructor
      · rintro ⟨result, hresult, others, hothers, rfl⟩
        exact ⟨result, others, hresult, hothers, rfl⟩
      · rintro ⟨result, others, hresult, hothers, rfl⟩
        exact ⟨result, hresult, others, hothers, rfl⟩

theorem forall₂_and_right {α β : Type} {R : α → β → Prop} {P : β → Prop}
    {left : List α} {right : List β} :
    List.Forall₂ (fun item other => R item other ∧ P other) left right ↔
      List.Forall₂ R left right ∧ ∀ other ∈ right, P other := by
  constructor
  · intro hboth
    refine ⟨hboth.imp fun _ _ hitem => hitem.1, fun other hother => ?_⟩
    obtain ⟨item, -, hitem⟩ := exists_mem_left_of_forall₂ hboth hother
    exact hitem.2
  · rintro ⟨hrelated, hright⟩
    induction hrelated with
    | nil => exact .nil
    | cons hfirst _ ih =>
        rw [List.forall_mem_cons] at hright
        exact .cons ⟨hfirst, hright.1⟩ (ih hright.2)

namespace Json

variable {json : Json} {key : String}

theorem asString?_eq_some_iff {text : String} :
    json.asString? = some text ↔ json = .string text := by
  cases json <;> simp [asString?]

theorem stringField?_eq_some_iff {text : String} :
    json.stringField? key = some text ↔ json.get? key = some (.string text) := by
  simp [stringField?, Option.bind_eq_some_iff, asString?_eq_some_iff]

theorem arrayField?_eq_some_iff {items : List Json} :
    json.arrayField? key = some items ↔ json.get? key = some (.array items) := by
  have harray : ∀ value : Json, value.asArray? = some items ↔
      value = .array items := by
    intro value
    cases value <;> simp [asArray?]
  simp [arrayField?, Option.bind_eq_some_iff, harray]

theorem mapM_asString?_eq_some_iff {items : List Json} {names : List String} :
    items.mapM asString? = some names ↔ items = names.map Json.string := by
  induction items generalizing names with
  | nil => cases names <;> simp
  | cons item items ih =>
      cases names <;>
        simp [List.mapM_cons, Option.bind_eq_some_iff, asString?_eq_some_iff, ih]

theorem namesField?_eq_some_iff {names : List String} :
    json.namesField? key = some names ↔ json.get? key = some (.strings names) := by
  simp [namesField?, Option.bind_eq_some_iff, arrayField?_eq_some_iff,
    mapM_asString?_eq_some_iff, strings]

theorem flag_eq_true_iff :
    json.flag key = true ↔ json.get? key = some (.bool true) := by
  have hbool : ∀ value : Json, value.asBool? = some true ↔ value = .bool true := by
    intro value
    cases value <;> simp [asBool?]
  simp [flag, Option.getD_eq_iff, Option.bind_eq_some_iff, hbool]

theorem stringField?_eq {name? : Option String}
    (hname : ∀ name, name? = some name ↔ json.get? key = some (.string name)) :
    json.stringField? key = name? := by
  ext name
  rw [stringField?_eq_some_iff, hname]

theorem stringField?_eq_none_iff :
    json.stringField? key = none ↔ json.Lacks key .string := by
  simp only [Option.eq_none_iff_forall_ne_some, ne_eq, stringField?_eq_some_iff,
    Lacks]

theorem getD_stringField?_iff {default value : String} :
    (json.stringField? key).getD default = value ↔
      (∀ text, json.get? key = some (.string text) → value = text) ∧
        (json.Lacks key .string → value = default) := by
  simp only [← stringField?_eq_none_iff, ← stringField?_eq_some_iff]
  cases json.stringField? key <;> simp [eq_comm]

theorem flag_eq {value : Bool}
    (hvalue : value = true ↔ json.get? key = some (.bool true)) :
    json.flag key = value := by
  rw [Bool.eq_iff_iff, flag_eq_true_iff, hvalue]

end Json

/-! ## Contents -/

/-- A field with a list, the items of which are read one by one. -/
def Json.ListReads {α : Type} (json : Json) (key : String)
    (Reads : Json → α → Prop) (values : List α) : Prop :=
  ∃ items, json.get? key = some (.array items) ∧ List.Forall₂ Reads items values

/-- An argument is listed as its type and its name, or as an object that has
both among its fields. -/
inductive Argument.Reads : Json → Argument → Prop
  | items (type name : String) :
      Reads (.array [.string type, .string name]) ⟨type, name⟩
  | fields {fields : List (String × Json)} {type name : String}
      (htype : (Json.object fields).get? "type" = some (.string type))
      (hname : (Json.object fields).get? "name" = some (.string name)) :
      Reads (.object fields) ⟨type, name⟩

structure Trigger.Reads (json : Json) (trigger : Trigger) : Prop where
  name : json.get? "name" = some (.string trigger.name)
  arguments : json.ListReads "arguments" Argument.Reads trigger.arguments

structure BundleTransition.Reads (json : Json) (transition : BundleTransition) :
    Prop where
  source : json.get? "from" = some (.string transition.source)
  target : json.get? "to" = some (.string transition.target)
  trigger : ∀ name, transition.trigger = some name ↔
    json.get? "trigger" = some (.string name)

structure BundleState.Reads (json : Json) (state : BundleState) : Prop where
  name : json.get? "name" = some (.string state.name)
  parent : ∀ name, state.parent = some name ↔
    json.get? "parent" = some (.string name)
  initial : state.initial = true ↔ json.get? "initial" = some (.bool true)
  children : json.get? "children" = some (.strings state.children)
  defaultEnter : state.defaultEnter = true ↔
    json.get? "default_enter" = some (.bool true)
  enterReactions : json.get? "enter_reactions" =
    some (.strings state.enterReactions)
  defaultExit : state.defaultExit = true ↔
    json.get? "default_exit" = some (.bool true)
  exitReactions : json.get? "exit_reactions" = some (.strings state.exitReactions)
  transitions : json.ListReads "transitions" BundleTransition.Reads
    state.transitions

structure Bundle.Reads (json : Json) (bundle : Bundle) : Prop where
  kind : json.get? "kind" = some (.string "Statechart")
  name : json.get? "name" = some (.string bundle.name)
  version : ∀ version, json.get? "chartc_version" = some (.string version) →
    bundle.version = version
  noVersion : json.Lacks "chartc_version" .string → bundle.version = ""
  roots : json.get? "roots" = some (.strings bundle.roots)
  triggers : json.ListReads "triggers" Trigger.Reads bundle.triggers
  states : json.ListReads "states" BundleState.Reads bundle.states

/-! ## Reading a field -/

/-- A value that has to be there. -/
def required {ε α : Type} (error : ε) (value? : Option α) : Except ε α :=
  value?.elim (.error error) .ok

theorem required_ok_iff {ε α : Type} {error : ε} {value? : Option α}
    {value : α} : required error value? = .ok value ↔ value? = some value := by
  cases value? <;> simp [required]

/-! ## Arguments -/

/-- What is wrong with the way in which an argument is listed. -/
inductive Argument.Fault : Json → ArgumentFault → Prop
  | notListed {json : Json} (hitems : ∀ items, json ≠ .array items)
      (hfields : ∀ fields, json ≠ .object fields) :
      Fault json (.invalidType json "struct ArgumentSpec")
  | noItems : Fault (.array []) (.tooShort 0)
  | wrongType {type : Json} {rest : List Json}
      (htype : ∀ text, type ≠ .string text) :
      Fault (.array (type :: rest)) (.invalidType type "a string")
  | typeAlone (type : String) : Fault (.array [.string type]) (.tooShort 1)
  | wrongName (type : String) {name : Json} {rest : List Json}
      (hname : ∀ text, name ≠ .string text) :
      Fault (.array (.string type :: name :: rest)) (.invalidType name "a string")
  | moreItems (type name : String) {rest : List Json} (hrest : rest ≠ []) :
      Fault (.array (.string type :: .string name :: rest))
        (.tooLong (rest.length + 2))
  | wrongNameField {fields : List (String × Json)} {name : Json}
      (hfield : (Json.object fields).get? "name" = some name)
      (hname : ∀ text, name ≠ .string text) :
      Fault (.object fields) (.invalidType name "a string")
  | wrongTypeField {fields : List (String × Json)} {type : Json}
      (hclean : ∀ name, (Json.object fields).get? "name" = some name →
        ∃ text, name = .string text)
      (hfield : (Json.object fields).get? "type" = some type)
      (htype : ∀ text, type ≠ .string text) :
      Fault (.object fields) (.invalidType type "a string")
  | noType {fields : List (String × Json)}
      (hclean : ∀ name, (Json.object fields).get? "name" = some name →
        ∃ text, name = .string text)
      (htype : (Json.object fields).get? "type" = none) :
      Fault (.object fields) (.missingField "type")
  | noName {fields : List (String × Json)} {type : String}
      (htype : (Json.object fields).get? "type" = some (.string type))
      (hname : (Json.object fields).get? "name" = none) :
      Fault (.object fields) (.missingField "name")

namespace Argument

theorem requireString_of_ne {json : Json} (hjson : ∀ text, json ≠ .string text) :
    json.requireString = .error (.invalidType json "a string") := by
  cases json with
  | string text => exact absurd rfl (hjson text)
  | _ => rfl

theorem mapM_requireString {value? : Option Json}
    (hvalue : ∀ value, value? = some value → ∃ text, value = .string text) :
    value?.mapM Json.requireString = .ok (value?.bind Json.asString?) := by
  cases value? with
  | none => rfl
  | some value =>
      obtain ⟨text, rfl⟩ := hvalue value rfl
      rfl

theorem ofJson_object (fields : List (String × Json)) :
    ofJson (.object fields) = ofObject (.object fields) := rfl

theorem ofJson_of_reads {json : Json} {argument : Argument}
    (hreads : Reads json argument) : ofJson json = .ok argument := by
  cases hreads with
  | items type name => rfl
  | fields htype hname =>
      rw [ofJson_object, ofObject, htype, hname]
      rfl

theorem ofJson_of_fault {json : Json} {fault : ArgumentFault}
    (hfault : Fault json fault) : ofJson json = .error fault := by
  cases hfault with
  | notListed hitems hfields =>
      cases json with
      | array items => exact absurd rfl (hitems items)
      | object fields => exact absurd rfl (hfields fields)
      | _ => rfl
  | noItems => rfl
  | @wrongType type rest htype =>
      unfold ofJson
      cases rest <;> simp [ofItems, requireString_of_ne htype] <;> rfl
  | typeAlone type => rfl
  | wrongName type hname =>
      simp only [ofJson, ofItems, requireString_of_ne hname]
      rfl
  | @moreItems type name rest hrest =>
      obtain ⟨item, more, rfl⟩ := List.exists_cons_of_ne_nil hrest
      rfl
  | wrongNameField hfield hname =>
      rw [ofJson_object, ofObject, hfield, Option.mapM_some, requireString_of_ne hname]
      rfl
  | wrongTypeField hclean hfield htype =>
      rw [ofJson_object, ofObject, mapM_requireString hclean, hfield, Option.mapM_some,
        requireString_of_ne htype]
      rfl
  | noType hclean htype =>
      rw [ofJson_object, ofObject, mapM_requireString hclean, htype]
      rfl
  | noName htype hname =>
      rw [ofJson_object, ofObject, htype, hname]
      rfl

theorem reads_or_fault (json : Json) :
    (∃ argument, Reads json argument) ∨ ∃ fault, Fault json fault := by
  match json with
  | .null | .bool _ | .number _ | .string _ =>
      exact Or.inr ⟨_, .notListed (by simp) (by simp)⟩
  | .array [] => exact Or.inr ⟨_, .noItems⟩
  | .array (type :: rest) =>
      by_cases htype : ∃ text, type = .string text
      swap
      · exact Or.inr ⟨_, .wrongType (not_exists.mp htype)⟩
      obtain ⟨type, rfl⟩ := htype
      match rest with
      | [] => exact Or.inr ⟨_, .typeAlone type⟩
      | name :: rest =>
          by_cases hname : ∃ text, name = .string text
          swap
          · exact Or.inr ⟨_, .wrongName type (not_exists.mp hname)⟩
          obtain ⟨name, rfl⟩ := hname
          match rest with
          | [] => exact Or.inl ⟨_, .items type name⟩
          | item :: rest =>
              exact Or.inr ⟨_, .moreItems type name (List.cons_ne_nil item rest)⟩
  | .object fields =>
      by_cases hclean : ∀ name, (Json.object fields).get? "name" = some name →
          ∃ text, name = .string text
      swap
      · push Not at hclean
        obtain ⟨name, hfield, hname⟩ := hclean
        exact Or.inr ⟨_, .wrongNameField hfield hname⟩
      cases htype : (Json.object fields).get? "type" with
      | none => exact Or.inr ⟨_, .noType hclean htype⟩
      | some type =>
          by_cases hstring : ∃ text, type = .string text
          swap
          · exact Or.inr ⟨_, .wrongTypeField hclean htype (not_exists.mp hstring)⟩
          obtain ⟨type, rfl⟩ := hstring
          cases hname : (Json.object fields).get? "name" with
          | none => exact Or.inr ⟨_, .noName htype hname⟩
          | some name =>
              obtain ⟨name, rfl⟩ := hclean name hname
              exact Or.inl ⟨_, .fields htype hname⟩

theorem ofJson_ok_iff {json : Json} {argument : Argument} :
    ofJson json = .ok argument ↔ Reads json argument := by
  refine ⟨fun hread => ?_, ofJson_of_reads⟩
  rcases reads_or_fault json with ⟨other, hother⟩ | ⟨fault, hfault⟩
  · rw [ofJson_of_reads hother] at hread
    exact Except.ok.inj hread ▸ hother
  · rw [ofJson_of_fault hfault] at hread
    cases hread

theorem ofJson_error_iff {json : Json} {fault : ArgumentFault} :
    ofJson json = .error fault ↔ Fault json fault := by
  refine ⟨fun hread => ?_, ofJson_of_fault⟩
  rcases reads_or_fault json with ⟨argument, hargument⟩ | ⟨other, hother⟩
  · rw [ofJson_of_reads hargument] at hread
    cases hread
  · rw [ofJson_of_fault hother] at hread
    exact Except.error.inj hread ▸ hother

end Argument

/-! ## Constructs -/

namespace Trigger

/-- A trigger behind its name. -/
def ofNamed (json : Json) (name : String) : Except BundleError Trigger :=
  required (.trigger name .missingArguments) (json.get? "arguments") >>=
    fun list => (Argument.listOfJson list).mapError
        (fun fault => .trigger name (.invalidArguments fault)) >>=
      fun arguments =>
        if arguments = [] then .error (.trigger name .noArguments)
        else .ok ⟨name, arguments⟩

theorem ofJson_eq_bind (json : Json) :
    ofJson json =
      (required .namelessConstruct (json.stringField? "name") >>= ofNamed json) := by
  unfold ofJson ofNamed
  cases json.stringField? "name" with
  | none => rfl
  | some name =>
      cases json.get? "arguments" with
      | none => rfl
      | some list =>
          simp only [required, Option.elim_some, Except.ok_bind]
          cases Argument.listOfJson list with
          | error fault => rfl
          | ok arguments => cases arguments <;> rfl

theorem listOfJson_ok_iff {json : Json} {arguments : List Argument} :
    Argument.listOfJson json = .ok arguments ↔
      ∃ items, json = .array items ∧
        List.Forall₂ Argument.Reads items arguments := by
  cases json <;> simp [Argument.listOfJson, mapM_ok_iff, Argument.ofJson_ok_iff]

theorem ofJson_ok_iff {json : Json} {trigger : Trigger} :
    ofJson json = .ok trigger ↔
      trigger.Reads json ∧ trigger.arguments ≠ [] := by
  simp only [ofJson_eq_bind, ofNamed, Except.bind_eq_ok_iff, required_ok_iff,
    Json.stringField?_eq_some_iff, Except.mapError_eq_ok_iff, listOfJson_ok_iff]
  constructor
  · rintro ⟨name, hname, list, hlist, arguments, ⟨items, rfl, hitems⟩, hread⟩
    split at hread
    · cases hread
    · cases hread
      exact ⟨⟨hname, items, hlist, hitems⟩, by assumption⟩
  · rintro ⟨⟨hname, items, hlist, hitems⟩, harguments⟩
    exact ⟨_, hname, _, hlist, _, ⟨items, rfl, hitems⟩, if_neg harguments⟩

end Trigger

namespace BundleTransition

theorem ofJson_eq_bind (owner : String) (json : Json) :
    ofJson owner json =
      (required (.state owner (.transitionMissing "from"))
          (json.stringField? "from") >>= fun source =>
        required (.state owner (.transitionMissing "to"))
            (json.stringField? "to") >>= fun target =>
          if source ≠ owner then .error (.state owner (.foreignTransition source))
          else .ok ⟨source, target, json.stringField? "trigger"⟩) := by
  unfold ofJson requireName
  cases json.stringField? "from" with
  | none => rfl
  | some source => cases json.stringField? "to" <;> rfl

theorem ofJson_ok_iff {owner : String} {json : Json}
    {transition : BundleTransition} :
    ofJson owner json = .ok transition ↔
      transition.Reads json ∧ transition.source = owner := by
  simp only [ofJson_eq_bind, Except.bind_eq_ok_iff, required_ok_iff,
    Json.stringField?_eq_some_iff]
  constructor
  · rintro ⟨source, hsource, target, htarget, hread⟩
    split at hread
    · cases hread
    · cases hread
      exact ⟨⟨hsource, htarget, fun _ => Json.stringField?_eq_some_iff⟩,
        by simpa using ‹¬ source ≠ owner›⟩
  · rintro ⟨hreads, rfl⟩
    refine ⟨_, hreads.source, _, hreads.target, ?_⟩
    rw [if_neg (not_not.mpr rfl), Json.stringField?_eq hreads.trigger]

end BundleTransition

namespace BundleState

/-- A state behind its name. -/
def ofNamed (json : Json) (name : String) : Except BundleError BundleState :=
  required (.state name .missingTransitions) (json.arrayField? "transitions") >>=
    fun items => items.mapM (BundleTransition.ofJson name) >>= fun transitions =>
      required (.state name (.notNames "children"))
          (json.namesField? "children") >>= fun children =>
        required (.state name (.notNames "enter_reactions"))
            (json.namesField? "enter_reactions") >>= fun enterReactions =>
          required (.state name (.notNames "exit_reactions"))
              (json.namesField? "exit_reactions") >>= fun exitReactions =>
            .ok { name
                  parent := json.stringField? "parent"
                  initial := json.flag "initial"
                  children
                  defaultEnter := json.flag "default_enter"
                  enterReactions
                  defaultExit := json.flag "default_exit"
                  exitReactions
                  transitions }

theorem ofJson_eq_bind (json : Json) :
    ofJson json =
      (required .namelessConstruct (json.stringField? "name") >>= ofNamed json) := by
  unfold ofJson ofNamed
  cases json.stringField? "name" with
  | none => rfl
  | some name => cases json.arrayField? "transitions" <;> rfl

theorem ofJson_ok_iff {json : Json} {state : BundleState} :
    ofJson json = .ok state ↔
      state.Reads json ∧
        ∀ transition ∈ state.transitions, transition.source = state.name := by
  simp only [ofJson_eq_bind, ofNamed, Except.bind_eq_ok_iff, required_ok_iff,
    Json.stringField?_eq_some_iff, Json.namesField?_eq_some_iff,
    Json.arrayField?_eq_some_iff, mapM_ok_iff, BundleTransition.ofJson_ok_iff,
    forall₂_and_right]
  constructor
  · rintro ⟨name, hname, items, hitems, transitions, ⟨hread, hsources⟩, children,
      hchildren, enterReactions, henter, exitReactions, hexit, hstate⟩
    cases hstate
    exact ⟨⟨hname, fun _ => Json.stringField?_eq_some_iff, Json.flag_eq_true_iff,
      hchildren, Json.flag_eq_true_iff, henter, Json.flag_eq_true_iff, hexit,
      items, hitems, hread⟩, hsources⟩
  · rintro ⟨hreads, hsources⟩
    obtain ⟨items, hitems, hread⟩ := hreads.transitions
    refine ⟨_, hreads.name, items, hitems, _, ⟨hread, hsources⟩, _,
      hreads.children, _, hreads.enterReactions, _, hreads.exitReactions, ?_⟩
    rw [Json.stringField?_eq hreads.parent, Json.flag_eq hreads.initial,
      Json.flag_eq hreads.defaultEnter, Json.flag_eq hreads.defaultExit]

end BundleState

/-! ## One content -/

theorem Json.field_unique {α : Type} {json : Json} {key : String}
    {form : α → Json} (hform : Function.Injective form) {value other : α}
    (hvalue : json.get? key = some (form value))
    (hother : json.get? key = some (form other)) : value = other :=
  hform (Option.some.inj (hvalue.symm.trans hother))

theorem Json.string_injective : Function.Injective Json.string :=
  fun _ _ => Json.string.inj

theorem Json.strings_injective : Function.Injective Json.strings :=
  fun _ _ hjson => List.map_injective_iff.mpr Json.string_injective
    (Json.array.inj hjson)

theorem Json.ListReads.unique {α : Type} {json : Json} {key : String}
    {Reads : Json → α → Prop} {values others : List α}
    (hunique : Relator.RightUnique Reads)
    (hvalues : json.ListReads key Reads values)
    (hothers : json.ListReads key Reads others) : values = others := by
  obtain ⟨items, hitems, hvalues⟩ := hvalues
  obtain ⟨items', hitems', hothers⟩ := hothers
  rw [hitems] at hitems'
  cases hitems'
  exact List.right_unique_forall₂' hunique hvalues hothers

theorem Argument.rightUnique_reads :
    Relator.RightUnique fun json argument => Argument.Reads json argument := by
  intro json argument other hargument hother
  rw [← ofJson_ok_iff] at hargument hother
  exact Except.ok.inj (hargument.symm.trans hother)

theorem Trigger.rightUnique_reads : Relator.RightUnique Trigger.Reads := by
  intro json trigger other htrigger hother
  cases trigger
  cases other
  rw [Trigger.mk.injEq]
  exact ⟨Json.field_unique Json.string_injective htrigger.name hother.name,
    htrigger.arguments.unique Argument.rightUnique_reads hother.arguments⟩

theorem BundleTransition.rightUnique_reads :
    Relator.RightUnique BundleTransition.Reads := by
  intro json transition other htransition hother
  cases transition
  cases other
  rw [BundleTransition.mk.injEq]
  exact ⟨Json.field_unique Json.string_injective htransition.source hother.source,
    Json.field_unique Json.string_injective htransition.target hother.target,
    (Json.stringField?_eq htransition.trigger).symm.trans
      (Json.stringField?_eq hother.trigger)⟩

theorem BundleState.rightUnique_reads : Relator.RightUnique BundleState.Reads := by
  intro json state other hstate hother
  cases state
  cases other
  rw [BundleState.mk.injEq]
  exact ⟨Json.field_unique Json.string_injective hstate.name hother.name,
    (Json.stringField?_eq hstate.parent).symm.trans
      (Json.stringField?_eq hother.parent),
    (Json.flag_eq hstate.initial).symm.trans (Json.flag_eq hother.initial),
    Json.field_unique Json.strings_injective hstate.children hother.children,
    (Json.flag_eq hstate.defaultEnter).symm.trans
      (Json.flag_eq hother.defaultEnter),
    Json.field_unique Json.strings_injective hstate.enterReactions
      hother.enterReactions,
    (Json.flag_eq hstate.defaultExit).symm.trans
      (Json.flag_eq hother.defaultExit),
    Json.field_unique Json.strings_injective hstate.exitReactions
      hother.exitReactions,
    hstate.transitions.unique BundleTransition.rightUnique_reads
      hother.transitions⟩

theorem Bundle.rightUnique_reads : Relator.RightUnique Bundle.Reads := by
  intro json bundle other hbundle hother
  have hversion := (Json.getD_stringField?_iff.mpr
    ⟨hbundle.version, hbundle.noVersion⟩).symm.trans
      (Json.getD_stringField?_iff.mpr ⟨hother.version, hother.noVersion⟩)
  cases bundle
  cases other
  rw [Bundle.mk.injEq]
  exact ⟨Json.field_unique Json.string_injective hbundle.name hother.name,
    hversion,
    Json.field_unique Json.strings_injective hbundle.roots hother.roots,
    hbundle.triggers.unique Trigger.rightUnique_reads hother.triggers,
    hbundle.states.unique BundleState.rightUnique_reads hother.states⟩

end Statecharts
