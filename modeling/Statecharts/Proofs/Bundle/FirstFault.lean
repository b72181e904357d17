import Statecharts.Proofs.Bundle.ReadBack

/-!
# The first fault of a bundle

Reading a bundle asks one thing after another: for the fields of the bundle,
for every trigger, for every state and the transitions that it lists, and at
last for the declaration of every name that is referred to.  What each of these
refuses is told by the JSON value alone.  A bundle is read when nothing is
refused, and otherwise the first refusal is reported.
-/

namespace Statecharts

/-! ## Fields and constructs -/

/-- A field without a value of the wanted form is an error. -/
def Json.Missing {ε α : Type} (json : Json) (key : String) (form : α → Json)
    (error : ε) : Nat → ε → Prop :=
  Once fun other => json.Lacks key form ∧ other = error

/-- The items of a field with a list. -/
def Json.ItemFault {ε : Type} (json : Json) (key : String)
    (Fault : Json → ε → Prop) (index : Nat) (error : ε) : Prop :=
  ∃ items, json.get? key = some (.array items) ∧ FaultAt items Fault index error

/-- A construct needs a name, with which the rest of its faults are reported. -/
inductive ConstructFault
    (faults : String → Json → List (Nat → BundleError → Prop)) (json : Json) :
    BundleError → Prop
  | nameless (hname : json.Lacks "name" .string) :
      ConstructFault faults json .namelessConstruct
  | named {name : String} {error : BundleError}
      (hname : json.get? "name" = some (.string name))
      (hfirst : FirstFaultOf (faults name json) error) :
      ConstructFault faults json error

/-- What is wrong with a list of arguments. -/
inductive Argument.ListFault : Json → ArgumentFault → Prop
  | notListed {json : Json} (hitems : ∀ items, json ≠ .array items) :
      ListFault json (.invalidType json "a sequence")
  | item {items : List Json} {fault : ArgumentFault}
      (hfirst : FirstFault (FaultAt items Argument.Fault) fault) :
      ListFault (.array items) fault

def Trigger.faults (name : String) (json : Json) :
    List (Nat → BundleError → Prop) :=
  [json.Missing "arguments" id (.trigger name .missingArguments),
    Once fun error => ∃ list fault, json.get? "arguments" = some list ∧
      Argument.ListFault list fault ∧
      error = .trigger name (.invalidArguments fault),
    Once fun error => json.get? "arguments" = some (.array []) ∧
      error = .trigger name .noArguments]

def BundleTransition.faults (owner : String) (json : Json) :
    List (Nat → BundleError → Prop) :=
  [json.Missing "from" .string (.state owner (.transitionMissing "from")),
    json.Missing "to" .string (.state owner (.transitionMissing "to")),
    Once fun error => ∃ source, json.get? "from" = some (.string source) ∧
      source ≠ owner ∧ error = .state owner (.foreignTransition source)]

def BundleState.faults (name : String) (json : Json) :
    List (Nat → BundleError → Prop) :=
  [json.Missing "transitions" .array (.state name .missingTransitions),
    json.ItemFault "transitions" fun item =>
      FirstFaultOf (BundleTransition.faults name item),
    json.Missing "children" .strings (.state name (.notNames "children")),
    json.Missing "enter_reactions" .strings
      (.state name (.notNames "enter_reactions")),
    json.Missing "exit_reactions" .strings
      (.state name (.notNames "exit_reactions"))]

/-! ## References -/

/-- Names that are not declared. -/
def Undeclared (declared names : List String) (report : String → BundleError) :
    Nat → BundleError → Prop :=
  FaultAt names fun name error => name ∉ declared ∧ error = report name

def BundleTransition.referenceFaults (states triggers : List String)
    (owner : String) (transition : BundleTransition) :
    List (Nat → BundleError → Prop) :=
  [Undeclared states [transition.target] fun name =>
      .state owner (.unknown .transitionTarget name),
    Undeclared triggers transition.trigger.toList fun name =>
      .state owner (.unknown .transitionTrigger name)]

def BundleState.referenceFaults (states triggers : List String)
    (state : BundleState) : List (Nat → BundleError → Prop) :=
  [Undeclared states state.parent.toList fun name =>
      .state state.name (.unknown .parent name),
    Undeclared states state.children fun name =>
      .state state.name (.unknown .child name),
    Undeclared triggers (state.enterReactions ++ state.exitReactions) fun name =>
      .state state.name (.unknown .reactionTrigger name),
    FaultAt state.transitions fun transition =>
      FirstFaultOf (transition.referenceFaults states triggers state.name)]

def Bundle.referenceFaults (bundle : Bundle) :
    List (Nat → BundleError → Prop) :=
  [Undeclared (bundle.states.map BundleState.name) bundle.roots .undeclaredRoot,
    FaultAt bundle.states fun state =>
      FirstFaultOf (state.referenceFaults (bundle.states.map BundleState.name)
        (bundle.triggers.map Trigger.name))]

/-! ## Bundles -/

/-- What reading refuses in the layout of a value, in the order of its
checks. -/
def Bundle.layoutFaults (json : Json) : List (Nat → BundleError → Prop) :=
  [json.Missing "kind" .string (.missingField "kind"),
    Once fun error => ∃ kind, json.get? "kind" = some (.string kind) ∧
      kind ≠ "Statechart" ∧ error = .wrongKind kind,
    json.Missing "name" .string (.missingField "name"),
    json.Missing "roots" .strings (.missingField "roots"),
    json.Missing "triggers" .array (.missingField "triggers"),
    json.ItemFault "triggers" (ConstructFault Trigger.faults),
    json.Missing "states" .array (.missingField "states"),
    json.ItemFault "states" (ConstructFault BundleState.faults)]

/-- All that reading refuses: names are looked up when the layout is right. -/
def Bundle.readingFaults (json : Json) : List (Nat → BundleError → Prop) :=
  layoutFaults json ++
    [Once fun error => ∃ bundle, Bundle.Reads json bundle ∧
      FirstFaultOf bundle.referenceFaults error]

/-! ## Each check -/

section Checks

variable {ε α : Type} {json : Json} {key : String}

theorem Json.lacks_iff {form : α → Json} {value? : Option α}
    (hvalue : ∀ value, value? = some value ↔ json.get? key = some (form value)) :
    json.Lacks key form ↔ value? = none := by
  simp only [Json.Lacks, ne_eq, ← hvalue, Option.eq_none_iff_forall_ne_some]

theorem required_error_iff {form : α → Json} {value? : Option α}
    (hvalue : ∀ value, value? = some value ↔ json.get? key = some (form value))
    {error : ε} (other : ε) :
    required error value? = .error other ↔
      FirstFaultOf [json.Missing key form error] other := by
  rw [firstFaultOf_singleton_iff, Json.Missing, firstFault_once_iff,
    Json.lacks_iff hvalue]
  cases value? <;> simp [required, eq_comm]

theorem required_bind_error_iff {form : α → Json} {value? : Option α}
    (hvalue : ∀ value, value? = some value ↔ json.get? key = some (form value))
    {error : ε} {β : Type} {next : α → Except ε β} {later : List (Nat → ε → Prop)}
    (hnext : ∀ value, json.get? key = some (form value) →
      ∀ other, next value = .error other ↔ FirstFaultOf later other)
    (other : ε) :
    (required error value? >>= next) = .error other ↔
      FirstFaultOf (json.Missing key form error :: later) other := by
  apply bind_error_iff_firstFaultOf [json.Missing key form error] later
    (required_error_iff hvalue)
  intro value hread
  exact hnext value ((hvalue value).mp (required_ok_iff.mp hread))

theorem Json.itemFault_eq {items : List Json} {Fault : Json → ε → Prop}
    (hitems : json.get? key = some (.array items)) :
    json.ItemFault key Fault = FaultAt items Fault := by
  funext index error
  simp [Json.ItemFault, hitems]

theorem mapM_bind_error_iff {items : List Json} {decode : Json → Except ε α}
    {Fault : Json → ε → Prop} (hitems : json.get? key = some (.array items))
    (hdecode : ∀ item error, decode item = .error error ↔ Fault item error)
    {β : Type} {next : List α → Except ε β} {later : List (Nat → ε → Prop)}
    (hnext : ∀ values, items.mapM decode = .ok values →
      ∀ error, next values = .error error ↔ FirstFaultOf later error)
    (error : ε) :
    (items.mapM decode >>= next) = .error error ↔
      FirstFaultOf (json.ItemFault key Fault :: later) error := by
  refine bind_error_iff_firstFaultOf [json.ItemFault key Fault] later ?_ hnext error
  intro error
  rw [firstFaultOf_singleton_iff, Json.itemFault_eq hitems]
  exact mapM_error_iff fun item _ => hdecode item

theorem construct_error_iff {behind : String → Except BundleError α}
    {faults : String → Json → List (Nat → BundleError → Prop)}
    (hbehind : ∀ name error, behind name = .error error ↔
      FirstFaultOf (faults name json) error) (error : BundleError) :
    (required .namelessConstruct (json.stringField? "name") >>= behind) =
        .error error ↔ ConstructFault faults json error := by
  cases hname : json.stringField? "name" with
  | none =>
      have hlacks := Json.stringField?_eq_none_iff.mp hname
      constructor
      · intro herror
        cases herror
        exact .nameless hlacks
      · intro hfault
        cases hfault with
        | nameless => rfl
        | named hname => exact absurd hname (hlacks _)
  | some name =>
      rw [Json.stringField?_eq_some_iff] at hname
      rw [required, Option.elim_some, Except.ok_bind, hbehind]
      constructor
      · exact .named hname
      · intro hfault
        cases hfault with
        | nameless hlacks => exact absurd hname (hlacks name)
        | named hname' hfirst =>
            exact Json.field_unique Json.string_injective hname' hname ▸ hfirst

end Checks

/-! ## Triggers -/

theorem Argument.listOfJson_error_iff {json : Json} {fault : ArgumentFault} :
    listOfJson json = .error fault ↔ ListFault json fault := by
  constructor
  · intro herror
    cases json with
    | array items =>
        exact .item ((mapM_error_iff fun _ _ _ => ofJson_error_iff).mp herror)
    | _ =>
        cases herror
        exact .notListed (by simp)
  · intro hfault
    cases hfault with
    | item hfirst => exact (mapM_error_iff fun _ _ _ => ofJson_error_iff).mpr hfirst
    | notListed hitems =>
        cases json with
        | array items => exact absurd rfl (hitems items)
        | _ => rfl

namespace Trigger

theorem ofNamed_error_iff (json : Json) (name : String) (error : BundleError) :
    ofNamed json name = .error error ↔ FirstFaultOf (faults name json) error := by
  refine required_bind_error_iff (fun _ => Iff.rfl) (fun list hlist => ?_) error
  apply bind_error_iff_firstFaultOf [_] [_]
  · intro error
    rw [firstFaultOf_once_iff]
    simp only [Except.mapError_eq_error_iff, Argument.listOfJson_error_iff]
    constructor
    · rintro ⟨fault, hfault, rfl⟩
      exact ⟨list, fault, hlist, hfault, rfl⟩
    · rintro ⟨list', fault, hlist', hfault, rfl⟩
      cases hlist.symm.trans hlist'
      exact ⟨fault, hfault, rfl⟩
  · intro arguments hread error
    obtain ⟨items, rfl, hitems⟩ :=
      listOfJson_ok_iff.mp (Except.mapError_eq_ok_iff.mp hread)
    rw [firstFaultOf_once_iff, hlist]
    cases hitems <;> simp [eq_comm]

theorem ofJson_error_iff {json : Json} {error : BundleError} :
    ofJson json = .error error ↔ ConstructFault faults json error := by
  rw [ofJson_eq_bind]
  exact construct_error_iff (ofNamed_error_iff json) error

end Trigger

theorem BundleTransition.ofJson_error_iff {owner : String} {json : Json}
    {error : BundleError} :
    ofJson owner json = .error error ↔ FirstFaultOf (faults owner json) error := by
  rw [ofJson_eq_bind]
  refine required_bind_error_iff (fun _ => Json.stringField?_eq_some_iff)
    (fun source hsource => ?_) error
  refine required_bind_error_iff (fun _ => Json.stringField?_eq_some_iff)
    (fun target _ error => ?_)
  rw [firstFaultOf_once_iff, hsource]
  by_cases hforeign : source = owner
  · simp [hforeign, eq_comm]
  · simpa [hforeign, Ne.symm hforeign] using eq_comm

namespace BundleState

theorem ofNamed_error_iff (json : Json) (name : String) (error : BundleError) :
    ofNamed json name = .error error ↔ FirstFaultOf (faults name json) error := by
  have hnames : ∀ {key : String} names, json.namesField? key = some names ↔
      json.get? key = some (.strings names) :=
    fun _ => Json.namesField?_eq_some_iff
  refine required_bind_error_iff (fun _ => Json.arrayField?_eq_some_iff)
    (fun items hitems => ?_) error
  refine mapM_bind_error_iff hitems (fun _ _ => BundleTransition.ofJson_error_iff)
    (fun transitions _ => ?_)
  refine required_bind_error_iff hnames (fun children _ => ?_)
  refine required_bind_error_iff hnames (fun enterReactions _ => ?_)
  refine required_bind_error_iff hnames (fun exitReactions _ => ?_)
  exact ok_error_iff_firstFaultOf

theorem ofJson_error_iff {json : Json} {error : BundleError} :
    ofJson json = .error error ↔ ConstructFault faults json error := by
  rw [ofJson_eq_bind]
  exact construct_error_iff (ofNamed_error_iff json) error

end BundleState

/-! ## Names that are looked up -/

namespace Bundle

theorem undeclared_error_iff {declared names : List String}
    {report : String → BundleError} {error : BundleError} :
    (match names.find? (!declared.contains ·) with
      | some name => Except.error (report name)
      | none => Except.ok ()) = .error error ↔
      FirstFault (Undeclared declared names report) error := by
  induction names with
  | nil => simp [Undeclared, firstFault_nil]
  | cons name names ih =>
      rw [Undeclared, firstFault_cons_iff, ← Undeclared, ← ih, List.find?_cons]
      by_cases hname : name ∈ declared <;> simp [hname, eq_comm]

theorem checkNames_error_iff {declared names : List String} {owner : String}
    {reference : StateReference} (error : BundleError) :
    checkNames declared owner reference names = .error error ↔
      FirstFaultOf
        [Undeclared declared names fun name => .state owner (.unknown reference name)]
        error := by
  rw [firstFaultOf_singleton_iff, ← undeclared_error_iff]
  rfl

theorem checkTransition_error_iff {states triggers : List String} {owner : String}
    (transition : BundleTransition) (error : BundleError) :
    checkTransition states triggers owner transition = .error error ↔
      FirstFaultOf (transition.referenceFaults states triggers owner) error :=
  bind_error_iff_firstFaultOf [_] [_] checkNames_error_iff
    (fun _ _ => checkNames_error_iff) error

theorem checkState_error_iff {states triggers : List String}
    (state : BundleState) (error : BundleError) :
    checkState states triggers state = .error error ↔
      FirstFaultOf (state.referenceFaults states triggers) error := by
  refine bind_error_iff_firstFaultOf [_] [_, _, _] checkNames_error_iff
    (fun _ _ => ?_) error
  refine bind_error_iff_firstFaultOf [_] [_, _] checkNames_error_iff (fun _ _ => ?_)
  refine bind_error_iff_firstFaultOf [_] [_] checkNames_error_iff
    (fun _ _ error => ?_)
  rw [firstFaultOf_singleton_iff]
  exact forM_error_iff fun transition _ => checkTransition_error_iff transition

theorem checkReferences_error_iff {bundle : Bundle} {error : BundleError} :
    bundle.checkReferences = .error error ↔
      FirstFaultOf bundle.referenceFaults error := by
  rw [checkReferences_eq_bind]
  refine bind_error_iff_firstFaultOf [_] [_] (fun error => ?_)
    (fun _ _ error => ?_) error
  · rw [firstFaultOf_singleton_iff]
    exact undeclared_error_iff
  · rw [firstFaultOf_singleton_iff]
    exact forM_error_iff fun state _ => checkState_error_iff state

/-! ## Whole bundles -/

theorem parse_error_iff (json : Json) (error : BundleError) :
    parse json = .error error ↔
      FirstFaultOf (layoutFaults json) error := by
  refine required_bind_error_iff (fun _ => Json.stringField?_eq_some_iff)
    (fun kind hkind => ?_) error
  refine bind_error_iff_firstFaultOf [_] [_, _, _, _, _, _] (fun error => ?_)
    (fun _ _ => ?_)
  · rw [firstFaultOf_once_iff, hkind]
    by_cases hother : kind = "Statechart" <;> simp [hother, eq_comm]
  refine required_bind_error_iff (fun _ => Json.stringField?_eq_some_iff)
    (fun name _ => ?_)
  refine required_bind_error_iff (fun _ => Json.namesField?_eq_some_iff)
    (fun roots _ => ?_)
  refine required_bind_error_iff (fun _ => Json.arrayField?_eq_some_iff)
    (fun items hitems => ?_)
  refine mapM_bind_error_iff hitems (fun _ _ => Trigger.ofJson_error_iff)
    (fun triggers _ => ?_)
  refine required_bind_error_iff (fun _ => Json.arrayField?_eq_some_iff)
    (fun items hitems => ?_)
  refine mapM_bind_error_iff hitems (fun _ _ => BundleState.ofJson_error_iff)
    (fun states _ => ?_)
  exact ok_error_iff_firstFaultOf

theorem ofJson_error_iff (json : Json) (error : BundleError) :
    ofJson json = .error error ↔ FirstFaultOf (readingFaults json) error := by
  rw [ofJson_eq_bind]
  refine bind_error_iff_firstFaultOf (layoutFaults json) [_] (parse_error_iff json)
    (fun bundle hparse error => ?_) error
  have hreads := (parse_ok_iff.mp hparse).1
  rw [firstFaultOf_once_iff, Except.bind_eq_error_iff, checkReferences_error_iff]
  constructor
  · rintro (hfirst | ⟨_, -, hok⟩)
    · exact ⟨bundle, hreads, hfirst⟩
    · cases hok
  · rintro ⟨other, hother, hfirst⟩
    -- The references are told of any content, and there is only one.
    rw [rightUnique_reads hother hreads] at hfirst
    exact Or.inl hfirst

/-- Reading a bundle reports the first fault in the order of its checks, and
without a fault it gives the content of the bundle. -/
theorem ofJson_reports_first_fault (json : Json) :
    ((∃ bundle, ofJson json = .ok bundle) ↔
      ∀ Fault ∈ readingFaults json, Faultless Fault) ∧
    (∀ error, ofJson json = .error error ↔
      FirstFaultOf (readingFaults json) error) ∧
    ∀ bundle, ofJson json = .ok bundle ↔ bundle.Reads json ∧ bundle.WellFormed := by
  refine ⟨?_, ofJson_error_iff json, fun _ => ofJson_ok_iff⟩
  exact exists_ok_iff_faultless (ofJson_error_iff json)

end Bundle

end Statecharts
