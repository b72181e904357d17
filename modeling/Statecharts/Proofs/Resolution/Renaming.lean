import Mathlib.Logic.Equiv.Basic
import Statecharts.Chart.Validation
import Statecharts.Proofs.Resolution.FirstFault

/-!
# Renamed records

Names are compared with each other and with the empty name, and nothing else
is done with them: they are not sorted, and no name is special.  So a renaming
that keeps different names apart, and the empty name as it is, commutes with
building and with validating.  Here are the errors: every check of building
refuses the renamed records where it refuses the records, and tells it in the
new names.
-/

namespace Statecharts

/-- New names for states or for triggers. -/
structure Renaming where
  name : String → String
  injective : Function.Injective name
  empty : name "" = ""

instance : CoeFun Renaming fun _ => String → String := ⟨Renaming.name⟩

namespace Renaming

variable (f : Renaming)

@[simp] theorem apply_inj {name name' : String} : f name = f name' ↔ name = name' :=
  f.injective.eq_iff

@[simp] theorem apply_eq_empty_iff {name : String} : f name = "" ↔ name = "" :=
  f.injective.eq_iff' f.empty

/-- Two names take each other's place. -/
def swap (first second : String) (hfirst : first ≠ "") (hsecond : second ≠ "") :
    Renaming where
  name := Equiv.swap first second
  injective := (Equiv.swap first second).injective
  empty := Equiv.swap_apply_of_ne_of_ne hfirst.symm hsecond.symm

@[simp] theorem mem_map {name : String} {names : List String} :
    f name ∈ names.map f ↔ name ∈ names :=
  List.mem_map_of_injective f.injective

end Renaming

/-! ## What is renamed -/

section

variable (f g : Renaming)

def TriggerRecord.rename (record : TriggerRecord) : TriggerRecord :=
  { record with name := g record.name }

def ReactionRecord.rename (record : ReactionRecord) : ReactionRecord :=
  { record with triggers := record.triggers.map g }

def StateRecord.rename (record : StateRecord) : StateRecord :=
  { record with
    name := f record.name
    parent := f record.parent
    enter := record.enter.rename g
    exit := record.exit.rename g }

def TransitionRecord.rename (record : TransitionRecord) : TransitionRecord where
  source := f record.source
  target := f record.target
  trigger := g record.trigger

/-- The states of the records renamed by `f`, and the triggers by `g`. -/
def ChartRecords.rename (records : ChartRecords) : ChartRecords where
  name := records.name
  triggers := records.triggers.map (TriggerRecord.rename g)
  states := records.states.map (StateRecord.rename f g)
  transitions := records.transitions.map (TransitionRecord.rename f g)

def Trigger.rename (trigger : Trigger) : Trigger :=
  { trigger with name := g trigger.name }

def State.rename (state : State) : State :=
  { state with name := f state.name }

def Chart.rename (chart : Chart) : Chart :=
  { chart with
    triggers := chart.triggers.map (Trigger.rename g)
    states := chart.states.map (State.rename f)
    triggerNames := chart.triggerNames.map g
    stateNames := chart.stateNames.map f }

/-- The same error with other names; a transition is shown as `text`. -/
def ResolutionError.rename (text : String) : ResolutionError → ResolutionError
  | .duplicateTrigger name => .duplicateTrigger (g name)
  | .triggerSignature trigger cause => .triggerSignature (g trigger) cause
  | .duplicateState name => .duplicateState (f name)
  | .unexistentParent state parent => .unexistentParent (f state) (f parent)
  | .alreadyChild parent child => .alreadyChild (f parent) (f child)
  | .parentCycle state path => .parentCycle (f state) (path.map f)
  | .unknownReactionTrigger state kind trigger =>
    .unknownReactionTrigger (f state) kind (g trigger)
  | .unknownSourceState _ state => .unknownSourceState text (f state)
  | .unknownTargetState _ state => .unknownTargetState text (f state)
  | .unknownTrigger _ trigger => .unknownTrigger text (g trigger)

def Scope.rename : Scope → Scope
  | .roots => .roots
  | .childrenOf parent => .childrenOf (f parent)

def ValidationError.rename : ValidationError → ValidationError
  | .noRoots => .noRoots
  | .noInitial scope => .noInitial (scope.rename f)
  | .duplicateInitial scope first second =>
    .duplicateInitial (scope.rename f) (f first) (f second)

end

/-- The text of the transition at an index. -/
def transitionText (transitions : List TransitionRecord) (index : Nat) : String :=
  transitions[index]?.elim "" TransitionRecord.text

/-! ## First faults and their places -/

section

variable {ε : Type}

/-- The check that refuses first, and the place of the first thing it refuses. -/
structure FirstFaultAt (faults : List (Nat → ε → Prop)) (check index : Nat)
    (error : ε) : Prop where
  fault : ∃ Fault, faults[check]? = some Fault ∧ Fault index error ∧
    ∀ earlier < index, ∀ other, ¬ Fault earlier other
  earlier : ∀ Fault ∈ faults.take check, Faultless Fault

theorem firstFaultOf_iff_exists_at {faults : List (Nat → ε → Prop)} {error : ε} :
    FirstFaultOf faults error ↔
      ∃ check index, FirstFaultAt faults check index error := by
  induction faults with
  | nil =>
      simp only [FirstFaultOf, false_iff]
      rintro ⟨check, index, ⟨Fault, hFault, -⟩, -⟩
      cases hFault
  | cons Fault later ih =>
      rw [FirstFaultOf, ih]
      constructor
      · rintro (⟨index, hfault, hclean⟩ | ⟨hfaultless, check, index, hfault, hearlier⟩)
        · exact ⟨0, index, ⟨Fault, rfl, hfault, hclean⟩, by simp⟩
        · exact ⟨check + 1, index, hfault,
            List.forall_mem_cons.mpr ⟨hfaultless, hearlier⟩⟩
      · rintro ⟨check, index, ⟨Found, hFound, hfault, hclean⟩, hearlier⟩
        cases check with
        | zero =>
            cases hFound
            exact Or.inl ⟨index, hfault, hclean⟩
        | succ check =>
            rw [List.take_succ_cons, List.forall_mem_cons] at hearlier
            exact Or.inr ⟨hearlier.1, check, index,
              ⟨Found, hFound, hfault, hclean⟩, hearlier.2⟩

/-- Two checks that refuse at the same places, with an error of the one told
otherwise by the other. -/
def RefusesAlike (tell : Nat → ε → ε) (Fault Fault' : Nat → ε → Prop) : Prop :=
  ∀ index error', Fault' index error' ↔
    ∃ error, Fault index error ∧ error' = tell index error

theorem RefusesAlike.clean {tell : Nat → ε → ε} {Fault Fault' : Nat → ε → Prop}
    (halike : RefusesAlike tell Fault Fault') {index : Nat}
    (hclean : ∀ error, ¬ Fault index error) (error' : ε) :
    ¬ Fault' index error' := by
  rw [halike]
  rintro ⟨error, hfault, -⟩
  exact hclean error hfault

theorem FirstFaultAt.told {tell : Nat → ε → ε}
    {faults faults' : List (Nat → ε → Prop)}
    (halike : List.Forall₂ (RefusesAlike tell) faults faults')
    {check index : Nat} {error : ε}
    (hfirst : FirstFaultAt faults check index error) :
    FirstFaultAt faults' check index (tell index error) := by
  obtain ⟨⟨Fault, hFault, hfault, hclean⟩, hearlier⟩ := hfirst
  constructor
  · obtain ⟨hcheck, rfl⟩ := List.getElem?_eq_some_iff.mp hFault
    have hcheck' : check < faults'.length := halike.length_eq ▸ hcheck
    have hrefuses := List.Forall₂.get halike hcheck hcheck'
    refine ⟨faults'[check], List.getElem?_eq_getElem hcheck',
      (hrefuses index _).mpr ⟨error, hfault, rfl⟩, fun before hlt => ?_⟩
    exact hrefuses.clean (hclean before hlt)
  · intro Fault' hmem index
    obtain ⟨Fault, hFault, hrefuses⟩ :=
      exists_mem_left_of_forall₂ (List.forall₂_take check halike) hmem
    exact hrefuses.clean (hearlier Fault hFault index)

end
/-! ## Renamed faults -/

section

variable (f g : Renaming)

theorem TriggerRecord.names_rename (records : List TriggerRecord) :
    TriggerRecord.names (records.map (TriggerRecord.rename g)) =
      (TriggerRecord.names records).map g := by
  simp [TriggerRecord.rename, Function.comp_def]

theorem StateRecord.names_rename (records : List StateRecord) :
    StateRecord.names (records.map (StateRecord.rename f g)) =
      (StateRecord.names records).map f := by
  simp [StateRecord.rename, Function.comp_def]

theorem getElem?_map_eq_some_iff {names : List String} {place : Nat}
    {name : String} :
    (names.map f)[place]? = some (f name) ↔ names[place]? = some name := by
  simp [List.getElem?_map]

theorem namesAt_map_iff {names found' : List String} {places : List Nat} :
    NamesAt (names.map f) places found' ↔
      ∃ found, NamesAt names places found ∧ found' = found.map f := by
  constructor
  · intro hfound'
    induction hfound' with
    | nil => exact ⟨[], .nil, rfl⟩
    | @cons place name' places found' hname' _ ih =>
        obtain ⟨name, hname, rfl⟩ := by
          simpa only [List.getElem?_map, Option.map_eq_some_iff] using hname'
        obtain ⟨found, hfound, rfl⟩ := ih
        exact ⟨name :: found, .cons hname hfound, rfl⟩
  · rintro ⟨found, hfound, rfl⟩
    rw [NamesAt, List.forall₂_map_right_iff]
    exact hfound.imp fun _ _ hname => (getElem?_map_eq_some_iff f).mpr hname

theorem declaredParent_rename (records : List StateRecord) :
    DeclaredParent (records.map (StateRecord.rename f g)) = DeclaredParent records := by
  funext child parent
  simp only [DeclaredParent, StateRecord.names_rename]
  simp [StateRecord.rename]

theorem firstUndeclared_map_iff {declared names : List String} {name' : String} :
    FirstUndeclared (declared.map g) (names.map g) name' ↔
      ∃ name, FirstUndeclared declared names name ∧ name' = g name := by
  induction names with
  | nil => simp [FirstUndeclared]
  | cons first names ih =>
      rw [List.map_cons]
      simp only [firstUndeclared_cons_iff, Renaming.mem_map, ih]
      constructor
      · rintro (⟨hfirst, rfl⟩ | ⟨hfirst, name, hname, rfl⟩)
        · exact ⟨first, Or.inl ⟨hfirst, rfl⟩, rfl⟩
        · exact ⟨name, Or.inr ⟨hfirst, hname⟩, rfl⟩
      · rintro ⟨name, ⟨hfirst, rfl⟩ | ⟨hfirst, hname⟩, rfl⟩
        · exact Or.inl ⟨hfirst, rfl⟩
        · exact Or.inr ⟨hfirst, name, hname, rfl⟩

/-- The words for an error at an index, where `text` shows the transitions. -/
def renamedAt (text : Nat → String) (index : Nat) (error : ResolutionError) :
    ResolutionError :=
  error.rename f g (text index)

variable (text : Nat → String)

theorem getElem?_map_of_eq_some {α β : Type} {items : List α} {index : Nat}
    {item : α} (change : α → β) (hitem : items[index]? = some item) :
    (items.map change)[index]? = some (change item) := by
  rw [List.getElem?_map, hitem, Option.map_some]

theorem exists_of_getElem?_map {α β : Type} {items : List α} {index : Nat}
    {image : β} {change : α → β} (himage : (items.map change)[index]? = some image) :
    ∃ item, items[index]? = some item ∧ change item = image := by
  rwa [List.getElem?_map, Option.map_eq_some_iff] at himage

theorem TriggerRecord.fault_alike (records : List TriggerRecord) :
    RefusesAlike (renamedAt f g text) (TriggerRecord.Fault records)
      (TriggerRecord.Fault (records.map (TriggerRecord.rename g))) := by
  have hearlier : ∀ (record : TriggerRecord) index,
      (record.rename g).name ∈ (names (records.map (rename g))).take index ↔
        record.name ∈ (names records).take index := by
    intro record index
    rw [names_rename, ← List.map_take]
    exact g.mem_map
  intro index error'
  constructor
  · rintro (⟨hrecord', hduplicate⟩ | ⟨hrecord', hnew, hparse⟩)
    · obtain ⟨record, hrecord, rfl⟩ := exists_of_getElem?_map hrecord'
      exact ⟨_, .duplicate hrecord ((hearlier record index).mp hduplicate), rfl⟩
    · obtain ⟨record, hrecord, rfl⟩ := exists_of_getElem?_map hrecord'
      exact ⟨_, .signature hrecord (mt (hearlier record index).mpr hnew) hparse,
        rfl⟩
  · rintro ⟨error, ⟨hrecord, hduplicate⟩ | ⟨hrecord, hnew, hparse⟩, rfl⟩
    · exact .duplicate (getElem?_map_of_eq_some (rename g) hrecord)
        ((hearlier _ index).mpr hduplicate)
    · exact .signature (getElem?_map_of_eq_some (rename g) hrecord)
        (mt (hearlier _ index).mp hnew) hparse

theorem StateRecord.nameFault_alike (records : List StateRecord) :
    RefusesAlike (renamedAt f g text) (StateRecord.NameFault records)
      (StateRecord.NameFault (records.map (StateRecord.rename f g))) := by
  have hearlier : ∀ (record : StateRecord) index,
      (record.rename f g).name ∈ (names (records.map (rename f g))).take index ↔
        record.name ∈ (names records).take index := by
    intro record index
    rw [names_rename, ← List.map_take]
    exact f.mem_map
  intro index error'
  constructor
  · rintro ⟨hrecord', hduplicate⟩
    obtain ⟨record, hrecord, rfl⟩ := exists_of_getElem?_map hrecord'
    exact ⟨_, .duplicate hrecord ((hearlier record index).mp hduplicate), rfl⟩
  · rintro ⟨error, ⟨hrecord, hduplicate⟩, rfl⟩
    exact .duplicate (getElem?_map_of_eq_some (rename f g) hrecord)
      ((hearlier _ index).mpr hduplicate)

theorem StateRecord.parentFault_alike (records : List StateRecord) :
    RefusesAlike (renamedAt f g text) (StateRecord.ParentFault records)
      (StateRecord.ParentFault (records.map (StateRecord.rename f g))) := by
  have hroot : ∀ record : StateRecord,
      (record.rename f g).parent = "" ↔ record.parent = "" :=
    fun record => f.apply_eq_empty_iff
  have hdeclared : ∀ record : StateRecord,
      (record.rename f g).parent ∈ names (records.map (rename f g)) ↔
        record.parent ∈ names records := by
    intro record
    rw [names_rename]
    exact f.mem_map
  intro index error'
  constructor
  · rintro (⟨hrecord', hchild, hundeclared⟩ | ⟨hrecord', hclosed, hpassed, hpath⟩)
    · obtain ⟨record, hrecord, rfl⟩ := exists_of_getElem?_map hrecord'
      exact ⟨_, .unexistent hrecord (mt (hroot record).mpr hchild)
        (mt (hdeclared record).mpr hundeclared), rfl⟩
    · obtain ⟨record, hrecord, rfl⟩ := exists_of_getElem?_map hrecord'
      rw [declaredParent_rename] at hclosed
      rw [names_rename, namesAt_map_iff] at hpath
      obtain ⟨path, hpath, rfl⟩ := hpath
      exact ⟨_, .cycle hrecord hclosed hpassed hpath, rfl⟩
  · rintro ⟨error, ⟨hrecord, hchild, hundeclared⟩ |
      ⟨hrecord, hclosed, hpassed, hpath⟩, rfl⟩
    · exact .unexistent (getElem?_map_of_eq_some (rename f g) hrecord)
        (mt (hroot _).mp hchild) (mt (hdeclared _).mp hundeclared)
    · refine .cycle (getElem?_map_of_eq_some (rename f g) hrecord) ?_ hpassed ?_
      · rwa [declaredParent_rename]
      · rw [names_rename, namesAt_map_iff]
        exact ⟨_, hpath, rfl⟩

theorem StateRecord.reactionFault_alike (triggers : List String)
    (records : List StateRecord) :
    RefusesAlike (renamedAt f g text) (StateRecord.ReactionFault triggers records)
      (StateRecord.ReactionFault (triggers.map g)
        (records.map (StateRecord.rename f g))) := by
  have hdeclared : ∀ names : List String,
      (∀ name ∈ names.map g, name ∈ triggers.map g) ↔
        ∀ name ∈ names, name ∈ triggers := by
    simp
  intro index error'
  constructor
  · rintro (⟨hrecord', hfirst⟩ | ⟨hrecord', henter, hfirst⟩)
    · obtain ⟨record, hrecord, rfl⟩ := exists_of_getElem?_map hrecord'
      obtain ⟨trigger, hundeclared, rfl⟩ := (firstUndeclared_map_iff g).mp hfirst
      exact ⟨_, .enter hrecord hundeclared, rfl⟩
    · obtain ⟨record, hrecord, rfl⟩ := exists_of_getElem?_map hrecord'
      obtain ⟨trigger, hundeclared, rfl⟩ := (firstUndeclared_map_iff g).mp hfirst
      exact ⟨_, .exit hrecord ((hdeclared _).mp henter) hundeclared, rfl⟩
  · rintro ⟨error, ⟨hrecord, hfirst⟩ | ⟨hrecord, henter, hfirst⟩, rfl⟩
    · exact .enter (getElem?_map_of_eq_some (rename f g) hrecord)
        ((firstUndeclared_map_iff g).mpr ⟨_, hfirst, rfl⟩)
    · exact .exit (getElem?_map_of_eq_some (rename f g) hrecord)
        ((hdeclared _).mpr henter)
        ((firstUndeclared_map_iff g).mpr ⟨_, hfirst, rfl⟩)

/-- A transition that is refused is shown as the renamed record has it. -/
theorem TransitionRecord.fault_alike (states triggers : List String)
    (records : List TransitionRecord) :
    RefusesAlike
      (renamedAt f g (transitionText (records.map (TransitionRecord.rename f g))))
      (TransitionRecord.Fault states triggers records)
      (TransitionRecord.Fault (states.map f) (triggers.map g)
        (records.map (TransitionRecord.rename f g))) := by
  have htext : ∀ {index record}, records[index]? = some record →
      transitionText (records.map (rename f g)) index = (record.rename f g).text := by
    intro index record hrecord
    rw [transitionText, getElem?_map_of_eq_some (rename f g) hrecord,
      Option.elim_some]
  have hstate : ∀ name, f name ∈ states.map f ↔ name ∈ states := fun _ => f.mem_map
  have htriggers : ∀ name, g name ∈ triggers.map g ↔ name ∈ triggers :=
    fun _ => g.mem_map
  have hnull : ∀ name, g name = "" ↔ name = "" := fun _ => g.apply_eq_empty_iff
  intro index error'
  constructor
  · rintro (⟨hrecord', hsource⟩ | ⟨hrecord', hsource, htarget⟩ |
      ⟨hrecord', hsource, htarget, hevent, htrigger⟩)
    · obtain ⟨record, hrecord, rfl⟩ := exists_of_getElem?_map hrecord'
      refine ⟨_, .source hrecord (mt (hstate _).mpr hsource), ?_⟩
      rw [renamedAt, htext hrecord]
      rfl
    · obtain ⟨record, hrecord, rfl⟩ := exists_of_getElem?_map hrecord'
      refine ⟨_, .target hrecord ((hstate _).mp hsource)
        (mt (hstate _).mpr htarget), ?_⟩
      rw [renamedAt, htext hrecord]
      rfl
    · obtain ⟨record, hrecord, rfl⟩ := exists_of_getElem?_map hrecord'
      refine ⟨_, .trigger hrecord ((hstate _).mp hsource) ((hstate _).mp htarget)
        (mt (hnull _).mpr hevent) (mt (htriggers _).mpr htrigger), ?_⟩
      rw [renamedAt, htext hrecord]
      rfl
  · rintro ⟨error, ⟨hrecord, hsource⟩ | ⟨hrecord, hsource, htarget⟩ |
      ⟨hrecord, hsource, htarget, hevent, htrigger⟩, rfl⟩ <;>
      rw [renamedAt, htext hrecord]
    · exact .source (getElem?_map_of_eq_some (rename f g) hrecord)
        (mt (hstate _).mp hsource)
    · exact .target (getElem?_map_of_eq_some (rename f g) hrecord)
        ((hstate _).mpr hsource) (mt (hstate _).mp htarget)
    · exact .trigger (getElem?_map_of_eq_some (rename f g) hrecord)
        ((hstate _).mpr hsource) ((hstate _).mpr htarget) (mt (hnull _).mp hevent)
        (mt (htriggers _).mp htrigger)

theorem ChartRecords.faults_alike (records : ChartRecords) :
    List.Forall₂
      (RefusesAlike
        (renamedAt f g (transitionText (records.rename f g).transitions)))
      records.faults (records.rename f g).faults := by
  rw [faults, faults, rename, TriggerRecord.names_rename,
    StateRecord.names_rename]
  exact .cons (TriggerRecord.fault_alike f g _ _)
    (.cons (StateRecord.nameFault_alike f g _ _)
      (.cons (StateRecord.parentFault_alike f g _ _)
        (.cons (StateRecord.reactionFault_alike f g _ _ _)
          (.cons (TransitionRecord.fault_alike f g _ _ _) .nil))))

end

end Statecharts
