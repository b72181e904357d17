import Statecharts.Proofs.Bundle.ByName
import Statecharts.Proofs.Chart.Validation

/-!
# Records in another order

The places of states and triggers depend on the order in which they are
declared, and linking goes through the states in that order.  The machine that
is described does not depend on it.  What is accepted, what the bundle says of
every name, and whether each group of siblings has one initial member are all
told by the records as a collection, whatever their order.
-/

namespace Statecharts

/-- The same records, each kind in an order of its own. -/
structure ChartRecords.Reordered (records other : ChartRecords) : Prop where
  name : records.name = other.name
  triggers : records.triggers.Perm other.triggers
  states : records.states.Perm other.states
  transitions : records.transitions.Perm other.transitions

/-- States that say the same, with children and transitions in any order. -/
structure BundleState.Alike (state other : BundleState) : Prop where
  name : state.name = other.name
  parent : state.parent = other.parent
  initial : state.initial = other.initial
  children : state.children.Perm other.children
  defaultEnter : state.defaultEnter = other.defaultEnter
  enterReactions : state.enterReactions = other.enterReactions
  defaultExit : state.defaultExit = other.defaultExit
  exitReactions : state.exitReactions = other.exitReactions
  transitions : state.transitions.Perm other.transitions

/-- Bundles that describe one machine, whatever the order of declarations. -/
structure Bundle.SameMachine (bundle other : Bundle) : Prop where
  name : bundle.name = other.name
  roots : bundle.roots.Perm other.roots
  triggers : bundle.triggers.Perm other.triggers
  stateNames : (bundle.states.map BundleState.name).Perm
    (other.states.map BundleState.name)
  states : ∀ name, Option.Rel BundleState.Alike (bundle.state? name)
    (other.state? name)

variable {records other : ChartRecords} {chart : Chart}

/-! ## What is accepted -/

theorem ChartRecords.Reordered.consistent (horder : records.Reordered other)
    (hconsistent : records.Consistent) : other.Consistent := by
  have htriggers : ∀ {name}, name ∈ TriggerRecord.names records.triggers ↔
      name ∈ TriggerRecord.names other.triggers :=
    (horder.triggers.map TriggerRecord.name).mem_iff
  have hstates : ∀ {name}, name ∈ StateRecord.names records.states ↔
      name ∈ StateRecord.names other.states :=
    (horder.states.map StateRecord.name).mem_iff
  have hparents : ChildOf records.states = ChildOf other.states := by
    funext child parent
    simp only [ChildOf, NamesParent, horder.states.mem_iff]
  constructor
  case triggerNames =>
    exact (horder.triggers.map TriggerRecord.name).nodup_iff.mp
      hconsistent.triggerNames
  case signatures =>
    intro record hrecord
    exact hconsistent.signatures record (horder.triggers.mem_iff.mpr hrecord)
  case stateNames =>
    exact (horder.states.map StateRecord.name).nodup_iff.mp
      hconsistent.stateNames
  case parents =>
    intro record hrecord hchild
    exact hstates.mp
      (hconsistent.parents record (horder.states.mem_iff.mpr hrecord) hchild)
  case acyclic => exact hparents ▸ hconsistent.acyclic
  case reactions =>
    intro record hrecord name hname
    exact htriggers.mp (hconsistent.reactions record
      (horder.states.mem_iff.mpr hrecord) name hname)
  case transitions =>
    intro record hrecord
    have hresolvable := hconsistent.transitions record
      (horder.transitions.mem_iff.mpr hrecord)
    exact ⟨hstates.mp hresolvable.source, hstates.mp hresolvable.target,
      fun hevent => htriggers.mp (hresolvable.trigger hevent)⟩

theorem ChartRecords.Reordered.symm (horder : records.Reordered other) :
    other.Reordered records where
  name := horder.name.symm
  triggers := horder.triggers.symm
  states := horder.states.symm
  transitions := horder.transitions.symm

theorem ChartRecords.Reordered.consistent_iff (horder : records.Reordered other) :
    records.Consistent ↔ other.Consistent :=
  ⟨horder.consistent, horder.symm.consistent⟩

/-! ## The same machine -/

theorem StateRecord.find?_name_eq_some_iff {states : List StateRecord}
    (hnames : (StateRecord.names states).Nodup) {name : String}
    {record : StateRecord} :
    states.find? (·.name = name) = some record ↔
      record ∈ states ∧ record.name = name := by
  constructor
  · intro hfind
    exact ⟨List.mem_of_find?_eq_some hfind, by simpa using List.find?_some hfind⟩
  · rintro ⟨hrecord, rfl⟩
    cases hfind : states.find? (·.name = record.name) with
    | none =>
        have hdiffers := List.find?_eq_none.mp hfind record hrecord
        simp at hdiffers
    | some found =>
        have hname : found.name = record.name := by
          simpa using List.find?_some hfind
        rw [List.inj_on_of_nodup_map hnames (List.mem_of_find?_eq_some hfind)
          hrecord hname]

theorem ChartRecords.Reordered.find?_name (horder : records.Reordered other)
    (hnames : (StateRecord.names records.states).Nodup) (name : String) :
    records.states.find? (·.name = name) = other.states.find? (·.name = name) := by
  have hnames' := (horder.states.map StateRecord.name).nodup_iff.mp hnames
  ext record
  rw [StateRecord.find?_name_eq_some_iff hnames,
    StateRecord.find?_name_eq_some_iff hnames', horder.states.mem_iff]

theorem ChartRecords.Reordered.alike_bundled (horder : records.Reordered other)
    (record : StateRecord) :
    (record.bundled records).Alike (record.bundled other) where
  name := rfl
  parent := rfl
  initial := rfl
  children := (horder.states.filter _).map _
  defaultEnter := rfl
  enterReactions := rfl
  defaultExit := rfl
  exitReactions := rfl
  transitions := (horder.transitions.filter _).map _

theorem ChartRecords.BundledAs.state?_eq {bundle : Bundle}
    (hbundle : records.BundledAs bundle) (name : String) :
    bundle.state? name =
      (records.states.find? (·.name = name)).map (StateRecord.bundled records) := by
  rw [Bundle.state?, hbundle.states, List.find?_map]
  rfl

theorem ChartRecords.Reordered.sameMachine (horder : records.Reordered other)
    (hnames : (StateRecord.names records.states).Nodup)
    {bundle bundle' : Bundle} (hbundle : records.BundledAs bundle)
    (hbundle' : other.BundledAs bundle') : bundle.SameMachine bundle' := by
  constructor
  case name => rw [hbundle.name, hbundle'.name, horder.name]
  case roots =>
    rw [hbundle.roots, hbundle'.roots]
    exact (horder.states.filter _).map _
  case triggers =>
    exact List.rel_perm_imp
      (fun _ _ _ hdeclares hdeclares' => hdeclares.unique hdeclares')
      hbundle.triggers hbundle'.triggers horder.triggers
  case stateNames =>
    rw [hbundle.states, hbundle'.states, List.map_map, List.map_map]
    exact horder.states.map _
  case states =>
    intro name
    rw [hbundle.state?_eq, hbundle'.state?_eq, ← horder.find?_name hnames]
    cases records.states.find? (·.name = name) with
    | none => exact .none
    | some record => exact .some (horder.alike_bundled record)

/-! ## Valid groups -/

/-- One record, and no other, is marked initial among those with a parent. -/
def StateRecord.SingleInitial (states : List StateRecord) (parent : String) :
    Prop :=
  ∃! record, record ∈ states ∧ record.parent = parent ∧ record.initial = true

theorem existsUnique_place_iff {α : Type} {items : List α}
    (hitems : items.Nodup) {P : α → Prop} :
    (∃! place : Nat, ∃ item, items[place]? = some item ∧ P item) ↔
      ∃! item, item ∈ items ∧ P item := by
  constructor
  · rintro ⟨place, ⟨item, hitem, hP⟩, honly⟩
    refine ⟨item, ⟨List.mem_of_getElem? hitem, hP⟩, ?_⟩
    rintro found ⟨hfound, hP'⟩
    obtain ⟨place', hplace'⟩ := List.getElem?_of_mem hfound
    rw [honly place' ⟨found, hplace', hP'⟩, hitem] at hplace'
    exact (Option.some.inj hplace').symm
  · rintro ⟨item, ⟨hitem, hP⟩, honly⟩
    obtain ⟨place, hplace⟩ := List.getElem?_of_mem hitem
    refine ⟨place, ⟨item, hplace, hP⟩, ?_⟩
    rintro place' ⟨found, hfound, hP'⟩
    rw [honly found ⟨List.mem_of_getElem? hfound, hP'⟩] at hfound
    exact (List.getElem?_inj (List.getElem?_eq_some_iff.mp hfound).1 hitems).mp
      (hfound.trans hplace.symm)

theorem Chart.singleInitial_children_iff (hchart : records.ResolvesTo chart)
    (hnames : (StateRecord.names records.states).Nodup) {id : StateId}
    {record : StateRecord} {state : State}
    (hrecord : records.states[id]? = some record)
    (hstate : chart.states[id]? = some state) (hnamed : record.name ≠ "") :
    chart.SingleInitial state.children ↔
      StateRecord.SingleInitial records.states record.name := by
  rw [StateRecord.SingleInitial,
    ← existsUnique_place_iff (List.Nodup.of_map _ hnames)]
  refine existsUnique_congr fun child => ?_
  have hname : (StateRecord.names records.states)[id]? = some record.name := by
    simp [hrecord]
  rw [(hchart.states id record state hrecord hstate).children.mem_iff,
    DeclaredParent, hname]
  constructor
  · rintro ⟨⟨other, hother, -, hparent⟩, hinitial⟩
    rw [isInitial_eq hchart hother] at hinitial
    exact ⟨other, hother, (Option.some.inj hparent).symm, hinitial⟩
  · rintro ⟨other, hother, hparent, hinitial⟩
    rw [isInitial_eq hchart hother]
    exact ⟨⟨other, hother, hparent ▸ hnamed, hparent ▸ rfl⟩, hinitial⟩

/-- Validity by name: the roots, and the siblings of every state, have one
initial member. -/
theorem Chart.validate_ok_iff_siblings (hbuild : build records = .ok chart) :
    chart.validate = .ok () ↔
      StateRecord.SingleInitial records.states "" ∧
        ∀ child ∈ records.states,
          StateRecord.SingleInitial records.states child.parent := by
  have hchart := resolvesTo_of_build hbuild
  have hconsistent := (exists_build_ok_iff_consistent records).mp ⟨chart, hbuild⟩
  have hnames := hconsistent.stateNames
  rw [(forest_of_build hbuild).validate_ok_iff, singleInitial_roots_iff hchart,
    existsUnique_place_iff (List.Nodup.of_map _ hnames)]
  refine and_congr_right fun hroots => ⟨?_, ?_⟩
  -- The children of a state are the records that name it as their parent, so a
  -- group of siblings is told by the parent that one of them names.
  · intro hgroups child hmem
    by_cases hroot : child.parent = ""
    · rwa [hroot]
    · obtain ⟨id, hparent⟩ :=
        List.getElem?_of_mem (hconsistent.parents child hmem hroot)
      obtain ⟨record, hrecord, hname⟩ : ∃ record,
          records.states[id]? = some record ∧ record.name = child.parent := by
        simpa using hparent
      obtain ⟨state, hstate, hresolves⟩ := hchart.getElem?_state hrecord
      obtain ⟨place, hplace⟩ := List.getElem?_of_mem hmem
      have hin : place ∈ state.children :=
        (hresolves.children.mem_iff place).mpr ⟨child, hplace, hroot, hparent⟩
      have hgroup := hgroups id state hstate (List.ne_nil_of_mem hin)
      rwa [singleInitial_children_iff hchart hnames hrecord hstate (hname ▸ hroot),
        hname] at hgroup
  · intro hgroups id state hstate hchildren
    obtain ⟨record, hrecord, hresolves⟩ := hchart.getElem?_record hstate
    obtain ⟨child, hchild⟩ := List.exists_mem_of_ne_nil _ hchildren
    obtain ⟨other, hother, hlinked, hparent⟩ :=
      (hresolves.children.mem_iff child).mp hchild
    have hname : record.name = other.parent := by
      simpa [hrecord] using hparent
    rw [singleInitial_children_iff hchart hnames hrecord hstate (hname ▸ hlinked),
      hname]
    exact hgroups other (List.mem_of_getElem? hother)

theorem ChartRecords.Reordered.singleInitial_iff
    (horder : records.Reordered other) (parent : String) :
    StateRecord.SingleInitial records.states parent ↔
      StateRecord.SingleInitial other.states parent := by
  simp only [StateRecord.SingleInitial, horder.states.mem_iff]

/-! ## Two orders of one chart -/

namespace Chart

/-- Records are accepted in every order or in none.  Their charts describe one
machine, which is valid for every order or for none. -/
theorem build_in_any_order (records other : ChartRecords)
    (horder : records.Reordered other) :
    ((∃ chart, build records = .ok chart) ↔ ∃ chart, build other = .ok chart) ∧
    ∀ chart chart', build records = .ok chart → build other = .ok chart' →
      chart.bundle.SameMachine chart'.bundle ∧
      (chart.validate = .ok () ↔ chart'.validate = .ok ()) := by
  refine ⟨?_, fun chart chart' hbuild hbuild' => ⟨?_, ?_⟩⟩
  · rw [exists_build_ok_iff_consistent, exists_build_ok_iff_consistent,
      horder.consistent_iff]
  · have hconsistent :=
      (exists_build_ok_iff_consistent records).mp ⟨chart, hbuild⟩
    exact horder.sameMachine hconsistent.stateNames
      (ChartRecords.bundledAs_of_build hbuild)
      (ChartRecords.bundledAs_of_build hbuild')
  · simp only [validate_ok_iff_siblings hbuild, validate_ok_iff_siblings hbuild',
      horder.singleInitial_iff, horder.states.mem_iff]

/-- Every list turned around: each child now comes before its parent, and the
places of all states and triggers are others. -/
theorem reversed_chart_same_machine :
    let records : ChartRecords :=
      { name := "Door"
        triggers := [⟨"open", "int force"⟩, ⟨"lock", "Key key"⟩]
        states := [{ StateRecord.root "Room" with initial := true },
          { StateRecord.child "Open" "Room" with initial := true },
          (StateRecord.child "Shut" "Room").onEnter false ["lock", "open"]]
        transitions := [⟨"Open", "Shut", ""⟩, ⟨"Shut", "Open", "open"⟩,
          ⟨"Shut", "Shut", "lock"⟩] }
    let other : ChartRecords :=
      { name := "Door"
        triggers := records.triggers.reverse
        states := records.states.reverse
        transitions := records.transitions.reverse }
    ∃ chart chart', build records = .ok chart ∧ build other = .ok chart' ∧
      chart ≠ chart' ∧ chart.bundle.SameMachine chart'.bundle ∧
      chart.validate = .ok () ∧ chart'.validate = .ok () := by
  intro records other
  have horder : records.Reordered other :=
    ⟨rfl, (List.reverse_perm _).symm, (List.reverse_perm _).symm,
      (List.reverse_perm _).symm⟩
  obtain ⟨haccepted, hmachine⟩ := build_in_any_order records other horder
  obtain ⟨chart, hbuild⟩ : ∃ chart, build records = .ok chart := ⟨_, rfl⟩
  obtain ⟨chart', hbuild'⟩ := haccepted.mp ⟨chart, hbuild⟩
  obtain ⟨hsame, hvalid⟩ := hmachine chart chart' hbuild hbuild'
  have hchart : chart.validate = .ok () := by
    cases hbuild
    decide
  refine ⟨chart, chart', hbuild, hbuild', ?_, hsame, hchart, hvalid.mp hchart⟩
  cases hbuild
  cases hbuild'
  decide

end Chart

end Statecharts
