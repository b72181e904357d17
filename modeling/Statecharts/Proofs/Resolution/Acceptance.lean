import Statecharts.Proofs.Resolution.Cycles

/-!
# Which records are accepted

Building looks at the records in order, and most of what it refuses is told
with an index.  Whether it refuses anything at all is a matter of names only:
they are distinct where they are declared, declared where they are used, and no
state is above itself.  Nothing of this depends on the places of the records.
-/

namespace Statecharts

variable {records : List StateRecord}

/-! ## Hierarchies by name -/

/-- The record of one state names the other state as its parent. -/
def ChildOf (records : List StateRecord) (child parent : String) : Prop :=
  parent ≠ "" ∧ NamesParent records child parent

theorem DeclaredParent.childOf {child parent : StateId}
    (hparent : DeclaredParent records child parent) :
    ChildOf records ((StateRecord.names records).getD child "")
      ((StateRecord.names records).getD parent "") := by
  obtain ⟨record, hrecord, hchild, hname⟩ := hparent
  have hnamed : (StateRecord.names records)[child]? = some record.name := by
    simp [hrecord]
  rw [List.getD_eq_getElem?_getD, List.getD_eq_getElem?_getD, hnamed, hname]
  exact ⟨hchild, record, List.mem_of_getElem? hrecord, rfl, rfl⟩

theorem ChildOf.declaredParent {child parent : String}
    (hnames : (StateRecord.names records).Nodup)
    (hdeclared : ParentsDeclared records)
    (hparent : ChildOf records child parent) :
    DeclaredParent records ((StateRecord.names records).idxOf child)
      ((StateRecord.names records).idxOf parent) := by
  obtain ⟨hchild, record, hmem, rfl, rfl⟩ := hparent
  obtain ⟨id, hrecord⟩ := List.getElem?_of_mem hmem
  have hnamed : (StateRecord.names records)[id]? = some record.name := by
    simp [hrecord]
  have hplace := List.getElem?_idxOf (List.mem_of_getElem? hnamed)
  rw [getElem?_eq_some_inj hnames hplace hnamed]
  exact ⟨record, hrecord, hchild,
    List.getElem?_idxOf (hdeclared record hmem hchild)⟩

theorem Walk.reflTransGen {up : StateId → Option StateId}
    {first last : StateId} {passed : List StateId}
    (hwalk : Walk up last first passed) :
    Relation.ReflTransGen (Climbs up) first last := by
  induction hwalk with
  | here => exact .refl
  | climb _ hstep _ ih => exact ih.head hstep

/-- A cycle of places is a cycle of names. -/
theorem exists_isCycle_iff (hnames : (StateRecord.names records).Nodup)
    (hdeclared : ParentsDeclared records) :
    (∃ cycle, IsCycle (DeclaredParent records) cycle) ↔
      ∃ name, Relation.TransGen (ChildOf records) name name := by
  constructor
  · rintro ⟨cycle, hcycle⟩
    obtain ⟨greatest, others, rfl, -⟩ := hcycle.exists_greatest
    rw [← climbs_declaredParent? hnames, isCycle_iff_walk] at hcycle
    obtain ⟨first, hstep, hwalk⟩ := hcycle
    have hfirst : Climbs (declaredParent? records) greatest first := hstep
    have hreturn := Relation.TransGen.head' hfirst hwalk.reflTransGen
    rw [climbs_declaredParent? hnames] at hreturn
    exact ⟨_, hreturn.lift _ fun _ _ hparent => hparent.childOf⟩
  · rintro ⟨name, hreturn⟩
    rw [← climbs_declaredParent? hnames]
    apply exists_isCycle_of_transGen
    rw [climbs_declaredParent? hnames]
    exact hreturn.lift _ fun _ _ hparent =>
      hparent.declaredParent hnames hdeclared

/-! ## What each check accepts -/

theorem faultless_triggerFault_iff (records : List TriggerRecord) :
    Faultless (TriggerRecord.Fault records) ↔
      (TriggerRecord.names records).Nodup ∧
        ∀ record ∈ records, ∃ arguments,
          Signature.parse record.arguments = .ok arguments := by
  constructor
  · intro hfaultless
    have hnames := triggerNames_nodup hfaultless
    refine ⟨hnames, fun record hmem => ?_⟩
    obtain ⟨index, hrecord⟩ := List.getElem?_of_mem hmem
    cases hparse : Signature.parse record.arguments with
    | ok arguments => exact ⟨arguments, rfl⟩
    | error cause =>
        have hnew := nodup_iff_notMem_take.mp hnames index record.name
          (by simp [hrecord])
        exact absurd (.signature hrecord hnew hparse) (hfaultless index _)
  · rintro ⟨hnames, hsignatures⟩ index error hfault
    cases hfault with
    | @duplicate record hrecord hearlier =>
        exact nodup_iff_notMem_take.mp hnames index record.name
          (by simp [hrecord]) hearlier
    | signature hrecord hnew hparse =>
        obtain ⟨arguments, harguments⟩ :=
          hsignatures _ (List.mem_of_getElem? hrecord)
        rw [hparse] at harguments
        cases harguments

theorem faultless_parentFault_iff (hnames : (StateRecord.names records).Nodup) :
    Faultless (StateRecord.ParentFault records) ↔
      ParentsDeclared records ∧
        ¬ ∃ cycle, IsCycle (DeclaredParent records) cycle := by
  constructor
  · intro hfaultless
    constructor
    · intro record hmem hchild
      obtain ⟨id, hrecord⟩ := List.getElem?_of_mem hmem
      by_contra hundeclared
      exact hfaultless id _ (.unexistent hrecord hchild hundeclared)
    · rintro ⟨cycle, hcycle⟩
      obtain ⟨greatest, others, rfl, hothers⟩ := hcycle.exists_greatest
      obtain ⟨error, hfault⟩ :=
        exists_parentFault_of_isCycle hnames hcycle hothers
      exact hfaultless greatest error hfault
  · rintro ⟨hdeclared, hacyclic⟩ index error hfault
    obtain ⟨_, others, _, -, -, hcycle, -⟩ :=
      hfault.exists_cycle hnames hdeclared
    exact hacyclic ⟨_, hcycle⟩

theorem faultless_reactionFault_iff (triggers : List String)
    (records : List StateRecord) :
    Faultless (StateRecord.ReactionFault triggers records) ↔
      ∀ record ∈ records,
        ∀ name ∈ record.enter.triggers ++ record.exit.triggers,
          name ∈ triggers := by
  simp only [List.forall_mem_append]
  constructor
  · intro hfaultless record hmem
    obtain ⟨id, hrecord⟩ := List.getElem?_of_mem hmem
    have henter : ∀ name ∈ record.enter.triggers, name ∈ triggers := by
      by_contra hundeclared
      obtain ⟨name, hfirst⟩ := exists_firstUndeclared_iff.mpr hundeclared
      exact hfaultless id _ (.enter hrecord hfirst)
    refine ⟨henter, ?_⟩
    by_contra hundeclared
    obtain ⟨name, hfirst⟩ := exists_firstUndeclared_iff.mpr hundeclared
    exact hfaultless id _ (.exit hrecord henter hfirst)
  · intro hdeclared index error hfault
    cases hfault with
    | enter hrecord hfirst =>
        exact exists_firstUndeclared_iff.mp ⟨_, hfirst⟩
          (hdeclared _ (List.mem_of_getElem? hrecord)).1
    | exit hrecord _ hfirst =>
        exact exists_firstUndeclared_iff.mp ⟨_, hfirst⟩
          (hdeclared _ (List.mem_of_getElem? hrecord)).2

theorem faultless_transitionFault_iff (states triggers : List String)
    (records : List TransitionRecord) :
    Faultless (TransitionRecord.Fault states triggers records) ↔
      ∀ record ∈ records, record.Resolvable states triggers := by
  let table : StateTable := { names := states }
  let declared : TriggerTable := { names := triggers }
  constructor
  · exact @StateTable.resolvable_of_faultless declared table records
  · intro hresolvable index error hfault
    cases hfault with
    | source hrecord hsource =>
        exact hsource (hresolvable _ (List.mem_of_getElem? hrecord)).source
    | target hrecord _ htarget =>
        exact htarget (hresolvable _ (List.mem_of_getElem? hrecord)).target
    | trigger hrecord _ _ hevent htrigger =>
        exact htrigger
          ((hresolvable _ (List.mem_of_getElem? hrecord)).trigger hevent)

/-! ## What building accepts -/

/-- Names are distinct where they are declared and declared where they are
used, signatures can be read, and no state is above itself. -/
structure ChartRecords.Consistent (records : ChartRecords) : Prop where
  triggerNames : (TriggerRecord.names records.triggers).Nodup
  signatures : ∀ record ∈ records.triggers, ∃ arguments,
    Signature.parse record.arguments = .ok arguments
  stateNames : (StateRecord.names records.states).Nodup
  parents : ParentsDeclared records.states
  acyclic : ∀ name, ¬ Relation.TransGen (ChildOf records.states) name name
  reactions : ∀ record ∈ records.states,
    ∀ name ∈ record.enter.triggers ++ record.exit.triggers,
      name ∈ TriggerRecord.names records.triggers
  transitions : ∀ record ∈ records.transitions,
    record.Resolvable (StateRecord.names records.states)
      (TriggerRecord.names records.triggers)

theorem Chart.exists_build_ok_iff_consistent (records : ChartRecords) :
    (∃ chart, build records = .ok chart) ↔ records.Consistent := by
  rw [exists_build_ok_iff]
  simp only [ChartRecords.faults, List.forall_mem_cons, List.not_mem_nil,
    false_imp_iff, implies_true, and_true, faultless_triggerFault_iff,
    faultless_nameFault_iff, faultless_reactionFault_iff,
    faultless_transitionFault_iff]
  constructor
  · rintro ⟨⟨htriggers, hsignatures⟩, hstates, hparents, hreactions,
      htransitions⟩
    obtain ⟨hdeclared, hacyclic⟩ := (faultless_parentFault_iff hstates).mp hparents
    rw [exists_isCycle_iff hstates hdeclared, not_exists] at hacyclic
    exact ⟨htriggers, hsignatures, hstates, hdeclared, hacyclic, hreactions,
      htransitions⟩
  · intro hconsistent
    have hacyclic := not_exists.mpr hconsistent.acyclic
    rw [← exists_isCycle_iff hconsistent.stateNames hconsistent.parents]
      at hacyclic
    exact ⟨⟨hconsistent.triggerNames, hconsistent.signatures⟩,
      hconsistent.stateNames,
      (faultless_parentFault_iff hconsistent.stateNames).mpr
        ⟨hconsistent.parents, hacyclic⟩,
      hconsistent.reactions, hconsistent.transitions⟩

end Statecharts
