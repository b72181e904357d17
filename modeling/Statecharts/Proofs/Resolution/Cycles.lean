import Statecharts.Proofs.Resolution.FirstFault

/-!
# Cycles of declared parents

States are linked in declaration order, so a cycle of parents is closed by
the link of its greatest state, and it is found then, whatever its shape.
The cycle that is reported is the one whose greatest state comes first among
those of all cycles, read from that state upwards.

The argument rotates a cycle so that it begins with its greatest state.  The
others were then linked before, which is just what a fault of a parent asks.
-/

namespace Statecharts

variable {records : List StateRecord} {index : Nat}

theorem IsCycle.exists_greatest {R : StateId → StateId → Prop}
    {cycle : Cycle StateId} (hcycle : IsCycle R cycle) :
    ∃ (greatest : StateId) (others : List StateId),
      cycle = ↑(greatest :: others) ∧
        ∀ other ∈ others, other < greatest := by
  induction cycle using Cycle.induction_on with
  | nil => exact absurd rfl hcycle.nonempty
  | cons head tail _ =>
      obtain ⟨greatest, hmem, hgreatest⟩ :=
        (head :: tail).toFinset.exists_max_image id ⟨head, by simp⟩
      rw [List.mem_toFinset] at hmem
      obtain ⟨others, hothers⟩ := exists_eq_coe_cons (Cycle.mem_coe_iff.mpr hmem)
      refine ⟨greatest, others, hothers, fun other hother => ?_⟩
      have hon : other ∈ ((head :: tail : List StateId) : Cycle StateId) := by
        rw [hothers]
        exact Cycle.mem_coe_iff.mpr (List.mem_cons_of_mem greatest hother)
      have hle : other ≤ greatest :=
        hgreatest other (List.mem_toFinset.mpr (Cycle.mem_coe_iff.mp hon))
      have hnodup := hcycle.nodup
      rw [hothers, Cycle.nodup_coe_iff, List.nodup_cons] at hnodup
      have hne : other ≠ greatest := by
        intro heq
        exact hnodup.1 (heq ▸ hother)
      exact Nat.lt_of_le_of_ne hle hne

theorem exists_namesAt {places : List Nat}
    (hplaces : ∀ place ∈ places, place < records.length) :
    ∃ found, NamesAt (StateRecord.names records) places found := by
  induction places with
  | nil => exact ⟨[], .nil⟩
  | cons place places ih =>
      rw [List.forall_mem_cons] at hplaces
      obtain ⟨found, hfound⟩ := ih hplaces.2
      have hname : (StateRecord.names records)[place]? =
          some records[place].name := by
        simp [hplaces.1]
      exact ⟨_, .cons hname hfound⟩

theorem isCycle_declaredParent_iff
    (hnames : (StateRecord.names records).Nodup) {others : List StateId}
    (hothers : ∀ other ∈ others, other < index) :
    IsCycle (DeclaredParent records) ↑(index :: others) ↔
      (index :: (others ++ [index])).IsChain (DeclaredParent records) := by
  rw [← climbs_declaredParent? hnames, isCycle_iff_walk,
    Walk.closed_iff_isChain, and_iff_right]
  exact fun hmem => Nat.lt_irrefl index (hothers index hmem)

theorem lt_of_isChain_declaredParent (states : List StateId) {last : StateId}
    (hchain : (states ++ [last]).IsChain (DeclaredParent records)) :
    ∀ state ∈ states, state < records.length := by
  induction states with
  | nil => simp
  | cons state states ih =>
      rw [List.cons_append, List.isChain_cons] at hchain
      rw [List.forall_mem_cons]
      obtain ⟨next, hnext⟩ := exists_head?_concat states last
      exact ⟨(hchain.1 next hnext).lt.1, ih hchain.2⟩

theorem StateRecord.ParentFault.exists_cycle
    (hnames : (StateRecord.names records).Nodup)
    (hdeclared : ParentsDeclared records) {error : ResolutionError}
    (hfault : StateRecord.ParentFault records index error) :
    ∃ record others path, records[index]? = some record ∧
      error = .parentCycle record.name path ∧
      IsCycle (DeclaredParent records) ↑(index :: others) ∧
      (∀ other ∈ others, other < index) ∧
      NamesAt (StateRecord.names records) (index :: (others ++ [index])) path := by
  cases hfault with
  | unexistent hrecord hchild hundeclared =>
      have hmem := List.mem_of_getElem? hrecord
      exact absurd (hdeclared _ hmem hchild) hundeclared
  | @cycle record others path hrecord hclosed hothers hpath =>
      exact ⟨record, others, path, hrecord, rfl,
        (isCycle_declaredParent_iff hnames hothers).mpr hclosed, hothers, hpath⟩

/-- The greatest state of a cycle is faulty: the others were linked before. -/
theorem exists_parentFault_of_isCycle
    (hnames : (StateRecord.names records).Nodup) {others : List StateId}
    (hcycle : IsCycle (DeclaredParent records) ↑(index :: others))
    (hothers : ∀ other ∈ others, other < index) :
    ∃ error, StateRecord.ParentFault records index error := by
  have hclosed := (isCycle_declaredParent_iff hnames hothers).mp hcycle
  have hstates := lt_of_isChain_declaredParent (index :: others) hclosed
  have hindex : index < records.length := hstates index (by simp)
  obtain ⟨path, hpath⟩ : ∃ path, NamesAt (StateRecord.names records)
      (index :: (others ++ [index])) path := by
    apply exists_namesAt
    intro place hplace
    apply hstates place
    simp only [List.mem_cons, List.mem_append, List.not_mem_nil,
      or_false] at hplace ⊢
    rcases hplace with rfl | hplace | rfl
    · exact Or.inl rfl
    · exact Or.inr hplace
    · exact Or.inl rfl
  exact ⟨_, .cycle (List.getElem?_eq_getElem hindex) hclosed hothers hpath⟩

/-! ## The reported cycle -/

/-- One name is that of a state, the other that of its parent. -/
def NamesParent (records : List StateRecord) (child parent : String) : Prop :=
  ∃ record ∈ records, record.name = child ∧ record.parent = parent

theorem NamesAt.isChain_namesParent {states : List StateId}
    {path : List String} (hpath : NamesAt (StateRecord.names records) states path)
    (hchain : states.IsChain (DeclaredParent records)) :
    path.IsChain (NamesParent records) := by
  induction hpath with
  | nil => exact .nil
  | @cons child name states path hname hrest ih =>
      cases hrest with
      | nil => exact .singleton name
      | @cons parent parentName states path hparentName hrest =>
          rw [List.isChain_cons_cons] at hchain
          rcases hchain with ⟨⟨record, hrecord, -, hparent⟩, hchain⟩
          have hnamed : record.name = name := by
            simpa [hrecord] using hname
          have hparents : record.parent = parentName :=
            Option.some.inj (hparent.symm.trans hparentName)
          refine List.isChain_cons_cons.mpr ⟨?_, ih hchain⟩
          exact ⟨record, List.mem_of_getElem? hrecord, hnamed, hparents⟩

/-- The path of a reported cycle, upwards from the greatest state of the
cycle, and that the cycles without a greater state are all this one. -/
structure ReportedCycle (records : List StateRecord) (state : String)
    (path : List String) (id : StateId) (above : List StateId) : Prop where
  cycle : IsCycle (DeclaredParent records) ↑(id :: above)
  greatest : ∀ other ∈ above, other < id
  first : ∀ other, IsCycle (DeclaredParent records) other →
    other = ↑(id :: above) ∨ ∃ later ∈ other, id < later
  named : (StateRecord.names records)[id]? = some state
  walked : NamesAt (StateRecord.names records) (id :: (above ++ [id])) path
  climbs : path.IsChain (NamesParent records)
  returns : ∃ between, path = state :: (between ++ [state]) ∧
    (state :: between).Nodup

theorem reportedCycle_of_firstFault (hnames : (StateRecord.names records).Nodup)
    (hdeclared : ParentsDeclared records) {state : String} {path : List String}
    (hfirst : FirstFault (StateRecord.ParentFault records)
      (.parentCycle state path)) :
    ∃ id above, ReportedCycle records state path id above := by
  rcases hfirst with ⟨id, hfault, hclean⟩
  obtain ⟨record, above, path', hrecord, herror, hcycle, habove, hpath⟩ :=
    hfault.exists_cycle hnames hdeclared
  cases herror
  have hstate : (StateRecord.names records)[id]? = some record.name := by
    simp [hrecord]
  have hclosed := (isCycle_declaredParent_iff hnames habove).mp hcycle
  have hstates := lt_of_isChain_declaredParent (id :: above) hclosed
  obtain ⟨between, hbetween⟩ :=
    exists_namesAt fun place hplace => hstates place (List.mem_cons_of_mem id hplace)
  have hupward : NamesAt (StateRecord.names records) (id :: above)
      (record.name :: between) := .cons hstate hbetween
  refine ⟨id, above, hcycle, habove, fun other hother => ?_, hstate, hpath,
    hpath.isChain_namesParent hclosed, between, ?_, ?_⟩
  · obtain ⟨greatest, others, rfl, hothers⟩ := hother.exists_greatest
    rcases Nat.lt_trichotomy greatest id with hlt | rfl | hgt
    · obtain ⟨error, herror⟩ := exists_parentFault_of_isCycle hnames hother hothers
      exact absurd herror (hclean greatest hlt error)
    · rw [← climbs_declaredParent? hnames] at hother hcycle
      exact Or.inl (hother.eq_of_mem hcycle
        (Cycle.mem_coe_iff.mpr List.mem_cons_self)
        (Cycle.mem_coe_iff.mpr List.mem_cons_self))
    · exact Or.inr ⟨greatest, by simp, hgt⟩
  · exact hpath.unique (.cons hstate (List.rel_append hbetween (.cons hstate .nil)))
  · exact hupward.nodup hnames (Cycle.nodup_coe_iff.mp hcycle.nodup)

namespace StateTable

variable {triggers : TriggerTable}

theorem ofRecords_parentCycle_iff
    (hnames : (StateRecord.names records).Nodup) {state : String}
    {path : List String} :
    ofRecords triggers records = .error (.parentCycle state path) ↔
      FirstFault (StateRecord.ParentFault records) (.parentCycle state path) := by
  have hnever : ¬ FirstFault
      (StateRecord.ReactionFault triggers.names records)
      (.parentCycle state path) := by
    intro hfirst
    rcases hfirst with ⟨index, hfault, -⟩
    cases hfault
  have hdistinct := (faultless_nameFault_iff records).mpr hnames
  have hnew : ¬ FirstFault (StateRecord.NameFault records)
      (.parentCycle state path) := by
    intro hfirst
    rcases hfirst with ⟨index, hfault, -⟩
    exact hdistinct index _ hfault
  rw [ofRecords_error_iff]
  simp [FirstFaultOf, hnever, hnew, hdistinct]

theorem exists_parentCycle_iff (triggers : TriggerTable)
    (hnames : (StateRecord.names records).Nodup)
    (hdeclared : ParentsDeclared records) :
    (∃ state path,
      ofRecords triggers records = .error (.parentCycle state path)) ↔
      ∃ cycle, IsCycle (DeclaredParent records) cycle := by
  simp only [ofRecords_parentCycle_iff hnames]
  constructor
  · intro hreported
    rcases hreported with ⟨state, path, hfirst⟩
    obtain ⟨id, above, hreported⟩ :=
      reportedCycle_of_firstFault hnames hdeclared hfirst
    exact ⟨_, hreported.cycle⟩
  · intro hcycle
    rcases hcycle with ⟨cycle, hcycle⟩
    obtain ⟨greatest, others, rfl, hothers⟩ := hcycle.exists_greatest
    obtain ⟨error, hfault⟩ := exists_parentFault_of_isCycle hnames hcycle hothers
    rcases firstFault_or_faultless (StateRecord.ParentFault records) with
      ⟨other, hfirst⟩ | hfaultless
    · rcases hfirst with ⟨index, hother, hclean⟩
      obtain ⟨record, above, path, hrecord, rfl, -⟩ :=
        hother.exists_cycle hnames hdeclared
      exact ⟨record.name, path, index, hother, hclean⟩
    · exact absurd hfault (hfaultless greatest error)

theorem exists_declared_root (hnames : (StateRecord.names records).Nodup)
    (hdeclared : ParentsDeclared records)
    (hacyclic : ¬ ∃ cycle, IsCycle (DeclaredParent records) cycle)
    {id : StateId} (hid : id < records.length) :
    ∃ root record, Relation.ReflTransGen (DeclaredParent records) id root ∧
      records[root]? = some record ∧ record.parent = "" := by
  rw [← climbs_declaredParent? hnames] at hacyclic
  obtain ⟨root, hreach, hroot⟩ :=
    exists_root_above (fun _ _ hparent => (declaredParent?_lt hparent).2)
      hacyclic id
  rw [climbs_declaredParent? hnames] at hreach
  have hlt : root < records.length := by
    rcases Relation.ReflTransGen.cases_tail hreach with rfl | ⟨below, -, hlast⟩
    · exact hid
    · exact hlast.lt.2
  have hrecord := List.getElem?_eq_getElem hlt
  refine ⟨root, records[root], hreach, hrecord, ?_⟩
  by_contra hchild
  rw [declaredParent?_of_child hrecord hchild, List.idxOf?_eq_none_iff] at hroot
  exact hroot (hdeclared _ (List.getElem_mem hlt) hchild)

/-- A cycle of declared parents is reported exactly when there is one, and it
is the one whose greatest state is declared first.  Where there is none, the
parents of every state end at a root. -/
theorem reports_first_cycle (triggers : TriggerTable)
    (records : List StateRecord) (hnames : (StateRecord.names records).Nodup)
    (hdeclared : ParentsDeclared records) :
    ((∃ state path,
      ofRecords triggers records = .error (.parentCycle state path)) ↔
        ∃ cycle, IsCycle (DeclaredParent records) cycle) ∧
    (∀ state path,
      ofRecords triggers records = .error (.parentCycle state path) →
        ∃ id above, ReportedCycle records state path id above) ∧
    ((∀ state path,
      ofRecords triggers records ≠ .error (.parentCycle state path)) →
        ∀ id < records.length, ∃ root record,
          Relation.ReflTransGen (DeclaredParent records) id root ∧
            records[root]? = some record ∧ record.parent = "") := by
  have hiff := exists_parentCycle_iff triggers hnames hdeclared
  refine ⟨hiff, fun state path herror => ?_, fun hnone id hid => ?_⟩
  · rw [ofRecords_parentCycle_iff hnames] at herror
    exact reportedCycle_of_firstFault hnames hdeclared herror
  · apply exists_declared_root hnames hdeclared _ hid
    rw [← hiff]
    intro hreported
    rcases hreported with ⟨state, path, herror⟩
    exact hnone state path herror

/-- Of two cycles the one without the last state is reported, though the
other has the first state. -/
theorem inner_cycle_reported :
    let records : List StateRecord :=
      [.child "P" "S", .child "Q" "R", .child "R" "Q", .child "S" "P"]
    (StateRecord.names records).Nodup ∧ ParentsDeclared records ∧
      ofRecords {} records = .error (.parentCycle "R" ["R", "Q", "R"]) ∧
      ∃ id above, ReportedCycle records "R" ["R", "Q", "R"] id above := by
  intro records
  have hnames : (StateRecord.names records).Nodup := by decide
  have hdeclared : ParentsDeclared records := by
    unfold ParentsDeclared
    decide
  have herror :
      ofRecords {} records = .error (.parentCycle "R" ["R", "Q", "R"]) := rfl
  have hreports := reports_first_cycle {} records hnames hdeclared
  exact ⟨hnames, hdeclared, herror, hreports.2.1 "R" ["R", "Q", "R"] herror⟩

end StateTable

end Statecharts
