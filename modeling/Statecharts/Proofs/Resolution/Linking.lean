import Statecharts.Proofs.Chart.Walk
import Statecharts.Proofs.Resolution.Declaration

/-!
# Linked states

The second sweep links each state to its parent.  What the half-linked table
holds is told by the records alone: the states before the present one have
their declared parents, and every state has its children among them.  A walk
in the table is therefore a walk through the declared parents of states that
were already linked.  Such a walk can close a cycle only at the state of the
cycle that is declared last.
-/

namespace Statecharts

/-- The record of `child` names the state `parent` as its parent. -/
def DeclaredParent (records : List StateRecord) (child parent : StateId) :
    Prop :=
  ∃ record, records[child]? = some record ∧ record.parent ≠ "" ∧
    (StateRecord.names records)[parent]? = some record.parent

/-- Every state names no parent, or one that is declared. -/
def ParentsDeclared (records : List StateRecord) : Prop :=
  ∀ record ∈ records, record.parent ≠ "" →
    record.parent ∈ StateRecord.names records

def declaredParent? (records : List StateRecord) (child : StateId) :
    Option StateId :=
  records[child]?.bind fun record =>
    if record.parent = "" then none
    else (StateRecord.names records).idxOf? record.parent

variable {records : List StateRecord} {record : StateRecord}
  {count index : Nat}

theorem DeclaredParent.lt {child parent : StateId}
    (hparent : DeclaredParent records child parent) :
    child < records.length ∧ parent < records.length := by
  rcases hparent with ⟨record, hrecord, -, hname⟩
  refine ⟨(List.getElem?_eq_some_iff.mp hrecord).1, ?_⟩
  simpa using (List.getElem?_eq_some_iff.mp hname).1

theorem declaredParent?_of_root (hrecord : records[index]? = some record)
    (hroot : record.parent = "") : declaredParent? records index = none := by
  simp [declaredParent?, hrecord, hroot]

theorem declaredParent?_of_child (hrecord : records[index]? = some record)
    (hchild : record.parent ≠ "") :
    declaredParent? records index =
      (StateRecord.names records).idxOf? record.parent := by
  simp [declaredParent?, hrecord, hchild]

theorem declaredParent?_lt {child parent : StateId}
    (hparent : declaredParent? records child = some parent) :
    child < records.length ∧ parent < records.length := by
  obtain ⟨record, hrecord, hname⟩ := Option.bind_eq_some_iff.mp hparent
  refine ⟨(List.getElem?_eq_some_iff.mp hrecord).1, ?_⟩
  simp only [Option.ite_none_left_eq_some, List.idxOf?_eq_some_iff] at hname
  rcases hname with ⟨-, hlt, -⟩
  simpa using hlt

theorem climbs_declaredParent? (hnames : (StateRecord.names records).Nodup) :
    Climbs (declaredParent? records) = DeclaredParent records := by
  funext child parent
  apply propext
  simp only [Climbs, declaredParent?, DeclaredParent, Option.bind_eq_some_iff,
    Option.ite_none_left_eq_some, idxOf?_eq_some_iff_getElem? hnames]

/-! ## Faults of parents -/

/-- What is wrong with the parent of a state: it is declared nowhere, or the
states linked before lead from it back to the state. -/
inductive StateRecord.ParentFault (records : List StateRecord) (index : Nat) :
    ResolutionError → Prop
  | unexistent {record : StateRecord} (hrecord : records[index]? = some record)
      (hchild : record.parent ≠ "")
      (hundeclared : record.parent ∉ StateRecord.names records) :
      StateRecord.ParentFault records index (.unexistentParent record.name record.parent)
  | cycle {record : StateRecord} {passed : List StateId} {path : List String}
      (hrecord : records[index]? = some record)
      (hclosed : (index :: (passed ++ [index])).IsChain (DeclaredParent records))
      (hpassed : ∀ state ∈ passed, state < index)
      (hpath : NamesAt (StateRecord.names records)
        (index :: (passed ++ [index])) path) :
      StateRecord.ParentFault records index (.parentCycle record.name path)

theorem StateRecord.ParentFault.index_lt {error : ResolutionError}
    (hfault : StateRecord.ParentFault records index error) : index < records.length := by
  rcases hfault with ⟨hrecord, -, -⟩ | ⟨hrecord, -, -, -⟩ <;>
    exact (List.getElem?_eq_some_iff.mp hrecord).1

/-! ## Half-linked tables -/

theorem length_eq_of_getElem?_map {α β : Type} {items : List α}
    {images : List β} {f : Nat → α → β}
    (himages : ∀ index, images[index]? = items[index]?.map (f index)) :
    images.length = items.length := by
  have hmap : images = items.mapIdx f := by
    apply List.ext_getElem?
    intro index
    rw [himages, List.getElem?_mapIdx]
  rw [hmap, List.length_mapIdx]

/-- The state of a record when the first `count` records are linked. -/
def linkedState (records : List StateRecord) (count : Nat) (id : StateId)
    (record : StateRecord) : State :=
  { record.bare with
    parent := linksBelow count (declaredParent? records) id
    children := (List.range count).filter fun child =>
      declaredParent? records child = some id }

structure StateTable.LinkedUpTo (records : List StateRecord) (count : Nat)
    (table : StateTable) : Prop where
  names : table.names = StateRecord.names records
  states : ∀ id, table.states[id]? = records[id]?.map (linkedState records count id)
  roots : table.roots = (List.range count).filter fun id =>
    records[id]?.any (·.parent = "")

namespace StateTable.LinkedUpTo

variable {table : StateTable}

theorem length_states (hlinked : table.LinkedUpTo records count) :
    table.states.length = records.length :=
  length_eq_of_getElem?_map hlinked.states

theorem parentOf?_eq (hlinked : table.LinkedUpTo records count) :
    parentOf? table.states = linksBelow count (declaredParent? records) := by
  funext id
  rw [parentOf?, hlinked.states id]
  cases hrecord : records[id]? with
  | none => simp [linksBelow, declaredParent?, hrecord]
  | some record => simp [linkedState]

theorem getElem?_names (hlinked : table.LinkedUpTo records count)
    {id : StateId} (hid : id < records.length) :
    (StateRecord.names records)[id]? = some (stateName table.states id) := by
  simp [stateName, hlinked.states id, hid, linkedState, StateRecord.bare]

end StateTable.LinkedUpTo

theorem StateTable.Declared.linkedUpTo {table : StateTable}
    (hdeclared : table.Declared records) : table.LinkedUpTo records 0 := by
  refine ⟨hdeclared.names, fun id => ?_, hdeclared.roots⟩
  rw [hdeclared.states, List.getElem?_map]
  rfl

/-! ## One link -/

theorem linkedState_succ (id : StateId) (record : StateRecord) :
    linkedState records (count + 1) id record =
      { linkedState records count id record with
        parent :=
          if count = id then declaredParent? records count
          else (linkedState records count id record).parent
        children := (linkedState records count id record).children ++
          if declaredParent? records count = some id then [count] else [] } := by
  have hparent : linksBelow (count + 1) (declaredParent? records) id =
      if count = id then declaredParent? records count
      else linksBelow count (declaredParent? records) id := by
    rcases Nat.lt_trichotomy id count with hlt | rfl | hgt
    · simp [linksBelow, hlt, Nat.lt_succ_of_lt hlt, Nat.ne_of_gt hlt]
    · simp [linksBelow]
    · simp [linksBelow, Nat.not_lt_of_gt hgt, Nat.not_lt.mpr hgt, Nat.ne_of_lt hgt]
  simp only [linkedState, hparent, List.range_succ, List.filter_append,
    List.filter_cons, List.filter_nil, decide_eq_true_eq]

/-- Walks in a half-linked table from a state's parent back to the state. -/
theorem exists_walk_linksBelow_iff (hnames : (StateRecord.names records).Nodup)
    {passed : List StateId} :
    (∃ parent, declaredParent? records index = some parent ∧
      Walk (linksBelow index (declaredParent? records)) index parent passed) ↔
      (index :: (passed ++ [index])).IsChain (DeclaredParent records) ∧
        ∀ state ∈ passed, state < index := by
  simp only [walk_linksBelow_iff, ← climbs_declaredParent? hnames]
  constructor
  · intro hreturn
    rcases hreturn with ⟨parent, hparent, hwalk, hpassed⟩
    exact ⟨(Walk.closed_iff_isChain.mp ⟨parent, hparent, hwalk⟩).2, hpassed⟩
  · intro hclosed
    rcases hclosed with ⟨hchain, hpassed⟩
    have hindex : index ∉ passed := fun hmem =>
      Nat.lt_irrefl index (hpassed index hmem)
    obtain ⟨parent, hparent, hwalk⟩ :=
      Walk.closed_iff_isChain.mpr ⟨hindex, hchain⟩
    exact ⟨parent, hparent, hwalk, hpassed⟩

namespace StateTable.LinkedUpTo

variable {table : StateTable} {parent : StateId}

/-- A lineage finds every walk, for it is as long as there are states. -/
theorem mem_lineage_iff (hlinked : table.LinkedUpTo records index)
    (hindex : index < records.length) :
    index ∈ lineage table.states parent ↔
      ∃ passed, Walk (linksBelow index (declaredParent? records)) index parent
        passed := by
  constructor
  · intro hmem
    obtain ⟨passed, hwalk⟩ := exists_walk_of_mem_lineageWithin hmem
    exact ⟨passed, hlinked.parentOf?_eq ▸ hwalk⟩
  · intro hreach
    rcases hreach with ⟨passed, hwalk⟩
    rw [← hlinked.parentOf?_eq] at hwalk
    rw [← hlinked.length_states] at hindex
    exact (hwalk.lineageWithin (hwalk.length_lt hindex)).1

theorem cyclePath_eq (hlinked : table.LinkedUpTo records index)
    (hindex : index < records.length) {passed : List StateId}
    (hwalk : Walk (linksBelow index (declaredParent? records)) index parent
      passed) :
    NamesAt (StateRecord.names records) (index :: (passed ++ [index]))
      (table.cyclePath index parent) := by
  have hpassed := (walk_linksBelow_iff.mp hwalk).2
  rw [← hlinked.parentOf?_eq] at hwalk
  have hbound := hwalk.length_lt (hlinked.length_states ▸ hindex)
  have htake := (hwalk.lineageWithin hbound).2
  rw [cyclePath, lineage, htake]
  apply namesAt_map
  intro state hstate
  apply hlinked.getElem?_names
  simp only [List.mem_cons, List.mem_append, List.not_mem_nil, or_false] at hstate
  rcases hstate with rfl | hstate | rfl
  · exact hindex
  · exact Nat.lt_trans (hpassed state hstate) hindex
  · exact hindex

theorem not_isParentOf (hlinked : table.LinkedUpTo records index) :
    table.states[parent]?.elim false (·.isParentOf index) = false := by
  rw [hlinked.states parent]
  cases records[parent]? with
  | none => rfl
  | some record => simp [linkedState, State.isParentOf]

/-- Linking the state at an index: a state that was linked to nothing is no
one's child yet. -/
theorem link_eq (hlinked : table.LinkedUpTo records index)
    (hrecord : records[index]? = some record) :
    table.link index record =
      if record.parent = "" then
        .ok { table with roots := table.roots ++ [index] }
      else
        match declaredParent? records index with
        | none => .error (.unexistentParent record.name record.parent)
        | some parent =>
          if index ∈ lineage table.states parent then
            .error (.parentCycle record.name (table.cyclePath index parent))
          else .ok (table.attach index parent) := by
  have hname : stateName table.states index = record.name := by
    have hindex := (List.getElem?_eq_some_iff.mp hrecord).1
    have hnamed := hlinked.getElem?_names hindex
    rw [List.getElem?_map, hrecord] at hnamed
    exact (Option.some.inj hnamed).symm
  unfold link
  split
  next => rfl
  next hchild =>
    rw [declaredParent?_of_child hrecord hchild, stateId?, hlinked.names]
    cases (StateRecord.names records).idxOf? record.parent with
    | none => rfl
    | some parent => simp only [hlinked.not_isParentOf, hname]; simp

theorem link_root (hlinked : table.LinkedUpTo records index)
    (hrecord : records[index]? = some record) (hroot : record.parent = "") :
    LinkedUpTo records (index + 1)
      { table with roots := table.roots ++ [index] } := by
  refine ⟨hlinked.names, fun id => ?_, ?_⟩
  · have hparent := declaredParent?_of_root hrecord hroot
    rw [hlinked.states id]
    cases records[id]? with
    | none => rfl
    | some other =>
        simp only [Option.map_some, linkedState_succ, hparent]
        by_cases hid : index = id
        · simp [hid, linkedState, linksBelow]
        · simp [hid]
  · simp [hlinked.roots, List.range_succ, hrecord, hroot]

theorem link_child (hlinked : table.LinkedUpTo records index)
    (hrecord : records[index]? = some record) (hchild : record.parent ≠ "")
    (hparent : declaredParent? records index = some parent) :
    LinkedUpTo records (index + 1) (table.attach index parent) := by
  refine ⟨hlinked.names, fun id => ?_, ?_⟩
  · simp only [attach, List.getElem?_modify, hlinked.states id]
    cases records[id]? with
    | none => simp
    | some other =>
        simp only [Option.map_some, linkedState_succ, hparent]
        by_cases hid : index = id <;> by_cases habove : parent = id <;>
          simp [hid, habove]
  · have hroots : (table.attach index parent).roots = table.roots := rfl
    simp [hroots, hlinked.roots, List.range_succ, hrecord, hchild]

end StateTable.LinkedUpTo

/-! ## The sweep that links -/

theorem StateTable.link_rule (hnames : (StateRecord.names records).Nodup) :
    StepRule StateTable.link records (StateRecord.ParentFault records)
      (StateTable.LinkedUpTo records) where
  bound := StateRecord.ParentFault.index_lt
  fails_iff := by
    intro index record table hrecord hlinked error
    have hindex := (List.getElem?_eq_some_iff.mp hrecord).1
    rw [hlinked.link_eq hrecord]
    constructor
    · intro herror
      split at herror
      next => cases herror
      next hchild =>
        split at herror
        next hparent =>
          cases herror
          rw [declaredParent?_of_child hrecord hchild] at hparent
          exact .unexistent hrecord hchild (List.idxOf?_eq_none_iff.mp hparent)
        next parent hparent =>
          split at herror
          next hmem =>
            cases herror
            obtain ⟨passed, hwalk⟩ := (hlinked.mem_lineage_iff hindex).mp hmem
            obtain ⟨hclosed, hpassed⟩ :=
              (exists_walk_linksBelow_iff hnames).mp ⟨parent, hparent, hwalk⟩
            exact .cycle hrecord hclosed hpassed (hlinked.cyclePath_eq hindex hwalk)
          next => cases herror
    · intro hfault
      rcases hfault with ⟨hrecord', hchild, hundeclared⟩ |
        ⟨hrecord', hclosed, hpassed, hpath⟩ <;>
        rw [hrecord] at hrecord' <;> cases hrecord'
      · rw [if_neg hchild, declaredParent?_of_child hrecord hchild,
          List.idxOf?_eq_none_iff.mpr hundeclared]
      · obtain ⟨parent, hparent, hwalk⟩ :=
          (exists_walk_linksBelow_iff hnames).mpr ⟨hclosed, hpassed⟩
        have hchild : record.parent ≠ "" := fun hroot => by
          rw [declaredParent?_of_root hrecord hroot] at hparent
          cases hparent
        have hmem := (hlinked.mem_lineage_iff hindex).mpr ⟨_, hwalk⟩
        simp only [if_neg hchild, hparent, if_pos hmem]
        rw [hpath.unique (hlinked.cyclePath_eq hindex hwalk)]
  keeps := by
    intro index record table next hrecord hlinked hnext
    rw [hlinked.link_eq hrecord] at hnext
    split at hnext
    next hroot =>
      cases hnext
      exact hlinked.link_root hrecord hroot
    next hchild =>
      split at hnext
      next => cases hnext
      next parent hparent =>
        split at hnext
        next => cases hnext
        next =>
          cases hnext
          exact hlinked.link_child hrecord hchild hparent

theorem StateTable.linkFrom_eq_sweep (table : StateTable) (index : Nat)
    (records : List StateRecord) :
    table.linkFrom index records = sweep StateTable.link table index records := by
  induction records generalizing table index with
  | nil => rfl
  | cons record rest ih => simp only [linkFrom, sweep, ih]

theorem StateTable.Declared.linkFrom_error_iff {table : StateTable}
    (hdeclared : table.Declared records) (error : ResolutionError) :
    table.linkFrom 0 records = .error error ↔
      FirstFault (StateRecord.ParentFault records) error := by
  rw [linkFrom_eq_sweep]
  exact (link_rule hdeclared.nodup).sweep_error_iff hdeclared.linkedUpTo error

theorem StateTable.Declared.linkFrom_ok {table linked : StateTable}
    (hdeclared : table.Declared records)
    (hlinked : table.linkFrom 0 records = .ok linked) :
    linked.LinkedUpTo records records.length ∧
      Faultless (StateRecord.ParentFault records) := by
  rw [linkFrom_eq_sweep] at hlinked
  exact (link_rule hdeclared.nodup).sweep_ok hdeclared.linkedUpTo hlinked

end Statecharts
