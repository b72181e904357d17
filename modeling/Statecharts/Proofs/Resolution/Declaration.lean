import Statecharts.Proofs.Resolution.Sweep
import Statecharts.Resolution.Build

/-!
# Declared triggers and states

The first sweeps give every trigger and every state its place: what is
declared stands where its record stands.  A name that was declared before is
refused, so that in the end a name is found at the one index that has it.
-/

namespace Statecharts

abbrev TriggerRecord.names (records : List TriggerRecord) : List String :=
  records.map TriggerRecord.name

abbrev StateRecord.names (records : List StateRecord) : List String :=
  records.map StateRecord.name

/-! ## Names and places -/

theorem getElem?_eq_some_inj {names : List String} (hnames : names.Nodup)
    {place place' : Nat} {name : String} (hplace : names[place]? = some name)
    (hplace' : names[place']? = some name) : place = place' :=
  (List.getElem?_inj (List.getElem?_eq_some_iff.mp hplace).1 hnames).mp
    (hplace.trans hplace'.symm)

/-- The names that stand at the given places. -/
def NamesAt (names : List String) : List Nat → List String → Prop :=
  List.Forall₂ fun place name => names[place]? = some name

theorem namesAt_map {names : List String} {name : Nat → String}
    {places : List Nat}
    (hplaces : ∀ place ∈ places, names[place]? = some (name place)) :
    NamesAt names places (places.map name) := by
  rw [NamesAt, List.forall₂_map_right_iff, List.forall₂_same]
  exact hplaces

theorem NamesAt.unique {names : List String} {places : List Nat}
    {found found' : List String} (hfound : NamesAt names places found)
    (hfound' : NamesAt names places found') : found = found' := by
  refine List.right_unique_forall₂' (fun place name name' hname hname' => ?_)
    hfound hfound'
  exact Option.some.inj (hname.symm.trans hname')

theorem NamesAt.lt {names : List String} {places : List Nat}
    {found : List String} (hfound : NamesAt names places found) :
    ∀ place ∈ places, place < names.length := by
  intro place hplace
  obtain ⟨name, -, hname⟩ := exists_mem_left_of_forall₂ hfound.flip hplace
  exact (List.getElem?_eq_some_iff.mp hname).1

theorem NamesAt.mem {names : List String} {places : List Nat}
    {found : List String} (hfound : NamesAt names places found) :
    ∀ name ∈ found, name ∈ names := by
  intro name hname
  obtain ⟨place, -, hplace⟩ := exists_mem_left_of_forall₂ hfound hname
  exact List.mem_of_getElem? hplace

theorem NamesAt.nodup {names : List String} {places : List Nat}
    {found : List String} (hfound : NamesAt names places found)
    (hnames : names.Nodup) (hplaces : places.Nodup) : found.Nodup := by
  induction hfound with
  | nil => exact .nil
  | @cons place name places found hname hrest ih =>
      rw [List.nodup_cons] at hplaces ⊢
      refine ⟨fun hmem => ?_, ih hplaces.2⟩
      obtain ⟨later, hlater, hget⟩ := exists_mem_left_of_forall₂ hrest hmem
      have hsame : place = later := getElem?_eq_some_inj hnames hname hget
      exact hplaces.1 (hsame ▸ hlater)

theorem idxOf?_eq_some_idxOf {names : List String} {name : String}
    (hname : name ∈ names) : names.idxOf? name = some (names.idxOf name) := by
  cases hplace : names.idxOf? name with
  | none => exact absurd hname (List.idxOf?_eq_none_iff.mp hplace)
  | some place => simp [List.idxOf_eq_getD_idxOf?, hplace]

/-- With distinct names the place found for a name is the one that has it. -/
theorem idxOf?_eq_some_iff_getElem? {names : List String} (hnames : names.Nodup)
    {name : String} {index : Nat} :
    names.idxOf? name = some index ↔ names[index]? = some name := by
  rw [List.idxOf?_eq_some_iff, List.getElem?_eq_some_iff]
  constructor
  · intro hfound
    rcases hfound with ⟨hindex, hname, -⟩
    exact ⟨hindex, hname⟩
  · intro hplace
    rcases hplace with ⟨hindex, hname⟩
    refine ⟨hindex, hname, fun earlier hlt hearlier => ?_⟩
    have heq : earlier = index :=
      hnames.getElem_inj_iff.mp (hearlier.trans hname.symm)
    omega

/-! ## Triggers -/

/-- What is wrong with the declaration of a trigger. -/
inductive TriggerRecord.Fault (records : List TriggerRecord) (index : Nat) :
    ResolutionError → Prop
  | duplicate {record : TriggerRecord} (hrecord : records[index]? = some record)
      (hearlier : record.name ∈ (TriggerRecord.names records).take index) :
      TriggerRecord.Fault records index (.duplicateTrigger record.name)
  | signature {record : TriggerRecord} {cause : SignatureError}
      (hrecord : records[index]? = some record)
      (hnew : record.name ∉ (TriggerRecord.names records).take index)
      (hparse : Signature.parse record.arguments = .error cause) :
      TriggerRecord.Fault records index (.triggerSignature record.name cause)

/-- A trigger has the name of its record and the arguments of its signature. -/
structure TriggerRecord.Declares (record : TriggerRecord) (trigger : Trigger) :
    Prop where
  name : trigger.name = record.name
  arguments : Signature.parse record.arguments = .ok trigger.arguments

structure TriggerTable.DeclaredUpTo (records : List TriggerRecord) (count : Nat)
    (table : TriggerTable) : Prop where
  names : table.names = (TriggerRecord.names records).take count
  triggers : List.Forall₂ TriggerRecord.Declares (records.take count)
    table.triggers

theorem TriggerTable.declare_rule (records : List TriggerRecord) :
    StepRule (fun table _ record => TriggerTable.declare table record) records
      (TriggerRecord.Fault records) (TriggerTable.DeclaredUpTo records) where
  bound := by
    intro index error hfault
    rcases hfault with ⟨hrecord, -⟩ | ⟨hrecord, -, -⟩ <;>
      exact (List.getElem?_eq_some_iff.mp hrecord).1
  fails_iff := by
    intro index record table hrecord hinv error
    simp only [TriggerTable.declare, hinv.names]
    constructor
    · intro herror
      split at herror
      next hearlier =>
        cases herror
        exact .duplicate hrecord hearlier
      next hnew =>
        split at herror
        next cause hparse =>
          cases herror
          exact .signature hrecord hnew hparse
        next => cases herror
    · intro hfault
      rcases hfault with ⟨hrecord', hearlier⟩ | ⟨hrecord', hnew, hparse⟩ <;>
        rw [hrecord] at hrecord' <;> cases hrecord'
      · rw [if_pos hearlier]
      · rw [if_neg hnew, hparse]
  keeps := by
    intro index record table next hrecord hinv hnext
    simp only [TriggerTable.declare] at hnext
    split at hnext
    next => cases hnext
    next =>
      split at hnext
      next => cases hnext
      next arguments hparse =>
        cases hnext
        constructor
        · simp [hinv.names, List.take_add_one, hrecord]
        · simp only [List.take_add_one, hrecord, Option.toList_some]
          exact List.rel_append hinv.triggers (.cons ⟨rfl, hparse⟩ .nil)

theorem TriggerTable.ofRecords_eq_sweep (records : List TriggerRecord) :
    TriggerTable.ofRecords records =
      sweep (fun table _ record => TriggerTable.declare table record) {} 0
        records :=
  foldlM_eq_sweep TriggerTable.declare {} 0 records

theorem TriggerTable.declaredUpTo_empty (records : List TriggerRecord) :
    TriggerTable.DeclaredUpTo records 0 {} :=
  ⟨rfl, .nil⟩

theorem TriggerTable.ofRecords_error_iff (records : List TriggerRecord)
    (error : ResolutionError) :
    TriggerTable.ofRecords records = .error error ↔
      FirstFault (TriggerRecord.Fault records) error := by
  rw [ofRecords_eq_sweep]
  exact (declare_rule records).sweep_error_iff (declaredUpTo_empty records) error

theorem triggerNames_nodup {records : List TriggerRecord}
    (hfaultless : Faultless (TriggerRecord.Fault records)) :
    (TriggerRecord.names records).Nodup := by
  refine nodup_iff_notMem_take.mpr fun index name hname hearlier => ?_
  obtain ⟨record, hrecord, rfl⟩ := by
    simpa only [List.getElem?_map, Option.map_eq_some_iff] using hname
  exact hfaultless index _ (.duplicate hrecord hearlier)

structure TriggerTable.Declared (records : List TriggerRecord)
    (table : TriggerTable) : Prop where
  names : table.names = TriggerRecord.names records
  triggers : List.Forall₂ TriggerRecord.Declares records table.triggers
  nodup : (TriggerRecord.names records).Nodup

theorem TriggerTable.declared_of_ofRecords {records : List TriggerRecord}
    {table : TriggerTable} (htable : TriggerTable.ofRecords records = .ok table) :
    table.Declared records := by
  rw [ofRecords_eq_sweep] at htable
  obtain ⟨hinv, hfaultless⟩ :=
    (declare_rule records).sweep_ok (declaredUpTo_empty records) htable
  refine ⟨?_, ?_, triggerNames_nodup hfaultless⟩
  · rw [hinv.names, List.take_of_length_le (by simp)]
  · simpa using hinv.triggers

/-! ## States -/

inductive StateRecord.NameFault (records : List StateRecord) (index : Nat) :
    ResolutionError → Prop
  | duplicate {record : StateRecord} (hrecord : records[index]? = some record)
      (hearlier : record.name ∈ (StateRecord.names records).take index) :
      StateRecord.NameFault records index (.duplicateState record.name)

/-- The state of a record before it is linked to others. -/
def StateRecord.bare (record : StateRecord) : State :=
  { name := record.name, initial := record.initial }

structure StateTable.DeclaredUpTo (records : List StateRecord) (count : Nat)
    (table : StateTable) : Prop where
  names : table.names = (StateRecord.names records).take count
  states : table.states = (records.take count).map StateRecord.bare
  roots : table.roots = []

theorem StateTable.declare_rule (records : List StateRecord) :
    StepRule (fun table _ record => StateTable.declare table record) records
      (StateRecord.NameFault records) (StateTable.DeclaredUpTo records) where
  bound := by
    intro index error hfault
    rcases hfault with ⟨hrecord, -⟩
    exact (List.getElem?_eq_some_iff.mp hrecord).1
  fails_iff := by
    intro index record table hrecord hinv error
    simp only [StateTable.declare, hinv.names]
    constructor
    · intro herror
      split at herror
      next hearlier =>
        cases herror
        exact .duplicate hrecord hearlier
      next => cases herror
    · intro hfault
      rcases hfault with ⟨hrecord', hearlier⟩
      rw [hrecord] at hrecord'
      cases hrecord'
      rw [if_pos hearlier]
  keeps := by
    intro index record table next hrecord hinv hnext
    simp only [StateTable.declare] at hnext
    split at hnext
    next => cases hnext
    next =>
      cases hnext
      constructor
      · simp [hinv.names, List.take_add_one, hrecord]
      · simp [hinv.states, List.take_add_one, hrecord, StateRecord.bare]
      · exact hinv.roots

theorem StateTable.declaredUpTo_empty (records : List StateRecord) :
    StateTable.DeclaredUpTo records 0 {} :=
  ⟨rfl, rfl, rfl⟩

theorem StateTable.declare_error_iff (records : List StateRecord)
    (error : ResolutionError) :
    records.foldlM StateTable.declare {} = .error error ↔
      FirstFault (StateRecord.NameFault records) error := by
  rw [foldlM_eq_sweep StateTable.declare {} 0 records]
  exact (declare_rule records).sweep_error_iff (declaredUpTo_empty records) error

theorem stateNames_nodup {records : List StateRecord}
    (hfaultless : Faultless (StateRecord.NameFault records)) :
    (StateRecord.names records).Nodup := by
  refine nodup_iff_notMem_take.mpr fun index name hname hearlier => ?_
  obtain ⟨record, hrecord, rfl⟩ := by
    simpa only [List.getElem?_map, Option.map_eq_some_iff] using hname
  exact hfaultless index _ (.duplicate hrecord hearlier)

theorem faultless_nameFault_iff (records : List StateRecord) :
    Faultless (StateRecord.NameFault records) ↔ (StateRecord.names records).Nodup := by
  refine ⟨stateNames_nodup, ?_⟩
  intro hnodup index error hfault
  rcases hfault with ⟨hrecord, hearlier⟩
  obtain ⟨earlier, hlt, hname⟩ := List.mem_take_iff_getElem.mp hearlier
  have hlength : earlier < (StateRecord.names records).length := by omega
  have hnames : (StateRecord.names records)[earlier]? =
      (StateRecord.names records)[index]? := by
    rw [List.getElem?_eq_getElem hlength, hname]
    simp [hrecord]
  have hsame := (List.getElem?_inj hlength hnodup).mp hnames
  omega

structure StateTable.Declared (records : List StateRecord)
    (table : StateTable) : Prop where
  names : table.names = StateRecord.names records
  states : table.states = records.map StateRecord.bare
  roots : table.roots = []
  nodup : (StateRecord.names records).Nodup

theorem StateTable.declared_of_foldlM {records : List StateRecord}
    {table : StateTable}
    (htable : records.foldlM StateTable.declare {} = .ok table) :
    table.Declared records := by
  rw [foldlM_eq_sweep StateTable.declare {} 0 records] at htable
  obtain ⟨hinv, hfaultless⟩ :=
    (declare_rule records).sweep_ok (declaredUpTo_empty records) htable
  refine ⟨?_, ?_, hinv.roots, stateNames_nodup hfaultless⟩
  · rw [hinv.names, List.take_of_length_le (by simp)]
  · simpa using hinv.states

end Statecharts
