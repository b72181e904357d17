import Mathlib.Tactic

/-!
# Sweeps over records

Every part of resolution goes over its records in order, changes a table at
each of them and stops at the first record that does not resolve.  Such a
sweep is described from outside by two things: what is wrong at an index, as
the records alone tell it, and what holds of the table in front of an index.
If every step fails exactly as told and otherwise keeps the invariant, then
the whole sweep fails exactly with the fault of the first faulty index.

The induction over the records is done here once.  A part of resolution
supplies its rule, which is about a single step.  Checks that keep no table,
of one thing or of every item of a list, have their first fault as well, and
one after another they fail with the first fault of them all.
-/

namespace Statecharts

variable {ε ρ σ : Type}

theorem Except.ok_bind {α β : Type} (value : α) (next : α → Except ε β) :
    (Except.ok value >>= next) = next value := rfl

theorem Except.bind_eq_ok_iff {α β : Type} {first : Except ε α}
    {next : α → Except ε β} {result : β} :
    (first >>= next) = .ok result ↔
      ∃ value, first = .ok value ∧ next value = .ok result := by
  cases first <;> simp [bind, Except.bind]

theorem Except.check_bind_eq_ok_iff {α : Type} {check : Except ε Unit}
    {next : Unit → Except ε α} {result : α} :
    (check >>= next) = .ok result ↔ check = .ok () ∧ next () = .ok result := by
  rw [Except.bind_eq_ok_iff]
  simp only [Unique.exists_iff, PUnit.default_eq_unit]

theorem Except.map_eq_ok_iff {α β : Type} {result : Except ε α} {f : α → β}
    {value : β} :
    result.map f = .ok value ↔ ∃ read, result = .ok read ∧ f read = value := by
  cases result <;> simp [Except.map]

theorem Except.mapError_eq_ok_iff {α δ : Type} {result : Except ε α}
    {f : ε → δ} {value : α} :
    result.mapError f = .ok value ↔ result = .ok value := by
  cases result <;> simp [Except.mapError]

theorem Except.mapError_eq_error_iff {α δ : Type} {result : Except ε α}
    {f : ε → δ} {error : δ} :
    result.mapError f = .error error ↔
      ∃ cause, result = .error cause ∧ error = f cause := by
  cases result <;> simp [Except.mapError, eq_comm]

theorem Except.bind_eq_error_iff {α β : Type} {first : Except ε α}
    {next : α → Except ε β} {error : ε} :
    (first >>= next) = .error error ↔
      first = .error error ∨
        ∃ value, first = .ok value ∧ next value = .error error := by
  cases first <;> simp [bind, Except.bind]

theorem forM_cons {m : Type → Type} [Monad m] {α : Type} (visit : α → m Unit)
    (item : α) (items : List α) :
    (item :: items).forM visit = (visit item >>= fun _ => items.forM visit) := rfl

theorem forM_eq_ok_iff {α : Type} {check : α → Except ε Unit}
    {items : List α} :
    items.forM check = .ok () ↔ ∀ item ∈ items, check item = .ok () := by
  induction items with
  | nil => simp [pure, Except.pure]
  | cons item items ih =>
      rw [forM_cons, Except.check_bind_eq_ok_iff, List.forall_mem_cons, ih]

theorem exists_mem_of_forM_eq_error {α : Type} {check : α → Except ε Unit}
    {items : List α} {error : ε} (herror : items.forM check = .error error) :
    ∃ item ∈ items, check item = .error error := by
  induction items with
  | nil => cases herror
  | cons item items ih =>
      rw [forM_cons, Except.bind_eq_error_iff] at herror
      rcases herror with hfirst | ⟨_, -, hlater⟩
      · exact ⟨item, List.mem_cons_self, hfirst⟩
      · obtain ⟨other, hother, hcheck⟩ := ih hlater
        exact ⟨other, List.mem_cons_of_mem item hother, hcheck⟩

theorem exists_mem_left_of_forall₂ {α β : Type} {R : α → β → Prop}
    {left : List α} {right : List β} (hrelated : List.Forall₂ R left right)
    {item : β} (hitem : item ∈ right) : ∃ other ∈ left, R other item := by
  induction hrelated with
  | nil => simp at hitem
  | @cons first image left right hfirst _ ih =>
      rcases List.mem_cons.mp hitem with rfl | hlater
      · exact ⟨first, List.mem_cons_self, hfirst⟩
      · obtain ⟨other, hother, hrelated⟩ := ih hlater
        exact ⟨other, List.mem_cons_of_mem first hother, hrelated⟩

theorem mapM_eq_some_map {α β : Type} {read : α → Option β} {f : α → β}
    {items : List α} (hitems : ∀ item ∈ items, read item = some (f item)) :
    items.mapM read = some (items.map f) := by
  induction items with
  | nil => rfl
  | cons item items ih =>
      rw [List.forall_mem_cons] at hitems
      rw [List.mapM_cons, hitems.1, ih hitems.2]
      rfl

theorem nodup_iff_notMem_take {α : Type} {items : List α} :
    items.Nodup ↔
      ∀ index item, items[index]? = some item → item ∉ items.take index := by
  constructor
  · intro hnodup index item hitem hearlier
    obtain ⟨earlier, hlt, hsame⟩ := List.mem_take_iff_getElem.mp hearlier
    obtain ⟨hindex, rfl⟩ := List.getElem?_eq_some_iff.mp hitem
    have heq : earlier = index := hnodup.getElem_inj_iff.mp hsame
    omega
  · intro hnew
    refine List.pairwise_iff_getElem.mpr fun earlier index hearlier hindex hlt => ?_
    intro heq
    apply hnew index items[index] (List.getElem?_eq_getElem hindex)
    exact List.mem_take_iff_getElem.mpr ⟨earlier, by omega, heq⟩

/-- Goes over records, the first of which has the given index. -/
def sweep (step : σ → Nat → ρ → Except ε σ) (table : σ) (index : Nat) :
    List ρ → Except ε σ
  | [] => .ok table
  | record :: rest => do
    let next ← step table index record
    sweep step next (index + 1) rest

theorem foldlM_eq_sweep (step : σ → ρ → Except ε σ) (table : σ) (index : Nat)
    (records : List ρ) :
    records.foldlM step table =
      sweep (fun table _ record => step table record) table index records := by
  induction records generalizing table index with
  | nil => rfl
  | cons record rest ih =>
      simp only [List.foldlM_cons, sweep]
      congr
      funext next
      exact ih next (index + 1)

/-- A fault in front of which there is no other. -/
def FirstFault (Fault : Nat → ε → Prop) (error : ε) : Prop :=
  ∃ index, Fault index error ∧
    ∀ earlier < index, ∀ other, ¬ Fault earlier other

def Faultless (Fault : Nat → ε → Prop) : Prop :=
  ∀ index error, ¬ Fault index error

/-- What one step of a sweep does, told by faults and an invariant. -/
structure StepRule (step : σ → Nat → ρ → Except ε σ) (records : List ρ)
    (Fault : Nat → ε → Prop) (Inv : Nat → σ → Prop) : Prop where
  bound : ∀ {index error}, Fault index error → index < records.length
  fails_iff : ∀ {index record table}, records[index]? = some record →
    Inv index table → ∀ error,
      step table index record = .error error ↔ Fault index error
  keeps : ∀ {index record table next}, records[index]? = some record →
    Inv index table → step table index record = .ok next →
      Inv (index + 1) next

namespace StepRule

variable {step : σ → Nat → ρ → Except ε σ} {records : List ρ}
  {Fault : Nat → ε → Prop} {Inv : Nat → σ → Prop}

/-- A step that goes through shows that there is no fault at its index. -/
theorem faultless_below_succ (rule : StepRule step records Fault Inv)
    {index : Nat} {record : ρ} {table next : σ}
    (hrecord : records[index]? = some record) (hinv : Inv index table)
    (hstep : step table index record = .ok next)
    (hbefore : ∀ earlier < index, ∀ other, ¬ Fault earlier other) :
    ∀ earlier < index + 1, ∀ other, ¬ Fault earlier other := by
  intro earlier hearlier other hfault
  by_cases hlast : earlier = index
  · subst earlier
    have hfails := (rule.fails_iff hrecord hinv other).mpr hfault
    rw [hstep] at hfails
    cases hfails
  · exact hbefore earlier (by omega) other hfault

/-- The sweep over the records that are left, when none before them is faulty.
A step that fails names the only fault of its index. -/
private theorem sweep_from (rule : StepRule step records Fault Inv)
    (before rest : List ρ) {table : σ}
    (hrecords : records = before ++ rest) (hinv : Inv before.length table)
    (hbefore : ∀ earlier < before.length, ∀ other, ¬ Fault earlier other) :
    (∀ result, sweep step table before.length rest = .ok result →
      Inv records.length result ∧ Faultless Fault) ∧
    (∀ error, sweep step table before.length rest = .error error →
      ∃ index, (∀ other, Fault index other ↔ other = error) ∧
        ∀ earlier < index, ∀ other, ¬ Fault earlier other) := by
  induction rest generalizing before table with
  | nil =>
      have hlength : records.length = before.length := by simp [hrecords]
      refine ⟨fun result hresult => ?_, fun error herror => by cases herror⟩
      cases hresult
      rw [hlength]
      refine ⟨hinv, fun index error hfault => ?_⟩
      have hbound := rule.bound hfault
      exact hbefore index (by omega) error hfault
  | cons record rest ih =>
      have hrecord : records[before.length]? = some record := by
        simp [hrecords]
      cases hstep : step table before.length record with
      | error fault =>
          refine ⟨fun result hresult => ?_, fun error herror => ?_⟩
          · simp [sweep, hstep, bind, Except.bind] at hresult
          · have hfault : fault = error := by
              simpa [sweep, hstep, bind, Except.bind] using herror
            refine ⟨before.length, fun other => ?_, hbefore⟩
            rw [← rule.fails_iff hrecord hinv other, hstep, ← hfault]
            simp [eq_comm]
      | ok next =>
          have hnext : Inv (before ++ [record]).length next := by
            simpa using rule.keeps hrecord hinv hstep
          have hclean : ∀ earlier < (before ++ [record]).length,
              ∀ other, ¬ Fault earlier other := by
            rw [List.length_append]
            exact rule.faultless_below_succ hrecord hinv hstep hbefore
          have hrest := ih (before ++ [record]) (by simp [hrecords]) hnext hclean
          simpa [sweep, hstep, bind, Except.bind] using hrest

theorem sweep_ok (rule : StepRule step records Fault Inv) {table result : σ}
    (hinv : Inv 0 table) (hresult : sweep step table 0 records = .ok result) :
    Inv records.length result ∧ Faultless Fault :=
  (rule.sweep_from [] records rfl hinv (by simp)).1 result hresult

theorem sweep_error_iff (rule : StepRule step records Fault Inv) {table : σ}
    (hinv : Inv 0 table) (error : ε) :
    sweep step table 0 records = .error error ↔ FirstFault Fault error := by
  have hfrom := rule.sweep_from [] records rfl hinv (by simp)
  simp only [List.length_nil] at hfrom
  constructor
  · intro herror
    obtain ⟨index, honly, hclean⟩ := hfrom.2 error herror
    exact ⟨index, (honly error).mpr rfl, hclean⟩
  · intro hfirst
    rcases hfirst with ⟨index, hfault, hclean⟩
    cases hresult : sweep step table 0 records with
    | ok result => exact absurd hfault ((hfrom.1 result hresult).2 index error)
    | error other =>
        obtain ⟨index', honly, hclean'⟩ := hfrom.2 other hresult
        have hother := (honly other).mpr rfl
        have heq : index = index' := by
          rcases Nat.lt_trichotomy index index' with hlt | heq | hgt
          · exact absurd hfault (hclean' index hlt error)
          · exact heq
          · exact absurd hother (hclean index' hgt other)
        subst index'
        rw [(honly error).mp hfault]

end StepRule

/-! ## Sweeps one after another -/

/-- The first fault of the first faulty sweep. -/
def FirstFaultOf : List (Nat → ε → Prop) → ε → Prop
  | [], _ => False
  | Fault :: later, error =>
      FirstFault Fault error ∨ Faultless Fault ∧ FirstFaultOf later error

theorem firstFault_or_faultless (Fault : Nat → ε → Prop) :
    (∃ error, FirstFault Fault error) ∨ Faultless Fault := by
  classical
  by_cases hfaulty : ∃ index error, Fault index error
  · obtain ⟨error, herror⟩ := Nat.find_spec hfaulty
    refine Or.inl ⟨error, Nat.find hfaulty, herror, ?_⟩
    intro earlier hlt other hother
    exact Nat.find_min hfaulty hlt ⟨other, hother⟩
  · exact Or.inr fun index error hfault => hfaulty ⟨index, error, hfault⟩

theorem exists_firstFaultOf_iff (faults : List (Nat → ε → Prop)) :
    (∃ error, FirstFaultOf faults error) ↔
      ¬ ∀ Fault ∈ faults, Faultless Fault := by
  induction faults with
  | nil => simp [FirstFaultOf]
  | cons Fault later ih =>
      simp only [FirstFaultOf, exists_or, exists_and_left, ih,
        List.forall_mem_cons, not_and]
      constructor
      · intro hfirst hfaultless
        rcases hfirst with ⟨error, index, hfault, -⟩ | ⟨-, hlater⟩
        · exact absurd hfault (hfaultless index error)
        · exact hlater
      · intro hfaulty
        rcases firstFault_or_faultless Fault with hfirst | hfaultless
        · exact Or.inl hfirst
        · exact Or.inr ⟨hfaultless, hfaulty hfaultless⟩

theorem exists_ok_iff_faultless {α : Type} {result : Except ε α}
    {faults : List (Nat → ε → Prop)}
    (herror : ∀ error, result = .error error ↔ FirstFaultOf faults error) :
    (∃ value, result = .ok value) ↔ ∀ Fault ∈ faults, Faultless Fault := by
  have hfaultless := (exists_firstFaultOf_iff faults).not_left
  simp only [← herror] at hfaultless
  rw [← hfaultless]
  cases result <;> simp

theorem exists_fault_of_firstFaultOf {faults : List (Nat → ε → Prop)}
    {error : ε} (hfirst : FirstFaultOf faults error) :
    ∃ Fault ∈ faults, ∃ index, Fault index error := by
  induction faults with
  | nil => cases hfirst
  | cons Fault later ih =>
      rcases hfirst with ⟨index, hfault, -⟩ | ⟨-, hlater⟩
      · exact ⟨Fault, List.mem_cons_self, index, hfault⟩
      · obtain ⟨Other, hmem, hother⟩ := ih hlater
        exact ⟨Other, List.mem_cons_of_mem Fault hmem, hother⟩

theorem firstFaultOf_append_iff {faults later : List (Nat → ε → Prop)}
    {error : ε} :
    FirstFaultOf (faults ++ later) error ↔
      FirstFaultOf faults error ∨
        (∀ Fault ∈ faults, Faultless Fault) ∧ FirstFaultOf later error := by
  induction faults with
  | nil => simp [FirstFaultOf]
  | cons Fault faults ih =>
      rw [List.cons_append, FirstFaultOf, FirstFaultOf, ih, and_or_left,
        List.forall_mem_cons, and_assoc, or_assoc]

theorem firstFaultOf_singleton_iff {Fault : Nat → ε → Prop} {error : ε} :
    FirstFaultOf [Fault] error ↔ FirstFault Fault error := by
  simp [FirstFaultOf]

theorem ok_error_iff_firstFaultOf {α : Type} {value : α} (error : ε) :
    (.ok value : Except ε α) = .error error ↔ FirstFaultOf [] error := by
  simp [FirstFaultOf]

/-- Sweeps followed by others fail with the first fault of them all. -/
theorem bind_error_iff_firstFaultOf {α β : Type} {first : Except ε α}
    {next : α → Except ε β} (faults later : List (Nat → ε → Prop))
    (hfirst : ∀ error, first = .error error ↔ FirstFaultOf faults error)
    (hnext : ∀ value, first = .ok value →
      ∀ error, next value = .error error ↔ FirstFaultOf later error)
    (error : ε) :
    (first >>= next) = .error error ↔ FirstFaultOf (faults ++ later) error := by
  rw [Except.bind_eq_error_iff, firstFaultOf_append_iff, hfirst]
  refine or_congr_right ⟨?_, ?_⟩
  · intro herror
    rcases herror with ⟨value, hvalue, herror⟩
    refine ⟨?_, (hnext value hvalue error).mp herror⟩
    by_contra hfaulty
    obtain ⟨other, hother⟩ := (exists_firstFaultOf_iff faults).mpr hfaulty
    rw [(hfirst other).mpr hother] at hvalue
    cases hvalue
  · intro hlater
    cases hvalue : first with
    | error other =>
        have hother := (hfirst other).mp hvalue
        exact absurd hlater.1 ((exists_firstFaultOf_iff faults).mp ⟨other, hother⟩)
    | ok value => exact ⟨value, rfl, (hnext value hvalue error).mpr hlater.2⟩

/-! ## Single checks and checks of every item -/

section Items

variable {α β : Type}

/-- What one check refuses. -/
def Once (Fault : ε → Prop) (index : Nat) (error : ε) : Prop :=
  index = 0 ∧ Fault error

theorem firstFault_once_iff {Fault : ε → Prop} {error : ε} :
    FirstFault (Once Fault) error ↔ Fault error := by
  constructor
  · rintro ⟨_, ⟨-, hfault⟩, -⟩
    exact hfault
  · intro hfault
    exact ⟨0, ⟨rfl, hfault⟩, fun _ hearlier => absurd hearlier (Nat.not_lt_zero _)⟩

theorem firstFaultOf_once_iff {Fault : ε → Prop} {error : ε} :
    FirstFaultOf [Once Fault] error ↔ Fault error :=
  firstFaultOf_singleton_iff.trans firstFault_once_iff

/-- What a check refuses that is made of every item of a list. -/
def FaultAt (items : List α) (Fault : α → ε → Prop) (index : Nat) (error : ε) :
    Prop :=
  ∃ item, items[index]? = some item ∧ Fault item error

theorem firstFault_nil {Fault : α → ε → Prop} {error : ε} :
    ¬ FirstFault (FaultAt [] Fault) error := by
  rintro ⟨index, ⟨item, hitem, -⟩, -⟩
  cases hitem

theorem firstFault_cons_iff {Fault : α → ε → Prop} {item : α} {items : List α}
    {error : ε} :
    FirstFault (FaultAt (item :: items) Fault) error ↔
      Fault item error ∨
        (∀ other, ¬ Fault item other) ∧ FirstFault (FaultAt items Fault) error := by
  constructor
  · rintro ⟨index, ⟨found, hfound, hfault⟩, hclean⟩
    cases index with
    | zero =>
        cases hfound
        exact Or.inl hfault
    | succ index =>
        refine Or.inr ⟨fun other hother => ?_, index, ⟨found, hfound, hfault⟩, ?_⟩
        · exact hclean 0 (Nat.succ_pos index) other ⟨item, rfl, hother⟩
        · intro earlier hearlier
          exact hclean (earlier + 1) (Nat.succ_lt_succ hearlier)
  · rintro (hfault | ⟨hfirst, index, hfault, hclean⟩)
    · exact ⟨0, ⟨item, rfl, hfault⟩,
        fun _ hearlier => absurd hearlier (Nat.not_lt_zero _)⟩
    · refine ⟨index + 1, hfault, fun earlier hearlier other => ?_⟩
      cases earlier with
      | zero =>
          rintro ⟨found, hfound, hother⟩
          cases hfound
          exact hfirst other hother
      | succ earlier => exact hclean earlier (Nat.lt_of_succ_lt_succ hearlier) other

theorem mapM_error_iff {decode : α → Except ε β} {Fault : α → ε → Prop}
    {items : List α}
    (hitem : ∀ item ∈ items, ∀ error, decode item = .error error ↔
      Fault item error) {error : ε} :
    items.mapM decode = .error error ↔ FirstFault (FaultAt items Fault) error := by
  induction items with
  | nil => simp [firstFault_nil, pure, Except.pure]
  | cons item items ih =>
      rw [List.forall_mem_cons] at hitem
      rw [firstFault_cons_iff, ← ih hitem.2, ← hitem.1 error, List.mapM_cons,
        Except.bind_eq_error_iff]
      simp only [← hitem.1]
      cases decode item <;>
        simp [Except.bind_eq_error_iff, pure, Except.pure]

theorem forM_error_iff {check : α → Except ε Unit} {Fault : α → ε → Prop}
    {items : List α}
    (hitem : ∀ item ∈ items, ∀ error, check item = .error error ↔
      Fault item error) {error : ε} :
    items.forM check = .error error ↔ FirstFault (FaultAt items Fault) error := by
  induction items with
  | nil => simp [firstFault_nil, pure, Except.pure]
  | cons item items ih =>
      rw [List.forall_mem_cons] at hitem
      rw [firstFault_cons_iff, ← ih hitem.2, ← hitem.1 error]
      rw [forM_cons, Except.bind_eq_error_iff]
      simp only [← hitem.1]
      cases check item <;> simp

end Items

end Statecharts
