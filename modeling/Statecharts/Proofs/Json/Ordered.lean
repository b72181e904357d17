import Statecharts.Proofs.Json.ReadBack

/-!
# Values with fields in order

An object has each key once, and its keys are in ascending order.  Every value
that is read from a text is of this kind, whatever the order of the fields in
the text, and so is every value that is read back.
-/

namespace Statecharts.Json

/-- Values in which every object lists its fields in ascending order. -/
inductive Ordered : Json → Prop
  | null : Ordered .null
  | bool (value : Bool) : Ordered (.bool value)
  | number (value : JsonNumber) : Ordered (.number value)
  | string (text : String) : Ordered (.string text)
  | array {items : List Json} (hitems : ∀ item ∈ items, Ordered item) :
      Ordered (.array items)
  | object {fields : List (String × Json)}
      (hkeys : (fields.map Prod.fst).Pairwise (· < ·))
      (hfields : ∀ field ∈ fields, Ordered field.2) : Ordered (.object fields)

theorem Readable.ordered {levels : Nat} {json : Json}
    (hreadable : Readable levels json) : json.Ordered := by
  induction hreadable with
  | null => exact .null
  | bool => exact .bool _
  | string => exact .string _
  | array _ ih => exact .array ih
  | object hkeys _ ih => exact .object hkeys ih

/-! ## Fields -/

theorem mem_insertField {key : String} {value : Json}
    {fields : List (String × Json)} {field : String × Json}
    (hfield : field ∈ insertField key value fields) :
    field = (key, value) ∨ field ∈ fields := by
  induction fields with
  | nil => exact Or.inl (List.mem_singleton.mp hfield)
  | cons first fields ih =>
      rw [insertField] at hfield
      split at hfield
      · exact List.mem_cons.mp hfield
      split at hfield
      · exact (List.mem_cons.mp hfield).imp_right (List.mem_cons_of_mem first)
      · rcases List.mem_cons.mp hfield with rfl | hlater
        · exact Or.inr List.mem_cons_self
        · exact (ih hlater).imp_right (List.mem_cons_of_mem first)

theorem insertField_ascending {key : String} {value : Json}
    {fields : List (String × Json)}
    (hkeys : fields.Pairwise fun field later => field.1 < later.1) :
    (insertField key value fields).Pairwise fun field later =>
      field.1 < later.1 := by
  induction fields with
  | nil => exact List.pairwise_singleton _ _
  | cons first fields ih =>
      obtain ⟨hfirst, hrest⟩ := List.pairwise_cons.mp hkeys
      rw [insertField]
      split
      next hlt =>
        refine List.pairwise_cons.mpr ⟨?_, hkeys⟩
        refine List.forall_mem_cons.mpr ⟨hlt, fun later hlater => ?_⟩
        exact String.lt_trans hlt (hfirst later hlater)
      split
      next hsame => exact List.pairwise_cons.mpr ⟨hsame ▸ hfirst, hrest⟩
      next hlt hne =>
        refine List.pairwise_cons.mpr ⟨fun later hlater => ?_, ih hrest⟩
        rcases mem_insertField hlater with rfl | hlater
        · by_contra hnot
          exact hne (String.le_antisymm (String.not_lt.mp hnot) (String.not_lt.mp hlt))
        · exact hfirst later hlater

theorem Ordered.insertField {key : String} {value : Json}
    {fields : List (String × Json)} (hfields : (Json.object fields).Ordered)
    (hvalue : value.Ordered) :
    (Json.object (insertField key value fields)).Ordered := by
  cases hfields with
  | object hkeys hfields =>
      rw [List.pairwise_map] at hkeys
      refine .object (List.pairwise_map.mpr (insertField_ascending hkeys)) ?_
      intro field hfield
      rcases mem_insertField hfield with rfl | hfield
      · exact hvalue
      · exact hfields field hfield

/-! ## Reading -/

theorem readWord_value {cursor : Cursor} {value json : Json}
    {expected : List Char} {later : Cursor}
    (hread : readWord cursor value expected = .ok (json, later)) :
    json = value := by
  induction expected generalizing cursor with
  | nil =>
      cases hread
      rfl
  | cons c expected ih =>
      rw [readWord] at hread
      split at hread
      · cases hread
      split at hread
      · exact ih hread
      · cases hread

/-- What is read within a bound is ordered, if what was read before it is. -/
theorem ordered_within (bound : Nat) :
    (∀ depth cursor json later,
      readValue bound depth cursor = .ok (json, later) → json.Ordered) ∧
    (∀ depth isFirst read cursor json later, (∀ item ∈ read, item.Ordered) →
      readItems bound depth isFirst read cursor = .ok (json, later) →
      json.Ordered) ∧
    ∀ depth isFirst fields cursor json later, (Json.object fields).Ordered →
      readFields bound depth isFirst fields cursor = .ok (json, later) →
      json.Ordered := by
  -- Values, items and fields call each other with a smaller bound.
  induction bound with
  | zero =>
      refine ⟨?_, ?_, ?_⟩
      · intro _ _ _ _ hread
        cases hread
      · intro _ _ _ _ _ _ _ hread
        cases hread
      · intro _ _ _ _ _ _ _ hread
        cases hread
  | succ bound ih =>
      obtain ⟨hvalue, hitems, hfields⟩ := ih
      refine ⟨?_, ?_, ?_⟩
      · intro depth cursor json later hread
        rw [readValue] at hread
        simp only at hread
        split at hread
        next => cases hread
        next => exact readWord_value hread ▸ .null
        next => exact readWord_value hread ▸ .bool true
        next => exact readWord_value hread ▸ .bool false
        next =>
          obtain ⟨number, -, hnumber⟩ := Except.map_eq_ok_iff.mp hread
          cases hnumber
          exact .number _
        next =>
          obtain ⟨text, -, htext⟩ := Except.map_eq_ok_iff.mp hread
          cases htext
          exact .string _
        next =>
          split at hread
          · cases hread
          · cases hread
          · exact hitems _ _ _ _ _ _ (by simp) hread
        next =>
          split at hread
          · cases hread
          · cases hread
          · exact hfields _ _ _ _ _ _ (.object .nil (by simp)) hread
        next =>
          split at hread
          · obtain ⟨number, -, hnumber⟩ := Except.map_eq_ok_iff.mp hread
            cases hnumber
            exact .number _
          · cases hread
      · intro depth isFirst read cursor json later hbefore hread
        rw [readItems, Except.bind_eq_ok_iff] at hread
        obtain ⟨⟨more, place⟩, -, hread⟩ := hread
        cases more with
        | false =>
            cases hread
            exact .array fun item hitem => hbefore item (List.mem_reverse.mp hitem)
        | true =>
            obtain ⟨⟨item, place⟩, hitem, hread⟩ := Except.bind_eq_ok_iff.mp hread
            refine hitems _ _ _ _ _ _ ?_ hread
            exact List.forall_mem_cons.mpr ⟨hvalue _ _ _ _ hitem, hbefore⟩
      · intro depth isFirst fields cursor json later hbefore hread
        rw [readFields, Except.bind_eq_ok_iff] at hread
        obtain ⟨⟨more, place⟩, -, hread⟩ := hread
        cases more with
        | false =>
            cases hread
            exact hbefore
        | true =>
            obtain ⟨⟨key, place⟩, -, hread⟩ := Except.bind_eq_ok_iff.mp hread
            obtain ⟨place, -, hread⟩ := Except.bind_eq_ok_iff.mp hread
            obtain ⟨⟨value, place⟩, hfield, hread⟩ := Except.bind_eq_ok_iff.mp hread
            exact hfields _ _ _ _ _ _
              (hbefore.insertField (hvalue _ _ _ _ hfield)) hread

/-- Whatever is read from a text is ordered. -/
theorem ordered_of_read {text : String} {json : Json}
    (hread : read text = .ok json) : json.Ordered := by
  unfold read at hread
  obtain ⟨⟨value, cursor⟩, hvalue, hrest⟩ := Except.bind_eq_ok_iff.mp hread
  simp only at hrest
  split at hrest
  · cases hrest
    exact (ordered_within _).1 _ _ _ _ hvalue
  · cases hrest

end Statecharts.Json
