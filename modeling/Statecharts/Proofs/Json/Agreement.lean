import Statecharts.Json.Agreement
import Statecharts.Proofs.Json.Ordered

/-!
# Agreement without numbers

Agreement is looser than equality for numbers only.  A value that has none
agrees with itself and with nothing else, as long as both sides list the fields
of every object in order.
-/

namespace Statecharts.Json

theorem agreesItems_iff {items others : List Json}
    (hitems : ∀ item ∈ items, ∀ other ∈ others,
      item.agrees other = true ↔ item = other) :
    agreesItems items others = true ↔ items = others := by
  induction items generalizing others with
  | nil => cases others <;> simp [agreesItems]
  | cons item items ih =>
      cases others with
      | nil => simp [agreesItems]
      | cons other others =>
          have hfirst : item.agrees other = true ↔ item = other :=
            hitems item List.mem_cons_self other List.mem_cons_self
          have hrest : agreesItems items others = true ↔ items = others := by
            apply ih
            intro item hitem other hother
            exact hitems item (List.mem_cons_of_mem _ hitem) other
              (List.mem_cons_of_mem _ hother)
          rw [agreesItems, Bool.and_eq_true, hfirst, hrest, List.cons.injEq]

theorem agreesFields_iff (fields others : List (String × Json)) :
    agreesFields fields others = true ↔
      ∀ field ∈ fields, ∃ other, others.lookup field.1 = some other ∧
        field.2.agrees other = true := by
  induction fields with
  | nil => simp [agreesFields]
  | cons field fields ih =>
      rw [agreesFields, Bool.and_eq_true, ih, List.forall_mem_cons]
      cases others.lookup field.1 <;> simp

theorem lookup_eq_some_iff_mem {fields : List (String × Json)} {key : String}
    {value : Json} (hkeys : (fields.map Prod.fst).Nodup) :
    fields.lookup key = some value ↔ (key, value) ∈ fields := by
  induction fields with
  | nil => simp
  | cons field fields ih =>
      rw [List.map_cons, List.nodup_cons] at hkeys
      rw [List.lookup_cons, List.mem_cons, ← ih hkeys.2]
      by_cases hkey : key = field.1
      · subst key
        have hlater : fields.lookup field.1 ≠ some value := by
          intro hlater
          exact hkeys.1 (List.mem_map.mpr ⟨_, (ih hkeys.2).mp hlater, rfl⟩)
        simp [hlater, Prod.ext_iff, eq_comm]
      · simp [beq_eq_false_iff_ne.mpr hkey, hkey, Prod.ext_iff]

theorem nodup_of_ascending {fields : List (String × Json)}
    (hkeys : (fields.map Prod.fst).Pairwise (· < ·)) : (fields.map Prod.fst).Nodup := by
  apply hkeys.imp
  intro key later hlt hsame
  rw [hsame] at hlt
  exact String.lt_irrefl later hlt

/-- Ascending fields are told by which of them there are. -/
theorem eq_of_subset_of_ascending {fields others : List (String × Json)}
    (hkeys : (fields.map Prod.fst).Pairwise (· < ·))
    (hkeys' : (others.map Prod.fst).Pairwise (· < ·))
    (hlength : fields.length = others.length) (hsubset : fields ⊆ others) :
    fields = others := by
  have hnodup : fields.Nodup := (nodup_of_ascending hkeys).of_map
  have hperm : fields.Perm others :=
    (hnodup.subperm hsubset).perm_of_length_le hlength.ge
  rw [List.pairwise_map] at hkeys hkeys'
  apply hperm.eq_of_pairwise _ hkeys hkeys'
  intro field other _ _ hlt hgt
  exact absurd (String.lt_trans hlt hgt) (String.lt_irrefl _)

theorem Readable.agrees_iff {levels : Nat} {json other : Json}
    (hreadable : Readable levels json) (hother : other.Ordered) :
    json.agrees other = true ↔ json = other := by
  induction hreadable generalizing other with
  | null => cases other <;> simp [agrees]
  | bool => cases other <;> simp [agrees]
  | string => cases other <;> simp [agrees]
  | @array levels items _ ih =>
      cases hother with
      | @array others hothers =>
          rw [agrees, Json.array.injEq]
          exact agreesItems_iff fun item hitem other hmem => ih item hitem (hothers other hmem)
      | _ => simp [agrees]
  | @object levels fields hkeys hfields ih =>
      cases hother with
      | @object others hkeys' hothers =>
          have hlookup : ∀ field : String × Json,
              others.lookup field.1 = some field.2 ↔ field ∈ others := fun _ =>
            lookup_eq_some_iff_mem (nodup_of_ascending hkeys')
          rw [agrees, Bool.and_eq_true, beq_iff_eq, agreesFields_iff, Json.object.injEq]
          constructor
          · rintro ⟨hlength, hfound⟩
            apply eq_of_subset_of_ascending hkeys hkeys' hlength
            intro field hfield
            obtain ⟨value, hvalue, hagrees⟩ := hfound field hfield
            have hmem : (field.1, value) ∈ others := (hlookup (field.1, value)).mp hvalue
            have hsame : field.2 = value :=
              (ih field hfield (hothers _ hmem)).mp hagrees
            rwa [← hsame] at hmem
          · rintro rfl
            refine ⟨rfl, fun field hfield => ?_⟩
            exact ⟨field.2, (hlookup field).mpr hfield,
              (ih field hfield (hothers field hfield)).mpr rfl⟩
      | _ => simp [agrees]

end Statecharts.Json
