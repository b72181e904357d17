import Statecharts.Json.Schema
import Statecharts.Proofs.Resolution.Sweep

/-!
# Values that a schema accepts

For every kind of schema, the values in which nothing is found wrong.  What is
accepted is said of the parts of a value, so that the schema of a layout is
read off one part at a time.
-/

namespace Statecharts.JsonSchema

theorem errors_constant_eq_nil_iff (text : String) (json : Json) :
    (constant text).errors json = [] ↔ json = .string text := by
  cases json <;> simp [errors, Json.asString?]

theorem errors_string_eq_nil_iff (minLength : Nat) (json : Json) :
    (string minLength).errors json = [] ↔
      ∃ text, json = .string text ∧ minLength ≤ text.length := by
  cases json <;> simp [errors]

theorem errors_version_eq_nil_iff (json : Json) :
    version.errors json = [] ↔
      ∃ text, json = .string text ∧ isVersion text = true := by
  cases json <;> simp [errors]

theorem errors_boolean_eq_nil_iff (json : Json) :
    boolean.errors json = [] ↔ ∃ value, json = .bool value := by
  cases json <;> simp [errors]

theorem errors_nullable_eq_nil_iff (minLength : Nat) (json : Json) :
    (nullable minLength).errors json = [] ↔
      json = .null ∨ ∃ text, json = .string text ∧ minLength ≤ text.length := by
  cases json <;> simp [errors]

theorem errors_array_eq_nil_iff (minItems : Nat) (schema : JsonSchema)
    (json : Json) :
    (array minItems schema).errors json = [] ↔
      ∃ items, json = .array items ∧ minItems ≤ items.length ∧
        ∀ item ∈ items, schema.errors item = [] := by
  cases json <;> simp [errors, and_comm]

theorem propertyErrors_eq_nil_iff (fields : List (String × Json))
    (properties : List (String × JsonSchema)) :
    propertyErrors fields properties = [] ↔
      ∀ property ∈ properties, ∀ value,
        fields.lookup property.1 = some value →
        property.2.errors value = [] := by
  induction properties with
  | nil => simp [propertyErrors]
  | cons property properties ih =>
      obtain ⟨key, schema⟩ := property
      rw [propertyErrors, List.append_eq_nil_iff, ih, List.forall_mem_cons]
      refine and_congr_left fun _ => ?_
      cases fields.lookup key <;> simp

theorem unknownFields_eq_nil_iff (properties : List (String × JsonSchema))
    (fields : List (String × Json)) :
    unknownFields properties fields = [] ↔
      ∀ key ∈ fields.map Prod.fst, (properties.lookup key).isSome := by
  simp [unknownFields, Option.isSome_iff_ne_none]

theorem errors_object_eq_nil_iff (required : List String)
    (properties : List (String × JsonSchema)) (json : Json) :
    (object required properties).errors json = [] ↔
      ∃ fields, json = .object fields ∧
        (∀ key ∈ required, (fields.lookup key).isSome) ∧
        (∀ property ∈ properties, ∀ value,
          fields.lookup property.1 = some value →
          property.2.errors value = []) ∧
        ∀ key ∈ fields.map Prod.fst, (properties.lookup key).isSome := by
  cases json with
  | object fields =>
      have hmissing :
          (required.filter fun key => (fields.lookup key).isNone) = [] ↔
            ∀ key ∈ required, (fields.lookup key).isSome := by
        simp [Option.isSome_iff_ne_none]
      have hunknown := unknownFields_eq_nil_iff properties fields
      simp only [errors, List.append_eq_nil_iff, List.map_eq_nil_iff, hmissing,
        propertyErrors_eq_nil_iff, ite_eq_left_iff, List.isEmpty_iff, hunknown,
        Json.object.injEq, exists_eq_left', and_assoc]
      simp
  | _ => simp [errors]

/-! ## Written layouts -/

theorem isSome_lookup_iff {α : Type} {fields : List (String × α)}
    {key : String} :
    (fields.lookup key).isSome ↔ key ∈ fields.map Prod.fst := by
  induction fields with
  | nil => simp
  | cons field fields ih =>
      rw [List.lookup_cons, List.map_cons, List.mem_cons, ← ih]
      cases hkey : key == field.1 with
      | true => exact iff_of_true rfl (Or.inl (beq_iff_eq.mp hkey))
      | false => exact (or_iff_right (beq_eq_false_iff_ne.mp hkey)).symm

theorem lookup_errors_iff_forall₂ {properties : List (String × JsonSchema)}
    {fields : List (String × Json)}
    (hkeys : fields.map Prod.fst = properties.map Prod.fst)
    (hnodup : (properties.map Prod.fst).Nodup) :
    (∀ property ∈ properties, ∀ value,
      fields.lookup property.1 = some value → property.2.errors value = []) ↔
      List.Forall₂ (fun property field => property.2.errors field.2 = [])
        properties fields := by
  induction properties generalizing fields with
  | nil =>
      obtain rfl : fields = [] := by simpa using hkeys
      simp
  | cons property properties ih =>
      obtain ⟨⟨key, value⟩, rest, rfl⟩ :=
        List.exists_cons_of_ne_nil (l := fields) (by rintro rfl; simp at hkeys)
      obtain ⟨rfl, hrest⟩ : key = property.1 ∧
          rest.map Prod.fst = properties.map Prod.fst := by
        simpa using hkeys
      obtain ⟨hnew, hnodup⟩ := List.nodup_cons.mp hnodup
      rw [List.forall_mem_cons, List.forall₂_cons, ← ih hrest hnodup]
      refine and_congr ?_ ?_
      · simp
      · refine forall₂_congr fun other hother => ?_
        have hother : other.1 ≠ property.1 := by
          rintro hsame
          exact hnew (hsame ▸ List.mem_map_of_mem hother)
        simp [List.lookup_cons, beq_eq_false_iff_ne.mpr hother]

/-- An object that has the fields of its schema in order is accepted when the
value of every field is. -/
theorem errors_layout_eq_nil_iff {required : List String}
    {properties : List (String × JsonSchema)} {fields : List (String × Json)}
    (hkeys : fields.map Prod.fst = properties.map Prod.fst)
    (hnodup : (properties.map Prod.fst).Nodup)
    (hrequired : ∀ key ∈ required, key ∈ properties.map Prod.fst) :
    (object required properties).errors (.object fields) = [] ↔
      List.Forall₂ (fun property field => property.2.errors field.2 = [])
        properties fields := by
  rw [errors_object_eq_nil_iff, ← lookup_errors_iff_forall₂ hkeys hnodup]
  constructor
  · rintro ⟨_, hfields, -, hproperties, -⟩
    cases hfields
    exact hproperties
  · intro hproperties
    refine ⟨fields, rfl, fun key hkey => ?_, hproperties, fun key hkey => ?_⟩
    · rw [← hkeys] at hrequired
      exact isSome_lookup_iff.mpr (hrequired key hkey)
    · exact isSome_lookup_iff.mpr (hkeys ▸ hkey)

end Statecharts.JsonSchema
