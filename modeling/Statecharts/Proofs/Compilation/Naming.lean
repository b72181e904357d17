import Statecharts.Bundle.Write
import Statecharts.Compilation.Elaborate
import Statecharts.Proofs.Resolution.FirstFault

/-!
# The name of a chart

The name of a chart is carried along and decides nothing: records with another
name are accepted or refused for the same reasons, and what is made of them
differs in the name only, down to the one field of the bundle that holds it.
-/

namespace Statecharts

def Chart.withName (chart : Chart) (name : String) : Chart :=
  { chart with name }

/-- A JSON object with another text under `name`. -/
def Json.retitle (title : String) : Json → Json
  | .object fields =>
    .object (fields.map fun (key, value) =>
      if key = "name" then (key, .string title) else (key, value))
  | json => json

theorem Chart.toJson_withName (chart : Chart) (name : String) :
    (chart.withName name).toJson = chart.toJson.retitle name := rfl

theorem Chart.build_withName (records : ChartRecords) (name : String) :
    build { records with name } = (build records).map (·.withName name) := by
  rw [build_eq_bind, build_eq_bind]
  cases TriggerTable.ofRecords records.triggers with
  | error error => rfl
  | ok triggers =>
      rw [Except.ok_bind, Except.ok_bind]
      cases StateTable.ofRecords triggers records.states with
      | error error => rfl
      | ok states =>
          rw [Except.ok_bind, Except.ok_bind]
          cases (states.addTransitions triggers records.transitions).2 <;> rfl

theorem elaborate_renamed (name : String) (source : Source) :
    elaborate (.renamed name source) =
      (elaborate source).map (·.withName name) := by
  rw [elaborate, elaborate, Source.read]
  cases source.read with
  | error error => rfl
  | ok records =>
      simp only [Except.map, Except.mapError, Except.ok_bind, Chart.build_withName]
      cases Chart.build records with
      | error error => rfl
      | ok chart =>
          have hvalidate : (chart.withName name).validate = chart.validate := rfl
          simp only [Except.ok_bind, hvalidate]
          cases chart.validate <;> rfl

theorem elaborate_ok_iff {source : Source} {chart : Chart} :
    elaborate source = .ok chart ↔
      ∃ records, source.read = .ok records ∧ Chart.build records = .ok chart ∧
        chart.validate = .ok () := by
  simp only [elaborate, Except.bind_eq_ok_iff, Except.mapError_eq_ok_iff]
  constructor
  · rintro ⟨records, hread, built, hbuild, _, hvalid, hchart⟩
    cases hchart
    exact ⟨records, hread, hbuild, hvalid⟩
  · rintro ⟨records, hread, hbuild, hvalid⟩
    exact ⟨records, hread, chart, hbuild, (), hvalid, rfl⟩

theorem elaborate_yaml_ok_iff {origin text : String} {chart : Chart} :
    elaborate (.yaml origin text) = .ok chart ↔
      ∃ records, ChartRecords.ofYaml text = .ok records ∧
        Chart.build records = .ok chart ∧ chart.validate = .ok () := by
  simp only [elaborate_ok_iff, Source.read, Except.mapError_eq_ok_iff]

end Statecharts
