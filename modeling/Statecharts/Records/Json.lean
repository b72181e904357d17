import Statecharts.Json.Basic
import Statecharts.Records.Basic

/-!
# Records as JSON

A record is written as an object with all of its fields.  It is read from an object, whose unknown
fields are ignored, or from an array of its fields in declaration order.  Fields with a default may
be absent; a field that is present must have the right type.
-/

namespace Statecharts

namespace Json

/-- The named fields of a record, each one absent or present; `none` if this is no record. -/
def recordFields? (names : List String) : Json → Option (List (Option Json))
  | .object fields => some (names.map (List.lookup · fields))
  | .array items =>
    if items.length ≤ names.length then
      some (items.map some ++ List.replicate (names.length - items.length) none)
    else none
  | _ => none

def orDefault {α : Type} (read? : Json → Option α) (default : α) (field? : Option Json) :
    Option α :=
  field?.elim (some default) read?

def list? {α : Type} (read? : Json → Option α) (json : Json) : Option (List α) :=
  json.asArray?.bind fun items => items.mapM read?

end Json

open Json

namespace TriggerRecord

def toJson (record : TriggerRecord) : Json :=
  .object [("arguments", .string record.arguments), ("name", .string record.name)]

def ofJson? (json : Json) : Option TriggerRecord := do
  match ← json.recordFields? ["name", "arguments"] with
  | [some name, arguments] =>
    return ⟨← name.asString?, ← orDefault asString? "" arguments⟩
  | _ => none

end TriggerRecord

namespace ReactionRecord

def toJson (record : ReactionRecord) : Json :=
  .object [("default", .bool record.default), ("triggers", .strings record.triggers)]

def ofJson? (json : Json) : Option ReactionRecord := do
  match ← json.recordFields? ["default", "triggers"] with
  | [default, triggers] =>
    return ⟨← orDefault asBool? false default, ← orDefault (list? asString?) [] triggers⟩
  | _ => none

end ReactionRecord

namespace StateRecord

def toJson (record : StateRecord) : Json :=
  .object [
    ("enter", record.enter.toJson),
    ("exit", record.exit.toJson),
    ("initial", .bool record.initial),
    ("name", .string record.name),
    ("parent", .string record.parent)]

def ofJson? (json : Json) : Option StateRecord := do
  match ← json.recordFields? ["name", "parent", "initial", "enter", "exit"] with
  | [some name, parent, initial, enter, exit] =>
    return {
      name := ← name.asString?
      parent := ← orDefault asString? "" parent
      initial := ← orDefault asBool? false initial
      enter := ← orDefault ReactionRecord.ofJson? {} enter
      exit := ← orDefault ReactionRecord.ofJson? {} exit }
  | _ => none

end StateRecord

namespace TransitionRecord

def toJson (record : TransitionRecord) : Json :=
  .object [
    ("from", .string record.source),
    ("to", .string record.target),
    ("trigger", .string record.trigger)]

def ofJson? (json : Json) : Option TransitionRecord := do
  match ← json.recordFields? ["from", "to", "trigger"] with
  | [some source, some target, trigger] =>
    return ⟨← source.asString?, ← target.asString?, ← orDefault asString? "" trigger⟩
  | _ => none

end TransitionRecord

namespace ChartRecords

def toJson (records : ChartRecords) : Json :=
  .object [
    ("name", .string records.name),
    ("states", .array (records.states.map StateRecord.toJson)),
    ("transitions", .array (records.transitions.map TransitionRecord.toJson)),
    ("triggers", .array (records.triggers.map TriggerRecord.toJson))]

def ofJson? (json : Json) : Option ChartRecords := do
  match ← json.recordFields? ["name", "triggers", "states", "transitions"] with
  | [some name, triggers, states, transitions] =>
    return {
      name := ← name.asString?
      triggers := ← orDefault (list? TriggerRecord.ofJson?) [] triggers
      states := ← orDefault (list? StateRecord.ofJson?) [] states
      transitions := ← orDefault (list? TransitionRecord.ofJson?) [] transitions }
  | _ => none

end ChartRecords

end Statecharts
