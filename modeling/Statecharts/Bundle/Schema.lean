import Statecharts.Bundle.Read
import Statecharts.Json.Schema

/-!
# The bundle schema

The shape of a bundle: which fields it has, and what may stand in them.  Names are never empty, and
every trigger has an argument.  Whether the names in a bundle are declared is not a matter of shape:
they are looked up only when the shape is right, and the first one that is not declared is reported.
-/

namespace Statecharts.Bundle.Schema

def name : JsonSchema := .string 1

def names : JsonSchema := .array 0 name

def argument : JsonSchema :=
  .object ["type", "name"] [("name", name), ("type", .string 1)]

def trigger : JsonSchema :=
  .object ["name", "arguments"] [("arguments", .array 1 argument), ("name", name)]

def transition : JsonSchema :=
  .object ["from", "to", "trigger"] [("from", name), ("to", name), ("trigger", .nullable 1)]

def state : JsonSchema :=
  .object
    ["name", "parent", "initial", "children", "default_enter", "enter_reactions", "default_exit",
      "exit_reactions", "transitions"]
    [("children", names),
      ("default_enter", .boolean),
      ("default_exit", .boolean),
      ("enter_reactions", names),
      ("exit_reactions", names),
      ("initial", .boolean),
      ("name", name),
      ("parent", .nullable 1),
      ("transitions", .array 0 transition)]

def bundle : JsonSchema :=
  .object ["kind", "chartc_version", "name", "roots", "triggers", "states"]
    [("chartc_version", .version),
      ("kind", .constant "Statechart"),
      ("name", .string 0),
      ("roots", names),
      ("states", .array 0 state),
      ("triggers", .array 0 trigger)]

end Statecharts.Bundle.Schema

namespace Statecharts.Bundle

/-- What is wrong with a value that is meant to be a bundle. -/
def faults (json : Json) : List String :=
  match Schema.bundle.errors json with
  | [] =>
    match ofJson json with
    | .ok _ => []
    | .error error => [error.message]
  | errors => errors.map SchemaError.message

end Statecharts.Bundle
