import Statecharts.Json.Print

/-!
# JSON schemas

A schema describes the shape of a value.  Checking a value against it lists everything that is
wrong: for an object the missing fields, then what is wrong within its fields in ascending order,
then the fields that are unknown.
-/

namespace Statecharts

inductive JsonSchema
  | constant (text : String)
  | string (minLength : Nat)
  /-- A string in two parts of decimal digits, with a dot between them. -/
  | version
  | boolean
  /-- A string or null. -/
  | nullable (minLength : Nat)
  | array (minItems : Nat) (items : JsonSchema)
  /-- The properties are listed in ascending order, the required ones as they are asked for. -/
  | object (required : List String) (properties : List (String × JsonSchema))

inductive SchemaError
  | missing (field : String)
  | wrongType (value : Json) (type : String)
  | unexpected (constant : String)
  | tooShort (value : Json) (minLength : Nat)
  | tooFew (value : Json) (minItems : Nat)
  | noVersion (value : Json)
  | noAlternative (value : Json)
  | unknownFields (fields : List String)
  deriving Repr

namespace SchemaError

def counted (n : Nat) (thing : String) : String :=
  s!"{n} {thing}" ++ if n = 1 then "" else "s"

def message : SchemaError → String
  | .missing field => (Json.string field).compact ++ " is a required property"
  | .wrongType value type => value.compact ++ " is not of type \"" ++ type ++ "\""
  | .unexpected constant => (Json.string constant).compact ++ " was expected"
  | .tooShort value minLength =>
    value.compact ++ " is shorter than " ++ counted minLength "character"
  | .tooFew value minItems => value.compact ++ " has less than " ++ counted minItems "item"
  | .noVersion value => value.compact ++ " does not match \"^[0-9]+\\.[0-9]+$\""
  | .noAlternative value =>
    value.compact ++ " is not valid under any of the schemas listed in the 'oneOf' keyword"
  | .unknownFields fields =>
    "Additional properties are not allowed (" ++
      ", ".intercalate (fields.map fun field => "'" ++ field ++ "'") ++
      (if fields.length = 1 then " was unexpected)" else " were unexpected)")

end SchemaError

namespace JsonSchema

def isNumeral (text : List Char) : Bool :=
  !text.isEmpty && text.all Char.isDigit

def isVersion (text : String) : Bool :=
  let major := text.toList.takeWhile (· ≠ '.')
  match text.toList.dropWhile (· ≠ '.') with
  | [] => false
  | _ :: minor => isNumeral major && isNumeral minor

def unknownFields (properties : List (String × JsonSchema)) (fields : List (String × Json)) :
    List String :=
  (fields.map Prod.fst).filter fun key => (properties.lookup key).isNone

mutual

def errors : JsonSchema → Json → List SchemaError
  | .constant text, json => if json.asString? = some text then [] else [.unexpected text]
  | .string minLength, .string text =>
    if text.length < minLength then [.tooShort (.string text) minLength] else []
  | .string _, json => [.wrongType json "string"]
  | .version, .string text => if isVersion text then [] else [.noVersion (.string text)]
  | .version, json => [.wrongType json "string"]
  | .boolean, .bool _ => []
  | .boolean, json => [.wrongType json "boolean"]
  | .nullable _, .null => []
  | .nullable minLength, .string text =>
    if text.length < minLength then [.noAlternative (.string text)] else []
  | .nullable _, json => [.noAlternative json]
  | .array minItems schema, .array items =>
    items.flatMap (errors schema) ++
      if items.length < minItems then [.tooFew (.array items) minItems] else []
  | .array _ _, json => [.wrongType json "array"]
  | .object required properties, .object fields =>
    let unknown := unknownFields properties fields
    (required.filter fun key => (fields.lookup key).isNone).map .missing ++
      propertyErrors fields properties ++
      if unknown.isEmpty then [] else [.unknownFields unknown]
  | .object _ _, json => [.wrongType json "object"]

/-- The errors within the fields that the properties describe. -/
def propertyErrors (fields : List (String × Json)) :
    List (String × JsonSchema) → List SchemaError
  | [] => []
  | (key, schema) :: rest =>
    (match fields.lookup key with
      | some value => errors schema value
      | none => []) ++ propertyErrors fields rest

end

def accepts (schema : JsonSchema) (json : Json) : Bool :=
  (schema.errors json).isEmpty

end JsonSchema

end Statecharts
