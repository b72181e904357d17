import Statecharts.Decimal.Notation
import Statecharts.Text.Messages
import Statecharts.Toml.Error

/-!
# Decoding TOML

An item of the wrong type is reported with what was found, what was expected, and its place.
-/

namespace Statecharts.Toml

/-- What was found where an item of another type was expected. -/
def Item.typeText : Item → String
  | .scalar _ (.string text) => "string " ++ Text.quote text
  | .scalar _ (.integer value) => s!"integer `{value}`"
  | .scalar _ (.double bits) => "floating point `" ++ Decimal.positionalText bits ++ "`"
  | .scalar _ (.bool value) => s!"boolean `{value}`"
  | .array _ _ | .tables _ _ => "sequence"
  | .scalar _ .dateTime | .table _ _ _ => "map"

namespace Decode

def invalidType {α : Type} (item : Item) (expected : String) : Except Error α :=
  .error ⟨"invalid type: " ++ item.typeText ++ ", expected " ++ expected, item.span?⟩

def missingField {α : Type} (item : Item) (field : String) : Except Error α :=
  .error ⟨"missing field `" ++ field ++ "`", item.span?⟩

def invalidLength {α : Type} (item : Item) (length : Nat) (expected : String) : Except Error α :=
  .error ⟨s!"invalid length {length}, expected " ++ expected, item.span?⟩

def string (expected : String) : Item → Except Error String
  | .scalar _ (.string text) => .ok text
  | other => invalidType other expected

/-- The items of an array, or the tables of a list of tables. -/
def sequence : Item → Except Error (List Item)
  | .array _ items | .tables _ items => .ok items
  | other => invalidType other "a sequence"

end Decode

end Statecharts.Toml
