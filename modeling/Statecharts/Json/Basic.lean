import Statecharts.Decimal.Notation

/-!
# JSON values

An object lists its fields in ascending order of their keys, each key once.  An integer that fits 64
bits stays an integer; every other number is a double, kept by its bits.
-/

namespace Statecharts

inductive JsonNumber
  | natural (n : Nat)
  /-- The integer `-n`, for a positive `n`. -/
  | negative (n : Nat)
  | double (bits : UInt64)
  deriving DecidableEq, Repr

namespace JsonNumber

def text : JsonNumber → String
  | .natural n => toString n
  | .negative n => "-" ++ toString n
  | .double bits => Decimal.compactText bits

def toDouble : JsonNumber → Float
  | .natural n => n.toFloat
  | .negative n => -n.toFloat
  | .double bits => Float.ofBits bits

end JsonNumber

inductive Json
  | null
  | bool (value : Bool)
  | number (value : JsonNumber)
  | string (value : String)
  | array (items : List Json)
  | object (fields : List (String × Json))
  deriving Repr

namespace Json

def nat (n : Nat) : Json :=
  .number (.natural n)

def strings (texts : List String) : Json :=
  .array (texts.map .string)

def get? (key : String) : Json → Option Json
  | .object fields => fields.lookup key
  | _ => none

def asString? : Json → Option String
  | .string value => some value
  | _ => none

def asBool? : Json → Option Bool
  | .bool value => some value
  | _ => none

def asArray? : Json → Option (List Json)
  | .array items => some items
  | _ => none

/-- Puts a field at its place among fields with ascending keys; a later value of a key replaces an
earlier one. -/
def insertField (key : String) (value : Json) : List (String × Json) → List (String × Json)
  | [] => [(key, value)]
  | (other, kept) :: rest =>
    if key < other then (key, value) :: (other, kept) :: rest
    else if key = other then (key, value) :: rest
    else (other, kept) :: insertField key value rest

def ofFields (fields : List (String × Json)) : Json :=
  .object (fields.foldl (fun sorted (key, value) => insertField key value sorted) [])

end Json

end Statecharts
