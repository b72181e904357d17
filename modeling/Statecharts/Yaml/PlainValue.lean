import Statecharts.Decimal.Notation
import Statecharts.Decimal.Read
import Statecharts.Text.Messages
import Statecharts.Yaml.Event

/-!
# What a scalar stands for

A plain scalar without a tag is null, a Boolean, an integer, a floating point number or else a
string, by its spelling.  Digits that begin with a superfluous zero are a string.  A tag of one of
these types requires a spelling of that type; quoted scalars are strings.
-/

namespace Statecharts.Yaml

inductive PlainValue
  | null
  | bool (value : Bool)
  | integer (value : Int)
  | double (bits : UInt64)
  | string (text : String)
  deriving DecidableEq, Repr

namespace PlainValue

/-- Integers of more than 64 bits are shown with the kind of 128-bit integer that holds them. -/
def integerText (value : Int) : String :=
  s!"integer `{value}`" ++
    if Int.ofNat (Nat.pow 2 64) ≤ value then " as u128"
    else if value < Int.negOfNat (Nat.pow 2 63) then " as i128"
    else ""

def text : PlainValue → String
  | .null => "unit value"
  | .bool value => s!"boolean `{value}`"
  | .integer value => integerText value
  | .double bits => "floating point `" ++ Decimal.positionalText bits ++ "`"
  | .string text => "string " ++ Text.quote text

def isNull (text : String) : Bool :=
  text = "null" || text = "Null" || text = "NULL" || text = "~"

def bool? (text : String) : Option Bool :=
  if text = "true" ∨ text = "True" ∨ text = "TRUE" then some true
  else if text = "false" ∨ text = "False" ∨ text = "FALSE" then some false
  else none

def digitValue (c : Char) : Nat :=
  if c.isDigit then c.toNat - '0'.toNat
  else if c.isUpper then c.toNat - 'A'.toNat + 10
  else c.toNat - 'a'.toNat + 10

def natural? (radix : Nat) (digits : List Char) : Option Nat :=
  if digits ≠ [] ∧ digits.all fun c => c.isAlphanum && digitValue c < radix then
    some (digits.foldl (fun n c => n * radix + digitValue c) 0)
  else none

/-- More digits than one, the first of which is a zero. -/
def hasLeadingZero : List Char → Bool
  | '0' :: rest => !rest.isEmpty && rest.all Char.isDigit
  | _ => false

/-- The size of an integer without its sign. -/
def magnitude? : List Char → Option Nat
  | '0' :: 'x' :: digits => natural? 16 digits
  | '0' :: 'o' :: digits => natural? 8 digits
  | '0' :: 'b' :: digits => natural? 2 digits
  | digits => if hasLeadingZero digits then none else natural? 10 digits

/-- Integers that fit 128 bits. -/
def integer? (text : List Char) : Option Int :=
  let (isNegative, body) := Decimal.splitSign text
  (magnitude? body).bind fun size =>
    if isNegative then if size ≤ Nat.pow 2 127 then some (-size) else none
    else if size < Nat.pow 2 128 then some size else none

def double? (text : List Char) : Option UInt64 :=
  let unsigned := match text with
    | '+' :: rest => rest
    | _ => text
  let name := String.ofList unsigned
  let infinity : Float := 1.0 / 0.0
  if unsigned ≠ text ∧ unsigned.head?.any (fun c => c = '+' || c = '-') then none
  else if name = ".inf" ∨ name = ".Inf" ∨ name = ".INF" then some infinity.toBits
  else if name = "-.inf" ∨ name = "-.Inf" ∨ name = "-.INF" then some (-infinity).toBits
  else if text = unsigned ∧ (name = ".nan" ∨ name = ".NaN" ∨ name = ".NAN") then
    some 0x7ff8000000000000
  else (Decimal.finite? unsigned).map Float.toBits

/-- By its spelling alone. -/
def ofPlain (text : String) : PlainValue :=
  let chars := text.toList
  if text.isEmpty || isNull text then .null
  else
    match bool? text with
    | some value => .bool value
    | none =>
      match integer? chars with
      | some value => .integer value
      | none =>
        if hasLeadingZero (Decimal.splitSign chars).2 then .string text
        else (double? chars).elim (.string text) .double

/-- The value of a scalar, or the type that its tag requires and its spelling is not of. -/
def ofScalar (scalar : Scalar) : Except String PlainValue :=
  let text := scalar.text
  match scalar.tag with
  | none => .ok (if scalar.style = .plain then ofPlain text else .string text)
  | some tag =>
    if tag = "tag:yaml.org,2002:bool" then (bool? text).elim (.error "a boolean") (.ok ∘ .bool)
    else if tag = "tag:yaml.org,2002:int" then
      (integer? text.toList).elim (.error "an integer") (.ok ∘ .integer)
    else if tag = "tag:yaml.org,2002:float" then
      (double? text.toList).elim (.error "a float") (.ok ∘ .double)
    else if tag = "tag:yaml.org,2002:null" then
      if isNull text then .ok .null else .error "null"
    else if tag.startsWith "!" && scalar.style = .plain then .ok (ofPlain text)
    else .ok (.string text)

/-- Scalars that may be read as a Boolean: plain ones, and literal ones with the tag of Booleans. -/
def boolOfScalar? (scalar : Scalar) : Option Bool :=
  if scalar.style = .plain ∨
      (scalar.style = .literal ∧ scalar.tag = some "tag:yaml.org,2002:bool") then
    bool? scalar.text
  else none

end PlainValue

end Statecharts.Yaml
