import Statecharts.Decimal.Read
import Statecharts.Toml.Fault

/-!
# Numbers, dates and times

Digits of a number may be separated by single underscores.  A number without fraction and exponent
is an integer of 64 bits, which may also be written in hexadecimal, octal or binary digits.  Numbers
begin like dates, and dates like numbers: what they are is decided by the first character that only
one of them can have.
-/

namespace Statecharts.Toml

namespace Number

def isBinaryDigit (c : Char) : Bool :=
  c = '0' || c = '1'

def isOctalDigit (c : Char) : Bool :=
  '0' ≤ c && c ≤ '7'

def isHexDigit (c : Char) : Bool :=
  c.isDigit || ('a' ≤ c && c ≤ 'f') || ('A' ≤ c && c ≤ 'F')

/-- More digits behind the first one; an underscore must be followed by a digit. -/
def readMoreDigits (isDigit : Char → Bool) : (bound : Nat) → Cursor → Except Failure Cursor
  | 0, cursor => .ok cursor
  | bound + 1, cursor =>
    match cursor.rest with
    | [] => .ok cursor
    | c :: _ =>
      if isDigit c then readMoreDigits isDigit bound cursor.skip
      else if c = '_' then do
        let (_, later) ← commit (expecting ["digit"] (cursor.skip.readOne isDigit))
        readMoreDigits isDigit bound later
      else .ok cursor

def readDigits (isDigit : Char → Bool) (cursor : Cursor) : Except Failure Cursor := do
  let (_, later) ← cursor.readOne isDigit
  readMoreDigits isDigit (later.rest.length + 1) later

/-- The text between two cursors, without underscores. -/
def textBetween (start stop : Cursor) : List Char :=
  (start.rest.take (start.rest.length - stop.rest.length)).filter (· ≠ '_')

def skipSign (cursor : Cursor) : Cursor :=
  if cursor.sees '+' || cursor.sees '-' then cursor.skip else cursor

/-- A decimal integer; a zero stands alone. -/
def readDecimal (cursor : Cursor) : Except Failure Cursor :=
  labelled "integer" <|
    let unsigned := skipSign cursor
    match unsigned.peek? with
    | some '0' => .ok unsigned.skip
    | _ => readDigits Char.isDigit unsigned

def tooLarge : String := "number too large to fit in target type"

def tooSmall : String := "number too small to fit in target type"

/-- The integer of a text, if it fits 64 bits with a sign. -/
def integerOf (start : Cursor) (isNegative : Bool) (size : Nat) : Except Failure Int :=
  if isNegative then
    if size ≤ Nat.pow 2 63 then .ok (-size) else commit (start.missBecause tooSmall)
  else if size < Nat.pow 2 63 then .ok size
  else commit (start.missBecause tooLarge)

def digitValue (c : Char) : Nat :=
  if c.isDigit then c.toNat - '0'.toNat
  else if 'a' ≤ c then c.toNat - 'a'.toNat + 10
  else c.toNat - 'A'.toNat + 10

/-- An integer behind the two characters that say how its digits are to be read. -/
def readRadix (radix : Nat) (isDigit : Char → Bool) (label : String) (cursor : Cursor) :
    Except Failure (Int × Cursor) := do
  let digits := cursor.skip.skip
  let later ← commit (labelled label (readDigits isDigit digits))
  let size := (textBetween digits later).foldl (fun n c => n * radix + digitValue c) 0
  return (← integerOf cursor false size, later)

def readInteger (cursor : Cursor) : Except Failure (Int × Cursor) :=
  match cursor.rest with
  | '0' :: 'x' :: _ => readRadix 16 isHexDigit "hexadecimal integer" cursor
  | '0' :: 'o' :: _ => readRadix 8 isOctalDigit "octal integer" cursor
  | '0' :: 'b' :: _ => readRadix 2 isBinaryDigit "binary integer" cursor
  | _ => do
    let later ← readDecimal cursor
    let (isNegative, digits) := Decimal.splitSign (textBetween cursor later)
    return (← integerOf cursor isNegative (Decimal.natOfDigits digits), later)

def readFraction (cursor : Cursor) : Except Failure Cursor := do
  let (_, digits) ← cursor.readChar '.'
  commit (expecting ["digit"] (readDigits Char.isDigit digits))

def readExponent (cursor : Cursor) : Except Failure Cursor := do
  let (_, behind) ← cursor.readOne fun c => c = 'e' || c = 'E'
  commit (readDigits Char.isDigit (skipSign behind))

/-- An exponent, or a fraction with or without an exponent. -/
def readFloatTail (cursor : Cursor) : Except Failure Cursor :=
  orElse (readExponent cursor) do
    let later ← readFraction cursor
    orElse (readExponent later) (.ok later)

def infinity : Float := 1.0 / 0.0

def notANumber : UInt64 := 0x7ff8000000000000

/-- The value of a named number behind its sign. -/
def readNamed (cursor : Cursor) : Except Failure (UInt64 × Cursor) :=
  let unsigned := skipSign cursor
  let isNegative := cursor.sees '-'
  let inf := unsigned.readText ['i', 'n', 'f']
  let nan := unsigned.readText ['n', 'a', 'n']
  orElse (inf.map fun (_, later) =>
      ((if isNegative then -infinity else infinity).toBits, later))
    (nan.map fun (_, later) =>
      (if isNegative then notANumber + 0x8000000000000000 else notANumber, later))

def readFloat (cursor : Cursor) : Except Failure (UInt64 × Cursor) :=
  labelled "floating-point number" <|
    orElse
      (do
        let later ← readFloatTail (← readDecimal cursor)
        let numeral? := Decimal.numeral? (textBetween cursor later)
        let value := numeral?.elim 0.0 Decimal.Numeral.toFloat
        if value == infinity then commit cursor.miss
        else return (value.toBits, later))
      (readNamed cursor)

end Number

namespace DateTime

def readDigits (count : Nat) (cursor : Cursor) : Except Failure (Nat × Cursor) :=
  let digits := (cursor.rest.take count).takeWhile Char.isDigit
  if digits.length = count then .ok (Decimal.natOfDigits digits, cursor.behind digits)
  else cursor.miss

/-- Two digits within a range. -/
def readPair (least greatest : Nat) (cursor : Cursor) : Except Failure (Nat × Cursor) := do
  let (value, later) ← readDigits 2 cursor
  if least ≤ value ∧ value ≤ greatest then return (value, later)
  cursor.missBecause outOfRange

def isLeapYear (year : Nat) : Bool :=
  year % 4 = 0 && (year % 100 ≠ 0 || year % 400 = 0)

def daysIn (year month : Nat) : Nat :=
  if month = 2 then if isLeapYear year then 29 else 28
  else if month = 4 ∨ month = 6 ∨ month = 9 ∨ month = 11 then 30
  else 31

def readDate (cursor : Cursor) : Except Failure Cursor := do
  let (year, cursor) ← readDigits 4 cursor
  let (_, cursor) ← cursor.readChar '-'
  commit do
    let (month, cursor) ← readPair 1 12 cursor
    let (_, cursor) ← cursor.readChar '-'
    let (day, later) ← readPair 1 31 cursor
    if daysIn year month < day then
      cursor.missBecause outOfRange
    return later

def readSecondFraction (cursor : Cursor) : Except Failure Cursor := do
  let (_, digits) ← cursor.readChar '.'
  let (_, later) ← digits.readOne Char.isDigit
  return (later.takeWhile Char.isDigit).2

def readTime (cursor : Cursor) : Except Failure Cursor := do
  let (_, cursor) ← readPair 0 23 cursor
  let (_, cursor) ← cursor.readChar ':'
  commit do
    let (_, cursor) ← readPair 0 59 cursor
    let (_, cursor) ← cursor.readChar ':'
    let (_, cursor) ← readPair 0 60 cursor
    orElse (readSecondFraction cursor) (.ok cursor)

def readOffset (cursor : Cursor) : Except Failure Cursor :=
  labelled "time offset" <|
    if cursor.sees 'Z' || cursor.sees 'z' then .ok cursor.skip
    else do
      let (_, cursor) ← cursor.readOne fun c => c = '+' || c = '-'
      commit do
        let (_, cursor) ← readPair 0 23 cursor
        let (_, cursor) ← cursor.readChar ':'
        let (_, cursor) ← readPair 0 59 cursor
        return cursor

/-- The time of a day, and its offset, behind a date. -/
def readTimeOfDay (cursor : Cursor) : Except Failure Cursor := do
  let (_, cursor) ← cursor.readOne fun c => c = 'T' || c = 't' || c = ' '
  let later ← readTime cursor
  orElse (readOffset later) (.ok later)

/-- Reads a date with or without a time, or a time alone. -/
def read (cursor : Cursor) : Except Failure Cursor :=
  orElse
    (labelled "date-time" do
      let later ← readDate cursor
      orElse (readTimeOfDay later) (.ok later))
    (labelled "time" (readTime cursor))

end DateTime

end Statecharts.Toml
