/-!
# Reading doubles

A decimal has a sign, digits with at most one point among or around them, and perhaps a decimal
exponent.  The result is the double nearest to its value.  Numbers far outside the range of doubles
are recognised by their digits alone, so an enormous exponent costs nothing.
-/

namespace Statecharts.Decimal

structure Numeral where
  isNegative : Bool
  /-- The digits without the point. -/
  digits : List Char
  /-- The power of ten by which they count. -/
  exponent : Int
  deriving DecidableEq, Repr

def natOfDigits (digits : List Char) : Nat :=
  digits.foldl (fun n c => n * 10 + (c.toNat - '0'.toNat)) 0

def splitSign : List Char → Bool × List Char
  | '-' :: rest => (true, rest)
  | '+' :: rest => (false, rest)
  | text => (false, text)

/-- The exponent that ends a numeral; `none` if something else is there. -/
def exponent? : List Char → Option Int
  | [] => some 0
  | c :: rest =>
    let (isNegative, digits) := splitSign rest
    if (c = 'e' ∨ c = 'E') ∧ digits ≠ [] ∧ digits.all Char.isDigit then
      let n : Int := natOfDigits digits
      some (if isNegative then -n else n)
    else none

def numeral? (text : List Char) : Option Numeral :=
  let (isNegative, body) := splitSign text
  let whole := body.takeWhile Char.isDigit
  let (fraction, tail) :=
    match body.dropWhile Char.isDigit with
    | '.' :: rest => (rest.takeWhile Char.isDigit, rest.dropWhile Char.isDigit)
    | rest => ([], rest)
  if whole.isEmpty && fraction.isEmpty then none
  else
    (exponent? tail).map fun exponent =>
      ⟨isNegative, whole ++ fraction, exponent - fraction.length⟩

def Numeral.toFloat (numeral : Numeral) : Float :=
  let digits := numeral.digits.dropWhile (· = '0')
  let size : Int := digits.length + numeral.exponent
  let magnitude : Float :=
    if digits.isEmpty || size < -330 then 0.0
    else if 310 < size then 1.0 / 0.0
    else .ofScientific (natOfDigits digits) (numeral.exponent < 0) numeral.exponent.natAbs
  if numeral.isNegative then -magnitude else magnitude

/-- The finite double that a text denotes. -/
def finite? (text : List Char) : Option Float :=
  ((numeral? text).map Numeral.toFloat).filter Float.isFinite

end Statecharts.Decimal
