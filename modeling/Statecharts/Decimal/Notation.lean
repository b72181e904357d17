import Statecharts.Decimal.Shortest

/-!
# Writing doubles

A double is written with its shortest digits.  Positional notation always has a decimal point, so
the text shows that the number is no integer.  Scientific notation is chosen by the size of the
number; its exponent always has a sign.
-/

namespace Statecharts.Decimal

def isNegative (bits : UInt64) : Bool :=
  Nat.pow 2 63 ≤ bits.toNat

def digitsText (n : Nat) : List Char :=
  Nat.toDigits 10 n

/-- Positional notation with at least one digit on each side of the point. -/
def positional (d : Scientific) : List Char :=
  let digits := digitsText d.digits
  if 0 ≤ d.exponent then digits ++ List.replicate d.exponent.natAbs '0' ++ ['.', '0']
  else
    let places := d.exponent.natAbs
    let padded := List.replicate (places + 1 - digits.length) '0' ++ digits
    padded.take (padded.length - places) ++ '.' :: padded.drop (padded.length - places)

/-- One digit before the point, and no point when there is only that digit. -/
def scientific (d : Scientific) : List Char :=
  let digits := digitsText d.digits
  let exponent : Int := d.exponent + digits.length - 1
  let fraction := if digits.length ≤ 1 then [] else '.' :: digits.drop 1
  let sign := if exponent < 0 then '-' else '+'
  digits.take 1 ++ fraction ++ 'e' :: sign :: digitsText exponent.natAbs

def withSign (bits : UInt64) (text : List Char) : String :=
  String.ofList (if isNegative bits then '-' :: text else text)

/-- Numbers from `1e-5` up to `1e16` are positional, all others scientific. -/
def compactText (bits : UInt64) : String :=
  let d := shortest bits
  let leading : Int := d.exponent + (digitsText d.digits).length - 1
  withSign bits <|
    if d.digits = 0 ∨ (-5 ≤ leading ∧ leading ≤ 15) then positional d else scientific d

/-- Numbers of every size are positional; the two infinities and not-a-number have names. -/
def positionalText (bits : UInt64) : String :=
  if bits.toNat / Nat.pow 2 52 % Nat.pow 2 11 = Nat.pow 2 11 - 1 then
    if bits.toNat % Nat.pow 2 52 = 0 then withSign bits ['i', 'n', 'f'] else "NaN"
  else withSign bits (positional (shortest bits))

end Statecharts.Decimal
