/-!
# The shortest decimal of a double

A finite double is `m · 2^q`.  The reals that round to it form an interval around it, whose ends
belong to it exactly when `m` is even.  For one digit, then two, and so on, the two neighbours of
the value on the grid of decimals with that many digits are tried; the first grid with a neighbour
in the interval gives the result, the nearer neighbour if both are in it, the even one if they are
equally near.  Seventeen digits always suffice.
-/

namespace Statecharts.Decimal

/-- The decimal `digits · 10^exponent`; the digits do not end in zero, unless they are zero. -/
structure Scientific where
  digits : Nat
  exponent : Int
  deriving DecidableEq, Repr

/-- A fraction of natural numbers, kept as it is. -/
structure Ratio where
  num : Nat
  den : Nat
  deriving DecidableEq, Repr

namespace Ratio

def scaled (n : Nat) (base : Nat) (exponent : Int) : Ratio :=
  if exponent < 0 then ⟨n, Nat.pow base exponent.natAbs⟩
  else ⟨n * Nat.pow base exponent.natAbs, 1⟩

def le (a b : Ratio) : Bool :=
  a.num * b.den ≤ b.num * a.den

def lt (a b : Ratio) : Bool :=
  a.num * b.den < b.num * a.den

end Ratio

/-- A finite double without its sign: the value is `mantissa · 2^exponent`. -/
structure Binary where
  mantissa : Nat
  exponent : Int
  /-- The next smaller double is only half as far away as the next larger one. -/
  isPowerOfTwo : Bool
  deriving DecidableEq, Repr

def Binary.ofBits (bits : UInt64) : Binary :=
  let fraction : Nat := bits.toNat % Nat.pow 2 52
  let biased : Nat := bits.toNat / Nat.pow 2 52 % Nat.pow 2 11
  if biased = 0 then ⟨fraction, -1074, false⟩
  else ⟨Nat.pow 2 52 + fraction, (biased : Int) - 1075, fraction = 0 && biased ≠ 1⟩

namespace Binary

def value (x : Binary) : Ratio :=
  Ratio.scaled (4 * x.mantissa) 2 (x.exponent - 2)

def low (x : Binary) : Ratio :=
  Ratio.scaled (4 * x.mantissa - if x.isPowerOfTwo then 1 else 2) 2 (x.exponent - 2)

def high (x : Binary) : Ratio :=
  Ratio.scaled (4 * x.mantissa + 2) 2 (x.exponent - 2)

def roundsTo (x : Binary) (candidate : Ratio) : Bool :=
  if x.mantissa % 2 = 0 then x.low.le candidate && candidate.le x.high
  else x.low.lt candidate && candidate.lt x.high

end Binary

/-- The number of decimal digits of a positive natural number. -/
def digitCount (n : Nat) : Nat :=
  (Nat.toDigits 10 n).length

/-- The exponent of the first digit of a positive ratio. -/
def leadingExponent (r : Ratio) : Int :=
  let guess : Int := (digitCount r.num : Int) - (digitCount r.den : Int)
  if (Ratio.scaled 1 10 guess).le r then guess else guess - 1

/-- Takes the zeros off the end of the digits. -/
def trim : (bound : Nat) → Nat → Int → Scientific
  | bound + 1, digits, exponent =>
    if digits ≠ 0 ∧ digits % 10 = 0 then trim bound (digits / 10) (exponent + 1)
    else ⟨digits, exponent⟩
  | 0, digits, exponent => ⟨digits, exponent⟩

/-- The neighbour of a value on the grid of multiples of `10^exponent` that rounds back to it. -/
def onGrid? (x : Binary) (exponent : Int) : Option Nat :=
  let v := x.value
  let unit := Ratio.scaled 1 10 exponent
  let below := (v.num * unit.den) / (v.den * unit.num)
  let candidate (n : Nat) : Ratio := Ratio.scaled n 10 exponent
  let fits (n : Nat) : Bool := 0 < n && x.roundsTo (candidate n)
  match fits below, fits (below + 1) with
  | true, true =>
    let middle : Ratio := ⟨(2 * below + 1) * unit.num, 2 * unit.den⟩
    if v.lt middle then some below
    else if middle.lt v then some (below + 1)
    else if below % 2 = 0 then some below else some (below + 1)
  | true, false => some below
  | false, true => some (below + 1)
  | false, false => none

def shortest (bits : UInt64) : Scientific :=
  let x := Binary.ofBits bits
  if x.mantissa = 0 then ⟨0, 0⟩
  else
    let leading := leadingExponent x.value
    let found := (List.range 17).findSome? fun (more : Nat) =>
      let exponent : Int := leading - (more : Int)
      (onGrid? x exponent).map fun n => trim 20 n exponent
    found.getD ⟨0, 0⟩

end Statecharts.Decimal
