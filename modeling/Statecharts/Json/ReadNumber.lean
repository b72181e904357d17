import Statecharts.Json.Basic
import Statecharts.Json.Cursor

/-!
# Reading JSON numbers

Digits are gathered into a significand as long as it fits 64 bits; later digits only move the
decimal exponent.  A text without point and exponent whose digits all fit is an integer, unless it
is negative and does not fit 64 bits with a sign.  Every other number is the double nearest to the
significand, multiplied or divided by powers of ten.
-/

namespace Statecharts.Json

def maxNatural : Nat := Nat.pow 2 64 - 1

def digit? (c : Char) : Option Nat :=
  if c.isDigit then some (c.toNat - '0'.toNat) else none

def powerOfTen (n : Nat) : Float :=
  Float.ofScientific 1 false n

/-- Divides by `10^308` as long as the exponent has no power of ten among the doubles. -/
def scaleDown : (bound : Nat) → Float → Int → Float
  | 0, value, _ => value
  | bound + 1, value, exponent =>
    if -308 ≤ exponent then value / powerOfTen exponent.natAbs
    else if value == 0 then value
    else scaleDown bound (value / powerOfTen 308) (exponent + 308)

/-- The double of a significand and a decimal exponent; `none` if it is too large. -/
def double? (significand : Nat) (exponent : Int) : Option Float :=
  let value := significand.toFloat
  if exponent < 0 then some (scaleDown 8 value exponent)
  else if exponent ≤ 308 then
    let scaled := value * powerOfTen exponent.natAbs
    if scaled.isInf then none else some scaled
  else if significand = 0 then some value
  else none

structure Mantissa where
  significand : Nat
  exponent : Int
  cursor : Cursor

namespace ReadNumber

def finish (isPositive : Bool) (mantissa : Mantissa) : Except Error (JsonNumber × Cursor) :=
  match double? mantissa.significand mantissa.exponent with
  | some value =>
    .ok (.double (if isPositive then value else -value).toBits, mantissa.cursor)
  | none => mantissa.cursor.failHere .numberOutOfRange

def exponentLimit : Nat := Nat.pow 2 31

/-- The decimal exponents are kept within the range of 32-bit integers. -/
def clampExponent (exponent : Int) : Int :=
  max (-exponentLimit) (min (exponentLimit - 1) exponent)

def exponentDigits (cursor : Cursor) (value : Nat) : List Char → Cursor × Nat
  | [] => (⟨[], cursor.place⟩, value)
  | c :: rest =>
    match digit? c with
    | some d => exponentDigits (cursor.moveTo c rest) (value * 10 + d) rest
    | none => (⟨c :: rest, cursor.place⟩, value)

/-- The exponent behind its letter.  An exponent out of range makes the number zero or too large. -/
def readExponent (isPositive : Bool) (mantissa : Mantissa) :
    Except Error (JsonNumber × Cursor) :=
  let cursor := mantissa.cursor
  let (isGrowing, cursor) :=
    match cursor.rest with
    | '+' :: rest => (true, cursor.moveTo '+' rest)
    | '-' :: rest => (false, cursor.moveTo '-' rest)
    | _ => (true, cursor)
  match cursor.rest with
  | [] => cursor.failHere .endInValue
  | c :: _ =>
    if c.isDigit then
      let (later, value) := exponentDigits cursor 0 cursor.rest
      if value < exponentLimit then
        let exponent := if isGrowing then mantissa.exponent + value else mantissa.exponent - value
        finish isPositive ⟨mantissa.significand, clampExponent exponent, later⟩
      else if mantissa.significand ≠ 0 ∧ isGrowing then
        outOfRange cursor 0 cursor.rest
      else .ok (.double (if isPositive then 0.0 else -0.0 : Float).toBits, later)
    else cursor.failAhead .invalidNumber
where
  /-- Too large an exponent is reported behind the last digit that still fitted, and the next. -/
  outOfRange (cursor : Cursor) (value : Nat) :
      List Char → Except Error (JsonNumber × Cursor)
    | [] => cursor.failHere .numberOutOfRange
    | c :: rest =>
      let grown := value * 10 + (digit? c).getD 0
      if grown < exponentLimit then outOfRange (cursor.moveTo c rest) grown rest
      else (cursor.moveTo c rest).failHere .numberOutOfRange

def exponentOrFinish (isPositive : Bool) (mantissa : Mantissa) :
    Except Error (JsonNumber × Cursor) :=
  match mantissa.cursor.rest with
  | c :: rest =>
    if c = 'e' ∨ c = 'E' then
      readExponent isPositive { mantissa with cursor := mantissa.cursor.moveTo c rest }
    else finish isPositive mantissa
  | [] => finish isPositive mantissa

/-- The digits behind the point; digits that no longer fit the significand are dropped. -/
def fractionDigits (significand : Nat) (exponent : Int) (cursor : Cursor) :
    List Char → Mantissa
  | [] => ⟨significand, exponent, ⟨[], cursor.place⟩⟩
  | c :: rest =>
    match digit? c with
    | none => ⟨significand, exponent, ⟨c :: rest, cursor.place⟩⟩
    | some d =>
      if significand * 10 + d ≤ maxNatural then
        fractionDigits (significand * 10 + d) (exponent - 1) (cursor.moveTo c rest) rest
      else
        ⟨significand, exponent, Cursor.skipWhile Char.isDigit ⟨c :: rest, cursor.place⟩⟩

def readFraction (isPositive : Bool) (mantissa : Mantissa) :
    Except Error (JsonNumber × Cursor) :=
  let cursor := mantissa.cursor
  match cursor.rest with
  | [] => cursor.failAhead .endInValue
  | c :: _ =>
    if c.isDigit then
      exponentOrFinish isPositive
        (fractionDigits mantissa.significand mantissa.exponent cursor cursor.rest)
    else cursor.failAhead .invalidNumber

def readTail (isPositive : Bool) (mantissa : Mantissa) : Except Error (JsonNumber × Cursor) :=
  match mantissa.cursor.rest with
  | '.' :: rest =>
    readFraction isPositive { mantissa with cursor := mantissa.cursor.moveTo '.' rest }
  | _ => exponentOrFinish isPositive mantissa

/-- An integer part that fits 64 bits, with what follows it. -/
def finishInteger (isPositive : Bool) (significand : Nat) (cursor : Cursor) :
    Except Error (JsonNumber × Cursor) :=
  match cursor.rest with
  | c :: _ =>
    if c = '.' ∨ c = 'e' ∨ c = 'E' then readTail isPositive ⟨significand, 0, cursor⟩
    else .ok (integer, cursor)
  | [] => .ok (integer, cursor)
where
  integer : JsonNumber :=
    if isPositive then .natural significand
    else if 0 < significand ∧ significand ≤ Nat.pow 2 63 then .negative significand
    else .double (-significand.toFloat).toBits

/-- The digits of an integer part; `excess` counts those that no longer fit. -/
def integerDigits (isPositive : Bool) (significand : Nat) (cursor : Cursor) :
    List Char → Except Error (JsonNumber × Cursor)
  | [] => finishInteger isPositive significand ⟨[], cursor.place⟩
  | c :: rest =>
    match digit? c with
    | none => finishInteger isPositive significand ⟨c :: rest, cursor.place⟩
    | some d =>
      if significand * 10 + d ≤ maxNatural then
        integerDigits isPositive (significand * 10 + d) (cursor.moveTo c rest) rest
      else
        let excess := (c :: rest).takeWhile Char.isDigit
        let later := Cursor.skipWhile Char.isDigit ⟨c :: rest, cursor.place⟩
        readTail isPositive ⟨significand, excess.length, later⟩

end ReadNumber

/-- Reads a number whose sign has been read.  A zero cannot be followed by another digit. -/
def readNumber (isPositive : Bool) (cursor : Cursor) : Except Error (JsonNumber × Cursor) :=
  match cursor.rest with
  | [] => cursor.failHere .endInValue
  | '0' :: rest =>
    let later := cursor.moveTo '0' rest
    match rest with
    | c :: _ =>
      if c.isDigit then later.failAhead .invalidNumber
      else ReadNumber.finishInteger isPositive 0 later
    | [] => ReadNumber.finishInteger isPositive 0 later
  | c :: _ =>
    if c.isDigit then ReadNumber.integerDigits isPositive 0 cursor cursor.rest
    else cursor.failAhead .invalidNumber

end Statecharts.Json
