import Statecharts.Json.Basic
import Statecharts.Json.Cursor

/-!
# Reading JSON strings

A string ends at the first quote that no backslash escapes.  Control characters must be escaped.  A
character outside the basic plane may be written as two hexadecimal escapes, a leading and a
trailing surrogate; neither may stand alone.
-/

namespace Statecharts.Json

def hexValue? (c : Char) : Option Nat :=
  if c.isDigit then some (c.toNat - '0'.toNat)
  else if 'a' ≤ c ∧ c ≤ 'f' then some (c.toNat - 'a'.toNat + 10)
  else if 'A' ≤ c ∧ c ≤ 'F' then some (c.toNat - 'A'.toNat + 10)
  else none

def utf8Length (text : List Char) : Nat :=
  text.foldl (fun total c => total + c.utf8Size) 0

/-- The place behind the given number of bytes. -/
def placeBehind (place : Place) : (bytes : Nat) → List Char → Place
  | _, [] => place
  | bytes, c :: rest =>
    if bytes = 0 then place
    else if c.utf8Size ≤ bytes then
      placeBehind (Cursor.Place.after place c) (bytes - c.utf8Size) rest
    else ⟨place.line, place.column + bytes⟩

/-- The four hexadecimal digits of an escape. -/
def readHex (cursor : Cursor) : Except Error (Nat × Cursor) :=
  match cursor.rest with
  | a :: b :: c :: d :: rest =>
    match hexValue? a, hexValue? b, hexValue? c, hexValue? d with
    | some a', some b', some c', some d' =>
      .ok (((a' * 16 + b') * 16 + c') * 16 + d',
        ⟨rest, ⟨cursor.place.line, cursor.place.column + 4⟩⟩)
    | _, _, _, _ => .error ⟨.invalidEscape, placeBehind cursor.place 4 cursor.rest⟩
  | short =>
    if 4 ≤ utf8Length short then .error ⟨.invalidEscape, placeBehind cursor.place 4 short⟩
    else .error ⟨.endInString, placeBehind cursor.place 4 short⟩

def isLeadingSurrogate (n : Nat) : Bool :=
  0xD800 ≤ n && n ≤ 0xDBFF

def isTrailingSurrogate (n : Nat) : Bool :=
  0xDC00 ≤ n && n ≤ 0xDFFF

def expectChar (expected : Char) (cursor : Cursor) : Except Error Cursor :=
  match cursor.rest with
  | [] => cursor.failHere .endInString
  | c :: rest =>
    if c = expected then .ok (cursor.moveTo c rest) else cursor.failAhead .endOfHexEscape

def readUnicodeEscape (cursor : Cursor) : Except Error (Char × Cursor) := do
  let (first, cursor) ← readHex cursor
  if isTrailingSurrogate first then
    cursor.failHere .loneSurrogate
  else if isLeadingSurrogate first then
    let cursor ← expectChar '\\' cursor
    let cursor ← expectChar 'u' cursor
    let (second, cursor) ← readHex cursor
    if isTrailingSurrogate second then
      return (Char.ofNat ((first - 0xD800) * 0x400 + (second - 0xDC00) + 0x10000), cursor)
    else cursor.failHere .loneSurrogate
  else return (Char.ofNat first, cursor)

/-- The character of an escape whose backslash has been read. -/
def readEscape (cursor : Cursor) : Except Error (Char × Cursor) :=
  match cursor.rest with
  | [] => cursor.failHere .endInString
  | c :: rest =>
    let later := cursor.moveTo c rest
    match c with
    | '"' => .ok ('"', later)
    | '\\' => .ok ('\\', later)
    | '/' => .ok ('/', later)
    | 'b' => .ok ('\x08', later)
    | 'f' => .ok ('\x0c', later)
    | 'n' => .ok ('\n', later)
    | 'r' => .ok ('\r', later)
    | 't' => .ok ('\t', later)
    | 'u' => readUnicodeEscape later
    | _ => cursor.failAhead .invalidEscape

/-- The characters of a string up to its closing quote, last one first. -/
def readStringChars : (bound : Nat) → List Char → Cursor → Except Error (List Char × Cursor)
  | 0, _, cursor => cursor.failHere .endInString
  | bound + 1, read, cursor =>
    match cursor.rest with
    | [] => cursor.failHere .endInString
    | '"' :: rest => .ok (read, cursor.moveTo '"' rest)
    | '\\' :: rest => do
      let (c, later) ← readEscape (cursor.moveTo '\\' rest)
      readStringChars bound (c :: read) later
    | c :: rest =>
      if c.toNat < 32 then cursor.failAhead .controlCharacter
      else readStringChars bound (c :: read) (cursor.moveTo c rest)

/-- Reads a string whose opening quote has been read. -/
def readString (cursor : Cursor) : Except Error (String × Cursor) := do
  let (read, later) ← readStringChars (cursor.rest.length + 1) [] cursor
  return (String.ofList read.reverse, later)

end Statecharts.Json
