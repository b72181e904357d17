import Statecharts.Json.ReadNumber
import Statecharts.Json.ReadString

/-!
# Reading JSON

A text holds one value with blanks around it.  Arrays and objects may be nested 127 deep.  Of two
fields of one object with the same key the later one counts.
-/

namespace Statecharts.Json

def nestingLimit : Nat := 128

def readWord (cursor : Cursor) (value : Json) : List Char → Except Error (Json × Cursor)
  | [] => .ok (value, cursor)
  | expected :: later =>
    match cursor.rest with
    | [] => cursor.failHere .endInValue
    | c :: rest =>
      if c = expected then readWord (cursor.moveTo c rest) value later
      else cursor.failAhead .expectedIdent

/-- Blanks, a colon, and nothing else. -/
def readColon (cursor : Cursor) : Except Error Cursor :=
  let cursor := cursor.skipBlanks
  match cursor.rest with
  | [] => cursor.failAhead .endInObject
  | ':' :: rest => .ok (cursor.moveTo ':' rest)
  | _ => cursor.failAhead .expectedColon

/-- The comma between two items, if there is another item; `isFirst` before the first one. -/
def hasItem (isFirst : Bool) (cursor : Cursor) : Except Error (Bool × Cursor) :=
  let cursor := cursor.skipBlanks
  match cursor.rest with
  | [] => cursor.failAhead .endInArray
  | ']' :: rest => .ok (false, cursor.moveTo ']' rest)
  | c :: rest =>
    if isFirst then .ok (true, cursor)
    else if c = ',' then
      let later := (cursor.moveTo ',' rest).skipBlanks
      match later.rest with
      | [] => later.failAhead .endInValue
      | ']' :: _ => later.failAhead .trailingComma
      | _ => .ok (true, later)
    else cursor.failAhead .expectedCommaOrBracket

/-- The comma between two fields and the quote that opens the next key, if there is one. -/
def hasField (isFirst : Bool) (cursor : Cursor) : Except Error (Bool × Cursor) :=
  let cursor := cursor.skipBlanks
  match cursor.rest with
  | [] => cursor.failAhead .endInObject
  | '}' :: rest => .ok (false, cursor.moveTo '}' rest)
  | c :: rest =>
    if isFirst then
      if c = '"' then .ok (true, cursor.moveTo '"' rest) else cursor.failAhead .keyMustBeString
    else if c = ',' then
      let later := (cursor.moveTo ',' rest).skipBlanks
      match later.rest with
      | [] => later.failAhead .endInValue
      | '"' :: rest => .ok (true, later.moveTo '"' rest)
      | '}' :: _ => later.failAhead .trailingComma
      | _ => later.failAhead .keyMustBeString
    else cursor.failAhead .expectedCommaOrBrace

mutual

/-- Reads a value; `depth` more levels may be opened, and `bound` limits the number of steps. -/
def readValue : (bound depth : Nat) → Cursor → Except Error (Json × Cursor)
  | 0, _, cursor => cursor.failHere .endInValue
  | bound + 1, depth, cursor =>
    let cursor := cursor.skipBlanks
    match cursor.rest with
    | [] => cursor.failAhead .endInValue
    | 'n' :: rest => readWord (cursor.moveTo 'n' rest) .null ['u', 'l', 'l']
    | 't' :: rest => readWord (cursor.moveTo 't' rest) (.bool true) ['r', 'u', 'e']
    | 'f' :: rest => readWord (cursor.moveTo 'f' rest) (.bool false) ['a', 'l', 's', 'e']
    | '-' :: rest =>
      (readNumber false (cursor.moveTo '-' rest)).map fun (value, later) => (.number value, later)
    | '"' :: rest =>
      (readString (cursor.moveTo '"' rest)).map fun (value, later) => (.string value, later)
    | '[' :: rest =>
      match depth with
      | 0 | 1 => cursor.failAhead .recursionLimit
      | inner + 2 => readItems bound (inner + 1) true [] (cursor.moveTo '[' rest)
    | '{' :: rest =>
      match depth with
      | 0 | 1 => cursor.failAhead .recursionLimit
      | inner + 2 => readFields bound (inner + 1) true [] (cursor.moveTo '{' rest)
    | c :: _ =>
      if c.isDigit then
        (readNumber true cursor).map fun (value, later) => (.number value, later)
      else cursor.failAhead .expectedValue

/-- Reads the items of an array up to its end; `read` holds those before, last one first. -/
def readItems : (bound depth : Nat) → Bool → List Json → Cursor → Except Error (Json × Cursor)
  | 0, _, _, _, cursor => cursor.failHere .endInArray
  | bound + 1, depth, isFirst, read, cursor => do
    let (more, cursor) ← hasItem isFirst cursor
    if more then
      let (item, later) ← readValue bound depth cursor
      readItems bound depth false (item :: read) later
    else return (.array read.reverse, cursor)

/-- Reads the fields of an object up to its end. -/
def readFields : (bound depth : Nat) → Bool → List (String × Json) → Cursor →
    Except Error (Json × Cursor)
  | 0, _, _, _, cursor => cursor.failHere .endInObject
  | bound + 1, depth, isFirst, fields, cursor => do
    let (more, cursor) ← hasField isFirst cursor
    if more then
      let (key, cursor) ← readString cursor
      let cursor ← readColon cursor
      let (value, later) ← readValue bound depth cursor
      readFields bound depth false (insertField key value fields) later
    else return (.object fields, cursor)

end

def read (text : String) : Except Error Json := do
  let chars := text.toList
  let (value, cursor) ← readValue (2 * chars.length + 2) nestingLimit (.ofText chars)
  let cursor := cursor.skipBlanks
  if cursor.rest.isEmpty then return value else cursor.failAhead .trailingCharacters

end Statecharts.Json
