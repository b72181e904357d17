import Statecharts.Yaml.SyntaxError
import Statecharts.Yaml.Token

/-!
# Anchors, tags and directives

A tag is written in full between angle brackets, or as a handle and a suffix.  A lone exclamation
mark is a tag of its own.  Octets escaped by a percent sign must form characters.
-/

namespace Statecharts.Yaml

/-! ## Anchors -/

namespace Anchor

/-- What may stand behind a name, beside blanks and breaks. -/
def endsName (c : Char) : Bool :=
  c = '?' || c = ':' || c = ',' || c = ']' || c = '}' || c = '%' || c = '@' || c = '`'

/-- Reads the indicator and the name of an anchor or of an alias. -/
def readName (reading : Reading) (cursor : Cursor) : Except SyntaxError (String × Cursor) :=
  let (name, later) := cursor.skip.takeWhile isNameChar
  if name.isEmpty || !(later.isSpaceAt 0 || later.seesAny endsName) then
    .error (.during reading cursor.mark .expectedName later.mark)
  else .ok (String.ofList name, later)

def read (isAlias : Bool) (cursor : Cursor) : Except SyntaxError (Token × Cursor) := do
  let (name, later) ← readName (if isAlias then .alias else .anchor) cursor
  return (⟨if isAlias then .alias name else .anchor name, cursor.mark, later.mark⟩, later)

end Anchor

/-! ## Tags -/

namespace Tag

def isTagChar (c : Char) : Bool :=
  isNameChar c || c = ';' || c = '/' || c = '?' || c = ':' || c = '@' || c = '&' || c = '=' ||
    c = '+' || c = '$' || c = '.' || c = '%' || c = '!' || c = '~' || c = '*' || c = '\'' ||
    c = '(' || c = ')'

/-- Characters that stand in a tag only where no flow indicator can. -/
def isVerbatimChar (c : Char) : Bool :=
  isTagChar c || c = ',' || c = '[' || c = ']'

def hexValue? (c : Char) : Option Nat :=
  if c.isDigit then some (c.toNat - '0'.toNat)
  else if 'a' ≤ c ∧ c ≤ 'f' then some (c.toNat - 'a'.toNat + 10)
  else if 'A' ≤ c ∧ c ≤ 'F' then some (c.toNat - 'A'.toNat + 10)
  else none

def octet? (cursor : Cursor) : Option Nat :=
  match cursor.rest with
  | '%' :: a :: b :: _ =>
    match hexValue? a, hexValue? b with
    | some high, some low => some (high * 16 + low)
    | _, _ => none
  | _ => none

/-- How many octets a character has that begins with the given one. -/
def octetCount? (octet : Nat) : Option Nat :=
  if octet < 0x80 then some 1
  else if octet / 32 = 6 then some 2
  else if octet / 16 = 14 then some 3
  else if octet / 8 = 30 then some 4
  else none

def readTrailingOctets (fail : Problem → Mark → SyntaxError) (value : Nat) :
    (count : Nat) → Cursor → Except SyntaxError (Nat × Cursor)
  | 0, cursor => .ok (value, cursor)
  | count + 1, cursor =>
    match octet? cursor with
    | none => .error (fail .expectedOctet cursor.mark)
    | some octet =>
      if octet / 64 = 2 then
        readTrailingOctets fail (value * 64 + octet % 64) count (cursor.skipMany 3)
      else .error (fail .badTrailingOctet cursor.mark)

/-- Reads a character that is written as escaped octets. -/
def readOctets (fail : Problem → Mark → SyntaxError) (cursor : Cursor) :
    Except SyntaxError (Char × Cursor) :=
  match octet? cursor with
  | none => .error (fail .expectedOctet cursor.mark)
  | some octet =>
    match octetCount? octet with
    | none => .error (fail .badLeadingOctet cursor.mark)
    | some count => do
      let lead := if count = 1 then octet else octet % Nat.pow 2 (7 - count)
      let (value, later) ← readTrailingOctets fail lead (count - 1) (cursor.skipMany 3)
      let c := if 1 < count ∧ value < 0x80 then '\ufffd' else Char.ofNat value
      return (c, later)

def readChars (isAllowed : Char → Bool) (fail : Problem → Mark → SyntaxError) :
    (bound : Nat) → List Char → Cursor → Except SyntaxError (List Char × Cursor)
  | 0, text, cursor => .ok (text, cursor)
  | bound + 1, text, cursor =>
    match cursor.rest with
    | [] => .ok (text, cursor)
    | c :: _ =>
      if !isAllowed c then .ok (text, cursor)
      else if c = '%' then
        match readOctets fail cursor with
        | .error error => .error error
        | .ok (c, later) => readChars isAllowed fail bound (c :: text) later
      else readChars isAllowed fail bound (c :: text) cursor.skip

/-- Reads the text of a tag; `handle` is what was taken for a handle in front of it, whose
exclamation mark does not belong to the text. -/
def readText (isVerbatim : Bool) (reading : Reading) (start : Mark) (handle : List Char)
    (cursor : Cursor) : Except SyntaxError (String × Cursor) := do
  let fail := SyntaxError.during reading start
  let isAllowed := if isVerbatim then isVerbatimChar else isTagChar
  let (text, later) ←
    readChars isAllowed fail (cursor.rest.length + 1) (handle.drop 1).reverse cursor
  if handle.isEmpty && text.isEmpty then
    throw (fail .expectedTagText later.mark)
  return (String.ofList text.reverse, later)

/-- An exclamation mark and name characters, with a second exclamation mark if there is one. -/
def takeHandle (cursor : Cursor) : List Char × Cursor :=
  let (name, later) := cursor.skip.takeWhile isNameChar
  if later.sees '!' then ('!' :: name ++ ['!'], later.skip) else ('!' :: name, later)

def isHandle (handle : List Char) : Bool :=
  handle.length ≠ 1 && handle.getLast? = some '!'

structure Parts where
  handle : String
  suffix : String
  cursor : Cursor

def readVerbatim (cursor : Cursor) : Except SyntaxError Parts := do
  let start := cursor.mark
  let (suffix, later) ← readText true .tagText start [] (cursor.skipMany 2)
  if later.sees '>' then return ⟨"", suffix, later.skip⟩
  throw (.during .tag start .expectedTagClose later.mark)

def readShort (cursor : Cursor) : Except SyntaxError Parts := do
  let start := cursor.mark
  let (handle, later) := takeHandle cursor
  if isHandle handle then
    let (suffix, later) ← readText false .tagText start [] later
    return ⟨String.ofList handle, suffix, later⟩
  else
    let (suffix, later) ← readText false .tagText start handle later
    return if suffix.isEmpty then ⟨"", "!", later⟩ else ⟨"!", suffix, later⟩

/-- Reads a tag, at whose exclamation mark the cursor is. -/
def read (inFlow : Bool) (cursor : Cursor) : Except SyntaxError (Token × Cursor) := do
  let start := cursor.mark
  let parts ← if cursor.rest[1]? = some '<' then readVerbatim cursor else readShort cursor
  let later := parts.cursor
  if later.isSpaceAt 0 || (inFlow && later.sees ',') then
    return (⟨.tag parts.handle parts.suffix, start, later.mark⟩, later)
  throw (.during .tag start .expectedBlankOrLineEnd later.mark)

end Tag

/-! ## Directives -/

namespace Directive

def readNumber (start : Mark) (cursor : Cursor) : Except SyntaxError (Nat × Cursor) := do
  let (digits, later) := cursor.takeWhile Char.isDigit
  if digits.isEmpty then
    throw (.during .versionDirective start .expectedVersion cursor.mark)
  if 9 < digits.length then
    throw (.during .versionDirective start .longVersion (cursor.skipMany 9).mark)
  return (digits.foldl (fun n c => n * 10 + (c.toNat - '0'.toNat)) 0, later)

def readVersion (start : Mark) (cursor : Cursor) : Except SyntaxError (TokenKind × Cursor) := do
  let (major, later) ← readNumber start cursor.skipBlanks
  if !later.sees '.' then
    throw (.during .versionDirective start .expectedVersionPoint later.mark)
  let (minor, later) ← readNumber start later.skip
  return (.versionDirective major minor, later)

def readHandle (start : Mark) (cursor : Cursor) : Except SyntaxError (String × Cursor) := do
  if !cursor.sees '!' then
    throw (.during .tagDirectiveHandle start .expectedExclamation cursor.mark)
  let (handle, later) := Tag.takeHandle cursor
  if handle.getLast? ≠ some '!' then
    throw (.during .tagDirectiveHandleEnd start .expectedExclamation later.mark)
  return (String.ofList handle, later)

def readTagDirective (start : Mark) (cursor : Cursor) :
    Except SyntaxError (TokenKind × Cursor) := do
  let (handle, later) ← readHandle start cursor.skipBlanks
  if !later.seesAny isBlank then
    throw (.during .tagDirective start .expectedBlank later.mark)
  let (lead, later) ← Tag.readText true .tagDirectiveText start [] later.skipBlanks
  if !later.isSpaceAt 0 then
    throw (.during .tagDirective start .expectedBlankOrLineEnd later.mark)
  return (.tagDirective handle lead, later)

def readName (start : Mark) (cursor : Cursor) : Except SyntaxError (String × Cursor) := do
  let (name, later) := cursor.takeWhile isNameChar
  if name.isEmpty then
    throw (.during .directive start .expectedDirectiveName later.mark)
  if !later.isSpaceAt 0 then
    throw (.during .directive start .unexpectedInDirectiveName later.mark)
  return (String.ofList name, later)

/-- Reads a directive with its line, at whose percent sign the cursor is. -/
def read (cursor : Cursor) : Except SyntaxError (Token × Cursor) := do
  let start := cursor.mark
  let (name, later) ← readName start cursor.skip
  let (kind, later) ←
    if name = "YAML" then readVersion start later
    else if name = "TAG" then readTagDirective start later
    else throw (.during .directive start .unknownDirective later.mark)
  let lineEnd := later.skipBlanks.skipComment
  if !lineEnd.atLineEnd then
    throw (.during .directive start .expectedLineEnd lineEnd.mark)
  return (⟨kind, start, later.mark⟩, lineEnd.skipBreak)

end Directive

end Statecharts.Yaml
