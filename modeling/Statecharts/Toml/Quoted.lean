import Statecharts.Toml.Fault

/-!
# Strings and keys

A basic string stands between quotes and has escapes; a literal one stands between apostrophes and
has none.  Three delimiters in a row open a string of several lines, which may hold one or two
delimiters in a row and may end with them.  A key is a row of names with dots between them; a name
is quoted or consists of ASCII letters, digits, hyphens and underscores.
-/

namespace Statecharts.Toml

namespace Quoted

def isBasicChar (c : Char) : Bool :=
  c = '\t' || c = ' ' || c = '!' || ('#' ≤ c && c ≤ '[') || (']' ≤ c && c ≤ '~') ||
    0x80 ≤ c.toNat

def isLiteralChar (c : Char) : Bool :=
  c = '\t' || (' ' ≤ c && c ≤ '&') || ('(' ≤ c && c ≤ '~') || 0x80 ≤ c.toNat

def hexValue? (c : Char) : Option Nat :=
  if c.isDigit then some (c.toNat - '0'.toNat)
  else if 'a' ≤ c ∧ c ≤ 'f' then some (c.toNat - 'a'.toNat + 10)
  else if 'A' ≤ c ∧ c ≤ 'F' then some (c.toNat - 'A'.toNat + 10)
  else none

/-- A character given by exactly so many hexadecimal digits. -/
def readCode (digits : Nat) (cursor : Cursor) : Except Failure (Char × Cursor) :=
  let text := (cursor.rest.take digits).takeWhile fun c => (hexValue? c).isSome
  if text.length = digits then
    let value := text.foldl (fun n c => n * 16 + (hexValue? c).getD 0) 0
    if h : value.isValidChar then .ok (Char.ofNatAux value h, cursor.behind text)
    else cursor.missBecause outOfRange
  else cursor.miss

def escaped? : Char → Option Char
  | 'b' => some '\x08'
  | 'f' => some '\x0c'
  | 'n' => some '\n'
  | 'r' => some '\r'
  | 't' => some '\t'
  | '\\' => some '\\'
  | '"' => some '"'
  | _ => none

/-- An escape with its backslash. -/
def readEscape (cursor : Cursor) : Except Failure (Char × Cursor) :=
  match cursor.rest with
  | '\\' :: c :: _ =>
    let later := cursor.skip.skip
    match escaped? c with
    | some value => .ok (value, later)
    | none =>
      if c = 'u' then commit (labelled "unicode 4-digit hex code" (readCode 4 later))
      else if c = 'U' then commit (labelled "unicode 8-digit hex code" (readCode 8 later))
      else
        commit (labelled "escape sequence"
          (expecting ["`b`", "`f`", "`n`", "`r`", "`t`", "`u`", "`U`", "`\\`", "`\"`"] later.miss))
  | _ => cursor.miss

/-- The characters of a basic string, last one first, up to what cannot belong to it. -/
def readBasicChars : (bound : Nat) → List Char → Cursor → Except Failure (List Char × Cursor)
  | 0, text, cursor => .ok (text, cursor)
  | bound + 1, text, cursor =>
    match cursor.rest with
    | c :: _ =>
      if isBasicChar c then readBasicChars bound (c :: text) cursor.skip
      else
        match readEscape cursor with
        | .ok (c, later) => readBasicChars bound (c :: text) later
        | .error (.miss _) => .ok (text, cursor)
        | .error failure => .error failure
    | [] => .ok (text, cursor)

def readBasic (cursor : Cursor) : Except Failure (String × Cursor) := do
  let (text, cursor) ← readBasicChars (cursor.rest.length + 1) [] cursor.skip
  let (_, later) ← commit (labelled "basic string" (cursor.readChar '"'))
  return (String.ofList text.reverse, later)

def readLiteral (cursor : Cursor) : Except Failure (String × Cursor) := do
  let (text, cursor) := cursor.skip.takeWhile isLiteralChar
  let (_, later) ← commit (labelled "literal string" (cursor.readChar '\''))
  return (String.ofList text, later)

/-- A backslash before the end of a line, with all blanks and line breaks that follow. -/
def escapedBreak? (cursor : Cursor) : Option Cursor :=
  if cursor.sees '\\' then
    match cursor.skip.skipBlanks.readNewline with
    | .ok (_, later) => some (skipLines (later.rest.length + 1) later)
    | .error _ => none
  else none
where
  skipLines : (bound : Nat) → Cursor → Cursor
    | 0, cursor => cursor
    | bound + 1, cursor =>
      match cursor.skipBlanks.readNewline with
      | .ok (_, later) => skipLines bound later
      | .error _ => cursor.skipBlanks

/-- The delimiters that belong to the text of a string of several lines: one or two of them before
something else or before the closing three. -/
def innerDelimiters (delimiter : Char) (rest : List Char) : List Char :=
  let row := rest.takeWhile (· = delimiter)
  if row.length < 3 then
    if row.length = rest.length then [] else row
  else row.take (min (row.length - 3) 2)

/-- The text of a string of several lines, last character first. -/
def readLinesOf (isBasic : Bool) (delimiter : Char) :
    (bound : Nat) → List Char → Cursor → Except Failure (List Char × Cursor)
  | 0, text, cursor => .ok (text, cursor)
  | bound + 1, text, cursor =>
    match cursor.rest with
    | [] => .ok (text, cursor)
    | c :: rest =>
      if c = delimiter then
        let inner := innerDelimiters delimiter cursor.rest
        if inner.isEmpty || rest.take 2 = [delimiter, delimiter] then
          .ok (inner ++ text, cursor.behind inner)
        else readLinesOf isBasic delimiter bound (inner ++ text) (cursor.behind inner)
      else if (if isBasic then isBasicChar c else isLiteralChar c) then
        readLinesOf isBasic delimiter bound (c :: text) cursor.skip
      else
        match cursor.readNewline with
        | .ok (_, later) => readLinesOf isBasic delimiter bound ('\n' :: text) later
        | .error _ =>
          match if isBasic then escapedBreak? cursor else none with
          | some later => readLinesOf isBasic delimiter bound text later
          | none =>
            match if isBasic then readEscape cursor else cursor.miss with
            | .ok (c, later) => readLinesOf isBasic delimiter bound (c :: text) later
            | .error (.miss _) => .ok (text, cursor)
            | .error failure => .error failure

def readMultiline (isBasic : Bool) (delimiter : Char) (label : String) (cursor : Cursor) :
    Except Failure (String × Cursor) :=
  labelled label <| commit do
    let opened := cursor.behind [delimiter, delimiter, delimiter]
    let (_, body) ← optional Cursor.readNewline opened
    let (text, closing) ← readLinesOf isBasic delimiter (body.rest.length + 1) [] body
    let (_, later) ← closing.readText [delimiter, delimiter, delimiter]
    return (String.ofList text.reverse, later)

/-- Reads a string, at whose first delimiter the cursor is. -/
def read (cursor : Cursor) : Except Failure (String × Cursor) :=
  match cursor.rest with
  | '"' :: '"' :: '"' :: _ => readMultiline true '"' "multiline basic string" cursor
  | '"' :: _ => readBasic cursor
  | '\'' :: '\'' :: '\'' :: _ => readMultiline false '\'' "multiline literal string" cursor
  | '\'' :: _ => readLiteral cursor
  | _ => cursor.miss

end Quoted

/-- One name of a key. -/
structure Name where
  text : String
  span : Span
  deriving DecidableEq, Repr

/-- The names of a key; all but the last one are names of tables. -/
structure Key where
  outer : List Name
  last : Name
  deriving DecidableEq, Repr

namespace Key

def outerTexts (key : Key) : List String :=
  key.outer.map Name.text

def texts (key : Key) : List String :=
  key.outerTexts ++ [key.last.text]

/-- Arrays, inline tables and dotted keys may not be nested this deep. -/
def nestingLimit : Nat := 80

def recursionLimit : String := "recursion limit exceeded"

def isBareChar (c : Char) : Bool :=
  c.isAlphanum || c = '-' || c = '_'

def readText (cursor : Cursor) : Except Failure (String × Cursor) :=
  match cursor.peek? with
  | some '"' => Quoted.readBasic cursor
  | some '\'' => Quoted.readLiteral cursor
  | _ =>
    let (text, later) := cursor.takeWhile isBareChar
    if text.isEmpty then cursor.miss else .ok (String.ofList text, later)

/-- A name, and the blanks around it. -/
def readName (cursor : Cursor) : Except Failure (Name × Cursor) := do
  let start := cursor.skipBlanks
  let (text, later) ← readText start
  return (⟨text, ⟨start.offset, later.offset⟩⟩, later.skipBlanks)

/-- Further names behind dots.  A dot without a name behind it does not belong to the key. -/
def readMore : (bound : Nat) → Key → Cursor → Except Failure (Key × Cursor)
  | 0, key, cursor => .ok (key, cursor)
  | bound + 1, key, cursor =>
    if cursor.sees '.' then
      match readName cursor.skip with
      | .ok (name, later) => readMore bound ⟨key.outer ++ [key.last], name⟩ later
      | .error (.miss _) => .ok (key, cursor)
      | .error failure => .error failure
    else .ok (key, cursor)

def read (cursor : Cursor) : Except Failure (Key × Cursor) := do
  let (key, later) ← labelled "key" do
    let (first, cursor) ← readName cursor
    readMore (cursor.rest.length + 1) ⟨[], first⟩ cursor
  if nestingLimit ≤ key.outer.length + 1 then
    cursor.missBecause recursionLimit
  return (key, later)

def escape (c : Char) : List Char :=
  match c with
  | '\x08' => ['\\', 'b']
  | '\t' => ['\\', 't']
  | '\n' => ['\\', 'n']
  | '\x0c' => ['\\', 'f']
  | '\r' => ['\\', 'r']
  | '"' => ['\\', '"']
  | '\\' => ['\\', '\\']
  | c =>
    if c.toNat < 0x20 ∨ c.toNat = 0x7f then
      let digits := (Nat.toDigits 16 c.toNat).map Char.toUpper
      ['\\', 'u'] ++ List.replicate (4 - digits.length) '0' ++ digits
    else [c]

/-- A name as it may be written in a text. -/
def written (name : String) : String :=
  if !name.isEmpty && name.toList.all isBareChar then name
  else String.ofList ('"' :: name.toList.flatMap escape ++ ['"'])

end Key

end Statecharts.Toml
