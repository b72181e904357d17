/-!
# Faults of a TOML text

Reading goes forward byte by byte.  A reading that does not apply is a miss, and another one may be
tried at the same place; a fatal fault ends the reading of the whole text.  A fault tells what was
being read, innermost first, and what was expected in its place.
-/

namespace Statecharts.Toml

/-- The rest of a text, and how many bytes precede it. -/
structure Cursor where
  rest : List Char
  offset : Nat
  deriving DecidableEq, Repr

/-- The bytes of a text from `start` up to `stop`. -/
structure Span where
  start : Nat
  stop : Nat
  deriving DecidableEq, Repr

structure Fault where
  offset : Nat
  /-- What is invalid. -/
  label : Option String := none
  expected : List String := []
  cause : Option String := none
  deriving DecidableEq, Repr

namespace Fault

def lines (fault : Fault) : List String :=
  (fault.label.map ("invalid " ++ ·)).toList ++
    (if fault.expected.isEmpty then [] else ["expected " ++ ", ".intercalate fault.expected]) ++
    fault.cause.toList

def text (fault : Fault) : String :=
  "\n".intercalate fault.lines

end Fault

inductive Failure
  | miss (fault : Fault)
  | fatal (fault : Fault)
  deriving DecidableEq, Repr

namespace Failure

def map (f : Fault → Fault) : Failure → Failure
  | .miss fault => .miss (f fault)
  | .fatal fault => .fatal (f fault)

def fault : Failure → Fault
  | .miss fault => fault
  | .fatal fault => fault

end Failure

/-- No other reading may be tried. -/
def commit {α : Type} (read : Except Failure α) : Except Failure α :=
  read.mapError fun failure => .fatal failure.fault

/-- Names what is being read, unless something inside it was named. -/
def labelled {α : Type} (label : String) (read : Except Failure α) : Except Failure α :=
  read.mapError (.map fun fault => { fault with label := fault.label <|> some label })

def expecting {α : Type} (expected : List String) (read : Except Failure α) :
    Except Failure α :=
  read.mapError (.map fun fault => { fault with expected := fault.expected ++ expected })

/-- Tries another reading after a miss. -/
def orElse {α : Type} (read other : Except Failure α) : Except Failure α :=
  match read with
  | .error (.miss _) => other
  | result => result

/-- A reading that may be left out. -/
def optional {α : Type} (read : Cursor → Except Failure (α × Cursor)) (cursor : Cursor) :
    Except Failure (Option α × Cursor) :=
  match read cursor with
  | .ok (value, later) => .ok (some value, later)
  | .error (.miss _) => .ok (none, cursor)
  | .error failure => .error failure

def outOfRange : String := "value is out of range"

namespace Cursor

def ofText (text : String) : Cursor :=
  ⟨text.toList, 0⟩

def peek? (cursor : Cursor) : Option Char :=
  cursor.rest.head?

def sees (cursor : Cursor) (c : Char) : Bool :=
  cursor.peek? = some c

def atEnd (cursor : Cursor) : Bool :=
  cursor.rest.isEmpty

def miss {α : Type} (cursor : Cursor) : Except Failure α :=
  .error (.miss { offset := cursor.offset })

def missBecause {α : Type} (cursor : Cursor) (cause : String) : Except Failure α :=
  .error (.miss { offset := cursor.offset, cause := some cause })

def byteCount (text : List Char) : Nat :=
  text.foldl (fun bytes c => bytes + c.utf8Size) 0

/-- The cursor behind the given characters, with which the rest begins. -/
def behind (cursor : Cursor) (text : List Char) : Cursor :=
  ⟨cursor.rest.drop text.length, cursor.offset + byteCount text⟩

def skip (cursor : Cursor) : Cursor :=
  cursor.behind (cursor.rest.take 1)

def takeWhile (cursor : Cursor) (p : Char → Bool) : List Char × Cursor :=
  let text := cursor.rest.takeWhile p
  (text, cursor.behind text)

def readOne (p : Char → Bool) (cursor : Cursor) : Except Failure (Char × Cursor) :=
  match cursor.rest with
  | [] => cursor.miss
  | c :: _ => if p c then .ok (c, cursor.skip) else cursor.miss

def readChar (c : Char) (cursor : Cursor) : Except Failure (Unit × Cursor) :=
  if cursor.sees c then .ok ((), cursor.skip) else cursor.miss

def readText (text : List Char) (cursor : Cursor) : Except Failure (Unit × Cursor) :=
  if text.isPrefixOf cursor.rest then .ok ((), cursor.behind text) else cursor.miss

def isBlank (c : Char) : Bool :=
  c = ' ' || c = '\t'

def skipBlanks (cursor : Cursor) : Cursor :=
  (cursor.takeWhile isBlank).2

/-- A line feed, alone or behind a carriage return. -/
def readNewline (cursor : Cursor) : Except Failure (Unit × Cursor) :=
  match cursor.rest with
  | '\n' :: _ => .ok ((), cursor.skip)
  | '\r' :: '\n' :: _ => .ok ((), cursor.skip.skip)
  | '\r' :: _ => cursor.skip.miss
  | _ => cursor.miss

def isCommentChar (c : Char) : Bool :=
  c = '\t' || (' ' ≤ c && c ≤ '~') || 0x80 ≤ c.toNat

def skipComment (cursor : Cursor) : Cursor :=
  if cursor.sees '#' then (cursor.skip.takeWhile isCommentChar).2 else cursor

/-- The end of a line or of the text. -/
def readLineEnd (cursor : Cursor) : Except Failure (Unit × Cursor) :=
  if cursor.atEnd then .ok ((), cursor)
  else
    match cursor.readNewline with
    | .ok (_, later) => .ok ((), later)
    | .error _ => cursor.miss

/-- Blanks, a comment and the end of the line. -/
def readLineRest (cursor : Cursor) : Except Failure (Unit × Cursor) :=
  cursor.skipBlanks.skipComment.readLineEnd

/-- Blanks, line breaks and comments, each of which ends with its line. -/
def skipSpace : (bound : Nat) → Cursor → Except Failure Cursor
  | 0, cursor => .ok cursor
  | bound + 1, cursor =>
    let cursor := cursor.skipBlanks
    match cursor.peek? with
    | some '#' => do
      let (_, later) ← cursor.skipComment.readNewline
      skipSpace bound later
    | some '\n' | some '\r' => do
      let (_, later) ← cursor.readNewline
      skipSpace bound later
    | _ => .ok cursor

end Cursor

end Statecharts.Toml
