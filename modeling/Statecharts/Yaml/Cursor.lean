/-!
# Places in a YAML text

A mark counts code points from zero: in the whole text, in lines, and in the line.  A carriage
return with the line feed behind it is one line break but two code points.  Line breaks are read as
line feeds, except the two separators of Unicode, which are kept.
-/

namespace Statecharts.Yaml

structure Mark where
  index : Nat
  line : Nat
  column : Nat
  deriving DecidableEq, Repr

namespace Mark

def start : Mark :=
  ⟨0, 0, 0⟩

def next (mark : Mark) : Mark :=
  ⟨mark.index + 1, mark.line, mark.column + 1⟩

/-- The start of the next line, behind a break of the given length. -/
def nextLine (mark : Mark) (length : Nat) : Mark :=
  ⟨mark.index + length, mark.line + 1, 0⟩

def isTextStart (mark : Mark) : Bool :=
  mark.line = 0 && mark.column = 0

/-- Messages count lines and columns from one. -/
def text (mark : Mark) : String :=
  s!"line {mark.line + 1} column {mark.column + 1}"

end Mark

def isBlank (c : Char) : Bool :=
  c = ' ' || c = '\t'

def isBreak (c : Char) : Bool :=
  c = '\n' || c = '\r' || c = '\x85' || c = '\u2028' || c = '\u2029'

/-- The text that a line break stands for. -/
def breakText (c : Char) : List Char :=
  if c = '\u2028' ∨ c = '\u2029' then [c] else ['\n']

/-- The characters of anchors, directive names and tag handles. -/
def isNameChar (c : Char) : Bool :=
  c.isAlphanum || c = '_' || c = '-'

/-- The rest of a text, and the mark where it begins. -/
structure Cursor where
  rest : List Char
  mark : Mark
  deriving DecidableEq, Repr

namespace Cursor

def ofText (text : List Char) : Cursor :=
  ⟨text, .start⟩

def peek? (cursor : Cursor) : Option Char :=
  cursor.rest.head?

def sees (cursor : Cursor) (c : Char) : Bool :=
  cursor.peek? = some c

def seesAny (cursor : Cursor) (p : Char → Bool) : Bool :=
  cursor.peek?.any p

def atEnd (cursor : Cursor) : Bool :=
  cursor.rest.isEmpty

def atLineEnd (cursor : Cursor) : Bool :=
  cursor.peek?.all isBreak

/-- Whether the character at a distance is a blank or a break, or the text ends before it. -/
def isSpaceAt (cursor : Cursor) (distance : Nat) : Bool :=
  cursor.rest[distance]?.all fun c => isBlank c || isBreak c

def skip (cursor : Cursor) : Cursor :=
  match cursor.rest with
  | [] => cursor
  | _ :: rest => ⟨rest, cursor.mark.next⟩

def skipMany (cursor : Cursor) (count : Nat) : Cursor :=
  count.repeat skip cursor

/-- Takes characters of a class that has no line breaks. -/
def takeWhile (cursor : Cursor) (p : Char → Bool) : List Char × Cursor :=
  let taken := cursor.rest.takeWhile p
  (taken, ⟨cursor.rest.dropWhile p, taken.foldl (fun mark _ => mark.next) cursor.mark⟩)

def skipWhile (cursor : Cursor) (p : Char → Bool) : Cursor :=
  (cursor.takeWhile p).2

def skipBlanks (cursor : Cursor) : Cursor :=
  cursor.skipWhile isBlank

/-- A comment goes on up to the end of its line. -/
def skipComment (cursor : Cursor) : Cursor :=
  if cursor.sees '#' then cursor.skipWhile (!isBreak ·) else cursor

def takeBreak (cursor : Cursor) : List Char × Cursor :=
  match cursor.rest with
  | '\r' :: '\n' :: rest => (['\n'], ⟨rest, cursor.mark.nextLine 2⟩)
  | c :: rest => if isBreak c then (breakText c, ⟨rest, cursor.mark.nextLine 1⟩) else ([], cursor)
  | [] => ([], cursor)

def skipBreak (cursor : Cursor) : Cursor :=
  cursor.takeBreak.2

def seesAtLineStart (cursor : Cursor) (indicator : List Char) : Bool :=
  cursor.mark.column = 0 && cursor.rest.take 3 = indicator && cursor.isSpaceAt 3

def atDocumentStart (cursor : Cursor) : Bool :=
  cursor.seesAtLineStart ['-', '-', '-']

def atDocumentEnd (cursor : Cursor) : Bool :=
  cursor.seesAtLineStart ['.', '.', '.']

def atDocumentIndicator (cursor : Cursor) : Bool :=
  cursor.atDocumentStart || cursor.atDocumentEnd

end Cursor

/-- Characters that a text may contain; byte order marks are among them. -/
def isAllowed (c : Char) : Bool :=
  c = '\t' || c = '\n' || c = '\r' || ' ' ≤ c && c ≤ '~' || c = '\x85' ||
    '\xa0' ≤ c && c ≤ '\ufffd' || 0x10000 ≤ c.toNat

/-! ## Decoding

A text is decoded in pieces, each of them as a whole when its first character is asked for.  A
character that is not allowed is therefore noticed before anything in its piece is read, and only
after everything in front of the piece.
-/

/-- A piece has at most so many bytes, and no piece ends inside a character. -/
def pieceSize : Nat := 16384

/-- A text that was cut into pieces up to some character. -/
structure Pieces where
  bytes : Nat := 0
  characters : Nat := 0
  /-- The bytes of the last piece, and the characters in front of it. -/
  pieceBytes : Nat := 0
  pieceStart : Nat := 0
  deriving DecidableEq, Repr

def Pieces.next (pieces : Pieces) (c : Char) : Pieces :=
  let read : Pieces :=
    { pieces with
      bytes := pieces.bytes + c.utf8Size
      characters := pieces.characters + 1 }
  if pieces.pieceBytes + c.utf8Size ≤ pieceSize then
    { read with pieceBytes := pieces.pieceBytes + c.utf8Size }
  else { read with pieceBytes := c.utf8Size, pieceStart := pieces.characters }

/-- A character that is not allowed: the bytes in front of it, and the characters in front of its
piece. -/
structure ControlCharacter where
  offset : Nat
  decoded : Nat
  deriving DecidableEq, Repr

def controlCharacter? (pieces : Pieces) : List Char → Option ControlCharacter
  | [] => none
  | c :: rest =>
    let next := pieces.next c
    if isAllowed c then controlCharacter? next rest
    else some ⟨pieces.bytes, next.pieceStart⟩

end Statecharts.Yaml
