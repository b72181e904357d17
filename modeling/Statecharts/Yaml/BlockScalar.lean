import Statecharts.Yaml.SyntaxError
import Statecharts.Yaml.Token

/-!
# Literal and folded scalars

A block scalar is the lines below its indicator that are indented deeply enough; unless the
indicator says how deep, the first line with text decides.  A literal scalar keeps its line breaks.
A folded one turns a break between two lines that start with no blank into a space.  The breaks at
the end are kept, reduced to one, or dropped, as the indicator says.
-/

namespace Statecharts.Yaml.BlockScalar

inductive Chomping
  | strip
  | clip
  | keep
  deriving DecidableEq, Repr

structure Header where
  chomping : Chomping := .clip
  /-- The indentation below that of the surrounding block; zero if the text shall decide. -/
  increment : Nat := 0
  cursor : Cursor

def chomping? : Char → Option Chomping
  | '+' => some .keep
  | '-' => some .strip
  | _ => none

def readChomping (header : Header) : Header :=
  match header.cursor.peek?.bind chomping? with
  | some chomping => { header with chomping, cursor := header.cursor.skip }
  | none => header

def readIncrement (start : Mark) (header : Header) : Except SyntaxError Header :=
  match header.cursor.peek? with
  | some '0' => .error (.during .blockScalar start .zeroIndentation header.cursor.mark)
  | some c =>
    if c.isDigit then
      .ok { header with increment := c.toNat - '0'.toNat, cursor := header.cursor.skip }
    else .ok header
  | none => .ok header

/-- Reads the indicators, which may stand in either order, and the rest of their line. -/
def readHeader (cursor : Cursor) : Except SyntaxError Header := do
  let start := cursor.mark
  let first := readChomping { cursor := cursor.skip }
  let second ← readIncrement start first
  let header := if first.cursor = cursor.skip then readChomping second else second
  let cursor := header.cursor.skipBlanks.skipComment
  if cursor.atLineEnd then return { header with cursor := cursor.skipBreak }
  throw (.during .blockScalar start .expectedLineEnd cursor.mark)

/-- What stands between two lines of text. -/
structure Margin where
  /-- The breaks of the empty lines, last one first. -/
  breaks : List (List Char)
  /-- The deepest column reached by the blanks of these lines. -/
  widest : Nat
  /-- Behind the last break. -/
  stop : Mark
  cursor : Cursor

/-- Skips the indentation and the empty lines in front of a line of text.  While the indentation is
not known, which is written as zero, all blanks belong to it. -/
def readMargin (indent : Nat) (breaks : List (List Char)) (widest : Nat) (stop mark : Mark) :
    List Char → Except Mark Margin
  | [] => .ok ⟨breaks, max widest mark.column, stop, ⟨[], mark⟩⟩
  | '\r' :: '\n' :: rest =>
    let next := mark.nextLine 2
    readMargin indent (['\n'] :: breaks) (max widest mark.column) next next rest
  | c :: rest =>
    if isBreak c then
      let next := mark.nextLine 1
      readMargin indent (breakText c :: breaks) (max widest mark.column) next next rest
    else if indent = 0 ∨ mark.column < indent then
      if c = ' ' then readMargin indent breaks widest stop mark.next rest
      else if c = '\t' then .error mark
      else .ok ⟨breaks, max widest mark.column, stop, ⟨c :: rest, mark⟩⟩
    else .ok ⟨breaks, max widest mark.column, stop, ⟨c :: rest, mark⟩⟩

def marginAt (indent : Nat) (start : Mark) (cursor : Cursor) : Except SyntaxError Margin :=
  (readMargin indent [] 0 cursor.mark cursor.mark cursor.rest).mapError
    (.during .blockScalar start .tabInIndentation)

structure Progress where
  /-- The text up to the last line, last character first. -/
  text : List Char
  /-- The break of the last line. -/
  lineBreak : List Char
  /-- The last line starts with a blank. -/
  isBlankLed : Bool
  margin : Margin

/-- The text with the breaks in front of the next line. -/
def Progress.joined (isLiteral isNextBlankLed : Bool) (progress : Progress) : List Char :=
  let breaks := progress.margin.breaks.reverse.flatten
  if !isLiteral && progress.lineBreak = ['\n'] && !progress.isBlankLed && !isNextBlankLed then
    (if breaks.isEmpty then [' '] else breaks).reverse ++ progress.text
  else (progress.lineBreak ++ breaks).reverse ++ progress.text

def Progress.chomped (chomping : Chomping) (progress : Progress) : List Char :=
  match chomping with
  | .strip => progress.text
  | .clip => progress.lineBreak.reverse ++ progress.text
  | .keep => (progress.lineBreak ++ progress.margin.breaks.reverse.flatten).reverse ++ progress.text

def readLines (isLiteral : Bool) (indent : Nat) (start : Mark) :
    (bound : Nat) → Progress → Except SyntaxError Progress
  | 0, progress => .ok progress
  | bound + 1, progress => do
    let cursor := progress.margin.cursor
    if cursor.mark.column ≠ indent || cursor.atEnd then return progress
    let isBlankLed := cursor.seesAny isBlank
    let text := progress.joined isLiteral isBlankLed
    let (line, lineEnd) := cursor.takeWhile (!isBreak ·)
    let (lineBreak, next) := lineEnd.takeBreak
    let margin ← marginAt indent start next
    readLines isLiteral indent start bound ⟨line.reverse ++ text, lineBreak, isBlankLed, margin⟩

/-- Reads a block scalar, at whose indicator the cursor is, in a block with that indentation. -/
def read (isLiteral : Bool) (indent : Int) (cursor : Cursor) :
    Except SyntaxError (Token × Cursor) := do
  let start := cursor.mark
  let header ← readHeader cursor
  let given := if header.increment = 0 then 0 else indent.toNat + header.increment
  let margin ← marginAt given start header.cursor
  let depth := if given = 0 then max margin.widest (max (indent + 1).toNat 1) else given
  let progress ← readLines isLiteral depth start (cursor.rest.length + 1) ⟨[], [], false, margin⟩
  let text := String.ofList (progress.chomped header.chomping).reverse
  let style := if isLiteral then .literal else .folded
  return (⟨.scalar text style, start, progress.margin.stop⟩, progress.margin.cursor)

end Statecharts.Yaml.BlockScalar
