import Statecharts.Yaml.SyntaxError
import Statecharts.Yaml.Token

/-!
# Plain and quoted scalars

Such a scalar is a row of words with gaps of blanks and line breaks between them.  A gap without a
break is kept as it is; a single break becomes a space; of several breaks the first is dropped.  A
break behind a backslash is dropped without leaving a space.
-/

namespace Statecharts.Yaml

structure Gap where
  spaces : List Char := []
  breaks : List (List Char) := []
  deriving DecidableEq, Repr

namespace Gap

def hasBreak (gap : Gap) : Bool :=
  !gap.breaks.isEmpty

def text (gap : Gap) : List Char :=
  match gap.breaks with
  | [] => gap.spaces
  | [['\n']] => [' ']
  | ['\n'] :: more => more.flatten
  | breaks => breaks.flatten

/-- Reads a gap; `spaces` and `breaks` hold what was read of it, last one first.  On a new line a
tab in a column before the limit is a fault. -/
def readFrom (tabLimit : Nat) (spaces : List Char) (breaks : List (List Char)) (mark : Mark) :
    List Char → Except Mark (Gap × Cursor)
  | [] => .ok (⟨spaces.reverse, breaks.reverse⟩, ⟨[], mark⟩)
  | '\r' :: '\n' :: rest => readFrom tabLimit spaces (['\n'] :: breaks) (mark.nextLine 2) rest
  | c :: rest =>
    if isBreak c then readFrom tabLimit spaces (breakText c :: breaks) (mark.nextLine 1) rest
    else if isBlank c then
      if c = '\t' ∧ breaks ≠ [] ∧ mark.column < tabLimit then .error mark
      else readFrom tabLimit (c :: spaces) breaks mark.next rest
    else .ok (⟨spaces.reverse, breaks.reverse⟩, ⟨c :: rest, mark⟩)

end Gap

/-! ## Plain scalars -/

namespace PlainScalar

def isFlowIndicator (c : Char) : Bool :=
  c = ',' || c = '[' || c = ']' || c = '{' || c = '}'

/-- Inside flow collections a colon of a plain scalar cannot stand before these. -/
def spoilsColon (c : Char) : Bool :=
  isFlowIndicator c || c = '?'

/-- Reads a word; in front of it are the characters read so far, last one first. -/
def readWord (inFlow : Bool) (read : List Char) (mark : Mark) :
    List Char → Except Mark (List Char × Cursor)
  | [] => .ok (read, ⟨[], mark⟩)
  | c :: rest =>
    if isBlank c || isBreak c then .ok (read, ⟨c :: rest, mark⟩)
    else if inFlow && c = ':' && rest.head?.any spoilsColon then .error mark
    else if c = ':' && rest.head?.all (fun d => isBlank d || isBreak d) then
      .ok (read, ⟨c :: rest, mark⟩)
    else if inFlow && isFlowIndicator c then .ok (read, ⟨c :: rest, mark⟩)
    else readWord inFlow (c :: read) mark.next rest

structure Result where
  token : Token
  /-- A line break was met behind the last word. -/
  endsLine : Bool
  cursor : Cursor

structure Progress where
  /-- The text read so far, last character first. -/
  text : List Char
  stop : Mark
  gap : Gap
  cursor : Cursor

def Progress.result (start : Mark) (progress : Progress) : Result where
  token := ⟨.scalar (String.ofList progress.text.reverse) .plain, start, progress.stop⟩
  endsLine := progress.gap.hasBreak
  cursor := progress.cursor

/-- The text with a word behind it; a word that is empty leaves the gap open. -/
def Progress.addWord (progress : Progress) (word : List Char) (cursor : Cursor) : Progress :=
  if word.isEmpty then progress
  else
    { text := word ++ (progress.gap.text.reverse ++ progress.text)
      stop := cursor.mark
      gap := {}
      cursor }

def readWords (inFlow : Bool) (indent : Nat) (start : Mark) :
    (bound : Nat) → Progress → Except SyntaxError Result
  | 0, progress => .ok (progress.result start)
  | bound + 1, progress =>
    if progress.cursor.atDocumentIndicator || progress.cursor.sees '#' then
      .ok (progress.result start)
    else
      match readWord inFlow [] progress.cursor.mark progress.cursor.rest with
      | .error mark => .error (.during .plainScalar start .unexpectedColon mark)
      | .ok (word, cursor) =>
        let progress := progress.addWord word cursor
        if cursor.seesAny fun c => isBlank c || isBreak c then
          match Gap.readFrom indent [] [] cursor.mark cursor.rest with
          | .error mark => .error (.during .plainScalar start .tabBeforeText mark)
          | .ok (gap, cursor) =>
            let progress := { progress with gap, cursor }
            if !inFlow && cursor.mark.column < indent then .ok (progress.result start)
            else readWords inFlow indent start bound progress
        else .ok (progress.result start)

/-- Reads a plain scalar; its later lines are indented by at least `indent` columns. -/
def read (inFlow : Bool) (indent : Nat) (cursor : Cursor) : Except SyntaxError Result :=
  readWords inFlow indent cursor.mark (cursor.rest.length + 1) ⟨[], cursor.mark, {}, cursor⟩

end PlainScalar

/-! ## Quoted scalars -/

namespace QuotedScalar

def hexValue? (c : Char) : Option Nat :=
  if c.isDigit then some (c.toNat - '0'.toNat)
  else if 'a' ≤ c ∧ c ≤ 'f' then some (c.toNat - 'a'.toNat + 10)
  else if 'A' ≤ c ∧ c ≤ 'F' then some (c.toNat - 'A'.toNat + 10)
  else none

def escaped? : Char → Option Char
  | '0' => some '\x00'
  | 'a' => some '\x07'
  | 'b' => some '\x08'
  | 't' => some '\t'
  | '\t' => some '\t'
  | 'n' => some '\n'
  | 'v' => some '\x0b'
  | 'f' => some '\x0c'
  | 'r' => some '\r'
  | 'e' => some '\x1b'
  | ' ' => some ' '
  | '"' => some '"'
  | '/' => some '/'
  | '\\' => some '\\'
  | 'N' => some '\x85'
  | '_' => some '\xa0'
  | 'L' => some '\u2028'
  | 'P' => some '\u2029'
  | _ => none

/-- How many hexadecimal digits follow the letter of an escape. -/
def codeLength? : Char → Option Nat
  | 'x' => some 2
  | 'u' => some 4
  | 'U' => some 8
  | _ => none

def readCode (start : Mark) (value : Nat) :
    (digits : Nat) → Cursor → Except SyntaxError (Nat × Cursor)
  | 0, cursor => .ok (value, cursor)
  | digits + 1, cursor =>
    match cursor.peek?.bind hexValue? with
    | some d => readCode start (value * 16 + d) digits cursor.skip
    | none => .error (.during .quotedEscape start .expectedHexadecimal cursor.mark)

/-- The character of an escape, which begins with a backslash.  Faults in its digits are placed at
the first of them. -/
def readEscape (start : Mark) (cursor : Cursor) : Except SyntaxError (Char × Cursor) :=
  let behind := cursor.skipMany 2
  match cursor.skip.peek? with
  | none => .error (.during .quotedEscape start .unknownEscape cursor.mark)
  | some c =>
    match escaped? c, codeLength? c with
    | some value, _ => .ok (value, behind)
    | none, some digits =>
      match readCode start 0 digits behind with
      | .error error => .error { error with place := .mark behind.mark }
      | .ok (value, later) =>
        if h : value.isValidChar then .ok (Char.ofNatAux value h, later)
        else .error (.during .quotedEscape start .badCodePoint behind.mark)
    | none, none => .error (.during .quotedEscape start .unknownEscape cursor.mark)

structure Word where
  /-- The text read so far, last character first. -/
  text : List Char
  /-- The word ended with a break behind a backslash. -/
  escapedBreak : Bool
  cursor : Cursor

def quoteOf (isSingle : Bool) : Char :=
  if isSingle then '\'' else '"'

def readWord (isSingle : Bool) (start : Mark) :
    (bound : Nat) → List Char → Cursor → Except SyntaxError Word
  | 0, text, cursor => .ok ⟨text, false, cursor⟩
  | bound + 1, text, cursor =>
    match cursor.rest with
    | [] => .ok ⟨text, false, cursor⟩
    | c :: rest =>
      if isBlank c || isBreak c then .ok ⟨text, false, cursor⟩
      else if isSingle && c = '\'' && rest.head? = some '\'' then
        readWord isSingle start bound ('\'' :: text) (cursor.skipMany 2)
      else if c = quoteOf isSingle then .ok ⟨text, false, cursor⟩
      else if !isSingle && c = '\\' then
        if rest.head?.any isBreak then .ok ⟨text, true, cursor.skip.skipBreak⟩
        else
          match readEscape start cursor with
          | .error error => .error error
          | .ok (value, later) => readWord isSingle start bound (value :: text) later
      else readWord isSingle start bound (c :: text) cursor.skip

def readWords (isSingle : Bool) (start : Mark) :
    (bound : Nat) → List Char → Cursor → Except SyntaxError (List Char × Cursor)
  | 0, _, cursor => .error (.during .quotedScalar start .unexpectedEnd cursor.mark)
  | bound + 1, text, cursor => do
    if cursor.atDocumentIndicator then
      throw (.during .quotedScalar start .unexpectedDocument cursor.mark)
    if cursor.atEnd then
      throw (.during .quotedScalar start .unexpectedEnd cursor.mark)
    let word ← readWord isSingle start (cursor.rest.length + 1) text cursor
    if word.cursor.sees (quoteOf isSingle) then return (word.text, word.cursor)
    match Gap.readFrom 0 [] (if word.escapedBreak then [[]] else []) word.cursor.mark
        word.cursor.rest with
    | .error mark => throw (.during .quotedScalar start .tabBeforeText mark)
    | .ok (gap, later) =>
      readWords isSingle start bound (gap.text.reverse ++ word.text) later

/-- Reads a quoted scalar, at whose opening quote the cursor is. -/
def read (isSingle : Bool) (cursor : Cursor) : Except SyntaxError (Token × Cursor) := do
  let start := cursor.mark
  let (text, closing) ← readWords isSingle start (cursor.rest.length + 1) [] cursor.skip
  let style := if isSingle then .singleQuoted else .doubleQuoted
  let later := closing.skip
  return (⟨.scalar (String.ofList text.reverse) style, start, later.mark⟩, later)

end QuotedScalar

end Statecharts.Yaml
