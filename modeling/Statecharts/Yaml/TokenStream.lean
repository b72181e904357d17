import Statecharts.Yaml.BlockScalar
import Statecharts.Yaml.FlowScalar
import Statecharts.Yaml.Tag

/-!
# The tokens of a text

Outside flow collections the indentation is kept on a stack: a token further to the right opens a
block, and one further to the left closes blocks.  Where a key could begin, its place is remembered;
a colon on the same line, within a thousand characters, makes it a key.  A key that begins a line of
a block mapping is required to become one.

When the text has a fault, only those tokens count that do not depend on what is behind it: a token
that might still have become a key, and all tokens behind it, are dropped.  A character that is not
allowed is such a fault as soon as the piece of the text that has it is needed.
-/

namespace Statecharts.Yaml

/-- A place where a key without its own indicator could begin. -/
structure KeyPlace where
  isRequired : Bool
  /-- How many tokens precede the key. -/
  number : Nat
  mark : Mark
  deriving DecidableEq, Repr

structure Scanner where
  cursor : Cursor
  flowLevel : Nat := 0
  keyAllowed : Bool := true
  /-- For each open flow collection, innermost first, and for the block around them. -/
  keyPlaces : List (Option KeyPlace) := [none]
  /-- The column of the innermost block; `-1` outside every block. -/
  indent : Int := -1
  outerIndents : List Int := []
  /-- The tokens found so far, last one first. -/
  tokens : List Token
  count : Nat
  controlCharacter? : Option ControlCharacter := none

namespace Scanner

def ofText (text : List Char) (controlCharacter? : Option ControlCharacter) : Scanner where
  cursor := .ofText text
  tokens := [⟨.streamStart, .start, .start⟩]
  count := 1
  controlCharacter?

def inFlow (scanner : Scanner) : Bool :=
  0 < scanner.flowLevel

def column (scanner : Scanner) : Int :=
  scanner.cursor.mark.column

def addToken (scanner : Scanner) (token : Token) : Scanner :=
  { scanner with tokens := token :: scanner.tokens, count := scanner.count + 1 }

def addHere (scanner : Scanner) (kind : TokenKind) : Scanner :=
  scanner.addToken ⟨kind, scanner.cursor.mark, scanner.cursor.mark⟩

/-- Puts a token behind the first `number` tokens. -/
def insertToken (scanner : Scanner) (number : Nat) (token : Token) : Scanner :=
  let later := scanner.count - number
  { scanner with
    tokens := scanner.tokens.take later ++ token :: scanner.tokens.drop later
    count := scanner.count + 1 }

/-- Adds the token of an indicator that is some characters long. -/
def addIndicator (scanner : Scanner) (kind : TokenKind) (length : Nat) : Scanner :=
  let next := scanner.cursor.skipMany length
  { scanner.addToken ⟨kind, scanner.cursor.mark, next.mark⟩ with cursor := next }

/-- Adds a token that was read together with the cursor behind it. -/
def addRead (scanner : Scanner) (read : Token × Cursor) : Scanner :=
  { scanner.addToken read.1 with cursor := read.2 }

/-! ## Keys -/

def missingColon (place : KeyPlace) (mark : Mark) : SyntaxError :=
  .during .simpleKey place.mark .expectedColon mark

def isStale (place : KeyPlace) (mark : Mark) : Bool :=
  place.mark.line < mark.line || place.mark.index + 1024 < mark.index

/-- Forgets the places that are too far behind. -/
def dropStaleKeys (scanner : Scanner) : Except SyntaxError Scanner := do
  let mark := scanner.cursor.mark
  let keyPlaces ← scanner.keyPlaces.mapM fun
    | some place =>
      if isStale place mark then
        if place.isRequired then throw (missingColon place mark) else return none
      else return some place
    | none => return none
  return { scanner with keyPlaces }

def currentKey? (scanner : Scanner) : Option KeyPlace :=
  scanner.keyPlaces.head?.join

def setCurrentKey (scanner : Scanner) (place : Option KeyPlace) : Scanner :=
  { scanner with keyPlaces := place :: scanner.keyPlaces.tail }

def dropCurrentKey (scanner : Scanner) : Except SyntaxError Scanner :=
  match scanner.currentKey? with
  | some place =>
    if place.isRequired then .error (missingColon place scanner.cursor.mark)
    else .ok (scanner.setCurrentKey none)
  | none => .ok scanner

/-- Remembers that a key could begin here. -/
def noteKey (scanner : Scanner) : Except SyntaxError Scanner :=
  if scanner.keyAllowed then do
    let isRequired := !scanner.inFlow && scanner.indent = scanner.column
    let dropped ← scanner.dropCurrentKey
    return dropped.setCurrentKey (some ⟨isRequired, scanner.count, scanner.cursor.mark⟩)
  else .ok scanner

def withKeyAllowed (scanner : Scanner) (keyAllowed : Bool) : Scanner :=
  { scanner with keyAllowed }

/-! ## Blocks -/

/-- Opens a block at a column further to the right; its token stands behind the first `number`
tokens. -/
def openBlock (scanner : Scanner) (kind : TokenKind) (column : Int) (mark : Mark) (number : Nat) :
    Scanner :=
  if !scanner.inFlow && scanner.indent < column then
    { scanner.insertToken number ⟨kind, mark, mark⟩ with
      indent := column
      outerIndents := scanner.indent :: scanner.outerIndents }
  else scanner

def openBlockHere (scanner : Scanner) (kind : TokenKind) : Scanner :=
  scanner.openBlock kind scanner.column scanner.cursor.mark scanner.count

/-- Closes the blocks that are further to the right than a column. -/
def closeBlocks (column : Int) : List Int → Scanner → Scanner
  | outer :: more, scanner =>
    if column < scanner.indent then
      closeBlocks column more
        { scanner.addHere .blockEnd with indent := outer, outerIndents := more }
    else scanner
  | [], scanner => scanner

def closeBlocksTo (scanner : Scanner) (column : Int) : Scanner :=
  if scanner.inFlow then scanner else closeBlocks column scanner.outerIndents scanner

/-! ## Tokens -/

/-- Skips blanks, comments and line breaks.  A line break outside flow collections allows a key.
Tabs are not skipped where a key may begin in a block. -/
def skipToToken : (bound : Nat) → Scanner → Scanner
  | 0, scanner => scanner
  | bound + 1, scanner =>
    let cursor := scanner.cursor
    let cursor := if cursor.mark.column = 0 && cursor.sees '\ufeff' then cursor.skip else cursor
    let skipsTabs := scanner.inFlow || !scanner.keyAllowed
    let cursor := (cursor.skipWhile fun c => c = ' ' || (skipsTabs && c = '\t')).skipComment
    if cursor.seesAny isBreak then
      skipToToken bound
        { scanner with
          cursor := cursor.skipBreak
          keyAllowed := scanner.keyAllowed || !scanner.inFlow }
    else { scanner with cursor }

def addStreamEnd (scanner : Scanner) : Except SyntaxError Scanner := do
  let mark := scanner.cursor.mark
  let lineStart := if mark.column = 0 then mark else ⟨mark.index, mark.line + 1, 0⟩
  let scanner := { scanner with cursor := ⟨scanner.cursor.rest, lineStart⟩ }
  let closed ← (scanner.closeBlocksTo (-1)).dropCurrentKey
  return (closed.withKeyAllowed false).addHere .streamEnd

def addDirective (scanner : Scanner) : Except SyntaxError Scanner := do
  let closed ← (scanner.closeBlocksTo (-1)).dropCurrentKey
  return (closed.withKeyAllowed false).addRead (← Directive.read closed.cursor)

def addDocumentIndicator (scanner : Scanner) (kind : TokenKind) : Except SyntaxError Scanner := do
  let closed ← (scanner.closeBlocksTo (-1)).dropCurrentKey
  return (closed.withKeyAllowed false).addIndicator kind 3

def openFlow (scanner : Scanner) (kind : TokenKind) : Except SyntaxError Scanner := do
  let noted ← scanner.noteKey
  let opened :=
    { noted with
      flowLevel := noted.flowLevel + 1, keyPlaces := none :: noted.keyPlaces, keyAllowed := true }
  return opened.addIndicator kind 1

def closeFlow (scanner : Scanner) (kind : TokenKind) : Except SyntaxError Scanner := do
  let dropped ← scanner.dropCurrentKey
  let closed :=
    if dropped.inFlow then
      { dropped with flowLevel := dropped.flowLevel - 1, keyPlaces := dropped.keyPlaces.tail }
    else dropped
  return (closed.withKeyAllowed false).addIndicator kind 1

def addFlowEntry (scanner : Scanner) : Except SyntaxError Scanner := do
  return ((← scanner.dropCurrentKey).withKeyAllowed true).addIndicator .flowEntry 1

/-- The scanner in a block that is open for an indicator; not every place admits one. -/
def openFor (scanner : Scanner) (block : TokenKind) (problem : Problem) :
    Except SyntaxError Scanner :=
  if scanner.inFlow then .ok scanner
  else if scanner.keyAllowed then .ok (scanner.openBlockHere block)
  else .error (.bare problem scanner.cursor.mark)

def addBlockEntry (scanner : Scanner) : Except SyntaxError Scanner := do
  let opened ← scanner.openFor .blockSequenceStart .entryNotAllowed
  return ((← opened.dropCurrentKey).withKeyAllowed true).addIndicator .blockEntry 1

def addKey (scanner : Scanner) : Except SyntaxError Scanner := do
  let opened ← scanner.openFor .blockMappingStart .keyNotAllowed
  return ((← opened.dropCurrentKey).withKeyAllowed !opened.inFlow).addIndicator .key 1

def addValue (scanner : Scanner) : Except SyntaxError Scanner :=
  match scanner.currentKey? with
  | some place =>
    let keyed := scanner.insertToken place.number ⟨.key, place.mark, place.mark⟩
    let opened := keyed.openBlock .blockMappingStart place.mark.column place.mark place.number
    .ok (((opened.setCurrentKey none).withKeyAllowed false).addIndicator .value 1)
  | none => do
    let opened ← scanner.openFor .blockMappingStart .valueNotAllowed
    return (opened.withKeyAllowed !opened.inFlow).addIndicator .value 1

/-- Adds a token with which a key could begin. -/
def addKeyStart (scanner : Scanner) (read : Cursor → Except SyntaxError (Token × Cursor)) :
    Except SyntaxError Scanner := do
  let noted ← scanner.noteKey
  return (noted.withKeyAllowed false).addRead (← read noted.cursor)

def addPlainScalar (scanner : Scanner) : Except SyntaxError Scanner := do
  let noted ← scanner.noteKey
  let result ← PlainScalar.read noted.inFlow (noted.indent + 1).toNat noted.cursor
  return (noted.withKeyAllowed result.endsLine).addRead (result.token, result.cursor)

def addBlockScalar (scanner : Scanner) (isLiteral : Bool) : Except SyntaxError Scanner := do
  let dropped ← scanner.dropCurrentKey
  let read ← BlockScalar.read isLiteral dropped.indent dropped.cursor
  return (dropped.withKeyAllowed true).addRead read

/-- Characters that begin no plain scalar. -/
def isIndicator (c : Char) : Bool :=
  ("-?:,[]\x7b\x7d#&*!|>'\"%@".toList ++ ['`']).contains c

def startsPlain (scanner : Scanner) (c : Char) : Bool :=
  !(isBlank c || isBreak c || isIndicator c) ||
    (c = '-' && !(scanner.cursor.rest[1]?.any isBlank)) ||
    (!scanner.inFlow && (c = '?' || c = ':') && !scanner.cursor.isSpaceAt 1)

/-- Adds what begins with the given character, at which the cursor is. -/
def addAt (scanner : Scanner) (c : Char) : Except SyntaxError Scanner :=
  let cursor := scanner.cursor
  let standsAlone := cursor.isSpaceAt 1
  if c = '%' && cursor.mark.column = 0 then scanner.addDirective
  else if cursor.atDocumentStart then scanner.addDocumentIndicator .documentStart
  else if cursor.atDocumentEnd then scanner.addDocumentIndicator .documentEnd
  else if c = '[' then scanner.openFlow .flowSequenceStart
  else if c = '{' then scanner.openFlow .flowMappingStart
  else if c = ']' then scanner.closeFlow .flowSequenceEnd
  else if c = '}' then scanner.closeFlow .flowMappingEnd
  else if c = ',' then scanner.addFlowEntry
  else if c = '-' && standsAlone then scanner.addBlockEntry
  else if c = '?' && (scanner.inFlow || standsAlone) then scanner.addKey
  else if c = ':' && (scanner.inFlow || standsAlone) then scanner.addValue
  else if c = '*' then scanner.addKeyStart (Anchor.read true)
  else if c = '&' then scanner.addKeyStart (Anchor.read false)
  else if c = '!' then scanner.addKeyStart (Tag.read scanner.inFlow)
  else if c = '|' && !scanner.inFlow then scanner.addBlockScalar true
  else if c = '>' && !scanner.inFlow then scanner.addBlockScalar false
  else if c = '\'' then scanner.addKeyStart (QuotedScalar.read true)
  else if c = '"' then scanner.addKeyStart (QuotedScalar.read false)
  else if scanner.startsPlain c then scanner.addPlainScalar
  else .error (.during .nextToken cursor.mark .noToken cursor.mark)

def addNext (scanner : Scanner) : Except SyntaxError Scanner :=
  match scanner.cursor.peek? with
  | none => scanner.addStreamEnd
  | some c => scanner.addAt c

/-- Asks for some characters from an index on, so that they are decoded. -/
def decode (scanner : Scanner) (index count : Nat) : Except SyntaxError Unit :=
  match scanner.controlCharacter? with
  | some character =>
    if character.decoded < index + count then .error (.ofControlCharacter character) else .ok ()
  | none => .ok ()

/-- Adds the tokens of the next indicator or scalar, or of the end of the text.  Four characters are
asked for where a token may begin, and what ends a token or makes it faulty is asked for too. -/
def advance (scanner : Scanner) : Except SyntaxError Scanner := do
  let skipped := skipToToken (scanner.cursor.rest.length + 1) scanner
  skipped.decode skipped.cursor.mark.index 1
  let kept ← skipped.dropStaleKeys
  let closed := kept.closeBlocksTo kept.column
  closed.decode closed.cursor.mark.index 4
  match closed.addNext with
  | .error error =>
    closed.decode error.place.index 1
    throw error
  | .ok next =>
    next.decode next.cursor.mark.index 1
    next.dropStaleKeys

/-- The tokens that do not depend on what follows. -/
def settledTokens (scanner : Scanner) : List Token :=
  let pending := scanner.keyPlaces.filterMap fun place => place.map KeyPlace.number
  scanner.tokens.reverse.take (pending.foldl min scanner.count)

end Scanner

structure TokenStream where
  tokens : List Token
  /-- What ended the tokens before the end of the text. -/
  fault : Option SyntaxError := none
  deriving Repr

namespace TokenStream

def collect : (bound : Nat) → Scanner → TokenStream
  | 0, scanner => { tokens := scanner.settledTokens }
  | bound + 1, scanner =>
    match scanner.advance with
    | .error error => { tokens := scanner.settledTokens, fault := some error }
    | .ok next =>
      if next.tokens.head?.any (·.kind = .streamEnd) then { tokens := next.tokens.reverse }
      else collect bound next

def ofText (text : String) : TokenStream :=
  let chars := text.toList
  let controlCharacter? := Yaml.controlCharacter? {} chars
  match controlCharacter? with
  | some ⟨offset, 0⟩ => { tokens := [], fault := some (.ofControlCharacter ⟨offset, 0⟩) }
  | _ => collect (chars.length + 2) (Scanner.ofText chars controlCharacter?)

end TokenStream

end Statecharts.Yaml
