import Statecharts.Yaml.TokenStream

/-!
# YAML events

Tokens are read by a machine that knows what it expects next and keeps on a stack what it expects
after that.  It produces the nodes in the order in which they begin, and the ends of collections.
Where a node is missing, an empty plain scalar stands in for it.
-/

namespace Statecharts.Yaml

structure Scalar where
  text : String
  style : ScalarStyle
  tag : Option String := none
  deriving DecidableEq, Repr

inductive EventKind
  | documentStart
  | documentEnd
  | streamEnd
  | alias (name : String)
  | scalar (anchor : Option String) (scalar : Scalar)
  | sequenceStart (anchor : Option String)
  | sequenceEnd
  | mappingStart (anchor : Option String)
  | mappingEnd
  deriving DecidableEq, Repr

structure Event where
  kind : EventKind
  mark : Mark
  deriving DecidableEq, Repr

inductive Expectation
  | firstDocument
  | document
  | content
  | documentEnd
  | node (inBlock entriesAllowed : Bool)
  | blockEntry
  | bareEntry
  | blockKey
  | blockValue
  | flowEntry (isFirst : Bool)
  /-- The key, the value and the end of a mapping that is an entry of a flow sequence. -/
  | pairKey
  | pairValue
  | pairEnd
  | flowKey (isFirst : Bool)
  | flowValue (isOmitted : Bool)
  | nothing
  deriving DecidableEq, Repr

structure EventParser where
  tokens : List Token
  expected : Expectation := .firstDocument
  pending : List Expectation := []
  /-- Where the open collections began, the innermost first. -/
  starts : List Mark := []
  /-- The handles of tags and what they stand for. -/
  handles : List (String × String) := []

namespace EventParser

/-- A step fails with an error, or with `none` when it needs a token and there is none. -/
abbrev Step := Except (Option SyntaxError) (Option Event × EventParser)

def peek (parser : EventParser) : Except (Option SyntaxError) Token :=
  match parser.tokens with
  | [] => .error none
  | token :: _ => .ok token

def skip (parser : EventParser) : EventParser :=
  { parser with tokens := parser.tokens.tail }

def expect (parser : EventParser) (expected : Expectation) : EventParser :=
  { parser with expected }

def resume (parser : EventParser) : EventParser :=
  { parser with expected := parser.pending.headD .nothing, pending := parser.pending.tail }

/-- Expects something, and something else behind it. -/
def expectLater (parser : EventParser) (expected later : Expectation) : EventParser :=
  { parser with expected, pending := later :: parser.pending }

def expectNode (parser : EventParser) (inBlock entriesAllowed : Bool) (later : Expectation) :
    EventParser :=
  parser.expectLater (.node inBlock entriesAllowed) later

def emit (parser : EventParser) (kind : EventKind) (mark : Mark) : Step :=
  .ok (some ⟨kind, mark⟩, parser)

def silently (parser : EventParser) : Step :=
  .ok (none, parser)

def emptyScalar (parser : EventParser) (mark : Mark) (later : Expectation) : Step :=
  (parser.expect later).emit (.scalar none ⟨"", .plain, none⟩) mark

def fail {α : Type} (error : SyntaxError) : Except (Option SyntaxError) α :=
  .error (some error)

def failInCollection {α : Type} (parser : EventParser) (reading : Reading) (problem : Problem)
    (mark : Mark) : Except (Option SyntaxError) α :=
  fail (.during reading (parser.starts.headD mark) problem mark)

def enter (parser : EventParser) (mark : Mark) (expected : Expectation) : EventParser :=
  { parser.skip with expected, starts := mark :: parser.starts }

def leave (parser : EventParser) (kind : EventKind) (mark : Mark) : Step :=
  { parser.skip.resume with starts := parser.starts.tail }.emit kind mark

/-! ## Documents -/

def defaultHandles : List (String × String) :=
  [("!", "!"), ("!!", "tag:yaml.org,2002:")]

/-- Reads the directives in front of a document; a version may be given once, and each handle. -/
def readDirectives (hasVersion : Bool) (handles : List (String × String)) :
    List Token → Except (Option SyntaxError) (List (String × String) × List Token)
  | [] => .error none
  | token :: rest =>
    match token.kind with
    | .versionDirective major minor =>
      if hasVersion then fail (.bare .duplicateVersionDirective token.start)
      else if major = 1 ∧ (minor = 1 ∨ minor = 2) then readDirectives true handles rest
      else fail (.bare .incompatibleVersion token.start)
    | .tagDirective handle lead =>
      if (handles.lookup handle).isSome then fail (.bare .duplicateTagDirective token.start)
      else readDirectives hasVersion (handles ++ [(handle, lead)]) rest
    | _ => .ok (handles, token :: rest)

def isDirective : TokenKind → Bool
  | .versionDirective _ _ | .tagDirective _ _ => true
  | _ => false

def explicitDocument (parser : EventParser) : Step := do
  let (handles, tokens) ← readDirectives false [] parser.tokens
  let parser := { parser with tokens, handles := handles ++ defaultHandles }
  let token ← parser.peek
  if token.kind = .documentStart then
    (parser.skip.expectLater .content .documentEnd).emit .documentStart token.start
  else fail (.bare .expectedDocumentStart token.start)

def firstDocument (parser : EventParser) : Step := do
  let token ← parser.peek
  if token.kind = .streamEnd then (parser.skip.expect .nothing).emit .streamEnd token.start
  else if isDirective token.kind || token.kind = .documentStart then parser.explicitDocument
  else
    let parser := { parser with handles := defaultHandles }
    (parser.expectNode true false .documentEnd).emit .documentStart token.start

def document (parser : EventParser) : Step := do
  let parser := { parser with tokens := parser.tokens.dropWhile (·.kind = TokenKind.documentEnd) }
  let token ← parser.peek
  if token.kind = .streamEnd then (parser.skip.expect .nothing).emit .streamEnd token.start
  else parser.explicitDocument

def content (parser : EventParser) : Step := do
  let token ← parser.peek
  if isDirective token.kind || token.kind = .documentStart || token.kind = .documentEnd ||
      token.kind = .streamEnd then
    parser.resume.emit (.scalar none ⟨"", .plain, none⟩) token.start
  else (parser.expect (.node true false)).silently

def documentEnd (parser : EventParser) : Step := do
  let token ← parser.peek
  let parser := if token.kind = .documentEnd then parser.skip else parser
  (parser.expect .document).emit .documentEnd token.start

/-! ## Nodes -/

/-- The anchor and the tag in front of a node. -/
structure Properties where
  anchor : Option String := none
  tag : Option (String × String × Mark) := none
  start : Mark

def readProperties (parser : EventParser) :
    Except (Option SyntaxError) (Properties × EventParser) := do
  let first ← parser.peek
  match first.kind with
  | .anchor name =>
    let parser := parser.skip
    let second ← parser.peek
    match second.kind with
    | .tag handle suffix =>
      return (⟨some name, some (handle, suffix, second.start), first.start⟩, parser.skip)
    | _ => return (⟨some name, none, first.start⟩, parser)
  | .tag handle suffix =>
    let parser := parser.skip
    let second ← parser.peek
    match second.kind with
    | .anchor name =>
      return (⟨some name, some (handle, suffix, first.start), first.start⟩, parser.skip)
    | _ => return (⟨none, some (handle, suffix, first.start), first.start⟩, parser)
  | _ => return (⟨none, none, first.start⟩, parser)

def resolveTag (parser : EventParser) (properties : Properties) :
    Except (Option SyntaxError) (Option String) :=
  match properties.tag with
  | none => .ok none
  | some (handle, suffix, mark) =>
    if handle = "" then .ok (some suffix)
    else
      match parser.handles.lookup handle with
      | some lead => .ok (some (lead ++ suffix))
      | none => fail (.during .node properties.start .undefinedHandle mark)

/-- The tag `!` says only that a scalar has no other tag. -/
def scalarTag (tag : Option String) : Option String :=
  if tag = some "!" then none else tag

def nodeContent (parser : EventParser) (inBlock entriesAllowed : Bool) (properties : Properties)
    (tag : Option String) : Step := do
  let token ← parser.peek
  let anchor := properties.anchor
  let start := properties.start
  match token.kind with
  | .scalar text style =>
    parser.skip.resume.emit (.scalar anchor ⟨text, style, scalarTag tag⟩) start
  | .flowSequenceStart =>
    (parser.enter token.start (.flowEntry true)).emit (.sequenceStart anchor) start
  | .flowMappingStart =>
    (parser.enter token.start (.flowKey true)).emit (.mappingStart anchor) start
  | kind =>
    if entriesAllowed && kind = .blockEntry then
      (parser.expect .bareEntry).emit (.sequenceStart anchor) start
    else if inBlock && kind = .blockSequenceStart then
      (parser.enter token.start .blockEntry).emit (.sequenceStart anchor) start
    else if inBlock && kind = .blockMappingStart then
      (parser.enter token.start .blockKey).emit (.mappingStart anchor) start
    else if anchor.isSome || tag.isSome then
      parser.resume.emit (.scalar anchor ⟨"", .plain, tag⟩) start
    else
      fail (.during (if inBlock then .blockNode else .flowNode) start .expectedContent token.start)

def node (parser : EventParser) (inBlock entriesAllowed : Bool) : Step := do
  let token ← parser.peek
  match token.kind with
  | .alias name => parser.skip.resume.emit (.alias name) token.start
  | _ =>
    let (properties, parser) ← parser.readProperties
    let tag ← parser.resolveTag properties
    parser.nodeContent inBlock entriesAllowed properties tag

/-! ## Block collections -/

def blockEntry (parser : EventParser) : Step := do
  let token ← parser.peek
  match token.kind with
  | .blockEntry =>
    let parser := parser.skip
    let next ← parser.peek
    if next.kind = .blockEntry || next.kind = .blockEnd then
      parser.emptyScalar token.stop .blockEntry
    else (parser.expectNode true false .blockEntry).silently
  | .blockEnd => parser.leave .sequenceEnd token.start
  | _ => parser.failInCollection .blockSequence .expectedDash token.start

/-- Ends the items of a block mapping. -/
def endsItem : TokenKind → Bool
  | .key | .value | .blockEnd => true
  | _ => false

/-- Entries of a sequence that is a value of a block mapping and is not indented further. -/
def bareEntry (parser : EventParser) : Step := do
  let token ← parser.peek
  match token.kind with
  | .blockEntry =>
    let parser := parser.skip
    let next ← parser.peek
    if next.kind = .blockEntry || endsItem next.kind then parser.emptyScalar token.stop .bareEntry
    else (parser.expectNode true false .bareEntry).silently
  | _ => parser.resume.emit .sequenceEnd token.start

def blockKey (parser : EventParser) : Step := do
  let token ← parser.peek
  match token.kind with
  | .key =>
    let parser := parser.skip
    let next ← parser.peek
    if endsItem next.kind then parser.emptyScalar token.stop .blockValue
    else (parser.expectNode true true .blockValue).silently
  | .blockEnd => parser.leave .mappingEnd token.start
  | _ => parser.failInCollection .blockMapping .expectedKey token.start

def blockValue (parser : EventParser) : Step := do
  let token ← parser.peek
  match token.kind with
  | .value =>
    let parser := parser.skip
    let next ← parser.peek
    if endsItem next.kind then parser.emptyScalar token.stop .blockKey
    else (parser.expectNode true true .blockKey).silently
  | _ => parser.emptyScalar token.start .blockKey

/-! ## Flow collections -/

/-- The parser behind the comma between two items. -/
def skipComma (parser : EventParser) (isFirst : Bool) (reading : Reading) (problem : Problem) :
    Except (Option SyntaxError) EventParser := do
  if isFirst then return parser
  let token ← parser.peek
  if token.kind = .flowEntry then return parser.skip
  parser.failInCollection reading problem token.start

def flowEntry (parser : EventParser) (isFirst : Bool) : Step := do
  let token ← parser.peek
  if token.kind = .flowSequenceEnd then parser.leave .sequenceEnd token.start
  else
    let parser ← parser.skipComma isFirst .flowSequence .expectedCommaOrBracket
    let token ← parser.peek
    match token.kind with
    | .key => (parser.skip.expect .pairKey).emit (.mappingStart none) token.start
    | .flowSequenceEnd => parser.leave .sequenceEnd token.start
    | _ => (parser.expectNode false false (.flowEntry false)).silently

/-- A key that is left out takes the token with it that ends it. -/
def pairKey (parser : EventParser) : Step := do
  let token ← parser.peek
  match token.kind with
  | .value | .flowEntry | .flowSequenceEnd => parser.skip.emptyScalar token.stop .pairValue
  | _ => (parser.expectNode false false .pairValue).silently

def pairValue (parser : EventParser) : Step := do
  let token ← parser.peek
  match token.kind with
  | .value =>
    let parser := parser.skip
    let next ← parser.peek
    if next.kind = .flowEntry || next.kind = .flowSequenceEnd then
      parser.emptyScalar next.start .pairEnd
    else (parser.expectNode false false .pairEnd).silently
  | _ => parser.emptyScalar token.start .pairEnd

def pairEnd (parser : EventParser) : Step := do
  let token ← parser.peek
  (parser.expect (.flowEntry false)).emit .mappingEnd token.start

def flowKey (parser : EventParser) (isFirst : Bool) : Step := do
  let token ← parser.peek
  if token.kind = .flowMappingEnd then parser.leave .mappingEnd token.start
  else
    let parser ← parser.skipComma isFirst .flowMapping .expectedCommaOrBrace
    let token ← parser.peek
    match token.kind with
    | .key =>
      let parser := parser.skip
      let next ← parser.peek
      if next.kind = .value || next.kind = .flowEntry || next.kind = .flowMappingEnd then
        parser.emptyScalar next.start (.flowValue false)
      else (parser.expectNode false false (.flowValue false)).silently
    | .flowMappingEnd => parser.leave .mappingEnd token.start
    | _ => (parser.expectNode false false (.flowValue true)).silently

def flowValue (parser : EventParser) (isOmitted : Bool) : Step := do
  let token ← parser.peek
  if isOmitted then parser.emptyScalar token.start (.flowKey false)
  else if token.kind = .value then
    let parser := parser.skip
    let next ← parser.peek
    if next.kind = .flowEntry || next.kind = .flowMappingEnd then
      parser.emptyScalar next.start (.flowKey false)
    else (parser.expectNode false false (.flowKey false)).silently
  else parser.emptyScalar token.start (.flowKey false)

/-! ## The machine -/

def step (parser : EventParser) : Step :=
  match parser.expected with
  | .firstDocument => parser.firstDocument
  | .document => parser.document
  | .content => parser.content
  | .documentEnd => parser.documentEnd
  | .node inBlock entriesAllowed => parser.node inBlock entriesAllowed
  | .blockEntry => parser.blockEntry
  | .bareEntry => parser.bareEntry
  | .blockKey => parser.blockKey
  | .blockValue => parser.blockValue
  | .flowEntry isFirst => parser.flowEntry isFirst
  | .pairKey => parser.pairKey
  | .pairValue => parser.pairValue
  | .pairEnd => parser.pairEnd
  | .flowKey isFirst => parser.flowKey isFirst
  | .flowValue isOmitted => parser.flowValue isOmitted
  | .nothing => .error none

end EventParser

structure EventStream where
  events : List Event
  /-- What ended the events before the end of the text. -/
  fault : Option SyntaxError := none
  deriving Repr

namespace EventStream

/-- The events of a parser, for texts whose tokens were ended by the given fault. -/
def collect (tokenFault : Option SyntaxError) :
    (bound : Nat) → List Event → EventParser → EventStream
  | 0, events, _ => ⟨events.reverse, tokenFault⟩
  | bound + 1, events, parser =>
    match parser.step with
    | .error (some error) => ⟨events.reverse, some error⟩
    | .error none => ⟨events.reverse, tokenFault⟩
    | .ok (event, next) => collect tokenFault bound (event.toList ++ events) next

def ofTokens (stream : TokenStream) : EventStream :=
  collect stream.fault (8 * stream.tokens.length + 32) [] { tokens := stream.tokens.drop 1 }

def ofText (text : String) : EventStream :=
  ofTokens (.ofText text)

end EventStream

end Statecharts.Yaml
