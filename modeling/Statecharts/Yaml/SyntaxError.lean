import Statecharts.Yaml.Cursor

/-!
# YAML syntax errors

An error names its problem and where it was found, and often what was being read and where that
began.  Places at the very start of the text are not shown, nor is a beginning that is the place of
the problem itself.
-/

namespace Statecharts.Yaml

inductive Problem
  | controlCharacter
  | noToken
  | expectedColon
  | entryNotAllowed
  | keyNotAllowed
  | valueNotAllowed
  | unknownDirective
  | expectedLineEnd
  | expectedDirectiveName
  | unexpectedInDirectiveName
  | expectedVersionPoint
  | longVersion
  | expectedVersion
  | expectedBlank
  | expectedBlankOrLineEnd
  | expectedName
  | expectedTagClose
  | expectedExclamation
  | expectedTagText
  | expectedOctet
  | badLeadingOctet
  | badTrailingOctet
  | zeroIndentation
  | tabInIndentation
  | unexpectedDocument
  | unexpectedEnd
  | unknownEscape
  | expectedHexadecimal
  | badCodePoint
  | unexpectedColon
  | tabBeforeText
  | expectedDocumentStart
  | duplicateVersionDirective
  | incompatibleVersion
  | duplicateTagDirective
  | undefinedHandle
  | expectedContent
  | expectedDash
  | expectedKey
  | expectedCommaOrBracket
  | expectedCommaOrBrace
  deriving DecidableEq, Repr

def Problem.text : Problem → String
  | .controlCharacter => "control characters are not allowed"
  | .noToken => "found character that cannot start any token"
  | .expectedColon => "could not find expected ':'"
  | .entryNotAllowed => "block sequence entries are not allowed in this context"
  | .keyNotAllowed => "mapping keys are not allowed in this context"
  | .valueNotAllowed => "mapping values are not allowed in this context"
  | .unknownDirective => "found unknown directive name"
  | .expectedLineEnd => "did not find expected comment or line break"
  | .expectedDirectiveName => "could not find expected directive name"
  | .unexpectedInDirectiveName => "found unexpected non-alphabetical character"
  | .expectedVersionPoint => "did not find expected digit or '.' character"
  | .longVersion => "found extremely long version number"
  | .expectedVersion => "did not find expected version number"
  | .expectedBlank => "did not find expected whitespace"
  | .expectedBlankOrLineEnd => "did not find expected whitespace or line break"
  | .expectedName => "did not find expected alphabetic or numeric character"
  | .expectedTagClose => "did not find the expected '>'"
  | .expectedExclamation => "did not find expected '!'"
  | .expectedTagText => "did not find expected tag URI"
  | .expectedOctet => "did not find URI escaped octet"
  | .badLeadingOctet => "found an incorrect leading UTF-8 octet"
  | .badTrailingOctet => "found an incorrect trailing UTF-8 octet"
  | .zeroIndentation => "found an indentation indicator equal to 0"
  | .tabInIndentation => "found a tab character where an indentation space is expected"
  | .unexpectedDocument => "found unexpected document indicator"
  | .unexpectedEnd => "found unexpected end of stream"
  | .unknownEscape => "found unknown escape character"
  | .expectedHexadecimal => "did not find expected hexdecimal number"
  | .badCodePoint => "found invalid Unicode character escape code"
  | .unexpectedColon => "found unexpected ':'"
  | .tabBeforeText => "found a tab character that violates indentation"
  | .expectedDocumentStart => "did not find expected <document start>"
  | .duplicateVersionDirective => "found duplicate %YAML directive"
  | .incompatibleVersion => "found incompatible YAML document"
  | .duplicateTagDirective => "found duplicate %TAG directive"
  | .undefinedHandle => "found undefined tag handle"
  | .expectedContent => "did not find expected node content"
  | .expectedDash => "did not find expected '-' indicator"
  | .expectedKey => "did not find expected key"
  | .expectedCommaOrBracket => "did not find expected ',' or ']'"
  | .expectedCommaOrBrace => "did not find expected ',' or '\x7d'"

/-- What was being read. -/
inductive Reading
  | nextToken
  | simpleKey
  | directive
  | versionDirective
  | tagDirective
  | tagDirectiveHandle
  | tagDirectiveHandleEnd
  | tagDirectiveText
  | anchor
  | alias
  | tag
  | tagText
  | blockScalar
  | quotedScalar
  | quotedEscape
  | plainScalar
  | node
  | blockNode
  | flowNode
  | blockSequence
  | blockMapping
  | flowSequence
  | flowMapping
  deriving DecidableEq, Repr

def Reading.text : Reading → String
  | .nextToken => "while scanning for the next token"
  | .simpleKey => "while scanning a simple key"
  | .directive => "while scanning a directive"
  | .versionDirective => "while scanning a %YAML directive"
  | .tagDirective => "while scanning a %TAG directive"
  | .tagDirectiveHandle => "while scanning a tag directive"
  | .tagDirectiveHandleEnd => "while parsing a tag directive"
  | .tagDirectiveText => "while parsing a %TAG directive"
  | .anchor => "while scanning an anchor"
  | .alias => "while scanning an alias"
  | .tag => "while scanning a tag"
  | .tagText => "while parsing a tag"
  | .blockScalar => "while scanning a block scalar"
  | .quotedScalar => "while scanning a quoted scalar"
  | .quotedEscape => "while parsing a quoted scalar"
  | .plainScalar => "while scanning a plain scalar"
  | .node => "while parsing a node"
  | .blockNode => "while parsing a block node"
  | .flowNode => "while parsing a flow node"
  | .blockSequence => "while parsing a block collection"
  | .blockMapping => "while parsing a block mapping"
  | .flowSequence => "while parsing a flow sequence"
  | .flowMapping => "while parsing a flow mapping"

inductive Place
  | mark (mark : Mark)
  | byte (offset : Nat)
  deriving DecidableEq, Repr

def Place.index : Place → Nat
  | .mark place => place.index
  | .byte _ => 0

structure SyntaxError where
  problem : Problem
  place : Place
  reading : Option (Reading × Mark) := none
  deriving DecidableEq, Repr

namespace SyntaxError

/-- A problem at a mark, met while reading what began at an earlier mark. -/
def during (reading : Reading) (start : Mark) (problem : Problem) (mark : Mark) : SyntaxError :=
  ⟨problem, .mark mark, some (reading, start)⟩

def bare (problem : Problem) (mark : Mark) : SyntaxError :=
  ⟨problem, .mark mark, none⟩

def ofControlCharacter (character : ControlCharacter) : SyntaxError :=
  ⟨.controlCharacter, .byte character.offset, none⟩

def placeText : Place → String
  | .mark mark => if mark.isTextStart then "" else " at " ++ mark.text
  | .byte offset => if offset = 0 then "" else s!" at position {offset}"

def isAt (mark : Mark) : Place → Bool
  | .mark other => mark.line = other.line && mark.column = other.column
  | .byte _ => mark.isTextStart

def readingText (place : Place) : Reading × Mark → String
  | (reading, start) =>
    ", " ++ reading.text ++
      if start.isTextStart || isAt start place then "" else " at " ++ start.text

def message (error : SyntaxError) : String :=
  error.problem.text ++ placeText error.place ++
    error.reading.elim "" (readingText error.place)

end SyntaxError

end Statecharts.Yaml
