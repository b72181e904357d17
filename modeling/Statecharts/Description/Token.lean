import Statecharts.Text.Messages

/-!
# Tokens of the chart description language

A description is made of brackets, string literals and words.  Four words are keywords; every other
word is an identifier.  Positions count code points, and lines and columns begin at one.
-/

namespace Statecharts.Description

inductive TokenKind
  | leftParen
  | rightParen
  | leftBrace
  | rightBrace
  | leftBracket
  | rightBracket
  | stringLiteral
  | identifier
  | statechart
  | state
  | transition
  | trigger
  | eof
  deriving DecidableEq, Repr

namespace TokenKind

def name : TokenKind → String
  | .leftParen => "LeftParen"
  | .rightParen => "RightParen"
  | .leftBrace => "LeftBrace"
  | .rightBrace => "RightBrace"
  | .leftBracket => "LeftBracket"
  | .rightBracket => "RightBracket"
  | .stringLiteral => "StringLiteral"
  | .identifier => "Identifier"
  | .statechart => "Statechart"
  | .state => "State"
  | .transition => "Transition"
  | .trigger => "Trigger"
  | .eof => "Eof"

def isKeyword : TokenKind → Bool
  | .statechart | .state | .transition | .trigger => true
  | _ => false

end TokenKind

/-- A word is a keyword only as a whole and only in lower case. -/
def keyword? (word : String) : Option TokenKind :=
  if word = "statechart" then some .statechart
  else if word = "state" then some .state
  else if word = "transition" then some .transition
  else if word = "trigger" then some .trigger
  else none

/-- The place of a character.  Both counters have 32 bits and wrap around. -/
structure Position where
  lineCounter : UInt32
  columnCounter : UInt32
  deriving DecidableEq, Repr

namespace Position

def line (position : Position) : Nat :=
  position.lineCounter.toNat

def column (position : Position) : Nat :=
  position.columnCounter.toNat

def start : Position :=
  ⟨1, 1⟩

def next (position : Position) (c : Char) : Position :=
  if c = '\n' then ⟨position.lineCounter + 1, 1⟩
  else ⟨position.lineCounter, position.columnCounter + 1⟩

def after (position : Position) (text : List Char) : Position :=
  text.foldl next position

end Position

structure Token where
  kind : TokenKind
  lexeme : String
  position : Position
  deriving DecidableEq, Repr

inductive LexicalFault
  | unsupportedRune (rune : Char)
  | unterminatedString
  | singleSlash
  deriving DecidableEq, Repr

def LexicalFault.message : LexicalFault → String
  | .unsupportedRune rune => "unsupported rune " ++ Text.quoteChar rune
  | .unterminatedString => "unterminated string literal"
  | .singleSlash => "single slash token found"

structure LexicalError where
  fault : LexicalFault
  position : Position
  deriving DecidableEq, Repr

def LexicalError.message (error : LexicalError) : String :=
  s!"line {error.position.line}, column {error.position.column}: " ++ error.fault.message

end Statecharts.Description
