import Statecharts.Description.Segment
import Statecharts.Json.Basic

/-!
# Scanning

The tokens and the errors of a text are read off its segments in one pass that carries the position
of the next segment.  Every fault is reported and scanning goes on behind it, so one scan tells
everything that is wrong with a description.
-/

namespace Statecharts.Description

structure Scanned where
  tokens : List Token
  errors : List LexicalError
  deriving DecidableEq, Repr

namespace Scanned

def isClean (scanned : Scanned) : Bool :=
  scanned.errors.isEmpty

def ofSegments : Position → List Segment → Scanned
  | position, [] => ⟨[⟨.eof, "", position⟩], []⟩
  | position, segment :: rest =>
    let later := ofSegments (position.after segment.text) rest
    ⟨(segment.token?.map fun (kind, lexeme) => ⟨kind, lexeme, position⟩).toList ++ later.tokens,
      (segment.fault?.map fun fault => ⟨fault, position⟩).toList ++ later.errors⟩

end Scanned

def scan (text : String) : Scanned :=
  Scanned.ofSegments .start (segments text.toList)

/-! ## Scans as JSON -/

def Token.toJson (token : Token) : Json :=
  .object [
    ("column", .nat token.position.column),
    ("kind", .string token.kind.name),
    ("lexeme", .string token.lexeme),
    ("line", .nat token.position.line)]

def LexicalError.toJson (error : LexicalError) : Json :=
  .object [
    ("column", .nat error.position.column),
    ("line", .nat error.position.line),
    ("message", .string error.fault.message)]

def Scanned.toJson (scanned : Scanned) : Json :=
  .object [
    ("errors", .array (scanned.errors.map LexicalError.toJson)),
    ("tokens", .array (scanned.tokens.map Token.toJson))]

end Statecharts.Description
