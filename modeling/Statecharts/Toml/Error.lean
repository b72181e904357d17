import Statecharts.Toml.Item

/-!
# TOML errors

An error shows the line of the text where it was found, with carets under the part that it is about.
An end of the text counts as the place behind the last character.
-/

namespace Statecharts.Toml

structure Error where
  message : String
  /-- The bytes of the text that the error is about, if any. -/
  span : Option Span
  deriving DecidableEq, Repr

namespace Error

def ofFault (text : String) (fault : Fault) : Error :=
  let behind := charsFrom fault.offset text.toList
  let size := behind.head?.elim 0 Char.utf8Size
  ⟨fault.text, some ⟨fault.offset, fault.offset + size⟩⟩
where
  /-- The characters behind a number of bytes. -/
  charsFrom : Nat → List Char → List Char
    | _, [] => []
    | 0, text => text
    | offset, c :: rest => charsFrom (offset - c.utf8Size) rest

/-- The line and the column of a byte, from zero.  Columns count characters, unless the byte begins
a character of several bytes: then they count bytes. -/
def locate (text : String) (offset : Nat) : Nat × Nat :=
  let size := text.utf8ByteSize
  if size = 0 then (0, offset)
  else
    let inside := min offset (size - 1)
    let (line, column) := go inside 0 0 0 text.toList
    (line, column + (offset - inside))
where
  go (offset line column bytes : Nat) : List Char → Nat × Nat
    | [] => (line, column)
    | c :: rest =>
      if offset + 1 = c.utf8Size then (line, column)
      else if offset < c.utf8Size then (line, bytes + offset)
      else if c = '\n' then go (offset - 1) (line + 1) 0 0 rest
      else go (offset - c.utf8Size) line (column + 1) (bytes + c.utf8Size) rest

def splitLines (text : String) : List (List Char) :=
  text.toList.splitOn '\n'

def blanks (n : Nat) : String :=
  String.ofList (List.replicate n ' ')

/-- One caret for each byte of the span, at least one, and no more than the line has bytes. -/
def carets (span : Span) (line : String) : String :=
  let stop := min span.stop (span.start + line.utf8ByteSize)
  String.ofList ('^' :: List.replicate (stop - (span.start + 1)) '^')

def excerpt (text : String) (span : Span) : String :=
  let (line, column) := locate text span.start
  let content := String.ofList ((splitLines text)[line]?.getD [])
  let number := toString (line + 1)
  let margin := blanks (number.length + 1) ++ "|"
  s!"TOML parse error at line {line + 1}, column {column + 1}\n" ++
    margin ++ "\n" ++
    number ++ " | " ++ content ++ "\n" ++
    margin ++ blanks (column + 1) ++ carets span content ++ "\n"

/-- The text that is shown, which ends with a line break. -/
def report (error : Error) (text : String) : String :=
  error.span.elim "" (excerpt text) ++ error.message ++ "\n"

end Error

end Statecharts.Toml
