import Statecharts.Text.Invisible

/-!
# Text in messages

Messages quote names between double quotes and single characters between apostrophes.  Line breaks,
tabs, null characters, backslashes and the quote in use are written with a backslash; a character
that cannot be shown is written by its code in hexadecimal, as in `\u{301}`.

A message may be shown line by line.  A line ends with a line feed, and a carriage return right
before it belongs to the end.  What stands behind the last line feed is a line too, unless it is
empty.
-/

namespace Statecharts.Text

/-! ## Quoting -/

def hexDigits (n : Nat) : List Char :=
  Nat.toDigits 16 n

def escapeChar (quote c : Char) : List Char :=
  match c with
  | '\x00' => ['\\', '0']
  | '\t' => ['\\', 't']
  | '\r' => ['\\', 'r']
  | '\n' => ['\\', 'n']
  | '\\' => ['\\', '\\']
  | c =>
    if c = quote then ['\\', c]
    else if isInvisible c then ['\\', 'u', '{'] ++ hexDigits c.toNat ++ ['}']
    else [c]

def quoteChars (text : List Char) : List Char :=
  '"' :: text.flatMap (escapeChar '"') ++ ['"']

def quote (text : String) : String :=
  String.ofList (quoteChars text.toList)

def quoteChar (c : Char) : String :=
  String.ofList ('\'' :: escapeChar '\'' c ++ ['\''])

/-! ## Lines -/

def dropReturn (line : List Char) : List Char :=
  if line.getLast? = some '\r' then line.dropLast else line

/-- The lines of a text that was split at its line feeds. -/
def linesOfPieces : List (List Char) → List (List Char)
  | [] => []
  | [last] => if last.isEmpty then [] else [last]
  | line :: rest => dropReturn line :: linesOfPieces rest

def lines (text : String) : List String :=
  (linesOfPieces (text.toList.splitOn '\n')).map String.ofList

end Statecharts.Text
