import Statecharts.Json.Error

/-!
# A place in a JSON text

A cursor is the rest of a text with the place where it begins.  A fault is located either where the
cursor is or one byte ahead, behind the first byte of the character that cannot be read.
-/

namespace Statecharts.Json

structure Cursor where
  rest : List Char
  place : Place
  deriving Repr

namespace Cursor

def ofText (text : List Char) : Cursor :=
  ⟨text, ⟨1, 0⟩⟩

def Place.after (place : Place) (c : Char) : Place :=
  if c = '\n' then ⟨place.line + 1, 0⟩ else ⟨place.line, place.column + c.utf8Size⟩

def moveTo (cursor : Cursor) (c : Char) (rest : List Char) : Cursor :=
  ⟨rest, Place.after cursor.place c⟩

def ahead (cursor : Cursor) : Place :=
  match cursor.rest with
  | [] => cursor.place
  | c :: _ =>
    if c = '\n' then ⟨cursor.place.line + 1, 0⟩ else ⟨cursor.place.line, cursor.place.column + 1⟩

def failHere {α : Type} (cursor : Cursor) (fault : Fault) : Except Error α :=
  .error ⟨fault, cursor.place⟩

def failAhead {α : Type} (cursor : Cursor) (fault : Fault) : Except Error α :=
  .error ⟨fault, cursor.ahead⟩

def skipWhile (p : Char → Bool) (cursor : Cursor) : Cursor :=
  let taken := cursor.rest.takeWhile p
  ⟨cursor.rest.dropWhile p, taken.foldl Place.after cursor.place⟩

def isBlank (c : Char) : Bool :=
  c = ' ' || c = '\n' || c = '\t' || c = '\r'

def skipBlanks (cursor : Cursor) : Cursor :=
  cursor.skipWhile isBlank

end Cursor

end Statecharts.Json
