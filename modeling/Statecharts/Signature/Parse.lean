import Statecharts.Signature.Argument

/-!
# Reading a signature

A signature is cut at the commas that stand outside every template, and each piece is read as words:
the last one is the name of an argument and the others are its type.  Angle brackets are counted
while cutting, so `std::map<K, V>` keeps its comma.  Cutting goes over the whole text first; faults
of single characters and of brackets are therefore found before any fault of a piece.
-/

namespace Statecharts.Signature

def isPunctuation (c : Char) : Bool :=
  c = '_' || c = '<' || c = '>' || c = ':' || c = ' ' || c = '&' || c = '(' || c = ')' || c = ','

def isSignatureChar (c : Char) : Bool :=
  Text.isLetter c || Text.isDecimalDigit c || isPunctuation c

def isNameChar (c : Char) : Bool :=
  Text.isLetter c || Text.isDecimalDigit c || c = '_'

/-- The template depth behind a character; `none` when it closes a template that is not open. -/
def depthAfter (c : Char) (depth : Nat) : Option Nat :=
  if c = '<' then some (depth + 1)
  else if c = '>' then
    match depth with
    | 0 => none
    | outer + 1 => some outer
  else some depth

/-- The text up to the next separating comma, and the pieces behind it. -/
def cut (index depth : Nat) :
    List Char → Except SignatureError (List Char × List (List Char))
  | [] => if depth = 0 then .ok ([], []) else .error .unterminatedTemplate
  | c :: rest =>
    if c = ',' ∧ depth = 0 then
      (cut (index + 1) 0 rest).map fun (piece, later) => ([], piece :: later)
    else if isSignatureChar c then
      match depthAfter c depth with
      | none => .error (.unopenedTemplate index)
      | some inner => (cut (index + 1) inner rest).map fun (piece, later) => (c :: piece, later)
    else .error (.invalidChar index c)

def pieces (text : List Char) : Except SignatureError (List (List Char)) :=
  (cut 0 0 text).map fun (piece, later) => piece :: later

/-- The text before the first space, and the nonempty words behind it. -/
def leadingWord : List Char → List Char × List (List Char)
  | [] => ([], [])
  | c :: rest =>
    let (word, later) := leadingWord rest
    if c = ' ' then ([], if word = [] then later else word :: later) else (c :: word, later)

def words (piece : List Char) : List (List Char) :=
  let (word, later) := leadingWord piece
  if word = [] then later else word :: later

def unwords (parts : List (List Char)) : String :=
  String.ofList ([' '].intercalate parts)

def argumentOfWords (parts : List (List Char)) : Except SignatureError Argument :=
  match parts.dropLast, parts.getLast? with
  | first :: more, some name =>
    match name.find? (!isNameChar ·) with
    | some c => .error (.invalidName (unwords parts) c)
    | none => .ok ⟨unwords (first :: more), String.ofList name⟩
  | _, _ => .error (.missingName (unwords parts))

/-- Reads the pieces in order; `taken` are the names of the arguments before them. -/
def argumentsOfPieces (taken : List String) :
    List (List Char) → Except SignatureError (List Argument)
  | [] => .ok []
  | piece :: rest => do
    let argument ← argumentOfWords (words piece)
    if argument.name ∈ taken then
      throw (.duplicateArgument argument.name)
    let later ← argumentsOfPieces (argument.name :: taken) rest
    return argument :: later

def parse (text : String) : Except SignatureError (List Argument) := do
  argumentsOfPieces [] (← pieces text.toList)

end Statecharts.Signature
