import Statecharts.Json.Basic

/-!
# Writing JSON

The compact form has no blanks.  The pretty form puts every item on a line of its own, indented by
two blanks a level, and a blank behind the colon of a field; an empty array or object stays on its
line.  Strings escape quotes, backslashes and control characters, and nothing else.
-/

namespace Statecharts.Json

def hexDigit (n : Nat) : Char :=
  if n < 10 then Char.ofNat ('0'.toNat + n) else Char.ofNat ('a'.toNat + (n - 10))

def escapeChar (c : Char) : List Char :=
  match c with
  | '"' => ['\\', '"']
  | '\\' => ['\\', '\\']
  | '\n' => ['\\', 'n']
  | '\r' => ['\\', 'r']
  | '\t' => ['\\', 't']
  | c =>
    if c.toNat = 8 then ['\\', 'b']
    else if c.toNat = 12 then ['\\', 'f']
    else if c.toNat < 32 then
      ['\\', 'u', '0', '0', hexDigit (c.toNat / 16), hexDigit (c.toNat % 16)]
    else [c]

def stringChars (text : String) : List Char :=
  '"' :: text.toList.flatMap escapeChar ++ ['"']

mutual

def compactChars : Json → List Char
  | .null => ['n', 'u', 'l', 'l']
  | .bool true => ['t', 'r', 'u', 'e']
  | .bool false => ['f', 'a', 'l', 's', 'e']
  | .number value => value.text.toList
  | .string value => stringChars value
  | .array items => '[' :: compactItems items ++ [']']
  | .object fields => '{' :: compactFields fields ++ ['}']

def compactItems : List Json → List Char
  | [] => []
  | [item] => compactChars item
  | item :: rest => compactChars item ++ ',' :: compactItems rest

def compactFields : List (String × Json) → List Char
  | [] => []
  | [(key, value)] => stringChars key ++ ':' :: compactChars value
  | (key, value) :: rest =>
    stringChars key ++ ':' :: compactChars value ++ ',' :: compactFields rest

end

def newline (level : Nat) : List Char :=
  '\n' :: List.replicate (2 * level) ' '

mutual

def prettyChars (level : Nat) : Json → List Char
  | .null => ['n', 'u', 'l', 'l']
  | .bool true => ['t', 'r', 'u', 'e']
  | .bool false => ['f', 'a', 'l', 's', 'e']
  | .number value => value.text.toList
  | .string value => stringChars value
  | .array [] => ['[', ']']
  | .array items => '[' :: prettyItems (level + 1) items ++ newline level ++ [']']
  | .object [] => ['{', '}']
  | .object fields => '{' :: prettyFields (level + 1) fields ++ newline level ++ ['}']

def prettyItems (level : Nat) : List Json → List Char
  | [] => []
  | [item] => newline level ++ prettyChars level item
  | item :: rest => newline level ++ prettyChars level item ++ ',' :: prettyItems level rest

def prettyFields (level : Nat) : List (String × Json) → List Char
  | [] => []
  | [(key, value)] => newline level ++ stringChars key ++ ':' :: ' ' :: prettyChars level value
  | (key, value) :: rest =>
    newline level ++ stringChars key ++ ':' :: ' ' :: prettyChars level value ++
      ',' :: prettyFields level rest

end

def compact (json : Json) : String :=
  String.ofList (compactChars json)

def pretty (json : Json) : String :=
  String.ofList (prettyChars 0 json)

end Statecharts.Json
