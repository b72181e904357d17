import Statecharts.Yaml.Node
import Statecharts.Yaml.PlainValue

/-!
# Decoding documents

A document is decoded from left to right into typed values, so a value of the wrong type is reported
before a fault of the text that stands behind it.  A message names the path to the value and the
place of the value itself, also when it was reached by an alias; for a missing or a repeated field,
the place of the mapping.  Following aliases is limited, since a small text could stand for an enormous
value.
-/

namespace Statecharts.Yaml

/-! ## Errors -/

inductive PathStep
  | field (name : String)
  /-- The value of a key that is no scalar. -/
  | unknown
  | index (n : Nat)
  deriving DecidableEq, Repr

/-- The steps from a value up to the document. -/
abbrev Path := List PathStep

def Path.text : Path → String
  | [] => ""
  | .field name :: [] => name
  | .unknown :: [] => "?"
  | .field name :: outer => text outer ++ "." ++ name
  | .unknown :: outer => text outer ++ ".?"
  | .index n :: outer => text outer ++ s!"[{n}]"

inductive Mismatch
  | invalidType (found : String) (expected : String)
  | invalidValue (found : String) (expected : String)
  | missingField (name : String)
  | duplicateField (name : String)
  deriving DecidableEq, Repr

def Mismatch.text : Mismatch → String
  | .invalidType found expected => "invalid type: " ++ found ++ ", expected " ++ expected
  | .invalidValue found expected => "invalid value: " ++ found ++ ", expected " ++ expected
  | .missingField name => "missing field `" ++ name ++ "`"
  | .duplicateField name => "duplicate field `" ++ name ++ "`"

inductive DecodeError
  | malformed (error : SyntaxError)
  | unknownAnchor (mark : Mark)
  | mismatch (fault : Mismatch) (path : Path) (mark : Mark)
  | tooManyAliases
  | severalDocuments
  deriving DecidableEq, Repr

namespace DecodeError

def ofFault : DocumentFault → DecodeError
  | .malformed error => .malformed error
  | .unknownAnchor mark => .unknownAnchor mark

def placeText (mark : Mark) : String :=
  SyntaxError.placeText (.mark mark)

def message : DecodeError → String
  | .malformed error => error.message
  | .unknownAnchor mark => "unknown anchor" ++ placeText mark
  | .mismatch fault path mark =>
    (if path.isEmpty then "" else path.text ++ ": ") ++ fault.text ++ placeText mark
  | .tooManyAliases => "repetition limit exceeded"
  | .severalDocuments =>
    "deserializing from YAML containing more than one document is not supported"

end DecodeError

/-! ## Decoders -/

/-- Decoding counts the aliases that were followed. -/
abbrev Decoding := StateT Nat (Except DecodeError)

/-- How to decode the value at a path of a document. -/
abbrev Decoder (α : Type) := Document → Path → Node → Decoding α

namespace Decoder

def failUnread {α : Type} (document : Document) : Decoding α :=
  throw (document.fault.elim .severalDocuments .ofFault)

/-- The node itself, or the one that it is an alias of. -/
def follow (document : Document) : Node → Decoding Node
  | .alias _ number => do
    let followed ← get
    if document.size * 100 ≤ followed then
      throw .tooManyAliases
    set (followed + 1)
    return document.anchored number
  | node => return node

def failType {α : Type} (document : Document) (expected : String) (path : Path) :
    Node → Decoding α
  | .scalar mark scalar =>
    match PlainValue.ofScalar scalar with
    | .ok value => throw (.mismatch (.invalidType value.text expected) path mark)
    | .error required =>
      let found := "string " ++ Text.quote scalar.text
      throw (.mismatch (.invalidValue found required) path mark)
  | .sequence mark _ => throw (.mismatch (.invalidType "sequence" expected) path mark)
  | .mapping mark _ => throw (.mismatch (.invalidType "map" expected) path mark)
  | .alias _ _ | .unread => failUnread document

def scalarText (expected : String) : Decoder String := fun document path node => do
  match ← follow document node with
  | .scalar _ scalar => return scalar.text
  | other => failType document expected path other

def string : Decoder String :=
  scalarText "a string"

def bool : Decoder Bool := fun document path node => do
  let node ← follow document node
  match node with
  | .scalar _ scalar =>
    match PlainValue.boolOfScalar? scalar with
    | some value => return value
    | none => failType document "a boolean" path node
  | other => failType document "a boolean" path other

/-- Nothing at all stands for an empty list and for a record of defaults. -/
def isNothing (scalar : Scalar) : Bool :=
  scalar.text.isEmpty && scalar.style = .plain

def items {α : Type} (item : Decoder α) (document : Document) (path : Path) :
    (index : Nat) → List Node → Decoding (List α)
  | _, [] => return []
  | index, node :: rest => do
    let first ← item document (.index index :: path) node
    let later ← items item document path (index + 1) rest
    return first :: later

def list {α : Type} (item : Decoder α) : Decoder (List α) := fun document path node => do
  let node ← follow document node
  match node with
  | .sequence _ nodes => items item document path 0 nodes
  | .scalar _ scalar =>
    if isNothing scalar then return [] else failType document "a sequence" path node
  | other => failType document "a sequence" path other

/-- Passes over a value of any type. -/
def ignore (document : Document) (node : Node) : Decoding Unit :=
  if node.isComplete then return () else failUnread document

def keyStep (name : String) : Node → PathStep
  | .scalar _ _ => .field name
  | _ => .unknown

/-- How the known fields of a record change it; `none` for a name that is no field. -/
abbrev Fields (α : Type) := String → Option (Document → Path → Node → α → Decoding α)

def field {α β : Type} (decoder : Decoder β) (update : α → β → α) :
    Option (Document → Path → Node → α → Decoding α) :=
  some fun document path node record => do
    return update record (← decoder document path node)

/-- Decodes the entries of a mapping in order; `seen` are the fields that were met before. -/
def entries {α : Type} (fields : Fields α) (document : Document) (path : Path) (mark : Mark) :
    (seen : List String) → α → List (Node × Node) → Decoding (List String × α)
  | seen, record, [] => return (seen, record)
  | seen, record, (key, value) :: rest => do
    let name ← scalarText "field identifier" document path key
    match fields name with
    | none =>
      ignore document value
      entries fields document path mark seen record rest
    | some update =>
      if name ∈ seen then
        throw (.mismatch (.duplicateField name) path mark)
      let updated ← update document (keyStep name key :: path) value record
      entries fields document path mark (name :: seen) updated rest

/-- A record from a mapping, starting with the defaults.  Required fields are missed in order. -/
def record {α : Type} (expected : String) (required : List String) (fields : Fields α)
    (default : α) : Decoder α := fun document path node => do
  let node ← follow document node
  let ofEntries (mark : Mark) (pairs : List (Node × Node)) : Decoding α := do
    let (seen, record) ← entries fields document path mark [] default pairs
    match required.find? (· ∉ seen) with
    | some name => throw (.mismatch (.missingField name) path mark)
    | none => return record
  match node with
  | .mapping mark pairs => ofEntries mark pairs
  | .scalar mark scalar =>
    if isNothing scalar then ofEntries mark [] else failType document expected path node
  | other => failType document expected path other

/-- Decodes the only document of a text. -/
def readText {α : Type} (decoder : Decoder α) (text : String) : Except DecodeError α := do
  let document := Document.ofText text
  let (value, _) ← (decoder document [] document.root).run 0
  match document.fault with
  | some fault => throw (.ofFault fault)
  | none => if document.isFollowed then throw .severalDocuments else return value

end Decoder

end Statecharts.Yaml
