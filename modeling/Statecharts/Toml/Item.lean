import Statecharts.Toml.Quoted

/-!
# Items of a TOML document

Every value knows which bytes of the text it comes from.  A table remembers how it came about, since
that decides whether a later line may extend it: by a value between braces, by its own header, only
as an outer part of another header, or by a dotted key.  In the last two cases it comes from the
name by which it was mentioned first.
-/

namespace Statecharts.Toml

inductive Scalar
  | string (text : String)
  | integer (value : Int)
  | double (bits : UInt64)
  | bool (value : Bool)
  | dateTime
  deriving DecidableEq, Repr

structure TableForm where
  isInline : Bool := false
  /-- It has no header and no braces of its own. -/
  isImplicit : Bool := false
  isDotted : Bool := false
  deriving DecidableEq, Repr

inductive Item
  | scalar (span : Span) (value : Scalar)
  | array (span : Span) (items : List Item)
  | table (form : TableForm) (span : Option Span) (entries : List (String × Item))
  /-- The tables under headers between double brackets. -/
  | tables (span : Option Span) (items : List Item)
  deriving Repr

namespace Item

def span? : Item → Option Span
  | .scalar span _ | .array span _ => some span
  | .table _ span _ | .tables span _ => span

/-- What messages call a value. -/
def typeName : Item → String
  | .scalar _ (.string _) => "string"
  | .scalar _ (.integer _) => "integer"
  | .scalar _ (.double _) => "float"
  | .scalar _ (.bool _) => "boolean"
  | .scalar _ .dateTime => "datetime"
  | .array _ _ => "array"
  | .table form _ _ => if form.isInline then "inline table" else "table"
  | .tables _ _ => "array of tables"

end Item

/-- Why an entry cannot be added. -/
inductive Conflict
  | duplicateKey (key : String) (table : Option (List String))
  | notATable (path : List String) (typeName : String)
  deriving DecidableEq, Repr

def Conflict.text : Conflict → String
  | .duplicateKey key none => "duplicate key `" ++ key ++ "`"
  | .duplicateKey key (some []) => "duplicate key `" ++ key ++ "` in document root"
  | .duplicateKey key (some table) =>
    "duplicate key `" ++ key ++ "` in table `" ++ ".".intercalate table ++ "`"
  | .notATable path typeName =>
    "dotted key `" ++ ".".intercalate path ++ "` attempted to extend non-table type (" ++
      typeName ++ ")"

structure Table where
  form : TableForm := {}
  span : Option Span := none
  entries : List (String × Item) := []
  deriving Repr

namespace Table

def toItem (table : Table) : Item :=
  .table table.form table.span table.entries

def find? (table : Table) (key : String) : Option Item :=
  table.entries.lookup key

/-- Replaces the item of a key, or adds it as the last one. -/
def put (table : Table) (key : String) (item : Item) : Table :=
  let isPresent := (table.find? key).isSome
  { table with
    entries :=
      if isPresent then
        table.entries.map fun (other, old) => (other, if other = key then item else old)
      else table.entries ++ [(key, item)] }

def erase (table : Table) (key : String) : Table :=
  { table with entries := table.entries.filter (·.1 ≠ key) }

/-- Changes the table at the end of a path, and makes the tables on the way that are missing.  Of an
array of tables the last one is meant.  A dotted path cannot go through a table with a header or
braces of its own; `isInline` tells that the path is within braces, where only values are. -/
def modifyAt {α : Type} (isInline isDotted : Bool) (change : Table → Except Conflict (α × Table))
    (passed : List String) : (path : List Name) → Table → Except Conflict (α × Table)
  | [], table => change table
  | ⟨key, span⟩ :: rest, table => do
    let here := passed ++ [key]
    let missing : Table := { form := ⟨isInline, true, isDotted⟩, span := some span }
    match (table.find? key).getD missing.toItem with
    | .table form span entries =>
      if form.isInline && !isInline then
        throw (.notATable here "inline table")
      if isDotted && !form.isImplicit then
        throw (.duplicateKey key none)
      let (result, inner) ← modifyAt isInline isDotted change here rest ⟨form, span, entries⟩
      return (result, table.put key inner.toItem)
    | .tables span items =>
      match items.getLast? with
      | some (.table form inner entries) =>
        let (result, last) ← modifyAt isInline isDotted change here rest ⟨form, inner, entries⟩
        return (result, table.put key (.tables span (items.dropLast ++ [last.toItem])))
      | _ => throw (.notATable here "array of tables")
    | other => throw (.notATable here other.typeName)

/-- Adds the value of a dotted key. -/
def addValue (isInline : Bool) (owner : Option (List String)) (table : Table) (key : Key)
    (item : Item) : Except Conflict Table := do
  let name := key.last.text
  let ((), changed) ← modifyAt isInline true (fun inner =>
    if inner.form.isDotted = key.outer.isEmpty then .error (.duplicateKey name none)
    else if (inner.find? name).isSome then .error (.duplicateKey name owner)
    else .ok ((), inner.put name item)) [] key.outer table
  return changed

end Table

end Statecharts.Toml
