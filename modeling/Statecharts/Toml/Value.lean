import Statecharts.Toml.Item
import Statecharts.Toml.Number

/-!
# Reading TOML values

The first character of a value decides what it is.  Arrays may be spread over lines and may end with
a comma; inline tables may not.
-/

namespace Statecharts.Toml.Value

def spanned (start stop : Cursor) (value : Scalar) : Item × Cursor :=
  (.scalar ⟨start.offset, stop.offset⟩ value, stop)

def readWord (word : List Char) (text : String) (value : Scalar) (cursor : Cursor) :
    Except Failure (Item × Cursor) :=
  expecting ["`" ++ text ++ "`"] do
    let (_, later) ← cursor.readText word
    return spanned cursor later value

def readInteger (cursor : Cursor) : Except Failure (Item × Cursor) :=
  (Number.readInteger cursor).map fun (value, later) => spanned cursor later (.integer value)

def readFloat (cursor : Cursor) : Except Failure (Item × Cursor) :=
  (Number.readFloat cursor).map fun (bits, later) => spanned cursor later (.double bits)

def readDateTime (cursor : Cursor) : Except Failure (Item × Cursor) :=
  (DateTime.read cursor).map fun later => spanned cursor later .dateTime

def readString (cursor : Cursor) : Except Failure (Item × Cursor) :=
  (Quoted.read cursor).map fun (text, later) => spanned cursor later (.string text)

/-- A value that is neither an array nor an inline table. -/
def readScalar (c : Char) (cursor : Cursor) : Except Failure (Item × Cursor) :=
  if c = '"' || c = '\'' then readString cursor
  else if c = '+' || c = '-' || c.isDigit then
    orElse (readDateTime cursor) (orElse (readFloat cursor) (readInteger cursor))
  else if c = '_' then expecting ["leading digit"] (readInteger cursor)
  else if c = '.' then expecting ["leading digit"] (readFloat cursor)
  else if c = 't' then commit (readWord ['t', 'r', 'u', 'e'] "true" (.bool true) cursor)
  else if c = 'f' then commit (readWord ['f', 'a', 'l', 's', 'e'] "false" (.bool false) cursor)
  else if c = 'i' then readWord ['i', 'n', 'f'] "inf" (.double Number.infinity.toBits) cursor
  else if c = 'n' then readWord ['n', 'a', 'n'] "nan" (.double Number.notANumber) cursor
  else labelled "string" (expecting ["`\"`", "`'`"] cursor.miss)

/-- An equals sign behind a key. -/
def readEquals (cursor : Cursor) : Except Failure Cursor :=
  (expecting ["`.`", "`=`"] (cursor.readChar '=')).map Prod.snd

structure Entry where
  key : Key
  item : Item

def inlineTable (entries : List Entry) : Except Conflict Table :=
  entries.foldlM (fun table entry => table.addValue true none entry.key entry.item)
    { form := { isInline := true } }

mutual

/-- Reads a value at the given depth; `bound` limits the number of steps. -/
def read : (bound depth : Nat) → Cursor → Except Failure (Item × Cursor)
  | 0, _, cursor => cursor.miss
  | bound + 1, depth, cursor =>
    match cursor.peek? with
    | none => cursor.miss
    | some c =>
      if c = '[' ∨ c = '{' then
        if Key.nestingLimit ≤ depth + 1 then commit (cursor.missBecause Key.recursionLimit)
        else if c = '[' then do
          let (items, later) ← commit (readItems bound (depth + 1) cursor.skip)
          return (.array ⟨cursor.offset, later.offset⟩ items, later)
        else do
          let (table, later) ← commit (readTable bound (depth + 1) cursor.skip)
          return ({ table with span := some ⟨cursor.offset, later.offset⟩ }.toItem, later)
      else readScalar c cursor

/-- The items of an array, behind its bracket, with the closing one. -/
def readItems : (bound depth : Nat) → Cursor → Except Failure (List Item × Cursor)
  | 0, _, cursor => cursor.miss
  | bound + 1, depth, cursor => do
    let (items, cursor) ←
      if cursor.sees ']' then pure ([], cursor)
      else
        match readItem bound depth cursor with
        | .ok (item, later) => do
          let (items, later) ← readMoreItems bound depth [item] later
          pure (items, if later.sees ',' then later.skip else later)
        | .error (.miss _) => pure ([], cursor)
        | .error failure => throw failure
    let closing ← if cursor.sees ']' then pure cursor
      else cursor.skipSpace (cursor.rest.length + 1)
    let (_, later) ← labelled "array" (expecting ["`]`"] (closing.readChar ']'))
    return (items.reverse, later)

/-- Further items behind commas, last one first; a comma without an item stays unread. -/
def readMoreItems : (bound depth : Nat) → List Item → Cursor → Except Failure (List Item × Cursor)
  | 0, _, items, cursor => .ok (items, cursor)
  | bound + 1, depth, items, cursor =>
    if cursor.sees ',' then
      match readItem bound depth cursor.skip with
      | .ok (item, later) => readMoreItems bound depth (item :: items) later
      | .error (.miss _) => .ok (items, cursor)
      | .error failure => .error failure
    else .ok (items, cursor)

/-- An item with the space around it. -/
def readItem : (bound depth : Nat) → Cursor → Except Failure (Item × Cursor)
  | 0, _, cursor => cursor.miss
  | bound + 1, depth, cursor => do
    let (item, later) ← read bound depth (← cursor.skipSpace (cursor.rest.length + 1))
    return (item, ← later.skipSpace (later.rest.length + 1))

/-- The entries of an inline table, behind its brace, with the closing one. -/
def readTable : (bound depth : Nat) → Cursor → Except Failure (Table × Cursor)
  | 0, _, cursor => cursor.miss
  | bound + 1, depth, cursor => do
    let (entries, later) ←
      match readEntry bound depth cursor with
      | .ok (entry, later) => readMoreEntries bound depth [entry] later
      | .error (.miss _) => pure ([], cursor)
      | .error failure => throw failure
    let closing := later.skipBlanks
    match inlineTable entries.reverse with
    | .error conflict => cursor.missBecause conflict.text
    | .ok table =>
      let (_, later) ← labelled "inline table" (expecting ["`\x7d`"] (closing.readChar '}'))
      return (table, later)

def readMoreEntries :
    (bound depth : Nat) → List Entry → Cursor → Except Failure (List Entry × Cursor)
  | 0, _, entries, cursor => .ok (entries, cursor)
  | bound + 1, depth, entries, cursor =>
    if cursor.sees ',' then
      match readEntry bound depth cursor.skip with
      | .ok (entry, later) => readMoreEntries bound depth (entry :: entries) later
      | .error (.miss _) => .ok (entries, cursor)
      | .error failure => .error failure
    else .ok (entries, cursor)

def readEntry : (bound depth : Nat) → Cursor → Except Failure (Entry × Cursor)
  | 0, _, cursor => cursor.miss
  | bound + 1, depth, cursor => do
    let (key, cursor) ← Key.read cursor
    commit do
      let cursor ← readEquals cursor
      let (item, later) ← read bound depth cursor.skipBlanks
      return (⟨key, item⟩, later.skipBlanks)

end

end Statecharts.Toml.Value
