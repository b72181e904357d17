import Statecharts.Toml.Value

/-!
# TOML documents

A document is a list of lines: entries, table headers, comments and blank lines.  Entries belong to
the table of the last header, which joins the document when the next header begins or the text ends.
-/

namespace Statecharts.Toml

/-- The document read so far, and the table that is being read. -/
structure Builder where
  root : Table := {}
  current : Table := {}
  /-- The key of the last header. -/
  header : Option Key := none
  isListed : Bool := false

namespace Builder

def duplicateHeader (header : Key) : Conflict :=
  .duplicateKey (Key.written header.last.text) (some header.outerTexts)

/-- Changes the table in which the last name of a header is to be found. -/
def atParent {α : Type} (header : Key) (root : Table)
    (change : String → Table → Except Conflict (α × Table)) : Except Conflict (α × Table) :=
  Table.modifyAt false false (change header.last.text) [] header.outer root

/-- The span from the first to the last table of a list. -/
def listSpan (items : List Item) : Option Span :=
  match items.head?.bind Item.span?, items.getLast?.bind Item.span? with
  | some first, some last => some ⟨first.start, last.stop⟩
  | _, _ => none

/-- Puts the current table into the document. -/
def finish (builder : Builder) : Except Conflict Table := do
  match builder.header with
  | none => return builder.current
  | some header =>
    let ((), root) ← atParent header builder.root fun key parent =>
      match parent.find? key with
      | some (.tables _ items) =>
        if builder.isListed then
          let items := items ++ [builder.current.toItem]
          .ok ((), parent.put key (.tables (listSpan items) items))
        else .error (duplicateHeader header)
      | some (.table form _ _) =>
        if form.isImplicit && !builder.isListed then
          .ok ((), parent.put key builder.current.toItem)
        else .error (duplicateHeader header)
      | some _ => .error (duplicateHeader header)
      | none => .ok ((), parent.put key builder.current.toItem)
    return root

/-- Begins the table of a header between single brackets.  It takes over what was put into it while
it was only an outer part of other headers. -/
def beginTable (builder : Builder) (header : Key) (span : Span) :
    Except Conflict Builder := do
  let root ← builder.finish
  let (entries, root) ← atParent header root fun key parent =>
    match parent.find? key with
    | none => .ok ([], parent)
    | some (.table form _ entries) =>
      if form.isImplicit && !form.isDotted && !form.isInline then
        .ok (entries, parent.erase key)
      else .error (duplicateHeader header)
    | some _ => .error (duplicateHeader header)
  return ⟨root, ⟨{}, some span, entries⟩, some header, false⟩

/-- Begins the next table of a list, for a header between double brackets. -/
def beginListed (builder : Builder) (header : Key) (span : Span) :
    Except Conflict Builder := do
  let root ← builder.finish
  let ((), root) ← atParent header root fun key parent =>
    match parent.find? key with
    | none => .ok ((), parent.put key (.tables none []))
    | some (.tables _ _) => .ok ((), parent)
    | some _ => .error (duplicateHeader header)
  return ⟨root, ⟨{}, some span, []⟩, some header, true⟩

/-- Adds an entry to the current table, which then reaches up to the end of the entry. -/
def addEntry (builder : Builder) (entry : Value.Entry) : Except Conflict Builder := do
  let stop? := entry.item.span?.map Span.stop
  let span :=
    match builder.current.span, stop? with
    | some span, some stop => some ⟨span.start, stop⟩
    | span, _ => span
  let extended := { builder.current with span }
  let owner := builder.header.elim [] Key.texts
  let current ← extended.addValue false (some owner) entry.key entry.item
  return { builder with current }

end Builder

namespace Document

/-- A conflict is placed at the start of the line that brings it about. -/
def resolve {α : Type} (start : Cursor) (result : Except Conflict α) : Except Failure α :=
  result.mapError fun conflict => .fatal { offset := start.offset, cause := some conflict.text }

def readEntry (builder : Builder) (start : Cursor) : Except Failure (Builder × Cursor) := do
  let (key, cursor) ← Key.read start
  let cursor ← commit (Value.readEquals cursor)
  let cursor := cursor.skipBlanks
  let (item, later) ← commit (Value.read (4 * cursor.rest.length + 8) 0 cursor)
  let (_, next) ← commit (expecting ["newline", "`#`"] later.readLineRest)
  return (← resolve start (builder.addEntry ⟨key, item⟩), next)

def readHeader (builder : Builder) (start : Cursor) : Except Failure (Builder × Cursor) := do
  let isListed := start.rest.take 2 = ['[', '[']
  let (opening, closing) := if isListed then (['[', '['], [']', ']']) else (['['], [']'])
  let closingText := "`" ++ String.ofList closing ++ "`"
  let (header, cursor) ← commit (Key.read (start.behind opening))
  let (_, behind) ← commit (expecting ["`.`", closingText] (cursor.readText closing))
  let (_, next) ← commit (expecting ["newline", "`#`"] behind.readLineRest)
  let span : Span := ⟨start.offset, behind.offset⟩
  let begun :=
    if isListed then builder.beginListed header span else builder.beginTable header span
  return (← resolve start begun, next)

/-- A header needs a second character to tell which kind it is. -/
def readTable (builder : Builder) (start : Cursor) : Except Failure (Builder × Cursor) :=
  labelled "table header" <|
    if start.rest.length < 2 then start.miss else readHeader builder start

def readComment (cursor : Cursor) : Except Failure Cursor :=
  cursor.skipComment.readLineEnd.map Prod.snd

def readLines : (bound : Nat) → Builder → Cursor → Except Failure Builder
  | 0, builder, _ => .ok builder
  | bound + 1, builder, cursor =>
    let cursor := cursor.skipBlanks
    match cursor.peek? with
    | none => .ok builder
    | some '#' => do
      readLines bound builder (← commit (readComment cursor))
    | some '[' => do
      let (builder, later) ← commit (readTable builder cursor)
      readLines bound builder later
    | some '\n' | some '\r' =>
      match cursor.readNewline with
      | .ok (_, later) => readLines bound builder later
      | .error _ => cursor.miss
    | some _ => do
      let (builder, later) ← commit (readEntry builder cursor)
      readLines bound builder later

/-- The table of a whole text, behind a byte order mark if there is one. -/
def read (text : String) : Except Fault Table :=
  let start := Cursor.ofText text
  let start := if start.sees '\ufeff' then start.skip else start
  match readLines (start.rest.length + 1) {} start with
  | .error failure => .error failure.fault
  | .ok builder =>
    builder.finish.mapError fun conflict => { offset := start.offset, cause := some conflict.text }

end Document

end Statecharts.Toml
