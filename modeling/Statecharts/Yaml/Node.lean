import Statecharts.Yaml.Event

/-!
# YAML documents

The events of a document form a tree.  Where they end too early, because the text has a fault, the
open collections are closed with a node that was not read; so whatever stands before the fault can
be used.

An anchor is numbered by how many different names were in use before it, and an alias stands for the
anchor that has the number of its name.  A name that is used again gets a new number, which it may
share with a later anchor; then the later one counts.
-/

namespace Statecharts.Yaml

inductive Node
  | scalar (mark : Mark) (scalar : Scalar)
  | sequence (mark : Mark) (items : List Node)
  | mapping (mark : Mark) (entries : List (Node × Node))
  | alias (mark : Mark) (number : Nat)
  | unread
  deriving Repr

namespace Node

mutual

/-- Whether nothing in a node was left unread. -/
def isComplete : Node → Bool
  | .scalar _ _ | .alias _ _ => true
  | .sequence _ items => areComplete items
  | .mapping _ entries => entriesComplete entries
  | .unread => false

def areComplete : List Node → Bool
  | [] => true
  | item :: rest => isComplete item && areComplete rest

def entriesComplete : List (Node × Node) → Bool
  | [] => true
  | (key, value) :: rest => isComplete key && isComplete value && entriesComplete rest

end

/-- Keys and values that alternate; a value may be missing at the end. -/
def pairUp : List Node → List (Node × Node)
  | key :: value :: rest => (key, value) :: pairUp rest
  | [key] => [(key, .unread)]
  | [] => []

end Node

structure Anchored where
  number : Nat
  /-- How many events of the document precede the node. -/
  position : Nat
  node : Node
  deriving Repr

inductive DocumentFault
  | malformed (error : SyntaxError)
  | unknownAnchor (mark : Mark)
  deriving DecidableEq, Repr

structure Document where
  root : Node
  anchors : List Anchored
  /-- How many nodes and ends of collections there are. -/
  size : Nat
  /-- Why the document ended too early. -/
  fault : Option DocumentFault := none
  /-- Something other than the end of the text follows. -/
  isFollowed : Bool := false
  deriving Repr

namespace Document

def anchored (document : Document) (number : Nat) : Node :=
  let candidates := document.anchors.filter (·.number = number)
  let last? := candidates.foldl (fun last? anchored =>
    match last? with
    | some last => if last.position < anchored.position then some anchored else some last
    | none => some anchored) (none : Option Anchored)
  last?.elim .unread Anchored.node

/-- A collection whose end has not been met. -/
structure Frame where
  isMapping : Bool
  mark : Mark
  number : Option Nat
  position : Nat
  /-- The nodes in it, last one first. -/
  nodes : List Node

def Frame.node (frame : Frame) : Node :=
  if frame.isMapping then .mapping frame.mark (Node.pairUp frame.nodes.reverse)
  else .sequence frame.mark frame.nodes.reverse

structure Builder where
  root : Option Node := none
  frames : List Frame := []
  names : List (String × Nat) := []
  anchors : List Anchored := []
  size : Nat := 0

namespace Builder

def name (builder : Builder) (anchor : Option String) : Option Nat × Builder :=
  match anchor with
  | none => (none, builder)
  | some name =>
    let number := builder.names.length
    let others := builder.names.filter (·.1 ≠ name)
    (some number, { builder with names := (name, number) :: others })

def place (builder : Builder) (node : Node) : Builder :=
  match builder.frames with
  | [] => { builder with root := some (builder.root.getD node) }
  | frame :: outer =>
    { builder with frames := { frame with nodes := node :: frame.nodes } :: outer }

def define (builder : Builder) (number : Option Nat) (position : Nat) (node : Node) : Builder :=
  let anchored := number.map fun number => ⟨number, position, node⟩
  { builder with anchors := anchored.toList ++ builder.anchors }

def openFrame (builder : Builder) (isMapping : Bool) (anchor : Option String) (mark : Mark) :
    Builder :=
  let (number, named) := builder.name anchor
  { named with
    frames := ⟨isMapping, mark, number, named.size, []⟩ :: named.frames
    size := named.size + 1 }

def closeFrame (builder : Builder) : Builder :=
  match builder.frames with
  | [] => builder
  | frame :: outer =>
    let node := frame.node
    ({ builder with frames := outer }.define frame.number frame.position node).place node

def countOne (builder : Builder) : Builder :=
  { builder with size := builder.size + 1 }

def add (builder : Builder) (event : Event) : Except DocumentFault Builder :=
  match event.kind with
  | .alias name =>
    match builder.names.lookup name with
    | some number => .ok (builder.place (.alias event.mark number)).countOne
    | none => .error (.unknownAnchor event.mark)
  | .scalar anchor scalar =>
    let (number, named) := builder.name anchor
    let node := .scalar event.mark scalar
    .ok ((named.define number named.size node).place node).countOne
  | .sequenceStart anchor => .ok (builder.openFrame false anchor event.mark)
  | .mappingStart anchor => .ok (builder.openFrame true anchor event.mark)
  | .sequenceEnd | .mappingEnd => .ok builder.closeFrame.countOne
  | .documentStart | .documentEnd | .streamEnd => .ok builder

/-- Closes what is open with a node that was not read. -/
def closeAll : (frames : Nat) → Builder → Builder
  | 0, builder => builder.place .unread
  | frames + 1, builder => closeAll frames (builder.place .unread).closeFrame

def finish (builder : Builder) (fault : Option DocumentFault) (isFollowed : Bool) : Document :=
  let closed := closeAll builder.frames.length builder
  { root := closed.root.getD .unread
    anchors := closed.anchors
    size := closed.size
    fault
    isFollowed }

end Builder

/-- A text without a document holds an empty one at its end. -/
def empty (mark : Mark) : Document where
  root := .scalar mark ⟨"", .plain, none⟩
  anchors := []
  size := 1

def isStreamEnd (events : List Event) : Bool :=
  events.head?.any (·.kind = EventKind.streamEnd)

/-- Reads the events of the first document; `fault` is what ended them. -/
def readEvents (fault : Option SyntaxError) (builder : Builder) : List Event → Document
  | [] => builder.finish (fault.map .malformed) false
  | event :: rest =>
    match event.kind with
    | .documentEnd => builder.finish none !(isStreamEnd rest)
    | .streamEnd => empty event.mark
    | _ =>
      match builder.add event with
      | .ok next => readEvents fault next rest
      | .error fault => builder.finish (some fault) false

def ofEvents (stream : EventStream) : Document :=
  readEvents stream.fault {} stream.events

def ofText (text : String) : Document :=
  ofEvents (.ofText text)

end Document

end Statecharts.Yaml
