import Switchboard.Yaml.Event

/-!
# From events to nodes

A document is a tree of nodes. An alias is a leaf that names the node it stands for by a number, and
`Document.target?` finds that node: numbers are looked up when the whole document is known. An
anchor gets as its number how many different names were anchored before it, so a later anchor can
take over the number of an earlier one, and then all aliases with that number stand for the later
node.

`Document.ofText?` reads a stream that holds at most one document.
-/

namespace Switchboard.Yaml

/-- A node of a document. -/
inductive Node where
  | alias (id : Nat)
  | scalar (tag : Option String) (style : Style) (text : String)
  | sequence (tag : Option String) (items : List Node)
  | mapping (tag : Option String) (entries : List (Node × Node))

/-- A document: its root, which an empty stream does not have, the nodes that aliases stand for by
their numbers, and the number of its events. -/
structure Document where
  root : Option Node
  targets : List (Nat × Node)
  size : Nat

/-- The node that the aliases with a number stand for. -/
def Document.target? (document : Document) (id : Nat) : Option Node :=
  (document.targets.find? (·.1 == id)).map Prod.snd

/-- A collection that is not yet closed: its kind, its tag, where it started if it has an anchor,
and its nodes so far, the last one first. -/
structure OpenCollection where
  isMapping : Bool
  tag : Option String
  start : Option Nat
  nodes : List Node

/-- What is known while a document is put together: how many events were read, the open collections,
the innermost first, the numbers of the anchored names, at which event the node of a number starts,
the anchored nodes by the events at which they start, and the root once it is complete. -/
structure Builder where
  count : Nat := 0
  collections : List OpenCollection := []
  names : List (String × Nat) := []
  starts : List (Nat × Nat) := []
  anchored : List (Nat × Node) := []
  root : Option Node := none

namespace Builder

/-- Give a name its number and let the number stand for the node that starts here. -/
def anchor (builder : Builder) : Option String → Builder
  | none => builder
  | some name =>
    let id := builder.names.length
    { builder with
      names := (name, id) :: builder.names.filter (·.1 != name)
      starts := (id, builder.count) :: builder.starts.filter (·.1 != id) }

/-- Put a complete node where it belongs: into the innermost open collection, or at the root. If it
is anchored, note it under the event at which it starts. -/
def place (builder : Builder) (start : Option Nat) (node : Node) : Builder :=
  let builder :=
    match start with
    | none => builder
    | some event => { builder with anchored := (event, node) :: builder.anchored }
  match builder.collections with
  | [] => { builder with root := some node }
  | inner :: outer =>
    { builder with collections := { inner with nodes := node :: inner.nodes } :: outer }

/-- The keys and values that alternate in a list. -/
def pairs : List Node → List (Node × Node)
  | key :: value :: rest => (key, value) :: pairs rest
  | _ => []

/-- Open a collection. -/
def enter (builder : Builder) (isMapping : Bool) (anchor tag : Option String) : Builder :=
  let start := anchor.map fun _ ↦ builder.count
  let named := builder.anchor anchor
  { named with collections := { isMapping, tag, start, nodes := [] } :: named.collections }

/-- Close the innermost open collection. -/
def leave (builder : Builder) : Builder :=
  match builder.collections with
  | [] => builder
  | inner :: outer =>
    let nodes := inner.nodes.reverse
    let node :=
      if inner.isMapping then Node.mapping inner.tag (pairs nodes) else .sequence inner.tag nodes
    { builder with collections := outer }.place inner.start node

/-- Take in one event. An alias must name an anchor before it. -/
def add? (builder : Builder) (event : Event) : Option Builder :=
  let next : Option Builder :=
    match event with
    | .alias name =>
      (builder.names.find? (·.1 == name)).map fun entry ↦ builder.place none (.alias entry.2)
    | .scalar anchor tag style text =>
      some ((builder.anchor anchor).place (anchor.map fun _ ↦ builder.count)
        (.scalar tag style text))
    | .sequenceStart anchor tag => some (builder.enter false anchor tag)
    | .mappingStart anchor tag => some (builder.enter true anchor tag)
    | .sequenceEnd | .mappingEnd => some builder.leave
  next.map fun builder ↦ { builder with count := builder.count + 1 }

/-- The finished document. -/
def finish (builder : Builder) : Document :=
  { root := builder.root
    targets := builder.starts.filterMap fun (id, event) ↦
      (builder.anchored.find? (·.1 == event)).map fun entry ↦ (id, entry.2)
    size := builder.count }

end Builder

namespace Document

/-- The document that a list of events describes. -/
def ofEvents? (events : List Event) : Option Document :=
  (events.foldlM Builder.add? {}).map Builder.finish

/-- The one document of a stream; an empty stream has a document without a root. A malformed stream,
or one with several documents, has none. -/
def ofText? (text : String) : Option Document :=
  match (Token.ofText? text).bind Event.ofTokens? with
  | some [] => some { root := none, targets := [], size := 1 }
  | some [events] => ofEvents? events
  | _ => none

end Document

end Switchboard.Yaml
