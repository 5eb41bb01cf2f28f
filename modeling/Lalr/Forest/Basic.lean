import Lalr.Token

/-!
# Forests

A parse builds trees, and more than one owner may hold the same tree: two stacks
after a copy, a transformed tree and the one it came from. A forest therefore
keeps its nodes, their sequences of children and the spans of text they cover
apart, each under a number of its own, and a value refers to them by number. A
node that is changed is changed for everyone who refers to it.
-/

namespace Lalr

/-- The number of a node in a forest. -/
structure NodeId where
  index : Nat
  deriving DecidableEq, Repr, Inhabited

/-- The number of a sequence of values in a forest. -/
structure SequenceId where
  index : Nat
  deriving DecidableEq, Repr, Inhabited

/-- The number of a span in a forest. -/
structure SpanId where
  index : Nat
  deriving DecidableEq, Repr, Inhabited

/-- What a parse, a transformer or a visit works with. The value `discard` asks for a node to be
left out of its parent. A `foreign` value is an object of which only the kind is known. -/
inductive Value where
  | nothing
  | flag (value : Bool)
  | number (value : Int)
  | text (value : String)
  | token (token : Token)
  | node (id : NodeId)
  | sequence (id : SequenceId)
  | span (id : SpanId)
  | discard
  | foreign (kind : String)
  deriving DecidableEq, Inhabited

/-- A node: its label, its children, and the span of text it covers once somebody has asked for it.
A variant node belongs to the second class of nodes that a parser may be told to build. -/
structure Node where
  label : String
  children : SequenceId
  span : Option SpanId := none
  variant : Bool := false
  deriving DecidableEq, Repr, Inhabited

/-- The text that a node covers. `own` is the place of what is left in the tree below the node, and
`container` also takes in what was left out of it. -/
structure Span where
  isEmpty : Bool := true
  own : Place := {}
  container : Place := {}
  deriving DecidableEq, Repr, Inhabited

/-- Nodes, sequences and spans by number. -/
structure Forest where
  nodes : Array Node := #[]
  sequences : Array (List Value) := #[]
  spans : Array Span := #[]
  deriving Inhabited

namespace Value

/-- Whether the value is a node. -/
def isNode : Value → Bool
  | .node _ => true
  | _ => false

/-- The node, if the value is one. -/
def asNode? : Value → Option NodeId
  | .node id => some id
  | _ => none

/-- The token, if the value is one. -/
def asToken? : Value → Option Token
  | .token leaf => some leaf
  | _ => none

end Value

namespace Forest

/-- The node of a number. -/
def node (forest : Forest) (id : NodeId) : Node := forest.nodes.getD id.index default

/-- The values of a sequence. -/
def items (forest : Forest) (id : SequenceId) : List Value := forest.sequences.getD id.index []

/-- The span of a number. -/
def span (forest : Forest) (id : SpanId) : Span := forest.spans.getD id.index {}

/-- The label of a node. -/
def label (forest : Forest) (id : NodeId) : String := (forest.node id).label

/-- The children of a node. -/
def children (forest : Forest) (id : NodeId) : List Value := forest.items (forest.node id).children

/-- The children of a node that are nodes themselves. -/
def childNodes (forest : Forest) (id : NodeId) : List NodeId :=
  (forest.children id).filterMap Value.asNode?

/-- The span of a node. A node that nobody has asked for its span covers no text. -/
def spanOf (forest : Forest) (id : NodeId) : Span :=
  match (forest.node id).span with
  | some span => forest.span span
  | none => {}

/-- A number that no path from a node downwards exceeds in length, as long as no node lies below
itself. -/
def depthBound (forest : Forest) : Nat := forest.nodes.size + forest.sequences.size + 1

/-- Adds a sequence. -/
def addSequence (forest : Forest) (items : List Value) : SequenceId × Forest :=
  (⟨forest.sequences.size⟩, { forest with sequences := forest.sequences.push items })

/-- Adds a span. -/
def addSpan (forest : Forest) (span : Span) : SpanId × Forest :=
  (⟨forest.spans.size⟩, { forest with spans := forest.spans.push span })

/-- Adds a node. -/
def addNode (forest : Forest) (node : Node) : NodeId × Forest :=
  (⟨forest.nodes.size⟩, { forest with nodes := forest.nodes.push node })

/-- Adds a node with a sequence of children of its own. -/
def addTree (forest : Forest) (label : String) (children : List Value)
    (span : Option SpanId := none) (variant : Bool := false) : NodeId × Forest :=
  let (sequence, forest) := forest.addSequence children
  forest.addNode { label, children := sequence, span, variant }

/-- Replaces a node. -/
def setNode (forest : Forest) (id : NodeId) (node : Node) : Forest :=
  { forest with nodes := forest.nodes.set! id.index node }

/-- Replaces the values of a sequence. -/
def setItems (forest : Forest) (id : SequenceId) (items : List Value) : Forest :=
  { forest with sequences := forest.sequences.set! id.index items }

/-- Replaces a span. -/
def setSpan (forest : Forest) (id : SpanId) (span : Span) : Forest :=
  { forest with spans := forest.spans.set! id.index span }

/-- Gives a node a new sequence of children. -/
def replaceChildren (forest : Forest) (id : NodeId) (children : List Value) : Forest :=
  let (sequence, forest) := forest.addSequence children
  forest.setNode id { forest.node id with children := sequence }

/-- Changes the sequence of children that a node has. -/
def changeChildren (forest : Forest) (id : NodeId) (change : List Value → List Value) : Forest :=
  let sequence := (forest.node id).children
  forest.setItems sequence (change (forest.items sequence))

/-- Changes the label of a node. -/
def relabel (forest : Forest) (id : NodeId) (label : String) : Forest :=
  forest.setNode id { forest.node id with label }

/-- The span of a node as something that can be changed. It is made when first asked for. -/
def openSpan (forest : Forest) (id : NodeId) : SpanId × Forest :=
  match (forest.node id).span with
  | some span => (span, forest)
  | none =>
    let (span, forest) := forest.addSpan {}
    (span, forest.setNode id { forest.node id with span := some span })

end Forest

end Lalr
