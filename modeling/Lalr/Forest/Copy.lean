import Lalr.Forest.Basic

/-!
# Copies of values

A deep copy has nodes and sequences of its own, and what occurs twice in the
source occurs twice in the copy. A copied node keeps the span of its source if
that has been asked for.
-/

namespace Lalr

/-- What has been copied so far: which node and which sequence stands for which. -/
structure CopyMap where
  nodes : List (NodeId × NodeId) := []
  sequences : List (SequenceId × SequenceId) := []
  spans : List (SpanId × SpanId) := []
  deriving Inhabited

/-- Steps of a copy. -/
abbrev Copying := StateM (CopyMap × Forest)

namespace Forest

/-- Copies a sequence, given how its values are copied. -/
def copySequence (copyValue : Value → Copying Value) (id : SequenceId) : Copying SequenceId := do
  match (← get).1.sequences.lookup id with
  | some copy => return copy
  | none =>
    let items ← ((← get).2.items id).mapM copyValue
    modifyGet fun (map, forest) =>
      let (copy, forest) := forest.addSequence items
      (copy, ({ map with sequences := (id, copy) :: map.sequences }, forest))

/-- Copies a node, given how the values below it are copied. -/
def copyNode (copyValue : Value → Copying Value) (id : NodeId) : Copying NodeId := do
  match (← get).1.nodes.lookup id with
  | some copy => return copy
  | none =>
    let node := (← get).2.node id
    let children ← copySequence copyValue node.children
    modifyGet fun (map, forest) =>
      let (copy, forest) := forest.addNode { node with children }
      (copy, ({ map with nodes := (id, copy) :: map.nodes }, forest))

/-- Copies a span. -/
def copySpan (id : SpanId) : Copying SpanId := do
  match (← get).1.spans.lookup id with
  | some copy => return copy
  | none =>
    modifyGet fun (map, forest) =>
      let (copy, forest) := forest.addSpan (forest.span id)
      (copy, ({ map with spans := (id, copy) :: map.spans }, forest))

/-- Copies a value as far down as `depth`. -/
def copyValueTo : Nat → Value → Copying Value
  | depth + 1, .node id => .node <$> copyNode (copyValueTo depth) id
  | depth + 1, .sequence id => .sequence <$> copySequence (copyValueTo depth) id
  | _, .span id => .span <$> copySpan id
  | _, value => return value

/-- Deep copies of some values, with what they share among themselves shared among the copies. -/
def deepCopies (forest : Forest) (values : List Value) : List Value × Forest :=
  let copying : Copying (List Value) := values.mapM (copyValueTo forest.depthBound)
  let (copies, _, forest) := copying.run ({}, forest)
  (copies, forest)

/-- A node with the label and the very sequence of children of another. -/
def shallowCopy (forest : Forest) (id : NodeId) : NodeId × Forest :=
  forest.addNode { forest.node id with span := none }

end Forest

end Lalr
