import Lalr.Forest.Order
import Lalr.Traversal.Handler

/-!
# Visitors

A visitor goes through the nodes of a tree and calls a handler for each. What
the handlers give back does not matter; they may change the nodes they are
called for. Both from below and from above there are two ways to go, with and
without recursion.
-/

namespace Lalr

/-- A visitor: what is done at a node with a certain label, and what is done at the others. -/
structure Visitor where
  handlers : List (String × (NodeId → Run Unit)) := []
  fallback : NodeId → Run Unit := fun _ => return

namespace Visitor

/-- Does what is to be done at a node. -/
def attend (visitor : Visitor) (id : NodeId) : Run Unit := do
  match assoc? visitor.handlers (← Work.look fun forest => forest.label id) with
  | some handler => handler id
  | none => visitor.fallback id

/-- Goes through the nodes that a tree has at first, each of them once and after those below it. -/
def bottomUp (visitor : Visitor) (root : NodeId) : Run Unit := do
  let nodes ← Work.look fun forest => forest.bottomUp root
  nodes.forM visitor.attend

/-- Goes through the nodes of a tree as often as they occur, a node after those below it, no deeper
than `limit`. -/
def bottomUpEach (visitor : Visitor) : Nat → NodeId → Run Unit
  | 0, _ => return
  | limit + 1, id => do
    let below ← Work.look fun forest => forest.childNodes id
    below.forM (visitor.bottomUpEach limit)
    visitor.attend id

/-- Goes through the nodes of a tree as often as they occur, a node before those below it, no deeper
than `limit`. What lies below a node is seen as it is after the visit of the node. -/
def topDown (visitor : Visitor) : Nat → NodeId → Run Unit
  | 0, _ => return
  | limit + 1, id => do
    visitor.attend id
    let below ← Work.look fun forest => forest.childNodes id
    below.forM (visitor.topDown limit)

/-- Goes through the nodes on a stack and those below them as often as they occur, a node before
those below it, and no more than `limit` of them. What lies below a node is put onto the stack as it
is after the visit of the node. -/
def topDownStack (visitor : Visitor) : Nat → List NodeId → Run Unit
  | 0, _ => return
  | _, [] => return
  | limit + 1, id :: stack => do
    visitor.attend id
    let below ← Work.look fun forest => forest.childNodes id
    visitor.topDownStack limit (below ++ stack)

end Visitor

end Lalr
