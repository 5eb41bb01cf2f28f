import Lalr.Forest.Basic

/-!
# Orders of the nodes of a tree

Bottom up, a node comes after everything below it, and a node that occurs more
than once comes once. Top down, nodes come in the order in which they are
written, as often as they occur.
-/

namespace Lalr

namespace Forest

/-- The nodes that can be reached from those of `level`, level by level. Each comes once, where it
is reached first; `seen` holds those of the levels before, last first. -/
def levels (forest : Forest) : Nat → List NodeId → List NodeId → List NodeId
  | 0, _, seen => seen
  | depth + 1, level, seen =>
    match level with
    | [] => seen
    | level =>
      let fresh := level.foldl (fun found id =>
        if found.contains id || seen.contains id then found else id :: found) []
      let below := fresh.reverse.flatMap fun id => (forest.childNodes id).reverse
      forest.levels depth below (fresh ++ seen)

/-- The nodes of a tree, bottom up. -/
def bottomUp (forest : Forest) (root : NodeId) : List NodeId :=
  forest.levels forest.depthBound [root] []

/-- The nodes of a tree, top down. -/
def topDownTo (forest : Forest) : Nat → NodeId → List NodeId
  | 0, _ => []
  | depth + 1, id => id :: (forest.childNodes id).flatMap (forest.topDownTo depth)

/-- The nodes of a tree, top down. -/
def topDown (forest : Forest) (root : NodeId) : List NodeId :=
  forest.topDownTo forest.depthBound root

/-- The leaves of a tree, from left to right. -/
def leavesTo (forest : Forest) : Nat → NodeId → List Value
  | 0, _ => []
  | depth + 1, id =>
    (forest.children id).flatMap fun child =>
      match child with
      | .node child => forest.leavesTo depth child
      | leaf => [leaf]

/-- The leaves of a tree, from left to right. -/
def leaves (forest : Forest) (root : NodeId) : List Value :=
  forest.leavesTo forest.depthBound root

/-- The children of a node with those that bear one of the labels replaced by their own
children. -/
def expanded (forest : Forest) (labels : List String) (children : List Value) : List Value :=
  children.flatMap fun child =>
    match child with
    | .node id => if labels.contains (forest.label id) then forest.children id else [child]
    | _ => [child]

/-- Replaces the children of a node that bear one of the labels by their own children. Tells also
whether there were any. -/
def expandKids (forest : Forest) (id : NodeId) (labels : List String) : Bool × Forest :=
  let found := (forest.childNodes id).any fun child => labels.contains (forest.label child)
  (found, if found then forest.changeChildren id (forest.expanded labels) else forest)

end Forest

end Lalr
