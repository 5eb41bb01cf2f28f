import Mathlib.Data.Fintype.Card
import Mathlib.Order.Monotone.Basic
import Lalr.Forest.Order
import Lalr.Proofs.Forest.Trees

/-!
# Going down trees

A value is a tree if every way down from it comes to an end. Such a way meets no node
twice, so that it is no longer than the forest has nodes, however often the tree shares its
parts. A tree stays what it is as long as its nodes keep their labels and their children.
-/

namespace Lalr

theorem Value.exists_of_isNode {value : Value} (isNode : value.isNode = true) :
    ∃ id, value = .node id := by
  cases value with
  | node id => exact ⟨id, rfl⟩
  | _ => cases isNode

namespace Forest

variable {forest before after : Forest} {id : NodeId} {label : String} {children : List Value}
  {value root : Value} {depth : Nat}

/-- Whether a node is there, with some label and some children. -/
def HasNode (forest : Forest) (id : NodeId) (label : String) (children : List Value) : Prop :=
  ∃ node, forest.nodes[id.index]? = some node ∧ node.label = label ∧
    forest.sequences[node.children.index]? = some children

namespace HasNode

theorem children_eq (has : forest.HasNode id label children) : forest.children id = children := by
  rcases has with ⟨node, found, _, held⟩
  simp [Forest.children, Forest.node, Forest.items, found, held]

theorem bound (has : forest.HasNode id label children) : id.index < forest.nodes.size := by
  rcases has with ⟨node, found, _⟩
  exact (Array.getElem?_eq_some_iff.mp found).1

theorem keep (has : before.HasNode id label children) (keeps : before.Keeps after []) :
    after.HasNode id label children := by
  rcases has with ⟨node, found, rfl, held⟩
  rcases keeps.node found with ⟨kept, found, label, children⟩
  exact ⟨kept, found, label, keeps.sequence List.not_mem_nil (children ▸ held)⟩

end HasNode

/-! ## Depths -/

/-- Whether every way down from a value ends after at most `depth` nodes. -/
inductive EndsWithin (forest : Forest) : Nat → Value → Prop
  | leaf {depth : Nat} {value : Value} (isLeaf : value.isNode = false) :
      EndsWithin forest depth value
  | node {depth : Nat} {id : NodeId} {label : String} {children : List Value}
      (has : forest.HasNode id label children)
      (below : ∀ child ∈ children, EndsWithin forest depth child) :
      EndsWithin forest (depth + 1) (.node id)

/-- Whether every way down from a value ends, so that no node lies below itself. -/
def IsTree (forest : Forest) (value : Value) : Prop := ∃ depth, forest.EndsWithin depth value

namespace EndsWithin

theorem mono (ends : forest.EndsWithin depth value) :
    ∀ {more : Nat}, depth ≤ more → forest.EndsWithin more value := by
  induction ends with
  | leaf isLeaf => exact fun _ => .leaf isLeaf
  | node has _ ih =>
      intro more enough
      rcases Nat.exists_eq_add_of_le' (Nat.le_trans (Nat.succ_pos _) enough) with ⟨more, rfl⟩
      exact .node has fun child member => ih child member (Nat.le_of_succ_le_succ enough)

/-- Where there are no more nodes from which all ways end after one more step, there are no more
after two more steps. -/
theorem stable (settled : ∀ {id : NodeId}, forest.EndsWithin (depth + 1) (.node id) →
      forest.EndsWithin depth (.node id)) (ends : forest.EndsWithin (depth + 2) (.node id)) :
    forest.EndsWithin (depth + 1) (.node id) := by
  cases ends with
  | leaf isLeaf => cases isLeaf
  | node has below =>
      refine .node has fun child member => ?_
      cases child with
      | node id => exact settled (below _ member)
      | _ => exact .leaf rfl

open Classical in
/-- The nodes from which every way down ends after at most `depth` nodes. -/
noncomputable def nodes (forest : Forest) (depth : Nat) : Finset (Fin forest.nodes.size) :=
  Finset.univ.filter fun index => forest.EndsWithin depth (.node ⟨index⟩)

theorem mem_nodes {index : Fin forest.nodes.size} :
    index ∈ nodes forest depth ↔ forest.EndsWithin depth (.node ⟨index⟩) := by
  simp [nodes]

theorem nodes_subset {more : Nat} (less : depth ≤ more) :
    nodes forest depth ⊆ nodes forest more :=
  fun _ member => mem_nodes.mpr ((mem_nodes.mp member).mono less)

theorem node_of_nodes {more : Nat} (same : nodes forest more = nodes forest depth)
    (ends : forest.EndsWithin more (.node id)) : forest.EndsWithin depth (.node id) := by
  have bound : id.index < forest.nodes.size := by
    cases ends with
    | leaf isLeaf => cases isLeaf
    | node has => exact has.bound
  have member : (⟨id.index, bound⟩ : Fin _) ∈ nodes forest more := mem_nodes.mpr ends
  rw [same] at member
  exact mem_nodes.mp member

/-- The number of nodes from which all ways end grows with each step until it stays as it is, so
that it does not grow for longer than there are nodes. -/
theorem nodes_of_size_le (enough : forest.nodes.size ≤ depth) :
    nodes forest depth = nodes forest forest.nodes.size := by
  have grows : Monotone fun depth => (nodes forest depth).card :=
    fun _ _ less => Finset.card_le_card (nodes_subset less)
  have bounded (depth : Nat) : (nodes forest depth).card ≤ forest.nodes.size := by
    simpa using Finset.card_le_univ (nodes forest depth)
  have settles (depth : Nat) (same : (nodes forest depth).card = (nodes forest (depth + 1)).card) :
      (nodes forest (depth + 1)).card = (nodes forest (depth + 2)).card := by
    have settled : nodes forest depth = nodes forest (depth + 1) :=
      Finset.eq_of_subset_of_card_le (nodes_subset (Nat.le_succ _)) same.ge
    have stays : nodes forest (depth + 2) ⊆ nodes forest (depth + 1) := fun _ member =>
      mem_nodes.mpr (stable (node_of_nodes settled.symm) (mem_nodes.mp member))
    rw [(nodes_subset (Nat.le_succ _)).antisymm stays]
  have same := Nat.stabilises_of_monotone grows bounded settles enough
  exact (Finset.eq_of_subset_of_card_le (nodes_subset enough) same.le).symm

end EndsWithin

/-- No way down a tree is longer than the bound on depths. -/
theorem IsTree.endsWithin (isTree : forest.IsTree value) :
    forest.EndsWithin forest.depthBound value := by
  rcases isTree with ⟨depth, ends⟩
  have within : forest.EndsWithin forest.nodes.size value := by
    cases value with
    | node id =>
        exact EndsWithin.node_of_nodes (EndsWithin.nodes_of_size_le (Nat.le_max_right depth _))
          (ends.mono (Nat.le_max_left ..))
    | _ => exact .leaf rfl
  exact within.mono (by unfold depthBound; omega)

/-! ## Nodes of a tree -/

/-- The nodes of a tree. -/
inductive Below (forest : Forest) (root : Value) : NodeId → Prop
  | root {id : NodeId} (same : root = .node id) : Below forest root id
  | child {id child : NodeId} {label : String} {children : List Value}
      (below : Below forest root id) (has : forest.HasNode id label children)
      (member : .node child ∈ children) : Below forest root child

/-- Whether the nodes of a tree still have the labels and the children that they had in an earlier
forest. -/
def Retains (before : Forest) (root : Value) (after : Forest) : Prop :=
  ∀ {id : NodeId} {label : String} {children : List Value}, before.Below root id →
    before.HasNode id label children → after.HasNode id label children

theorem Retains.refl (forest : Forest) (root : Value) : forest.Retains root forest :=
  fun _ => id

theorem Retains.keep {between : Forest} (retains : before.Retains root between)
    (keeps : between.Keeps after []) : before.Retains root after :=
  fun below has => (retains below has).keep keeps

end Forest

end Lalr
