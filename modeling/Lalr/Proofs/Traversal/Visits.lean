import Lalr.Traversal.Visitor
import Lalr.Proofs.Forest.Orders
import Lalr.Proofs.Traversal.Flattening

/-!
# Orders of visits

A visitor whose handlers leave the tree as it is calls them for the nodes of a list that is
known beforehand. From above, the stack and the recursion go through the same list. From
below they do not: without recursion, a visitor goes through the rows of the tree, the lowest
one first, with recursion through a node's children before their parent. Both lists hold the
same nodes if no node occurs twice, and they are the same list only for a tree that goes on
below first children only.
-/

namespace Lalr

open Forest

namespace Visitor

variable {visitor : Visitor} {original : Forest} {root : Value} {id : NodeId} {count : Nat}

/-- Whether the handlers of a visitor leave the nodes of a tree as they are. -/
structure Spares (visitor : Visitor) (original : Forest) (root : Value) : Prop where
  handlers : ∀ {name handler}, assoc? visitor.handlers name = some handler →
    ∀ id, (handler id).Spares (original.Retains root)
  fallback : ∀ id, (visitor.fallback id).Spares (original.Retains root)

/-- Whether a visit attends to the nodes of a list one after the other, and does nothing else. -/
def Attends (visitor : Visitor) (original : Forest) (root : Value) (visit : Run Unit)
    (nodes : List NodeId) : Prop :=
  visit.SameWhile (original.Retains root) (nodes.forM visitor.attend)

theorem forM_append (step : NodeId → Run Unit) (first second : List NodeId) :
    (first ++ second).forM step = first.forM step >>= fun _ => second.forM step :=
  List.forM_append

/-- What is done for each of some nodes adds up. -/
theorem Attends.flatMap {visit : NodeId → Run Unit} {below : NodeId → List NodeId}
    (nodes : List NodeId)
    (each : ∀ id ∈ nodes, visitor.Attends original root (visit id) (below id)) :
    visitor.Attends original root (nodes.forM visit) (nodes.flatMap below) := by
  unfold Attends at each ⊢
  induction nodes with
  | nil => exact .pure _
  | cons id nodes ih =>
      rw [List.forall_mem_cons] at each
      rw [List.flatMap_cons, forM_append]
      exact .bind each.1 fun _ => ih each.2

namespace Spares

variable (spares : visitor.Spares original root)

include spares

theorem attend (id : NodeId) : (visitor.attend id).Spares (original.Retains root) := by
  refine .bind (.look _) fun label => ?_
  split
  next handler handles => exact spares.handlers handles id
  next => exact spares.fallback id

/-- Attending to a node is attending to a list of one node. -/
theorem attends_singleton (id : NodeId) :
    visitor.Attends original root (visitor.attend id) [id] := by
  have single : [id].forM visitor.attend = visitor.attend id := bind_pure_unit
  unfold Attends
  rw [single]
  exact spares.attend id

end Spares

theorem childNodes_of_retains {label : String} {children : List Value}
    (below : original.Below root id) (has : original.HasNode id label children) {forest : Forest}
    (retains : original.Retains root forest) : forest.childNodes id = original.childNodes id := by
  rw [childNodes, childNodes, (retains below has).children_eq, has.children_eq]

/-- What is known of a tree to whose nodes a visit attends: how far down it goes, and that it is a
part of the tree that stays as it is. -/
structure Inside (original : Forest) (root : Value) (count : Nat) (id : NodeId) : Prop where
  ends : original.EndsWithin count (.node id)
  below : original.Below root id

namespace Inside

theorem lower (inside : Inside original root (count + 1) id) :
    ∀ child ∈ original.childNodes id, Inside original root count child := by
  rcases inside.ends.exists_children with ⟨_, label, children, _, has, _⟩
  refine fun child member => ⟨inside.ends.childNodes child member, ?_⟩
  rw [mem_childNodes, has.children_eq] at member
  exact .child inside.below has member

theorem not_zero : ¬Inside original root 0 id := by
  intro inside
  rcases inside.ends.exists_children with ⟨_, _, _, ⟨⟩, _⟩

theorem settles (inside : Inside original root count id) {forest : Forest}
    (retains : original.Retains root forest) : forest.childNodes id = original.childNodes id := by
  rcases inside.ends.exists_children with ⟨_, _, _, _, has, _⟩
  exact childNodes_of_retains inside.below has retains

end Inside

section Walks

variable (spares : visitor.Spares original root)

include spares

/-- Recursion from below attends to a node after what is below it. -/
theorem Spares.bottomUpEach_attends (count : Nat) : ∀ {id : NodeId},
    Inside original root count id →
      visitor.Attends original root (visitor.bottomUpEach count id)
        (original.postorderTo count id) := by
  induction count with
  | zero => exact fun _ => .pure _
  | succ count ih =>
      intro id inside
      unfold Attends
      rw [postorderTo, forM_append]
      refine .look_bind inside.settles ?_
      exact .bind (Attends.flatMap _ fun child member => ih (inside.lower child member)) fun _ =>
        spares.attends_singleton id

/-- Recursion from above attends to a node before what is below it. -/
theorem Spares.topDown_attends (count : Nat) : ∀ {id : NodeId},
    Inside original root count id →
      visitor.Attends original root (visitor.topDown count id) (original.topDownTo count id) := by
  induction count with
  | zero => exact fun _ => .pure _
  | succ count ih =>
      intro id inside
      refine .bind (spares.attend id) fun _ => .look_bind inside.settles ?_
      exact Attends.flatMap _ fun child member => ih (inside.lower child member)

/-- With a stack, the nodes below the top come before what lies further down on the stack. Induction
on how far down the trees on the stack go, and for each depth on the nodes on the stack. -/
theorem Spares.topDownStack_attends (count : Nat) : ∀ (nodes : List NodeId) {limit : Nat}
    {stack others : List NodeId}, (∀ id ∈ nodes, Inside original root count id) →
      visitor.Attends original root (visitor.topDownStack limit stack) others →
        visitor.Attends original root
          (visitor.topDownStack ((nodes.flatMap (original.topDownTo count)).length + limit)
            (nodes ++ stack))
          (nodes.flatMap (original.topDownTo count) ++ others) := by
  induction count with
  | zero =>
      intro nodes limit stack others inside rest
      cases nodes with
      | nil => simpa using rest
      | cons id nodes => exact absurd (inside id (by simp)) Inside.not_zero
  | succ count below =>
      intro nodes
      induction nodes with
      | nil =>
          intro limit stack others _ rest
          simpa using rest
      | cons id nodes ih =>
          intro limit stack others inside rest
          rw [List.forall_mem_cons] at inside
          have goes := below _ inside.1.lower (ih inside.2 rest)
          have steps : ((id :: nodes).flatMap (original.topDownTo (count + 1))).length + limit =
              ((original.childNodes id).flatMap (original.topDownTo count)).length +
                ((nodes.flatMap (original.topDownTo (count + 1))).length + limit) + 1 := by
            rw [List.flatMap_cons, topDownTo, List.cons_append, List.length_cons,
              List.length_append]
            omega
          have order : (id :: nodes).flatMap (original.topDownTo (count + 1)) ++ others =
              id :: ((original.childNodes id).flatMap (original.topDownTo count) ++
                (nodes.flatMap (original.topDownTo (count + 1)) ++ others)) := by
            rw [List.flatMap_cons, topDownTo]
            simp
          rw [steps, order]
          exact .bind (spares.attend id) fun _ => .look_bind inside.1.settles goes

end Walks

section Orders

variable {before : Workspace} {top : NodeId} {limit steps : Nat}
  (isTree : before.forest.IsTree (.node top)) (spares : visitor.Spares before.forest (.node top))

include isTree spares

/-- From above, a stack and recursion attend to the nodes of the same list. -/
theorem topDown_runs (deep : before.forest.depthBound ≤ limit)
    (long : (before.forest.topDown top).length ≤ steps) :
    (visitor.topDown limit top).run.run before =
        ((before.forest.topDown top).forM visitor.attend).run.run before ∧
      (visitor.topDownStack steps [top]).run.run before =
        ((before.forest.topDown top).forM visitor.attend).run.run before := by
  have inside : Inside before.forest (.node top) before.forest.depthBound top :=
    ⟨isTree.endsWithin, .root rfl⟩
  constructor
  · have attends := spares.topDown_attends limit ⟨inside.ends.mono deep, inside.below⟩
    rw [inside.ends.topDownTo_eq deep] at attends
    exact attends.equal (Retains.refl before.forest (.node top))
  · rcases Nat.exists_eq_add_of_le long with ⟨left, rfl⟩
    have done : visitor.Attends before.forest (.node top) (visitor.topDownStack left []) [] := by
      cases left <;> exact .pure _
    have attends := spares.topDownStack_attends _ [top] (List.forall_mem_singleton.mpr inside) done
    simp only [List.flatMap_singleton, List.append_nil] at attends
    exact attends.equal (Retains.refl before.forest (.node top))

/-- From below, recursion attends to a node after what is below it. -/
theorem bottomUpEach_runs (deep : before.forest.depthBound ≤ limit) :
    (visitor.bottomUpEach limit top).run.run before =
      ((before.forest.postorder top).forM visitor.attend).run.run before := by
  have ends := isTree.endsWithin
  have attends := spares.bottomUpEach_attends limit ⟨ends.mono deep, .root rfl⟩
  rw [ends.postorderTo_eq deep] at attends
  exact attends.equal (Retains.refl before.forest (.node top))

/-- A visitor whose handlers leave a tree without shared parts as it is calls them from above for
the same nodes in the same order with and without recursion. From below it calls them for the same
nodes both ways, but not in the same order unless nothing lies below a younger sibling: without
recursion it goes by rows. Since this holds whatever the handlers are, also for those that take
notes, the calls themselves are the same. -/
theorem visits_in_order (unshared : (before.forest.topDown top).Nodup)
    (deep : before.forest.depthBound ≤ limit)
    (long : (before.forest.topDown top).length ≤ steps) :
    (visitor.topDownStack steps [top]).run.run before =
        (visitor.topDown limit top).run.run before ∧
      (visitor.topDown limit top).run.run before =
        ((before.forest.topDown top).forM visitor.attend).run.run before ∧
      (visitor.bottomUp top).run.run before =
        ((before.forest.bottomUp top).forM visitor.attend).run.run before ∧
      (visitor.bottomUpEach limit top).run.run before =
        ((before.forest.postorder top).forM visitor.attend).run.run before ∧
      (before.forest.bottomUp top).Perm (before.forest.postorder top) ∧
      (before.forest.bottomUp top = before.forest.postorder top ↔
        before.forest.BranchesFirst top) := by
  rcases topDown_runs isTree spares deep long with ⟨recursive, stacked⟩
  have same : (before.forest.bottomUp top).Perm (before.forest.postorder top) := by
    rw [bottomUp_eq_rows unshared]
    exact (rows_perm_topDownTo ..).trans (postorderTo_perm_topDownTo ..).symm
  exact ⟨stacked.trans recursive.symm, recursive, rfl, bottomUpEach_runs isTree spares deep, same,
    bottomUp_eq_postorder_iff isTree unshared⟩

end Orders

/-- A root with the children `a` and `b`, where `c` is the child of `b`. -/
def unevenWorkspace : Workspace where
  forest := {
    nodes := #[⟨"c", ⟨0⟩, none, false⟩, ⟨"b", ⟨1⟩, none, false⟩,
      ⟨"a", ⟨2⟩, none, false⟩, ⟨"root", ⟨3⟩, none, false⟩]
    sequences := #[[], [.node ⟨0⟩], [], [.node ⟨2⟩, .node ⟨1⟩]] }

/-- A visitor that takes a note of the label of each node. -/
def notingVisitor : Visitor where
  fallback := fun id => do Work.note (.text (← Work.look fun forest => forest.label id))

theorem unevenWorkspace_isTree : unevenWorkspace.forest.IsTree (.node ⟨3⟩) := by
  have lowest : unevenWorkspace.forest.EndsWithin 1 (.node ⟨0⟩) :=
    .node ⟨_, rfl, rfl, rfl⟩ nofun
  have branch : unevenWorkspace.forest.EndsWithin 2 (.node ⟨1⟩) :=
    .node ⟨_, rfl, rfl, rfl⟩ (List.forall_mem_singleton.mpr lowest)
  have leaf : unevenWorkspace.forest.EndsWithin 2 (.node ⟨2⟩) :=
    .node ⟨_, rfl, rfl, rfl⟩ nofun
  exact ⟨3, .node ⟨_, rfl, rfl, rfl⟩
    (List.forall_mem_cons.mpr ⟨leaf, List.forall_mem_singleton.mpr branch⟩)⟩

theorem notingVisitor_spares (original : Forest) (root : Value) :
    notingVisitor.Spares original root where
  handlers has := by cases has
  fallback id := .bind (.look _) fun label =>
    ⟨fun _ _ ⟨same, here⟩ => ⟨by rw [same], by rw [same], here⟩⟩

/-- From above, the labels are noted in the same order both ways. -/
theorem visits_in_order_uneven :
    unevenWorkspace.forest.IsTree (.node ⟨3⟩) ∧
      notingVisitor.Spares unevenWorkspace.forest (.node ⟨3⟩) ∧
      (unevenWorkspace.forest.topDown ⟨3⟩).Nodup ∧
      (notingVisitor.topDownStack 4 [⟨3⟩]).run.run unevenWorkspace =
        (notingVisitor.topDown 9 ⟨3⟩).run.run unevenWorkspace := by
  have isTree := unevenWorkspace_isTree
  have spares := notingVisitor_spares unevenWorkspace.forest (.node ⟨3⟩)
  have unshared : (unevenWorkspace.forest.topDown ⟨3⟩).Nodup := by decide
  exact ⟨isTree, spares, unshared,
    (visits_in_order isTree spares unshared (by decide) (by decide)).1⟩

/-- From below, the labels are noted in different orders: without recursion `c` comes before `a`,
with recursion after it. -/
theorem visits_out_of_order :
    unevenWorkspace.forest.IsTree (.node ⟨3⟩) ∧
      notingVisitor.Spares unevenWorkspace.forest (.node ⟨3⟩) ∧
      (unevenWorkspace.forest.topDown ⟨3⟩).Nodup ∧
      (StateT.run (m := Id) (notingVisitor.bottomUp ⟨3⟩).run unevenWorkspace).2.notes =
        [.text "c", .text "a", .text "b", .text "root"] ∧
      (StateT.run (m := Id) (notingVisitor.bottomUpEach 9 ⟨3⟩).run unevenWorkspace).2.notes =
        [.text "a", .text "c", .text "b", .text "root"] :=
  ⟨unevenWorkspace_isTree, notingVisitor_spares _ _, by decide, rfl, rfl⟩

end Visitor

end Lalr
