import Mathlib.Data.List.Basic
import Lalr.Forest.Basic

/-!
# What values of a forest show

A value refers to a node by its number, so that the tree it stands for depends on
all that has been done to the forest. This file relates values to plain trees, and
keeps account of the sequences in which the children of a tree lie: a change to
any other sequence leaves the tree as it is.
-/

namespace Lalr

/-- A tree as it is seen from outside: without numbers, and without the places of its nodes. -/
inductive Tree where
  | nothing
  | token (token : Token)
  | node (label : String) (children : List Tree)
  deriving Inhabited

/-- The children of a tree. Only nodes have any. -/
def Tree.children : Tree → List Tree
  | .node _ children => children
  | _ => []

namespace Forest

mutual

/-- A value shows a tree, of which the children lie in some sequences of the forest. -/
inductive Shows (forest : Forest) : Value → Tree → List SequenceId → Prop
  | nothing : Shows forest .nothing .nothing []
  | token (token : Token) : Shows forest (.token token) (.token token) []
  | node {id : NodeId} {node : Node} {items : List Value} {trees : List Tree}
      {used : List SequenceId} (found : forest.nodes[id.index]? = some node)
      (held : forest.sequences[node.children.index]? = some items)
      (shown : ShowsAll forest items trees used) :
      Shows forest (.node id) (.node node.label trees) (node.children :: used)

/-- Some values show some trees, one by one. -/
inductive ShowsAll (forest : Forest) : List Value → List Tree → List SequenceId → Prop
  | nil : ShowsAll forest [] [] []
  | cons {value : Value} {values : List Value} {tree : Tree} {trees : List Tree}
      {used usedBy : List SequenceId} (shown : Shows forest value tree used)
      (rest : ShowsAll forest values trees usedBy) :
      ShowsAll forest (value :: values) (tree :: trees) (used ++ usedBy)

end

/-- A forest keeps the nodes of another one and all its sequences apart from those that have been
changed. -/
structure Keeps (before after : Forest) (changed : List SequenceId) : Prop where
  node : ∀ {index : Nat} {node : Node}, before.nodes[index]? = some node →
    ∃ kept, after.nodes[index]? = some kept ∧ kept.label = node.label ∧
      kept.children = node.children
  sequence : ∀ {id : SequenceId} {items : List Value}, id ∉ changed →
    before.sequences[id.index]? = some items → after.sequences[id.index]? = some items
  grows : before.sequences.size ≤ after.sequences.size

namespace Keeps

variable {before between after forest : Forest} {changed more : List SequenceId}

theorem refl (forest : Forest) (changed : List SequenceId) : forest.Keeps forest changed where
  node found := ⟨_, found, rfl, rfl⟩
  sequence _ held := held
  grows := Nat.le_refl _

theorem trans (first : before.Keeps between changed) (second : between.Keeps after changed) :
    before.Keeps after changed where
  node found := by
    rcases first.node found with ⟨kept, found, label, children⟩
    rcases second.node found with ⟨last, found, sameLabel, sameChildren⟩
    exact ⟨last, found, sameLabel.trans label, sameChildren.trans children⟩
  sequence outside held := second.sequence outside (first.sequence outside held)
  grows := Nat.le_trans first.grows second.grows

theorem mono (keeps : before.Keeps after changed) (subset : changed ⊆ more) :
    before.Keeps after more where
  node := keeps.node
  sequence outside := keeps.sequence fun member => outside (subset member)
  grows := keeps.grows

/-- Adding a sequence changes nothing that was there. -/
theorem addSequence (forest : Forest) (items : List Value) :
    forest.Keeps (forest.addSequence items).2 [] where
  node found := ⟨_, found, rfl, rfl⟩
  sequence _ held := by
    rcases Array.getElem?_eq_some_iff.mp held with ⟨bound, _⟩
    simpa [Forest.addSequence, Array.getElem?_push, Nat.ne_of_lt bound] using held
  grows := by simp [Forest.addSequence]

/-- Adding a node changes nothing that was there. -/
theorem addNode (forest : Forest) (node : Node) : forest.Keeps (forest.addNode node).2 [] where
  node found := by
    rcases Array.getElem?_eq_some_iff.mp found with ⟨bound, _⟩
    exact ⟨_, by simpa [Forest.addNode, Array.getElem?_push, Nat.ne_of_lt bound] using found,
      rfl, rfl⟩
  sequence _ held := held
  grows := Nat.le_refl _

/-- Replacing the values of a sequence changes this sequence alone. -/
theorem setItems (forest : Forest) (id : SequenceId) (items : List Value) :
    forest.Keeps (forest.setItems id items) [id] where
  node found := ⟨_, found, rfl, rfl⟩
  sequence outside held := by
    have different : id.index ≠ SequenceId.index _ := fun same =>
      outside (List.mem_singleton.mpr (congrArg SequenceId.mk same.symm))
    simpa [Forest.setItems, Array.getElem?_setIfInBounds, different] using held
  grows := by simp [Forest.setItems]

/-- A sequence that was not there before need not be accounted for. -/
theorem forget {id : SequenceId} (keeps : before.Keeps after (id :: changed))
    (fresh : before.sequences.size ≤ id.index) : before.Keeps after changed where
  node := keeps.node
  sequence := by
    intro other items outside held
    refine keeps.sequence (fun member => ?_) held
    rcases List.mem_cons.mp member with rfl | member
    · rcases Array.getElem?_eq_some_iff.mp held with ⟨bound, _⟩
      exact Nat.lt_irrefl _ (Nat.lt_of_lt_of_le bound fresh)
    · exact outside member
  grows := keeps.grows

end Keeps

section Frames

variable {before after : Forest} {changed : List SequenceId}

mutual

/-- A value goes on showing its tree where no sequence of the tree has been changed. -/
theorem Shows.keep (keeps : before.Keeps after changed) :
    {value : Value} → {tree : Tree} → {used : List SequenceId} →
      before.Shows value tree used →
      used.Disjoint changed → after.Shows value tree used
  | _, _, _, .nothing, _ => .nothing
  | _, _, _, .token leaf, _ => .token leaf
  | _, _, _, .node found held shown, apart => by
      rcases keeps.node found with ⟨kept, found, label, children⟩
      rw [← label, ← children]
      refine .node found ?_ (ShowsAll.keep keeps shown fun _ member => apart (by simp [member]))
      rw [children]
      exact keeps.sequence (apart (by simp)) held

/-- Values go on showing their trees where no sequence of the trees has been changed. -/
theorem ShowsAll.keep (keeps : before.Keeps after changed) :
    {values : List Value} → {trees : List Tree} → {used : List SequenceId} →
      before.ShowsAll values trees used → used.Disjoint changed →
        after.ShowsAll values trees used
  | _, _, _, .nil, _ => .nil
  | _, _, _, .cons shown rest, apart =>
      .cons (shown.keep keeps fun _ member => apart (by simp [member]))
        (rest.keep keeps fun _ member => apart (by simp [member]))

end

variable {forest : Forest}

mutual

/-- The sequences of a tree are there. -/
theorem Shows.bound {id : SequenceId} :
    {value : Value} → {tree : Tree} → {used : List SequenceId} →
      forest.Shows value tree used →
      id ∈ used → id.index < forest.sequences.size
  | _, _, _, .node _ held shown, member => by
      rcases List.mem_cons.mp member with rfl | member
      · exact (Array.getElem?_eq_some_iff.mp held).1
      · exact shown.bound member

/-- The sequences of some trees are there. -/
theorem ShowsAll.bound {id : SequenceId} :
    {values : List Value} → {trees : List Tree} → {used : List SequenceId} →
      forest.ShowsAll values trees used → id ∈ used → id.index < forest.sequences.size
  | _, _, _, .cons shown rest, member =>
      (List.mem_append.mp member).elim shown.bound rest.bound

end

end Frames

namespace ShowsAll

variable {forest : Forest} {values others : List Value} {trees more : List Tree}
  {used usedBy : List SequenceId}

theorem length_eq (shown : forest.ShowsAll values trees used) : values.length = trees.length := by
  induction values generalizing trees used with
  | nil => cases shown; rfl
  | cons value values ih => cases shown with | cons _ rest => simp [ih rest]

theorem append (shown : forest.ShowsAll values trees used)
    (rest : forest.ShowsAll others more usedBy) :
    forest.ShowsAll (values ++ others) (trees ++ more) (used ++ usedBy) := by
  induction values generalizing trees used with
  | nil => cases shown; exact rest
  | cons value values ih =>
      cases shown with
      | cons first left =>
          rw [List.append_assoc]
          exact .cons first (ih left)

theorem singleton {value : Value} {tree : Tree} (shown : forest.Shows value tree used) :
    forest.ShowsAll [value] [tree] used := by
  simpa using ShowsAll.cons shown .nil

theorem nothings (count : Nat) :
    forest.ShowsAll (List.replicate count .nothing) (List.replicate count .nothing) [] := by
  induction count with
  | zero => exact .nil
  | succ count ih => exact .cons .nothing ih

/-- What shows the trees of two lists in turn falls into two parts. -/
theorem split {all : List Value} (shown : forest.ShowsAll all (trees ++ more) used) :
    ∃ front back usedFront usedBack, all = front ++ back ∧ used = usedFront ++ usedBack ∧
      forest.ShowsAll front trees usedFront ∧ forest.ShowsAll back more usedBack := by
  induction trees generalizing all used with
  | nil => exact ⟨[], all, [], used, rfl, rfl, .nil, shown⟩
  | cons tree trees ih =>
      cases shown with
      | @cons value _ _ _ usedFirst _ first rest =>
          rcases ih rest with ⟨front, back, usedFront, usedBack, rfl, rfl, left, right⟩
          exact ⟨value :: front, back, usedFirst ++ usedFront, usedBack, rfl, by simp,
            .cons first left, right⟩

/-- The same trees are shown in the reverse order, by the same sequences. -/
theorem reverse (shown : forest.ShowsAll values trees used) :
    ∃ usedBy, usedBy.Perm used ∧ forest.ShowsAll values.reverse trees.reverse usedBy := by
  induction values generalizing trees used with
  | nil => cases shown; exact ⟨[], .refl _, .nil⟩
  | cons value values ih =>
      cases shown with
      | @cons _ _ _ _ usedFirst _ first rest =>
          rcases ih rest with ⟨usedRest, perm, shown⟩
          refine ⟨usedRest ++ usedFirst, (perm.append_right _).trans List.perm_append_comm, ?_⟩
          simpa using shown.append (singleton first)

/-- What is taken off the top of a stack shows the last trees that were put there, in the order in
which they were. -/
theorem taken (shown : forest.ShowsAll values (trees.reverse ++ more) used) :
    ∃ usedTop usedBelow, (usedTop ++ usedBelow).Perm used ∧
      forest.ShowsAll (values.take trees.length).reverse trees usedTop ∧
      forest.ShowsAll (values.drop trees.length) more usedBelow := by
  rcases shown.split with ⟨top, below, usedTop, usedBelow, rfl, rfl, shownTop, shownBelow⟩
  rcases shownTop.reverse with ⟨usedBy, perm, shown⟩
  have length : top.length = trees.length := by simpa using shownTop.length_eq
  refine ⟨usedBy, usedBelow, perm.append_right _, ?_, ?_⟩
  · simpa [← length] using shown
  · simpa [← length] using shownBelow

end ShowsAll

/-- A sequence holds values that show some trees. -/
def Holds (forest : Forest) (sequence : SequenceId) (trees : List Tree)
    (used : List SequenceId) : Prop :=
  ∃ items, forest.sequences[sequence.index]? = some items ∧ forest.ShowsAll items trees used

namespace Holds

variable {before after forest : Forest} {sequence : SequenceId} {values : List Value}
  {trees more : List Tree} {used usedBy changed : List SequenceId}

theorem items_shown (holds : forest.Holds sequence trees used) :
    forest.ShowsAll (forest.items sequence) trees used := by
  rcases holds with ⟨items, held, shown⟩
  simpa [Forest.items, held] using shown

theorem index_lt (holds : forest.Holds sequence trees used) :
    sequence.index < forest.sequences.size := by
  rcases holds with ⟨items, held, _⟩
  exact (Array.getElem?_eq_some_iff.mp held).1

/-- Adding values at the end of a sequence adds their trees. -/
theorem setItems (holds : forest.Holds sequence trees used)
    (shown : forest.ShowsAll values more usedBy) (outside : sequence ∉ used ++ usedBy) :
    (forest.setItems sequence (forest.items sequence ++ values)).Holds sequence (trees ++ more)
      (used ++ usedBy) := by
  refine ⟨forest.items sequence ++ values, ?_, ?_⟩
  · simp [Forest.setItems, holds.index_lt]
  · refine (holds.items_shown.append shown).keep (.setItems forest sequence _) ?_
    exact List.disjoint_singleton.mpr outside

end Holds

section Growth

variable {forest : Forest} {items : List Value} {trees : List Tree} {used : List SequenceId}

@[simp]
theorem held_addSequence (forest : Forest) (items : List Value) :
    (forest.addSequence items).2.sequences[(forest.addSequence items).1.index]? = some items := by
  simp [addSequence]

/-- A node that is added shows a tree of what its children show. -/
theorem shows_addNode {node : Node}
    (held : forest.sequences[node.children.index]? = some items)
    (shown : forest.ShowsAll items trees used) :
    (forest.addNode node).2.Shows (.node (forest.addNode node).1) (.node node.label trees)
      (node.children :: used) := by
  refine .node ?_ held (shown.keep (.addNode forest node) (List.disjoint_nil_right used))
  simp [addNode]

/-- A tree that is added has what its children show. -/
theorem shows_addTree {label : String} (shown : forest.ShowsAll items trees used) :
    (forest.addTree label items).2.Shows (.node (forest.addTree label items).1)
      (.node label trees) ((forest.addSequence items).1 :: used) :=
  shows_addNode (held_addSequence forest items)
    (shown.keep (.addSequence forest items) (List.disjoint_nil_right used))

/-- Adding a tree changes nothing that was there. -/
theorem Keeps.addTree (forest : Forest) (label : String) (items : List Value) :
    forest.Keeps (forest.addTree label items).2 [] :=
  (Keeps.addSequence forest items).trans (.addNode _ _)

/-- A sequence that is added lies outside of everything shown before. -/
theorem ShowsAll.addSequence_notMem (shown : forest.ShowsAll items trees used)
    (others : List Value) : (forest.addSequence others).1 ∉ used :=
  fun member => Nat.lt_irrefl _ (shown.bound member)

end Growth

end Forest

end Lalr
