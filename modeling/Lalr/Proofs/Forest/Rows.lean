import Mathlib.Data.List.Dedup
import Lalr.Proofs.Forest.Descent

/-!
# Rows of a tree

The nodes that lie equally many steps below the root make up a row. Going through a tree row
by row and keeping each node where it is met first orders the nodes by the highest place that
they have. A part that a tree shares between a higher and a lower place is therefore met at the
higher one, and what is above the lower one only may be met after it: the order is one from
below to above only for a node that lies deeper wherever it occurs.
-/

namespace Lalr

namespace Forest

variable {forest : Forest} {root id child upper lower : NodeId} {depth count : Nat}

/-- The nodes that lie some number of steps below a node, from left to right and as often as they
are reached. -/
def row (forest : Forest) (root : NodeId) : Nat → List NodeId
  | 0 => [root]
  | depth + 1 => (forest.row root depth).flatMap forest.childNodes

/-- The nodes that lie less than some number of steps below a node, the lowest row first. -/
def rows (forest : Forest) (root : NodeId) : Nat → List NodeId
  | 0 => []
  | count + 1 => (forest.rows root count).flatMap forest.childNodes ++ [root]

/-- The lowest row comes first. -/
theorem rows_succ (forest : Forest) (root : NodeId) (count : Nat) :
    forest.rows root (count + 1) = forest.row root count ++ forest.rows root count := by
  induction count with
  | zero => rfl
  | succ count ih =>
      rw [rows, ih, List.flatMap_append, List.append_assoc, ← ih, row]
      rfl

theorem mem_rows : id ∈ forest.rows root count ↔
    ∃ depth < count, id ∈ forest.row root depth := by
  induction count with
  | zero => simp [rows]
  | succ count ih =>
      rw [rows_succ, List.mem_append, ih]
      constructor
      · rintro (here | ⟨depth, less, above⟩)
        · exact ⟨count, Nat.lt_succ_self _, here⟩
        · exact ⟨depth, Nat.lt_succ_of_lt less, above⟩
      · rintro ⟨depth, less, here⟩
        rcases Nat.lt_succ_iff_lt_or_eq.mp less with less | rfl
        · exact .inr ⟨depth, less, here⟩
        · exact .inl here

/-! ## The walk by rows -/

/-- What is new in a level is put before what has been seen, each node where it is met first. -/
theorem foldl_fresh (seen : List NodeId) (level : List NodeId) :
    ∀ found : List NodeId, (found ++ seen).Nodup →
      level.foldl (fun found id =>
          if found.contains id || seen.contains id then found else id :: found) found ++ seen =
        (level.reverse ++ (found ++ seen)).dedup := by
  induction level with
  | nil => exact fun found apart => (List.dedup_eq_self.mpr apart).symm
  | cons id level ih =>
      intro found apart
      have split : (id :: level).reverse ++ (found ++ seen) =
          level.reverse ++ (id :: (found ++ seen)) := by simp
      rw [List.foldl_cons, split]
      by_cases met : id ∈ found ++ seen
      · have known : (found.contains id || seen.contains id) = true := by simpa using met
        rw [if_pos known, ih found apart, List.dedup_append _ (found ++ seen),
          List.dedup_append _ (id :: _), List.dedup_cons_of_mem met]
      · have new : ¬(found.contains id || seen.contains id) = true := by simpa using met
        rw [if_neg new, ih (id :: found) (List.nodup_cons.mpr ⟨met, apart⟩)]
        rfl

/-- Where a node is met again, what is below it has been met. -/
theorem dedup_flatMap_append (below : NodeId → List NodeId) (rest nodes : List NodeId) :
    (nodes.dedup.flatMap below ++ rest).dedup = (nodes.flatMap below ++ rest).dedup := by
  induction nodes with
  | nil => rfl
  | cons id nodes ih =>
      by_cases met : id ∈ nodes
      · have again : below id ⊆ nodes.flatMap below ++ rest := fun child here =>
          List.mem_append_left _ (List.mem_flatMap.mpr ⟨id, met, here⟩)
        rw [List.dedup_cons_of_mem met, ih, List.flatMap_cons, List.append_assoc,
          again.dedup_append_right]
      · rw [List.dedup_cons_of_notMem met, List.flatMap_cons, List.flatMap_cons, List.append_assoc,
          List.append_assoc, List.dedup_append, ih, ← List.dedup_append]

/-- Whether the walk stands before a row: it has seen the nodes of the rows above, each once, and
what it is about to look at adds the nodes of the row that are new. -/
structure Before (forest : Forest) (root : NodeId) (depth : Nat) (level seen : List NodeId) :
    Prop where
  above : seen = (forest.rows root depth).dedup
  ahead : (level.reverse ++ seen).dedup = (forest.rows root (depth + 1)).dedup

/-- One row further the walk stands before the next one. -/
theorem Before.next {level seen fresh : List NodeId} (stands : forest.Before root depth level seen)
    (met : fresh ++ seen = (level.reverse ++ seen).dedup) :
    forest.Before root (depth + 1)
      (fresh.reverse.flatMap fun id => (forest.childNodes id).reverse) (fresh ++ seen) where
  above := met.trans stands.ahead
  ahead := by
    have whole : fresh ++ seen = (forest.rows root (depth + 1)).dedup := met.trans stands.ahead
    have below : (fresh.reverse.flatMap fun id => (forest.childNodes id).reverse).reverse =
        fresh.flatMap forest.childNodes := by
      simp [List.reverse_flatMap, Function.comp_def]
    have higher : (seen.flatMap forest.childNodes ++ [root]).dedup =
        (forest.rows root (depth + 1)).dedup := by
      rw [stands.above, dedup_flatMap_append, rows]
    calc
      ((fresh.reverse.flatMap fun id => (forest.childNodes id).reverse).reverse ++
            (fresh ++ seen)).dedup
          = (fresh.flatMap forest.childNodes ++
              (seen.flatMap forest.childNodes ++ [root])).dedup := by
            rw [below, whole, List.dedup_append, List.dedup_idem, ← higher, ← List.dedup_append]
      _ = ((fresh ++ seen).flatMap forest.childNodes ++ [root]).dedup := by
            rw [List.flatMap_append, List.append_assoc]
      _ = (forest.rows root (depth + 2)).dedup := by
            rw [whole, dedup_flatMap_append]
            rfl

theorem levels_nil (forest : Forest) (depth : Nat) (seen : List NodeId) :
    forest.levels depth [] seen = seen := by
  cases depth <;> rfl

/-- What the walk has seen at its end. Induction on the rows that it may still go through. -/
theorem Before.levels_eq (left : Nat) : ∀ {depth : Nat} {level seen : List NodeId},
    forest.Before root depth level seen →
      forest.levels left level seen = (forest.rows root (depth + left)).dedup := by
  induction left with
  | zero => exact fun stands => stands.above
  | succ left ih =>
      intro depth level seen stands
      have apart : seen.Nodup := stands.above ▸ List.nodup_dedup _
      have met := foldl_fresh seen level [] apart
      have later := ih (stands.next met)
      rw [Nat.add_right_comm, Nat.add_assoc] at later
      cases level with
      | nil => exact (levels_nil ..).symm.trans later
      | cons id level => exact later

/-- From bottom to top, a tree is its rows, the lowest one first, with each node where it occurs
last. -/
theorem bottomUp_eq_dedup (forest : Forest) (root : NodeId) :
    forest.bottomUp root = (forest.rows root forest.depthBound).dedup := by
  have starts : forest.Before root 0 [root] [] := ⟨rfl, rfl⟩
  simpa [bottomUp] using starts.levels_eq forest.depthBound

/-! ## Nodes of a tree by rows -/

theorem mem_childNodes : child ∈ forest.childNodes id ↔ .node child ∈ forest.children id := by
  rw [childNodes, List.mem_filterMap]
  constructor
  · rintro ⟨value, member, same⟩
    cases value with
    | node id => exact Option.some.inj same ▸ member
    | _ => cases same
  · exact fun member => ⟨.node child, member, rfl⟩

theorem EndsWithin.exists_children (ends : forest.EndsWithin count (.node id)) :
    ∃ less label children, count = less + 1 ∧ forest.HasNode id label children ∧
      ∀ child ∈ children, forest.EndsWithin less child := by
  cases ends with
  | leaf isLeaf => cases isLeaf
  | node has below => exact ⟨_, _, _, rfl, has, below⟩

/-- A node in a row of a tree is a node of the tree, and the tree below it goes on for as many rows
as there are left. -/
theorem EndsWithin.row (ends : forest.EndsWithin count (.node root)) :
    ∀ {depth : Nat} {id : NodeId}, id ∈ forest.row root depth →
      forest.Below (.node root) id ∧
        ∃ left, depth + left = count ∧ forest.EndsWithin left (.node id) := by
  intro depth
  induction depth with
  | zero =>
      intro id here
      rcases List.mem_singleton.mp here with rfl
      exact ⟨.root rfl, count, Nat.zero_add _, ends⟩
  | succ depth ih =>
      intro id here
      rcases List.mem_flatMap.mp here with ⟨parent, above, member⟩
      rcases ih above with ⟨below, left, rfl, rest⟩
      rcases rest.exists_children with ⟨less, label, children, rfl, has, lower⟩
      rw [mem_childNodes, has.children_eq] at member
      exact ⟨.child below has member, less, by omega, lower _ member⟩

theorem EndsWithin.row_lt (ends : forest.EndsWithin count (.node root))
    (here : id ∈ forest.row root depth) : depth < count := by
  rcases ends.row here with ⟨_, left, rfl, rest⟩
  rcases rest.exists_children with ⟨less, _, _, rfl, _⟩
  omega

/-- Each node of a tree lies in some row. -/
theorem Below.exists_row (below : forest.Below (.node root) id) :
    ∃ depth, id ∈ forest.row root depth := by
  induction below with
  | root same =>
      cases same
      exact ⟨0, List.mem_singleton.mpr rfl⟩
  | @child parent child label children _ has member ih =>
      rcases ih with ⟨depth, here⟩
      have kid : child ∈ forest.childNodes parent :=
        mem_childNodes.mpr (has.children_eq ▸ member)
      exact ⟨depth + 1, List.mem_flatMap.mpr ⟨parent, here, kid⟩⟩

/-- The rows of a tree are made up of its nodes. -/
theorem mem_rows_depthBound (isTree : forest.IsTree (.node root)) :
    id ∈ forest.rows root forest.depthBound ↔ forest.Below (.node root) id := by
  rw [mem_rows]
  constructor
  · rintro ⟨depth, _, here⟩
    exact (isTree.endsWithin.row here).1
  · intro below
    rcases below.exists_row with ⟨depth, here⟩
    exact ⟨depth, isTree.endsWithin.row_lt here, here⟩

/-- From bottom to top one meets the nodes of a tree. -/
theorem mem_bottomUp (isTree : forest.IsTree (.node root)) :
    id ∈ forest.bottomUp root ↔ forest.Below (.node root) id := by
  rw [bottomUp_eq_dedup, List.mem_dedup, mem_rows_depthBound isTree]

/-- From bottom to top no node is met twice. -/
theorem nodup_bottomUp (forest : Forest) (root : NodeId) : (forest.bottomUp root).Nodup := by
  rw [bottomUp_eq_dedup]
  exact List.nodup_dedup _

/-! ## From below to above -/

/-- Whether one node lies above another wherever the other one occurs: each row with the lower node
has a row with the upper one over it. -/
def LiesAbove (forest : Forest) (root upper lower : NodeId) : Prop :=
  ∀ {depth : Nat}, lower ∈ forest.row root depth →
    ∃ less < depth, upper ∈ forest.row root less

/-- Where rows are gone through from the lowest to the highest, what lies above comes later. -/
theorem LiesAbove.sublist (above : forest.LiesAbove root upper lower) :
    ∀ {count : Nat}, lower ∈ forest.rows root count →
      [lower, upper].Sublist (forest.rows root count).dedup := by
  intro count
  induction count with
  | zero => exact fun here => absurd here List.not_mem_nil
  | succ count ih =>
      intro here
      rw [rows_succ] at here ⊢
      rw [List.dedup_append]
      by_cases higher : lower ∈ forest.rows root count
      · exact (ih higher).trans (List.suffix_union_right ..).sublist
      · rcases List.sublist_suffix_of_union (forest.row root count)
          (forest.rows root count).dedup with
          ⟨fresh, _, union⟩
        have lowest : lower ∈ forest.row root count :=
          (List.mem_append.mp here).resolve_right higher
        have new : lower ∈ fresh := by
          have member : lower ∈ fresh ++ (forest.rows root count).dedup :=
            union ▸ List.mem_union_left lowest _
          exact (List.mem_append.mp member).resolve_right fun met => higher (List.mem_dedup.mp met)
        have aloft : upper ∈ (forest.rows root count).dedup :=
          List.mem_dedup.mpr (mem_rows.mpr (above lowest))
        rw [← union]
        exact (List.singleton_sublist.mpr new).append (List.singleton_sublist.mpr aloft)

theorem LiesAbove.sublist_bottomUp (above : forest.LiesAbove root upper lower)
    (isTree : forest.IsTree (.node root)) (below : forest.Below (.node root) lower) :
    [lower, upper].Sublist (forest.bottomUp root) := by
  rw [bottomUp_eq_dedup]
  exact above.sublist ((mem_rows_depthBound isTree).mpr below)

/-- Going through a tree from below to above meets each of its nodes once, and a node that lies
deeper than another one wherever it occurs comes before that one. -/
theorem bottomUp_ordered (isTree : forest.IsTree (.node root)) :
    (forest.bottomUp root).Nodup ∧
      (∀ id, id ∈ forest.bottomUp root ↔ forest.Below (.node root) id) ∧
      ∀ {upper lower : NodeId}, forest.Below (.node root) lower →
        forest.LiesAbove root upper lower → [lower, upper].Sublist (forest.bottomUp root) := by
  exact ⟨nodup_bottomUp .., fun id => mem_bottomUp isTree, fun below above =>
    above.sublist_bottomUp isTree below⟩

/-- A tree of four nodes: a root with the children `b` and `s`, where `s` is also the child of `b`,
and `l` is the child of `s`. -/
def sharedBelow : Forest where
  nodes := #[⟨"l", ⟨0⟩, none, false⟩, ⟨"s", ⟨1⟩, none, false⟩,
    ⟨"b", ⟨2⟩, none, false⟩, ⟨"root", ⟨3⟩, none, false⟩]
  sequences := #[[], [.node ⟨0⟩], [.node ⟨1⟩], [.node ⟨2⟩, .node ⟨1⟩]]

theorem sharedBelow_isTree : sharedBelow.IsTree (.node ⟨3⟩) := by
  have leaf : sharedBelow.EndsWithin 1 (.node ⟨0⟩) := .node ⟨_, rfl, rfl, rfl⟩ nofun
  have shared : sharedBelow.EndsWithin 2 (.node ⟨1⟩) :=
    .node ⟨_, rfl, rfl, rfl⟩ (List.forall_mem_singleton.mpr leaf)
  have branch : sharedBelow.EndsWithin 3 (.node ⟨2⟩) :=
    .node ⟨_, rfl, rfl, rfl⟩ (List.forall_mem_singleton.mpr shared)
  refine ⟨4, .node ⟨_, rfl, rfl, rfl⟩ (List.forall_mem_cons.mpr ⟨branch, ?_⟩)⟩
  exact List.forall_mem_singleton.mpr (shared.mono (by decide))

/-- The leaf lies below `b` and `s` wherever it occurs, and comes before both. -/
theorem bottomUp_ordered_shared :
    sharedBelow.IsTree (.node ⟨3⟩) ∧ sharedBelow.Below (.node ⟨3⟩) ⟨0⟩ ∧
      sharedBelow.LiesAbove ⟨3⟩ ⟨2⟩ ⟨0⟩ ∧
      [⟨0⟩, ⟨2⟩].Sublist (sharedBelow.bottomUp ⟨3⟩) := by
  have isTree := sharedBelow_isTree
  have top : sharedBelow.HasNode ⟨3⟩ "root" [.node ⟨2⟩, .node ⟨1⟩] :=
    ⟨_, rfl, rfl, rfl⟩
  have shared : sharedBelow.HasNode ⟨1⟩ "s" [.node ⟨0⟩] := ⟨_, rfl, rfl, rfl⟩
  have below : sharedBelow.Below (.node ⟨3⟩) ⟨0⟩ :=
    .child (.child (.root rfl) top (by decide)) shared (by decide)
  have above : sharedBelow.LiesAbove ⟨3⟩ ⟨2⟩ ⟨0⟩ := by
    intro depth here
    match depth with
    | 0 => exact absurd here (by decide)
    | 1 => exact absurd here (by decide)
    | depth + 2 => exact ⟨1, by omega, by decide⟩
  exact ⟨isTree, below, above, (bottomUp_ordered isTree).2.2 below above⟩

/-- A node that occurs above one of the places where it lies below another node comes too late: `b`
comes before `s`, which is its child. -/
theorem bottomUp_shared_late :
    sharedBelow.IsTree (.node ⟨3⟩) ∧ sharedBelow.Below (.node ⟨2⟩) ⟨1⟩ ∧
      sharedBelow.bottomUp ⟨3⟩ = [⟨0⟩, ⟨2⟩, ⟨1⟩, ⟨3⟩] ∧
      ¬[⟨1⟩, ⟨2⟩].Sublist (sharedBelow.bottomUp ⟨3⟩) := by
  have branch : sharedBelow.HasNode ⟨2⟩ "b" [.node ⟨1⟩] := ⟨_, rfl, rfl, rfl⟩
  exact ⟨sharedBelow_isTree, .child (.root rfl) branch (by decide), by decide, by decide⟩

end Forest

end Lalr
