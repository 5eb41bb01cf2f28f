import Mathlib.Data.List.Flatten
import Mathlib.Data.List.Perm.Basic
import Lalr.Proofs.Forest.Rows

/-!
# Orders of a tree without shared parts

In a tree in which no node occurs twice, its rows hold the same nodes as the tree written from
left to right, be it that a node comes before what is below it or after it. Row by row, all
nodes of a row come before those of the row above; written by recursion, a node comes after
what is below it and right of what is below its elder siblings. The two orders are the same
only where nothing lies below a younger sibling.
-/

namespace Lalr

namespace Forest

variable {forest : Forest} {root id child upper lower : NodeId} {depth count more : Nat}
  {kids : List NodeId}

/-- The nodes of a tree as often as they occur, each after what is below it. -/
def postorderTo (forest : Forest) : Nat → NodeId → List NodeId
  | 0, _ => []
  | depth + 1, id => (forest.childNodes id).flatMap (forest.postorderTo depth) ++ [id]

/-- The nodes of a tree as often as they occur, each after what is below it. -/
def postorder (forest : Forest) (root : NodeId) : List NodeId :=
  forest.postorderTo forest.depthBound root

/-! ## Depths that are large enough -/

theorem EndsWithin.childNodes (ends : forest.EndsWithin (count + 1) (.node id)) :
    ∀ child ∈ forest.childNodes id, forest.EndsWithin count (.node child) := by
  rcases ends.exists_children with ⟨less, label, children, same, has, below⟩
  rcases Nat.succ.inj same with rfl
  intro child member
  rw [mem_childNodes, has.children_eq] at member
  exact below _ member

/-- Going down further than a tree goes meets nothing more. -/
theorem EndsWithin.topDownTo_eq (ends : forest.EndsWithin count (.node id)) :
    ∀ {more : Nat}, count ≤ more → forest.topDownTo more id = forest.topDownTo count id := by
  induction count generalizing id with
  | zero =>
      rcases ends.exists_children with ⟨_, _, _, short, _⟩
      omega
  | succ count ih =>
      intro more enough
      rcases Nat.exists_eq_add_of_le' (Nat.le_trans (Nat.succ_pos _) enough) with ⟨more, rfl⟩
      have below : (forest.childNodes id).flatMap (forest.topDownTo more) =
          (forest.childNodes id).flatMap (forest.topDownTo count) :=
        List.flatMap_congr fun child member =>
          ih (ends.childNodes child member) (Nat.le_of_succ_le_succ enough)
      rw [topDownTo, topDownTo, below]

/-- Going down further than a tree goes meets nothing more. -/
theorem EndsWithin.postorderTo_eq (ends : forest.EndsWithin count (.node id)) :
    ∀ {more : Nat}, count ≤ more →
      forest.postorderTo more id = forest.postorderTo count id := by
  induction count generalizing id with
  | zero =>
      rcases ends.exists_children with ⟨_, _, _, short, _⟩
      omega
  | succ count ih =>
      intro more enough
      rcases Nat.exists_eq_add_of_le' (Nat.le_trans (Nat.succ_pos _) enough) with ⟨more, rfl⟩
      have below : (forest.childNodes id).flatMap (forest.postorderTo more) =
          (forest.childNodes id).flatMap (forest.postorderTo count) :=
        List.flatMap_congr fun child member =>
          ih (ends.childNodes child member) (Nat.le_of_succ_le_succ enough)
      rw [postorderTo, postorderTo, below]

/-! ## The same nodes -/

/-- A row is made up of the rows of the trees right below the root. -/
theorem row_succ (forest : Forest) (depth : Nat) : ∀ root : NodeId,
    forest.row root (depth + 1) = (forest.childNodes root).flatMap (forest.row · depth) := by
  induction depth with
  | zero => simp [row]
  | succ depth ih =>
      intro root
      rw [row, ih, List.flatMap_assoc]
      rfl

/-- The rows of a tree are its root and the rows of the trees right below it. -/
theorem rows_perm_childNodes (forest : Forest) (root : NodeId) (count : Nat) :
    (forest.rows root (count + 1)).Perm
      (root :: (forest.childNodes root).flatMap (forest.rows · count)) := by
  induction count with
  | zero => simp [rows, List.flatMap_eq_nil_iff]
  | succ count ih =>
      have split : (forest.childNodes root).flatMap (forest.rows · (count + 1)) =
          (forest.childNodes root).flatMap fun child =>
            forest.row child count ++ forest.rows child count :=
        List.flatMap_congr fun child _ => rows_succ forest child count
      rw [rows_succ, row_succ, split]
      calc
        ((forest.childNodes root).flatMap (forest.row · count) ++ forest.rows
          root (count + 1)).Perm ((forest.childNodes root).flatMap (forest.row · count) ++
              root :: (forest.childNodes root).flatMap (forest.rows · count)) := ih.append_left _
        List.Perm _ (root :: ((forest.childNodes root).flatMap (forest.row · count) ++
              (forest.childNodes root).flatMap (forest.rows · count))) := List.perm_middle
        List.Perm _ _ := (List.flatMap_append_perm ..).cons root

/-- Rows hold the nodes that come one before the other from the top down. -/
theorem rows_perm_topDownTo (forest : Forest) (count : Nat) :
    ∀ root : NodeId, (forest.rows root count).Perm (forest.topDownTo count root) := by
  induction count with
  | zero => exact fun root => .refl _
  | succ count ih =>
      intro root
      exact (rows_perm_childNodes forest root count).trans
        ((List.Perm.flatMap_left _ fun child _ => ih child).cons root)

/-- A tree has the same nodes whether they come before or after what is below them. -/
theorem postorderTo_perm_topDownTo (forest : Forest) (count : Nat) :
    ∀ root : NodeId, (forest.postorderTo count root).Perm (forest.topDownTo count root) := by
  induction count with
  | zero => exact fun root => .refl _
  | succ count ih =>
      intro root
      exact List.perm_append_comm.trans
        ((List.Perm.flatMap_left _ fun child _ => ih child).cons root)

/-- Where no node occurs twice, the order from bottom to top is that of the rows. -/
theorem bottomUp_eq_rows (unshared : (forest.topDown root).Nodup) :
    forest.bottomUp root = forest.rows root forest.depthBound := by
  rw [bottomUp_eq_dedup]
  exact List.dedup_eq_self.mpr ((rows_perm_topDownTo forest _ root).nodup_iff.mpr unshared)

/-! ## The same order -/

/-- Whether nothing lies below a node of a tree that has an elder sibling. -/
def BranchesFirst (forest : Forest) (root : NodeId) : Prop :=
  ∀ {id : NodeId}, forest.Below (.node root) id →
    ∀ child ∈ (forest.childNodes id).tail, forest.childNodes child = []

section First

variable (first : forest.childNodes root = id :: kids)
  (bare : ∀ child ∈ kids, forest.childNodes child = [])

include first bare

/-- The rows of a tree that goes on below its first child only. -/
theorem rows_of_first (count : Nat) :
    forest.rows root (count + 2) = forest.rows id (count + 1) ++ kids ++ [root] := by
  induction count with
  | zero => simp [rows, first]
  | succ count ih =>
      have nothing : kids.flatMap forest.childNodes = [] := List.flatMap_eq_nil_iff.mpr bare
      have top : forest.rows root (count + 3) =
          (forest.rows root (count + 2)).flatMap forest.childNodes ++ [root] := rfl
      have lower : forest.rows id (count + 2) =
          (forest.rows id (count + 1)).flatMap forest.childNodes ++ [id] := rfl
      rw [top, ih, lower]
      simp [List.flatMap_append, nothing, first]

/-- A tree that goes on below its first child only, with each node after what is below it. -/
theorem postorderTo_of_first (count : Nat) :
    forest.postorderTo (count + 2) root = forest.postorderTo (count + 1) id ++ kids ++ [root] := by
  have each : ∀ child ∈ kids, forest.postorderTo (count + 1) child = [child] :=
    fun child member => by simp [postorderTo, bare child member]
  rw [postorderTo, first, List.flatMap_cons, List.flatMap_congr each]
  simp

end First

theorem rows_of_bare (bare : forest.childNodes root = []) (count : Nat) :
    forest.rows root (count + 1) = [root] := by
  induction count with
  | zero => rfl
  | succ count ih =>
      rw [rows, ih]
      simp [bare]

/-- What is below a child is below its parent. -/
theorem Below.parent {label : String} {children : List Value}
    (has : forest.HasNode root label children) (member : .node child ∈ children)
    (below : forest.Below (.node child) id) : forest.Below (.node root) id := by
  induction below with
  | root same =>
      cases same
      exact .child (.root rfl) has member
  | child _ has member ih => exact .child ih has member

/-- A tree that goes on below first children only has its rows in the order of the recursion. -/
theorem EndsWithin.rows_eq_postorderTo (ends : forest.EndsWithin count (.node root))
    (first : forest.BranchesFirst root) :
    forest.rows root count = forest.postorderTo count root := by
  induction count generalizing root with
  | zero => rfl
  | succ count ih =>
      cases kids : forest.childNodes root with
      | nil =>
          rw [rows_of_bare kids, postorderTo, kids]
          rfl
      | cons id others =>
          have bare : ∀ child ∈ others, forest.childNodes child = [] := fun child member =>
            first (.root rfl) child (by rw [kids]; exact member)
          have endsBelow : forest.EndsWithin count (.node id) :=
            ends.childNodes id (by simp [kids])
          rcases ends.exists_children with ⟨_, label, children, _, has, _⟩
          have member : .node id ∈ children := by
            rw [← has.children_eq, ← mem_childNodes, kids]
            exact List.mem_cons_self
          rcases endsBelow.exists_children with ⟨less, _, _, rfl, _⟩
          have lower : forest.BranchesFirst id := fun below => first (below.parent has member)
          rw [rows_of_first kids bare, postorderTo_of_first kids bare, ih endsBelow lower]

/-! ## Where the orders differ -/

/-- What is written below a node of a tree is written in one piece. -/
theorem postorderTo_sublist : ∀ {depth count : Nat}
    {id : NodeId}, id ∈ forest.row root depth →
    (forest.postorderTo count id).Sublist (forest.postorderTo (depth + count) root) := by
  intro depth
  induction depth with
  | zero =>
      intro count id here
      rcases List.mem_singleton.mp here with rfl
      rw [Nat.zero_add]
  | succ depth ih =>
      intro count id here
      rcases List.mem_flatMap.mp here with ⟨parent, above, member⟩
      have inside : (forest.postorderTo count id).Sublist
          (forest.postorderTo (count + 1) parent) := by
        have piece := (List.singleton_sublist.mpr member).flatMap (forest.postorderTo count)
        rw [List.flatMap_singleton] at piece
        exact piece.trans (List.sublist_append_left ..)
      rw [Nat.add_assoc, Nat.add_comm 1]
      exact inside.trans (ih above)

/-- Each row comes right after the one below it. -/
theorem row_append_sublist (less : depth + 1 < count) :
    (forest.row root (depth + 1) ++ forest.row root depth).Sublist (forest.rows root count) := by
  induction count with
  | zero => exact absurd less (Nat.not_lt_zero _)
  | succ count ih =>
      rw [rows_succ]
      rcases Nat.lt_succ_iff_lt_or_eq.mp less with less | rfl
      · exact (ih less).trans (List.sublist_append_right ..)
      · rw [rows_succ]
        exact ((List.sublist_append_left ..).append_left _)

/-- In a list without repetitions, of two items only one comes before the other. -/
theorem not_sublist_swap {first second : NodeId} {nodes : List NodeId} (apart : nodes.Nodup)
    (before : [first, second].Sublist nodes) : ¬[second, first].Sublist nodes := by
  induction nodes with
  | nil => cases before
  | cons head rest ih =>
      rcases List.nodup_cons.mp apart with ⟨new, apart⟩
      intro swapped
      cases before with
      | cons _ before =>
          cases swapped with
          | cons _ swapped => exact ih apart before swapped
          | cons_cons _ _ => exact new (before.subset (by simp))
      | cons_cons _ after =>
          cases swapped with
          | cons _ swapped => exact new (swapped.subset (by simp))
          | cons_cons _ _ => exact new (after.subset (by simp))

/-- In a tree without shared parts a node lies in one row only. -/
theorem row_unique (apart : (forest.rows root count).Nodup) (less : depth < count)
    (more_lt : more < count) (here : id ∈ forest.row root depth)
    (there : id ∈ forest.row root more) : depth = more := by
  induction count with
  | zero => exact absurd less (Nat.not_lt_zero _)
  | succ count ih =>
      rw [rows_succ, List.nodup_append] at apart
      rcases apart with ⟨_, higher, differ⟩
      rcases Nat.lt_succ_iff_lt_or_eq.mp less with less | rfl
      · rcases Nat.lt_succ_iff_lt_or_eq.mp more_lt with more_lt | rfl
        · exact ih higher less more_lt
        · exact absurd rfl (differ id there id (mem_rows.mpr ⟨depth, less, here⟩))
      · rcases Nat.lt_succ_iff_lt_or_eq.mp more_lt with more_lt | rfl
        · exact absurd rfl (differ id here id (mem_rows.mpr ⟨more, more_lt, there⟩))
        · rfl

/-- In a tree without shared parts a node lies above all that is below it. -/
theorem liesAbove_of_below (isTree : forest.IsTree (.node root))
    (unshared : (forest.topDown root).Nodup) {label : String} {children : List Value}
    (above : forest.Below (.node root) upper) (has : forest.HasNode upper label children)
    (member : .node child ∈ children) (below : forest.Below (.node child) lower) :
    forest.LiesAbove root upper lower := by
  rcases above.exists_row with ⟨depth, here⟩
  have kid : child ∈ forest.row root (depth + 1) :=
    List.mem_flatMap.mpr ⟨upper, here, mem_childNodes.mpr (has.children_eq ▸ member)⟩
  have deeper : ∃ more, depth < more ∧ lower ∈ forest.row root more := by
    induction below with
    | root same =>
        cases same
        exact ⟨depth + 1, Nat.lt_succ_self _, kid⟩
    | @child parent lower _ _ _ has member ih =>
        rcases ih with ⟨more, less, there⟩
        refine ⟨more + 1, Nat.lt_succ_of_lt less, List.mem_flatMap.mpr ⟨parent, there, ?_⟩⟩
        exact mem_childNodes.mpr (has.children_eq ▸ member)
  rcases deeper with ⟨more, less, there⟩
  intro given elsewhere
  have apart : (forest.rows root forest.depthBound).Nodup :=
    (rows_perm_topDownTo forest _ root).nodup_iff.mpr unshared
  have ends := isTree.endsWithin
  rcases row_unique apart (ends.row_lt elsewhere) (ends.row_lt there) elsewhere there with rfl
  exact ⟨depth, less, here⟩

/-- In a tree without shared parts, row by row from below is the order of recursion only if nothing
lies below a younger sibling. -/
theorem bottomUp_eq_postorder_iff (isTree : forest.IsTree (.node root))
    (unshared : (forest.topDown root).Nodup) :
    forest.bottomUp root = forest.postorder root ↔ forest.BranchesFirst root := by
  have ends := isTree.endsWithin
  rw [bottomUp_eq_rows unshared]
  refine ⟨fun same => ?_, ends.rows_eq_postorderTo⟩
  intro id below child member
  refine List.eq_nil_iff_forall_not_mem.mpr fun grandchild lower => ?_
  rcases below.exists_row with ⟨depth, here⟩
  have exists_elder : ∃ elder others, forest.childNodes id = elder :: others := by
    cases kids : forest.childNodes id with
    | nil => simp [kids] at member
    | cons elder others => exact ⟨elder, others, rfl⟩
  rcases exists_elder with ⟨elder, others, kids⟩
  rw [kids, List.tail_cons] at member
  have inRow : child ∈ forest.row root (depth + 1) :=
    List.mem_flatMap.mpr ⟨id, here, by simp [kids, member]⟩
  have elderInRow : elder ∈ forest.row root (depth + 1) :=
    List.mem_flatMap.mpr ⟨id, here, by simp [kids]⟩
  have lowerInRow : grandchild ∈ forest.row root (depth + 2) :=
    List.mem_flatMap.mpr ⟨child, inRow, lower⟩
  have bound := ends.row_lt lowerInRow
  -- Row by row, what is below the younger sibling comes before the elder one.
  have byRows : [grandchild, elder].Sublist (forest.rows root forest.depthBound) :=
    ((List.singleton_sublist.mpr lowerInRow).append (List.singleton_sublist.mpr elderInRow)).trans
      (row_append_sublist bound)
  -- By recursion, the elder sibling comes first.
  have byRecursion : [elder, grandchild].Sublist (forest.postorder root) := by
    rcases Nat.exists_eq_add_of_lt bound with ⟨left, total⟩
    have within : forest.depthBound = depth + (left + 3) := by omega
    rw [postorder, within]
    refine List.Sublist.trans ?_ (postorderTo_sublist here)
    have first : elder ∈ forest.postorderTo (left + 2) elder := by simp [postorderTo]
    have second : grandchild ∈ others.flatMap (forest.postorderTo (left + 2)) := by
      refine List.mem_flatMap.mpr ⟨child, member, ?_⟩
      refine List.mem_append_left _ (List.mem_flatMap.mpr ⟨grandchild, lower, ?_⟩)
      simp [postorderTo]
    rw [postorderTo, kids, List.flatMap_cons]
    exact ((List.singleton_sublist.mpr first).append (List.singleton_sublist.mpr second)).trans
      (List.sublist_append_left ..)
  have apart : (forest.rows root forest.depthBound).Nodup :=
    (rows_perm_topDownTo forest _ root).nodup_iff.mpr unshared
  exact not_sublist_swap apart byRows (same ▸ byRecursion)

end Forest

end Lalr
