import Lalr.Proofs.Forest.Appearances
import Lalr.Proofs.Forest.Orders
import Lalr.Proofs.Shaping.Positions

/-!
# What a value reaches

A value reaches the nodes that lie below it, through children and through the items of
sequences. What it looks like depends on these nodes alone: the children of any others may be
replaced. In a tree in which no node occurs twice, what is reached from one child is not
reached from another one, so that a part of the tree can be rebuilt in place while the rest
stays as it is.
-/

namespace Lalr

/-- What is one of some values is no higher than these. -/
theorem Appearance.height_le_heightOf {look : Appearance} {seen : List Appearance}
    (listed : look ∈ seen) : look.height ≤ heightOf seen := by
  induction seen with
  | nil => cases listed
  | cons head rest ih =>
      rcases List.mem_cons.mp listed with rfl | listed
      · exact Nat.le_max_left ..
      · exact Nat.le_trans (ih listed) (Nat.le_max_right ..)

namespace Forest

variable {forest original before between after : Forest} {value : Value} {id target : NodeId}
  {own : List SequenceId} {look : Appearance} {values : List Value} {seen : List Appearance}
  {changed more : NodeId → Prop}

/-- Whether a value reaches a node through children and items of sequences. -/
inductive Reaches (forest : Forest) : Value → NodeId → Prop
  | self {id : NodeId} : Reaches forest (.node id) id
  | child {id target : NodeId} {label : String} {children : List Value} {child : Value}
      (has : forest.HasNode id label children) (member : child ∈ children)
      (reaches : Reaches forest child target) : Reaches forest (.node id) target
  | item {id : SequenceId} {target : NodeId} {items : List Value} {item : Value}
      (held : forest.sequences[id.index]? = some items) (member : item ∈ items)
      (reaches : Reaches forest item target) : Reaches forest (.sequence id) target

theorem AllAppear.exists_of_mem (appear : forest.AllAppear own values seen)
    (member : value ∈ values) : ∃ look ∈ seen, forest.Appears own value look := by
  induction values generalizing seen with
  | nil => cases member
  | cons head rest ih =>
      cases appear with
      | cons appears others =>
          rcases List.mem_cons.mp member with rfl | member
          · exact ⟨_, List.mem_cons_self, appears⟩
          · rcases ih others member with ⟨look, listed, appears⟩
            exact ⟨look, List.mem_cons_of_mem _ listed, appears⟩

/-- A plain value reaches nothing. -/
theorem not_reaches_plain (isPlain : value.isPlain = true) : ¬forest.Reaches value target := by
  intro reaches
  cases reaches <;> cases isPlain

/-- A node that looks like something is there, with children that look like something. -/
theorem Appears.exists_node (appears : forest.Appears own (.node id) look) :
    ∃ node items label span variant seen, look = .node label span variant seen ∧
      forest.nodes[id.index]? = some node ∧ forest.NodeLooks node label span variant ∧
      forest.sequences[node.children.index]? = some items ∧ forest.AllAppear own items seen := by
  cases appears with
  | plain isPlain => cases isPlain
  | node found looks outside held appear =>
      exact ⟨_, _, _, _, _, _, rfl, found, looks, held, appear⟩

/-- What is reached looks like something, too. -/
theorem Reaches.appears (reaches : forest.Reaches value target) :
    ∀ {look : Appearance}, forest.Appears own value look →
      ∃ look, forest.Appears own (.node target) look := by
  induction reaches with
  | self => exact fun appears => ⟨_, appears⟩
  | child has member _ ih =>
      intro look appears
      rcases appears.exists_node with
        ⟨node, items, label, span, variant, seen, rfl, found, looks, held, appear⟩
      rcases has with ⟨node', found', rfl, held'⟩
      rcases Option.some.inj (found.symm.trans found') with rfl
      rcases Option.some.inj (held.symm.trans held') with rfl
      rcases appear.exists_of_mem member with ⟨_, _, appears⟩
      exact ih appears
  | item held member _ ih =>
      intro look appears
      cases appears with
      | plain isPlain => cases isPlain
      | sequence _ held' appear =>
          rcases Option.some.inj (held.symm.trans held') with rfl
          rcases appear.exists_of_mem member with ⟨_, _, appears⟩
          exact ih appears

/-- What is reached is there. -/
theorem Reaches.index_lt (reaches : forest.Reaches value target)
    (appears : forest.Appears own value look) : target.index < forest.nodes.size := by
  rcases reaches.appears appears with ⟨_, appears⟩
  rcases appears.exists_node with ⟨node, _, _, _, _, _, _, found, _⟩
  exact (Array.getElem?_eq_some_iff.mp found).1

/-- What a node of a tree reaches, the tree reaches. -/
theorem Below.reaches (below : forest.Below value id) :
    ∀ {target : NodeId}, forest.Reaches (.node id) target → forest.Reaches value target := by
  induction below with
  | root same =>
      subst same
      exact fun reaches => reaches
  | child _ has member ih => exact fun reaches => ih (.child has member reaches)

/-! ## Changes to the children of some nodes -/

/-- A forest differs from an earlier one by what it adds and by the children of some nodes only. -/
structure DiffersAt (before after : Forest) (changed : NodeId → Prop) : Prop where
  node : ∀ {id : NodeId} {node : Node}, before.nodes[id.index]? = some node →
    ∃ kept, after.nodes[id.index]? = some kept ∧
      (∀ {label : String} {span : Span} {variant : Bool},
        before.NodeLooks node label span variant → after.NodeLooks kept label span variant) ∧
      (¬changed id → kept.children = node.children)
  sequence : ∀ {id : SequenceId} {items : List Value},
    before.sequences[id.index]? = some items → after.sequences[id.index]? = some items

namespace DiffersAt

theorem refl (forest : Forest) (changed : NodeId → Prop) : forest.DiffersAt forest changed where
  node found := ⟨_, found, id, fun _ => rfl⟩
  sequence := id

theorem trans (first : before.DiffersAt between changed)
    (second : between.DiffersAt after changed) : before.DiffersAt after changed where
  node found := by
    rcases first.node found with ⟨kept, found, looks, children⟩
    rcases second.node found with ⟨last, found, stillLooks, sameChildren⟩
    exact ⟨last, found, fun seen => stillLooks (looks seen), fun outside =>
      (sameChildren outside).trans (children outside)⟩
  sequence held := second.sequence (first.sequence held)

theorem mono (differs : before.DiffersAt after changed) (weaker : ∀ id, changed id → more id) :
    before.DiffersAt after more where
  node found := by
    rcases differs.node found with ⟨kept, found, looks, children⟩
    exact ⟨kept, found, looks, fun outside => children fun here => outside (weaker _ here)⟩
  sequence := differs.sequence

/-- Additions change no children. -/
theorem of_preserves (preserves : before.Preserves true after []) :
    before.DiffersAt after changed where
  node found := by
    rcases preserves.node found with ⟨kept, last, labels, children⟩
    rcases preserves.seen found last with ⟨variants, seen⟩
    exact ⟨kept, last, fun ⟨label, span, variant⟩ =>
      ⟨labels.trans label, seen _ span, variants.trans variant⟩, fun _ => children⟩
  sequence := preserves.sequence (by simp)

/-- A node that gets new children has these, and looks as before otherwise. -/
theorem exists_replaced {node : Node} {label : String} {span : Span} {variant : Bool}
    (found : forest.nodes[id.index]? = some node)
    (looks : forest.NodeLooks node label span variant) (items : List Value) :
    ∃ kept, (forest.replaceChildren id items).nodes[id.index]? = some kept ∧
      (forest.replaceChildren id items).NodeLooks kept label span variant ∧
      (forest.replaceChildren id items).sequences[kept.children.index]? = some items := by
  rcases Array.getElem?_eq_some_iff.mp found with ⟨bound, _⟩
  have known : forest.node id = node := by simp [Forest.node, found]
  have whole : forest.replaceChildren id items = (forest.addSequence items).2.setNode id
      { node with children := (forest.addSequence items).1 } := by
    rw [← known]
    rfl
  rw [whole]
  exact ⟨{ node with children := (forest.addSequence items).1 },
    by simp [Forest.setNode, bound, addSequence], ⟨looks.label, looks.span, looks.variant⟩,
    held_addSequence ..⟩

/-- A node that gets new children is the only one whose children change. -/
theorem replaceChildren (forest : Forest) (id : NodeId) (items : List Value) :
    forest.DiffersAt (forest.replaceChildren id items) (· = id) where
  node {id' node} found := by
    by_cases same : id.index = id'.index
    · have here : id = id' := congrArg NodeId.mk same
      subst here
      rcases Array.getElem?_eq_some_iff.mp found with ⟨bound, _⟩
      refine ⟨_, Array.getElem?_eq_getElem (by
        simpa [Forest.replaceChildren, Forest.setNode, addSequence] using bound), ?_,
        fun other => absurd rfl other⟩
      intro label span variant looks
      rcases exists_replaced found looks items with ⟨kept, last, looks, _⟩
      rw [(Array.getElem?_eq_some_iff.mp last).2]
      exact looks
    · refine ⟨node, ?_, fun looks => ⟨looks.label, looks.span, looks.variant⟩,
        fun _ => rfl⟩
      simpa [Forest.replaceChildren, Forest.setNode, addSequence, same] using found
  sequence held := (Keeps.addSequence forest items).sequence (by simp) held

theorem size_le (differs : before.DiffersAt after changed) :
    before.nodes.size ≤ after.nodes.size := by
  by_contra less
  have bound : after.nodes.size < before.nodes.size := Nat.lt_of_not_le less
  have there : before.nodes[(NodeId.mk after.nodes.size).index]? =
      some before.nodes[after.nodes.size] :=
    Array.getElem?_eq_getElem bound
  rcases differs.node there with ⟨kept, found, _⟩
  exact Nat.lt_irrefl _ (Array.getElem?_eq_some_iff.mp found).1

/-- Additions leave the nodes where they are. -/
theorem size_le_of_preserves (preserves : before.Preserves true after []) :
    before.nodes.size ≤ after.nodes.size :=
  have differs : before.DiffersAt after fun _ => False := of_preserves preserves
  differs.size_le

/-- A node whose children are not changed has the same children. -/
theorem hasNode (differs : before.DiffersAt after changed) {label : String} {span : Span}
    {variant : Bool} {node : Node} {items : List Value}
    (found : before.nodes[id.index]? = some node) (looks : before.NodeLooks node label span variant)
    (held : before.sequences[node.children.index]? = some items) (outside : ¬changed id) :
    ∃ kept, after.nodes[id.index]? = some kept ∧ after.NodeLooks kept label span variant ∧
      after.sequences[kept.children.index]? = some items := by
  rcases differs.node found with ⟨kept, last, looksSame, children⟩
  exact ⟨kept, last, looksSame looks, by
    rw [children outside]
    exact differs.sequence held⟩

end DiffersAt

mutual

/-- A value goes on looking as it does where it reaches none of the nodes with other children. -/
theorem Appears.differ (differs : before.DiffersAt after changed) :
    {value : Value} → {look : Appearance} → before.Appears [] value look →
      (∀ id, before.Reaches value id → ¬changed id) → after.Appears [] value look
  | _, _, .plain isPlain, _ => .plain isPlain
  | _, _, .node found looks _ held appear, outside => by
      rcases differs.hasNode found looks held (outside _ .self) with
        ⟨kept, last, looksSame, heldSame⟩
      exact .node last looksSame (by simp) heldSame
        (appear.differ differs fun id child member reaches =>
        outside id (.child ⟨_, found, rfl, held⟩ member reaches))
  | _, _, .sequence _ held appear, outside =>
      .sequence (by simp) (differs.sequence held) (appear.differ differs fun id _ member reaches =>
        outside id (.item held member reaches))

theorem AllAppear.differ (differs : before.DiffersAt after changed) :
    {values : List Value} → {seen : List Appearance} → before.AllAppear [] values seen →
      (∀ id, ∀ value ∈ values, before.Reaches value id → ¬changed id) →
        after.AllAppear [] values seen
  | _, _, .nil, _ => .nil
  | _, _, .cons appears rest, outside =>
      .cons (appears.differ differs fun id => outside id _ List.mem_cons_self)
        (rest.differ differs fun id value member =>
          outside id value (List.mem_cons_of_mem _ member))

end

/-- Where a value reaches none of the nodes with other children, it reaches nothing new. -/
theorem Reaches.earlier (differs : before.DiffersAt after changed)
    (reaches : after.Reaches value target) :
    ∀ {look : Appearance}, before.Appears [] value look →
      (∀ id, before.Reaches value id → ¬changed id) → before.Reaches value target := by
  induction reaches with
  | self => exact fun _ _ => .self
  | child has member _ ih =>
      intro look appears outside
      rcases appears.exists_node with
        ⟨node, items, label, span, variant, seen, rfl, found, looks, held, appear⟩
      rcases differs.hasNode found looks held (outside _ .self) with ⟨kept, last, _, heldSame⟩
      rcases has with ⟨last', found', rfl, held'⟩
      rcases Option.some.inj (last.symm.trans found') with rfl
      rcases Option.some.inj (heldSame.symm.trans held') with rfl
      have has : before.HasNode _ node.label items := ⟨node, found, rfl, held⟩
      rcases appear.exists_of_mem member with ⟨_, _, appears⟩
      exact .child has member (ih appears fun id reaches => outside id (.child has member reaches))
  | item held member _ ih =>
      intro look appears outside
      cases appears with
      | plain isPlain => cases isPlain
      | sequence _ held' appear =>
          rcases Option.some.inj (held.symm.trans (differs.sequence held')) with rfl
          rcases appear.exists_of_mem member with ⟨_, _, appears⟩
          exact .item held' member
            (ih appears fun id reaches => outside id (.item held' member reaches))

/-! ## Trees without shared parts -/

/-- Whether two values have no node below them in common. -/
def Foreign (forest : Forest) (first second : Value) : Prop :=
  ∀ id, forest.Reaches first id → ¬forest.Reaches second id

/-- Whether no node occurs twice in a value. -/
inductive Unshared (forest : Forest) : Value → Prop
  | plain {value : Value} (isPlain : value.isPlain = true) : Unshared forest value
  | node {id : NodeId} {label : String} {children : List Value}
      (has : forest.HasNode id label children)
      (new : ∀ child ∈ children, ¬forest.Reaches child id)
      (apart : children.Pairwise forest.Foreign)
      (below : ∀ child ∈ children, Unshared forest child) : Unshared forest (.node id)
  | sequence {id : SequenceId} {items : List Value}
      (held : forest.sequences[id.index]? = some items) (apart : items.Pairwise forest.Foreign)
      (below : ∀ item ∈ items, Unshared forest item) : Unshared forest (.sequence id)

theorem HasNode.children_unique {label label' : String} {children children' : List Value}
    (has : forest.HasNode id label children) (has' : forest.HasNode id label' children') :
    children = children' :=
  has.children_eq.symm.trans has'.children_eq

/-- A node reaches what its children reach. -/
theorem HasNode.reaches {label : String} {children : List Value} {target : NodeId}
    (has : forest.HasNode id label children)
    (below : ∃ child ∈ children, forest.Reaches child target) :
    forest.Reaches (.node id) target := by
  rcases below with ⟨child, member, reaches⟩
  exact .child has member reaches

namespace Unshared

variable {root upper : NodeId} {label : String} {children : List Value} {child : Value}

/-- What is known of the children of a node below which no node occurs twice. -/
theorem of_children (unshared : forest.Unshared (.node id))
    (has : forest.HasNode id label children) :
    (∀ child ∈ children, ¬forest.Reaches child id) ∧ children.Pairwise forest.Foreign ∧
      ∀ child ∈ children, forest.Unshared child := by
  cases unshared with
  | plain isPlain => cases isPlain
  | node has' new apart below =>
      rcases has.children_unique has' with rfl
      exact ⟨new, apart, below⟩

end Unshared

instance (forest : Forest) : Std.Symm forest.Foreign where
  symm _ _ foreign := fun id reaches reached => foreign id reached reaches

/-- A node of a tree is its root or lies below one of the children. -/
theorem Below.root_or_child {root : NodeId} (below : forest.Below (.node root) id) :
    id = root ∨ ∃ label children child, forest.HasNode root label children ∧
      .node child ∈ children ∧ forest.Below (.node child) id := by
  induction below with
  | root same =>
      cases same
      exact .inl rfl
  | child _ has member ih =>
      rcases ih with rfl | ⟨label, children, child, has', member', below⟩
      · exact .inr ⟨_, _, _, has, member, .root rfl⟩
      · exact .inr ⟨label, children, child, has', member', .child below has member⟩

theorem Below.exists_node (below : forest.Below value id) : ∃ root, value = .node root := by
  induction below with
  | root same => exact ⟨_, same⟩
  | child _ _ _ ih => exact ih

/-- A node whose children are no more than what they say reaches nothing but itself. -/
theorem eq_of_reaches_plain {label : String} {children : List Value}
    (has : forest.HasNode id label children) (plain : ∀ child ∈ children, child.isPlain = true)
    (reaches : forest.Reaches (.node id) target) : target = id := by
  cases reaches with
  | self => rfl
  | child has' member reaches =>
      rcases has.children_unique has' with rfl
      exact absurd reaches (not_reaches_plain (plain _ member))

namespace Unshared

variable {root upper : NodeId} {label : String} {children : List Value} {child : Value}

/-- A node whose children are no more than what they say shares nothing. -/
theorem of_plain (has : forest.HasNode id label children)
    (plain : ∀ child ∈ children, child.isPlain = true) : forest.Unshared (.node id) := by
  refine .node has (fun child member => not_reaches_plain (plain child member)) ?_
    fun child member => .plain (plain child member)
  refine List.pairwise_iff_forall_sublist.mpr fun {first second} pair target reaches => ?_
  exact absurd reaches (not_reaches_plain (plain first (pair.subset (by simp))))

/-- In a tree without shared parts, what lies in a sequence is no node of the tree. Induction on the
tree: both ways to the node start at the same child, or there are two of them. -/
theorem not_below (unshared : forest.Unshared value) :
    ∀ {id target : NodeId} {label : String} {children : List Value} {leaf : Value},
      forest.Below value id → forest.HasNode id label children → leaf ∈ children →
        leaf.isNode = false → forest.Reaches leaf target → ¬forest.Below value target := by
  induction unshared with
  | plain isPlain =>
      intro id target label children leaf below
      rcases below.exists_node with ⟨root, rfl⟩
      cases isPlain
  | sequence =>
      intro id target label children leaf below
      rcases below.exists_node with ⟨root, same⟩
      cases same
  | @node root _ kids has new apart _ ih =>
      intro id target label children leaf below hasLeaf member isLeaf reaches again
      have different : ∀ kid, leaf ≠ .node kid := by
        rintro kid rfl
        cases isLeaf
      rcases below.root_or_child with rfl | ⟨_, _, kid, has', memberKid, below⟩
      · rcases hasLeaf.children_unique has with rfl
        rcases again.root_or_child with rfl | ⟨_, _, kid, has', memberKid, again⟩
        · exact new leaf member reaches
        · rcases has'.children_unique has with rfl
          exact apart.forall member memberKid (different kid) _ reaches (again.reaches .self)
      · rcases has'.children_unique has with rfl
        have inside : forest.Reaches (.node kid) target :=
          below.reaches (.child hasLeaf member reaches)
        rcases again.root_or_child with rfl | ⟨_, _, other, has', memberOther, again⟩
        · exact new _ memberKid inside
        · rcases has'.children_unique has with rfl
          by_cases same : kid = other
          · subst same
            exact ih _ memberKid below hasLeaf member isLeaf reaches again
          · exact apart.forall memberKid memberOther (by simpa using same) _ inside
              (again.reaches .self)

/-- In a tree without shared parts, a node reaches another one by children only. -/
theorem below_of_reaches (unshared : forest.Unshared value) {start : Value}
    (reaches : forest.Reaches start target) :
    ∀ {id : NodeId}, start = .node id → forest.Below value id → forest.Below value target →
      forest.Below (.node id) target := by
  induction reaches with
  | self =>
      intro id same _ _
      exact .root same.symm
  | @child _ target _ _ child has member reaches ih =>
      rintro id ⟨⟩ below inside
      cases isNode : child.isNode with
      | false => exact absurd inside (unshared.not_below below has member isNode reaches)
      | true =>
          rcases Value.exists_of_isNode isNode with ⟨kid, rfl⟩
          exact (ih rfl (.child below has member) inside).parent has member
  | item => exact fun same => nomatch same

/-- No node occurs twice below a node of a tree in which none does. -/
theorem of_below (unshared : forest.Unshared value) (below : forest.Below value id) :
    forest.Unshared (.node id) := by
  induction below with
  | root same => exact same ▸ unshared
  | child _ has member ih => exact (ih.of_children has).2.2 _ member

theorem reaches_of_mem_topDownTo (depth : Nat) :
    ∀ {id : NodeId}, forest.Unshared (.node id) → target ∈ forest.topDownTo depth id →
      forest.Reaches (.node id) target := by
  induction depth with
  | zero => exact fun _ listed => absurd listed List.not_mem_nil
  | succ depth ih =>
      intro id unshared listed
      cases unshared with
      | plain isPlain => cases isPlain
      | node has new apart below =>
          rcases List.mem_cons.mp listed with rfl | listed
          · exact .self
          · rcases List.mem_flatMap.mp listed with ⟨kid, member, listed⟩
            rw [mem_childNodes, has.children_eq] at member
            exact .child has member (ih (below _ member) listed)

/-- Going through a tree without shared parts from the top down meets no node twice. -/
theorem nodup_topDownTo (depth : Nat) :
    ∀ {id : NodeId}, forest.Unshared (.node id) → (forest.topDownTo depth id).Nodup := by
  induction depth with
  | zero => exact fun _ => List.nodup_nil
  | succ depth ih =>
      intro id unshared
      cases unshared with
      | plain isPlain => cases isPlain
      | node has new apart below =>
          have inside {kid : NodeId} (member : kid ∈ forest.childNodes id) := by
            rw [mem_childNodes, has.children_eq] at member
            exact member
          refine List.nodup_cons.mpr ⟨fun listed => ?_, List.nodup_flatMap.mpr ⟨?_, ?_⟩⟩
          · rcases List.mem_flatMap.mp listed with ⟨kid, member, listed⟩
            exact new _ (inside member)
              (reaches_of_mem_topDownTo depth (below _ (inside member)) listed)
          · exact fun kid member => ih (below _ (inside member))
          · have kids : (forest.childNodes id).Pairwise fun first second =>
                forest.Foreign (.node first) (.node second) := by
              rw [childNodes, has.children_eq, List.pairwise_filterMap]
              refine apart.imp fun {first second} foreign kid same kid' same' => ?_
              cases first <;> cases same
              cases second <;> cases same'
              exact foreign
            refine kids.imp_of_mem fun {first second} member member' foreign target here there => ?_
            exact foreign target
              (reaches_of_mem_topDownTo depth (below _ (inside member)) here)
              (reaches_of_mem_topDownTo depth (below _ (inside member')) there)

end Unshared

mutual

/-- What looks like something ends. -/
theorem Appears.endsWithin : {value : Value} → {look : Appearance} →
    forest.Appears own value look → forest.EndsWithin look.height value
  | _, _, .plain isPlain => .leaf (by cases ‹Value› <;> first | rfl | cases isPlain)
  | _, _, .node found _ _ held appear => .node ⟨_, found, rfl, held⟩ appear.endsWithin
  | _, _, .sequence .. => .leaf rfl

theorem AllAppear.endsWithin : {values : List Value} → {seen : List Appearance} →
    forest.AllAppear own values seen →
      ∀ value ∈ values, forest.EndsWithin (Appearance.heightOf seen) value
  | _, _, .nil => List.forall_mem_nil _
  | _, _, .cons appears rest => List.forall_mem_cons.mpr
      ⟨appears.endsWithin.mono (Nat.le_max_left ..), fun value member =>
        (rest.endsWithin value member).mono (Nat.le_max_right ..)⟩

end

theorem Appears.isTree (appears : forest.Appears own value look) : forest.IsTree value :=
  ⟨_, appears.endsWithin⟩

/-! ## From below to above in a tree without shared parts -/

/-- In a list without repetitions, what comes before an item comes in the part before it. -/
theorem mem_of_sublist {done rest : List NodeId} (apart : (done ++ id :: rest).Nodup)
    (before : [target, id].Sublist (done ++ id :: rest)) : target ∈ done := by
  have different : target ≠ id := by
    have pair := before.nodup apart
    simpa using pair
  have listed : target ∈ done ++ id :: rest := before.subset (by simp)
  rcases List.mem_append.mp listed with here | later
  · exact here
  · have later : target ∈ rest := (List.mem_cons.mp later).resolve_left different
    have swapped : [id, target].Sublist (done ++ id :: rest) :=
      ((List.singleton_sublist.mpr later).cons_cons id).trans (List.sublist_append_right ..)
    exact absurd swapped (not_sublist_swap apart before)

/-- Where a tree without shared parts is gone through from below to above, the children of a node
come before it, and what has come before does not have it below. -/
theorem Unshared.bottomUp_split {root : NodeId} (unshared : forest.Unshared (.node root))
    (isTree : forest.IsTree (.node root)) {done rest : List NodeId}
    (split : forest.bottomUp root = done ++ id :: rest) :
    id ∉ done ∧ forest.Below (.node root) id ∧
      (∀ {label children kid}, forest.HasNode id label children → .node kid ∈ children →
        kid ∈ done) ∧
      ∀ {other label children child}, other ∈ done → forest.HasNode other label children →
        child ∈ children → ¬forest.Reaches child id := by
  have once : (forest.topDown root).Nodup := unshared.nodup_topDownTo _
  have apart : (done ++ id :: rest).Nodup := split ▸ nodup_bottomUp ..
  have inTree {other : NodeId} (listed : other ∈ done ++ id :: rest) :
      forest.Below (.node root) other := (mem_bottomUp isTree).mp (split ▸ listed)
  have precedes {upper lower : NodeId} (below : forest.Below (.node root) lower)
      (above : forest.LiesAbove root upper lower) :
      [lower, upper].Sublist (done ++ id :: rest) := split ▸ above.sublist_bottomUp isTree below
  have here : forest.Below (.node root) id := inTree (by simp)
  have new : id ∉ done := fun listed =>
    (List.nodup_append.mp apart).2.2 id listed id (by simp) rfl
  refine ⟨new, here, fun has member => ?_, fun {other label children child} listed has member
    reaches => ?_⟩
  · exact mem_of_sublist apart
      (precedes (.child here has member)
        (liesAbove_of_below isTree once here has member (.root rfl)))
  · have inside := inTree (List.mem_append_left _ listed)
    cases isNode : child.isNode with
    | false => exact unshared.not_below inside has member isNode reaches here
    | true =>
        rcases Value.exists_of_isNode isNode with ⟨kid, rfl⟩
        have lower := unshared.below_of_reaches reaches rfl (.child inside has member) here
        have before := precedes here (liesAbove_of_below isTree once inside has member lower)
        rcases List.append_of_mem listed with ⟨front, back, rfl⟩
        rw [List.append_assoc, List.cons_append] at apart before
        have first : id ∈ front := mem_of_sublist apart before
        exact new (List.mem_append_left _ first)

end Forest

end Lalr
