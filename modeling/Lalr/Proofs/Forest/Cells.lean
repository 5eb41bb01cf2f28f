import Mathlib.Order.Defs.Unbundled
import Lalr.Proofs.Forest.Appearances

/-!
# Values with all that belongs to them

A tree lies in a forest with its sequence of children and its span, and so do the trees
below it. Where no two trees have a sequence or a span in common, each of them can be
changed without a change to the others. This file keeps account of the sequences and spans
that trees lie in, so that a change to some of them can be told from a change to others.
-/

namespace Lalr

/-- Something in a forest that is written to: a sequence or a span. -/
inductive Cell where
  | sequence (id : SequenceId)
  | span (id : SpanId)
  deriving DecidableEq

/-- A value with all that belongs to it in a forest. -/
inductive Body where
  | plain (value : Value)
  | node (id : NodeId) (node : Node) (spanId : SpanId) (span : Span) (children : List Body)
  | sequence (id : SequenceId) (items : List Body)

namespace Body

/-- The value itself. -/
def value : Body → Value
  | .plain value => value
  | .node id .. => .node id
  | .sequence id _ => .sequence id

/-- The children of a node. -/
def children : Body → List Body
  | .node _ _ _ _ children => children
  | _ => []

/-- The number of the span of a node. -/
def spanId? : Body → Option SpanId
  | .node _ _ spanId _ _ => some spanId
  | _ => none

mutual

/-- What the value looks like. -/
def looks : Body → Appearance
  | .plain value => .plain value
  | .node _ given _ span children => .node given.label span given.variant (looksOf children)
  | .sequence _ items => .sequence (looksOf items)

/-- What some values look like. -/
def looksOf : List Body → List Appearance
  | [] => []
  | body :: rest => body.looks :: looksOf rest

end

mutual

/-- The cells that the value lies in. -/
def cells : Body → List Cell
  | .plain _ => []
  | .node _ given spanId _ children =>
    .sequence given.children :: .span spanId :: cellsOf children
  | .sequence id items => .sequence id :: cellsOf items

/-- The cells that some values lie in. -/
def cellsOf : List Body → List Cell
  | [] => []
  | body :: rest => body.cells ++ cellsOf rest

end

theorem looksOf_eq_map (bodies : List Body) : looksOf bodies = bodies.map looks := by
  induction bodies with
  | nil => rfl
  | cons body bodies ih => rw [looksOf, ih, List.map_cons]

theorem cellsOf_eq_flatMap (bodies : List Body) : cellsOf bodies = bodies.flatMap cells := by
  induction bodies with
  | nil => rfl
  | cons body bodies ih => rw [cellsOf, ih, List.flatMap_cons]

theorem children_looks (body : Body) : body.looks.children = body.children.map looks := by
  cases body with
  | plain => rfl
  | sequence => rfl
  | node id node spanId span children => exact looksOf_eq_map children

theorem cellsOf_append (bodies others : List Body) :
    cellsOf (bodies ++ others) = cellsOf bodies ++ cellsOf others := by
  simp [cellsOf_eq_flatMap]

theorem cells_subset {body : Body} {bodies : List Body} (member : body ∈ bodies) :
    body.cells ⊆ cellsOf bodies := by
  rw [cellsOf_eq_flatMap]
  exact fun cell inside => List.mem_flatMap.mpr ⟨body, member, inside⟩

theorem cellsOf_children_subset (body : Body) : cellsOf body.children ⊆ body.cells := by
  cases body with
  | plain => exact List.nil_subset _
  | sequence => exact List.nil_subset _
  | node => exact fun cell inside => List.mem_cons_of_mem _ (List.mem_cons_of_mem _ inside)

theorem cells_nodup {body : Body} {bodies : List Body} (nodup : (cellsOf bodies).Nodup)
    (member : body ∈ bodies) : body.cells.Nodup := by
  rw [cellsOf_eq_flatMap] at nodup
  exact (List.nodup_flatMap.mp nodup).1 body member

end Body

namespace Forest

/-- A value is there with all that belongs to it. -/
inductive Bears (forest : Forest) : Body → Prop
  | plain {value : Value} (isPlain : value.isPlain = true) : Bears forest (.plain value)
  | node {id : NodeId} {node : Node} {spanId : SpanId} {span : Span} {children : List Body}
      (found : forest.nodes[id.index]? = some node) (spanned : node.span = some spanId)
      (covers : forest.spans[spanId.index]? = some span)
      (held : forest.sequences[node.children.index]? = some (children.map Body.value))
      (each : ∀ child ∈ children, Bears forest child) :
      Bears forest (.node id node spanId span children)
  | sequence {id : SequenceId} {items : List Body}
      (held : forest.sequences[id.index]? = some (items.map Body.value))
      (each : ∀ item ∈ items, Bears forest item) : Bears forest (.sequence id items)

/-- Whether nothing of a forest has been changed but some of its sequences and spans. -/
structure Touches (before after : Forest) (changed : List Cell) : Prop where
  node : ∀ {index : Nat} {node : Node}, before.nodes[index]? = some node →
    after.nodes[index]? = some node
  sequence : ∀ {id : SequenceId} {items : List Value}, .sequence id ∉ changed →
    before.sequences[id.index]? = some items → after.sequences[id.index]? = some items
  span : ∀ {id : SpanId} {span : Span}, .span id ∉ changed →
    before.spans[id.index]? = some span → after.spans[id.index]? = some span
  sequences : before.sequences.size ≤ after.sequences.size
  spans : before.spans.size ≤ after.spans.size

/-- Whether a cell is there. -/
def HasCell (forest : Forest) : Cell → Prop
  | .sequence id => id.index < forest.sequences.size
  | .span id => id.index < forest.spans.size

namespace Touches

variable {before between after forest : Forest} {changed more : List Cell} {cell : Cell}

theorem refl (forest : Forest) (changed : List Cell) : forest.Touches forest changed where
  node found := found
  sequence _ held := held
  span _ covers := covers
  sequences := Nat.le_refl _
  spans := Nat.le_refl _

theorem trans (first : before.Touches between changed) (second : between.Touches after changed) :
    before.Touches after changed where
  node found := second.node (first.node found)
  sequence outside held := second.sequence outside (first.sequence outside held)
  span outside covers := second.span outside (first.span outside covers)
  sequences := Nat.le_trans first.sequences second.sequences
  spans := Nat.le_trans first.spans second.spans

theorem mono (touches : before.Touches after changed) (subset : changed ⊆ more) :
    before.Touches after more where
  node := touches.node
  sequence outside := touches.sequence fun member => outside (subset member)
  span outside := touches.span fun member => outside (subset member)
  sequences := touches.sequences
  spans := touches.spans

theorem hasCell (touches : before.Touches after changed) (has : before.HasCell cell) :
    after.HasCell cell := by
  cases cell with
  | sequence id => exact Nat.lt_of_lt_of_le has touches.sequences
  | span id => exact Nat.lt_of_lt_of_le has touches.spans

/-- Cells that were not there before need not be accounted for. -/
theorem narrow (touches : before.Touches after more)
    (within : ∀ cell ∈ more, cell ∈ changed ∨ ¬before.HasCell cell) :
    before.Touches after changed where
  node := touches.node
  sequence outside held := by
    refine touches.sequence (fun member => ?_) held
    exact (within _ member).elim outside fun absent =>
      absent (Array.getElem?_eq_some_iff.mp held).1
  span outside covers := by
    refine touches.span (fun member => ?_) covers
    exact (within _ member).elim outside fun absent =>
      absent (Array.getElem?_eq_some_iff.mp covers).1
  sequences := touches.sequences
  spans := touches.spans

theorem addSequence (forest : Forest) (items : List Value) :
    forest.Touches (forest.addSequence items).2 [] where
  node found := found
  sequence _ held := (Keeps.addSequence forest items).sequence List.not_mem_nil held
  span _ covers := covers
  sequences := (Keeps.addSequence forest items).grows
  spans := Nat.le_refl _

theorem addSpan (forest : Forest) (span : Span) : forest.Touches (forest.addSpan span).2 [] where
  node found := found
  sequence _ held := held
  span _ covers := by
    rcases Array.getElem?_eq_some_iff.mp covers with ⟨bound, _⟩
    simpa [Forest.addSpan, Array.getElem?_push, Nat.ne_of_lt bound] using covers
  sequences := Nat.le_refl _
  spans := by simp [Forest.addSpan]

theorem addNode (forest : Forest) (node : Node) : forest.Touches (forest.addNode node).2 [] where
  node found := by
    rcases Array.getElem?_eq_some_iff.mp found with ⟨bound, _⟩
    simpa [Forest.addNode, Array.getElem?_push, Nat.ne_of_lt bound] using found
  sequence _ held := held
  span _ covers := covers
  sequences := Nat.le_refl _
  spans := Nat.le_refl _

theorem setSpan (forest : Forest) (id : SpanId) (span : Span) :
    forest.Touches (forest.setSpan id span) [.span id] where
  node found := found
  sequence _ held := held
  span outside covers := by
    have different : id.index ≠ SpanId.index _ := fun same =>
      outside (List.mem_singleton.mpr (congrArg (Cell.span ∘ SpanId.mk) same.symm))
    simpa [Forest.setSpan, Array.getElem?_setIfInBounds, different] using covers
  sequences := Nat.le_refl _
  spans := by simp [Forest.setSpan]

end Touches

/-- Whether nothing of a forest has been changed. Something may have been added. -/
def Extends (before after : Forest) : Prop := before.Touches after []

instance : IsPreorder Forest Extends where
  refl forest := .refl forest []
  trans _ _ _ first second := first.trans second

section Bodies

variable {before after forest : Forest} {changed : List Cell} {body : Body}

/-- A value stays as it is where no cell is touched that it lies in. -/
theorem Bears.keep (bears : before.Bears body) (touches : before.Touches after changed)
    (apart : body.cells.Disjoint changed) : after.Bears body := by
  induction bears with
  | plain isPlain => exact .plain isPlain
  | node found spanned covers held _ ih =>
      rcases List.disjoint_cons_left.mp apart with ⟨outside, apart⟩
      rcases List.disjoint_cons_left.mp apart with ⟨outside', apart⟩
      refine .node (touches.node found) spanned (touches.span outside' covers)
        (touches.sequence outside held) fun child member => ih child member ?_
      exact fun cell inside => apart (Body.cells_subset member inside)
  | sequence held _ ih =>
      rcases List.disjoint_cons_left.mp apart with ⟨outside, apart⟩
      refine .sequence (touches.sequence outside held) fun item member => ih item member ?_
      exact fun cell inside => apart (Body.cells_subset member inside)

theorem Bears.hasCell (bears : forest.Bears body) :
    ∀ cell ∈ body.cells, forest.HasCell cell := by
  induction bears with
  | plain => nofun
  | node _ _ covers held _ ih =>
      refine List.forall_mem_cons.mpr ⟨(Array.getElem?_eq_some_iff.mp held).1,
        List.forall_mem_cons.mpr ⟨(Array.getElem?_eq_some_iff.mp covers).1,
          fun cell inside => ?_⟩⟩
      rw [Body.cellsOf_eq_flatMap] at inside
      rcases List.mem_flatMap.mp inside with ⟨child, member, inside⟩
      exact ih child member cell inside
  | sequence held _ ih =>
      refine List.forall_mem_cons.mpr ⟨(Array.getElem?_eq_some_iff.mp held).1,
        fun cell inside => ?_⟩
      rw [Body.cellsOf_eq_flatMap] at inside
      rcases List.mem_flatMap.mp inside with ⟨item, member, inside⟩
      exact ih item member cell inside

theorem hasCell_of_bears {bodies : List Body} (bears : ∀ body ∈ bodies, forest.Bears body) :
    ∀ cell ∈ Body.cellsOf bodies, forest.HasCell cell := by
  intro cell inside
  rw [Body.cellsOf_eq_flatMap] at inside
  rcases List.mem_flatMap.mp inside with ⟨body, member, inside⟩
  exact (bears body member).hasCell cell inside

theorem Bears.child (bears : forest.Bears body) :
    ∀ child ∈ body.children, forest.Bears child := by
  cases bears with
  | plain => nofun
  | sequence => nofun
  | node _ _ _ _ each => exact each

/-- Only a node has the value of a node. -/
theorem Bears.exists_node (bears : forest.Bears body) {id : NodeId}
    (value : body.value = .node id) :
    ∃ node spanId span children, body = .node id node spanId span children := by
  cases bears with
  | plain isPlain =>
      simp only [Body.value] at value
      subst value
      cases isPlain
  | sequence => cases value
  | node =>
      cases value
      exact ⟨_, _, _, _, rfl⟩

/-- A value that is there looks like what it is. -/
theorem Bears.appears (bears : forest.Bears body) : forest.Appears [] body.value body.looks := by
  have all {bodies : List Body} (each : ∀ body ∈ bodies,
      forest.Appears [] body.value body.looks) :
      forest.AllAppear [] (bodies.map Body.value) (Body.looksOf bodies) := by
    induction bodies with
    | nil => exact .nil
    | cons body bodies ih =>
        rcases List.forall_mem_cons.mp each with ⟨head, tail⟩
        exact .cons head (ih tail)
  induction bears with
  | plain isPlain => exact .plain isPlain
  | node found spanned covers held _ ih =>
      refine .node found ⟨rfl, ?_, rfl⟩ List.not_mem_nil held (all ih)
      simpa [seenSpan, spanned] using covers
  | sequence held _ ih => exact .sequence List.not_mem_nil held (all ih)

end Bodies

end Forest

end Lalr
