import Mathlib.Data.List.Pairwise
import Mathlib.Data.List.Forall2
import Lalr.Proofs.Forest.Trees

/-!
# Values that are alike

Two values, each of a forest of its own, are alike if they stand for the same tree,
whatever the numbers of their nodes are. This file relates such values and keeps
account of which sequence of the one forest answers to which sequence of the other:
as long as only other sequences are changed, the values stay alike.
-/

namespace Lalr

/-- What counts where values are compared: which tokens are alike, and whether the spans of nodes
have to be the same. -/
structure ValueLikeness where
  token : Token → Token → Prop
  spans : Bool

namespace Forest

/-- The span of a node, if its number stands for one. Where spans do not count, it covers no
text. -/
def seenSpan (forest : Forest) (counts : Bool) (node : Node) : Option Span :=
  match counts, node.span with
  | true, some span => forest.spans[span.index]?
  | _, _ => some {}

@[simp]
theorem seenSpan_false (forest : Forest) (node : Node) :
    forest.seenSpan false node = some {} := rfl

theorem seenSpan_of_none (forest : Forest) (counts : Bool) {node : Node} (none : node.span = none) :
    forest.seenSpan counts node = some {} := by
  cases counts <;> simp [seenSpan, none]

theorem spanOf_of_seenSpan {forest : Forest} {id : NodeId} {node : Node} {span : Span}
    (found : forest.nodes[id.index]? = some node) (seen : forest.seenSpan true node = some span) :
    forest.spanOf id = span := by
  revert seen
  simp only [spanOf, Forest.node, Array.getD_eq_getD_getElem?, found, Option.getD_some, seenSpan]
  cases node.span with
  | none => exact Option.some.inj
  | some given =>
      intro seen
      simp [Forest.span, show forest.spans[given.index]? = some span from seen]

/-- A forest keeps all that counts of the nodes of another one, and all its sequences apart from
those that have been changed. -/
structure Preserves (counts : Bool) (before after : Forest) (changed : List SequenceId) : Prop
    extends before.Keeps after changed where
  seen : ∀ {index : Nat} {node kept : Node}, before.nodes[index]? = some node →
    after.nodes[index]? = some kept → kept.variant = node.variant ∧
      ∀ span, before.seenSpan counts node = some span → after.seenSpan counts kept = some span

namespace Preserves

variable {counts : Bool} {before between after forest : Forest} {changed more : List SequenceId}

theorem refl (forest : Forest) (changed : List SequenceId) :
    forest.Preserves counts forest changed where
  toKeeps := .refl forest changed
  seen found kept := by
    rcases Option.some.inj (found.symm.trans kept) with rfl
    exact ⟨rfl, fun _ => id⟩

theorem trans (first : before.Preserves counts between changed)
    (second : between.Preserves counts after changed) : before.Preserves counts after changed where
  toKeeps := first.toKeeps.trans second.toKeeps
  seen found last := by
    rcases first.node found with ⟨_, kept, -, -⟩
    rcases first.seen found kept with ⟨variant, seen⟩
    rcases second.seen kept last with ⟨sameVariant, stillSeen⟩
    exact ⟨sameVariant.trans variant, fun span => stillSeen span ∘ seen span⟩

/-- Where the nodes and the spans are the same, only sequences matter. -/
theorem of_keeps (keeps : before.Keeps after changed) (nodes : after.nodes = before.nodes)
    (spans : after.spans = before.spans) : before.Preserves counts after changed where
  toKeeps := keeps
  seen found kept := by
    rw [nodes, found] at kept
    rcases Option.some.inj kept with rfl
    exact ⟨rfl, fun span => by simp [seenSpan, spans]⟩

theorem addSequence (forest : Forest) (items : List Value) :
    forest.Preserves counts (forest.addSequence items).2 [] :=
  .of_keeps (.addSequence forest items) rfl rfl

theorem setItems (forest : Forest) (id : SequenceId) (items : List Value) :
    forest.Preserves counts (forest.setItems id items) [id] :=
  .of_keeps (.setItems forest id items) rfl rfl

theorem addNode (forest : Forest) (node : Node) :
    forest.Preserves counts (forest.addNode node).2 [] where
  toKeeps := .addNode forest node
  seen := by
    intro index old kept found last
    rcases Array.getElem?_eq_some_iff.mp found with ⟨bound, _⟩
    have same : forest.nodes[index]? = some kept := by
      simpa [Forest.addNode, Array.getElem?_push, Nat.ne_of_lt bound] using last
    rcases Option.some.inj (found.symm.trans same) with rfl
    exact ⟨rfl, fun span seen => seen⟩

theorem addSpan (forest : Forest) (span : Span) :
    forest.Preserves counts (forest.addSpan span).2 [] where
  toKeeps := ⟨fun found => ⟨_, found, rfl, rfl⟩, fun _ held => held, Nat.le_refl _⟩
  seen := by
    intro index node kept found last
    rcases Option.some.inj (found.symm.trans last) with rfl
    refine ⟨rfl, fun given seen => ?_⟩
    revert seen
    unfold seenSpan
    split
    · intro seen
      rcases Array.getElem?_eq_some_iff.mp seen with ⟨bound, _⟩
      simpa [Forest.addSpan, Array.getElem?_push, Nat.ne_of_lt bound] using seen
    · exact id

/-- Sequences that were not there before need not be accounted for. -/
theorem narrow (preserves : before.Preserves counts after more)
    (within : ∀ id ∈ more, id ∈ changed ∨ before.sequences.size ≤ id.index) :
    before.Preserves counts after changed where
  node := preserves.node
  sequence := by
    intro id items outside held
    refine preserves.sequence (fun member => ?_) held
    rcases Array.getElem?_eq_some_iff.mp held with ⟨bound, _⟩
    exact (within id member).elim outside (Nat.not_le_of_lt bound)
  grows := preserves.grows
  seen := preserves.seen

end Preserves

end Forest

open Forest

/-- Whether two pairs of sequences have no sequence in common. -/
def Separate (pair other : SequenceId × SequenceId) : Prop :=
  pair.1 ≠ other.1 ∧ pair.2 ≠ other.2

theorem Separate.symm {pair other : SequenceId × SequenceId} (separate : Separate pair other) :
    Separate other pair :=
  ⟨separate.1.symm, separate.2.symm⟩

/-- Whether a pair of sequences was not there before. -/
def Fresh (forests : Forest × Forest) (pair : SequenceId × SequenceId) : Prop :=
  forests.1.sequences.size ≤ pair.1.index ∧ forests.2.sequences.size ≤ pair.2.index

namespace ValueLikeness

/-- Two nodes with all that counts in common, apart from their children. -/
structure NodesAlike (likeness : ValueLikeness) (forests : Forest × Forest) (id id' : NodeId)
    (node node' : Node) : Prop where
  found : forests.1.nodes[id.index]? = some node
  found' : forests.2.nodes[id'.index]? = some node'
  label : node.label = node'.label
  variant : node.variant = node'.variant
  span : ∃ span, forests.1.seenSpan likeness.spans node = some span ∧
    forests.2.seenSpan likeness.spans node' = some span

mutual

/-- Two values, each of its own forest, stand for trees that are alike, of which the children lie in
some pairs of sequences. -/
inductive Alike (likeness : ValueLikeness) (forests : Forest × Forest) :
    Value → Value → List (SequenceId × SequenceId) → Prop
  | nothing : Alike likeness forests .nothing .nothing []
  | token {token token' : Token} (tokens : likeness.token token token') :
      Alike likeness forests (.token token) (.token token') []
  | node {id id' : NodeId} {node node' : Node} {used : List (SequenceId × SequenceId)}
      (nodes : likeness.NodesAlike forests id id' node node')
      (children : HeldAlike likeness forests node.children node'.children used) :
      Alike likeness forests (.node id) (.node id') ((node.children, node'.children) :: used)
  | sequence {id id' : SequenceId} {used : List (SequenceId × SequenceId)}
      (held : HeldAlike likeness forests id id' used) :
      Alike likeness forests (.sequence id) (.sequence id') ((id, id') :: used)

/-- Two sequences hold values that are alike one by one. The pair of these sequences itself is not
among the pairs that the values lie in. -/
inductive HeldAlike (likeness : ValueLikeness) (forests : Forest × Forest) :
    SequenceId → SequenceId → List (SequenceId × SequenceId) → Prop
  | held {id id' : SequenceId} {items items' : List Value} {used : List (SequenceId × SequenceId)}
      (held : forests.1.sequences[id.index]? = some items)
      (held' : forests.2.sequences[id'.index]? = some items')
      (alike : AllAlike likeness forests items items' used) :
      HeldAlike likeness forests id id' used

/-- Some values are alike one by one. -/
inductive AllAlike (likeness : ValueLikeness) (forests : Forest × Forest) :
    List Value → List Value → List (SequenceId × SequenceId) → Prop
  | nil : AllAlike likeness forests [] [] []
  | cons {value value' : Value} {values values' : List Value}
      {used usedBy : List (SequenceId × SequenceId)}
      (alike : Alike likeness forests value value' used)
      (rest : AllAlike likeness forests values values' usedBy) :
      AllAlike likeness forests (value :: values) (value' :: values') (used ++ usedBy)

end

/-- Two forests each keep all that counts of what they were, apart from some pairs of sequences. -/
structure Stays (likeness : ValueLikeness) (before after : Forest × Forest)
    (changed : List (SequenceId × SequenceId)) : Prop where
  left : before.1.Preserves likeness.spans after.1 (changed.map Prod.fst)
  right : before.2.Preserves likeness.spans after.2 (changed.map Prod.snd)

namespace Stays

variable {likeness : ValueLikeness} {before between after forests : Forest × Forest}
  {changed more : List (SequenceId × SequenceId)}

theorem refl (forests : Forest × Forest) (changed : List (SequenceId × SequenceId)) :
    likeness.Stays forests forests changed :=
  ⟨.refl _ _, .refl _ _⟩

theorem trans (first : likeness.Stays before between changed)
    (second : likeness.Stays between after changed) : likeness.Stays before after changed :=
  ⟨first.left.trans second.left, first.right.trans second.right⟩

/-- Pairs of sequences that were not there before need not be accounted for. -/
theorem narrow (stays : likeness.Stays before after more)
    (within : ∀ pair ∈ more, pair ∈ changed ∨ Fresh before pair) :
    likeness.Stays before after changed where
  left := stays.left.narrow fun id member => by
    rcases List.mem_map.mp member with ⟨pair, inMore, rfl⟩
    exact (within pair inMore).imp List.mem_map_of_mem And.left
  right := stays.right.narrow fun id member => by
    rcases List.mem_map.mp member with ⟨pair, inMore, rfl⟩
    exact (within pair inMore).imp List.mem_map_of_mem And.right

theorem mono (stays : likeness.Stays before after changed) (subset : changed ⊆ more) :
    likeness.Stays before after more :=
  stays.narrow fun _ member => .inl (subset member)

theorem addSequence (forests : Forest × Forest) (items items' : List Value) :
    likeness.Stays forests ((forests.1.addSequence items).2, (forests.2.addSequence items').2) [] :=
  ⟨.addSequence _ _, .addSequence _ _⟩

theorem setItems (forests : Forest × Forest) (id id' : SequenceId) (items items' : List Value) :
    likeness.Stays forests (forests.1.setItems id items, forests.2.setItems id' items')
      [(id, id')] :=
  ⟨.setItems _ _ _, .setItems _ _ _⟩

theorem addNode (forests : Forest × Forest) (node node' : Node) :
    likeness.Stays forests ((forests.1.addNode node).2, (forests.2.addNode node').2) [] :=
  ⟨.addNode _ _, .addNode _ _⟩

end Stays

section Frames

variable {likeness : ValueLikeness} {before after forests : Forest × Forest}
  {changed : List (SequenceId × SequenceId)}

/-- Nodes stay alike. -/
theorem NodesAlike.keep {id id' : NodeId} {node node' : Node}
    (nodes : likeness.NodesAlike before id id' node node')
    (stays : likeness.Stays before after changed) :
    ∃ kept kept', likeness.NodesAlike after id id' kept kept' ∧
      kept.children = node.children ∧
      kept'.children = node'.children := by
  rcases nodes with ⟨found, found', labels, variants, span, seen, seen'⟩
  rcases stays.left.node found with ⟨kept, last, label, children⟩
  rcases stays.right.node found' with ⟨kept', last', label', children'⟩
  rcases stays.left.seen found last with ⟨variant, sees⟩
  rcases stays.right.seen found' last' with ⟨variant', sees'⟩
  refine ⟨kept, kept', ⟨last, last', ?_, ?_, span, sees span seen, sees' span seen'⟩,
    children, children'⟩
  · rw [label, label', labels]
  · rw [variant, variant', variants]

theorem Stays.sequence {pair : SequenceId × SequenceId} {items items' : List Value}
    (stays : likeness.Stays before after changed)
    (apart : ∀ other ∈ changed, Separate pair other)
    (held : before.1.sequences[pair.1.index]? = some items)
    (held' : before.2.sequences[pair.2.index]? = some items') :
    after.1.sequences[pair.1.index]? = some items ∧
      after.2.sequences[pair.2.index]? = some items' := by
  constructor
  · refine stays.left.sequence (fun member => ?_) held
    rcases List.mem_map.mp member with ⟨other, member, same⟩
    exact (apart other member).1 same.symm
  · refine stays.right.sequence (fun member => ?_) held'
    rcases List.mem_map.mp member with ⟨other, member, same⟩
    exact (apart other member).2 same.symm

mutual

/-- Values stay alike where none of their sequences has been changed. -/
theorem Alike.keep (stays : likeness.Stays before after changed) :
    {value value' : Value} → {used : List (SequenceId × SequenceId)} →
      likeness.Alike before value value' used →
        (∀ pair ∈ used, ∀ other ∈ changed, Separate pair other) →
          likeness.Alike after value value' used
  | _, _, _, .nothing, _ => .nothing
  | _, _, _, .token tokens, _ => .token tokens
  | _, _, _, .node nodes children, apart => by
      rcases nodes.keep stays with ⟨kept, kept', nodes, same, same'⟩
      have children := children.keep stays apart
      rw [← same, ← same'] at children ⊢
      exact .node nodes children
  | _, _, _, .sequence held, apart => .sequence (held.keep stays apart)

/-- Sequences go on holding values that are alike where none of their sequences has been changed. -/
theorem HeldAlike.keep (stays : likeness.Stays before after changed) :
    {id id' : SequenceId} → {used : List (SequenceId × SequenceId)} →
      likeness.HeldAlike before id id' used →
        (∀ pair ∈ (id, id') :: used, ∀ other ∈ changed, Separate pair other) →
          likeness.HeldAlike after id id' used
  | _, _, _, .held held held' alike, apart =>
      have kept := stays.sequence (apart _ (List.mem_cons_self ..)) held held'
      .held kept.1 kept.2 (alike.keep stays fun pair member =>
        apart pair (List.mem_cons_of_mem _ member))

/-- Values stay alike one by one where none of their sequences has been changed. -/
theorem AllAlike.keep (stays : likeness.Stays before after changed) :
    {values values' : List Value} → {used : List (SequenceId × SequenceId)} →
      likeness.AllAlike before values values' used →
        (∀ pair ∈ used, ∀ other ∈ changed, Separate pair other) →
          likeness.AllAlike after values values' used
  | _, _, _, .nil, _ => .nil
  | _, _, _, .cons alike rest, apart =>
      .cons (alike.keep stays fun pair member => apart pair (List.mem_append_left _ member))
        (rest.keep stays fun pair member => apart pair (List.mem_append_right _ member))

end

/-- Whether a pair of sequences is there. -/
def Present (forests : Forest × Forest) (pair : SequenceId × SequenceId) : Prop :=
  pair.1.index < forests.1.sequences.size ∧ pair.2.index < forests.2.sequences.size

mutual

/-- The sequences of values that are alike are there. -/
theorem Alike.present :
    {value value' : Value} → {used : List (SequenceId × SequenceId)} →
      likeness.Alike forests value value' used → ∀ pair ∈ used, Present forests pair
  | _, _, _, .nothing => by simp
  | _, _, _, .token _ => by simp
  | _, _, _, .node _ children => children.present
  | _, _, _, .sequence held => held.present

theorem HeldAlike.present :
    {id id' : SequenceId} → {used : List (SequenceId × SequenceId)} →
      likeness.HeldAlike forests id id' used → ∀ pair ∈ (id, id') :: used,
        Present forests pair
  | _, _, _, .held held held' alike =>
      List.forall_mem_cons.mpr ⟨⟨(Array.getElem?_eq_some_iff.mp held).1,
        (Array.getElem?_eq_some_iff.mp held').1⟩, alike.present⟩

theorem AllAlike.present :
    {values values' : List Value} → {used : List (SequenceId × SequenceId)} →
      likeness.AllAlike forests values values' used → ∀ pair ∈ used, Present forests pair
  | _, _, _, .nil => by simp
  | _, _, _, .cons alike rest => List.forall_mem_append.mpr ⟨alike.present, rest.present⟩

end

end Frames

namespace AllAlike

variable {likeness : ValueLikeness} {forests : Forest × Forest}
  {values values' more more' : List Value} {used usedBy : List (SequenceId × SequenceId)}

theorem length_eq (alike : likeness.AllAlike forests values values' used) :
    values.length = values'.length := by
  induction values generalizing values' used with
  | nil => cases alike; rfl
  | cons value values ih => cases alike with | cons _ rest => simp [ih rest]

theorem isEmpty_eq (alike : likeness.AllAlike forests values values' used) :
    values.isEmpty = values'.isEmpty := by
  cases alike <;> rfl

theorem singleton {value value' : Value} (alike : likeness.Alike forests value value' used) :
    likeness.AllAlike forests [value] [value'] used := by
  simpa using AllAlike.cons alike .nil

theorem nothings (count : Nat) :
    likeness.AllAlike forests (List.replicate count .nothing)
      (List.replicate count .nothing) [] := by
  induction count with
  | zero => exact .nil
  | succ count ih => exact .cons .nothing ih

theorem append (alike : likeness.AllAlike forests values values' used)
    (rest : likeness.AllAlike forests more more' usedBy) :
    likeness.AllAlike forests (values ++ more) (values' ++ more') (used ++ usedBy) := by
  induction values generalizing values' used with
  | nil => cases alike; exact rest
  | cons value values ih =>
      cases alike with
      | cons first left =>
          rw [List.cons_append, List.cons_append, List.append_assoc]
          exact .cons first (ih left)

/-- Values that are alike fall into as many that come first and the ones behind them. -/
theorem split (count : Nat) (alike : likeness.AllAlike forests values values' used) :
    ∃ usedFront usedBack, used = usedFront ++ usedBack ∧
      likeness.AllAlike forests (values.take count) (values'.take count) usedFront ∧
      likeness.AllAlike forests (values.drop count) (values'.drop count) usedBack := by
  induction count generalizing values values' used with
  | zero => exact ⟨[], used, rfl, by simpa using AllAlike.nil, alike⟩
  | succ count ih =>
      cases alike with
      | nil => exact ⟨[], [], rfl, .nil, .nil⟩
      | @cons _ _ _ _ usedFirst _ first rest =>
          rcases ih rest with ⟨usedFront, usedBack, rfl, front, back⟩
          exact ⟨usedFirst ++ usedFront, usedBack, by simp, .cons first front, back⟩

theorem reverse (alike : likeness.AllAlike forests values values' used) :
    ∃ usedBy, usedBy.Perm used ∧
      likeness.AllAlike forests values.reverse values'.reverse usedBy := by
  induction values generalizing values' used with
  | nil => cases alike; exact ⟨[], .refl _, .nil⟩
  | cons value values ih =>
      cases alike with
      | @cons _ _ _ _ usedFirst _ first rest =>
          rcases ih rest with ⟨usedRest, perm, rest⟩
          refine ⟨usedRest ++ usedFirst, (perm.append_right _).trans List.perm_append_comm, ?_⟩
          simpa using rest.append (singleton first)

/-- The values at some position, if there are any, lie apart from those behind them. -/
theorem pick {past index : Nat} (le : past ≤ index)
    (alike : likeness.AllAlike forests (values.drop past) (values'.drop past) used) :
    (values[index]? = none ∧ values'[index]? = none) ∨
      ∃ value value' usedHead usedRest, values[index]? = some value ∧
        values'[index]? = some value' ∧ likeness.Alike forests value value' usedHead ∧
        likeness.AllAlike forests (values.drop (index + 1)) (values'.drop (index + 1)) usedRest ∧
        (usedHead ++ usedRest).Sublist used := by
  rcases alike.split (index - past) with ⟨usedFront, usedBack, rfl, -, back⟩
  have tail (values : List Value) :
      (values.drop past).drop (index - past) = values.drop index := by
    rw [List.drop_drop, Nat.add_sub_cancel' le]
  have next (values : List Value) : values.drop (index + 1) = (values.drop index).drop 1 := by simp
  have first (values : List Value) : values[index]? = (values.drop index).head? := by simp
  rw [tail, tail] at back
  rw [next values, next values', first values, first values']
  revert back
  generalize values.drop index = rest
  generalize values'.drop index = rest'
  intro back
  cases back with
  | nil => exact .inl ⟨rfl, rfl⟩
  | cons head others =>
      exact .inr ⟨_, _, _, _, rfl, rfl, head, others, List.sublist_append_right _ _⟩

end AllAlike

section Growth

variable {likeness : ValueLikeness} {forests : Forest × Forest} {id id' : SequenceId}
  {values values' : List Value} {used usedBy : List (SequenceId × SequenceId)}

theorem HeldAlike.items_alike (held : likeness.HeldAlike forests id id' used) :
    likeness.AllAlike forests (forests.1.items id) (forests.2.items id') used := by
  cases held with
  | held held held' alike => simpa [Forest.items, held, held'] using alike

/-- Adding values that are alike at the ends of two sequences keeps them alike. -/
theorem HeldAlike.setItems (held : likeness.HeldAlike forests id id' usedBy)
    (alike : likeness.AllAlike forests values values' used)
    (apart : ((id, id') :: (usedBy ++ used)).Pairwise Separate) :
    likeness.HeldAlike (forests.1.setItems id (forests.1.items id ++ values),
      forests.2.setItems id' (forests.2.items id' ++ values')) id id' (usedBy ++ used) := by
  have present := held.present (id, id') (List.mem_cons_self ..)
  have joined := (held.items_alike.append alike).keep
    (.setItems forests id id' (forests.1.items id ++ values) (forests.2.items id' ++ values'))
    fun pair member other only => by
      rcases List.mem_singleton.mp only with rfl
      exact ((List.pairwise_cons.mp apart).1 pair member).symm
  refine .held ?_ ?_ joined
  · simp [Forest.setItems, present.1]
  · simp [Forest.setItems, present.2]

/-- Two sequences that are added hold values that are alike. -/
theorem heldAlike_addSequence (forests : Forest × Forest)
    (alike : likeness.AllAlike forests values values' used) :
    likeness.HeldAlike ((forests.1.addSequence values).2, (forests.2.addSequence values').2)
      (forests.1.addSequence values).1 (forests.2.addSequence values').1 used :=
  .held (held_addSequence _ _) (held_addSequence _ _) (alike.keep (.addSequence ..) (by simp))

/-- Sequences that are added lie outside of everything that was there. -/
theorem separate_addSequence (present : ∀ pair ∈ used, Present forests pair)
    (values values' : List Value) : ∀ pair ∈ used,
      Separate ((forests.1.addSequence values).1, (forests.2.addSequence values').1) pair :=
  fun pair member =>
    ⟨fun same => absurd (present pair member).1 (by simp [← same, addSequence]),
      fun same => absurd (present pair member).2 (by simp [← same, addSequence])⟩

/-- Nodes that are added are alike if their children are. -/
theorem alike_addNode (forests : Forest × Forest) (node node' : Node)
    (children : likeness.HeldAlike forests node.children node'.children used)
    (label : node.label = node'.label) (variant : node.variant = node'.variant)
    (span : ∃ span, forests.1.seenSpan likeness.spans node = some span ∧
      forests.2.seenSpan likeness.spans node' = some span) :
    likeness.Alike ((forests.1.addNode node).2, (forests.2.addNode node').2)
      (.node (forests.1.addNode node).1) (.node (forests.2.addNode node').1)
      ((node.children, node'.children) :: used) := by
  refine .node ⟨?_, ?_, label, variant, span⟩ (children.keep (.addNode ..) (by simp))
  · simp [Forest.addNode]
  · simp [Forest.addNode]

end Growth

section Surface

variable {likeness : ValueLikeness} {before after forests : Forest × Forest}

/-- Two values that are alike as far as their children do not matter. -/
inductive Similar (likeness : ValueLikeness) (forests : Forest × Forest) : Value → Value → Prop
  | nothing : Similar likeness forests .nothing .nothing
  | token {token token' : Token} (tokens : likeness.token token token') :
      Similar likeness forests (.token token) (.token token')
  | node {id id' : NodeId} {node node' : Node}
      (nodes : likeness.NodesAlike forests id id' node node') :
      Similar likeness forests (.node id) (.node id')
  | sequence (id id' : SequenceId) : Similar likeness forests (.sequence id) (.sequence id')

theorem Alike.similar {value value' : Value} {used : List (SequenceId × SequenceId)}
    (alike : likeness.Alike forests value value' used) : likeness.Similar forests value value' := by
  cases alike with
  | nothing => exact .nothing
  | token tokens => exact .token tokens
  | node nodes => exact .node nodes
  | sequence => exact .sequence _ _

theorem AllAlike.similar {values values' : List Value} {used : List (SequenceId × SequenceId)}
    (alike : likeness.AllAlike forests values values' used) :
    List.Forall₂ (likeness.Similar forests) values values' := by
  induction values generalizing values' used with
  | nil => cases alike; exact .nil
  | cons value values ih =>
      cases alike with
      | cons head rest => exact .cons head.similar (ih rest)

/-- What is similar stays so, whatever becomes of sequences. -/
theorem Similar.keep {value value' : Value} {changed : List (SequenceId × SequenceId)}
    (similar : likeness.Similar before value value') (stays : likeness.Stays before after changed) :
    likeness.Similar after value value' := by
  cases similar with
  | nothing => exact .nothing
  | token tokens => exact .token tokens
  | sequence id id' => exact .sequence id id'
  | node nodes =>
      rcases nodes.keep stays with ⟨kept, kept', nodes, -, -⟩
      exact .node nodes

end Surface

/-- Values of later forests are alike, in pairs of sequences that somebody owned before or that are
new, and nothing but what he owned has been changed. -/
structure Owned (likeness : ValueLikeness) (before after : Forest × Forest)
    (own : List (SequenceId × SequenceId)) (values values' : List Value) : Prop where
  alike : ∃ used, likeness.AllAlike after values values' used ∧ used.Pairwise Separate ∧
    ∀ pair ∈ used, pair ∈ own ∨ Fresh before pair
  stays : likeness.Stays before after own

namespace Owned

variable {likeness : ValueLikeness} {start before after : Forest × Forest}
  {own : List (SequenceId × SequenceId)} {values values' : List Value}

theorem cons_token {token token' : Token} (owned : likeness.Owned before after own values values')
    (tokens : likeness.token token token') :
    likeness.Owned before after own (.token token :: values) (.token token' :: values') := by
  rcases owned with ⟨⟨used, alike, apart, within⟩, stays⟩
  exact ⟨⟨used, .cons (.token tokens) alike, apart, within⟩, stays⟩

theorem tail {value value' : Value}
    (owned : likeness.Owned before after own (value :: values) (value' :: values')) :
    likeness.Owned before after own values values' := by
  rcases owned with ⟨⟨used, alike, apart, within⟩, stays⟩
  cases alike with
  | cons _ rest =>
      exact ⟨⟨_, rest, (List.pairwise_append.mp apart).2.1,
        fun pair member => within pair (List.mem_append_right _ member)⟩, stays⟩

/-- The values on top of two stacks lie apart from those below, so that the stacks stay alike where
alike values are put in their place, or nothing. -/
theorem replace (count : Nat) (owned : likeness.Owned start before own values values') :
    ∃ used, likeness.AllAlike before (values.take count).reverse
      (values'.take count).reverse used ∧
      used.Pairwise Separate ∧
      (∀ {after value value'}, likeness.Owned before after used [value] [value'] →
        likeness.Owned start after own (value :: values.drop count)
          (value' :: values'.drop count)) ∧
      ∀ {after}, likeness.Stays before after used →
        likeness.Owned start after own (values.drop count) (values'.drop count) := by
  rcases owned with ⟨⟨all, alike, apart, within⟩, stays⟩
  rcases alike.split count with ⟨usedTop, usedBelow, rfl, top, below⟩
  rcases top.reverse with ⟨used, perm, top⟩
  rcases List.pairwise_append.mp apart with ⟨apartTop, apartBelow, between⟩
  have inside : ∀ pair ∈ used, pair ∈ own ∨ Fresh start pair := fun pair member =>
    within pair (List.mem_append_left _ (perm.mem_iff.mp member))
  have apartUsed : ∀ pair ∈ usedBelow, ∀ other ∈ used, Separate pair other :=
    fun pair member other above => (between other (perm.mem_iff.mp above) pair member).symm
  have goesOn {after : Forest × Forest} (changed : likeness.Stays before after used) :
      likeness.Stays start after own := by
    have both : likeness.Stays start after (own ++ used) :=
      (stays.mono (List.subset_append_left ..)).trans (changed.mono (List.subset_append_right ..))
    exact both.narrow (List.forall_mem_append.mpr ⟨fun _ => .inl, inside⟩)
  refine ⟨used, top, perm.symm.pairwise apartTop (fun separate => separate.symm), ?_, ?_⟩
  · rintro after value value' ⟨⟨usedBy, alike, apart, within'⟩, changed⟩
    refine ⟨⟨usedBy ++ usedBelow, ?_, ?_, ?_⟩, goesOn changed⟩
    · cases alike with
      | cons alike rest =>
          cases rest with
          | nil => simpa using AllAlike.cons alike (below.keep changed apartUsed)
    · refine List.pairwise_append.mpr ⟨apart, apartBelow, fun pair member other under => ?_⟩
      rcases within' pair member with above | fresh
      · exact (apartUsed other under pair above).symm
      · have present := below.present other under
        exact ⟨fun same => absurd present.1 (by simpa [← same] using fresh.1),
          fun same => absurd present.2 (by simpa [← same] using fresh.2)⟩
    · refine List.forall_mem_append.mpr ⟨fun pair member => ?_, fun pair member =>
        within pair (List.mem_append_right _ member)⟩
      rcases within' pair member with above | fresh
      · exact inside pair above
      · exact .inr ⟨Nat.le_trans stays.left.grows fresh.1,
          Nat.le_trans stays.right.grows fresh.2⟩
  · intro after changed
    exact ⟨⟨usedBelow, below.keep changed apartUsed, apartBelow, fun pair member =>
      within pair (List.mem_append_right _ member)⟩, goesOn changed⟩

end Owned

end ValueLikeness

end Lalr
