import Lalr.Forest.Document
import Lalr.Proofs.Forest.Copies

/-!
# Values with sequences of their own

Values that lie in sequences of their own stay as they are, whatever is done to other
sequences. This file keeps account of several lists of values in one forest, each of
which owns the sequences that it lies in, and shows that values that are alike read
the same.
-/

namespace Lalr

open Forest

namespace ValueLikeness

variable {likeness : ValueLikeness} {forest before after other : Forest}
  {forests start later : Forest × Forest} {values values' : List Value}
  {used pairs : List (SequenceId × SequenceId)} {own changed : List SequenceId}

/-- Some values lie in some sequences of a forest, in each of them once. -/
structure Occupies (likeness : ValueLikeness) (forest : Forest) (values : List Value)
    (own : List SequenceId) : Prop where
  alike : likeness.AllAlike (forest, forest) values values (own.map fun id => (id, id))
  apart : own.Nodup

theorem NodesAlike.left {id id' : NodeId} {node node' : Node}
    (nodes : likeness.NodesAlike forests id id' node node') :
    likeness.NodesAlike (forests.1, forests.1) id id node node := by
  rcases nodes with ⟨found, -, -, -, span, seen, -⟩
  exact ⟨found, found, rfl, rfl, span, seen, seen⟩

mutual

/-- A value that is alike to another one is alike to itself. -/
theorem Alike.left (tokens : ∀ token, likeness.token token token) :
    {value value' : Value} → {used : List (SequenceId × SequenceId)} →
      likeness.Alike forests value value' used →
        likeness.Alike (forests.1, forests.1) value value
          ((used.map Prod.fst).map fun id => (id, id))
  | _, _, _, .nothing => .nothing
  | _, _, _, .token _ => .token (tokens _)
  | _, _, _, .node nodes children => .node nodes.left (children.left tokens)
  | _, _, _, .sequence held => .sequence (held.left tokens)

theorem HeldAlike.left (tokens : ∀ token, likeness.token token token) :
    {id id' : SequenceId} → {used : List (SequenceId × SequenceId)} →
      likeness.HeldAlike forests id id' used →
        likeness.HeldAlike (forests.1, forests.1) id id
          ((used.map Prod.fst).map fun id => (id, id))
  | _, _, _, .held held _ alike => .held held held (alike.left tokens)

/-- Values that are alike to others are alike to themselves. -/
theorem AllAlike.left (tokens : ∀ token, likeness.token token token) :
    {values values' : List Value} → {used : List (SequenceId × SequenceId)} →
      likeness.AllAlike forests values values' used →
        likeness.AllAlike (forests.1, forests.1) values values
          ((used.map Prod.fst).map fun id => (id, id))
  | _, _, _, .nil => .nil
  | _, _, _, .cons alike rest => by
      rw [List.map_append, List.map_append]
      exact .cons (alike.left tokens) (rest.left tokens)

end

/-- Values that are alike to others, and apart from one another, occupy their sequences. -/
theorem AllAlike.occupies (tokens : ∀ token, likeness.token token token)
    (alike : likeness.AllAlike forests values values' used) (apart : used.Pairwise Separate) :
    likeness.Occupies forests.1 values (used.map Prod.fst) :=
  ⟨alike.left tokens, List.pairwise_map.mpr (apart.imp And.left)⟩

theorem map_fst_self (ids : List SequenceId) :
    (ids.map fun id => (id, id)).map Prod.fst = ids := by
  rw [List.map_map]
  exact List.map_id ids

/-- What one forest keeps is kept beside any other forest. -/
theorem Stays.beside (preserves : before.Preserves likeness.spans after changed) (other : Forest) :
    likeness.Stays (before, other) (after, other)
      (changed.map fun id => (id, ⟨other.sequences.size⟩)) where
  left := by
    rw [List.map_map]
    exact (List.map_id changed).symm ▸ preserves
  right := .refl _ _

theorem Stays.both (preserves : before.Preserves likeness.spans after changed) :
    likeness.Stays (before, before) (after, after) (changed.map fun id => (id, id)) where
  left := by
    rw [List.map_map]
    exact (List.map_id changed).symm ▸ preserves
  right := by
    rw [List.map_map]
    exact (List.map_id changed).symm ▸ preserves

/-- Values stay alike to others where the one forest is changed outside of their sequences. -/
theorem AllAlike.keep_beside (alike : likeness.AllAlike (before, other) values values' used)
    (preserves : before.Preserves likeness.spans after changed)
    (apart : (used.map Prod.fst).Disjoint changed) :
    likeness.AllAlike (after, other) values values' used := by
  refine alike.keep (.beside preserves other) fun pair member pair' inside => ?_
  rcases List.mem_map.mp inside with ⟨id, changes, rfl⟩
  refine ⟨fun same => apart (List.mem_map_of_mem member) (same ▸ changes), fun same => ?_⟩
  exact absurd (alike.present pair member).2 (by simp [same])

namespace Occupies

theorem present (occupies : likeness.Occupies forest values own) :
    ∀ id ∈ own, id.index < forest.sequences.size := fun id member =>
  (occupies.alike.present (id, id) (List.mem_map_of_mem (f := fun id => (id, id)) member)).1

/-- Values go on occupying their sequences where none of these is changed. -/
theorem keep (occupies : likeness.Occupies before values own)
    (preserves : before.Preserves likeness.spans after changed) (apart : own.Disjoint changed) :
    likeness.Occupies after values own where
  alike := occupies.alike.keep (.both preserves) fun pair member pair' inside => by
    rcases List.mem_map.mp member with ⟨id, here, rfl⟩
    rcases List.mem_map.mp inside with ⟨id', changes, rfl⟩
    have differs : id ≠ id' := fun same => apart here (same ▸ changes)
    exact ⟨differs, differs⟩
  apart := occupies.apart

theorem separate (occupies : likeness.Occupies forest values own) :
    (own.map fun id => (id, id)).Pairwise Separate :=
  List.pairwise_map.mpr (occupies.apart.imp fun differs => ⟨differs, differs⟩)

/-- Values that occupy sequences own them. -/
theorem owned (occupies : likeness.Occupies forest values own) :
    likeness.Owned (forest, forest) (forest, forest) (own.map fun id => (id, id)) values values :=
  ⟨⟨_, occupies.alike, occupies.separate, fun _ => .inl⟩, .refl _ _⟩

end Occupies

namespace Owned

/-- What is owned by values stays so where nothing that was there before is changed. -/
theorem keep (owned : likeness.Owned start forests pairs values values')
    (stays : likeness.Stays forests later []) :
    likeness.Owned start later pairs values values' := by
  rcases owned with ⟨⟨used, alike, apart, within⟩, before⟩
  exact ⟨⟨used, alike.keep stays (by simp), apart, within⟩,
    before.trans (stays.mono (List.nil_subset _))⟩

/-- Values that lie in new sequences only may take the place of others. -/
theorem trans {others others' : List Value}
    (owned : likeness.Owned start forests pairs values values')
    (new : likeness.Owned forests later [] others others') :
    likeness.Owned start later pairs others others' := by
  rcases new with ⟨⟨used, alike, apart, within⟩, stays⟩
  refine ⟨⟨used, alike, apart, fun pair member => .inr ?_⟩, (owned.keep stays).stays⟩
  rcases (within pair member).resolve_left (by simp) with ⟨first, second⟩
  exact ⟨Nat.le_trans owned.stays.left.grows first, Nat.le_trans owned.stays.right.grows second⟩

/-- Deep copies own what they lie in. -/
theorem deepCopies (alike : likeness.AllAlike forests values values' used)
    (apart : used.Pairwise Separate) :
    likeness.Owned forests ((forests.1.deepCopies values).2, (forests.2.deepCopies values').2) []
      (forests.1.deepCopies values).1 (forests.2.deepCopies values').1 := by
  rcases alike.deepCopies apart with ⟨usedBy, alike, apart, fresh, stays⟩
  exact ⟨⟨usedBy, alike, apart, fun pair member => .inr (fresh pair member)⟩, stays⟩

/-- Values that own sequences of two forests occupy those of the first one. -/
theorem occupies (tokens : ∀ token, likeness.token token token)
    (owned : likeness.Owned start forests pairs values values') :
    ∃ used, likeness.AllAlike forests values values' used ∧ used.Pairwise Separate ∧
      likeness.Occupies forests.1 values (used.map Prod.fst) ∧
      (∀ id ∈ used.map Prod.fst, id ∈ pairs.map Prod.fst ∨
        start.1.sequences.size ≤ id.index) ∧
      start.1.Preserves likeness.spans forests.1 (pairs.map Prod.fst) := by
  rcases owned with ⟨⟨used, alike, apart, within⟩, stays⟩
  refine ⟨used, alike, apart, alike.occupies tokens apart, fun id member => ?_, stays.left⟩
  rcases List.mem_map.mp member with ⟨pair, here, rfl⟩
  exact (within pair here).imp List.mem_map_of_mem And.left

end Owned

/-- Several lists of values in one forest, each of which occupies sequences that are none of the
others'. -/
structure Apart (likeness : ValueLikeness) (forest : Forest) (heaps : List (List Value))
    (own : Nat → List SequenceId) : Prop where
  occupies : ∀ {index : Nat} {values : List Value}, heaps[index]? = some values →
    likeness.Occupies forest values (own index)
  disjoint : ∀ {index index' : Nat}, index < heaps.length → index' < heaps.length →
    index ≠ index' → (own index).Disjoint (own index')

namespace Apart

variable {heaps : List (List Value)} {own : Nat → List SequenceId} {used : List SequenceId}

theorem present (apart : likeness.Apart forest heaps own) {index : Nat}
    (within : index < heaps.length) : ∀ id ∈ own index, id.index < forest.sequences.size :=
  (apart.occupies (List.getElem?_eq_getElem within)).present

theorem keep (apart : likeness.Apart before heaps own)
    (preserves : before.Preserves likeness.spans after []) : likeness.Apart after heaps own where
  occupies found := (apart.occupies found).keep preserves (by simp)
  disjoint := apart.disjoint

/-- New sequences are none of anybody's. -/
theorem disjoint_of_fresh (apart : likeness.Apart forest heaps own) {index : Nat}
    (within : index < heaps.length) (fresh : ∀ id ∈ used, forest.sequences.size ≤ id.index) :
    (own index).Disjoint used := fun id here there =>
  Nat.not_le_of_lt (apart.present within id here) (fresh id there)

/-- Values may be replaced by others that lie in what these own and in new sequences. -/
theorem replace (apart : likeness.Apart before heaps own) {index : Nat}
    (within : index < heaps.length)
    (preserves : before.Preserves likeness.spans after (own index))
    (occupies : likeness.Occupies after values used)
    (inside : ∀ id ∈ used, id ∈ own index ∨ before.sequences.size ≤ id.index) :
    likeness.Apart after (heaps.set index values) (Function.update own index used) := by
  have elsewhere {index' : Nat} (within' : index' < heaps.length) (differs : index' ≠ index) :
      (own index').Disjoint used := by
    intro id here there
    rcases inside id there with mine | fresh
    · exact apart.disjoint within' within differs here mine
    · exact Nat.not_le_of_lt (apart.present within' id here) fresh
  constructor
  · intro index' values' found
    by_cases same : index' = index
    · subst same
      rw [List.getElem?_set_self within] at found
      rcases Option.some.inj found with rfl
      rw [Function.update_self]
      exact occupies
    · rw [List.getElem?_set_ne (Ne.symm same)] at found
      rw [Function.update_of_ne same]
      have inRange := (List.getElem?_eq_some_iff.mp found).1
      exact (apart.occupies found).keep preserves (apart.disjoint inRange within same)
  · intro first second inRange inRange' differs
    rw [List.length_set] at inRange inRange'
    by_cases same : first = index
    · subst same
      rw [Function.update_self, Function.update_of_ne (Ne.symm differs)]
      exact fun id here there => elsewhere inRange' (Ne.symm differs) there here
    · rw [Function.update_of_ne same]
      by_cases same' : second = index
      · subst same'
        rw [Function.update_self]
        exact elsewhere inRange same
      · rw [Function.update_of_ne same']
        exact apart.disjoint inRange inRange' differs

/-- Values in new sequences may be added. -/
theorem add (apart : likeness.Apart before heaps own)
    (preserves : before.Preserves likeness.spans after [])
    (occupies : likeness.Occupies after values used)
    (fresh : ∀ id ∈ used, before.sequences.size ≤ id.index) :
    likeness.Apart after (heaps ++ [values]) (Function.update own heaps.length used) := by
  have outside {index : Nat} (within : index < heaps.length) :
      Function.update own heaps.length used index = own index :=
    Function.update_of_ne (Nat.ne_of_lt within) ..
  constructor
  · intro index values' found
    by_cases within : index < heaps.length
    · rw [List.getElem?_append_left within] at found
      rw [outside within]
      exact (apart.keep preserves).occupies found
    · rcases List.getElem?_eq_some_iff.mp found with ⟨inRange, _⟩
      have same : index = heaps.length := by
        rw [List.length_append, List.length_singleton] at inRange
        omega
      rcases same with rfl
      rcases (show values = values' by simpa using found) with rfl
      rw [Function.update_self]
      exact occupies
  · intro first second inRange inRange' differs
    rw [List.length_append, List.length_singleton] at inRange inRange'
    by_cases within : first < heaps.length
    · rw [outside within]
      by_cases within' : second < heaps.length
      · rw [outside within']
        exact apart.disjoint within within' differs
      · rcases (show second = heaps.length by omega) with rfl
        rw [Function.update_self]
        exact apart.disjoint_of_fresh within fresh
    · rcases (show first = heaps.length by omega) with rfl
      rw [Function.update_self, outside (by omega)]
      have within : second < heaps.length := by omega
      exact fun id here there => apart.disjoint_of_fresh within fresh there here

end Apart

end ValueLikeness

namespace Forest

/-- A forest as it is seen where positions count, or where they do not. -/
def seen (forest : Forest) (counts : Bool) : Forest :=
  if counts then forest else { forest with spans := #[] }

@[simp]
theorem seen_nodes (forest : Forest) (counts : Bool) :
    (forest.seen counts).nodes = forest.nodes := by
  cases counts <;> rfl

@[simp]
theorem seen_sequences (forest : Forest) (counts : Bool) :
    (forest.seen counts).sequences = forest.sequences := by
  cases counts <;> rfl

theorem spanOf_seen {forest : Forest} {counts : Bool} {id : NodeId} {node : Node} {span : Span}
    (found : forest.nodes[id.index]? = some node)
    (sees : forest.seenSpan counts node = some span) : (forest.seen counts).spanOf id = span := by
  cases counts with
  | true => exact spanOf_of_seenSpan found sees
  | false =>
      rcases Option.some.inj sees with rfl
      unfold spanOf
      cases ((forest.seen false).node id).span with
      | none => rfl
      | some given => simp [Forest.span, seen]

end Forest

namespace ValueLikeness

variable {likeness : ValueLikeness} {forests : Forest × Forest}

mutual

/-- Values that are alike read the same, as long as the reader goes down far enough. -/
theorem Alike.documentTo_eq
    (tokens : ∀ {token token' : Token}, likeness.token token token' → token = token') :
    {value value' : Value} → {used : List (SequenceId × SequenceId)} →
      likeness.Alike forests value value' used → ∀ {depth depth' : Nat},
        used.length ≤ depth → used.length ≤ depth' →
        (forests.1.seen likeness.spans).documentTo depth value =
          (forests.2.seen likeness.spans).documentTo depth' value'
  | _, _, _, .nothing, depth, depth', _, _ => by cases depth <;> cases depth' <;> rfl
  | _, _, _, .token same, depth, depth', _, _ => by
      rcases tokens same with rfl
      cases depth <;> cases depth' <;> rfl
  | .node id, .node id', _, .node nodes children, depth, depth', enough, enough' => by
      rcases Nat.exists_eq_add_of_le' (Nat.le_trans (Nat.succ_pos _) enough) with ⟨depth, rfl⟩
      rcases Nat.exists_eq_add_of_le' (Nat.le_trans (Nat.succ_pos _) enough') with ⟨depth', rfl⟩
      rcases nodes with ⟨found, found', label, variant, span, sees, sees'⟩
      have read : (forests.1.seen likeness.spans).node id = _ :=
        node_eq_of_found (by simpa using found)
      have read' : (forests.2.seen likeness.spans).node id' = _ :=
        node_eq_of_found (by simpa using found')
      have below := children.documentTo_eq tokens (Nat.le_of_succ_le_succ enough)
        (Nat.le_of_succ_le_succ enough')
      simp only [documentTo, Forest.label, Forest.children, read, read', label, variant, below,
        spanOf_seen found sees, spanOf_seen found' sees']
  | .sequence id, .sequence id', _, .sequence held, depth, depth', enough, enough' => by
      rcases Nat.exists_eq_add_of_le' (Nat.le_trans (Nat.succ_pos _) enough) with ⟨depth, rfl⟩
      rcases Nat.exists_eq_add_of_le' (Nat.le_trans (Nat.succ_pos _) enough') with ⟨depth', rfl⟩
      have below := held.documentTo_eq tokens (Nat.le_of_succ_le_succ enough)
        (Nat.le_of_succ_le_succ enough')
      simp only [documentTo, below]

/-- Sequences that hold values that are alike read the same. -/
theorem HeldAlike.documentTo_eq
    (tokens : ∀ {token token' : Token}, likeness.token token token' → token = token') :
    {id id' : SequenceId} → {used : List (SequenceId × SequenceId)} →
      likeness.HeldAlike forests id id' used → ∀ {depth depth' : Nat},
        used.length ≤ depth → used.length ≤ depth' →
        ((forests.1.seen likeness.spans).items id).map
            ((forests.1.seen likeness.spans).documentTo depth) =
          ((forests.2.seen likeness.spans).items id').map
            ((forests.2.seen likeness.spans).documentTo depth')
  | id, id', _, .held held held' alike, _, _, enough, enough' => by
      have read : (forests.1.seen likeness.spans).items id = _ :=
        items_eq_of_found (by simpa using held)
      have read' : (forests.2.seen likeness.spans).items id' = _ :=
        items_eq_of_found (by simpa using held')
      rw [read, read']
      exact alike.documentTo_eq tokens enough enough'

/-- Values that are alike one by one read the same. -/
theorem AllAlike.documentTo_eq
    (tokens : ∀ {token token' : Token}, likeness.token token token' → token = token') :
    {values values' : List Value} → {used : List (SequenceId × SequenceId)} →
      likeness.AllAlike forests values values' used → ∀ {depth depth' : Nat},
        used.length ≤ depth → used.length ≤ depth' →
        values.map ((forests.1.seen likeness.spans).documentTo depth) =
          values'.map ((forests.2.seen likeness.spans).documentTo depth')
  | _, _, _, .nil, _, _, _, _ => rfl
  | _, _, _, .cons alike rest, _, _, enough, enough' => by
      rw [List.length_append] at enough enough'
      rw [List.map_cons, List.map_cons,
        alike.documentTo_eq tokens (Nat.le_trans (Nat.le_add_right ..) enough)
          (Nat.le_trans (Nat.le_add_right ..) enough'),
        rest.documentTo_eq tokens (Nat.le_trans (Nat.le_add_left ..) enough)
          (Nat.le_trans (Nat.le_add_left ..) enough')]

end

/-- Values that are alike and lie in no sequence twice read the same. -/
theorem Alike.document_eq
    (tokens : ∀ {token token' : Token}, likeness.token token token' → token = token')
    {value value' : Value} {used : List (SequenceId × SequenceId)}
    (alike : likeness.Alike forests value value' used) (apart : used.Pairwise Separate) :
    (forests.1.seen likeness.spans).document value =
      (forests.2.seen likeness.spans).document value' := by
  rcases length_used_le apart alike.present with ⟨first, second⟩
  exact alike.documentTo_eq tokens (by simpa [depthBound] using first)
    (by simpa [depthBound] using second)

end ValueLikeness

end Lalr
