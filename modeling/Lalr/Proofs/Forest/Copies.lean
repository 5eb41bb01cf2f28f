import Mathlib.Data.List.Perm.Subperm
import Lalr.Forest.Copy
import Lalr.Forest.Equality
import Lalr.Proofs.Forest.Likeness

/-!
# Copies of values that are alike

A deep copy builds new nodes over new sequences. Where no sequence occurs twice in
some values, what has been copied before never stands for what is still to be copied,
so that copies of values that are alike are alike again, in sequences of their own. Two
values of one forest that are alike are equal, if the tokens that they hold are.
-/

namespace Lalr

open Forest

namespace CopyMap

/-- Whether the children of every node that has been copied have been copied as well. -/
def Sound (map : CopyMap) (forest : Forest) : Prop :=
  ∀ {id : NodeId} {copy : NodeId}, map.nodes.lookup id = some copy →
    id.index < forest.nodes.size ∧ (map.sequences.lookup (forest.node id).children).isSome

/-- Whether none of some sequences has been copied yet. -/
structure Ready (state : CopyMap × Forest) (ids : List SequenceId) : Prop where
  sound : state.1.Sound state.2
  unseen : ∀ id ∈ ids, state.1.sequences.lookup id = none

/-- What a copy of some sequences leaves behind: it has taken note of these only. -/
structure Noted (before after : CopyMap × Forest) (ids : List SequenceId) : Prop where
  sound : after.1.Sound after.2
  others : ∀ id ∉ ids, after.1.sequences.lookup id = before.1.sequences.lookup id

/-- The state of a copy after a sequence has been copied that holds some items. -/
def noteSequence (state : CopyMap × Forest) (id : SequenceId) (items : List Value) :
    CopyMap × Forest :=
  ({ state.1 with sequences := (id, (state.2.addSequence items).1) :: state.1.sequences },
    (state.2.addSequence items).2)

/-- The state of a copy after a node has been copied to another one. -/
def noteNode (state : CopyMap × Forest) (id : NodeId) (node : Node) : CopyMap × Forest :=
  ({ state.1 with nodes := (id, (state.2.addNode node).1) :: state.1.nodes },
    (state.2.addNode node).2)

variable {before between after : CopyMap × Forest} {ids more : List SequenceId}

theorem Ready.mono (ready : Ready before more) (within : ids ⊆ more) : Ready before ids :=
  ⟨ready.sound, fun id member => ready.unseen id (within member)⟩

/-- What is apart from the sequences that have been copied is still to be copied. -/
theorem Noted.ready (noted : Noted before after ids) (ready : Ready before more)
    (apart : ∀ id ∈ more, id ∉ ids) : Ready after more :=
  ⟨noted.sound, fun id member => (noted.others id (apart id member)).trans
    (ready.unseen id member)⟩

theorem Noted.trans (first : Noted before between ids) (second : Noted between after more) :
    Noted before after (ids ++ more) where
  sound := second.sound
  others id outside := by
    rw [List.mem_append, not_or] at outside
    rw [second.others id outside.2, first.others id outside.1]

/-- To note a sequence as copied. -/
theorem Noted.sequence (noted : Noted before after ids) (id : SequenceId) (items : List Value) :
    Noted before (noteSequence after id items) (id :: ids) where
  sound found := by
    rcases noted.sound found with ⟨inside, isSome⟩
    refine ⟨inside, ?_⟩
    rw [noteSequence, List.lookup_cons]
    split
    · rfl
    · exact isSome
  others other outside := by
    rw [List.mem_cons, not_or] at outside
    rw [noteSequence, List.lookup_cons]
    have differs : (other == id) = false := by simpa using outside.1
    rw [differs]
    exact noted.others other outside.2

/-- To note a node as copied whose children have been copied. -/
theorem Noted.node (noted : Noted before after ids) {id : NodeId} (node : Node)
    (inside : id.index < after.2.nodes.size)
    (children : (after.1.sequences.lookup (after.2.node id).children).isSome) :
    Noted before (noteNode after id node) ids where
  sound := by
    have kept {other : NodeId} (inside : other.index < after.2.nodes.size) :
        other.index < (noteNode after id node).2.nodes.size ∧
          (noteNode after id node).2.node other = after.2.node other := by
      constructor
      · simp only [noteNode, addNode, Array.size_push]
        omega
      · simp [noteNode, Forest.node, addNode, Array.getD_eq_getD_getElem?, Array.getElem?_push,
          Nat.ne_of_lt inside]
    intro other copied found
    rw [noteNode, List.lookup_cons] at found
    split at found
    next same =>
      rcases (show other = id by simpa using same) with rfl
      rw [(kept inside).2]
      exact ⟨(kept inside).1, children⟩
    next =>
      rcases noted.sound found with ⟨inside, isSome⟩
      rw [(kept inside).2]
      exact ⟨(kept inside).1, isSome⟩
  others := noted.others

end CopyMap

namespace Forest

open CopyMap (noteSequence noteNode)

variable {copyValue : Value → Copying Value} {state after : CopyMap × Forest}

theorem run_bind_eq {s α β : Type} {first : StateM s α} {rest : α → StateM s β}
    {before between : s} {answer : α} (ran : first.run before = (answer, between)) :
    (first >>= rest).run before = (rest answer).run between := by
  rw [StateT.run_bind, ran]
  rfl

theorem copySequence_run {id : SequenceId} {items : List Value}
    (unseen : state.1.sequences.lookup id = none)
    (copied : ((state.2.items id).mapM copyValue).run state = (items, after)) :
    (copySequence copyValue id).run state =
      ((after.2.addSequence items).1, noteSequence after id items) := by
  unfold copySequence
  refine (run_bind_eq (show (get : Copying _).run state = (state, state) from rfl)).trans ?_
  rw [unseen]
  refine (run_bind_eq (show (get : Copying _).run state = (state, state) from rfl)).trans ?_
  exact (run_bind_eq copied).trans rfl

theorem copyNode_run {id : NodeId} {children : SequenceId}
    (unseen : state.1.nodes.lookup id = none)
    (copied : (copySequence copyValue (state.2.node id).children).run state = (children, after)) :
    (copyNode copyValue id).run state =
      ((after.2.addNode { state.2.node id with children }).1,
        noteNode after id { state.2.node id with children }) := by
  unfold copyNode
  refine (run_bind_eq (show (get : Copying _).run state = (state, state) from rfl)).trans ?_
  rw [unseen]
  refine (run_bind_eq (show (get : Copying _).run state = (state, state) from rfl)).trans ?_
  exact (run_bind_eq copied).trans rfl

end Forest

namespace ValueLikeness

open CopyMap (Ready Noted noteSequence noteNode)

variable {likeness : ValueLikeness} {start : Forest × Forest}

/-- The two forests of two copies. -/
def forestsIn (state state' : CopyMap × Forest) : Forest × Forest := (state.2, state'.2)

/-- What copies of alike values in two forests leave behind: they lie in sequences of their own, and
nothing else has been changed. -/
structure Copied (likeness : ValueLikeness) (before before' after after' : CopyMap × Forest)
    (used usedBy : List (SequenceId × SequenceId)) : Prop where
  stays : likeness.Stays (forestsIn before before') (forestsIn after after') []
  apart : usedBy.Pairwise Separate
  fresh : ∀ pair ∈ usedBy, Fresh (forestsIn before before') pair
  spans : after.2.spans = before.2.spans ∧ after'.2.spans = before'.2.spans
  noted : Noted before after (used.map Prod.fst)
  noted' : Noted before' after' (used.map Prod.snd)

variable {before before' between between' after after' : CopyMap × Forest}
  {used usedBy more moreBy : List (SequenceId × SequenceId)}

theorem Copied.trans (first : likeness.Copied before before' between between' used usedBy)
    (second : likeness.Copied between between' after after' more moreBy)
    (present : ∀ pair ∈ usedBy, Present (forestsIn between between') pair) :
    likeness.Copied before before' after after' (used ++ more) (usedBy ++ moreBy) where
  stays := first.stays.trans second.stays
  apart := by
    refine List.pairwise_append.mpr ⟨first.apart, second.apart,
      fun pair member other fresh => ?_⟩
    have here := present pair member
    have later := second.fresh other fresh
    exact ⟨fun same => absurd here.1 (by simpa [same] using later.1),
      fun same => absurd here.2 (by simpa [same] using later.2)⟩
  fresh := List.forall_mem_append.mpr ⟨first.fresh, fun pair member =>
    ⟨Nat.le_trans first.stays.left.grows (second.fresh pair member).1,
      Nat.le_trans first.stays.right.grows (second.fresh pair member).2⟩⟩
  spans := ⟨second.spans.1.trans first.spans.1, second.spans.2.trans first.spans.2⟩
  noted := by
    rw [List.map_append]
    exact first.noted.trans second.noted
  noted' := by
    rw [List.map_append]
    exact first.noted'.trans second.noted'

/-- Copies of sequences that are alike are alike, if their items have been copied. -/
theorem Copied.sequence (copied : likeness.Copied before before' after after' used usedBy)
    (id id' : SequenceId) {items items' : List Value}
    (alike : likeness.AllAlike (forestsIn after after') items items' usedBy) :
    likeness.HeldAlike (forestsIn (noteSequence after id items) (noteSequence after' id' items'))
        (after.2.addSequence items).1 (after'.2.addSequence items').1 usedBy ∧
      likeness.Copied before before' (noteSequence after id items) (noteSequence after' id' items')
        ((id, id') :: used)
        (((after.2.addSequence items).1, (after'.2.addSequence items').1) :: usedBy) := by
  refine ⟨heldAlike_addSequence (forestsIn after after') alike, ?_⟩
  refine ⟨copied.stays.trans (.addSequence (forestsIn after after') items items'),
    List.pairwise_cons.mpr ⟨separate_addSequence alike.present items items', copied.apart⟩,
    List.forall_mem_cons.mpr ⟨⟨copied.stays.left.grows, copied.stays.right.grows⟩,
      copied.fresh⟩,
    copied.spans, copied.noted.sequence id items, copied.noted'.sequence id' items'⟩

/-- Copies of nodes are alike, if the copies of their children are. -/
theorem Copied.node (id id' : NodeId) (node node' : Node)
    (copied : likeness.Copied before before' after after' used
      ((node.children, node'.children) :: usedBy))
    (held : likeness.HeldAlike (forestsIn after after') node.children node'.children usedBy)
    (label : node.label = node'.label) (variant : node.variant = node'.variant)
    (span : ∃ span, after.2.seenSpan likeness.spans node = some span ∧
      after'.2.seenSpan likeness.spans node' = some span)
    (inside : id.index < after.2.nodes.size ∧ id'.index < after'.2.nodes.size)
    (noted : (after.1.sequences.lookup (after.2.node id).children).isSome)
    (noted' : (after'.1.sequences.lookup (after'.2.node id').children).isSome) :
    likeness.Alike (forestsIn (noteNode after id node) (noteNode after' id' node'))
        (.node (after.2.addNode node).1) (.node (after'.2.addNode node').1)
        ((node.children, node'.children) :: usedBy) ∧
      likeness.Copied before before' (noteNode after id node) (noteNode after' id' node') used
        ((node.children, node'.children) :: usedBy) :=
  ⟨alike_addNode (forestsIn after after') node node' held label variant span,
    copied.stays.trans (.addNode (forestsIn after after') node node'), copied.apart, copied.fresh,
    copied.spans, copied.noted.node node inside.1 noted, copied.noted'.node node' inside.2 noted'⟩

theorem items_eq_of_found {forest : Forest} {id : SequenceId} {items : List Value}
    (found : forest.sequences[id.index]? = some items) : forest.items id = items := by
  simp [Forest.items, found]

theorem node_eq_of_found {forest : Forest} {id : NodeId} {node : Node}
    (found : forest.nodes[id.index]? = some node) : forest.node id = node := by
  simp [Forest.node, Array.getD_eq_getD_getElem?, found]

/-- A copied node reads as the node does, where the same spans are. -/
theorem seenSpan_copied {forest forest' : Forest} (same : forest'.spans = forest.spans)
    (counts : Bool) (node : Node) (children : SequenceId) :
    forest'.seenSpan counts { node with children } = forest.seenSpan counts node := by
  simp [seenSpan, same]

mutual

/-- Copies of values that are alike are alike. The recursion is that of the copy, which goes down no
further than there are sequences; what is still to be copied has not been met before. -/
theorem Alike.copied : {value value' : Value} → {used : List (SequenceId × SequenceId)} →
    likeness.Alike start value value' used → ∀ {depth depth' : Nat}
      {before before' : CopyMap × Forest},
      used.length ≤ depth → used.length ≤ depth' → used.Pairwise Separate →
      likeness.Stays start (forestsIn before before') [] →
      Ready before (used.map Prod.fst) → Ready before' (used.map Prod.snd) →
        ∃ copy copy' after after' usedBy,
          (copyValueTo depth value).run before = (copy, after) ∧
          (copyValueTo depth' value').run before' = (copy', after') ∧
          likeness.Alike (forestsIn after after') copy copy' usedBy ∧
          likeness.Copied before before' after after' used usedBy
  | _, _, _, .nothing, depth, depth', before, before', _, _, _, _, ready, ready' => by
      refine ⟨.nothing, .nothing, before, before', [], ?_, ?_, .nothing, ?_⟩
      · cases depth <;> rfl
      · cases depth' <;> rfl
      · exact ⟨.refl _ _, .nil, by simp, ⟨rfl, rfl⟩, ⟨ready.sound, fun _ _ => rfl⟩,
          ⟨ready'.sound, fun _ _ => rfl⟩⟩
  | .token token, .token token', _, .token tokens, depth, depth', before, before', _, _,
    _, _, ready, ready' => by
      refine ⟨.token token, .token token', before, before', [], ?_, ?_, .token tokens, ?_⟩
      · cases depth <;> rfl
      · cases depth' <;> rfl
      · exact ⟨.refl _ _, .nil, by simp, ⟨rfl, rfl⟩, ⟨ready.sound, fun _ _ => rfl⟩,
          ⟨ready'.sound, fun _ _ => rfl⟩⟩
  | .node id, .node id', _, .node same children, depth, depth', before, before', enough,
    enough', apart, stays,
    ready, ready' => by
      rcases Nat.exists_eq_add_of_le' (Nat.le_trans (Nat.succ_pos _) enough) with ⟨depth, rfl⟩
      rcases Nat.exists_eq_add_of_le' (Nat.le_trans (Nat.succ_pos _) enough') with ⟨depth', rfl⟩
      rcases children.copied (Nat.le_of_succ_le_succ enough)
        (Nat.le_of_succ_le_succ enough') apart stays ready ready' with
        ⟨copy, copy', after, after', usedBy, ran, ran', held, copied, has, has'⟩
      rcases same.keep stays with ⟨kept, kept', kept_alike, below, below'⟩
      have read : before.2.node id = kept := node_eq_of_found kept_alike.found
      have read' : before'.2.node id' = kept' := node_eq_of_found kept_alike.found'
      have unseen : before.1.nodes.lookup id = none := by
        by_contra found
        rcases Option.ne_none_iff_exists'.mp found with ⟨copy, found⟩
        have seen := (ready.sound found).2
        rw [read, below, ready.unseen _ (by simp)] at seen
        cases seen
      have unseen' : before'.1.nodes.lookup id' = none := by
        by_contra found
        rcases Option.ne_none_iff_exists'.mp found with ⟨copy, found⟩
        have seen := (ready'.sound found).2
        rw [read', below', ready'.unseen _ (by simp)] at seen
        cases seen
      have node := copyNode_run unseen (by rw [read, below]; exact ran)
      have node' := copyNode_run unseen' (by rw [read', below']; exact ran')
      rcases kept_alike.span with ⟨span, seen, seen'⟩
      rcases kept_alike.keep copied.stays with ⟨last, last', last_alike, still, still'⟩
      have later : after.2.node id = last := node_eq_of_found last_alike.found
      have later' : after'.2.node id' = last' := node_eq_of_found last_alike.found'
      rcases Copied.node id id' { before.2.node id with children := copy }
          { before'.2.node id' with children := copy' } copied held
          (by rw [read, read']; exact kept_alike.label)
          (by rw [read, read']; exact kept_alike.variant)
          ⟨span, by rw [read]; exact (seenSpan_copied copied.spans.1 ..).trans seen,
            by rw [read']; exact (seenSpan_copied copied.spans.2 ..).trans seen'⟩
          ⟨(Array.getElem?_eq_some_iff.mp last_alike.found).1,
            (Array.getElem?_eq_some_iff.mp last_alike.found').1⟩
          (by rw [later, still, below]; exact has) (by rw [later', still', below']; exact has') with
        ⟨alike, copied⟩
      refine ⟨_, _, _, _, _, ?_, ?_, alike, copied⟩
      · rw [copyValueTo, StateT.run_map, node]
        rfl
      · rw [copyValueTo, StateT.run_map, node']
        rfl
  | .sequence id, .sequence id', _, .sequence held, depth, depth', before, before', enough,
      enough', apart, stays,
    ready, ready' => by
      rcases Nat.exists_eq_add_of_le' (Nat.le_trans (Nat.succ_pos _) enough) with ⟨depth, rfl⟩
      rcases Nat.exists_eq_add_of_le' (Nat.le_trans (Nat.succ_pos _) enough') with ⟨depth', rfl⟩
      rcases held.copied (Nat.le_of_succ_le_succ enough) (Nat.le_of_succ_le_succ enough') apart
        stays ready ready' with
        ⟨copy, copy', after, after', usedBy, ran, ran', held, copied, -, -⟩
      refine ⟨_, _, _, _, _, ?_, ?_, .sequence held, copied⟩
      · rw [copyValueTo, StateT.run_map, ran]
        rfl
      · rw [copyValueTo, StateT.run_map, ran']
        rfl

/-- Copies of sequences that hold values that are alike hold such values. -/
theorem HeldAlike.copied : {id id' : SequenceId} → {used : List (SequenceId × SequenceId)} →
    likeness.HeldAlike start id id' used → ∀ {depth depth' : Nat}
      {before before' : CopyMap × Forest},
      used.length ≤ depth → used.length ≤ depth' → ((id, id') :: used).Pairwise Separate →
      likeness.Stays start (forestsIn before before') [] →
      Ready before (((id, id') :: used).map Prod.fst) →
      Ready before' (((id, id') :: used).map Prod.snd) →
        ∃ copy copy' after after' usedBy,
          (copySequence (copyValueTo depth) id).run before = (copy, after) ∧
          (copySequence (copyValueTo depth') id').run before' = (copy', after') ∧
          likeness.HeldAlike (forestsIn after after') copy copy' usedBy ∧
          likeness.Copied before before' after after' ((id, id') :: used)
            ((copy, copy') :: usedBy) ∧
          (after.1.sequences.lookup id).isSome ∧ (after'.1.sequences.lookup id').isSome
  | id, id', used, .held held held' alike, depth, depth', before, before', enough, enough',
    apart, stays, ready,
    ready' => by
      rcases stays.sequence
          (show ∀ other ∈ [], Separate (id, id') other by simp) held held' with
        ⟨kept, kept'⟩
      have read : before.2.items id = _ := items_eq_of_found kept
      have read' : before'.2.items id' = _ := items_eq_of_found kept'
      rcases alike.copied enough enough' (List.pairwise_cons.mp apart).2 stays
          (ready.mono (List.subset_cons_self ..)) (ready'.mono (List.subset_cons_self ..)) with
        ⟨copies, copies', after, after', usedBy, ran, ran', alike, copied⟩
      rcases copied.sequence id id' alike with ⟨held, copied⟩
      refine ⟨_, _, _, _, _, copySequence_run (ready.unseen id (by simp))
        (by rw [read]; exact ran),
        copySequence_run (ready'.unseen id' (by simp)) (by rw [read']; exact ran'), held, copied,
        ?_, ?_⟩
      · simp [noteSequence]
      · simp [noteSequence]

/-- Copies of values that are alike one by one are alike. -/
theorem AllAlike.copied : {values values' : List Value} →
    {used : List (SequenceId × SequenceId)} →
    likeness.AllAlike start values values' used →
    ∀ {depth depth' : Nat} {before before' : CopyMap × Forest},
      used.length ≤ depth → used.length ≤ depth' → used.Pairwise Separate →
      likeness.Stays start (forestsIn before before') [] →
      Ready before (used.map Prod.fst) → Ready before' (used.map Prod.snd) →
        ∃ copies copies' after after' usedBy,
          (values.mapM (copyValueTo depth)).run before = (copies, after) ∧
          (values'.mapM (copyValueTo depth')).run before' = (copies', after') ∧
          likeness.AllAlike (forestsIn after after') copies copies' usedBy ∧
          likeness.Copied before before' after after' used usedBy
  | _, _, _, .nil, depth, depth', before, before', _, _, _, _, ready, ready' =>
      ⟨[], [], before, before', [], rfl, rfl, .nil, .refl _ _, .nil, by simp, ⟨rfl, rfl⟩,
        ⟨ready.sound, fun _ _ => rfl⟩, ⟨ready'.sound, fun _ _ => rfl⟩⟩
  | _, _, _, .cons alike rest, depth, depth', before, before', enough, enough', apart, stays,
    ready, ready' => by
      rw [List.length_append] at enough enough'
      have enoughFirst := Nat.le_trans (Nat.le_add_right ..) enough
      have enoughRest := Nat.le_trans (Nat.le_add_left ..) enough
      have enoughFirst' := Nat.le_trans (Nat.le_add_right ..) enough'
      have enoughRest' := Nat.le_trans (Nat.le_add_left ..) enough'
      rcases List.pairwise_append.mp apart with ⟨apartFirst, apartRest, between⟩
      rw [List.map_append] at ready ready'
      rcases alike.copied enoughFirst enoughFirst' apartFirst stays
        (ready.mono (List.subset_append_left ..)) (ready'.mono (List.subset_append_left ..)) with
        ⟨copy, copy', middle, middle', usedBy, ran, ran', alike, first⟩
      have left := first.noted.ready (ready.mono (List.subset_append_right ..)) (by
        intro id member inside
        rcases List.mem_map.mp member with ⟨other, last, rfl⟩
        rcases List.mem_map.mp inside with ⟨pair, here, same⟩
        exact (between pair here other last).1 same)
      have left' := first.noted'.ready (ready'.mono (List.subset_append_right ..)) (by
        intro id member inside
        rcases List.mem_map.mp member with ⟨other, last, rfl⟩
        rcases List.mem_map.mp inside with ⟨pair, here, same⟩
        exact (between pair here other last).2 same)
      rcases rest.copied enoughRest enoughRest' apartRest (stays.trans first.stays) left left' with
        ⟨copies, copies', after, after', moreBy, went, went', others, second⟩
      refine ⟨copy :: copies, copy' :: copies', after, after', usedBy ++ moreBy, ?_, ?_,
        .cons (alike.keep second.stays (by simp)) others, first.trans second alike.present⟩
      · rw [List.mapM_cons]
        exact (run_bind_eq ran).trans ((run_bind_eq went).trans rfl)
      · rw [List.mapM_cons]
        exact (run_bind_eq ran').trans ((run_bind_eq went').trans rfl)

end

/-- Sequences that are apart and all there are no more than there are sequences. -/
theorem length_le_of_present {ids : List SequenceId} {forest : Forest}
    (apart : ids.Pairwise (· ≠ ·))
    (present : ∀ id ∈ ids, id.index < forest.sequences.size) :
    ids.length ≤ forest.depthBound := by
  have distinct : (ids.map SequenceId.index).Nodup :=
    List.pairwise_map.mpr (apart.imp fun differ same => differ (congrArg SequenceId.mk same))
  have within : ids.map SequenceId.index ⊆ List.range forest.sequences.size := by
    intro index member
    rcases List.mem_map.mp member with ⟨id, here, rfl⟩
    exact List.mem_range.mpr (present id here)
  have bound := (List.subperm_of_subset distinct within).length_le
  rw [List.length_map, List.length_range] at bound
  unfold depthBound
  omega

/-- Pairs of sequences that are apart and all there are no more than either forest has sequences. -/
theorem length_used_le {forests : Forest × Forest} (apart : used.Pairwise Separate)
    (present : ∀ pair ∈ used, Present forests pair) :
    used.length ≤ forests.1.depthBound ∧ used.length ≤ forests.2.depthBound := by
  constructor
  · rw [← List.length_map Prod.fst]
    refine length_le_of_present (List.pairwise_map.mpr (apart.imp And.left)) fun id member => ?_
    rcases List.mem_map.mp member with ⟨pair, here, rfl⟩
    exact (present pair here).1
  · rw [← List.length_map Prod.snd]
    refine length_le_of_present (List.pairwise_map.mpr (apart.imp And.right)) fun id member => ?_
    rcases List.mem_map.mp member with ⟨pair, here, rfl⟩
    exact (present pair here).2

/-- Deep copies of values that are alike are alike. They lie in sequences of their own, and what was
there before stays as it was. -/
theorem AllAlike.deepCopies {forests : Forest × Forest} {values values' : List Value}
    (alike : likeness.AllAlike forests values values' used) (apart : used.Pairwise Separate) :
    ∃ usedBy, likeness.AllAlike
      ((forests.1.deepCopies values).2, (forests.2.deepCopies values').2)
        (forests.1.deepCopies values).1 (forests.2.deepCopies values').1 usedBy ∧
      usedBy.Pairwise Separate ∧ (∀ pair ∈ usedBy, Fresh forests pair) ∧
      likeness.Stays forests
        ((forests.1.deepCopies values).2, (forests.2.deepCopies values').2) [] := by
  rcases length_used_le apart alike.present with ⟨first, second⟩
  have ready (forest : Forest) (ids : List SequenceId) : Ready ({}, forest) ids :=
    ⟨nofun, fun _ _ => rfl⟩
  rcases alike.copied first second apart (.refl _ _) (ready forests.1 _) (ready forests.2 _) with
    ⟨copies, copies', after, after', usedBy, ran, ran', alike, copied⟩
  have left : forests.1.deepCopies values = (copies, after.2) := by
    simp only [Forest.deepCopies, ran]
  have right : forests.2.deepCopies values' = (copies', after'.2) := by
    simp only [Forest.deepCopies, ran']
  rw [left, right]
  exact ⟨usedBy, alike, copied.apart, copied.fresh, copied.stays⟩

end ValueLikeness

/-! ## Values that are alike are equal -/

namespace ValueLikeness

variable {likeness : ValueLikeness} {forest : Forest}

mutual

/-- Values that are alike are equal, as long as they are compared far enough down. -/
theorem Alike.sameTo
    (tokens : ∀ {token token' : Token}, likeness.token token token' →
      token.agrees token' = true) :
    {value value' : Value} → {used : List (SequenceId × SequenceId)} →
      likeness.Alike (forest, forest) value value' used →
        ∀ {depth : Nat}, used.length ≤ depth →
        forest.sameTo depth value value' = true
  | _, _, _, .nothing, depth, _ => by cases depth <;> rfl
  | .token token, .token token', _, .token alike, depth, _ => by
      have agree := tokens alike
      cases depth <;> exact agree
  | .node id, .node id', _, .node nodes children, depth, enough => by
      rcases Nat.exists_eq_add_of_le' (Nat.le_trans (Nat.succ_pos _) enough) with ⟨depth, rfl⟩
      have below := children.sameTo tokens (Nat.le_of_succ_le_succ enough)
      simp only [Forest.sameTo, Forest.label, Forest.children, node_eq_of_found nodes.found,
        node_eq_of_found nodes.found', nodes.label, below, beq_self_eq_true, Bool.and_self,
        Bool.or_true]
  | .sequence id, .sequence id', _, .sequence held, depth, enough => by
      rcases Nat.exists_eq_add_of_le' (Nat.le_trans (Nat.succ_pos _) enough) with ⟨depth, rfl⟩
      have below := held.sameTo tokens (Nat.le_of_succ_le_succ enough)
      simp only [Forest.sameTo, below, Bool.or_true]

/-- Sequences that hold values that are alike hold values that are equal. -/
theorem HeldAlike.sameTo
    (tokens : ∀ {token token' : Token}, likeness.token token token' →
      token.agrees token' = true) :
    {id id' : SequenceId} → {used : List (SequenceId × SequenceId)} →
      likeness.HeldAlike (forest, forest) id id' used →
        ∀ {depth : Nat}, used.length ≤ depth →
        Forest.sameItems (forest.sameTo depth) (forest.items id) (forest.items id') = true
  | id, id', _, .held held held' alike, depth, enough => by
      rw [items_eq_of_found held, items_eq_of_found held']
      exact alike.sameTo tokens enough

/-- Values that are alike one by one are equal one by one. -/
theorem AllAlike.sameTo
    (tokens : ∀ {token token' : Token}, likeness.token token token' →
      token.agrees token' = true) :
    {values values' : List Value} → {used : List (SequenceId × SequenceId)} →
      likeness.AllAlike (forest, forest) values values' used → ∀ {depth : Nat},
        used.length ≤ depth → Forest.sameItems (forest.sameTo depth) values values' = true
  | _, _, _, .nil, _, _ => rfl
  | _, _, _, .cons alike rest, depth, enough => by
      rw [List.length_append] at enough
      have first := alike.sameTo tokens (Nat.le_trans (Nat.le_add_right ..) enough)
      have others := rest.sameTo tokens (Nat.le_trans (Nat.le_add_left ..) enough)
      rw [Forest.sameItems, first, others, Bool.and_self]

end

/-- Values that are alike and lie in no sequence twice are equal. -/
theorem Alike.same_eq_true
    (tokens : ∀ {token token' : Token}, likeness.token token token' →
      token.agrees token' = true)
    {value value' : Value} {used : List (SequenceId × SequenceId)}
    (alike : likeness.Alike (forest, forest) value value' used) (apart : used.Pairwise Separate) :
    forest.same value value' = true :=
  alike.sameTo tokens (length_used_le apart alike.present).1

end ValueLikeness

end Lalr
