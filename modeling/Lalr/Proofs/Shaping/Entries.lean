import Lalr.Proofs.Shaping.Choosing

/-!
# Values on a stack

A tree whose children may be spliced has its sequence of children to itself: a reduction
takes it over and adds to it. All other values on a stack may share their parts with one
another, for handlers may give back what they have been given. So the stack owns the
sequences of the former, and the latter lie outside of all of them.
-/

namespace Lalr

namespace Forest

/-- A value on a stack that owns some sequences. If it may be spliced, it is a tree with a
sequence of its own. -/
inductive Entry (forest : Forest) (own : List SequenceId) :
    Bool → Value → Appearance → List SequenceId → Prop
  | shared {value : Value} {appearance : Appearance}
      (appears : forest.Appears own value appearance) : Entry forest own false value appearance []
  | owned {id : NodeId} {node : Node} {items : List Value} {label : String} {span : Span}
      {variant : Bool} {seen : List Appearance} (found : forest.nodes[id.index]? = some node)
      (looks : forest.NodeLooks node label span variant)
      (held : forest.sequences[node.children.index]? = some items)
      (appear : forest.AllAppear own items seen) :
      Entry forest own true (.node id) (.node label span variant seen) [node.children]

/-- A node that is added to the forest can be put on a stack that owns its sequence. -/
theorem entry_addNode {forest : Forest} {own : List SequenceId} {node : Node} {span : Span}
    {items : List Value} {seen : List Appearance}
    (held : forest.sequences[node.children.index]? = some items)
    (appear : forest.AllAppear own items seen) (covers : forest.seenSpan true node = some span) :
    (forest.addNode node).2.Entry own true (.node (forest.addNode node).1)
      (.node node.label span node.variant seen) [node.children] :=
  have preserves := Preserves.addNode forest node
  .owned (by simp [addNode]) ⟨rfl, covers, rfl⟩ (preserves.sequence (by simp) held)
    (appear.stay preserves)

/-- Values on a stack one by one, each with the sequences that belong to it. -/
inductive Entries (forest : Forest) (own : List SequenceId) :
    List Bool → List Value → List Appearance → List SequenceId → Prop
  | nil : Entries forest own [] [] [] []
  | cons {flag : Bool} {flags : List Bool} {value : Value} {values : List Value}
      {appearance : Appearance} {seen : List Appearance} {used usedRest : List SequenceId}
      (entry : Entry forest own flag value appearance used)
      (rest : Entries forest own flags values seen usedRest) :
      Entries forest own (flag :: flags) (value :: values) (appearance :: seen) (used ++ usedRest)

variable {forest before after : Forest} {own own' changed used ids : List SequenceId} {flag : Bool}
  {flags flags' : List Bool} {value : Value} {values : List Value} {appearance : Appearance}
  {seen seen' : List Appearance}

/-- A value of a stack stays as it is where sequences are changed that the stack owns, but not this
value. -/
theorem Entry.keep (entry : before.Entry own flag value appearance used)
    (preserves : before.Preserves true after changed) (inside : changed ⊆ own)
    (apart : used.Disjoint changed) (within : before.Within own own') :
    after.Entry own' flag value appearance used := by
  have preservesOwn : before.Preserves true after own :=
    preserves.narrow fun id member => .inl (inside member)
  cases entry with
  | shared appears => exact .shared (appears.keep preservesOwn within)
  | @owned id node items label span variant seen found looks held appear =>
      rcases preserves.node found with ⟨kept, last, labels, children⟩
      rcases preserves.seen found last with ⟨variants, spans⟩
      have still := preserves.sequence (List.disjoint_singleton.mp apart.symm) held
      rw [← children] at still ⊢
      exact .owned last ⟨labels.trans looks.label, spans _ looks.span,
        variants.trans looks.variant⟩ still (appear.keep preservesOwn within)

/-- A value on a stack looks the same where nothing is owned. -/
theorem Entry.appears (entry : forest.Entry own flag value appearance used) :
    forest.Appears [] value appearance := by
  have within : forest.Within own [] := by simp [Forest.Within]
  cases entry with
  | shared appears => exact appears.keep (.refl _ _) within
  | owned found looks held appear =>
      exact .node found looks (by simp) held (appear.keep (.refl _ _) within)

theorem Entries.keep (entries : before.Entries own flags values seen ids)
    (preserves : before.Preserves true after changed) (inside : changed ⊆ own)
    (apart : ids.Disjoint changed) (within : before.Within own own') :
    after.Entries own' flags values seen ids := by
  induction entries with
  | nil => exact .nil
  | cons entry _ ih =>
      rcases List.disjoint_append_left.mp apart with ⟨first, others⟩
      exact .cons (entry.keep preserves inside first within) (ih others)

theorem Entries.bound (entries : forest.Entries own flags values seen ids) : forest.Has ids := by
  induction entries with
  | nil => simp [Has]
  | cons entry _ ih =>
      refine List.forall_mem_append.mpr ⟨?_, ih⟩
      cases entry with
      | shared => simp
      | owned _ _ held => simpa using (Array.getElem?_eq_some_iff.mp held).1

theorem Entries.length_eq (entries : forest.Entries own flags values seen ids) :
    flags.length = values.length ∧ values.length = seen.length := by
  induction entries with
  | nil => exact ⟨rfl, rfl⟩
  | cons _ _ ih => exact ⟨congrArg (· + 1) ih.1, congrArg (· + 1) ih.2⟩

/-- Where nothing may be spliced, all values look as they do outside of what the stack owns. -/
theorem Entries.appear (entries : forest.Entries own flags values seen ids)
    (unspliced : ∀ flag ∈ flags, flag = false) : forest.AllAppear own values seen := by
  induction entries with
  | nil => exact .nil
  | cons entry _ ih =>
      rcases List.forall_mem_cons.mp unspliced with ⟨rfl, others⟩
      cases entry with
      | shared appears => exact .cons appears (ih others)

/-- The value at some place of a stack. -/
theorem Entries.get (entries : forest.Entries own flags values seen ids) :
    ∀ {index : Nat}, flags[index]? = some flag → values[index]? = some value →
      seen[index]? = some appearance →
        ∃ used, forest.Entry own flag value appearance used ∧ used ⊆ ids := by
  induction entries with
  | nil => intro index here; simp at here
  | cons entry _ ih =>
      intro index flagged here looks
      cases index with
      | zero =>
          simp only [List.getElem?_cons_zero, Option.some.injEq] at flagged here looks
          subst flagged here looks
          exact ⟨_, entry, List.subset_append_left ..⟩
      | succ index =>
          rcases ih flagged here looks with ⟨used, entry, inside⟩
          exact ⟨used, entry, List.Subset.trans inside (List.subset_append_right ..)⟩

/-- The first values of a stack and the ones behind them. -/
theorem Entries.split (seen : List Appearance) : ∀ {flags : List Bool} {values : List Value}
    {ids : List SequenceId}, flags.length = seen.length →
      forest.Entries own (flags ++ flags') values (seen ++ seen') ids →
        ∃ usedFront usedBack, ids = usedFront ++ usedBack ∧
          forest.Entries own flags (values.take seen.length) seen usedFront ∧
          forest.Entries own flags' (values.drop seen.length) seen' usedBack := by
  induction seen with
  | nil =>
      intro flags values ids lengths entries
      rcases (show flags = [] from List.length_eq_zero_iff.mp lengths) with rfl
      exact ⟨[], ids, rfl, .nil, entries⟩
  | cons appearance seen ih =>
      intro flags values ids lengths entries
      cases flags with
      | nil => cases lengths
      | cons flag flags =>
          cases entries with
          | @cons _ _ _ _ _ _ used usedRest entry rest =>
              rcases ih (Nat.succ.inj lengths) rest with ⟨usedFront, usedBack, rfl, front, back⟩
              exact ⟨used ++ usedFront, usedBack, by simp, .cons entry front, back⟩

theorem Entries.append {more : List Value} {usedBy : List SequenceId}
    (entries : forest.Entries own flags values seen ids)
    (rest : forest.Entries own flags' more seen' usedBy) :
    forest.Entries own (flags ++ flags') (values ++ more) (seen ++ seen') (ids ++ usedBy) := by
  induction entries with
  | nil => exact rest
  | cons entry _ ih =>
      rw [List.append_assoc]
      exact .cons entry ih

/-- The same values the other way round. -/
theorem Entries.reverse (entries : forest.Entries own flags values seen ids) :
    ∃ usedBy, usedBy.Perm ids ∧
      forest.Entries own flags.reverse values.reverse seen.reverse usedBy := by
  induction entries with
  | nil => exact ⟨[], .refl _, .nil⟩
  | @cons _ _ _ _ _ _ used _ entry _ ih =>
      rcases ih with ⟨usedBy, perm, reversed⟩
      have single := Entries.cons entry .nil
      simp only [List.reverse_cons]
      refine ⟨usedBy ++ (used ++ []), ?_, reversed.append single⟩
      simpa using (perm.append_right used).trans List.perm_append_comm

/-- Which of the sequences come first that a stack owns does not matter. -/
theorem Entries.subset (entries : forest.Entries own flags values seen ids)
    (subset : own' ⊆ own) :
    forest.Entries own' flags values seen ids :=
  entries.keep (.refl _ []) (List.nil_subset _) (List.disjoint_nil_right _) fun _ member =>
    .inl (subset member)

/-- A value that is not to be spliced may be shared from now on. -/
theorem Entry.release (entry : forest.Entry own flag value appearance used) {flag' : Bool}
    (weaker : flag' = true → flag = true) :
    ∃ kept released, used = kept ++ released ∧
      ∀ {own'}, own' ⊆ own → own'.Disjoint released →
        forest.Entry own' flag' value appearance kept := by
  have refl : forest.Preserves true forest own := .refl _ _
  cases flag' with
  | true =>
      rcases weaker rfl with rfl
      exact ⟨used, [], by simp, fun subset _ =>
        entry.keep (.refl _ []) (by simp) (by simp) fun id member => .inl (subset member)⟩
  | false =>
      cases entry with
      | shared appears =>
          exact ⟨[], [], rfl, fun subset _ =>
            .shared (appears.keep refl fun id member => .inl (subset member))⟩
      | owned found looks held appear =>
          exact ⟨[], _, rfl, fun subset apart => .shared (.node found looks
            (List.disjoint_singleton.mp apart) held
            (appear.keep refl fun id member => .inl (subset member)))⟩

theorem Entries.release (entries : forest.Entries own flags values seen ids) :
    ∀ {flags' : List Bool}, List.Forall₂
      (fun flag' flag => flag' = true → flag = true) flags' flags →
      ∃ kept released, ids.Perm (kept ++ released) ∧
        ∀ {own'}, own' ⊆ own → own'.Disjoint released →
          forest.Entries own' flags' values seen kept := by
  induction entries with
  | nil =>
      intro flags' weaker
      cases weaker
      exact ⟨[], [], .refl _, fun _ _ => .nil⟩
  | cons entry _ ih =>
      intro flags' weaker
      cases weaker with
      | cons first others =>
          rcases entry.release first with ⟨kept, released, rfl, release⟩
          rcases ih others with ⟨keptRest, releasedRest, perm, releaseRest⟩
          refine ⟨kept ++ keptRest, released ++ releasedRest, ?_, fun subset apart => ?_⟩
          · simp only [List.append_assoc]
            refine .append_left _ ((perm.append_left _).trans ?_)
            simpa using List.perm_append_comm.append_right releasedRest
          · rcases List.disjoint_append_right.mp apart with ⟨first, others⟩
            exact .cons (release subset first) (releaseRest subset others)

end Forest

namespace Shape

open Forest

variable {before after : Workspace} {own below ids : List SequenceId} {values : List Value}
  {seen : List Appearance}

/-- What is spliced finds trees with sequences of their own, where the values of a rule's symbols
say which of them may be. Induction on the symbols. -/
theorem splices_of_entries {forest : Forest} {keepAll : Bool} (symbols : List Symbol) :
    ∀ (past : List Value) (missing : Nat) (gaps : List Nat) {values : List Value}
      {seen : List Appearance} {ids : List SequenceId}, forest.Entries own
        (symbols.map isSpliced) values seen ids →
        Splices forest (past ++ values)
          (select keepAll past.length missing symbols gaps).1 ids := by
  induction symbols with
  | nil =>
      intro past missing gaps values seen ids entries
      cases entries
      exact .nil
  | cons symbol symbols ih =>
      intro past missing gaps values seen ids entries
      rw [List.map_cons] at entries
      generalize flagged : isSpliced symbol = flag at entries
      cases entries with
      | @cons _ _ value values _ _ used _ entry rest =>
          have later (missing : Nat) := ih (past ++ [value]) missing gaps.tail rest
          simp only [List.append_assoc, List.singleton_append, List.length_append,
            List.length_singleton] at later
          simp only [select]
          split
          next =>
            cases entry with
            | shared => exact .whole flagged (later _)
            | owned found looks held appear =>
                exact .spliced flagged (by simp) found held (later _)
          next out =>
            cases entry with
            | shared => exact later _
            | owned => simp [not_isFilteredOut_of_isSpliced flagged] at out

/-- The children that a rule chooses from the values of a stack look like what it chooses from what
these look like. They lie in a sequence that is new or has been among those of the values. -/
theorem choose_appear {rule : Rule} {placeholders : Bool} {shape : Shape}
    {given sequence : SequenceId} (shaped : ofRule rule placeholders = .ok shape)
    (held : before.forest.sequences[given.index]? = some values)
    (entries : before.forest.Entries (given :: (ids ++ below)) (rule.expansion.map isSpliced) values
      seen ids) (nodup : (given :: (ids ++ below)).Nodup) (has : before.forest.Has below)
    (yields : (shape.choose given).Yields before sequence after) :
    ∃ items, after.forest.sequences[sequence.index]? = some items ∧
      after.forest.AllAppear (sequence :: below) items
        (shape.chosen (.plain .nothing) Appearance.children seen) ∧
      sequence ∉ below ∧
      (sequence = given ∨ sequence ∈ ids ∨
        before.forest.sequences.size ≤ sequence.index) ∧
      before.forest.Preserves true after.forest ids := by
  rcases List.nodup_cons.mp nodup with ⟨outside, apart⟩
  rcases List.nodup_append'.mp apart with ⟨nodupIds, -, separate⟩
  have splices (kept : List KeptChild) (selects : shape.selection = some kept) :
      Splices before.forest values kept ids := by
    rcases ofRule_eq_ok shaped with ⟨-, -, ⟨selects', -⟩ | ⟨takesAll, -⟩⟩
    · rw [selects'] at selects
      rcases Option.some.inj selects with rfl
      exact splices_of_entries _ [] 0 _ entries
    · rw [takesAll] at selects
      cases selects
  rcases choose_items held splices nodupIds yields with ⟨chosen, member, preserves⟩
  have within : before.forest.Within (given :: (ids ++ below)) (sequence :: below) := by
    refine List.forall_mem_cons.mpr ⟨?_, fun id under => .inl (by simp [under])⟩
    rcases member with rfl | member | fresh
    · exact .inl (List.mem_cons_self ..)
    · exact .inl (by simp [member])
    · exact .inr fresh
  have preservesOwn : before.forest.Preserves true after.forest (given :: (ids ++ below)) :=
    preserves.narrow fun id member => .inl (by simp [member])
  rcases entries.length_eq with ⟨lengths, lengths'⟩
  rw [List.length_map] at lengths
  refine ⟨_, chosen, ?_, ?_, member, preserves⟩
  · refine allAppear_iff.mpr (chosen_related shaped (.plain rfl) lengths' lengths ?_)
    intro index symbol value appearance here found looks
    have flagged : (rule.expansion.map isSpliced)[index]? = some (isSpliced symbol) := by
      simp [here]
    rcases entries.get flagged found looks with ⟨used, entry, inside⟩
    generalize isSpliced symbol = flag at entry
    cases entry with
    | shared appears => exact appears.keep preservesOwn within
    | owned read _ held appear =>
        rw [if_pos rfl, innerItems_node read held]
        exact allAppear_iff.mp (appear.keep preservesOwn within)
  · intro under
    rcases member with rfl | member | fresh
    · exact outside (by simp [under])
    · exact separate member under
    · exact Nat.not_le_of_lt (has _ under) fresh

end Shape

end Lalr
