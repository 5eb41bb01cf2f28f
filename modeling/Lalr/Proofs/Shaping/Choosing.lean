import Lalr.Proofs.Forest.Appearances
import Lalr.Proofs.Shaping.Growth

/-!
# The children that a rule chooses

A shape chooses children in the same way whatever they are: placeholders, what is
kept, and in the place of what is spliced what lies in it. This file says so once for
all kinds of children, and shows that a reduction chooses in this way the values that
lie in a forest, although it takes over the sequences of what is spliced.
-/

namespace Lalr

namespace Shape

variable {α β : Type}

/-- What a child that is kept adds: what stands for it, or what lies in this. -/
def addition (inner : α → List α) (values : List α) (child : KeptChild) : List α :=
  match values[child.index]? with
  | none => []
  | some value => if child.spliced then inner value else [value]

/-- What stands for the children that are kept, with placeholders in front of them. -/
def pick (gap : α) (inner : α → List α) (values : List α) : List KeptChild → List α
  | [] => []
  | child :: rest =>
    List.replicate child.missing gap ++ addition inner values child ++ pick gap inner values rest

/-- The children that a shape chooses. -/
def chosen (shape : Shape) (gap : α) (inner : α → List α) (values : List α) : List α :=
  match shape.selection with
  | none => values
  | some kept => pick gap inner values kept ++ List.replicate shape.missingAfter gap

theorem addition_congr {inner inner' : α → List α} {values : List α} {child : KeptChild}
    (same : child.spliced = true → ∀ value, values[child.index]? = some value →
      inner value = inner' value) :
    addition inner values child = addition inner' values child := by
  unfold addition
  cases found : values[child.index]? with
  | none => rfl
  | some value =>
      cases spliced : child.spliced with
      | false => rfl
      | true => simp [same spliced value found]

theorem pick_congr {gap : α} {inner inner' : α → List α} {values : List α}
    {kept : List KeptChild}
    (same : ∀ child ∈ kept, child.spliced = true →
      ∀ value, values[child.index]? = some value →
      inner value = inner' value) :
    pick gap inner values kept = pick gap inner' values kept := by
  induction kept with
  | nil => rfl
  | cons child rest ih =>
      rcases List.forall_mem_cons.mp same with ⟨first, others⟩
      rw [pick, pick, ih others, addition_congr first]

/-! ## The plan of a rule -/

/-- A child that is kept stands for a symbol, and is spliced where the symbol is. -/
theorem symbol_of_mem_select {keepAll : Bool} {symbols : List Symbol} :
    ∀ {index missing : Nat} {gaps : List Nat} {child : KeptChild},
      child ∈ (select keepAll index missing symbols gaps).1 →
        index ≤ child.index ∧ ∃ symbol, symbols[child.index - index]? = some symbol ∧
          child.spliced = isSpliced symbol := by
  induction symbols with
  | nil => intro index missing gaps child member; cases member
  | cons symbol symbols ih =>
      intro index missing gaps child member
      have later (missing : Nat) (member : child ∈
          (select keepAll (index + 1) missing symbols gaps.tail).1) :
          index ≤ child.index ∧ ∃ found,
            (symbol :: symbols)[child.index - index]? = some found ∧
            child.spliced = isSpliced found := by
        rcases ih member with ⟨beyond, found, here, spliced⟩
        refine ⟨Nat.le_of_succ_le beyond, found, ?_, spliced⟩
        rw [show child.index - index = (child.index - (index + 1)) + 1 by omega]
        exact here
      simp only [select] at member
      split at member
      · rcases List.mem_cons.mp member with rfl | member
        · exact ⟨Nat.le_refl _, symbol, by simp, rfl⟩
        · exact later _ member
      · exact later _ member

theorem not_isFilteredOut_of_isSpliced {symbol : Symbol} (spliced : isSpliced symbol = true) :
    symbol.isFilteredOut = false := by
  cases symbol with
  | terminal => cases spliced
  | nonterminal => rfl

/-- A symbol that is spliced is kept. -/
theorem exists_mem_select {keepAll : Bool} {symbols : List Symbol} :
    ∀ {index missing offset : Nat} {gaps : List Nat} {symbol : Symbol},
      symbols[offset]? = some symbol → isSpliced symbol = true →
        ∃ child ∈ (select keepAll index missing symbols gaps).1,
          child.index = index + offset ∧ child.spliced = true := by
  induction symbols with
  | nil => intro index missing offset gaps symbol here; simp at here
  | cons first symbols ih =>
      intro index missing offset gaps symbol here spliced
      simp only [select]
      cases offset with
      | zero =>
          rcases (show first = symbol by simpa using here) with rfl
          rw [if_pos (by simp [not_isFilteredOut_of_isSpliced spliced])]
          exact ⟨_, List.mem_cons_self .., rfl, spliced⟩
      | succ offset =>
          have here : symbols[offset]? = some symbol := by simpa using here
          have shift : index + (offset + 1) = index + 1 + offset := by omega
          rw [shift]
          split
          · rcases ih here spliced with ⟨child, member, known⟩
            exact ⟨child, List.mem_cons_of_mem _ member, known⟩
          · exact ih here spliced

variable {rule : Rule} {placeholders : Bool} {shape : Shape}

/-- What a rule chooses is related child by child where what it chooses from is, position by
position. -/
theorem chosen_related {related : α → β → Prop} {gap : α} {gap' : β}
    {inner : α → List α} {inner' : β → List β} {values : List α} {values' : List β}
    (made : ofRule rule placeholders = .ok shape) (gaps : related gap gap')
    (lengths : values.length = values'.length) (length : rule.expansion.length = values.length)
    (each : ∀ {index : Nat} {symbol : Symbol} {value : α} {value' : β},
      rule.expansion[index]? = some symbol →
      values[index]? = some value → values'[index]? = some value' →
        if isSpliced symbol then List.Forall₂ related (inner value) (inner' value')
        else related value value') :
    List.Forall₂ related (shape.chosen gap inner values) (shape.chosen gap' inner' values') := by
  have replicates (count : Nat) :
      List.Forall₂ related (List.replicate count gap) (List.replicate count gap') := by
    induction count with
    | zero => exact .nil
    | succ count ih => exact .cons gaps ih
  have picks (kept : List KeptChild) (known : ∀ child ∈ kept, ∃ symbol,
      rule.expansion[child.index]? = some symbol ∧ child.spliced = isSpliced symbol) :
      List.Forall₂ related (pick gap inner values kept) (pick gap' inner' values' kept) := by
    induction kept with
    | nil => exact .nil
    | cons child rest ih =>
        rcases List.forall_mem_cons.mp known with ⟨⟨symbol, here, spliced⟩, others⟩
        refine List.rel_append (List.rel_append (replicates _) ?_) (ih others)
        rcases List.getElem?_eq_some_iff.mp here with ⟨bound, _⟩
        have found : values[child.index]? = some values[child.index] :=
          List.getElem?_eq_getElem (by omega)
        have found' : values'[child.index]? = some values'[child.index] :=
          List.getElem?_eq_getElem (by omega)
        have related := each here found found'
        unfold addition
        rw [found, found', spliced]
        dsimp only
        split at related
        next isSpliced => rw [if_pos isSpliced, if_pos isSpliced]; exact related
        next isSpliced => rw [if_neg isSpliced, if_neg isSpliced]; exact .cons related .nil
  unfold chosen
  rcases ofRule_eq_ok made with ⟨-, -, ⟨selects, -⟩ | ⟨takesAll, -, whole, unspliced⟩⟩
  · rw [selects]
    refine List.rel_append (picks _ fun child member => ?_) (replicates _)
    rcases symbol_of_mem_select member with ⟨-, symbol, here, spliced⟩
    exact ⟨symbol, here, spliced⟩
  · rw [takesAll]
    change List.Forall₂ related values values'
    refine List.forall₂_iff_get.mpr ⟨lengths, fun index bound bound' => ?_⟩
    have here : rule.expansion[index]? = some rule.expansion[index] :=
      List.getElem?_eq_getElem (by omega)
    have related := each here (List.getElem?_eq_getElem bound) (List.getElem?_eq_getElem bound')
    have alone : isSpliced rule.expansion[index] = false := by
      cases spliced : isSpliced rule.expansion[index] with
      | false => rfl
      | true =>
          rcases exists_mem_select here spliced with ⟨child, member, -, isSpliced⟩
          rw [List.any_eq_false] at unspliced
          exact absurd isSpliced (unspliced child member)
    rw [alone] at related
    exact related

/-! ## Choosing in a forest -/

/-- The values that take the place of a spliced value. -/
def innerItems (forest : Forest) : Value → List Value
  | .node id => forest.children id
  | _ => []

/-- The children that are kept find nodes where they are spliced, of which the children lie in some
sequences. -/
inductive Splices (forest : Forest) (values : List Value) :
    List KeptChild → List SequenceId → Prop
  | nil : Splices forest values [] []
  | whole {child : KeptChild} {rest : List KeptChild} {ids : List SequenceId}
      (spliced : child.spliced = false) (others : Splices forest values rest ids) :
      Splices forest values (child :: rest) ids
  | spliced {child : KeptChild} {rest : List KeptChild} {id : NodeId} {node : Node}
      {items : List Value} {ids : List SequenceId} (spliced : child.spliced = true)
      (here : values[child.index]? = some (.node id))
      (found : forest.nodes[id.index]? = some node)
      (held : forest.sequences[node.children.index]? = some items)
      (others : Splices forest values rest ids) :
      Splices forest values (child :: rest) (node.children :: ids)

section Forests

variable {before after : Workspace} {values : List Value} {kept : List KeptChild}
  {ids changed : List SequenceId} {collected sequence : SequenceId}

open Forest

theorem innerItems_node {forest : Forest} {id : NodeId} {node : Node} {items : List Value}
    (found : forest.nodes[id.index]? = some node)
    (held : forest.sequences[node.children.index]? = some items) :
    innerItems forest (.node id) = items := by
  simp [innerItems, Forest.children, Forest.node, Forest.items, found, held]

theorem Splices.bound {forest : Forest} (splices : Splices forest values kept ids) :
    ∀ id ∈ ids, id.index < forest.sequences.size := by
  induction splices with
  | nil => simp
  | whole _ _ ih => exact ih
  | spliced _ _ _ held _ ih =>
      exact List.forall_mem_cons.mpr ⟨(Array.getElem?_eq_some_iff.mp held).1, ih⟩

/-- What is spliced stays as it is where other sequences are changed. -/
theorem Splices.keep {forest later : Forest} (splices : Splices forest values kept ids)
    (preserves : forest.Preserves true later changed) (apart : ids.Disjoint changed) :
    Splices later values kept ids ∧
      ∀ child ∈ kept, child.spliced = true → ∀ value, values[child.index]? = some value →
        innerItems later value = innerItems forest value := by
  induction splices with
  | nil => exact ⟨.nil, by simp⟩
  | whole spliced _ ih =>
      rcases ih apart with ⟨others, same⟩
      refine ⟨.whole spliced others, List.forall_mem_cons.mpr ⟨fun isSpliced => ?_, same⟩⟩
      rw [spliced] at isSpliced
      cases isSpliced
  | spliced spliced here found held _ ih =>
      rcases List.disjoint_cons_left.mp apart with ⟨outside, apart⟩
      rcases ih apart with ⟨others, same⟩
      rcases preserves.node found with ⟨node, last, -, children⟩
      have still := preserves.sequence outside held
      rw [← children] at still
      refine ⟨?_, List.forall_mem_cons.mpr ⟨fun _ value there => ?_, same⟩⟩
      · rw [← children]
        exact .spliced spliced here last still others
      · rcases Option.some.inj (here.symm.trans there) with rfl
        rw [innerItems_node last still, innerItems_node found held]

theorem extend_items {items : List Value} {answer : Unit}
    (yields : Run.Yields (liftM (extend collected values)) before answer after)
    (held : before.forest.sequences[collected.index]? = some items) :
    after.forest.sequences[collected.index]? = some (items ++ values) ∧
      before.forest.Preserves true after.forest [collected] := by
  rcases extend_yields.mp yields with rfl
  rcases Array.getElem?_eq_some_iff.mp held with ⟨bound, same⟩
  exact ⟨by simp [Forest.setItems, Forest.items, bound, same], .setItems ..⟩

theorem leaveGap_items {items : List Value} {count : Nat} {answer : Unit}
    (yields : (leaveGap collected count).Yields before answer after)
    (held : before.forest.sequences[collected.index]? = some items) :
    after.forest.sequences[collected.index]? = some (items ++ List.replicate count .nothing) ∧
      before.forest.Preserves true after.forest [collected] := by
  unfold leaveGap at yields
  by_cases none : count = 0
  · rw [if_pos none] at yields
    rcases Run.yields_pure.mp yields with ⟨_, rfl⟩
    exact ⟨by simpa [none] using held, .refl _ _⟩
  · rw [if_neg none] at yields
    exact extend_items yields held

/-- A child that is kept is added to what has been collected, or what has been collected is empty
and the children of a spliced child take its place. -/
theorem collectChild_items {child : KeptChild} {rest : List KeptChild} {items : List Value}
    (splices : Splices before.forest values (child :: rest) ids)
    (apart : (collected :: ids).Nodup)
    (held : before.forest.sequences[collected.index]? = some items)
    (yields : (collectChild values collected child rest).Yields before sequence after) :
    ∃ (between : Workspace) (next : SequenceId) (added : List Value) (left : List SequenceId),
      (collect values next rest).Yields between sequence after ∧
        addition (innerItems before.forest) values child = added ∧
        between.forest.sequences[next.index]? = some (items ++ added) ∧
        Splices before.forest values rest left ∧ (next :: left).Sublist (collected :: ids) ∧
        before.forest.Preserves true between.forest [collected] := by
  unfold collectChild at yields
  cases splices with
  | whole spliced others =>
      rw [spliced] at yields
      simp only [Bool.false_eq_true, if_false] at yields
      split at yields
      next => exact absurd yields Run.yields_throw
      next value here =>
        rcases Run.yields_bind.mp yields with ⟨_, between, extended, yields⟩
        rcases extend_items extended held with ⟨added, preserves⟩
        exact ⟨between, collected, [value], ids, yields,
          by simp [addition, here, spliced], added, others, List.Sublist.refl _, preserves⟩
  | @spliced _ _ id node inner left spliced here found held' others =>
      rw [if_pos spliced] at yields
      simp only [Run.yields_bind, childrenOf_yields, Run.yields_look, here, Option.some.injEq]
        at yields
      rcases yields with ⟨_, _, ⟨_, same, rfl, rfl⟩, _, _, ⟨rfl, rfl⟩, yields⟩
      rcases Value.node.inj same with rfl
      have children : (before.forest.node id).children = node.children := by
        simp [Forest.node, found]
      have same : before.forest.items node.children = inner := by simp [Forest.items, held']
      have picked : addition (innerItems before.forest) values child = inner := by
        simp [addition, here, spliced, innerItems_node found held']
      simp only [children, same] at yields
      split at yields
      next isEmpty =>
        have nothing : items = [] := by
          simpa [Forest.items, held] using isEmpty
        exact ⟨before, node.children, inner, left, yields, picked, by simpa [nothing] using held',
          others, List.sublist_cons_self .., .refl _ _⟩
      next =>
        rcases Run.yields_bind.mp yields with ⟨_, between, extended, yields⟩
        rcases extend_items extended held with ⟨added, preserves⟩
        exact ⟨between, collected, inner, left, yields, picked, added, others,
          (List.sublist_cons_self ..).cons_cons _, preserves⟩

/-- What is collected is what is picked, in a sequence that was at hand. Induction on what is kept,
of which no sequence is taken twice. -/
theorem collect_items (kept : List KeptChild) :
    ∀ {before : Workspace} {ids : List SequenceId} {collected : SequenceId} {items : List Value},
      Splices before.forest values kept ids → (collected :: ids).Nodup →
      before.forest.sequences[collected.index]? = some items →
      (collect values collected kept).Yields before sequence after →
        after.forest.sequences[sequence.index]? =
            some (items ++ pick .nothing (innerItems before.forest) values kept) ∧
          sequence ∈ collected :: ids ∧
          before.forest.Preserves true after.forest (collected :: ids) := by
  induction kept with
  | nil =>
      intro before ids collected items _ _ held yields
      rcases Run.yields_pure.mp yields with ⟨rfl, rfl⟩
      exact ⟨by simpa [pick] using held, List.mem_cons_self .., .refl _ _⟩
  | cons child rest ih =>
      intro before ids collected items splices apart held yields
      rw [collect_cons] at yields
      rcases Run.yields_bind.mp yields with ⟨_, gapped, gap, yields⟩
      rcases leaveGap_items gap held with ⟨held, gapKept⟩
      have outside := (List.nodup_cons.mp apart).1
      rcases splices.keep gapKept (List.disjoint_singleton.mpr outside) with ⟨splices, same⟩
      rcases collectChild_items splices apart held yields with
        ⟨between, next, added, left, yields, rfl, held, others, sublist, kept⟩
      have outside : collected ∉ left := fun member => outside (sublist.tail.subset member)
      rcases others.keep kept (List.disjoint_singleton.mpr outside) with ⟨others, same'⟩
      rcases ih others (apart.sublist sublist) held yields with ⟨held, member, restKept⟩
      have first : addition (innerItems gapped.forest) values child =
          addition (innerItems before.forest) values child :=
        addition_congr (same child (List.mem_cons_self ..))
      have later : pick .nothing (innerItems between.forest) values rest =
          pick .nothing (innerItems before.forest) values rest :=
        pick_congr fun child member spliced value here =>
          (same' child member spliced value here).trans
            (same child (List.mem_cons_of_mem _ member) spliced value here)
      refine ⟨?_, sublist.subset member, ?_⟩
      · rw [held, first, later, pick, List.append_assoc, List.append_assoc, List.append_assoc]
      · have changed : before.forest.Preserves true between.forest (collected :: ids) :=
          (gapKept.trans kept).narrow fun id member => .inl (by simp_all)
        exact changed.trans (restKept.narrow fun id member => .inl (sublist.subset member))

/-- The children that the shape of a rule chooses lie in a sequence that has been given, that is
new, or that belongs to a child that is spliced, and no other sequence is changed. -/
theorem choose_items {shape : Shape} {given : SequenceId}
    (held : before.forest.sequences[given.index]? = some values)
    (splices : ∀ kept, shape.selection = some kept → Splices before.forest values kept ids)
    (nodup : ids.Nodup) (yields : (shape.choose given).Yields before sequence after) :
    after.forest.sequences[sequence.index]? =
        some (shape.chosen .nothing (innerItems before.forest) values) ∧
      (sequence = given ∨ sequence ∈ ids ∨
        before.forest.sequences.size ≤ sequence.index) ∧
      before.forest.Preserves true after.forest ids := by
  cases selects : shape.selection with
  | none =>
      rw [choose, selects] at yields
      rcases Run.yields_pure.mp yields with ⟨rfl, rfl⟩
      exact ⟨by rw [held, chosen, selects], .inl rfl, .refl _ _⟩
  | some kept =>
      rw [choose_eq selects] at yields
      simp only [Run.yields_bind, Run.yields_look, Run.yields_plant, Run.yields_pure] at yields
      rcases yields with
        ⟨_, _, ⟨rfl, rfl⟩, _, _, ⟨rfl, rfl⟩, collected, between, yields, _,
          _, gap, rfl, rfl⟩
      have planted : before.forest.Preserves true (before.forest.addSequence []).2 [] :=
        .addSequence ..
      rcases (splices kept selects).keep planted (List.disjoint_nil_right ids) with
        ⟨splices', same⟩
      have fresh : (before.forest.addSequence []).1 ∉ ids := fun member =>
        Nat.lt_irrefl _ ((splices kept selects).bound _ member)
      have items : before.forest.items given = values := by simp [Forest.items, held]
      rw [items] at yields
      rcases collect_items kept splices' (List.nodup_cons.mpr ⟨fresh, nodup⟩)
        (held_addSequence ..) yields with
        ⟨held, member, preserves⟩
      rcases leaveGap_items gap held with ⟨held, gapKept⟩
      have within : ∀ id ∈ (before.forest.addSequence []).1 :: ids,
          id ∈ ids ∨ before.forest.sequences.size ≤ id.index :=
        List.forall_mem_cons.mpr ⟨.inr (Nat.le_refl _), fun _ => .inl⟩
      refine ⟨?_, .inr (within _ member), ?_⟩
      · rw [held, pick_congr same, chosen, selects, List.nil_append]
      · have first : before.forest.Preserves true (before.forest.addSequence []).2
            ((before.forest.addSequence []).1 :: ids) := planted.narrow (by simp)
        have both := (first.trans preserves).trans
          (gapKept.narrow fun id only => .inl (by rwa [List.mem_singleton.mp only]))
        exact both.narrow within

/-- What is collected has been found where it was looked for: there is a tree wherever something is
spliced. -/
theorem collect_nodes (kept : List KeptChild) :
    ∀ {before : Workspace} {collected : SequenceId},
      (collect values collected kept).Yields before sequence after →
        ∀ child ∈ kept, child.spliced = true →
          ∃ id, values[child.index]? = some (.node id) := by
  induction kept with
  | nil => simp
  | cons child rest ih =>
      intro before collected yields
      rw [collect_cons] at yields
      rcases Run.yields_bind.mp yields with ⟨_, gapped, _, yields⟩
      unfold collectChild at yields
      rw [List.forall_mem_cons]
      split at yields
      next spliced =>
        simp only [Run.yields_bind, childrenOf_yields, Run.yields_look] at yields
        rcases yields with ⟨_, _, ⟨id, here, _⟩, _, _, _, yields⟩
        refine ⟨fun _ => ⟨id, here⟩, ?_⟩
        split at yields
        · exact ih yields
        · rcases Run.yields_bind.mp yields with ⟨_, _, _, yields⟩
          exact ih yields
      next unspliced =>
        refine ⟨fun spliced => absurd spliced unspliced, ?_⟩
        split at yields
        · exact absurd yields Run.yields_throw
        · rcases Run.yields_bind.mp yields with ⟨_, _, _, yields⟩
          exact ih yields

/-- A rule finds a tree wherever it splices one. -/
theorem choose_nodes {rule : Rule} {placeholders : Bool} {shape : Shape} {given : SequenceId}
    (shaped : ofRule rule placeholders = .ok shape)
    (held : before.forest.sequences[given.index]? = some values)
    (yields : (shape.choose given).Yields before sequence after) {index : Nat} {symbol : Symbol}
    (here : rule.expansion[index]? = some symbol) (spliced : isSpliced symbol = true) :
    ∃ id, values[index]? = some (.node id) := by
  rcases ofRule_eq_ok shaped with ⟨-, -, ⟨selects, -⟩ | ⟨-, -, -, unspliced⟩⟩
  · rw [choose_eq selects] at yields
    simp only [Run.yields_bind, Run.yields_look, Run.yields_plant] at yields
    rcases yields with ⟨_, _, ⟨rfl, rfl⟩, _, _, ⟨rfl, rfl⟩, _, _, yields, _⟩
    rcases exists_mem_select here spliced with ⟨child, member, place, isSpliced⟩
    rcases collect_nodes _ yields child member isSpliced with ⟨id, found⟩
    rw [place, Nat.zero_add] at found
    exact ⟨id, by simpa [Forest.items, held] using found⟩
  · rcases exists_mem_select here spliced with ⟨child, member, -, isSpliced⟩
    rw [List.any_eq_false] at unspliced
    exact absurd isSpliced (unspliced child member)

end Forests

end Shape

end Lalr
