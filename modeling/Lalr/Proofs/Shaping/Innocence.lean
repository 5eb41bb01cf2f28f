import Lalr.Proofs.Blame
import Lalr.Proofs.Forest.Descent
import Lalr.Proofs.Grammar.Rules
import Lalr.Proofs.Pairs
import Lalr.Proofs.Shaping.Choosing
import Lalr.Proofs.Shaping.Reductions
import Lalr.Shaping.Reduction

/-!
# Reductions that never blame the input

What a parser builds can go wrong, but then it is not the input that is at fault. With a
transformer this is so as long as none of its handlers blames the input. Without a transformer
nothing goes wrong at all, as long as the values that a rule splices are trees.
-/

namespace Lalr

variable {α : Type}

/-- Whether no handler of a transformer blames the input. -/
structure Transformer.Unstuck (transformer : Transformer) : Prop where
  handlers : ∀ entry ∈ transformer.handlers, ∀ values, (entry.2.call values).Unstuck
  fallback : ∀ fallback ∈ transformer.fallback, ∀ values, (fallback values).Unstuck

namespace Transformer.Unstuck

variable {transformer : Transformer}

theorem handlerFor? (unstuck : transformer.Unstuck) {name : String} {handler : Handler}
    (known : transformer.handlerFor? name = some handler) (values : List Value) :
    (handler.call values).Unstuck :=
  unstuck.handlers _ (mem_of_assoc? known) values

theorem rebuild (unstuck : transformer.Unstuck) (label : String) (children : SequenceId)
    (span : Option SpanId) : (transformer.rebuild label children span).Unstuck := by
  unfold Transformer.rebuild
  split
  next fallback known => exact unstuck.fallback fallback known _
  next => exact .bind (.plant _) fun _ => .pure _

end Transformer.Unstuck

theorem Handler.apply_unstuck (handler : Handler)
    (unstuck : ∀ values, (handler.call values).Unstuck) (label : String) (children : SequenceId)
    (span : Option SpanId) :
    (handler.apply label children span).Unstuck :=
  .bind (.work _) fun _ => unstuck _

namespace Shape

theorem childrenOf_unstuck (value : Option Value) : (childrenOf value).Unstuck := by
  unfold childrenOf
  split
  · exact .look _
  · exact .throw rfl
  · exact .throw rfl

theorem collectChild_unstuck {values : List Value} {rest : List KeptChild}
    (further : ∀ collected, (collect values collected rest).Unstuck) (child : KeptChild)
    (collected : SequenceId) : Run.Unstuck (do
      if child.spliced then
        let spliced ← childrenOf values[child.index]?
        let (found, added) ←
          Work.look fun forest => (forest.items collected, forest.items spliced)
        if found.isEmpty then collect values spliced rest
        else
          extend collected added
          collect values collected rest
      else
        match values[child.index]? with
        | none => throw (.fault .outOfRange)
        | some value =>
          extend collected [value]
          collect values collected rest) := by
  refine .ite (.bind (childrenOf_unstuck _) fun spliced => .bind (.look _) fun found => ?_) ?_
  · exact .ite (further _) (.bind (.work _) fun _ => further _)
  · split
    · exact .throw rfl
    · exact .bind (.work _) fun _ => further _

theorem collect_unstuck (values : List Value) (kept : List KeptChild) :
    ∀ collected, (collect values collected kept).Unstuck := by
  induction kept with
  | nil => exact fun _ => .pure _
  | cons child rest ih =>
      intro collected
      have taken := collectChild_unstuck ih child collected
      exact .ite taken (.bind (.work _) fun _ => taken)

theorem choose_unstuck (shape : Shape) (values : SequenceId) : (shape.choose values).Unstuck := by
  unfold choose
  split
  · exact .pure _
  · refine .bind (.look _) fun items => .bind (.plant _) fun sequence =>
      .bind (collect_unstuck _ _ _) fun collected => ?_
    exact .ite (.pure _) (.bind (.work _) fun _ => .pure _)

end Shape

namespace Growth

variable {growth : Growth}

/-- Whether no handler of the transformer, if there is one, blames the input. -/
def Unstuck (growth : Growth) : Prop := ∀ transformer ∈ growth.transformer, transformer.Unstuck

theorem builder_unstuck (unstuck : growth.Unstuck) {label : String}
    {build : SequenceId → Run Value} (made : growth.builder label = .ok build)
    (children : SequenceId) : (build children).Unstuck := by
  unfold builder at made
  split at made
  next =>
    split at made
    next => cases made
    next =>
      cases made
      exact .bind (.plant _) fun _ => .pure _
  next transformer known =>
    have calm := unstuck transformer known
    split at made
    next =>
      cases made
      exact calm.rebuild _ _ _
    next handler found =>
      have calls := calm.handlerFor? found
      split at made
      next => cases made
      next => cases made
      next =>
        cases made
        refine Handler.apply_unstuck _ (fun values => ?_) _ _ _
        exact calls values
      next =>
        cases made
        exact Handler.apply_unstuck handler calls _ _ _

theorem locating_unstuck (growth : Growth) (given : SequenceId) (result : Value) : Run.Unstuck (do
    match growth.propagation, result with
    | .off, _ => return result
    | propagation, .node id =>
      Work.tend fun forest => forest.locate propagation id (forest.items given)
      return result
    | _, _ => return result) := by
  split
  · exact .pure _
  · exact .bind (.tend _) fun _ => .pure _
  · exact .pure _

theorem reduce_unstuck {shape : Shape} {build : SequenceId → Run Value}
    (builds : ∀ children, (build children).Unstuck) (values : List Value) :
    (growth.reduce shape build values).Unstuck := by
  refine .bind (.plant _) fun given => .bind (shape.choose_unstuck _) fun children =>
    .bind (.look _) fun chosen => ?_
  have located := growth.locating_unstuck given
  dsimp only
  split
  · exact .bind (.pure _) located
  · exact .bind (builds _) located

end Growth

namespace Reductions

variable {growth : Growth} {rules : List Rule} {kinds : List String} {reductions : Reductions}

/-- Whether nothing that is done on a reduction or on a shift blames the input. -/
structure Unstuck (reductions : Reductions) : Prop where
  reduce : ∀ rule values, (reductions.reduce rule values).Unstuck
  shift : ∀ token, (reductions.shift token).Unstuck

theorem ofShapes_unstuck (unstuck : growth.Unstuck) {shapes : List (Rule × Shape)} :
    ∀ {made made' : List (Rule × (List Value → Run Value))},
      ofShapes growth shapes made = .ok made' →
      (∀ entry ∈ made, ∀ values, (entry.2 values).Unstuck) →
        ∀ entry ∈ made', ∀ values, (entry.2 values).Unstuck := by
  induction shapes with
  | nil =>
      intro made made' went each entry member
      cases went
      exact each entry (List.mem_reverse.mp member)
  | cons first rest ih =>
      rcases first with ⟨rule, shape⟩
      intro made made' went each
      rcases bind_eq_ok.mp went with ⟨build, built, went⟩
      dsimp only at went
      split at went
      · cases went
      · refine ih went ?_
        rw [List.forall_mem_cons]
        exact ⟨Growth.reduce_unstuck (Growth.builder_unstuck unstuck built), each⟩

/-- What is done on reductions and shifts blames no input if no handler does. -/
theorem unstuck_of_make (unstuck : growth.Unstuck)
    (made : make growth rules kinds = .ok reductions) :
    reductions.Unstuck := by
  rcases bind_eq_ok.mp made with ⟨shapes, _, made⟩
  rcases bind_eq_ok.mp made with ⟨reduced, shaped, made⟩
  cases made
  have each := ofShapes_unstuck unstuck shaped (fun _ member => absurd member List.not_mem_nil)
  refine ⟨fun rule values => ?_, fun token => ?_⟩
  · unfold reduce
    split
    next reduction known =>
      rcases Option.map_eq_some_iff.mp known with ⟨entry, listed, rfl⟩
      exact each entry (List.mem_of_find?_eq_some listed) values
    next => exact .ite (.bind (.plant _) fun _ => .pure _) (.throw rfl)
  · unfold shift
    split
    next callback known =>
      dsimp only at known
      split at known
      next => cases known
      next transformer here =>
        rcases List.mem_filterMap.mp (mem_of_assoc? known) with ⟨kind, _, found⟩
        rcases Option.map_eq_some_iff.mp found with ⟨handler, handles, same⟩
        cases same
        exact (unstuck transformer here).handlerFor? handles _
    next => exact .pure _

end Reductions

/-! ## Reductions that succeed -/

namespace Shape

variable {values : List Value}

theorem exists_leaveGap (collected : SequenceId) (count : Nat) (before : Workspace) :
    ∃ after, (leaveGap collected count).Yields before () after := by
  unfold leaveGap
  split
  · exact ⟨_, Run.yields_pure.mpr ⟨rfl, rfl⟩⟩
  · exact ⟨_, extend_yields.mpr rfl⟩

/-- Children are collected if each of them is there, and those that are spliced are trees. Induction
on the children that are kept. -/
theorem exists_collect {kept : List KeptChild}
    (there : ∀ child ∈ kept, ∃ value, values[child.index]? = some value ∧
      (child.spliced = true → value.isNode = true)) :
    ∀ (collected : SequenceId) (before : Workspace),
      ∃ sequence after, (collect values collected kept).Yields before sequence after := by
  induction kept with
  | nil => exact fun collected before => ⟨_, _, Run.yields_pure.mpr ⟨rfl, rfl⟩⟩
  | cons child rest ih =>
      intro collected before
      rcases List.forall_mem_cons.mp there with ⟨⟨value, found, tree⟩, others⟩
      rcases exists_leaveGap collected child.missing before with ⟨between, gap⟩
      have goes : ∃ sequence after,
          (collectChild values collected child rest).Yields between sequence after := by
        unfold collectChild
        rw [found]
        by_cases spliced : child.spliced = true
        · rw [if_pos spliced]
          rcases Value.exists_of_isNode (tree spliced) with ⟨id, rfl⟩
          simp only [Run.yields_bind, childrenOf_yields, Run.yields_look]
          by_cases fresh : (between.forest.items collected).isEmpty = true
          · rcases ih others (between.forest.node id).children between with
              ⟨sequence, after, goes⟩
            exact ⟨sequence, after, _, _, ⟨id, rfl, rfl, rfl⟩, _, _,
              ⟨rfl, rfl⟩, by rwa [if_pos fresh]⟩
          · rcases ih others collected _ with ⟨sequence, after, goes⟩
            refine ⟨sequence, after, _, _, ⟨id, rfl, rfl, rfl⟩, _, _, ⟨rfl, rfl⟩, ?_⟩
            rw [if_neg fresh]
            exact Run.yields_bind.mpr ⟨(), _, extend_yields.mpr rfl, goes⟩
        · rw [if_neg spliced]
          rcases ih others collected _ with ⟨sequence, after, goes⟩
          exact ⟨sequence, after, Run.yields_bind.mpr ⟨(), _, extend_yields.mpr rfl, goes⟩⟩
      rcases goes with ⟨sequence, after, goes⟩
      rw [collect_cons]
      exact ⟨sequence, after, Run.yields_bind.mpr ⟨(), between, gap, goes⟩⟩

/-- A shape chooses among the values of its rule if those that it splices are trees. -/
theorem exists_choose {rule : Rule} {placeholders : Bool} {shape : Shape} {given : SequenceId}
    {before : Workspace} (made : ofRule rule placeholders = .ok shape)
    (trees : List.Forall₂ (fun symbol value => isSpliced symbol = true → value.isNode = true)
      rule.expansion (before.forest.items given)) :
    ∃ sequence after, (shape.choose given).Yields before sequence after := by
  rcases ofRule_eq_ok made with ⟨-, -, ⟨selects, -⟩ | ⟨all, -⟩⟩
  · have there : ∀ child ∈ (select rule.options.keepAllTokens 0 0 rule.expansion
        (gaps (marks rule placeholders))).1, ∃ value,
        (before.forest.items given)[child.index]? = some value ∧
          (child.spliced = true → value.isNode = true) := by
      intro child member
      rcases symbol_of_mem_select member with ⟨-, symbol, here, spliced⟩
      rw [Nat.sub_zero] at here
      rcases List.getElem?_eq_some_iff.mp here with ⟨inside, same⟩
      rcases List.forall₂_iff_get.mp trees with ⟨length, each⟩
      have tree := each child.index inside (length ▸ inside)
      rw [List.get_eq_getElem, same] at tree
      refine ⟨_, List.getElem?_eq_getElem (length ▸ inside), ?_⟩
      rw [spliced]
      exact tree
    rw [choose_eq selects]
    simp only [Run.yields_bind, Run.yields_look, Run.yields_plant, Run.yields_pure]
    rcases exists_collect there (before.forest.addSequence []).1
      { before with forest := (before.forest.addSequence []).2 } with
        ⟨collected, between, collects⟩
    rcases exists_leaveGap collected shape.missingAfter between with ⟨after, gap⟩
    exact ⟨collected, after, _, _, ⟨rfl, rfl⟩, _, _, ⟨rfl, rfl⟩, collected, between,
      collects, (), after, gap, rfl, rfl⟩
  · unfold choose
    rw [all]
    exact ⟨_, _, Run.yields_pure.mpr ⟨rfl, rfl⟩⟩

end Shape

/-- Whether a rule is replaced by its child where it has only one. -/
def Rule.Unwraps (rule : Rule) : Prop := rule.options.expandSingle = true ∧ rule.hasByname = false

namespace Growth

variable {growth : Growth}

theorem exists_place (growth : Growth) (given : SequenceId) (result : Value) (before : Workspace) :
    ∃ after, (growth.place given result).Yields before result after := by
  unfold place
  split
  · exact ⟨_, Run.yields_pure.mpr ⟨rfl, rfl⟩⟩
  · exact ⟨_, Run.yields_bind.mpr ⟨(), _, Run.yields_tend.mpr rfl,
      Run.yields_pure.mpr ⟨rfl, rfl⟩⟩⟩
  · exact ⟨_, Run.yields_pure.mpr ⟨rfl, rfl⟩⟩

/-- A rule makes a tree of some children, or is replaced by the only one. -/
theorem exists_wrap {label : String} {build : SequenceId → Run Value}
    (plain : growth.transformer = none) (built : growth.builder label = .ok build) (unwraps : Bool)
    (children : SequenceId) (chosen : List Value) (before : Workspace) :
    ∃ value after, (wrap unwraps build children chosen).Yields before value after ∧
      (value.isNode = true ∨ unwraps = true) := by
  unfold wrap
  split
  · exact ⟨_, _, Run.yields_pure.mpr ⟨rfl, rfl⟩, .inr rfl⟩
  · rw [builder_eq plain built]
    exact ⟨_, _, Run.yields_bind.mpr ⟨_, _, Run.yields_plant.mpr ⟨rfl, rfl⟩,
      Run.yields_pure.mpr ⟨rfl, rfl⟩⟩, .inl rfl⟩

/-- Values are reduced if those that are spliced are trees. What comes out is a tree, unless the
rule may be replaced by its only child. -/
theorem exists_reduce {rule : Rule} {shape : Shape} {build : SequenceId → Run Value}
    {values : List Value} (plain : growth.transformer = none)
    (built : growth.builder rule.label = .ok build)
    (made : Shape.ofRule rule growth.placeholders = .ok shape)
    (trees : List.Forall₂ (fun symbol value => Shape.isSpliced symbol = true →
      value.isNode = true)
      rule.expansion values) (before : Workspace) :
    ∃ value after, (growth.reduce shape build values).Yields before value after ∧
      (value.isNode = true ∨ rule.Unwraps) := by
  have given : (before.forest.addSequence values).2.items (before.forest.addSequence values).1 =
      values := by
    simp [Forest.addSequence, Forest.items]
  rcases @Shape.exists_choose rule growth.placeholders shape (before.forest.addSequence values).1
    { before with forest := (before.forest.addSequence values).2 } made
    (by rw [given]; exact trees) with ⟨children, between, chooses⟩
  rcases exists_wrap plain built shape.unwraps children (between.forest.items children) between with
    ⟨value, wrapped, wraps, tree⟩
  rcases growth.exists_place (before.forest.addSequence values).1 value wrapped with
    ⟨after, places⟩
  refine ⟨value, after, ?_, tree.imp_right fun unwraps => ?_⟩
  · rw [reduce_eq]
    simp only [Run.yields_bind, Run.yields_plant, Run.yields_look]
    exact ⟨_, _, ⟨rfl, rfl⟩, children, between, chooses, _, _, ⟨rfl, rfl⟩, value,
      wrapped, wraps, places⟩
  · rw [(Shape.ofRule_eq_ok made).2.1] at unwraps
    simpa [Rule.Unwraps] using unwraps

end Growth

namespace Reductions

/-- By a rule that is the same as one of its own a parser reduces values if each of its rules that
is the same splices trees only. What comes out is a tree, unless one of these rules may be replaced
by its only child. -/
theorem exists_reduce {growth : Growth} {rules : List Rule} {reductions : Reductions}
    {rule known : Rule} {values : List Value} (plain : growth.transformer = none)
    (entries : List.Forall₂ (fun rule entry => entry.1 = rule ∧ IsFor growth rule entry.2) rules
      reductions.rules) (listed : known ∈ rules) (same : known.same rule = true)
    (trees : ∀ own ∈ rules, own.same rule = true →
      List.Forall₂ (fun symbol value => Shape.isSpliced symbol = true → value.isNode = true)
        own.expansion values) (before : Workspace) :
    ∃ value after, (reductions.reduce rule values).Yields before value after ∧
      (value.isNode = true ∨ ∃ own ∈ rules, own.same rule = true ∧ own.Unwraps) := by
  unfold reduce
  cases found : reductions.find? rule with
  | none =>
      rcases exists_of_mem_left entries listed with ⟨entry, member, rfl, _⟩
      have missing := List.find?_eq_none.mp (Option.map_eq_none_iff.mp found) entry member
      exact absurd same missing
  | some reduction =>
      rcases find?_eq_some entries found with ⟨own, first, shape, build, made, built, rfl⟩
      have member := List.mem_of_find?_eq_some first
      have alike : own.same rule = true := by simpa using List.find?_some first
      rcases Growth.exists_reduce plain built made (trees own member alike) before with
        ⟨value, after, yields, tree⟩
      exact ⟨value, after, yields, tree.imp_right fun unwraps =>
        ⟨own, member, alike, unwraps⟩⟩

end Reductions

end Lalr
