import Mathlib.Data.List.Nodup
import Lalr.Shaping.Reduction
import Lalr.Proofs.Runs
import Lalr.Proofs.Shaping.Shapes

/-!
# Growing trees

A reduction builds its tree in the forest, and where it can it takes over the
sequence of children of a spliced tree. This file shows that what comes out shows
the shaped tree, that no sequence ends up in two places, and that nothing else in
the forest changes.
-/

namespace Lalr

open Forest

namespace Shape

variable {before after : Workspace} {values : List Value} {collected sequence : SequenceId}
  {trees done : List Tree} {used usedBy : List SequenceId}

theorem extend_yields {answer : Unit} :
    Run.Yields (liftM (extend collected values)) before answer after ↔
      { before with
        forest := before.forest.setItems collected (before.forest.items collected ++ values) } =
          after := by
  constructor
  · intro run
    cases run
    rfl
  · rintro rfl
    rfl

/-- Adding values at the end of a sequence adds their trees and changes nothing else. -/
theorem extend_shows {answer : Unit}
    (yields : Run.Yields (liftM (extend collected values)) before answer after)
    (holds : before.forest.Holds collected done usedBy)
    (shown : before.forest.ShowsAll values trees used) (outside : collected ∉ usedBy ++ used) :
    after.forest.Holds collected (done ++ trees) (usedBy ++ used) ∧
      before.forest.Keeps after.forest [collected] := by
  rcases extend_yields.mp yields with rfl
  exact ⟨holds.setItems shown outside, .setItems ..⟩

/-- Puts placeholders at the end of a sequence, if there are any. -/
def leaveGap (collected : SequenceId) (count : Nat) : Run Unit := do
  unless count = 0 do extend collected (List.replicate count .nothing)

theorem leaveGap_shows {count : Nat} {answer : Unit}
    (yields : (leaveGap collected count).Yields before answer after)
    (holds : before.forest.Holds collected done usedBy) (outside : collected ∉ usedBy) :
    after.forest.Holds collected (done ++ List.replicate count .nothing) usedBy ∧
      before.forest.Keeps after.forest [collected] := by
  unfold leaveGap at yields
  by_cases none : count = 0
  · subst none
    rcases Run.yields_pure.mp yields with ⟨_, rfl⟩
    exact ⟨by simpa using holds, .refl _ _⟩
  · rw [if_neg none] at yields
    simpa using extend_shows yields holds (.nothings count) (by simpa using outside)

/-- What is done about a child that is kept, after the placeholders in front of it. -/
def collectChild (values : List Value) (collected : SequenceId) (child : KeptChild)
    (rest : List KeptChild) : Run SequenceId := do
  if child.spliced then
    let spliced ← childrenOf values[child.index]?
    let (found, added) ←
      Work.look fun forest => (forest.items collected, forest.items spliced)
    if found.isEmpty then collect values spliced rest
    else
      extend collected added
      collect values collected rest
  else
    match values[child.index]? with
    | none => throw (.fault .outOfRange)
    | some value =>
      extend collected [value]
      collect values collected rest

theorem collect_cons (values : List Value) (collected : SequenceId) (child : KeptChild)
    (rest : List KeptChild) :
    collect values collected (child :: rest) =
      leaveGap collected child.missing >>= fun _ => collectChild values collected child rest := by
  simp only [collect, leaveGap]
  split <;> rfl

theorem childrenOf_yields {value : Option Value} :
    (childrenOf value).Yields before sequence after ↔
      ∃ id, value = some (.node id) ∧ (before.forest.node id).children = sequence ∧
        before = after := by
  unfold childrenOf
  cases value with
  | none => simp
  | some value => cases value <;> simp

/-- A sequence of a later forest holds some trees in sequences that were available, and nothing but
available sequences has been changed. -/
structure Collects (before after : Forest) (sequence : SequenceId) (trees : List Tree)
    (available : List SequenceId) : Prop where
  holds : ∃ used, after.Holds sequence trees used ∧ (sequence :: used).Nodup ∧
    sequence :: used ⊆ available
  keeps : before.Keeps after available

theorem Collects.mono {before after : Forest} {sequence : SequenceId} {trees : List Tree}
    {available more : List SequenceId} (collects : Collects before after sequence trees available)
    (subset : available ⊆ more) : Collects before after sequence trees more := by
  rcases collects with ⟨⟨used, holds, nodup, inside⟩, keeps⟩
  exact ⟨⟨used, holds, nodup, List.Subset.trans inside subset⟩, keeps.mono subset⟩

theorem Collects.trans {before between after : Forest} {sequence : SequenceId} {trees : List Tree}
    {available : List SequenceId} (keeps : before.Keeps between available)
    (collects : Collects between after sequence trees available) :
    Collects before after sequence trees available :=
  ⟨collects.holds, keeps.trans collects.keeps⟩

/-- A child that is kept is added to what has been collected, or what has been collected is empty
and the children of a spliced child take its place. -/
theorem collectChild_step {child : KeptChild} {rest : List KeptChild} {value : Value} {tree : Tree}
    (found : values[child.index]? = some value)
    (holds : before.forest.Holds collected done usedBy)
    (shown : before.forest.Shows value tree used)
    (apart : (collected :: (usedBy ++ used)).Nodup)
    (yields : (collectChild values collected child rest).Yields before sequence after) :
    ∃ (between : Workspace) (next : SequenceId),
      (collect values next rest).Yields between sequence after ∧
        Collects before.forest between.forest next
          (done ++ if child.spliced then tree.children else [tree])
          (collected :: (usedBy ++ used)) := by
  have outside : collected ∉ usedBy ++ used := (List.nodup_cons.mp apart).1
  have changes : [collected] ⊆ collected :: (usedBy ++ used) := by simp
  unfold collectChild at yields
  by_cases spliced : child.spliced = true
  · rw [if_pos spliced] at yields
    simp only [Run.yields_bind, childrenOf_yields, Run.yields_look, found, Option.some.injEq]
      at yields
    rcases yields with ⟨_, _, ⟨id, rfl, rfl, rfl⟩, _, _, ⟨rfl, rfl⟩, yields⟩
    cases shown with
    | @node _ node items trees used read held shown =>
        have children : (before.forest.node id).children = node.children := by
          simp [Forest.node, read]
        have inner : before.forest.Holds node.children trees used := ⟨items, held, shown⟩
        have own : (node.children :: used).Sublist
            (collected :: (usedBy ++ node.children :: used)) :=
          (List.sublist_append_right usedBy _).trans (List.sublist_cons_self ..)
        have both : (usedBy ++ used).Sublist (usedBy ++ node.children :: used) :=
          (List.sublist_cons_self ..).append_left usedBy
        rw [if_pos spliced, Tree.children]
        simp only [children] at yields
        split at yields
        · rename_i isEmpty
          have nothing : done = [] := by
            have length := holds.items_shown.length_eq
            simpa [List.isEmpty_iff.mp isEmpty] using length.symm
          exact ⟨_, _, yields,
            ⟨used, by simpa [nothing] using inner, apart.sublist own, own.subset⟩,
            .refl _ _⟩
        · simp only [Run.yields_bind] at yields
          rcases yields with ⟨_, between, extended, yields⟩
          rcases extend_shows extended holds inner.items_shown
              fun member => outside (both.subset member) with
            ⟨holds, keeps⟩
          exact ⟨between, collected, yields,
            ⟨_, holds, apart.sublist (both.cons_cons _), (both.cons_cons _).subset⟩,
            keeps.mono changes⟩
  · rw [if_neg spliced, found] at yields
    simp only [Run.yields_bind] at yields
    rcases yields with ⟨_, between, extended, yields⟩
    rcases extend_shows extended holds (.singleton shown) outside with ⟨holds, keeps⟩
    rw [if_neg spliced]
    exact ⟨between, collected, yields, ⟨_, holds, apart, List.Subset.refl _⟩,
      keeps.mono changes⟩

/-- Collecting goes along the symbols of a rule: what it collects, with the placeholders behind it,
fills the gaps between their trees. -/
theorem collect_shows {keepAll : Bool} {symbols : List Symbol} :
    ∀ {index missing : Nat} {gaps : List Nat} {past rest : List Value} {trees done : List Tree}
      {collected : SequenceId} {usedBy used : List SequenceId} {before : Workspace},
      past.length = index → symbols.length = trees.length →
      before.forest.Holds collected done usedBy → before.forest.ShowsAll rest trees used →
      (collected :: (usedBy ++ used)).Nodup →
      (collect (past ++ rest) collected
        (select keepAll index missing symbols gaps).1).Yields before sequence after →
        ∃ all, Collects before.forest after.forest sequence all
          (collected :: (usedBy ++ used)) ∧
          all ++ List.replicate (select keepAll index missing symbols gaps).2 .nothing =
            done ++ List.replicate missing .nothing ++
              fill keepAll gaps (symbols.zip trees) := by
  induction symbols with
  | nil =>
      intro index missing gaps past rest trees done collected usedBy used before _ _ holds _ apart
        yields
      rcases Run.yields_pure.mp yields with ⟨rfl, rfl⟩
      have own : (collected :: usedBy).Sublist (collected :: (usedBy ++ used)) :=
        (List.sublist_append_left usedBy used).cons_cons _
      refine ⟨done, ⟨⟨usedBy, holds, apart.sublist own, own.subset⟩, .refl _ _⟩, ?_⟩
      simp [select, fill]
  | cons symbol symbols ih =>
      intro index missing gaps past rest trees done collected usedBy used before length lengths
        holds shown apart yields
      cases shown with
      | nil => simp at lengths
      | @cons value rest tree trees usedHead usedRest head shown =>
          simp only [select] at yields ⊢
          split
          · rename_i isKept
            rw [if_pos isKept] at yields
            simp only [collect_cons, Run.yields_bind] at yields
            rcases yields with ⟨_, gapped, gap, yields⟩
            have parted : (collected :: (usedBy ++ usedHead) ++ usedRest).Nodup := by
              simpa using apart
            rcases List.nodup_append'.mp parted with ⟨front, back, separate⟩
            have changes : [collected] ⊆ collected :: (usedBy ++ usedHead) := by simp
            have outside := (List.nodup_cons.mp front).1
            rcases leaveGap_shows gap holds fun member =>
              outside (List.mem_append_left _ member) with
              ⟨holds, keptGap⟩
            have head := head.keep keptGap
              (List.disjoint_singleton.mpr fun member => outside (List.mem_append_right _ member))
            have found : (past ++ value :: rest)[index]? = some value := by simp [← length]
            rcases collectChild_step found holds head front yields with
              ⟨between, next, yields, ⟨usedNext, holds, nodup, inside⟩, keptNext⟩
            have keeps := (keptGap.mono changes).trans keptNext
            have shown := shown.keep keeps fun _ later earlier => separate earlier later
            have rest' : (next :: (usedNext ++ usedRest)).Nodup :=
              List.nodup_append'.mpr ⟨nodup, back, fun _ member => separate (inside member)⟩
            rw [show past ++ value :: rest = (past ++ [value]) ++ rest by simp] at yields
            rcases ih (by simp [length]) (by simpa using lengths) holds shown rest' yields with
              ⟨all, collects, filled⟩
            have part : collected :: (usedBy ++ usedHead) ⊆
                collected :: (usedBy ++ (usedHead ++ usedRest)) := by
              simpa using List.subset_append_left (collected :: (usedBy ++ usedHead)) usedRest
            have within : next :: (usedNext ++ usedRest) ⊆
                collected :: (usedBy ++ (usedHead ++ usedRest)) := by
              intro id member
              rcases List.mem_append.mp (show id ∈ (next :: usedNext) ++ usedRest from member)
                with member | member
              · exact part (inside member)
              · simp [member]
            refine ⟨all, .trans (keeps.mono part) (collects.mono within), ?_⟩
            have isIn : (symbol.isFilteredOut && !keepAll) = false := by
              cases keepAll <;> simp_all
            rw [filled, List.replicate_add]
            simp only [List.zip_cons_cons, fill, kept, isIn, Bool.false_eq_true, if_false,
              List.replicate_zero, List.append_assoc, List.nil_append]
          · rename_i notKept
            rw [if_neg notKept] at yields
            have own : (collected :: (usedBy ++ usedRest)).Sublist
                (collected :: (usedBy ++ (usedHead ++ usedRest))) :=
              ((List.sublist_append_right usedHead usedRest).append_left usedBy).cons_cons _
            have next : (past ++ value :: rest) = (past ++ [value]) ++ rest := by simp
            rw [next] at yields
            rcases ih (by simp [length]) (by simpa using lengths)
                holds shown (apart.sublist own) yields with
              ⟨all, collects, filled⟩
            have isOut : keepAll = false ∧ symbol.isFilteredOut = true := by simpa using notKept
            refine ⟨all, collects.mono own.subset, ?_⟩
            rw [filled, List.replicate_add]
            simp only [List.zip_cons_cons, fill, kept, isOut, Bool.not_false, Bool.and_self,
              if_true, List.append_nil, List.append_assoc]

theorem choose_eq {shape : Shape} {kept : List KeptChild} {given : SequenceId}
    (selects : shape.selection = some kept) :
    shape.choose given =
      (Work.look fun forest => forest.items given) >>= fun items =>
        (Work.plant fun forest => forest.addSequence []) >>= fun fresh =>
          collect items fresh kept >>= fun collected =>
            leaveGap collected shape.missingAfter >>= fun _ => pure collected := by
  simp only [choose, selects, leaveGap]
  congr 1
  funext items
  congr 1
  funext fresh
  congr 1
  funext collected
  split <;> rfl

/-- What a sequence that has been chosen holds, after a sequence with some values was given. -/
structure Chosen (before after : Forest) (sequence : SequenceId) (trees : List Tree)
    (available : List SequenceId) : Prop where
  holds : ∃ used, after.Holds sequence trees used ∧ (sequence :: used).Nodup ∧
    ∀ id ∈ sequence :: used, id ∈ available ∨ before.sequences.size ≤ id.index
  keeps : before.Keeps after available

/-- The children that the shape of a rule chooses are those that the walk along the rule finds. -/
theorem choose_shows {rule : Rule} {placeholders : Bool} {shape : Shape} {given : SequenceId}
    (made : ofRule rule placeholders = .ok shape) (holds : before.forest.Holds given trees used)
    (apart : (given :: used).Nodup) (length : rule.expansion.length = trees.length)
    (yields : (shape.choose given).Yields before sequence after) :
    Chosen before.forest after.forest sequence
      (walk rule.options.keepAllTokens (marks rule placeholders) (rule.expansion.zip trees))
      (given :: used) := by
  rcases ofRule_eq_ok made with
    ⟨accounted, -, ⟨selects, missing⟩ | ⟨takesAll, unmarked, whole, unspliced⟩⟩
  · rw [choose_eq selects] at yields
    simp only [Run.yields_bind, Run.yields_look, Run.yields_plant, Run.yields_pure] at yields
    rcases yields with
      ⟨_, _, ⟨rfl, rfl⟩, _, planted, ⟨rfl, rfl⟩, collected, between, yields, _,
        _, gap, rfl, rfl⟩
    have planted := Keeps.addSequence before.forest []
    have fresh : (before.forest.addSequence []).2.Holds (before.forest.addSequence []).1 [] [] :=
      ⟨[], held_addSequence .., .nil⟩
    have shown := holds.items_shown.keep planted (List.disjoint_nil_right used)
    have separate : ((before.forest.addSequence []).1 :: ([] ++ used)).Nodup :=
      List.nodup_cons.mpr ⟨holds.items_shown.addSequence_notMem [],
        (List.nodup_cons.mp apart).2⟩
    rcases collect_shows (show [].length = 0 from rfl) length fresh shown separate yields with
      ⟨all, ⟨⟨usedAll, holds, nodup, inside⟩, keeps⟩, filled⟩
    rcases leaveGap_shows gap holds (List.nodup_cons.mp nodup).1 with ⟨holds, keepsGap⟩
    have walked : all ++ List.replicate shape.missingAfter .nothing =
        walk rule.options.keepAllTokens (marks rule placeholders) (rule.expansion.zip trees) := by
      rw [missing, filled, fill_gaps (by simpa [length] using accounted)]
      simp
    rw [← walked]
    refine ⟨⟨usedAll, holds, nodup, fun id member => ?_⟩, ?_⟩
    · rcases List.mem_cons.mp (inside member) with rfl | member
      · exact .inr (Nat.le_refl _)
      · exact .inl (List.mem_cons_of_mem _ member)
    · have first : [] ⊆ (before.forest.addSequence []).1 :: used := List.nil_subset _
      have last : [collected] ⊆ (before.forest.addSequence []).1 :: used := by
        simpa using inside (List.mem_cons_self ..)
      have all := ((planted.mono first).trans keeps).trans (keepsGap.mono last)
      exact (all.forget (Nat.le_refl _)).mono (List.subset_cons_self given used)
  · rw [choose, takesAll] at yields
    rcases Run.yields_pure.mp yields with ⟨rfl, rfl⟩
    rw [unmarked, walk_of_select _ length whole unspliced]
    exact ⟨⟨used, holds, apart, fun _ member => .inl member⟩, .refl _ _⟩

end Shape

namespace Forest.Keeps

theorem setSpan (forest : Forest) (id : SpanId) (span : Span) :
    forest.Keeps (forest.setSpan id span) [] where
  node found := ⟨_, found, rfl, rfl⟩
  sequence _ held := held
  grows := Nat.le_refl _

theorem openSpan (forest : Forest) (id : NodeId) : forest.Keeps (forest.openSpan id).2 [] := by
  unfold Forest.openSpan
  split
  · exact .refl _ _
  · refine ⟨fun {index node} found => ?_, fun _ held => held, Nat.le_refl _⟩
    rcases Array.getElem?_eq_some_iff.mp found with ⟨bound, _⟩
    by_cases same : id.index = index
    · subst same
      refine ⟨{ forest.node id with span := some ⟨forest.spans.size⟩ }, ?_, ?_⟩
      · simp [setNode, addSpan, Forest.node, bound]
      · simp [Forest.node, found]
    · exact ⟨node, by simpa [setNode, addSpan, same] using found, rfl, rfl⟩

/-- The position of a tree is none of what the tree shows. -/
theorem locate (forest : Forest) (propagation : Propagation) (id : NodeId) (values : List Value) :
    forest.Keeps (forest.locate propagation id values) [] := by
  unfold Forest.locate
  have opened := openSpan forest id
  generalize forest.openSpan id = made at opened ⊢
  rcases made with ⟨span, between⟩
  dsimp only at opened ⊢
  split <;> split <;> first
    | exact opened
    | exact opened.trans (.setSpan ..)
    | exact (opened.trans (.setSpan ..)).trans (.setSpan ..)

end Forest.Keeps

namespace Growth

variable {before after : Workspace} {value : Value}

/-- What a rule is replaced by: its only child, or what is built of all children. -/
def wrap (unwraps : Bool) (build : SequenceId → Run Value) (children : SequenceId)
    (chosen : List Value) : Run Value :=
  match unwraps, chosen with
  | true, [only] => pure only
  | _, _ => build children

/-- Gives a tree its position. -/
def place (growth : Growth) (given : SequenceId) (result : Value) : Run Value :=
  match growth.propagation, result with
  | .off, _ => return result
  | propagation, .node id => do
    Work.tend fun forest => forest.locate propagation id (forest.items given)
    return result
  | _, _ => return result

theorem reduce_eq (growth : Growth) (shape : Shape) (build : SequenceId → Run Value)
    (values : List Value) :
    growth.reduce shape build values =
      (Work.plant fun forest => forest.addSequence values) >>= fun given =>
        shape.choose given >>= fun children =>
          (Work.look fun forest => forest.items children) >>= fun chosen =>
            wrap shape.unwraps build children chosen >>= fun result =>
              growth.place given result := by
  unfold reduce wrap place
  congr 1
  funext given
  congr 1
  funext children
  congr 1
  funext chosen
  cases shape.unwraps with
  | false => rfl
  | true =>
      match chosen with
      | [] => rfl
      | [only] => rfl
      | _ :: _ :: _ => rfl

theorem place_keeps {growth : Growth} {given : SequenceId} {result : Value}
    (yields : (growth.place given result).Yields before value after) :
    value = result ∧ before.forest.Keeps after.forest [] := by
  unfold place at yields
  split at yields
  · rcases Run.yields_pure.mp yields with ⟨rfl, rfl⟩
    exact ⟨rfl, .refl _ _⟩
  · simp only [Run.yields_bind, Run.yields_tend, Run.yields_pure] at yields
    rcases yields with ⟨_, _, rfl, rfl, rfl⟩
    exact ⟨rfl, .locate ..⟩
  · rcases Run.yields_pure.mp yields with ⟨rfl, rfl⟩
    exact ⟨rfl, .refl _ _⟩

/-- The node that is built of some children without a transformer. -/
def nodeOf (growth : Growth) (label : String) (children : SequenceId) : Node where
  label
  children
  variant := growth.nodes == .variant

theorem builder_eq {growth : Growth} {label : String} {build : SequenceId → Run Value}
    (plain : growth.transformer = none) (built : growth.builder label = .ok build) :
    build = fun children =>
      (Work.plant fun forest => forest.addNode (growth.nodeOf label children)) >>= fun id =>
        pure (.node id) := by
  unfold builder at built
  rw [plain] at built
  dsimp only at built
  split at built
  · cases built
  · exact (Except.ok.inj built).symm

theorem builder_yields {growth : Growth} {label : String} {build : SequenceId → Run Value}
    (plain : growth.transformer = none) (built : growth.builder label = .ok build)
    {children : SequenceId} (yields : (build children).Yields before value after) :
    ∃ node : Node, node.label = label ∧ node.children = children ∧
      value = .node (before.forest.addNode node).1 ∧
      after.forest = (before.forest.addNode node).2 := by
  rw [builder_eq plain built] at yields
  simp only [Run.yields_bind, Run.yields_plant, Run.yields_pure] at yields
  rcases yields with ⟨_, _, ⟨rfl, rfl⟩, rfl, rfl⟩
  exact ⟨_, rfl, rfl, rfl, rfl⟩

/-- What a rule is replaced by shows its only child or a tree of all its children. -/
theorem wrap_shows {growth : Growth} {rule : Rule} {build : SequenceId → Run Value}
    (plain : growth.transformer = none) (built : growth.builder rule.label = .ok build)
    {unwraps : Bool} {children : SequenceId} {trees : List Tree} {used : List SequenceId}
    (holds : before.forest.Holds children trees used)
    (yields : (wrap unwraps build children (before.forest.items children)).Yields
      before value after) :
    ∃ usedBy, after.forest.Shows value
        (match unwraps, trees with
          | true, [only] => only
          | _, _ => .node rule.label trees) usedBy ∧
      usedBy.Sublist (children :: used) ∧ before.forest.Keeps after.forest [] := by
  have builds (yields : (build children).Yields before value after) :
      ∃ usedBy, after.forest.Shows value (.node rule.label trees) usedBy ∧
        usedBy.Sublist (children :: used) ∧ before.forest.Keeps after.forest [] := by
    rcases holds with ⟨items, held, shown⟩
    rcases builder_yields plain built yields with ⟨node, label, rfl, rfl, grown⟩
    rw [grown, ← label]
    exact ⟨_, shows_addNode held shown, List.Sublist.refl _, .addNode ..⟩
  have shown := holds.items_shown
  generalize before.forest.items children = items at shown yields
  cases unwraps with
  | false => exact builds yields
  | true =>
      cases shown with
      | nil => exact builds yields
      | cons head rest =>
          cases rest with
          | nil =>
              rcases Run.yields_pure.mp yields with ⟨rfl, rfl⟩
              exact ⟨_, head, by simp, .refl _ _⟩
          | cons second rest => exact builds yields

/-- A reduction without a transformer makes a value that shows what the rule makes of the trees of
its symbols. It uses sequences of these trees and fresh ones, and keeps all others. -/
theorem reduce_shows {growth : Growth} {rule : Rule} {shape : Shape}
    {build : SequenceId → Run Value} {values : List Value} {trees : List Tree}
    {used : List SequenceId} (plain : growth.transformer = none)
    (built : growth.builder rule.label = .ok build)
    (made : Shape.ofRule rule growth.placeholders = .ok shape)
    (shown : before.forest.ShowsAll values trees used) (nodup : used.Nodup)
    (length : rule.expansion.length = trees.length)
    (yields : (growth.reduce shape build values).Yields before value after) :
    ∃ usedBy, after.forest.Shows value (rule.shaped growth.placeholders trees) usedBy ∧
      usedBy.Nodup ∧ (∀ id ∈ usedBy, id ∈ used ∨
        before.forest.sequences.size ≤ id.index) ∧
      before.forest.Keeps after.forest used := by
  rw [reduce_eq] at yields
  simp only [Run.yields_bind, Run.yields_plant, Run.yields_look] at yields
  rcases yields with
    ⟨_, _, ⟨rfl, rfl⟩, children, chosen, choose, _, _, ⟨rfl, rfl⟩, result,
      wrapped, wrap, place⟩
  have planted := Keeps.addSequence before.forest values
  have given : (before.forest.addSequence values).2.Holds (before.forest.addSequence values).1
      trees used :=
    ⟨values, held_addSequence .., shown.keep planted (List.disjoint_nil_right used)⟩
  have apart : ((before.forest.addSequence values).1 :: used).Nodup :=
    List.nodup_cons.mpr ⟨shown.addSequence_notMem values, nodup⟩
  rcases Shape.choose_shows made given apart length choose with
    ⟨⟨usedBy, holds, nodup, inside⟩, keeps⟩
  rcases wrap_shows plain built holds wrap with ⟨usedLast, shows_, sublist, keepsWrap⟩
  rcases place_keeps place with ⟨rfl, keepsPlace⟩
  rcases Shape.ofRule_eq_ok made with ⟨-, unwraps, -⟩
  refine ⟨usedLast, ?_, nodup.sublist sublist, fun id member => ?_, ?_⟩
  · rw [Rule.shaped, ← unwraps]
    exact shows_.keep keepsPlace (List.disjoint_nil_right usedLast)
  · rcases inside id (sublist.subset member) with member | fresh
    · rcases List.mem_cons.mp member with rfl | member
      · exact .inr (Nat.le_refl _)
      · exact .inl member
    · exact .inr (Nat.le_trans planted.grows fresh)
  · have nothing : [] ⊆ (before.forest.addSequence values).1 :: used := List.nil_subset _
    have all := (((planted.mono nothing).trans keeps).trans (keepsWrap.mono nothing)).trans
      (keepsPlace.mono nothing)
    exact all.forget (Nat.le_refl _)

end Growth

end Lalr
