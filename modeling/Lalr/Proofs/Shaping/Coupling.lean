import Lalr.Proofs.Grammar.Rules
import Lalr.Proofs.Shaping.Positions
import Lalr.Proofs.Shaping.Reductions

/-!
# Reductions in two forests

A reduction looks at no number of a node or a sequence but to follow it. Two
reductions by the same rule, each in a forest of its own and with values that are
alike, therefore fail alike or give values that are alike, and change nothing in
either forest but what their values lie in.
-/

namespace Lalr

open Forest

/-- The forests of two workspaces. -/
def forestsOf (workspace workspace' : Workspace) : Forest × Forest :=
  (workspace.forest, workspace'.forest)

namespace Shape

variable {likeness : ValueLikeness}

/-- Two sequences of later forests hold values that are alike, in pairs of sequences that were
available, and nothing but what was available has been changed. -/
structure Gathered (likeness : ValueLikeness) (before after : Forest × Forest)
    (available : List (SequenceId × SequenceId)) (sequence sequence' : SequenceId) : Prop where
  held : ∃ used, likeness.HeldAlike after sequence sequence' used ∧
    ((sequence, sequence') :: used).Pairwise Separate ∧
      (sequence, sequence') :: used ⊆ available
  stays : likeness.Stays before after available

theorem Gathered.mono {before after : Forest × Forest} {sequence sequence' : SequenceId}
    {available more : List (SequenceId × SequenceId)}
    (gathered : Gathered likeness before after available sequence sequence')
    (subset : available ⊆ more) : Gathered likeness before after more sequence sequence' := by
  rcases gathered with ⟨⟨used, held, apart, inside⟩, stays⟩
  exact ⟨⟨used, held, apart, List.Subset.trans inside subset⟩, stays.mono subset⟩

theorem Gathered.trans {before between after : Forest × Forest} {sequence sequence' : SequenceId}
    {available : List (SequenceId × SequenceId)} (stays : likeness.Stays before between available)
    (gathered : Gathered likeness between after available sequence sequence') :
    Gathered likeness before after available sequence sequence' :=
  ⟨gathered.held, stays.trans gathered.stays⟩

variable {before before' : Workspace} {values values' added added' : List Value}
  {collected collected' : SequenceId} {used usedBy : List (SequenceId × SequenceId)}

/-- Adding values that are alike goes on with sequences that hold values that are alike. -/
theorem coupled_extend {α β : Type} {gives : α → β → Workspace → Workspace → Prop}
    {fails : Workspace → Workspace → Prop} {rest : Unit → Run α} {rest' : Unit → Run β}
    (held : likeness.HeldAlike (forestsOf before before') collected collected' usedBy)
    (alike : likeness.AllAlike (forestsOf before before') added added' used)
    (apart : ((collected, collected') :: (usedBy ++ used)).Pairwise Separate)
    (goes : ∀ between between',
      likeness.HeldAlike (forestsOf between between') collected collected' (usedBy ++ used) →
      likeness.Stays (forestsOf before before') (forestsOf between between')
        [(collected, collected')] →
        Run.Coupled gives fails (rest ()) (rest' ()) between between') :
    Run.Coupled gives fails (liftM (extend collected added) >>= rest)
      (liftM (extend collected' added') >>= rest') before before' :=
  goes { before with
      forest := before.forest.setItems collected (before.forest.items collected ++ added) }
    { before' with
      forest := before'.forest.setItems collected' (before'.forest.items collected' ++ added') }
    (held.setItems alike apart) (.setItems ..)

/-- Placeholders are put at the ends of two sequences. -/
theorem coupled_leaveGap {α β : Type} {gives : α → β → Workspace → Workspace → Prop}
    {fails : Workspace → Workspace → Prop} {rest : Unit → Run α} {rest' : Unit → Run β}
    (count : Nat)
    (held : likeness.HeldAlike (forestsOf before before') collected collected' usedBy)
    (apart : ((collected, collected') :: usedBy).Pairwise Separate)
    (goes : ∀ {between between'},
      likeness.HeldAlike (forestsOf between between') collected collected' usedBy →
      likeness.Stays (forestsOf before before') (forestsOf between between')
        [(collected, collected')] →
        Run.Coupled gives fails (rest ()) (rest' ()) between between') :
    Run.Coupled gives fails (leaveGap collected count >>= rest)
      (leaveGap collected' count >>= rest') before before' := by
  unfold leaveGap
  by_cases none : count = 0
  · rw [if_pos none, if_pos none]
    exact goes held (.refl _ _)
  · rw [if_neg none, if_neg none]
    apply coupled_extend held (.nothings count)
    · simpa using apart
    · intro between between' held stays
      exact goes (by simpa using held) stays

/-- A child that is kept is added to what has been collected, or its children take the place of what
has been collected. -/
theorem coupled_collectChild
    {gives : SequenceId → SequenceId → Workspace → Workspace → Prop}
    {fails : Workspace → Workspace → Prop} {child : KeptChild} {rest : List KeptChild}
    {value value' : Value} (found : values[child.index]? = some value)
    (found' : values'[child.index]? = some value')
    (held : likeness.HeldAlike (forestsOf before before') collected collected' usedBy)
    (alike : likeness.Alike (forestsOf before before') value value' used)
    (apart : ((collected, collected') :: (usedBy ++ used)).Pairwise Separate)
    (goes : ∀ {next next' between between'},
      Gathered likeness (forestsOf before before') (forestsOf between between')
        ((collected, collected') :: (usedBy ++ used)) next next' →
      Run.Coupled gives fails (collect values next rest) (collect values' next' rest) between
        between')
    (failed : fails before before') :
    Run.Coupled gives fails (collectChild values collected child rest)
      (collectChild values' collected' child rest) before before' := by
  have changes : [(collected, collected')] ⊆ (collected, collected') ::
      (usedBy ++ used) := by simp
  unfold collectChild
  by_cases spliced : child.spliced = true
  · rw [if_pos spliced, if_pos spliced, found, found']
    cases alike with
    | nothing => exact .throw failed
    | token tokens => exact .throw failed
    | sequence held => exact .throw failed
    | @node id id' node node' usedIn nodes children =>
        have own : ((node.children, node'.children) :: usedIn).Sublist
            ((collected, collected') :: (usedBy ++ (node.children, node'.children) :: usedIn)) :=
          (List.sublist_append_right usedBy _).trans (List.sublist_cons_self ..)
        have both : (usedBy ++ usedIn).Sublist
            (usedBy ++ (node.children, node'.children) :: usedIn) :=
          (List.sublist_cons_self ..).append_left usedBy
        have read : (before.forest.node id).children = node.children := by
          simp [Forest.node, show before.forest.nodes[id.index]? = some node from nodes.found]
        have read' : (before'.forest.node id').children = node'.children := by
          simp [Forest.node, show before'.forest.nodes[id'.index]? = some node' from nodes.found']
        have empty : (before.forest.items collected).isEmpty =
            (before'.forest.items collected').isEmpty := held.items_alike.isEmpty_eq
        show Run.Coupled gives fails
          (if (before.forest.items collected).isEmpty then
            collect values (before.forest.node id).children rest
          else do
            extend collected (before.forest.items (before.forest.node id).children)
            collect values collected rest)
          (if (before'.forest.items collected').isEmpty then
            collect values' (before'.forest.node id').children rest
          else do
            extend collected' (before'.forest.items (before'.forest.node id').children)
            collect values' collected' rest) before before'
        rw [read, read', ← empty]
        split
        · exact goes ⟨⟨usedIn, children, apart.sublist own, own.subset⟩, .refl _ _⟩
        · refine coupled_extend held children.items_alike (apart.sublist (both.cons_cons _)) ?_
          intro between between' held stays
          exact goes ⟨⟨_, held, apart.sublist (both.cons_cons _), (both.cons_cons _).subset⟩,
            stays.mono changes⟩
  · rw [if_neg spliced, if_neg spliced, found, found']
    refine coupled_extend held (.singleton alike) apart ?_
    intro between between' held stays
    exact goes ⟨⟨_, held, apart, List.Subset.refl _⟩, stays.mono changes⟩

/-- Collecting gathers values that are alike, as each value is taken at most once. Induction on the
children that are kept. -/
theorem coupled_collect {kept : List KeptChild} :
    ∀ (past : Nat) {collected collected' : SequenceId}
      {usedBy used : List (SequenceId × SequenceId)} {before before' : Workspace},
      kept.Pairwise (fun child next => child.index < next.index) →
      (∀ child ∈ kept, past ≤ child.index) →
      likeness.HeldAlike (forestsOf before before') collected collected' usedBy →
      likeness.AllAlike (forestsOf before before') (values.drop past) (values'.drop past) used →
      ((collected, collected') :: (usedBy ++ used)).Pairwise Separate →
        Run.Coupled
          (fun sequence sequence' after after' =>
            Gathered likeness (forestsOf before before') (forestsOf after after')
              ((collected, collected') :: (usedBy ++ used)) sequence sequence')
          (fun after after' => likeness.Stays (forestsOf before before') (forestsOf after after')
            ((collected, collected') :: (usedBy ++ used)))
          (collect values collected kept) (collect values' collected' kept) before before' := by
  induction kept with
  | nil =>
      intro past collected collected' usedBy used before before' _ _ held _ apart
      have own : ((collected, collected') :: usedBy).Sublist
          ((collected, collected') :: (usedBy ++ used)) :=
        (List.sublist_append_left usedBy used).cons_cons _
      exact .pure ⟨⟨usedBy, held, apart.sublist own, own.subset⟩, .refl _ _⟩
  | cons child rest ih =>
      intro past collected collected' usedBy used before before' sorted beyond held alike apart
      have changes : [(collected, collected')] ⊆ (collected, collected') :: (usedBy ++ used) := by
        simp
      have own : ((collected, collected') :: usedBy).Sublist
          ((collected, collected') :: (usedBy ++ used)) :=
        (List.sublist_append_left usedBy used).cons_cons _
      rw [collect_cons, collect_cons]
      refine coupled_leaveGap _ held (apart.sublist own) ?_
      intro gapped gapped' held gap
      have alike := alike.keep gap fun pair member other only => by
        rcases List.mem_singleton.mp only with rfl
        exact ((List.pairwise_cons.mp apart).1 pair (List.mem_append_right _ member)).symm
      have gap := gap.mono changes
      rcases alike.pick (beyond child (List.mem_cons_self ..)) with ⟨missing, missing'⟩ |
        ⟨value, value', usedHead, usedRest, found, found', head, tail, sublist⟩
      · unfold collectChild
        rw [missing, missing']
        split
        · exact .throw gap
        · exact .throw gap
      · have part : ((collected, collected') :: (usedBy ++ (usedHead ++ usedRest))).Sublist
            ((collected, collected') :: (usedBy ++ used)) :=
          (sublist.append_left usedBy).cons_cons _
        have parted : ((collected, collected') :: (usedBy ++ usedHead) ++ usedRest).Pairwise
            Separate := by simpa using apart.sublist part
        rcases List.pairwise_append.mp parted with ⟨front, back, separate⟩
        refine coupled_collectChild found found' held head front ?_ gap
        intro next next' between between' gathered
        rcases gathered with ⟨⟨usedNext, held, apartNext, inside⟩, stays⟩
        have tail := tail.keep stays fun pair member other earlier =>
          (separate other earlier pair member).symm
        have again : ((next, next') :: usedNext ++ usedRest).Pairwise Separate :=
          List.pairwise_append.mpr
            ⟨apartNext, back, fun pair member => separate pair (inside member)⟩
        have within : (next, next') :: (usedNext ++ usedRest) ⊆
            (collected, collected') :: (usedBy ++ used) := by
          apply List.Subset.trans _ part.subset
          intro pair member
          rcases List.mem_append.mp
            (show pair ∈ ((next, next') :: usedNext) ++ usedRest from member)
            with member | member
          · have := inside member
            simp only [List.mem_cons, List.mem_append] at this ⊢
            tauto
          · simp [member]
        have first : (collected, collected') :: (usedBy ++ usedHead) ⊆
            (collected, collected') :: (usedBy ++ used) := by
          apply List.Subset.trans _ part.subset
          intro pair member
          simp only [List.mem_cons, List.mem_append] at member ⊢
          tauto
        have before := gap.trans (stays.mono first)
        rcases (List.pairwise_cons.mp sorted).symm with ⟨sorted, beyondRest⟩
        refine (ih (child.index + 1) sorted beyondRest held tail again).imp ?_ ?_
        · exact fun gathered => .trans before (gathered.mono within)
        · exact fun stays => before.trans (stays.mono within)

/-- The children that are kept are kept in their order. -/
theorem select_sorted (keepAll : Bool) (symbols : List Symbol) :
    ∀ (index missing : Nat) (gaps : List Nat),
      ((select keepAll index missing symbols gaps).1.Pairwise fun child next =>
        child.index < next.index) ∧
      ∀ child ∈ (select keepAll index missing symbols gaps).1, index ≤ child.index := by
  induction symbols with
  | nil => intros; simp [select]
  | cons symbol symbols ih =>
      intro index missing gaps
      simp only [select]
      split
      · rcases ih (index + 1) 0 gaps.tail with ⟨sorted, beyond⟩
        refine ⟨List.pairwise_cons.mpr ⟨beyond, sorted⟩,
          List.forall_mem_cons.mpr ⟨Nat.le_refl _, ?_⟩⟩
        exact fun child member => Nat.le_of_succ_le (beyond child member)
      · rcases ih (index + 1) (missing + gaps.headD 0) gaps.tail with ⟨sorted, beyond⟩
        exact ⟨sorted, fun child member => Nat.le_of_succ_le (beyond child member)⟩

theorem sorted_of_ofRule {rule : Rule} {placeholders : Bool} {shape : Shape}
    (made : ofRule rule placeholders = .ok shape) {kept : List KeptChild}
    (selects : shape.selection = some kept) :
    kept.Pairwise fun child next => child.index < next.index := by
  rcases ofRule_eq_ok made with ⟨-, -, ⟨selection, -⟩ | ⟨none, -⟩⟩
  · rcases Option.some.inj (selection.symm.trans selects) with rfl
    exact (select_sorted ..).1
  · rw [none] at selects
    cases selects

/-- The children that a shape chooses of values that are alike are alike. -/
theorem coupled_choose {shape : Shape} {given given' : SequenceId}
    (sorted : ∀ {kept}, shape.selection = some kept →
      kept.Pairwise fun child next => child.index < next.index)
    (held : likeness.HeldAlike (forestsOf before before') given given' used)
    (apart : ((given, given') :: used).Pairwise Separate) :
    Run.Coupled
      (fun sequence sequence' after after' =>
        (∃ usedBy, likeness.HeldAlike (forestsOf after after') sequence sequence' usedBy ∧
          ((sequence, sequence') :: usedBy).Pairwise Separate ∧
          ∀ pair ∈ (sequence, sequence') :: usedBy,
            pair ∈ (given, given') :: used ∨ Fresh (forestsOf before before') pair) ∧
        likeness.Stays (forestsOf before before') (forestsOf after after') used)
      (fun after after' => likeness.Stays (forestsOf before before') (forestsOf after after') used)
      (shape.choose given) (shape.choose given') before before' := by
  cases selects : shape.selection with
  | none =>
      rw [choose, choose, selects]
      exact .pure ⟨⟨used, held, apart, fun _ => .inl⟩, .refl _ _⟩
  | some kept =>
      rw [choose_eq selects, choose_eq selects]
      apply Run.Coupled.look
      apply Run.Coupled.plant
      generalize planted :
        ({ before with forest := (before.forest.addSequence []).2 } : Workspace) =
        between
      generalize planted' :
        ({ before' with forest := (before'.forest.addSequence []).2 } : Workspace) = between'
      have forests : forestsOf between between' = ((before.forest.addSequence []).2,
          (before'.forest.addSequence []).2) := by rw [← planted, ← planted']; rfl
      have added : likeness.Stays (forestsOf before before') (forestsOf between between') [] := by
        rw [forests]
        exact .addSequence (forestsOf before before') [] []
      have first : likeness.HeldAlike (forestsOf between between') (before.forest.addSequence []).1
          (before'.forest.addSequence []).1 [] := by
        rw [forests]
        exact ValueLikeness.heldAlike_addSequence (forestsOf before before') .nil
      have outside : ∀ pair ∈ used, Separate ((before.forest.addSequence []).1,
          (before'.forest.addSequence []).1) pair :=
        ValueLikeness.separate_addSequence (fun pair member =>
          held.present pair (List.mem_cons_of_mem _ member)) [] []
      have start := held.items_alike.keep added (by simp)
      have settles {after after' : Workspace}
          (stays : likeness.Stays (forestsOf between between') (forestsOf after after')
            (((before.forest.addSequence []).1, (before'.forest.addSequence []).1) :: used)) :
          likeness.Stays (forestsOf before before') (forestsOf after after') used :=
        ((added.mono (List.nil_subset _)).trans stays).narrow (List.forall_mem_cons.mpr
          ⟨.inr ⟨Nat.le_refl _, Nat.le_refl _⟩, fun _ => .inl⟩)
      refine Run.Coupled.bind ((coupled_collect 0 (sorted selects) (by simp) first start
        (List.pairwise_cons.mpr ⟨outside, (List.pairwise_cons.mp apart).2⟩)).imp id settles) ?_
      rintro collected collected' gathered gathered'
        ⟨⟨usedBy, holds, separate, inside⟩, stays⟩
      apply coupled_leaveGap _ holds separate
      intro after after' holds gap
      have last := gap.mono (List.Subset.trans (List.cons_subset.mpr
        ⟨List.mem_cons_self .., List.nil_subset _⟩) inside)
      refine .pure ⟨⟨usedBy, holds, separate, fun pair member => ?_⟩,
        settles (stays.trans last)⟩
      rcases List.mem_cons.mp (inside member) with rfl | member
      · exact .inr ⟨Nat.le_refl _, Nat.le_refl _⟩
      · exact .inl (List.mem_cons_of_mem _ member)

end Shape

namespace Growth

variable {likeness : ValueLikeness} {before before' : Workspace} {growth : Growth}

/-- What a rule is replaced by is alike if its children are. -/
theorem coupled_wrap {build : SequenceId → Run Value} {label : String}
    (plain : growth.transformer = none) (built : growth.builder label = .ok build)
    (unwraps : Bool) {children children' : SequenceId} {used : List (SequenceId × SequenceId)}
    (held : likeness.HeldAlike (forestsOf before before') children children' used) :
    Run.Coupled
      (fun value value' after after' =>
        (∃ usedBy, likeness.Alike (forestsOf after after') value value' usedBy ∧
          usedBy.Sublist ((children, children') :: used)) ∧
        likeness.Stays (forestsOf before before') (forestsOf after after') [])
      (fun _ _ => False)
      (wrap unwraps build children (before.forest.items children))
      (wrap unwraps build children' (before'.forest.items children')) before before' := by
  have builds : Run.Coupled
      (fun value value' after after' =>
        (∃ usedBy, likeness.Alike (forestsOf after after') value value' usedBy ∧
          usedBy.Sublist ((children, children') :: used)) ∧
        likeness.Stays (forestsOf before before') (forestsOf after after') [])
      (fun _ _ => False) (build children) (build children') before before' := by
    rw [builder_eq plain built]
    apply Run.Coupled.plant
    refine .pure ⟨⟨_, ValueLikeness.alike_addNode (forestsOf before before')
      (growth.nodeOf label children) (growth.nodeOf label children') held rfl rfl ⟨{}, ?_, ?_⟩,
      List.Sublist.refl _⟩, .addNode ..⟩
    · exact seenSpan_of_none _ _ rfl
    · exact seenSpan_of_none _ _ rfl
  have items : likeness.AllAlike (forestsOf before before') (before.forest.items children)
      (before'.forest.items children') used := held.items_alike
  revert items
  generalize before.forest.items children = chosen
  generalize before'.forest.items children' = chosen'
  intro items
  cases unwraps with
  | false => exact builds
  | true =>
      cases items with
      | nil => exact builds
      | cons head rest =>
          cases rest with
          | nil => exact .pure ⟨⟨_, head, by simp⟩, .refl _ _⟩
          | cons second rest => exact builds

theorem place_of_off (off : growth.propagation = .off) (given : SequenceId) (result : Value) :
    growth.place given result = pure result := by
  unfold place
  rw [off]

theorem place_of_not_node (given : SequenceId) {result : Value} (other : result.isNode = false) :
    growth.place given result = pure result := by
  unfold place
  cases growth.propagation <;> cases result <;> first | rfl | cases other

theorem place_node (on : growth.propagation ≠ .off) (given : SequenceId) (id : NodeId) :
    growth.place given (.node id) =
      (Work.tend fun forest => forest.locate growth.propagation id (forest.items given)) >>=
        fun _ => pure (.node id) := by
  unfold place
  cases propagation : growth.propagation with
  | off => exact absurd propagation on
  | all => rfl
  | skipping names => rfl

/-- Where spans do not count, values stay alike as they get their positions. -/
theorem coupled_place (blind : likeness.spans = false) {given given' : SequenceId}
    {value value' : Value} {used : List (SequenceId × SequenceId)}
    (alike : likeness.Alike (forestsOf before before') value value' used) :
    Run.Coupled
      (fun result result' after after' =>
        likeness.Alike (forestsOf after after') result result' used ∧
        likeness.Stays (forestsOf before before') (forestsOf after after') [])
      (fun _ _ => False) (growth.place given value)
      (growth.place given' value') before before' := by
  by_cases off : growth.propagation = .off
  · rw [place_of_off off, place_of_off off]
    exact .pure ⟨alike, .refl _ _⟩
  · cases alike with
    | nothing =>
        rw [place_of_not_node _ rfl, place_of_not_node _ rfl]
        exact .pure ⟨.nothing, .refl _ _⟩
    | token tokens =>
        rw [place_of_not_node _ rfl, place_of_not_node _ rfl]
        exact .pure ⟨.token tokens, .refl _ _⟩
    | sequence held =>
        rw [place_of_not_node _ rfl, place_of_not_node _ rfl]
        exact .pure ⟨.sequence held, .refl _ _⟩
    | @node id id' _ _ _ nodes children =>
        rw [place_node off, place_node off]
        have stays : likeness.Stays (forestsOf before before')
            (before.forest.locate growth.propagation id (before.forest.items given),
              before'.forest.locate growth.propagation id' (before'.forest.items given')) [] := by
          constructor
          · rw [blind]
            exact preserves_locate ..
          · rw [blind]
            exact preserves_locate ..
        exact Run.Coupled.pure
          ⟨ValueLikeness.Alike.keep stays (.node nodes children) (by simp), stays⟩

/-- A tree that is built of children that are alike stays alike as it gets its position, where the
values that this position comes from are similar. -/
theorem coupled_build {build : SequenceId → Run Value} {label : String}
    (plain : growth.transformer = none) (built : growth.builder label = .ok build)
    (on : growth.propagation ≠ .off) (spans : likeness.spans = true)
    (tokens : ∀ {token token' : Token}, likeness.token token token' → token = token')
    {given given' children children' : SequenceId} {used : List (SequenceId × SequenceId)}
    (held : likeness.HeldAlike (forestsOf before before') children children' used)
    (similar : List.Forall₂ (likeness.Similar (forestsOf before before'))
      (before.forest.items given) (before'.forest.items given')) :
    Run.Coupled
      (fun value value' after after' =>
        likeness.Alike (forestsOf after after') value value' ((children, children') :: used) ∧
        likeness.Stays (forestsOf before before') (forestsOf after after') [])
      (fun _ _ => False) (build children >>= growth.place given)
      (build children' >>= growth.place given') before before' := by
  have placed (children given : SequenceId) (workspace : Workspace) :
      (build children >>= growth.place given).run.run workspace =
        (.ok (.node (workspace.forest.addNode (growth.nodeOf label children)).1),
          { workspace with
            forest := (workspace.forest.addNode (growth.nodeOf label children)).2.locate
              growth.propagation (workspace.forest.addNode (growth.nodeOf label children)).1
              (workspace.forest.items given) }) := by
    rw [builder_eq plain built]
    show StateT.run (growth.place given (.node _)).run _ = _
    rw [place_node on]
    rfl
  unfold Run.Coupled
  rw [placed, placed]
  rw [locate_addNode _ _ _ rfl, locate_addNode _ _ _ rfl]
  have located (span span' : Span) : likeness.Stays (forestsOf before before')
      (before.forest.addLocated (growth.nodeOf label children) span,
        before'.forest.addLocated (growth.nodeOf label children') span') [] :=
    ⟨(Preserves.addSpan _ _).trans (.addNode _ _), (Preserves.addSpan _ _).trans (.addNode _ _)⟩
  have sameFirst (span span' : Span) {values values' : List Value}
      (similar : List.Forall₂ (likeness.Similar (forestsOf before before')) values values') :
      (before.forest.addLocated (growth.nodeOf label children) span).firstPlace?
          growth.propagation values =
        (before'.forest.addLocated (growth.nodeOf label children') span').firstPlace?
          growth.propagation values' :=
    ValueLikeness.firstPlace?_eq spans tokens (_, _) growth.propagation
      (similar.imp fun _ _ similar => similar.keep (located span span'))
  have begin : (before.forest.addLocated (growth.nodeOf label children) {}).beginning
        growth.propagation (before.forest.items given) =
      (before'.forest.addLocated (growth.nodeOf label children') {}).beginning
        growth.propagation (before'.forest.items given') := by
    rw [beginning, beginning, sameFirst {} {} similar]
  have ends (span : Span) : (before.forest.addLocated (growth.nodeOf label children) span).ended
        growth.propagation (before.forest.items given) span =
      (before'.forest.addLocated (growth.nodeOf label children') span).ended
        growth.propagation (before'.forest.items given') span := by
    rw [ended, ended, sameFirst span span (List.forall₂_reverse_iff.mpr similar)]
  have alike (span : Span) : likeness.Alike
      (before.forest.addLocated (growth.nodeOf label children) span,
        before'.forest.addLocated (growth.nodeOf label children') span)
      (.node (before.forest.addNode (growth.nodeOf label children)).1)
      (.node (before'.forest.addNode (growth.nodeOf label children')).1)
      ((children, children') :: used) :=
    ValueLikeness.alike_addLocated (forestsOf before before') (growth.nodeOf label children)
      (growth.nodeOf label children') held rfl rfl span
  dsimp only
  rw [begin, ends]
  exact ⟨alike _, located _ _⟩

/-- Whether positions are no matter: they do not count, or trees have none, or no tree that was
there before gets a position. -/
structure Settles (likeness : ValueLikeness) (growth : Growth) (unwraps : Bool) : Prop where
  tokens : likeness.spans = true → ∀ {token token' : Token}, likeness.token token token' →
    token = token'
  still : likeness.spans = true → growth.propagation = .off ∨ unwraps = false

/-- What a rule is replaced by is alike with its position. -/
theorem coupled_finish {build : SequenceId → Run Value} {label : String}
    (plain : growth.transformer = none) (built : growth.builder label = .ok build)
    {unwraps : Bool} (settles : Settles likeness growth unwraps)
    {given given' children children' : SequenceId} {used : List (SequenceId × SequenceId)}
    (held : likeness.HeldAlike (forestsOf before before') children children' used)
    (similar : List.Forall₂ (likeness.Similar (forestsOf before before'))
      (before.forest.items given) (before'.forest.items given')) :
    Run.Coupled
      (fun value value' after after' =>
        (∃ usedBy, likeness.Alike (forestsOf after after') value value' usedBy ∧
          usedBy.Sublist ((children, children') :: used)) ∧
        likeness.Stays (forestsOf before before') (forestsOf after after') [])
      (fun _ _ => False)
      (wrap unwraps build children (before.forest.items children) >>= growth.place given)
      (wrap unwraps build children' (before'.forest.items children') >>= growth.place given')
      before before' := by
  have wrapped := coupled_wrap plain built unwraps held
  by_cases off : growth.propagation = .off
  · refine wrapped.bind fun known => ?_
    rw [place_of_off off, place_of_off off]
    exact .pure known
  · cases spans : likeness.spans with
    | false =>
        refine wrapped.bind ?_
        rintro value value' after after' ⟨⟨usedBy, alike, sublist⟩, stays⟩
        refine (coupled_place spans alike).imp ?_ id
        exact fun placed => ⟨⟨usedBy, placed.1, sublist⟩, stays.trans placed.2⟩
    | true =>
        rw [(settles.still spans).resolve_left off]
        refine (coupled_build plain built off spans (settles.tokens spans) held similar).imp ?_ id
        exact fun grown => ⟨⟨_, grown.1, List.Sublist.refl _⟩, grown.2⟩

/-- Reductions of values that are alike fail alike or give values that are alike. -/
theorem coupled_reduce {rule : Rule} {shape : Shape} {build : SequenceId → Run Value}
    (plain : growth.transformer = none) (built : growth.builder rule.label = .ok build)
    (made : Shape.ofRule rule growth.placeholders = .ok shape)
    (settles : Settles likeness growth shape.unwraps)
    {values values' : List Value} {used : List (SequenceId × SequenceId)}
    (alike : likeness.AllAlike (forestsOf before before') values values' used)
    (apart : used.Pairwise Separate) :
    Run.Coupled
      (fun value value' after after' =>
        likeness.Owned (forestsOf before before') (forestsOf after after') used [value] [value'])
      (fun after after' => likeness.Stays (forestsOf before before') (forestsOf after after') used)
      (growth.reduce shape build values) (growth.reduce shape build values') before before' := by
  rw [reduce_eq, reduce_eq]
  apply Run.Coupled.plant
  generalize planted :
    ({ before with forest := (before.forest.addSequence values).2 } : Workspace) =
    between
  generalize planted' :
    ({ before' with forest := (before'.forest.addSequence values').2 } : Workspace) = between'
  have forests : forestsOf between between' = ((before.forest.addSequence values).2,
      (before'.forest.addSequence values').2) := by rw [← planted, ← planted']; rfl
  have added : likeness.Stays (forestsOf before before') (forestsOf between between') [] := by
    rw [forests]
    exact .addSequence (forestsOf before before') values values'
  have held : likeness.HeldAlike (forestsOf between between') (before.forest.addSequence values).1
      (before'.forest.addSequence values').1 used := by
    rw [forests]
    exact ValueLikeness.heldAlike_addSequence (forestsOf before before') alike
  have outside : ∀ pair ∈ used, Separate ((before.forest.addSequence values).1,
      (before'.forest.addSequence values').1) pair :=
    ValueLikeness.separate_addSequence alike.present values values'
  have whole := List.pairwise_cons.mpr ⟨outside, apart⟩
  have changed {more : Forest × Forest}
      (stays : likeness.Stays (forestsOf between between') more used) :
      likeness.Stays (forestsOf before before') more used :=
    (added.mono (List.nil_subset _)).trans stays
  have chosen := Shape.coupled_choose (Shape.sorted_of_ofRule made) held whole
  refine (chosen.imp id changed).bind ?_
  rintro children children' chosen chosen' ⟨⟨usedBy, holds, separate, inside⟩, stays⟩
  apply Run.Coupled.look
  rcases stays.sequence outside
    (show (forestsOf between between').1.sequences[_]? = some values by
      rw [forests]; exact held_addSequence ..)
    (show (forestsOf between between').2.sequences[_]? = some values' by
      rw [forests]; exact held_addSequence ..) with
    ⟨given, given'⟩
  have similar : List.Forall₂ (likeness.Similar (forestsOf chosen chosen'))
      (chosen.forest.items (before.forest.addSequence values).1)
      (chosen'.forest.items (before'.forest.addSequence values').1) := by
    have read : chosen.forest.items (before.forest.addSequence values).1 = values := by
      simp [Forest.items, show chosen.forest.sequences[_]? = some values from given]
    have read' : chosen'.forest.items (before'.forest.addSequence values').1 = values' := by
      simp [Forest.items, show chosen'.forest.sequences[_]? = some values' from given']
    rw [read, read']
    exact alike.similar.imp fun _ _ similar => (similar.keep added).keep stays
  refine (coupled_finish plain built settles holds similar).imp ?_ False.elim
  rintro value value' after after' ⟨⟨usedLast, alike, sublist⟩, last⟩
  refine ⟨⟨usedLast, .singleton alike, separate.sublist sublist, fun pair member => ?_⟩,
    (changed stays).trans (last.mono (List.nil_subset _))⟩
  rcases inside pair (sublist.subset member) with member | fresh
  · rcases List.mem_cons.mp member with rfl | member
    · exact .inr ⟨Nat.le_refl _, Nat.le_refl _⟩
    · exact .inl member
  · exact .inr ⟨Nat.le_trans added.left.grows fresh.1, Nat.le_trans added.right.grows fresh.2⟩

end Growth

namespace Reductions

variable {likeness : ValueLikeness} {before before' : Workspace} {growth : Growth}
  {rules : List Rule}

/-- Whether reductions build trees by the shapes of some rules, with tokens as they are. -/
structure Builds (reductions : Reductions) (growth : Growth) (rules : List Rule) : Prop where
  plain : growth.transformer = none
  tokens : reductions.tokens = []
  entries : List.Forall₂ (fun rule entry => entry.1 = rule ∧ IsFor growth rule entry.2) rules
    reductions.rules

/-- Whether positions are no matter for any of some rules. -/
def Settle (likeness : ValueLikeness) (growth : Growth) (rules : List Rule) : Prop :=
  ∀ rule ∈ rules, Growth.Settles likeness growth (rule.options.expandSingle && !rule.hasByname)

/-- A token that is shifted stays as it is. -/
theorem Builds.shift_eq {reductions : Reductions} (builds : reductions.Builds growth rules)
    (token : Token) : reductions.shift token = pure (.token token) := by
  rw [shift, builds.tokens]
  rfl

/-- Reductions of values that are alike fail alike or give values that are alike. -/
theorem coupled_reduce {reductions : Reductions} (builds : reductions.Builds growth rules)
    (settle : Settle likeness growth rules) (rule : Rule) {values values' : List Value}
    {used : List (SequenceId × SequenceId)}
    (alike : likeness.AllAlike (forestsOf before before') values values' used)
    (apart : used.Pairwise Separate) :
    Run.Coupled
      (fun value value' after after' =>
        likeness.Owned (forestsOf before before') (forestsOf after after') used [value] [value'])
      (fun after after' => likeness.Stays (forestsOf before before') (forestsOf after after') used)
      (reductions.reduce rule values) (reductions.reduce rule values') before before' := by
  unfold reduce
  cases found : reductions.find? rule with
  | some reduction =>
      rcases find?_eq_some builds.entries found with
        ⟨own, listed, shape, build, made, built, rfl⟩
      rcases Shape.ofRule_eq_ok made with ⟨-, unwraps, -⟩
      have settles := settle own (List.mem_of_find?_eq_some listed)
      rw [← unwraps] at settles
      exact Growth.coupled_reduce builds.plain built made settles alike apart
  | none =>
      dsimp only
      split
      · apply Run.Coupled.plant
        refine .pure ⟨⟨_, .singleton (.sequence
          (ValueLikeness.heldAlike_addSequence (forestsOf before before') alike)), ?_, ?_⟩,
          (ValueLikeness.Stays.addSequence (forestsOf before before') _ _).mono
          (List.nil_subset _)⟩
        · exact List.pairwise_cons.mpr
            ⟨ValueLikeness.separate_addSequence alike.present values values', apart⟩
        · exact List.forall_mem_cons.mpr ⟨.inr ⟨Nat.le_refl _, Nat.le_refl _⟩,
            fun _ => .inl⟩
      · exact .throw (.refl _ _)

end Reductions

end Lalr
