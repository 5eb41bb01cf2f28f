import Lalr.Proofs.Shaping.Positions
import Lalr.Proofs.Shaping.Taking

/-!
# Reductions that keep positions

A reduction gives its tree a position after it has chosen the children, and takes the
position from the values that it was given. Where it hands on the only child, it is the
span of this child that changes, though the child may be one of the values. This file shows
that what comes out looks as the rule says, as long as each value that is handed on has a
place where it matters, and that nothing else in the forest changes.
-/

namespace Lalr

open Forest

namespace Forest

/-- Whether a value is there with its span, if it has one. -/
def Marks (forest : Forest) : Body → Prop
  | .plain value => value.isPlain = true
  | .node id node spanId span _ => forest.nodes[id.index]? = some node ∧
      node.span = some spanId ∧ forest.spans[spanId.index]? = some span
  | .sequence .. => True

variable {forest before after : Forest} {body : Body} {bodies : List Body} {changed : List Cell}

theorem Bears.marks (bears : forest.Bears body) : forest.Marks body := by
  cases bears with
  | plain isPlain => exact isPlain
  | node found spanned covers => exact ⟨found, spanned, covers⟩
  | sequence => trivial

theorem Marks.keep (marks : before.Marks body) (touches : before.Touches after changed)
    (apart : ∀ spanId, body.spanId? = some spanId → .span spanId ∉ changed) :
    after.Marks body := by
  cases body with
  | plain => exact marks
  | sequence => trivial
  | node id node spanId span children =>
      rcases marks with ⟨found, spanned, covers⟩
      exact ⟨touches.node found, spanned, touches.span (apart spanId rfl) covers⟩

/-- The place of a value that is there is that of what it looks like. -/
theorem Marks.place?_eq (marks : forest.Marks body) :
    forest.place? body.value = body.looks.place? := by
  cases body with
  | plain value => cases value <;> first | rfl | cases marks
  | sequence => rfl
  | node id node spanId span children =>
      rcases marks with ⟨found, spanned, covers⟩
      have same : forest.spanOf id = span :=
        spanOf_of_seenSpan found (by simpa [seenSpan, spanned] using covers)
      simp only [Body.value, Body.looks, place?, Appearance.place?, same]

theorem places_eq (marks : ∀ body ∈ bodies, forest.Marks body) :
    (bodies.map Body.value).filterMap forest.place? =
      Appearance.placesOf (bodies.map Body.looks) := by
  rw [Appearance.placesOf, List.filterMap_map, List.filterMap_map]
  exact List.filterMap_congr fun body member => (marks body member).place?_eq

/-- Where all values count, the first that has a place is the first of the places. -/
theorem firstPlace?_all (forest : Forest) (values : List Value) :
    forest.firstPlace? .all values = (values.filterMap forest.place?).head? := by
  have all : values.filter (Propagation.all.counts forest) = values :=
    List.filter_eq_self.mpr fun value _ => by cases value <;> rfl
  rw [firstPlace?, all, List.head?_filterMap]

/-- A node that has just been added gets its position from the places of the values. -/
theorem locate_added (marks : ∀ body ∈ bodies, forest.Marks body) {node : Node}
    (none : node.span = none) :
    (forest.addNode node).2.locate .all (forest.addNode node).1 (bodies.map Body.value) =
      forest.addLocated node
        (({} : Span).around (Appearance.placesOf (bodies.map Body.looks))) := by
  have there (span : Span) : ((bodies.map Body.value).filterMap
      (forest.addLocated node span).place?) = Appearance.placesOf (bodies.map Body.looks) :=
    places_eq fun body member => (marks body member).keep
      ((Touches.addSpan forest span).trans (.addNode ..)) fun _ _ => List.not_mem_nil
  simp only [locate_addNode _ _ _ none, beginning, ended, firstPlace?_all, List.filterMap_reverse,
    List.head?_reverse, there]
  rfl

theorem setSpan_self {id : SpanId} {span : Span} (covers : forest.spans[id.index]? = some span) :
    forest.setSpan id span = forest := by
  have same : forest.spans.setIfInBounds id.index span = forest.spans := by
    apply Array.ext_getElem?
    grind
  simp [setSpan, same]

theorem setSpan_setSpan (forest : Forest) (id : SpanId) (span span' : Span) :
    (forest.setSpan id span).setSpan id span' = forest.setSpan id span' := by
  simp [setSpan]

theorem span_setSpan {id : SpanId} {span : Span} (covers : forest.spans[id.index]? = some span)
    (span' : Span) : (forest.setSpan id span').spans[id.index]? = some span' := by
  rcases Array.getElem?_eq_some_iff.mp covers with ⟨bound, _⟩
  simp [setSpan, bound]

theorem Span.beginAt_covers {span : Span} {place : Place} (covers : span.isEmpty = false) :
    (span.beginAt place).isEmpty = false := by
  unfold Span.beginAt
  split
  · rfl
  · exact covers

/-- Where a span ends is not changed by where it begins. -/
theorem Span.endAt_outerPlace_beginAt (span other : Span) (place : Place) :
    other.endAt (span.beginAt place).outerPlace = other.endAt span.outerPlace := by
  cases known : span.own.line.isNone <;>
    simp [Span.endAt, Span.outerPlace, Span.beginAt, known]

/-- Whether the only child that a rule hands on is none of the values, or is one of them and has a
place, comes before all that have one, or comes before one of them. -/
inductive Settled (only : Body) (spanId : SpanId) : List Body → Prop
  | absent {bodies : List Body} (apart : ∀ body ∈ bodies, body.spanId? ≠ some spanId) :
      Settled only spanId bodies
  | present {front back : List Body}
    (front_apart : ∀ body ∈ front, body.spanId? ≠ some spanId)
      (back_apart : ∀ body ∈ back, body.spanId? ≠ some spanId)
      (steady : only.looks.place? = none →
        Appearance.placesOf (back.map Body.looks) = [] →
          Appearance.placesOf (front.map Body.looks) = []) :
      Settled only spanId (front ++ only :: back)

theorem filterMap_between {α β γ : Type} (f : β → Option γ) (g : α → β)
    (front back : List α) (item : α) : ((front ++ item :: back).map g).filterMap f =
      (front.map g).filterMap f ++ ((f (g item)).toList ++ (back.map g).filterMap f) := by
  cases found : f (g item) <;> simp [found]

theorem placesOf_between (front back : List Body) (body : Body) :
    Appearance.placesOf ((front ++ body :: back).map Body.looks) =
      Appearance.placesOf (front.map Body.looks) ++
        (body.looks.place?.toList ++ Appearance.placesOf (back.map Body.looks)) :=
  filterMap_between ..

/-- The last place of the values is where it has been after the beginning of a node that is handed
on has been set, as far as it counts. -/
theorem last_handed {id : NodeId} {node : Node} {spanId : SpanId} {span : Span}
    {children : List Body} {first : Place} (marks : ∀ body ∈ bodies, forest.Marks body)
    (here : forest.Marks (.node id node spanId span children))
    (settled : Settled (.node id node spanId span children) spanId bodies)
    (first? : (Appearance.placesOf (bodies.map Body.looks)).head? = some first) :
    ∃ last, ((bodies.map Body.value).filterMap
        (forest.setSpan spanId (span.beginAt first)).place?).getLast? = some last ∧
      (span.beginAt first).endAt last =
        span.around (Appearance.placesOf (bodies.map Body.looks)) := by
  have elsewhere {others : List Body} (marks : ∀ body ∈ others, forest.Marks body)
      (apart : ∀ body ∈ others, body.spanId? ≠ some spanId) :
      (others.map Body.value).filterMap (forest.setSpan spanId (span.beginAt first)).place? =
        Appearance.placesOf (others.map Body.looks) :=
    places_eq fun body member => (marks body member).keep (.setSpan ..) fun other has inside => by
      cases List.mem_singleton.mp inside
      exact apart body member has
  have exists_last : ∃ last,
      (Appearance.placesOf (bodies.map Body.looks)).getLast? = some last := by
    cases places : Appearance.placesOf (bodies.map Body.looks) with
    | nil => simp [places] at first?
    | cons => exact ⟨_, List.getLast?_cons⟩
  rcases exists_last with ⟨last, last?⟩
  have around : span.around (Appearance.placesOf (bodies.map Body.looks)) =
      (span.beginAt first).endAt last := by
    simp only [Span.around, first?, last?]
  cases settled with
  | absent apart => exact ⟨last, by rw [elsewhere marks apart, last?], around.symm⟩
  | @present front back front_apart back_apart steady =>
      simp only [List.forall_mem_append, List.forall_mem_cons] at marks
      rcases marks with ⟨front_marks, -, back_marks⟩
      rw [around]
      rw [filterMap_between, elsewhere front_marks front_apart, elsewhere back_marks back_apart]
      rw [placesOf_between] at first? last?
      generalize Appearance.placesOf (front.map Body.looks) = before at steady first? last? ⊢
      generalize Appearance.placesOf (back.map Body.looks) = behind at steady first? last? ⊢
      cases behind with
      | cons place places =>
          rw [List.getLast?_append, List.getLast?_append, List.getLast?_cons] at last? ⊢
          exact ⟨last, last?, rfl⟩
      | nil =>
          cases placed : span.isEmpty with
          | true =>
              have bare : (Body.node id node spanId span children).looks.place? = none := by
                simp [Body.looks, Appearance.place?, placed]
              rw [bare, steady bare rfl] at first?
              cases first?
          | false =>
              have looks : (Body.node id node spanId span children).looks.place? =
                  some span.outerPlace := by
                simp [Body.looks, Appearance.place?, placed]
              have begun : (forest.setSpan spanId (span.beginAt first)).place? (.node id) =
                  some (span.beginAt first).outerPlace := by
                have marks : (forest.setSpan spanId (span.beginAt first)).Marks
                    (.node id node spanId (span.beginAt first) children) :=
                  ⟨here.1, here.2.1, span_setSpan here.2.2 _⟩
                simpa [Body.value, Body.looks, Appearance.place?, Span.beginAt_covers placed] using
                  marks.place?_eq
              rw [looks, Option.toList_some, List.append_nil, List.getLast?_concat] at last?
              rw [Body.value, begun, Option.toList_some, List.append_nil, List.getLast?_concat]
              rcases Option.some.inj last? with rfl
              exact ⟨_, rfl, Span.endAt_outerPlace_beginAt ..⟩

/-- A node that is handed on gets its position from the places of the values. -/
theorem locate_handed {id : NodeId} {node : Node} {spanId : SpanId} {span : Span}
    {children : List Body} (marks : ∀ body ∈ bodies, forest.Marks body)
    (here : forest.Marks (.node id node spanId span children))
    (settled : Settled (.node id node spanId span children) spanId bodies) :
    forest.locate .all id (bodies.map Body.value) =
      forest.setSpan spanId (span.around (Appearance.placesOf (bodies.map Body.looks))) := by
  rcases here with ⟨found, spanned, covers⟩
  have opened : forest.openSpan id = (spanId, forest) :=
    openSpan_of_some (by simpa [Forest.node, found] using spanned)
  have known : forest.span spanId = span := by simp [Forest.span, covers]
  have places := places_eq marks
  cases first? : (Appearance.placesOf (bodies.map Body.looks)).head? with
  | none =>
      have nowhere := List.head?_eq_none_iff.mp first?
      rw [nowhere] at places ⊢
      simp only [locate, opened, firstPlace?_all, List.filterMap_reverse,
        List.head?_reverse, places, List.head?_nil, List.getLast?_nil, Span.around]
      exact (setSpan_self covers).symm
  | some first =>
      have exists_last :
          ∃ last, ((bodies.map Body.value).filterMap
              (forest.setSpan spanId (span.beginAt first)).place?).getLast? = some last ∧
            (span.beginAt first).endAt last =
              span.around (Appearance.placesOf (bodies.map Body.looks)) :=
        last_handed marks ⟨found, spanned, covers⟩ settled first?
      rcases exists_last with ⟨last, last?, ends⟩
      have begun : (forest.setSpan spanId (span.beginAt first)).span spanId =
          span.beginAt first := by
        simp [Forest.span, span_setSpan covers]
      simp only [locate, opened, firstPlace?_all, List.filterMap_reverse,
        List.head?_reverse, places, first?, known, last?, begun, setSpan_setSpan, ends]

/-- A node that is handed on keeps its span, whatever its position becomes. -/
theorem exists_locate {id : NodeId} {node : Node} {spanId : SpanId} {span : Span}
    {children : List Body} (here : forest.Marks (.node id node spanId span children))
    (values : List Value) :
    ∃ span', forest.locate .all id values = forest.setSpan spanId span' := by
  rcases here with ⟨found, spanned, covers⟩
  have opened : forest.openSpan id = (spanId, forest) :=
    openSpan_of_some (by simpa [Forest.node, found] using spanned)
  unfold locate
  rw [opened]
  dsimp only
  cases forest.firstPlace? .all values with
  | none =>
      split
      · exact ⟨_, rfl⟩
      · exact ⟨span, (setSpan_self covers).symm⟩
  | some first =>
      dsimp only
      split
      · exact ⟨_, setSpan_setSpan ..⟩
      · exact ⟨_, rfl⟩

end Forest

namespace Shape

variable {shape : Shape} {bodies : List Body}

theorem mem_pick {α : Type} {gap : α} {inner : α → List α} {values : List α}
    {kept : List KeptChild} {item : α} (member : item ∈ pick gap inner values kept) :
    item = gap ∨ ∃ child ∈ kept, item ∈ addition inner values child := by
  induction kept with
  | nil => cases member
  | cons child rest ih =>
      simp only [pick, List.mem_append, List.mem_replicate] at member
      rcases member with (⟨_, same⟩ | member) | member
      · exact .inl same
      · exact .inr ⟨child, List.mem_cons_self .., member⟩
      · rcases ih member with same | ⟨child, listed, inside⟩
        · exact .inl same
        · exact .inr ⟨child, List.mem_cons_of_mem _ listed, inside⟩

theorem take_append_drop_of_getElem? {α : Type} {items : List α} {index : Nat} {item : α}
    (found : items[index]? = some item) :
    items = items.take index ++ item :: items.drop (index + 1) := by
  rcases List.getElem?_eq_some_iff.mp found with ⟨within, rfl⟩
  rw [← List.drop_eq_getElem_cons within, List.take_append_drop]

/-- Values beside one that lies in a span have other spans. -/
theorem spans_apart {front back : List Body} {body : Body} {spanId : SpanId}
    (nodup : (Body.cellsOf (front ++ body :: back)).Nodup) (inside : .span spanId ∈ body.cells) :
    (∀ other ∈ front, other.spanId? ≠ some spanId) ∧
      ∀ other ∈ back, other.spanId? ≠ some spanId := by
  have own {other : Body} (has : other.spanId? = some spanId) : .span spanId ∈ other.cells := by
    cases other with
    | plain => cases has
    | sequence => cases has
    | node =>
        cases has
        simp [Body.cells]
  rw [Body.cellsOf_append, Body.cellsOf] at nodup
  rcases List.nodup_append'.mp nodup with ⟨-, nodup, apart⟩
  rcases List.nodup_append'.mp nodup with ⟨-, -, apart'⟩
  refine ⟨fun other member has => ?_, fun other member has => ?_⟩
  · exact apart (Body.cells_subset member (own has)) (List.mem_append_left _ inside)
  · exact apart' inside (Body.cells_subset member (own has))

/-- Where a rule is steady, the position of the only child follows from the places of the values. -/
theorem Steady.settled {id : NodeId} {node : Node} {spanId : SpanId} {span : Span}
    {children : List Body} (steady : shape.Steady (bodies.map Body.looks))
    (nodup : (Body.cellsOf bodies).Nodup) (unwraps : shape.unwraps = true)
    (chosen : shape.chosen (.plain .nothing) Body.children bodies =
      [.node id node spanId span children]) :
    Settled (.node id node spanId span children) spanId bodies := by
  have inside : Cell.span spanId ∈ (Body.node id node spanId span children).cells := by
    simp [Body.cells]
  have only : (shape.chosen (.plain .nothing) Appearance.children
      (bodies.map Body.looks)).length = 1 := by
    rw [shape.chosen_looks bodies, chosen]
    rfl
  unfold Shape.chosen at chosen
  cases selects : shape.selection with
  | none =>
      simp only [selects] at chosen
      rw [chosen]
      exact @Settled.present _ _ [] [] (List.forall_mem_nil _)
        (List.forall_mem_nil _) fun _ _ => rfl
  | some kept =>
      simp only [selects] at chosen
      have member : Body.node id node spanId span children ∈
          pick (.plain .nothing) Body.children bodies kept := by
        have listed := List.mem_singleton_self (Body.node id node spanId span children)
        rw [← chosen, List.mem_append] at listed
        refine listed.resolve_right fun gap => ?_
        cases List.eq_of_mem_replicate gap
      rcases (mem_pick member).resolve_left (by rintro ⟨⟩) with ⟨child, listed, added⟩
      unfold addition at added
      split at added
      next => cases added
      next body found =>
        have parts := take_append_drop_of_getElem? found
        rw [parts] at nodup
        split at added
        next spliced =>
          have below : Cell.span spanId ∈ Body.cellsOf body.children :=
            Body.cells_subset added inside
          rcases spans_apart nodup (body.cellsOf_children_subset below) with ⟨front, back⟩
          have inner : body.spanId? ≠ some spanId := by
            intro has
            have own := Body.cells_nodup nodup (List.mem_append_right _ (List.mem_cons_self ..))
            cases body with
            | plain => cases has
            | sequence => cases has
            | node =>
                cases has
                exact (List.nodup_cons.mp (List.nodup_cons.mp own).2).1 below
          rw [parts]
          exact .absent (List.forall_mem_append.mpr
            ⟨front, List.forall_mem_cons.mpr ⟨inner, back⟩⟩)
        next whole =>
          rcases List.mem_singleton.mp added with rfl
          rcases spans_apart nodup inside with ⟨front, back⟩
          rw [parts]
          refine .present front back fun bare behind => ?_
          have handsOn : shape.HandsOn (bodies.map Body.looks) child.index :=
            ⟨unwraps, only, fun kept' same => by
              rcases Option.some.inj (selects.symm.trans same) with rfl
              exact ⟨child, listed, rfl, by simpa using whole⟩⟩
          have quiet := steady child.index _ handsOn (by simp [found]) bare
          rw [← List.map_drop, ← List.map_take] at quiet
          exact quiet behind

end Shape

/-! ## Reducing -/

namespace Growth

variable {growth : Growth} {before after : Workspace} {bodies chosen : List Body} {value : Value}

theorem place_all (all : growth.propagation = .all) {given : SequenceId} {id : NodeId} :
    growth.place given (.node id) = (do
      Work.tend fun forest => forest.locate .all id (forest.items given)
      return .node id) := by
  unfold place
  rw [all]

theorem place_eq_pure {given : SequenceId} {result : Value} (whole : result.isNode = false) :
    growth.place given result = pure result := by
  unfold place
  cases result with
  | node => cases whole
  | _ => cases growth.propagation <;> rfl

/-- What comes of values that lie in some cells, with all that belongs to it. It lies in these cells
and in new ones, and no other cells are touched. Under some condition it looks like something. -/
structure Becomes (before after : Forest) (cells : List Cell) (value : Value) (condition : Prop)
    (seen : Appearance) : Prop where
  body : ∃ body : Body, value = body.value ∧ (condition → body.looks = seen) ∧
    after.Bears body ∧ body.cells.Nodup ∧ ∀ cell ∈ body.cells, cell ∈ cells ∨
      ¬before.HasCell cell
  touches : before.Touches after cells

namespace Becomes

variable {start before after : Forest} {cells cells' : List Cell} {condition condition' : Prop}
  {seen seen' : Appearance}

theorem imp (becomes : Becomes before after cells value condition seen)
    (implies : condition' → condition ∧ seen = seen') :
    Becomes before after cells value condition' seen' where
  body := becomes.body.imp fun _ ⟨same, looks, there⟩ =>
    ⟨same, fun known => (looks (implies known).1).trans (implies known).2, there⟩
  touches := becomes.touches

/-- What has been touched before is among the cells. -/
theorem following (becomes : Becomes before after cells value condition seen)
    (touches : start.Touches before cells')
    (within : ∀ cell ∈ cells, cell ∈ cells' ∨ ¬start.HasCell cell) :
    Becomes start after cells' value condition seen where
  body := becomes.body.imp fun _ ⟨same, looks, there, own, known⟩ =>
    ⟨same, looks, there, own, fun cell member => (known cell member).elim (within cell)
      fun absent => .inr fun has => absent (touches.hasCell has)⟩
  touches := by
    have all := (touches.mono (List.subset_append_left cells' cells)).trans
      (becomes.touches.mono (List.subset_append_right ..))
    exact all.narrow fun cell member => (List.mem_append.mp member).elim .inl (within cell)

end Becomes

/-- What is built of children that lie in a sequence gets its position from the places of the
values. -/
theorem build_bears {sequence given : SequenceId} {label : String}
    {build : SequenceId → Run Value} (plain : growth.transformer = none)
    (all : growth.propagation = .all) (built : growth.builder label = .ok build)
    (marks : ∀ body ∈ bodies, before.forest.Marks body)
    (given_held : before.forest.items given = bodies.map Body.value)
    (held : before.forest.sequences[sequence.index]? = some (chosen.map Body.value))
    (bears : ∀ body ∈ chosen, before.forest.Bears body)
    (nodup : (Cell.sequence sequence :: Body.cellsOf chosen).Nodup)
    (yields : (build sequence >>= fun result => growth.place given result).Yields before value
      after) :
    Becomes before.forest after.forest (.sequence sequence :: Body.cellsOf chosen) value True
      (.node label (({} : Span).around (Appearance.placesOf (bodies.map Body.looks)))
        (growth.nodes == .variant) (chosen.map Body.looks)) := by
  rw [builder_eq plain built] at yields
  simp only [bind_assoc, pure_bind, place_all all, Run.yields_bind,
    Run.yields_plant, Run.yields_tend, Run.yields_pure] at yields
  rcases yields with ⟨_, _, ⟨rfl, rfl⟩, _, _, rfl, rfl, rfl⟩
  have same : (before.forest.addNode (growth.nodeOf label sequence)).2.items given =
      bodies.map Body.value := given_held
  dsimp only
  rw [same, locate_added marks rfl]
  generalize ({} : Span).around (Appearance.placesOf (bodies.map Body.looks)) = span
  have touches : before.forest.Touches
      (before.forest.addLocated (growth.nodeOf label sequence) span) [] :=
    (Touches.addSpan before.forest span).trans (.addNode ..)
  have absent : ¬before.forest.HasCell (.span ⟨before.forest.spans.size⟩) := Nat.lt_irrefl _
  rcases List.nodup_cons.mp nodup with ⟨outside, nodup⟩
  refine ⟨⟨.node (before.forest.addNode (growth.nodeOf label sequence)).1
    { growth.nodeOf label sequence with span := some (before.forest.addSpan span).1 }
    (before.forest.addSpan span).1 span chosen, rfl, fun _ => ?_, ?_, ?_, ?_⟩,
    touches.mono (List.nil_subset _)⟩
  · rw [Body.looks, Body.looksOf_eq_map]
    rfl
  · refine .node ?_ rfl ?_ (touches.sequence List.not_mem_nil held) fun child member =>
      (bears child member).keep touches (List.disjoint_nil_right _)
    · simp [addLocated, addNode, addSpan]
    · simp [addLocated, addNode, addSpan]
  · rw [Body.cells, List.nodup_cons, List.nodup_cons]
    refine ⟨fun member => ?_, fun member => absent (hasCell_of_bears bears _ member), nodup⟩
    exact (List.mem_cons.mp member).elim (by rintro ⟨⟩) outside
  · rw [Body.cells, List.forall_mem_cons, List.forall_mem_cons]
    exact ⟨.inl (List.mem_cons_self ..), .inr absent, fun cell member =>
      .inl (List.mem_cons_of_mem _ member)⟩

/-- A value that is handed on gets its position from the places of the values, where it is
settled. -/
theorem hand_bears {given : SequenceId} {only : Body} (all : growth.propagation = .all)
    (marks : ∀ body ∈ bodies, before.forest.Marks body)
    (given_held : before.forest.items given = bodies.map Body.value)
    (bears : before.forest.Bears only) (nodup : only.cells.Nodup)
    (yields : (growth.place given only.value).Yields before value after) :
    Becomes before.forest after.forest only.cells value
      (∀ spanId, only.spanId? = some spanId → Settled only spanId bodies)
      (only.looks.around (Appearance.placesOf (bodies.map Body.looks))) := by
  cases bears with
  | plain isPlain =>
      rw [place_eq_pure (by cases ‹Value› <;> first | rfl | cases isPlain)] at yields
      rcases Run.yields_pure.mp yields with ⟨rfl, rfl⟩
      exact ⟨⟨_, rfl, fun _ => rfl, .plain isPlain, nodup, fun _ => .inl⟩, .refl _ _⟩
  | sequence held each =>
      rw [place_eq_pure rfl] at yields
      rcases Run.yields_pure.mp yields with ⟨rfl, rfl⟩
      exact ⟨⟨_, rfl, fun _ => rfl, .sequence held each, nodup, fun _ => .inl⟩, .refl _ _⟩
  | @node id node spanId span children found spanned covers held each =>
      rw [Body.value, place_all all] at yields
      simp only [Run.yields_bind, Run.yields_tend, Run.yields_pure] at yields
      rcases yields with ⟨_, _, rfl, rfl, rfl⟩
      have here : before.forest.Marks (.node id node spanId span children) :=
        ⟨found, spanned, covers⟩
      rcases exists_locate here (bodies.map Body.value) with ⟨span', located⟩
      have touches := Touches.setSpan before.forest spanId span'
      rw [given_held, located]
      refine ⟨⟨.node id node spanId span' children, rfl, fun settled => ?_, ?_, nodup,
        fun _ => .inl⟩, touches.mono (by simp [Body.cells])⟩
      · rw [locate_handed marks here (settled spanId rfl)] at located
        have spans := congrArg (fun forest => forest.spans[spanId.index]?) located
        rw [span_setSpan covers, span_setSpan covers] at spans
        rw [← Option.some.inj spans]
        rfl
      · rcases List.nodup_cons.mp (List.nodup_cons.mp nodup).2 with ⟨outside, -⟩
        refine .node found spanned (span_setSpan covers _) held fun child member => ?_
        refine (each child member).keep touches (List.disjoint_singleton.mpr fun inside => ?_)
        exact outside (Body.cells_subset member inside)

/-- What a rule is replaced by gets its position from the places of the values of its symbols. -/
theorem wrap_bears {sequence given : SequenceId} {label : String} {build : SequenceId → Run Value}
    {unwraps : Bool} (plain : growth.transformer = none) (all : growth.propagation = .all)
    (built : growth.builder label = .ok build)
    (marks : ∀ body ∈ bodies, before.forest.Marks body)
    (given_held : before.forest.items given = bodies.map Body.value)
    (held : before.forest.sequences[sequence.index]? = some (chosen.map Body.value))
    (bears : ∀ body ∈ chosen, before.forest.Bears body)
    (nodup : (Cell.sequence sequence :: Body.cellsOf chosen).Nodup)
    (yields : (wrap unwraps build sequence (chosen.map Body.value) >>= fun result =>
      growth.place given result).Yields before value after) :
    Becomes before.forest after.forest (.sequence sequence :: Body.cellsOf chosen) value
      (∀ only spanId, unwraps = true → chosen = [only] → only.spanId? = some spanId →
        Settled only spanId bodies)
      (Shape.wrapped unwraps label (growth.nodes == .variant)
        (Appearance.placesOf (bodies.map Body.looks)) (chosen.map Body.looks)) := by
  have builds (yields : (build sequence >>= fun result =>
      growth.place given result).Yields before value after) :=
    build_bears plain all built marks given_held held bears nodup yields
  unfold wrap at yields
  cases unwraps with
  | false => exact (builds yields).imp fun _ => ⟨trivial, rfl⟩
  | true =>
      match chosen with
      | [] => exact (builds yields).imp fun _ => ⟨trivial, rfl⟩
      | _ :: _ :: _ => exact (builds yields).imp fun _ => ⟨trivial, rfl⟩
      | [only] =>
          have own : Body.cellsOf [only] = only.cells := List.append_nil _
          rw [own] at nodup ⊢
          have becomes := hand_bears all marks given_held (bears only (List.mem_singleton_self _))
            (List.nodup_cons.mp nodup).2 yields
          refine (becomes.following (.refl _ _) fun cell member =>
            .inl (List.mem_cons_of_mem _ member)).imp fun settled => ⟨?_, rfl⟩
          exact fun spanId has => settled only spanId rfl rfl has

/-- What a reduction that keeps positions makes of the values of a rule's symbols looks as the rule
says, if the rule is steady there. -/
theorem reduce_bears {rule : Rule} {shape : Shape} {build : SequenceId → Run Value}
    (plain : growth.transformer = none) (all : growth.propagation = .all)
    (built : growth.builder rule.label = .ok build)
    (shaped : Shape.ofRule rule growth.placeholders = .ok shape)
    (bears : ∀ body ∈ bodies, before.forest.Bears body) (nodup : (Body.cellsOf bodies).Nodup)
    (yields : (growth.reduce shape build (bodies.map Body.value)).Yields before value after) :
    Becomes before.forest after.forest (Body.cellsOf bodies) value
      (shape.Steady (bodies.map Body.looks))
      (shape.located rule.label (growth.nodes == .variant) (bodies.map Body.looks)) := by
  rw [reduce_eq] at yields
  simp only [Run.yields_bind, Run.yields_plant, Run.yields_look] at yields
  rcases yields with
    ⟨_, _, ⟨rfl, rfl⟩, sequence, between, choose, _, _, ⟨rfl, rfl⟩, result,
      wrapped, wrap, place⟩
  have planted := Touches.addSequence before.forest (bodies.map Body.value)
  have fresh : ¬before.forest.HasCell
      (.sequence (before.forest.addSequence (bodies.map Body.value)).1) :=
    Nat.lt_irrefl _
  have outside : Cell.sequence (before.forest.addSequence (bodies.map Body.value)).1 ∉
      Body.cellsOf bodies := fun member => fresh (hasCell_of_bears bears _ member)
  rcases Shape.choose_bears shaped (held_addSequence ..)
      (fun body member => (bears body member).keep planted (List.disjoint_nil_right _))
      (List.nodup_cons.mpr ⟨outside, nodup⟩) choose with
    ⟨held, chosenBears, chosenNodup, within, ids, inside, touches⟩
  have given : between.forest.items (before.forest.addSequence (bodies.map Body.value)).1 =
      bodies.map Body.value := by
    have still := touches.sequence (fun member => outside (inside member)) (held_addSequence ..)
    simp [Forest.items, still]
  have marks : ∀ body ∈ bodies, between.forest.Marks body := fun body member =>
    ((bears body member).marks.keep planted fun _ _ => List.not_mem_nil).keep touches
      fun spanId _ listed => by simp at listed
  have items : between.forest.items sequence =
      (shape.chosen (.plain .nothing) Body.children bodies).map Body.value := by
    simp [Forest.items, held]
  have becomes := wrap_bears plain all built marks given held chosenBears chosenNodup
    (Run.yields_bind.mpr ⟨_, _, items ▸ wrap, place⟩)
  refine (becomes.following ((planted.mono (List.nil_subset _)).trans (touches.mono inside)) ?_).imp
    fun steady => ⟨fun only spanId unwraps same has => ?_, ?_⟩
  · intro cell member
    rcases within cell member with member | absent
    · exact (List.mem_cons.mp member).elim (fun same => .inr (same ▸ fresh)) .inl
    · exact .inr fun has => absent (planted.hasCell has)
  · cases only with
    | plain => cases has
    | sequence => cases has
    | node =>
        cases has
        exact steady.settled nodup unwraps same
  · unfold Shape.located
    rw [shape.chosen_looks]

end Growth

end Lalr
