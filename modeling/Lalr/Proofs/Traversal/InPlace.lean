import Lalr.Proofs.Pairs
import Lalr.Proofs.Traversal.Answering

/-!
# Transforming in place

Transformers that put what is made of a node into the place of the node change the tree that
they go through. As long as no node occurs twice in the tree and the handlers get hold of
nothing but what they are called with, what has been made of one part of the tree is out of
reach of what is done to the rest. All three ways to transform a tree then come to values that
look alike. They part at the root only: where it is discarded, the way that goes once through
the nodes gives the sign for that itself, and the others give nothing.
-/

namespace Lalr

open Forest

namespace Run

variable {α β : Type} {run : Run α} {before : Workspace} {touched more : NodeId → Prop}
  {holds : Forest → α → Prop} {holds' : Forest → β → Prop}

/-- Whether a run succeeds, with a value of which something holds, and leaves all nodes their
children apart from some. -/
def Reworks (run : Run α) (before : Workspace) (touched : NodeId → Prop)
    (holds : Forest → α → Prop) : Prop :=
  ∃ value after, run.Yields before value after ∧
    before.forest.DiffersAt after.forest touched ∧ holds after.forest value

namespace Reworks

theorem pure {value : α} (known : holds before.forest value) :
    (pure value : Run α).Reworks before touched holds :=
  ⟨value, before, yields_pure.mpr ⟨rfl, rfl⟩, .refl _ _, known⟩

theorem bind {rest : α → Run β} (first : run.Reworks before touched holds)
    (second : ∀ {given between}, before.forest.DiffersAt between.forest touched →
      holds between.forest given → (rest given).Reworks between touched holds') :
    (run >>= rest).Reworks before touched holds' := by
  rcases first with ⟨given, between, yields, differs, known⟩
  rcases second differs known with ⟨value, after, yields', differs', known'⟩
  exact ⟨value, after, yields_bind.mpr ⟨given, between, yields, yields'⟩,
    differs.trans differs', known'⟩

theorem mono {holds' : Forest → α → Prop} (reworks : run.Reworks before touched holds)
    (weaker : ∀ id, touched id → more id)
    (known : ∀ {forest value}, holds forest value → holds' forest value) :
    run.Reworks before more holds' := by
  rcases reworks with ⟨value, after, yields, differs, holds⟩
  exact ⟨value, after, yields, differs.mono weaker, known holds⟩

end Reworks

theorem Adds.reworks (adds : run.Adds before holds) : run.Reworks before touched holds := by
  rcases adds with ⟨value, after, yields, preserves, known⟩
  exact ⟨value, after, yields, .of_preserves preserves, known⟩

end Run

namespace Transformer

variable {transformer : Transformer} {meaning : Meaning} {before : Workspace} {id : NodeId}
  {children : SequenceId} {node : Node} {items : List Value} {seen : List Appearance}
  {label : String} {span : Span} {variant : Bool}

/-! ## The children of a node -/

variable {original now later : Forest} {value : Value} {look : Appearance} {depth : Nat}
  {visitsTokens : Bool}

/-- Whether all that a value reached in an earlier forest has the children that it had there. -/
def Untouched (original : Forest) (value : Value) (now : Forest) : Prop :=
  original.DiffersAt now fun id => ¬original.Reaches value id

namespace Untouched

theorem appears (untouched : Untouched original value now)
    (appears : original.Appears [] value look) : now.Appears [] value look :=
  appears.differ untouched fun _ reaches touched => touched reaches

theorem reaches (untouched : Untouched original value now)
    (appears : original.Appears [] value look) (reaches : now.Reaches value id) :
    original.Reaches value id :=
  reaches.earlier untouched appears fun _ reached touched => touched reached

/-- A value stays as it was where only nodes change that it did not reach. -/
theorem differ {touched : NodeId → Prop} (untouched : Untouched original value now)
    (differs : now.DiffersAt later touched)
    (outside : ∀ id, touched id → ¬original.Reaches value id) :
    Untouched original value later :=
  untouched.trans (differs.mono outside)

end Untouched

/-- Whether a value is what a value of an earlier forest is turned into: it looks like that, and it
reaches what that value reached, and what is new, at most. -/
def Turned (meaning : Meaning) (visitsTokens : Bool) (original : Forest) (value : Value)
    (look : Appearance) (forest : Forest) (result : Value) : Prop :=
  forest.Appears [] result (meaning.turn visitsTokens look) ∧
    ∀ id, forest.Reaches result id →
      original.Reaches value id ∨ original.nodes.size ≤ id.index

/-- Whether values are what some values of an earlier forest are turned into, without those that are
discarded. -/
def AllTurned (meaning : Meaning) (visitsTokens : Bool) (original : Forest) (values : List Value)
    (seen : List Appearance) (forest : Forest) (results : List Value) : Prop :=
  forest.AllAppear [] results (meaning.turnAll visitsTokens seen) ∧
    ∀ id, ∀ result ∈ results, forest.Reaches result id →
      (∃ value ∈ values, original.Reaches value id) ∨ original.nodes.size ≤ id.index

/-- What a value is turned into stays what it is where only nodes change that it does not reach. -/
theorem Turned.differ {touched : NodeId → Prop} {result : Value}
    (turned : Turned meaning visitsTokens original value look now result)
    (differs : now.DiffersAt later touched)
    (outside : ∀ id, now.Reaches result id → ¬touched id) :
    Turned meaning visitsTokens original value look later result :=
  ⟨turned.1.differ differs outside, fun id reaches =>
    turned.2 id (reaches.earlier differs turned.1 outside)⟩

/-- A value that is discarded is left out. -/
theorem AllTurned.skip {rest results : List Value}
    (sign : meaning.turn visitsTokens look = .plain .discard)
    (turned : AllTurned meaning visitsTokens original rest seen now results) :
    AllTurned meaning visitsTokens original (value :: rest) (look :: seen) now results := by
  refine ⟨by rw [Meaning.turnAll_of_discard sign]; exact turned.1,
    fun id result member reaches => ?_⟩
  exact (turned.2 id result member reaches).imp_left fun ⟨other, listed, old⟩ =>
    ⟨other, List.mem_cons_of_mem _ listed, old⟩

theorem AllTurned.cons {result : Value} {rest results : List Value}
    (present : meaning.turn visitsTokens look ≠ .plain .discard)
    (first : Turned meaning visitsTokens original value look now result)
    (turned : AllTurned meaning visitsTokens original rest seen now results) :
    AllTurned meaning visitsTokens original (value :: rest) (look :: seen) now
      (result :: results) := by
  constructor
  · rw [Meaning.turnAll_of_present present]
    exact .cons first.1 turned.1
  · intro id other member reaches
    rcases List.mem_cons.mp member with rfl | member
    · exact (first.2 id reaches).imp_left fun old => ⟨value, List.mem_cons_self, old⟩
    · exact (turned.2 id other member reaches).imp_left fun ⟨each, listed, old⟩ =>
        ⟨each, List.mem_cons_of_mem _ listed, old⟩

/-- How a transformer goes down to the children of a node: what has to be known of a child before it
is turned into what it should be, which nodes may get other children by that, and that what is known
of the other children stays true. -/
structure Descent (transformer : Transformer) (meaning : Meaning) (original : Forest)
    (descend : NodeId → Run Value) (fit : Value → Forest → Prop)
    (touched : Value → NodeId → Prop) :
    Prop where
  node : ∀ {before : Workspace} {id : NodeId} {look : Appearance},
    original.Appears [] (.node id) look → fit (.node id) before.forest →
      (descend id).Reworks before (touched (.node id))
        (Turned meaning transformer.visitsTokens original (.node id) look)
  leaf : ∀ {value : Value} {now : Forest}, value.isNode = false → fit value now →
    Untouched original value now
  inside : ∀ {value : Value} {id : NodeId}, touched value id → original.Reaches value id
  stays : ∀ {value other : Value} {now later : Forest}, original.Foreign other value →
    fit value now → now.DiffersAt later (touched other) → fit value later

namespace Descent

variable {descend : NodeId → Run Value} {fit : Value → Forest → Prop}
  {touched : Value → NodeId → Prop}

/-- A value is turned into what it should be. -/
theorem transformValue (descent : Descent transformer meaning original descend fit touched)
    (computes : transformer.Computes meaning) (appears : original.Appears [] value look)
    (fits : fit value before.forest) :
    (transformer.transformValue descend value).Reworks before (touched value)
      (Turned meaning transformer.visitsTokens original value look) := by
  have stays (isLeaf : value.isNode = false)
      (same : meaning.turn transformer.visitsTokens look = look) :
      (Pure.pure value : Run Value).Reworks before (touched value)
        (Turned meaning transformer.visitsTokens original value look) := by
    have untouched := descent.leaf isLeaf fits
    refine .pure ⟨?_, fun id reaches => .inl (untouched.reaches appears reaches)⟩
    rw [same]
    exact untouched.appears appears
  cases value with
  | node id => exact descent.node appears fits
  | token token =>
      cases appears with
      | plain isPlain =>
          unfold Transformer.transformValue
          dsimp only
          split
          next visits =>
            have brings := @Computes.transformToken_brings _ _ before computes token
            have grows := (descent.leaf rfl fits).size_le
            refine Run.Reworks.mono brings.reworks (fun _ => id) fun known => ?_
            refine ⟨by simpa [Meaning.turn, visits] using known.1, fun id reaches => .inr ?_⟩
            exact Nat.le_trans grows ((known.2 id reaches).resolve_left not_false)
          next visits => exact stays rfl (by simp [Meaning.turn, visits])
  | sequence id =>
      cases appears with
      | plain isPlain => cases isPlain
      | sequence => exact stays rfl (by simp [Meaning.turn])
  | _ =>
      cases appears with
      | plain isPlain => exact stays rfl (by simp [Meaning.turn])

/-- Values without common parts are turned into what they should be, one after the other. -/
theorem transformValues (descent : Descent transformer meaning original descend fit touched)
    (computes : transformer.Computes meaning) (values : List Value) :
    ∀ {before : Workspace} {seen : List Appearance}, original.AllAppear [] values seen →
      values.Pairwise original.Foreign → (∀ value ∈ values, fit value before.forest) →
        (transformer.transformValues descend values).Reworks before
          (fun id => ∃ value ∈ values, touched value id)
          (AllTurned meaning transformer.visitsTokens original values seen) := by
  induction values with
  | nil =>
      intro before seen appear _ _
      cases appear
      exact .pure ⟨.nil, by simp⟩
  | cons value rest ih =>
      intro before seen appear apart fits
      cases appear with
      | @cons _ _ look seen appears others =>
          rw [List.forall_mem_cons] at fits
          rcases List.pairwise_cons.mp apart with ⟨foreign, apart⟩
          rcases descent.transformValue computes appears fits.1 with
            ⟨given, between, yields, differs, first⟩
          have stillFit : ∀ other ∈ rest, fit other between.forest := fun other member =>
            descent.stays (foreign other member) (fits.2 other member) differs
          rcases ih others apart stillFit with ⟨results, after, yields', differs', turned⟩
          -- What has been made is out of reach of what is done to the other values.
          have outside : ∀ id, between.forest.Reaches given id →
              ¬∃ other ∈ rest, touched other id := by
            rintro id reaches ⟨other, member, touch⟩
            have inside := descent.inside touch
            rcases first.2 id reaches with old | new
            · exact foreign other member id old inside
            · rcases others.exists_of_mem member with ⟨_, _, appears⟩
              exact Nat.not_le_of_lt (inside.index_lt appears) new
          have first := first.differ differs' outside
          have whole : before.forest.DiffersAt after.forest fun id =>
              ∃ each ∈ value :: rest, touched each id :=
            (differs.mono fun id touch => ⟨value, List.mem_cons_self, touch⟩).trans
              (differs'.mono fun id ⟨other, member, touch⟩ =>
                ⟨other, List.mem_cons_of_mem _ member, touch⟩)
          by_cases discarded : given = .discard
          · subst discarded
            have discard : after.forest.Appears [] .discard (.plain .discard) := .plain rfl
            have sign := first.1.unique discard
            refine ⟨results, after, Run.yields_bind.mpr ?_, whole, turned.skip sign⟩
            exact ⟨_, _, iterating_yields.mpr yields, yields'⟩
          · have present : meaning.turn transformer.visitsTokens look ≠ .plain .discard := by
              intro sign
              have looksLike := first.1
              rw [sign] at looksLike
              cases looksLike with
              | plain => exact discarded rfl
            have listed : (transformer.transformValues descend (value :: rest)).Yields before
                (given :: results) after := by
              refine Run.yields_bind.mpr ⟨given, between, iterating_yields.mpr yields, ?_⟩
              split
              · exact absurd rfl discarded
              · exact Run.yields_bind.mpr ⟨_, _, yields', Run.yields_pure.mpr ⟨rfl, rfl⟩⟩
            exact ⟨given :: results, after, listed, whole, turned.cons present first⟩

end Descent

/-- A node whose children are what its children in an earlier forest are turned into is itself
turned into what it should be. -/
theorem Computes.transformNode_turned (computes : transformer.Computes meaning)
    {touched : NodeId → Prop} {results : List Value} (has : original.HasNode id label items)
    (found : before.forest.nodes[id.index]? = some node)
    (looks : before.forest.NodeLooks node label span variant)
    (held : before.forest.sequences[children.index]? = some results)
    (turned : AllTurned meaning visitsTokens original items seen before.forest results)
    (grows : original.nodes.size ≤ before.forest.nodes.size)
    (own : transformer.kind = .inPlace → node.children = children) :
    (transformer.transformNode id children).Reworks before touched
      (Turned meaning visitsTokens original (.node id) (.node label span variant seen)) := by
  have brings := computes.transformNode_brings found looks held turned.1 own
  refine Run.Reworks.mono brings.reworks (fun _ touch => touch) fun {forest value} known => ?_
  refine ⟨known.1, fun target reaches => ?_⟩
  rcases known.2 target reaches with (⟨_, rfl⟩ | ⟨result, listed, reached⟩) | new
  · exact .inl .self
  · exact (turned.2 target result listed reached).imp_left has.reaches
  · exact .inr (Nat.le_trans grows new)

/-- What values are turned into stays what it is where only nodes change that the values do not
reach and that are not new. -/
theorem AllTurned.differ {touched : NodeId → Prop} {results : List Value}
    (turned : AllTurned meaning visitsTokens original values seen now results)
    (differs : now.DiffersAt later touched)
    (outside : ∀ id, touched id →
      (∀ value ∈ values, ¬original.Reaches value id) ∧ id.index < original.nodes.size) :
    AllTurned meaning visitsTokens original values seen later results := by
  have avoids : ∀ id, ∀ result ∈ results, now.Reaches result id → ¬touched id := by
    intro id result listed reaches touch
    rcases outside id touch with ⟨unreached, present⟩
    rcases turned.2 id result listed reaches with ⟨value, member, old⟩ | new
    · exact unreached value member old
    · exact Nat.not_le_of_lt present new
  refine ⟨turned.1.differ differs avoids, fun id result listed reaches => ?_⟩
  rcases turned.1.exists_of_mem listed with ⟨_, _, appears⟩
  exact turned.2 id result listed (reaches.earlier differs appears fun id =>
    avoids id result listed)

section Results

variable {results : List Value} {touched : NodeId → Prop}
  (computes : transformer.Computes meaning) (has : original.HasNode id label items)
  (found : before.forest.nodes[id.index]? = some node)
  (looks : before.forest.NodeLooks node label span variant)
  (turned : AllTurned meaning visitsTokens original items seen before.forest results)
  (grows : original.nodes.size ≤ before.forest.nodes.size)

include computes has found looks turned grows

/-- What the children are turned into may be put into the place of the children before the node is
transformed. -/
theorem Computes.replaced_turned (new : ∀ item ∈ items, ¬original.Reaches item id) :
    Run.Reworks (do
        Work.tend fun forest => forest.replaceChildren id results
        transformer.transformNode id (← Work.look fun forest => (forest.node id).children))
      before (original.Reaches (.node id))
      (Turned meaning visitsTokens original (.node id) (.node label span variant seen)) := by
  have differs := DiffersAt.replaceChildren before.forest id results
  have stays : AllTurned meaning visitsTokens original items seen
      (before.forest.replaceChildren id results) results :=
    turned.differ differs fun _ same => same ▸ ⟨new, has.bound⟩
  rcases DiffersAt.exists_replaced found looks results with ⟨kept, foundKept, looksKept, held⟩
  have here : ((before.forest.replaceChildren id results).node id).children = kept.children := by
    simp [Forest.node, foundKept]
  let between : Workspace := { before with forest := before.forest.replaceChildren id results }
  have attended : (transformer.transformNode id kept.children).Reworks between
      (original.Reaches (.node id))
      (Turned meaning visitsTokens original (.node id) (.node label span variant seen)) :=
    computes.transformNode_turned has foundKept looksKept held stays
      (Nat.le_trans grows differs.size_le) fun _ => rfl
  rcases attended with ⟨value, after, yields, later, known⟩
  refine ⟨value, after, Run.yields_bind.mpr ⟨(), _, Run.yields_tend.mpr rfl, ?_⟩,
    (differs.mono fun _ same => same ▸ .self).trans later, known⟩
  exact Run.yields_bind.mpr ⟨_, _, Run.yields_look.mpr ⟨here, rfl⟩, yields⟩

/-- What the children are turned into may be put into a new sequence for the node to be transformed
with. -/
theorem Computes.planted_turned (recursive : transformer.kind ≠ .inPlace) :
    Run.Reworks (do
        transformer.transformNode id (← Work.plant fun forest => forest.addSequence results))
      before touched
      (Turned meaning visitsTokens original (.node id) (.node label span variant seen)) := by
  have preserves : Preserves true before.forest _ [] := .addSequence before.forest results
  have differs : before.forest.DiffersAt (before.forest.addSequence results).2 fun _ => False :=
    .of_preserves preserves
  have stays : AllTurned meaning visitsTokens original items seen
      (before.forest.addSequence results).2 results :=
    turned.differ differs fun _ none => none.elim
  let between : Workspace := { before with forest := (before.forest.addSequence results).2 }
  have attended : (transformer.transformNode id (before.forest.addSequence results).1).Reworks
      between touched
      (Turned meaning visitsTokens original (.node id) (.node label span variant seen)) :=
    computes.transformNode_turned has found ⟨looks.label, looks.span, looks.variant⟩
      (held_addSequence ..) stays (Nat.le_trans grows differs.size_le)
      fun inPlace => absurd inPlace recursive
  rcases attended with ⟨value, after, yields, later, known⟩
  exact ⟨value, after, Run.yields_bind.mpr ⟨_, _,
    Run.yields_plant.mpr ⟨rfl, rfl⟩, yields⟩,
    (differs.mono fun _ none => none.elim).trans later, known⟩

end Results

/-! ## By recursion -/

/-- What has to be known of a value before recursion goes down to it. -/
def Fit (original : Forest) (depth : Nat) (value : Value) (now : Forest) : Prop :=
  Untouched original value now ∧ original.Unshared value ∧
    ∃ look, original.Appears [] value look ∧ look.height ≤ depth

/-- Recursion that turns nodes into what they should be can be used for the children of a node. -/
theorem descent_recursive {descend : NodeId → Run Value}
    (turns : ∀ {before : Workspace} {id : NodeId} {look : Appearance},
      original.Appears [] (.node id) look → look.height ≤ depth →
        original.Unshared (.node id) →
        Untouched original (.node id) before.forest →
          (descend id).Reworks before (original.Reaches (.node id))
            (Turned meaning transformer.visitsTokens original (.node id) look)) :
    Descent transformer meaning original descend (Fit original depth) original.Reaches where
  node appears fits := by
    rcases fits with ⟨untouched, unshared, look, appears', enough⟩
    rcases appears.unique appears' with rfl
    exact turns appears enough unshared untouched
  leaf _ fits := fits.1
  inside reaches := reaches
  stays foreign fits differs := ⟨fits.1.differ differs foreign, fits.2⟩

/-- Recursion turns a node into what it should be, and changes the children of nodes that the node
reaches at most. Induction on how far down it goes. -/
theorem Computes.transformTo_reworks (computes : transformer.Computes meaning)
    (recursive : transformer.kind ≠ .inPlace) (depth : Nat) :
    ∀ {before : Workspace} {id : NodeId} {look : Appearance},
      original.Appears [] (.node id) look → look.height ≤ depth →
        original.Unshared (.node id) → Untouched original (.node id) before.forest →
          (transformer.transformTo depth id).Reworks before (original.Reaches (.node id))
            (Turned meaning transformer.visitsTokens original (.node id) look) := by
  induction depth with
  | zero =>
      intro before id look appears enough
      rcases appears.exists_node with ⟨_, _, _, _, _, _, rfl, _⟩
      exact absurd enough (by simp [Appearance.height])
  | succ depth ih =>
      intro before id look appears enough unshared untouched
      rcases appears.exists_node with
        ⟨node, items, label, span, variant, seen, rfl, found, looks, held, appear⟩
      have has : original.HasNode id label items := ⟨node, found, looks.label, held⟩
      rcases unshared.of_children has with ⟨new, apart, below⟩
      have present : id.index < original.nodes.size := (Array.getElem?_eq_some_iff.mp found).1
      refine Run.Reworks.bind Run.Adds.look.reworks ?_
      rintro _ between - ⟨same, rfl⟩
      rw [← same] at untouched ⊢
      rcases untouched.hasNode found looks held fun outside => outside .self with
        ⟨kept, foundKept, looksKept, heldKept⟩
      have kids : between.forest.children id = items := by
        simp [Forest.children, Forest.node, Forest.items, foundKept, heldKept]
      rw [kids]
      have lower : Appearance.heightOf seen ≤ depth := Nat.le_of_succ_le_succ enough
      have fits : ∀ item ∈ items, Fit original depth item between.forest := by
        intro item member
        rcases appear.exists_of_mem member with ⟨look, listed, appears⟩
        refine ⟨untouched.mono fun target outside inside => outside (.child has member inside),
          below item member, look, appears, ?_⟩
        exact Nat.le_trans (Appearance.height_le_heightOf listed) lower
      have descended := (descent_recursive ih).transformValues computes items appear apart fits
      refine Run.Reworks.bind (descended.mono (fun _ => has.reaches) fun known => known) ?_
      intro results after differs turned
      rcases differs.node foundKept with ⟨last, foundLast, looksLast, _⟩
      have grows : original.nodes.size ≤ after.forest.nodes.size :=
        Nat.le_trans untouched.size_le differs.size_le
      split
      next inPlace =>
        exact computes.replaced_turned has foundLast (looksLast looksKept) turned grows new
      next =>
        exact computes.planted_turned has foundLast (looksLast looksKept) turned grows recursive

/-! ## Going once through the nodes -/

/-- Whether the children of a node are what its children in an earlier forest are turned into, so
that only the node itself is left to be transformed. -/
structure Finished (meaning : Meaning) (visitsTokens : Bool) (original now : Forest) (id : NodeId) :
    Prop where
  turned : ∀ {items : List Value} {label : String} {span : Span} {variant : Bool}
    {seen : List Appearance},
    original.Appears [] (.node id) (.node label span variant seen) →
      original.HasNode id label items →
        ∃ node results, now.nodes[id.index]? = some node ∧
          now.NodeLooks node label span variant ∧
          now.sequences[node.children.index]? = some results ∧
          AllTurned meaning visitsTokens original items seen now results

/-- A finished node stays so where only nodes change that are not below it, nor the node itself, nor
new. -/
theorem Finished.differ {touched : NodeId → Prop}
    (finished : Finished meaning visitsTokens original now id)
    (differs : now.DiffersAt later touched) (self : ¬touched id)
    (outside : ∀ {label children child target}, original.HasNode id label children →
      child ∈ children → touched target → ¬original.Reaches child target)
    (present : ∀ {target}, touched target → target.index < original.nodes.size) :
    Finished meaning visitsTokens original later id := by
  constructor
  intro items label span variant seen appears has
  rcases finished.turned appears has with ⟨node, results, found, looks, held, turned⟩
  rcases differs.hasNode found looks held self with ⟨kept, foundKept, looksKept, heldKept⟩
  refine ⟨kept, results, foundKept, looksKept, heldKept,
    turned.differ differs fun target touch => ?_⟩
  exact ⟨fun child member => outside has member touch, present touch⟩

/-- A node is finished once what its children are turned into has been put into their place. -/
theorem Finished.of_replaced {results : List Value} (has : original.HasNode id label items)
    (appears : original.Appears [] (.node id) (.node label span variant seen))
    (new : ∀ item ∈ items, ¬original.Reaches item id)
    (found : now.nodes[id.index]? = some node) (looks : now.NodeLooks node label span variant)
    (turned : AllTurned meaning visitsTokens original items seen now results) :
    Finished meaning visitsTokens original (now.replaceChildren id results) id := by
  constructor
  intro items' label' span' variant' seen' appears' has'
  rcases has'.children_unique has with rfl
  cases appears.unique appears'
  rcases DiffersAt.exists_replaced found looks results with ⟨kept, found', looks', held'⟩
  refine ⟨kept, results, found', looks', held', ?_⟩
  refine turned.differ (DiffersAt.replaceChildren now id results) ?_
  rintro _ rfl
  exact ⟨new, has.bound⟩

/-- How far a transformer has come that goes once through the nodes of a tree: the nodes that it has
been through are finished, and no other node has got other children. -/
structure Through (meaning : Meaning) (visitsTokens : Bool) (original : Forest) (done : List NodeId)
    (now : Forest) : Prop where
  differs : original.DiffersAt now (· ∈ done)
  finished : ∀ id ∈ done, Finished meaning visitsTokens original now id

/-- The children of a node are turned into what they should be once they are finished: nothing is
changed by that. -/
theorem Computes.descent_finished (computes : transformer.Computes meaning) (done : List NodeId) :
    Descent transformer meaning original
      (fun child => do
        transformer.transformNode child (← Work.look fun forest => (forest.node child).children))
      (fun value now => original.DiffersAt now (· ∈ done) ∧
        (∀ id, value = .node id → Finished meaning transformer.visitsTokens original now id) ∧
        (value.isNode = false → Untouched original value now))
      (fun _ _ => False) where
  node {before id look} appears fits := by
    rcases fits with ⟨differs, finished, _⟩
    rcases appears.exists_node with
      ⟨node, items, label, span, variant, seen, rfl, found, looks, held, _⟩
    have has : original.HasNode id label items := ⟨node, found, looks.label, held⟩
    rcases (finished id rfl).turned appears has with
      ⟨kept, results, foundKept, looksKept, heldKept, turned⟩
    have here : (before.forest.node id).children = kept.children := by
      simp [Forest.node, foundKept]
    rcases computes.transformNode_turned has foundKept looksKept
        heldKept turned differs.size_le fun _ => rfl with
      ⟨value, after, yields, known⟩
    exact ⟨value, after, Run.yields_bind.mpr ⟨_, _, Run.yields_look.mpr ⟨here, rfl⟩,
      yields⟩, known⟩
  leaf isLeaf fits := fits.2.2 isLeaf
  inside none := none.elim
  stays _ fits differs :=
    ⟨fits.1.trans (differs.mono fun _ none => none.elim),
      fun id same => (fits.2.1 id same).differ differs not_false (fun _ _ none => none.elim)
        fun none => none.elim,
      fun isLeaf => (fits.2.2 isLeaf).differ differs fun _ none => none.elim⟩

section Steps

variable {root : NodeId} {done rest : List NodeId} (computes : transformer.Computes meaning)
  (unshared : original.Unshared (.node root)) (appears : original.Appears [] (.node root) look)

include computes unshared appears

/-- One more node is finished as the transformer goes on to it: all that is below it has been
finished before. -/
theorem Computes.transformChildren_reworks (split : original.bottomUp root = done ++ id :: rest)
    (through : Through meaning transformer.visitsTokens original done before.forest) :
    ∃ after, (transformer.transformChildren id).Yields before () after ∧
      Through meaning transformer.visitsTokens original (done ++ [id]) after.forest := by
  rcases unshared.bottomUp_split appears.isTree split with ⟨notDone, here, below, above⟩
  rcases (here.reaches .self).appears appears with ⟨_, looked⟩
  rcases looked.exists_node with
    ⟨node, items, label, span, variant, seen, rfl, found, looks, held, appear⟩
  have has : original.HasNode id label items := ⟨node, found, looks.label, held⟩
  rcases through.differs.hasNode found looks held notDone with
    ⟨kept, foundKept, looksKept, heldKept⟩
  have kids : before.forest.children id = items := by
    simp [Forest.children, Forest.node, Forest.items, foundKept, heldKept]
  rcases (unshared.of_below here).of_children has with ⟨new, apart, _⟩
  have inTree {target : NodeId} (listed : target ∈ done) : original.Below
      (.node root) target := by
    refine (mem_bottomUp appears.isTree).mp ?_
    rw [split]
    exact List.mem_append_left _ listed
  have fits : ∀ item ∈ items, original.DiffersAt before.forest (· ∈ done) ∧
      (∀ id, item = .node id →
        Finished meaning transformer.visitsTokens original before.forest id) ∧
      (item.isNode = false → Untouched original item before.forest) := by
    refine fun item member => ⟨through.differs, ?_, fun isLeaf => ?_⟩
    · rintro kid rfl
      exact through.finished kid (below has member)
    · refine through.differs.mono fun target listed reaches => ?_
      exact unshared.not_below here has member isLeaf reaches (inTree listed)
  rcases (computes.descent_finished done).transformValues computes items appear apart fits with
    ⟨results, between, yields, differs, turned⟩
  have unchanged : before.forest.DiffersAt between.forest fun _ => False :=
    differs.mono fun _ ⟨_, _, impossible⟩ => impossible
  have replaced := DiffersAt.replaceChildren between.forest id results
  refine ⟨{ between with forest := between.forest.replaceChildren id results }, ?_, ?_, ?_⟩
  · refine Run.yields_bind.mpr ⟨items, before, Run.yields_look.mpr ⟨kids, rfl⟩, ?_⟩
    exact Run.yields_bind.mpr ⟨results, between, yields, Run.yields_tend.mpr rfl⟩
  · refine (through.differs.mono fun _ listed => List.mem_append_left _ listed).trans ?_
    refine (unchanged.mono fun _ none => none.elim).trans (replaced.mono ?_)
    rintro _ rfl
    simp
  · intro other listed
    rcases List.mem_append.mp listed with passed | last
    · have still : Finished meaning transformer.visitsTokens original between.forest other :=
        (through.finished other passed).differ unchanged not_false
          (fun _ _ none => none.elim) fun none => none.elim
      refine still.differ replaced ?_ ?_ ?_
      · rintro rfl
        exact notDone passed
      · rintro label children child _ hasChild member rfl
        exact above passed hasChild member
      · rintro _ rfl
        exact has.bound
    · rcases List.mem_singleton.mp last with rfl
      rcases unchanged.node foundKept with ⟨last, foundLast, looksLast, _⟩
      exact .of_replaced has looked new foundLast (looksLast looksKept) turned

/-- Going through the nodes that are left finishes them. Induction on these nodes. -/
theorem Computes.through_all (left : List NodeId) : ∀ {done : List NodeId} {before : Workspace},
    original.bottomUp root = done ++ left →
      Through meaning transformer.visitsTokens original done before.forest →
        ∃ after, (left.forM transformer.transformChildren).Yields before () after ∧
          Through meaning transformer.visitsTokens original (done ++ left) after.forest := by
  induction left with
  | nil =>
      intro done before _ through
      exact ⟨before, Run.yields_pure.mpr ⟨rfl, rfl⟩, by simpa using through⟩
  | cons id left ih =>
      intro done before split through
      rcases computes.transformChildren_reworks unshared appears split through with
        ⟨between, yields, through⟩
      have further : original.bottomUp root = (done ++ [id]) ++ left := by simpa using split
      rcases ih further through with ⟨after, yields', through⟩
      exact ⟨after, Run.yields_bind.mpr ⟨(), between, yields,
        yields'⟩, by simpa using through⟩

end Steps

/-! ## All three ways -/

/-- Whether a run comes to a value that looks like something. -/
def ComesTo (run : Run Value) (before : Workspace) (look : Appearance) : Prop :=
  ∃ value after, run.Yields before value after ∧ after.forest.Appears [] value look

/-- What is given for a tree that is turned into something: nothing if it is discarded. -/
def givenFor : Appearance → Appearance
  | .plain .discard => .plain .nothing
  | look => look

/-- What a discarded root leaves looks like nothing, and any other value stays as it is. -/
theorem appears_orNothing (appears : now.Appears [] value look) :
    now.Appears [] (orNothing value) (givenFor look) := by
  by_cases discarded : value = .discard
  · subst discarded
    have sign : now.Appears [] .discard (.plain .discard) := .plain rfl
    rcases appears.unique sign with rfl
    exact .plain rfl
  · have same : orNothing value = value := by
      unfold orNothing
      split
      next => exact absurd rfl discarded
      next => rfl
    have sameLook : givenFor look = look := by
      unfold givenFor
      split
      next =>
        cases appears with
        | plain => exact absurd rfl discarded
      next => rfl
    rw [same, sameLook]
    exact appears

section Ways

variable {root : NodeId} (computes : transformer.Computes meaning)
  (unshared : before.forest.Unshared (.node root))
  (appears : before.forest.Appears [] (.node root) look)

include computes unshared appears

/-- With recursion, a tree is turned into what it should be, and nothing is given for it if that is
to be discarded. -/
theorem Computes.transform_recursive
    (recursive : transformer.kind = .copying ∨ transformer.kind = .inPlaceRecursive) :
    ComesTo (transformer.transform (.node root)) before
      (givenFor (meaning.turn transformer.visitsTokens look)) := by
  have notOnce : transformer.kind ≠ .inPlace := by
    rcases recursive with same | same <;> simp [same]
  have untouched : Untouched before.forest (.node root) before.forest := .refl _ _
  rcases computes.transformTo_reworks notOnce _ appears
      (Nat.le_of_lt appears.height_lt) unshared untouched with
    ⟨value, after, yields, _, looksLike, _⟩
  refine ⟨orNothing value, after, ?_, appears_orNothing looksLike⟩
  refine Run.yields_bind.mpr ⟨_, _, Run.yields_look.mpr ⟨rfl, rfl⟩, ?_⟩
  have given : Run.Yields
      (do return orNothing (← iterating (transformer.transformValue
        (transformer.transformTo before.forest.depthBound) (.node root))))
      before (orNothing value) after :=
    Run.yields_bind.mpr
      ⟨value, after, iterating_yields.mpr yields, Run.yields_pure.mpr ⟨rfl, rfl⟩⟩
  rcases recursive with same | same <;> simpa only [same] using given

/-- Going once through its nodes, a tree is turned into what it should be. -/
theorem Computes.transform_once (once : transformer.kind = .inPlace) :
    ComesTo (transformer.transform (.node root)) before
      (meaning.turn transformer.visitsTokens look) := by
  have starts : Through meaning transformer.visitsTokens before.forest [] before.forest :=
    ⟨.refl _ _, nofun⟩
  rcases computes.through_all unshared appears (before.forest.bottomUp root) rfl starts with
    ⟨between, went, through⟩
  rw [List.nil_append] at through
  rcases appears.exists_node with
    ⟨node, items, label, span, variant, seen, rfl, found, looks, held, _⟩
  have listed : root ∈ before.forest.bottomUp root :=
    (mem_bottomUp appears.isTree).mpr (.root rfl)
  have has : before.forest.HasNode root label items := ⟨node, found, looks.label, held⟩
  rcases (through.finished root listed).turned appears has with
    ⟨kept, results, foundKept, looksKept, heldKept, turned⟩
  have here : (between.forest.node root).children = kept.children := by
    simp [Forest.node, foundKept]
  have attended : (transformer.transformNode root kept.children).Reworks between (fun _ => False)
      (Turned meaning transformer.visitsTokens before.forest (.node root)
        (.node label span variant seen)) :=
    computes.transformNode_turned has foundKept looksKept heldKept turned through.differs.size_le
      fun _ => rfl
  rcases attended with ⟨value, after, yields, _, looksLike, _⟩
  refine ⟨value, after, ?_, looksLike⟩
  refine Run.yields_bind.mpr ⟨_, before, Run.yields_look.mpr ⟨rfl, rfl⟩, ?_⟩
  simp only [once]
  refine Run.yields_bind.mpr ⟨_, before, Run.yields_look.mpr ⟨rfl, rfl⟩, ?_⟩
  refine Run.yields_bind.mpr ⟨(), between, went, ?_⟩
  exact Run.yields_bind.mpr ⟨_, between, Run.yields_look.mpr ⟨here, rfl⟩, yields⟩

end Ways

theorem givenFor_of_present (present : look ≠ .plain .discard) : givenFor look = look := by
  unfold givenFor
  split
  next => exact absurd rfl present
  next => rfl

/-- Handlers that answer the same, given as the three kinds of transformers call them, turn a tree
in which no node occurs twice into values that look alike: in place, with recursion or going once
through the nodes, a transformer comes to what one comes to that makes new nodes. Where the root is
discarded, the two that work by recursion give nothing, and the one that goes once through the nodes
gives the sign for it. -/
theorem transform_in_place {copying recursive once : Transformer} {root : NodeId}
    (isCopying : copying.kind = .copying) (isRecursive : recursive.kind = .inPlaceRecursive)
    (isOnce : once.kind = .inPlace) (copyingComputes : copying.Computes meaning)
    (recursiveComputes : recursive.Computes meaning) (onceComputes : once.Computes meaning)
    (visits : copying.visitsTokens = visitsTokens)
    (recursiveVisits : recursive.visitsTokens = visitsTokens)
    (onceVisits : once.visitsTokens = visitsTokens)
    (appears : before.forest.Appears [] (.node root) look)
    (unshared : before.forest.Unshared (.node root)) :
    (meaning.turn visitsTokens look ≠ .plain .discard →
      ComesTo (copying.transform (.node root)) before (meaning.turn visitsTokens look) ∧
      ComesTo (recursive.transform (.node root)) before (meaning.turn visitsTokens look) ∧
      ComesTo (once.transform (.node root)) before (meaning.turn visitsTokens look)) ∧
    (meaning.turn visitsTokens look = .plain .discard →
      ComesTo (copying.transform (.node root)) before (.plain .nothing) ∧
      ComesTo (recursive.transform (.node root)) before (.plain .nothing) ∧
      ComesTo (once.transform (.node root)) before (.plain .discard)) := by
  have byCopies := copyingComputes.transform_recursive unshared appears (.inl isCopying)
  have inPlace := recursiveComputes.transform_recursive unshared appears (.inr isRecursive)
  have atOnce := onceComputes.transform_once unshared appears isOnce
  rw [visits] at byCopies
  rw [recursiveVisits] at inPlace
  rw [onceVisits] at atOnce
  constructor
  · intro present
    rw [givenFor_of_present present] at byCopies inPlace
    exact ⟨byCopies, inPlace, atOnce⟩
  · intro discarded
    rw [discarded] at byCopies inPlace atOnce
    exact ⟨byCopies, inPlace, atOnce⟩

/-! ## Counting the children of a node -/

/-- A handler that counts the children of what it is called for. -/
def counter : Handler where
  call values :=
    match values with
    | [.sequence id] => do return .number (← Work.look fun forest => (forest.items id).length)
    | [.node id] => do return .number (← Work.look fun forest => (forest.children id).length)
    | _ => return .number 1

/-- A handler that discards what it is called for. -/
def dropper : Handler where
  call _ := return .discard

/-- A transformer that counts the children of items and drops what is marked for it. -/
def countingTransformer (kind : TransformerKind) : Transformer where
  kind
  handlers := [("item", counter), ("drop", dropper)]

/-- What the two handlers answer. -/
def counting : Meaning where
  handles name := (assoc? [("item", counter), ("drop", dropper)] name).isSome
  ofTree name children := if name = "item" then .plain (.number children.length)
    else .plain .discard
  ofToken token := if token.kind = "item" then .plain (.number 1) else .plain .discard

theorem dropper_answers (seen : List Appearance) : dropper.Answers seen (.plain .discard) :=
  fun _ _ _ => .pure ⟨.plain rfl, fun _ reaches => absurd reaches (not_reaches_plain rfl)⟩

/-- A run that looks up a number brings this number. -/
theorem number_brings {read : Forest → Nat} {count : Nat} {inside : NodeId → Prop}
    (known : read before.forest = count) :
    Run.Brings (do return .number (← Work.look read)) before (.plain (.number count)) inside :=
  ⟨.number count, before, Run.yields_bind.mpr ⟨count, before,
    Run.yields_look.mpr ⟨known, rfl⟩, Run.yields_pure.mpr ⟨rfl, rfl⟩⟩,
    .refl _ _, .plain rfl, fun _ reaches => absurd reaches (not_reaches_plain rfl)⟩

theorem counter_answers (kind : TransformerKind) (label : String) (span : Span) (variant : Bool)
    (children : List Appearance) :
    counter.Answers (argumentsSeen kind none label span variant children)
      (.plain (.number children.length)) := by
  intro before values appear
  unfold argumentsSeen at appear
  split at appear
  next =>
    cases appear with
    | cons appears rest =>
        cases rest
        cases appears with
        | node found _ _ held below =>
            refine number_brings ?_
            have length := (allAppear_iff.mp below).length_eq
            simp [Forest.children, Forest.node, Forest.items, found, held, length]
  next =>
    cases appear with
    | cons appears rest =>
        cases rest
        cases appears with
        | sequence _ held below =>
            refine number_brings ?_
            have length := (allAppear_iff.mp below).length_eq
            simp [Forest.items, held, length]

theorem countingTransformer_computes (kind : TransformerKind) :
    (countingTransformer kind).Computes counting where
  fallback := rfl
  tokenFallback := rfl
  handles _ := rfl
  spanless {name handler} handles := by
    have member := mem_of_assoc? handles
    simp only [countingTransformer, List.mem_cons, List.not_mem_nil, or_false,
      Prod.mk.injEq] at member
    rcases member with ⟨-, rfl⟩ | ⟨-, rfl⟩ <;> rfl
  ofTree {name handler} handles span variant children := by
    have member := mem_of_assoc? handles
    simp only [countingTransformer, List.mem_cons, List.not_mem_nil, or_false,
      Prod.mk.injEq] at member
    rcases member with ⟨rfl, rfl⟩ | ⟨rfl, rfl⟩
    · exact counter_answers kind "item" span variant children
    · exact dropper_answers _
  ofToken {token handler} handles := by
    have member := mem_of_assoc? handles
    simp only [countingTransformer, List.mem_cons, List.not_mem_nil, or_false,
      Prod.mk.injEq] at member
    rcases member with ⟨same, rfl⟩ | ⟨same, rfl⟩
    · have answer : counting.ofToken token = .plain (.number 1) := if_pos same
      rw [answer]
      intro before values appear
      cases appear with
      | cons appears rest =>
          cases rest
          cases appears with
          | plain =>
              exact .pure ⟨.plain rfl, fun _ reaches => absurd reaches (not_reaches_plain rfl)⟩
    · have answer : counting.ofToken token = .plain .discard := if_neg (by simp [same])
      rw [answer]
      exact dropper_answers _

/-- A list with an item that has two tokens, and with a tree that is to be dropped. -/
def countedWorkspace : Workspace where
  forest := {
    nodes := #[⟨"item", ⟨0⟩, none, false⟩, ⟨"drop", ⟨1⟩, none, false⟩,
      ⟨"list", ⟨2⟩, none, false⟩]
    sequences := #[[.text "a", .text "b"], [], [.node ⟨0⟩, .node ⟨1⟩]] }

/-- How the item and the tree that is to be dropped look. -/
def countedItem : Appearance := .node "item" {} false [.plain (.text "a"), .plain (.text "b")]

theorem countedWorkspace_appears : countedWorkspace.forest.Appears [] (.node ⟨2⟩)
    (.node "list" {} false [countedItem, .node "drop" {} false []]) := by
  have item : countedWorkspace.forest.Appears [] (.node ⟨0⟩) countedItem :=
    .node rfl ⟨rfl, rfl, rfl⟩ List.not_mem_nil rfl
      (.cons (.plain rfl) (.cons (.plain rfl) .nil))
  have dropped : countedWorkspace.forest.Appears [] (.node ⟨1⟩) (.node "drop" {} false []) :=
    .node rfl ⟨rfl, rfl, rfl⟩ List.not_mem_nil rfl .nil
  exact .node rfl ⟨rfl, rfl, rfl⟩ List.not_mem_nil rfl (.cons item (.cons dropped .nil))

theorem countedWorkspace_unshared : countedWorkspace.forest.Unshared (.node ⟨2⟩) := by
  have item : countedWorkspace.forest.HasNode ⟨0⟩ "item" [.text "a", .text "b"] :=
    ⟨_, rfl, rfl, rfl⟩
  have dropped : countedWorkspace.forest.HasNode ⟨1⟩ "drop" [] := ⟨_, rfl, rfl, rfl⟩
  have list : countedWorkspace.forest.HasNode ⟨2⟩ "list" [.node ⟨0⟩, .node ⟨1⟩] :=
    ⟨_, rfl, rfl, rfl⟩
  have ofItem {target : NodeId} (reaches : countedWorkspace.forest.Reaches (.node ⟨0⟩) target) :
      target = ⟨0⟩ := eq_of_reaches_plain item (by decide) reaches
  have ofDropped {target : NodeId}
      (reaches : countedWorkspace.forest.Reaches (.node ⟨1⟩) target) : target = ⟨1⟩ :=
    eq_of_reaches_plain dropped (by decide) reaches
  refine .node list ?_ ?_ ?_
  · simp only [List.forall_mem_cons]
    exact ⟨fun reaches => absurd (ofItem reaches) (by decide),
      fun reaches => absurd (ofDropped reaches) (by decide), List.forall_mem_nil _⟩
  · refine List.pairwise_pair.mpr fun target first second => ?_
    cases ofItem first
    cases ofDropped second
  · simp only [List.forall_mem_cons]
    exact ⟨.of_plain item (by decide), .of_plain dropped (by decide), List.forall_mem_nil _⟩

/-- All three ways, the list keeps the number of what the item holds and nothing else. -/
theorem transform_in_place_counted :
    countedWorkspace.forest.Unshared (.node ⟨2⟩) ∧
      ComesTo ((countingTransformer .copying).transform (.node ⟨2⟩)) countedWorkspace
        (.node "list" {} false [.plain (.number 2)]) ∧
      ComesTo ((countingTransformer .inPlaceRecursive).transform (.node ⟨2⟩)) countedWorkspace
        (.node "list" {} false [.plain (.number 2)]) ∧
      ComesTo ((countingTransformer .inPlace).transform (.node ⟨2⟩)) countedWorkspace
        (.node "list" {} false [.plain (.number 2)]) :=
  ⟨countedWorkspace_unshared,
    (transform_in_place rfl rfl rfl (countingTransformer_computes .copying)
      (countingTransformer_computes .inPlaceRecursive) (countingTransformer_computes .inPlace)
      rfl rfl rfl countedWorkspace_appears countedWorkspace_unshared).1 (by nofun)⟩

/-- Where the root is dropped, going once through the nodes gives the sign for it and not
nothing. -/
theorem transform_in_place_dropped :
    (countingTransformer .copying).Computes counting ∧
      (countingTransformer .inPlace).Computes counting ∧
      countedWorkspace.forest.Unshared (.node ⟨1⟩) ∧
      ComesTo ((countingTransformer .copying).transform (.node ⟨1⟩)) countedWorkspace
        (.plain .nothing) ∧
      ¬ComesTo ((countingTransformer .inPlace).transform (.node ⟨1⟩)) countedWorkspace
        (.plain .nothing) := by
  have unshared : countedWorkspace.forest.Unshared (.node ⟨1⟩) :=
    countedWorkspace_unshared.of_below
      (.child (.root rfl) ⟨_, rfl, rfl, rfl⟩ (List.mem_cons_of_mem _ List.mem_cons_self))
  refine ⟨countingTransformer_computes _, countingTransformer_computes _, unshared,
    ⟨.nothing, _, rfl, .plain rfl⟩, ?_⟩
  rintro ⟨value, after, yields, appears⟩
  cases appears with
  | plain => cases yields

end Transformer

end Lalr
